import QueryDesk.Text.Case

/-!
# Lower case twice

What lower-casing makes of a character is in lower case: no run of the tables moves it, and it is no
capital sigma, so its place in a word does not matter. Main statements: a text in lower case is its
own lower case; and two texts behind each other, the first without a capital sigma, are lowered one
after the other.
-/

namespace QueryDesk.Text

namespace Case

/-! ### Runs -/

/-- Where the run moves its first letter; the others follow it. -/
def Run.target (r : Run) : Nat := (r.first + r.shift).toNat

def Run.lastTarget (r : Run) : Nat := r.target + (r.last - r.first)

/-- No letter that `r` moves goes where `q` moves letters: they lie apart, or between each other. -/
def Run.apart (r q : Run) : Bool :=
  Nat.blt r.lastTarget q.first || Nat.blt q.last r.target ||
    (q.step == 2 && (r.step == 2 || r.first == r.last) && (r.target + q.first) % 2 == 1)

/-- The letters go to characters that are no capital letters of ASCII, and that nothing moves. -/
def Run.settles (r : Run) : Bool :=
  decide (0 ≤ r.first + r.shift) && Nat.blt 0x5A r.target &&
    (Nat.blt r.lastTarget 0xD800 || (Nat.blt 0xDFFF r.target && Nat.blt r.lastTarget 0x110000)) &&
    (Nat.blt r.lastTarget 0x130 || Nat.blt 0x130 r.target) && lowerRuns.all r.apart

theorem lowerRuns_settle : ∀ r ∈ lowerRuns, r.settles = true := by
  have h : lowerRuns.all Run.settles = true := by decide +kernel
  exact List.all_eq_true.1 h

theorem Run.holds_iff {r : Run} {n : Nat} :
    r.holds n = true ↔ r.first ≤ n ∧ n ≤ r.last ∧ (n - r.first) % r.step = 0 := by
  simp [holds, and_assoc]

/-- A letter of a run is as far behind the first as its target is behind the first target. -/
theorem Run.moved_eq {r : Run} (h : 0 ≤ r.first + r.shift) {n : Nat} (hn : r.first ≤ n) :
    (n + r.shift).toNat = r.target + (n - r.first) := by
  rw [target]
  omega

theorem Run.not_holds_of_apart {r q : Run} (h : r.apart q = true) {n : Nat}
    (hn : r.holds n = true) : q.holds (r.target + (n - r.first)) = false := by
  obtain ⟨hfirst, hlast, hstep⟩ := holds_iff.1 hn
  rw [Bool.eq_false_iff, ne_eq, holds_iff]
  rintro ⟨hqfirst, hqlast, hqstep⟩
  simp only [apart, lastTarget, Bool.or_eq_true, Bool.and_eq_true, Nat.blt_eq, beq_iff_eq] at h
  rcases h with (h | h) | ⟨⟨hq, hr⟩, hparity⟩
  · omega
  · omega
  · have heven : (n - r.first) % 2 = 0 := by
      rcases hr with hr | hr
      · rw [← hr, hstep]
      · omega
    rw [hq] at hqstep
    omega

theorem settled_of_holds {r : Run} (hr : r ∈ lowerRuns) {n : Nat} (hn : r.holds n = true) :
    (n + r.shift).toNat.isValidChar ∧ 0x5A < (n + r.shift).toNat ∧ (n + r.shift).toNat ≠ 0x130 ∧
      ∀ q ∈ lowerRuns, q.holds (n + r.shift).toNat = false := by
  have h := lowerRuns_settle r hr
  obtain ⟨hfirst, hlast, -⟩ := Run.holds_iff.1 hn
  simp only [Run.settles, Run.lastTarget, Bool.and_eq_true, Bool.or_eq_true, decide_eq_true_eq,
    Nat.blt_eq] at h
  obtain ⟨⟨⟨⟨hpositive, hascii⟩, hvalid⟩, hdotted⟩, hapart⟩ := h
  rw [Run.moved_eq hpositive hfirst]
  refine ⟨?_, by omega, by omega, fun q hq => ?_⟩
  · rcases hvalid with hvalid | hvalid
    · exact .inl (by omega)
    · exact .inr ⟨by omega, by omega⟩
  · exact Run.not_holds_of_apart (List.all_eq_true.1 hapart q hq) hn

theorem move_of_not_holds {runs : List Run} {n : Nat} (h : ∀ q ∈ runs, q.holds n = false) :
    move runs n = n := by
  have hnone : runs.find? (·.holds n) = none := by
    rw [List.find?_eq_none]
    intro q hq
    rw [h q hq]
    exact Bool.false_ne_true
  rw [move, hnone]

theorem ne_sigma_of_not_holds {n : Nat} (h : ∀ q ∈ lowerRuns, q.holds n = false) : n ≠ 0x3A3 := by
  rintro rfl
  have hany : lowerRuns.any (·.holds 0x3A3) = true := by decide +kernel
  obtain ⟨q, hq, hholds⟩ := List.any_eq_true.1 hany
  rw [h q hq] at hholds
  cases hholds

end Case

/-! ### Characters -/

open Case

/-- The character is its own lower case wherever it stands. -/
structure IsLow (c : Char) : Prop where
  ne_sigma : c.toNat ≠ 0x3A3
  same : lowerChar c = [c]

theorem isLow_ascii {c : Char} (h : c.toNat < 0x80) : IsLow c.toLower := by
  have hall : ∀ n < 0x80, (Char.ofNat n).toLower.toNat ≠ 0x3A3 ∧
      lowerChar (Char.ofNat n).toLower = [(Char.ofNat n).toLower] := by decide +kernel
  obtain ⟨hsigma, hsame⟩ := hall c.toNat h
  rw [Char.ofNat_toNat] at hsigma hsame
  exact ⟨hsigma, hsame⟩

theorem isLow_of_not_holds {c : Char} (h : 0x5A < c.toNat) (hdotted : c.toNat ≠ 0x130)
    (hruns : ∀ q ∈ lowerRuns, q.holds c.toNat = false) : IsLow c where
  ne_sigma := ne_sigma_of_not_holds hruns
  same := by
    rw [lowerChar]
    split
    · have hcapital : ¬(c.val ≥ 'A'.val ∧ c.val ≤ 'Z'.val) := by
        rintro ⟨-, hle⟩
        have hz : c.toNat ≤ 0x5A := hle
        omega
      exact congrArg ([·]) (dif_neg hcapital)
    · rw [if_neg (by simpa using hdotted), move_of_not_holds hruns, Char.ofNat_toNat]

/-- The two characters of a dotted capital i, and the two small letters of the sigma. -/
theorem isLow_letters :
    IsLow 'i' ∧ IsLow (Char.ofNat 0x307) ∧ IsLow 'σ' ∧ IsLow 'ς' := by
  refine ⟨⟨?_, ?_⟩, ⟨?_, ?_⟩, ⟨?_, ?_⟩, ⟨?_, ?_⟩⟩ <;> decide +kernel

theorem isLow_of_mem_lowerChar {c d : Char} (h : d ∈ lowerChar c) : IsLow d := by
  rw [lowerChar] at h
  split at h
  · rw [List.mem_singleton.1 h]
    exact isLow_ascii ‹_›
  · split at h
    · simp only [List.mem_cons, List.not_mem_nil, or_false] at h
      rcases h with rfl | rfl
      · exact isLow_letters.1
      · exact isLow_letters.2.1
    · have hc : ¬c.toNat < 0x80 := ‹_›
      have hdotted : c.toNat ≠ 0x130 := by simpa using ‹¬(c.toNat == 0x130) = true›
      rw [List.mem_singleton.1 h, move]
      cases hfind : lowerRuns.find? (·.holds c.toNat) with
      | none =>
        have hruns : ∀ q ∈ lowerRuns, q.holds c.toNat = false := fun q hq => by
          simpa using List.find?_eq_none.1 hfind q hq
        rw [Char.ofNat_toNat]
        exact isLow_of_not_holds (by omega) hdotted hruns
      | some r =>
        have hr := List.mem_of_find?_eq_some hfind
        have hn : r.holds c.toNat = true := by simpa using List.find?_some hfind
        obtain ⟨hvalid, hascii, hne, hruns⟩ := settled_of_holds hr hn
        have hself : (Char.ofNat (c.toNat + r.shift).toNat).toNat = (c.toNat + r.shift).toNat := by
          rw [Char.ofNat, dif_pos hvalid]
          rfl
        apply isLow_of_not_holds
        · rwa [hself]
        · rwa [hself]
        · rwa [hself]

/-! ### Texts -/

theorem isLow_of_mem_lowerFrom (before cs : List Char) : ∀ d ∈ lowerFrom before cs, IsLow d := by
  induction cs generalizing before with
  | nil => simp [lowerFrom]
  | cons c cs ih =>
    intro d hd
    rw [lowerFrom] at hd
    split at hd
    · rcases List.mem_cons.1 hd with rfl | hd
      · split
        · exact isLow_letters.2.2.2
        · exact isLow_letters.2.2.1
      · exact ih _ d hd
    · rcases List.mem_append.1 hd with hd | hd
      · exact isLow_of_mem_lowerChar hd
      · exact ih _ d hd

theorem lowerFrom_of_isLow (before : List Char) {cs : List Char} (h : ∀ c ∈ cs, IsLow c) :
    lowerFrom before cs = cs := by
  induction cs generalizing before with
  | nil => rfl
  | cons c cs ih =>
    have hc := h c List.mem_cons_self
    rw [lowerFrom, if_neg (by simpa using hc.ne_sigma), hc.same,
      ih _ fun d hd => h d (List.mem_cons_of_mem c hd)]
    rfl

/-- A list of characters is its own lower case exactly if all of them are, wherever it stands. -/
theorem lowerFrom_eq_self_iff (before cs : List Char) :
    lowerFrom before cs = cs ↔ ∀ c ∈ cs, IsLow c :=
  ⟨fun h c hc => isLow_of_mem_lowerFrom before cs c (h.symm ▸ hc), lowerFrom_of_isLow before⟩

theorem lowercase_eq_self_iff {s : String} : lowercase s = s ↔ ∀ c ∈ s.toList, IsLow c := by
  rw [← lowerFrom_eq_self_iff [], ← String.toList_inj, lowercase, String.toList_ofList]

theorem mem_lowerFrom {d : Char} (hd : IsLow d) (before : List Char) {cs : List Char}
    (h : d ∈ cs) : d ∈ lowerFrom before cs := by
  induction cs generalizing before with
  | nil => cases h
  | cons c cs ih =>
    rw [lowerFrom]
    rcases List.mem_cons.1 h with rfl | h
    · rw [if_neg (by simpa using hd.ne_sigma), hd.same]
      exact List.mem_cons_self
    · split
      · exact List.mem_cons_of_mem _ (ih _ h)
      · exact List.mem_append_right _ (ih _ h)

theorem lowerFrom_append {a : List Char} (h : 'Σ' ∉ a) (before b : List Char) :
    lowerFrom before (a ++ b) = lowerFrom before a ++ lowerFrom (a.reverse ++ before) b := by
  induction a generalizing before with
  | nil => rfl
  | cons c a ih =>
    obtain ⟨hne, hrest⟩ := List.ne_and_not_mem_of_not_mem_cons h
    have hsigma : ¬(c.toNat == 0x3A3) = true := fun heq =>
      hne (Char.toNat_inj.1 (show 'Σ'.toNat = c.toNat from (beq_iff_eq.1 heq).symm))
    rw [List.cons_append, lowerFrom, lowerFrom, if_neg hsigma, if_neg hsigma, ih hrest,
      List.append_assoc, List.reverse_cons, List.append_assoc]
    rfl

theorem lowercase_lowercase (s : String) : lowercase (lowercase s) = lowercase s := by
  rw [lowercase, lowercase, String.toList_ofList,
    lowerFrom_of_isLow [] (isLow_of_mem_lowerFrom [] s.toList)]

end QueryDesk.Text
