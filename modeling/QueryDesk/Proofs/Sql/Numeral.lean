import QueryDesk.Proofs.Sql.Lexeme

/-!
# Numbers as the server reads them

A number is read part by part: its digits, its point, the digits behind it and its exponent. What is
kept on the way is that the word that ends there is numeric, so that the server does not take it for
the letter in front of a quoted text.
-/

namespace QueryDesk.Sql.Server

section

variable {d : Dialect} {b r u s rest p : List Char} {c : Char} {t : Token}

/-- No word ends here, or one that is numeric. -/
def Counted (d : Dialect) (behind : List Char) : Prop :=
  wordBehind d behind = [] ∨ numeric d behind = true

/-- The server reads over a part of a number. -/
structure Counts (d : Dialect) (behind u : List Char) : Prop where
  after : after d (.outside behind) u = .outside (u.reverse ++ behind)
  marks : marks d (.outside behind) u = []
  counted : Counted d (u.reverse ++ behind)

theorem Counts.nil (h : Counted d b) : Counts d b [] := ⟨rfl, rfl, h⟩

theorem Counts.append (hu : Counts d b u) (hp : Counts d (u.reverse ++ b) p) :
    Counts d b (u ++ p) where
  after := by rw [after_append, hu.after, hp.after, List.reverse_append, List.append_assoc]
  marks := by rw [marks_append, hu.after, hu.marks, hp.marks, List.append_nil]
  counted := by rw [List.reverse_append, List.append_assoc]; exact hp.counted

/-- Letters and digits in a number: they go on with a word, or begin one with a digit or behind the
point. -/
theorem counts_name (h : Counted d b) (hu : ∀ c ∈ u, insideName d c = true)
    (hfirst : ∀ c v, u = c :: v → wordBehind d b = [] →
      c.isDigit = true ∨ c ≠ '$' ∧ b.head? = some '.') : Counts d b u := by
  have hr : ∀ c ∈ u.reverse, insideName d c = true := fun c hc => hu c (List.mem_reverse.1 hc)
  have hcounted : Counted d (u.reverse ++ b) := by
    rcases h with h | h
    · rcases u with - | ⟨c, v⟩
      · exact .inl h
      · have hb : b.dropWhile (insideName d) = b := by
          have htake := List.reverse_eq_nil_iff.1 h
          have hall := List.takeWhile_append_dropWhile (p := insideName d) (l := b)
          rwa [htake, List.nil_append] at hall
        refine .inr (numeric_iff.2 ⟨c, v, ?_, ?_⟩)
        · rw [wordBehind_append hu, h, List.nil_append]
        · rw [List.dropWhile_append_of_pos hr, hb]
          exact hfirst c v rfl h
    · exact .inr (numeric_append hu h)
  have hhead : d = .postgres → (wordBehind d b ++ u).head? ≠ some '$' := by
    intro _ he
    rcases hcounted with hnil | hnum
    · rw [wordBehind_append hu] at hnil
      rw [hnil] at he
      cases he
    · have hnot := numeric_head hnum
      rw [wordBehind_append hu] at hnot
      exact hnot he
  have hname := after_name hu hhead
  exact ⟨hname.1, hname.2, hcounted⟩

theorem counts_point : Counts d b ['.'] where
  after := by cases d <;> rfl
  marks := by cases d <;> rfl
  counted := .inl (wordBehind_cons_of_not (by cases d <;> rfl))

/-- The sign of an exponent, which is no dash behind a dash. -/
theorem counts_sign {c : Char} (hc : c = '+' ∨ c = '-') (hb : b.head? ≠ some '-') :
    Counts d b [c] where
  after := by
    rcases hc with rfl | rfl
    · cases d <;> rfl
    · cases d with
      | mysql => rfl
      | postgres => simp [next, nextOutside, push, separates, isMark, hb]
  marks := by rcases hc with rfl | rfl <;> cases d <;> rfl
  counted := by
    rcases hc with rfl | rfl <;> exact .inl (wordBehind_cons_of_not (by cases d <;> rfl))

/-- A number ends here so far: with a numeric word, or with its point. -/
def InNumber (d : Dialect) (behind : List Char) : Prop :=
  numeric d behind = true ∨ behind.head? = some '.' ∧ wordBehind d behind = []

theorem Counts.inNumber (h : Counts d b u) (hne : u ≠ []) (hu : ∀ c ∈ u, insideName d c = true) :
    InNumber d (u.reverse ++ b) := by
  rcases h.counted with hnil | hnum
  · rw [wordBehind_append hu] at hnil
    exact absurd (List.append_eq_nil_iff.1 hnil).2 hne
  · exact .inl hnum

theorem InNumber.counted (h : InNumber d b) : Counted d b := by
  rcases h with h | h
  · exact .inr h
  · exact .inl h.2

theorem InNumber.head (h : InNumber d b) : b.head? ≠ some '/' ∧ b.head? ≠ some '-' := by
  rcases h with h | h
  · obtain ⟨c, w, hw, -⟩ := numeric_iff.1 h
    rcases b with - | ⟨x, b⟩
    · cases hw
    · have hx : insideName d x = true := by
        by_contra hcon
        rw [wordBehind_cons_of_not (by simpa using hcon)] at hw
        cases hw
      have hother := (letter hx).other
      simp only [List.mem_cons, not_or] at hother
      simp [hother]
  · rw [h.1]
    simp

theorem InNumber.rests (h : InNumber d b) (rest : List Char) : Rests d b rest := by
  refine .of_head h.head (fun _ _ _ _ => h.counted) fun _ _ hword => ?_
  rcases h with h | h
  · exact h
  · rw [h.2] at hword
    rcases hword with hword | hword <;> cases hword

theorem reads_number (h : Counts d b u) (hne : u ≠ []) (hend : InNumber d (u.reverse ++ b)) :
    Reads d b (u ++ r) t r := by
  refine ⟨u, hne, rfl, fun _ => ?_⟩
  rw [h.after, h.marks]
  exact ⟨.outside (hend.rests r), fun _ => rfl⟩

theorem digitRun_eq (separators : Bool) (isDigit : Char → Bool) (cs : List Char) :
    cs = (digitRun separators isDigit cs).1 ++ (digitRun separators isDigit cs).2 ∧
      ∀ c ∈ (digitRun separators isDigit cs).1, isDigit c = true ∨ c = '_' := by
  induction cs with
  | nil => exact ⟨rfl, by simp [digitRun]⟩
  | cons c cs ih =>
    rw [digitRun]
    split
    · next hc =>
      refine ⟨by rw [List.cons_append, ← ih.1], ?_⟩
      intro x hx
      rcases List.mem_cons.1 hx with rfl | hx
      · simp only [Bool.or_eq_true, Bool.and_eq_true, beq_iff_eq] at hc
        exact hc.imp_right fun hc => hc.1.1
      · exact ih.2 x hx
    · exact ⟨rfl, by simp⟩

theorem pointRun_eq (cs : List Char) : cs = (pointRun cs).1 ++ (pointRun cs).2 ∧
    ((pointRun cs).1 = [] ∨ (pointRun cs).1 = ['.']) := by
  unfold pointRun
  split
  · exact ⟨rfl, .inr rfl⟩
  · exact ⟨rfl, .inl rfl⟩

theorem signRun_eq (cs : List Char) : cs = (signRun cs).1 ++ (signRun cs).2 ∧
    ((signRun cs).1 = [] ∨ (signRun cs).1 = ['+'] ∨ (signRun cs).1 = ['-']) := by
  unfold signRun
  split
  · exact ⟨rfl, .inr (.inl rfl)⟩
  · exact ⟨rfl, .inr (.inr rfl)⟩
  · exact ⟨rfl, .inl rfl⟩

theorem exponentRun_eq (cs : List Char) : cs = (exponentRun cs).1 ++ (exponentRun cs).2 ∧
    ((exponentRun cs).1 = [] ∨ ∃ e sign ds, (exponentRun cs).1 = e :: (sign ++ ds) ∧
      (e = 'e' ∨ e = 'E') ∧ (sign = [] ∨ sign = ['+'] ∨ sign = ['-']) ∧ ds ≠ [] ∧
      ∀ c ∈ ds, c.isDigit = true) := by
  rcases cs with - | ⟨e, r⟩
  · exact ⟨rfl, .inl rfl⟩
  · obtain ⟨hr, hsign⟩ := signRun_eq r
    simp only [exponentRun]
    by_cases he : (e == 'e' || e == 'E') = true
    · rw [if_pos he]
      by_cases hds : ((signRun r).2.takeWhile Char.isDigit).isEmpty = true
      · rw [if_pos hds]
        exact ⟨rfl, .inl rfl⟩
      · rw [if_neg hds]
        refine ⟨?_, .inr ⟨e, _, _, rfl, by simpa using he, hsign, by simpa using hds,
          fun c hc => List.mem_takeWhile_imp hc⟩⟩
        dsimp only
        rw [List.cons_append, List.append_assoc, List.takeWhile_append_dropWhile, ← hr]
    · rw [if_neg he]
      exact ⟨rfl, .inl rfl⟩

theorem insideName_of_isDigit {c : Char} (h : c.isDigit = true) : insideName d c = true := by
  simp [insideName, h]

/-- A digit, or an underscore among digits, goes on with a word. -/
theorem name_of_digit {c : Char} (h : c.isDigit = true ∨ c = '_') :
    insideName d c = true ∧ c ≠ '$' := by
  rcases h with h | rfl
  · refine ⟨insideName_of_isDigit h, ?_⟩
    rintro rfl
    cases h
  · cases d <;> decide

theorem insideName_of_isHexDigit {c : Char} (h : isHexDigit c = true) : insideName d c = true := by
  have hsmall : c.toNat < 128 := by
    simp only [isHexDigit, Char.isDigit, Char.le_def, Bool.or_eq_true, Bool.and_eq_true,
      decide_eq_true_eq, UInt32.le_iff_toNat_le, ge_iff_le] at h
    have h9 : '9'.val.toNat = 57 := rfl
    have hf : 'f'.val.toNat = 102 := rfl
    have hF : 'F'.val.toNat = 70 := rfl
    have hc : c.toNat = c.val.toNat := rfl
    omega
  have hall : ∀ n, n < 128 → isHexDigit (.ofNat n) = true → insideName d (.ofNat n) = true := by
    cases d <;> decide +kernel
  exact of_ascii (P := fun c => isHexDigit c = true → insideName d c = true) hall hsmall h

/-- Letters and digits go on with a number, also behind its point. -/
theorem InNumber.name (h : InNumber d b) (hu : ∀ c ∈ u, insideName d c = true ∧ c ≠ '$') :
    Counts d b u ∧ InNumber d (u.reverse ++ b) := by
  have hnames : ∀ c ∈ u, insideName d c = true := fun c hc => (hu c hc).1
  have hcounts : Counts d b u := counts_name h.counted hnames fun c v he hnil => by
    rcases h with h | h
    · obtain ⟨y, w, hw, -⟩ := numeric_iff.1 h
      rw [hw] at hnil
      cases hnil
    · exact .inr ⟨(hu c (by rw [he]; exact List.mem_cons_self)).2, h.1⟩
  refine ⟨hcounts, ?_⟩
  by_cases hne : u = []
  · rw [hne]
    exact h
  · exact hcounts.inNumber hne hnames

theorem counts_exponent (cs : List Char) (h : InNumber d b) :
    Counts d b (exponentRun cs).1 ∧ InNumber d ((exponentRun cs).1.reverse ++ b) := by
  rcases (exponentRun_eq cs).2 with hnil | ⟨e, sign, ds, heq, he, hsign, hne, hds⟩
  · rw [hnil]
    exact ⟨.nil h.counted, h⟩
  · have hname : insideName d e = true ∧ e ≠ '$' ∧ e ≠ '-' := by
      rcases he with rfl | rfl <;> cases d <;> decide
    have hletter := (h.name (u := [e]) (by simpa using ⟨hname.1, hname.2.1⟩)).1
    have hsigned : Counts d (e :: b) sign := by
      rcases hsign with rfl | rfl | rfl
      · exact .nil hletter.counted
      · exact counts_sign (.inl rfl) (by simp [hname])
      · exact counts_sign (.inr rfl) (by simp [hname])
    have hnames : ∀ c ∈ ds, insideName d c = true := fun c hc => insideName_of_isDigit (hds c hc)
    have hdigits := counts_name hsigned.counted hnames fun c v hc _ =>
      .inl (hds c (by rw [hc]; exact List.mem_cons_self))
    have hall := hletter.append (hsigned.append hdigits)
    rw [heq]
    refine ⟨hall, ?_⟩
    have hend := hdigits.inNumber hne hnames
    simpa using hend

theorem reads_numberEnd {before : Option Token} (h : Counts d b u) (hne : u ≠ [])
    (hend : InNumber d (u.reverse ++ b)) (ht : numberEnd d before u r = some (t, rest)) :
    Reads d b (u ++ r) t rest := by
  obtain ⟨hexponent, hend⟩ := counts_exponent r hend
  have hall := h.append hexponent
  have hne' : u ++ (exponentRun r).1 ≠ [] := by simp [hne]
  rw [← List.append_assoc, ← List.reverse_append] at hend
  have hsplit : u ++ r = u ++ (exponentRun r).1 ++ (exponentRun r).2 := by
    rw [List.append_assoc, ← (exponentRun_eq r).1]
  rw [hsplit]
  simp only [numberEnd] at ht
  generalize u ++ (exponentRun r).1 = v at *
  generalize (exponentRun r).2 = r' at *
  generalize htail : (if (d == .mysql && !r.head?.any fun c => c == 'e' || c == 'E') = true then
    r'.takeWhile (insideName d) else []) = tail at ht
  rcases tail with - | ⟨x, tail⟩
  · split at ht
    · next hempty => cases hempty
    · split at ht
      · cases ht
        exact reads_number hall hne' hend
      · split at ht
        · next r₂ =>
          rw [Option.some.injEq, Prod.mk.injEq] at ht
          obtain ⟨-, rfl⟩ := ht
          have hl : insideName d 'L' = true := by cases d <;> rfl
          obtain ⟨hlong, hend⟩ := hend.name (u := ['L']) (by simpa using hl)
          have hread := reads_number (r := r₂) (t := t) (hall.append hlong) (by simp)
            (by rwa [List.reverse_append, List.append_assoc])
          rwa [List.append_assoc] at hread
        · cases ht
          exact reads_number hall hne' hend
  · -- In MySQL letters follow, and the whole is a word.
    obtain ⟨hd, htake⟩ : d = .mysql ∧ r'.takeWhile (insideName d) = x :: tail := by
      by_cases hd : (d == .mysql && !r.head?.any fun c => c == 'e' || c == 'E') = true
      · rw [if_pos hd] at htail
        simp only [Bool.and_eq_true, beq_iff_eq] at hd
        exact ⟨hd.1, htail⟩
      · rw [if_neg hd] at htail
        cases htail
    have hrest : rest = r'.dropWhile (insideName d) := by
      cases ht
      rfl
    have hword := reads_word (t := t) (u := r'.takeWhile (insideName d))
      (hend.rests (r'.takeWhile (insideName d) ++ r'.dropWhile (insideName d)))
      (by rw [htake]; simp) (fun c hc => List.mem_takeWhile_imp hc)
      (fun he => by rw [hd] at he; cases he) (not_insideName_dropWhile r')
      (fun he => by rw [hd] at he; cases he)
    rw [List.takeWhile_append_dropWhile, ← hrest] at hword
    exact hword.behind ⟨hall.after, hall.marks⟩

theorem inNumber_point : InNumber d ('.' :: b) :=
  .inr ⟨rfl, wordBehind_cons_of_not (by cases d <;> rfl)⟩

/-- The whole part of a number, its point and what stands behind it, or the whole part alone. -/
theorem counts_digits (hu : ∀ c ∈ u, c.isDigit = true ∨ c = '_') (hne : u ≠ [])
    (hfirst : ∀ c v, u = c :: v → c.isDigit = true) (h : Counted d b) (hp : p = [] ∨ p = ['.'])
    (hs : ∀ c ∈ s, c.isDigit = true ∨ c = '_') :
    Counts d b (u ++ p ++ s) ∧ InNumber d ((u ++ p ++ s).reverse ++ b) := by
  have hnames : ∀ c ∈ u, insideName d c = true := fun c hc => (name_of_digit (hu c hc)).1
  have hwhole := counts_name h hnames fun c v he _ => .inl (hfirst c v he)
  have hend := hwhole.inNumber hne hnames
  have hpoint : Counts d b (u ++ p) ∧ InNumber d ((u ++ p).reverse ++ b) := by
    rcases hp with rfl | rfl
    · rw [List.append_nil]
      exact ⟨hwhole, hend⟩
    · refine ⟨hwhole.append counts_point, ?_⟩
      rw [List.reverse_append, List.append_assoc]
      exact inNumber_point
  obtain ⟨hpart, hend⟩ := hpoint.2.name fun c hc => name_of_digit (hs c hc)
  refine ⟨hpoint.1.append hpart, ?_⟩
  rw [List.reverse_append, List.append_assoc]
  exact hend

theorem reads_point (h : Rests d b ('.' :: r)) : Reads d b ('.' :: r) t r :=
  reads_plain h (by cases d <;> rfl) (by cases d <;> rfl) (fun _ => by decide)
    (.of_ne (by decide))

/-- A number in base sixteen is one word, its two first letters included. -/
theorem reads_hexNumber (h : Counted d b) :
    Reads d b ('0' :: 'x' :: r) t (digitRun (d == .postgres) isHexDigit r).2 := by
  obtain ⟨hsplit, hds⟩ := digitRun_eq (d == .postgres) isHexDigit r
  generalize (digitRun (d == .postgres) isHexDigit r).1 = ds at *
  generalize (digitRun (d == .postgres) isHexDigit r).2 = rest at *
  have hfirst : insideName d '0' = true ∧ insideName d 'x' = true := by
    cases d <;> exact ⟨rfl, rfl⟩
  have hnames : ∀ x ∈ '0' :: 'x' :: ds, insideName d x = true := by
    refine List.forall_mem_cons.2 ⟨hfirst.1, List.forall_mem_cons.2 ⟨hfirst.2, fun x hx => ?_⟩⟩
    rcases hds x hx with hx | rfl
    · exact insideName_of_isHexDigit hx
    · cases d <;> rfl
  have hcounts := counts_name h hnames fun x v he _ => by
    obtain ⟨rfl, -⟩ := List.cons.inj he
    exact .inl rfl
  rw [hsplit]
  exact reads_number hcounts (by simp) (hcounts.inNumber (by simp) hnames)

theorem reads_fraction {before : Option Token} (hr : r = s ++ p)
    (hs : ∀ c ∈ s, c.isDigit = true ∨ c = '_')
    (ht : numberEnd d before ('.' :: s) p = some (t, rest)) : Reads d b ('.' :: r) t rest := by
  obtain ⟨hdigits, hend⟩ :=
    (inNumber_point (d := d) (b := b)).name fun c hc => name_of_digit (hs c hc)
  rw [hr]
  exact reads_numberEnd (counts_point.append hdigits) (by simp)
    (by rw [List.reverse_append, List.append_assoc]; exact hend) ht

/-- A number that begins with a digit, up to the digits behind its point. -/
theorem reads_decimal {before : Option Token} (h : Counted d b)
    (hu : ∀ x ∈ c :: u, x.isDigit = true ∨ x = '_') (hc : c.isDigit = true)
    (ht : numberEnd d before
      (c :: u ++ (pointRun r).1 ++ (digitRun (d == .postgres) Char.isDigit (pointRun r).2).1)
      (digitRun (d == .postgres) Char.isDigit (pointRun r).2).2 = some (t, rest)) :
    Reads d b (c :: u ++ r) t rest := by
  obtain ⟨hpoint, hp⟩ := pointRun_eq r
  obtain ⟨hpart, hs⟩ := digitRun_eq (d == .postgres) Char.isDigit (pointRun r).2
  generalize (digitRun (d == .postgres) Char.isDigit (pointRun r).2).1 = part at *
  generalize (digitRun (d == .postgres) Char.isDigit (pointRun r).2).2 = behind at *
  obtain ⟨hcounts, hend⟩ := counts_digits hu (by simp)
    (fun x v he => by obtain ⟨rfl, -⟩ := List.cons.inj he; exact hc) h hp hs
  have hsplit : c :: u ++ r = c :: u ++ (pointRun r).1 ++ part ++ behind := by
    rw [List.append_assoc (c :: u ++ _), ← hpart, List.append_assoc, ← hpoint]
  rw [hsplit]
  exact reads_numberEnd hcounts (by simp) hend ht

theorem reads_numberToken {before : Option Token} (h : Rests d b (c :: r))
    (hc : c.isDigit = true ∨ c = '.') (ht : numberToken d before (c :: r) = some (t, rest)) :
    Reads d b (c :: r) t rest := by
  obtain ⟨hwhole, hdigits⟩ := digitRun_eq (d == .postgres) Char.isDigit (c :: r)
  have hstart : c.isDigit = true →
      ∃ v, (digitRun (d == .postgres) Char.isDigit (c :: r)).1 = c :: v := by
    intro hdigit
    simp [digitRun, hdigit]
  have hcounted : c.isDigit = true → Counted d b := fun hdigit =>
    h.word c r rfl (insideName_of_isDigit hdigit)
  rw [numberToken.eq_def] at ht
  split at ht
  · next tail heq =>
    obtain ⟨rfl, rfl⟩ := List.cons.inj heq
    split at ht
    · cases ht
      exact reads_point h
    · cases ht
  · dsimp only at ht
    generalize (digitRun (d == .postgres) Char.isDigit (c :: r)).1 = whole at *
    generalize (digitRun (d == .postgres) Char.isDigit (c :: r)).2 = r₁ at *
    split at ht
    · cases ht
      obtain ⟨rfl, rfl⟩ := List.cons.inj hwhole
      exact reads_hexNumber (hcounted rfl)
    · -- what stands in front of the point tells a fraction from a number that begins with a digit
      rcases whole with - | ⟨x, whole⟩
      · obtain rfl : c = '.' := hc.resolve_left fun hdigit => by
          obtain ⟨v, hv⟩ := hstart hdigit
          cases hv
        obtain rfl : '.' :: r = r₁ := hwhole
        obtain ⟨hsplit, hds⟩ := digitRun_eq (d == .postgres) Char.isDigit r
        simp only [pointRun] at ht
        generalize (digitRun (d == .postgres) Char.isDigit r).1 = part at *
        split at ht
        · cases ht
          exact reads_point h
        · split at ht
          · next hs =>
            cases ht
            obtain rfl : part = [] := by simpa using hs
            rw [List.nil_append] at hsplit
            rw [← hsplit]
            exact reads_point h
          · exact reads_fraction hsplit hds ht
      · obtain ⟨rfl, rfl⟩ := List.cons.inj hwhole
        have hdigit : c.isDigit = true := by
          rcases hc with hc | rfl
          · exact hc
          · rcases hdigits '.' List.mem_cons_self with h | h <;> cases h
        split at ht
        · next hempty => simp at hempty
        · split at ht
          · next hs =>
            obtain ⟨rfl, -⟩ : c = '.' ∧ _ := by simpa using hs
            cases hdigit
          · exact reads_decimal (hcounted hdigit) hdigits hdigit ht

end

end QueryDesk.Sql.Server
