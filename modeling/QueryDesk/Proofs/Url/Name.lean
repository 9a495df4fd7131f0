import QueryDesk.Proofs.Number.Digits
import QueryDesk.Proofs.Text.Utf8
import QueryDesk.Url.Host

/-!
# Names within the text of a host

A host is often written in more ways than one: in capitals, percent-encoded, in letters outside ASCII,
as any spelling of an address. But a host whose text holds a name of small letters and dots, and that
is read as that name, has no other character in its text. Reading may make a text longer, never shorter,
as far as it is ASCII, and what is not ASCII is written with a hyphen or fills a place of its own.

Main statements: `read_around`, `readPlain_around`.
-/

namespace QueryDesk

/-! ### Bytes -/

namespace Text

theorem continued_eq {n low high value x : Nat} {rest rest' : List Nat} (hlow : 0x80 ≤ low)
    (h : continued n low high value rest = (some x, rest')) :
    ∃ mid, rest = mid ++ rest' ∧ mid.length = n ∧ ∀ b ∈ mid, 0x80 ≤ b := by
  induction n generalizing low high value rest with
  | zero =>
    rw [continued, Prod.mk.injEq] at h
    exact ⟨[], by rw [h.2, List.nil_append], rfl, by simp⟩
  | succ n ih =>
    cases rest with
    | nil => simp [continued] at h
    | cons b rest =>
      rw [continued] at h
      split at h
      next hb =>
        obtain ⟨mid, rfl, hlength, hmid⟩ := ih (Nat.le_refl 0x80) h
        exact ⟨b :: mid, rfl, by rw [List.length_cons, hlength],
          List.forall_mem_cons.2 ⟨Nat.le_trans hlow hb.1, hmid⟩⟩
      next => simp at h

theorem lead?_bounds {b : Nat} {l : Lead} (h : lead? b = some l) :
    0x80 ≤ l.low ∧ (b < 0x80 → l.following = 0) := by
  unfold lead? at h
  repeat' split at h
  all_goals cases h
  all_goals
    dsimp only
    omega

theorem decodeParts_cons {fuel b : Nat} {rest : List Nat} {cs : List Char}
    (h : (decodeParts (fuel + 1) (b :: rest)).mapM id = some cs) :
    ∃ c cs' mid rest', cs = c :: cs' ∧ rest = mid ++ rest' ∧ (∀ x ∈ mid, 0x80 ≤ x) ∧
      (b < 0x80 → mid = []) ∧ (decodeParts fuel rest').mapM id = some cs' := by
  rw [decodeParts] at h
  cases hl : lead? b with
  | none => simp [hl] at h
  | some l =>
    obtain ⟨hlow, hone⟩ := lead?_bounds hl
    rcases hc : continued l.following l.low l.high l.bits rest with ⟨value, rest'⟩
    simp only [hl, hc] at h
    cases value with
    | none => simp at h
    | some x =>
      obtain ⟨cs', hcs', rfl⟩ : ∃ cs', (decodeParts fuel rest').mapM id = some cs' ∧
          Char.ofNat x :: cs' = cs := by simpa [Option.bind_eq_some_iff] using h
      obtain ⟨mid, hrest, hlength, hmid⟩ := continued_eq hlow hc
      exact ⟨_, cs', mid, rest', rfl, hrest, hmid,
        fun hb => List.eq_nil_of_length_eq_zero (hlength.trans (hone hb)), hcs'⟩

/-- Each byte of ASCII is a character, and other bytes fill characters of their own. -/
theorem countP_le_of_decodeParts {fuel : Nat} {bs : List Nat} {cs : List Char}
    (hfuel : bs.length ≤ fuel) (h : (decodeParts fuel bs).mapM id = some cs) :
    bs.countP (· < 0x80) ≤ cs.length ∧
      (bs.countP (· < 0x80) = cs.length → ∀ b ∈ bs, b < 0x80) := by
  induction fuel generalizing bs cs with
  | zero =>
    rw [List.eq_nil_of_length_eq_zero (Nat.le_zero.1 hfuel)]
    simp
  | succ fuel ih =>
    cases bs with
    | nil => simp
    | cons b rest =>
      obtain ⟨c, cs', mid, rest', rfl, rfl, hmid, hone, hcs'⟩ := decodeParts_cons h
      rw [List.length_cons, List.length_append] at hfuel
      obtain ⟨hle, hall⟩ := ih (by omega) hcs'
      have hnone : mid.countP (· < 0x80) = 0 :=
        List.countP_eq_zero.2 fun x hx => by simpa using hmid x hx
      rw [List.countP_cons, List.countP_append, hnone, List.length_cons]
      by_cases hb : b < 0x80
      · rw [hone hb, if_pos (by simpa using hb)]
        exact ⟨by omega, fun heq => List.forall_mem_cons.2 ⟨hb, hall (by omega)⟩⟩
      · rw [if_neg (by simpa using hb)]
        exact ⟨by omega, fun heq => by omega⟩

/-! ### Percent encoding -/

theorem percentDecode_of_ne {c : Char} (h : c ≠ '%') (r : List Char) :
    percentDecode (c :: r) = utf8 c ++ percentDecode r := by
  rw [percentDecode]
  rintro a b r' rfl -
  exact absurd rfl h

theorem percentDecode_percent {a b : Char} (h : hexValue? a = none ∨ hexValue? b = none)
    (r : List Char) : percentDecode ('%' :: a :: b :: r) = 37 :: percentDecode (a :: b :: r) := by
  rw [percentDecode]
  split
  next ha hb =>
    rw [ha, hb] at h
    simp at h
  next => rfl

/-- In front of what is no hexadecimal digit no encoded byte goes on. -/
theorem percentDecode_append {r : List Char} (h : ∀ c ∈ r.head?, hexValue? c = none)
    (p : List Char) : percentDecode (p ++ r) = percentDecode p ++ percentDecode r := by
  -- By the recursion of the decoding; only a percent sign close to the end sees what follows.
  induction p using percentDecode.induct with
  | case1 => rfl
  | case2 a b p x y ha hb ih =>
    rw [List.cons_append, List.cons_append, List.cons_append, percentDecode, percentDecode, ha, hb]
    simp only [ih, List.cons_append]
  | case3 a b p hnot ih =>
    have hnone : hexValue? a = none ∨ hexValue? b = none := by
      cases ha : hexValue? a with
      | none => exact .inl rfl
      | some x =>
        cases hb : hexValue? b with
        | none => exact .inr rfl
        | some y => exact absurd hb (hnot x y ha)
    rw [List.cons_append, List.cons_append, List.cons_append, percentDecode_percent hnone,
      percentDecode_percent hnone, List.cons_append]
    exact congrArg (37 :: ·) ih
  | case4 c p hnot ih =>
    by_cases hc : c = '%'
    · subst hc
      rcases p with - | ⟨a, - | ⟨b, p⟩⟩
      · rcases r with - | ⟨d, - | ⟨e, r⟩⟩
        · rfl
        · rfl
        · exact percentDecode_percent (.inl (h d rfl)) r
      · rcases r with - | ⟨d, r⟩
        · rw [List.append_nil]
          exact (List.append_nil _).symm
        · exact (percentDecode_percent (.inr (h d rfl)) r).trans (congrArg (37 :: ·) ih)
      · exact absurd rfl (hnot a b p rfl)
    · rw [List.cons_append, percentDecode_of_ne hc, percentDecode_of_ne hc, ih, List.append_assoc]

theorem percentDecode_ne_nil {p : List Char} (h : p ≠ []) : percentDecode p ≠ [] := by
  fun_cases percentDecode p with
  | case1 => exact absurd rfl h
  | case2 => exact List.cons_ne_nil _ _
  | case3 => exact List.cons_ne_nil _ _
  | case4 c => exact List.append_ne_nil_of_left_ne_nil (utf8_ne_nil c) _

theorem percentDecode_ascii_append {v : List Char} (ascii : ∀ c ∈ v, c.toNat < 0x80)
    (plain : '%' ∉ v) (s : List Char) :
    percentDecode (v ++ s) = v.map Char.toNat ++ percentDecode s := by
  induction v with
  | nil => rfl
  | cons c v ih =>
    have hc : c ≠ '%' := fun h => plain (h ▸ List.mem_cons_self)
    have hone : utf8 c = [c.toNat] := if_pos (ascii c List.mem_cons_self)
    rw [List.cons_append, percentDecode_of_ne hc, hone,
      ih (fun d hd => ascii d (List.mem_cons_of_mem c hd))
        fun hd => plain (List.mem_cons_of_mem c hd)]
    rfl

/-- A text that holds a name and has no more characters than it, its bytes decoded, is the name. -/
theorem eq_nil_of_ofUtf8? {p v s cs : List Char} (ascii : ∀ c ∈ v, c.toNat < 0x80) (plain : '%' ∉ v)
    (first : ∀ c ∈ v.head?, hexValue? c = none) (hv : v ≠ [])
    (h : ofUtf8? (percentDecode (p ++ (v ++ s))) = some cs) (hlength : cs.length ≤ v.length) :
    p = [] ∧ s = [] := by
  have hfirst : ∀ c ∈ (v ++ s).head?, hexValue? c = none := by
    obtain ⟨c, r, rfl⟩ := List.exists_cons_of_ne_nil hv
    exact first
  rw [percentDecode_append hfirst, percentDecode_ascii_append ascii plain] at h
  obtain ⟨hle, hall⟩ := countP_le_of_decodeParts (Nat.le_refl _) h
  have hcount : (v.map Char.toNat).countP (· < 0x80) = v.length := by
    rw [List.countP_eq_length.2, List.length_map]
    simpa using ascii
  rw [List.countP_append, List.countP_append, hcount] at hle hall
  have hsmall := hall (by omega)
  have hnil : ∀ t, (percentDecode t).countP (· < 0x80) = 0 →
      (∀ b ∈ percentDecode t, b < 0x80) → t = [] := fun t hzero hall => by
    by_cases ht : t = []
    · exact ht
    obtain ⟨b, bs, hbs⟩ := List.exists_cons_of_ne_nil (percentDecode_ne_nil ht)
    have hb : b ∈ percentDecode t := by rw [hbs]; exact List.mem_cons_self
    exact absurd (by simpa using hall b hb) (List.countP_eq_zero.1 hzero b hb)
  exact ⟨hnil p (by omega) fun b hb => hsmall b (by simp [hb]),
    hnil s (by omega) fun b hb => hsmall b (by simp [hb])⟩

theorem intercalate_pieces (c : Char) (cs : List Char) : [c].intercalate (pieces c cs) = cs := by
  have hne : ∀ cs, pieces c cs ≠ [] := by
    intro cs
    cases cs with
    | nil => simp [pieces]
    | cons d r =>
      rw [pieces]
      split
      · simp
      · split <;> simp
  induction cs with
  | nil => rfl
  | cons d r ih =>
    obtain ⟨q, ps, hps⟩ := List.exists_cons_of_ne_nil (hne r)
    rw [hps] at ih
    rw [pieces, hps]
    split
    next hd => rw [List.intercalate_cons_cons, ih, hd]; rfl
    next =>
      cases ps with
      | nil => simpa [List.intercalate] using ih
      | cons q' ps =>
        rw [List.intercalate_cons_cons] at ih ⊢
        rw [← ih]
        rfl

theorem mem_intercalate {x : Char} {l sep : List Char} {ls : List (List Char)} (hx : x ∈ l)
    (hl : l ∈ ls) : x ∈ sep.intercalate ls := by
  induction ls with
  | nil => cases hl
  | cons l' ls ih =>
    cases ls with
    | nil =>
      rw [List.mem_singleton] at hl
      simpa [List.intercalate, ← hl] using hx
    | cons l'' ls =>
      rw [List.intercalate_cons_cons]
      rcases List.mem_cons.1 hl with rfl | hl
      · simp [hx]
      · exact List.mem_append_right _ (ih hl)

theorem lowerChar_ne_nil (c : Char) : lowerChar c ≠ [] := by
  unfold lowerChar
  repeat' split
  all_goals exact List.cons_ne_nil _ _

end Text

/-! ### Names -/

namespace Host

theorem asciiLabel_eq {l : List Char} (h : '-' ∉ asciiLabel l) : asciiLabel l = l := by
  unfold asciiLabel at h ⊢
  split at h
  next hall => rw [if_pos hall]
  next => simp at h

theorem length_le_of_flatMap {f : Char → List Char} (hf : ∀ c, f c ≠ []) (cs : List Char) :
    cs.length ≤ (cs.flatMap f).length := by
  induction cs with
  | nil => exact Nat.le_refl 0
  | cons c cs ih =>
    have hc := List.length_pos_iff.2 (hf c)
    rw [List.flatMap_cons, List.length_append, List.length_cons]
    omega

/-- A name without hyphens has at least as many letters as its text has. -/
theorem length_le_of_name? {cs v : List Char} (h : name? cs = some v) (plain : '-' ∉ v) :
    cs.length ≤ v.length := by
  rw [name?] at h
  split at h
  · cases h
  next =>
    generalize hlower :
      (cs.flatMap Text.lowerChar).map (fun c => if isDot c then '.' else c) = lower at h
    rw [Option.some.injEq] at h
    have hlabels : ∀ l ∈ Text.pieces '.' lower, asciiLabel l = l := fun l hl =>
      asciiLabel_eq fun hmem => plain (h ▸ Text.mem_intercalate hmem (List.mem_map_of_mem hl))
    rw [List.map_congr_left (g := id) hlabels, List.map_id, Text.intercalate_pieces] at h
    rw [← h, ← hlower, List.length_map]
    exact length_le_of_flatMap Text.lowerChar_ne_nil cs

/-! ### Addresses -/

theorem mem_join {c : Char} {sep : String} {ss : List String} (h : c ∈ (Text.join sep ss).toList) :
    c ∈ sep.toList ∨ ∃ s ∈ ss, c ∈ s.toList := by
  induction ss using Text.join.induct with
  | case1 => simp [Text.join] at h
  | case2 s => exact .inr ⟨s, by simp, h⟩
  | case3 s rest hrest ih =>
    rw [Text.join.eq_3 _ _ _ hrest, String.toList_append, String.toList_append, List.mem_append,
      List.mem_append] at h
    rcases h with (h | h) | h
    · exact .inr ⟨s, by simp, h⟩
    · exact .inl h
    · exact (ih h).imp_right fun ⟨t, ht, hc⟩ => ⟨t, List.mem_cons_of_mem s ht, hc⟩

theorem of_mem_ipv4? {cs : List Char} {s : String} (h : ipv4? cs = some s) {c : Char}
    (hc : c ∈ s.toList) : c = '.' ∨ c.isDigit = true := by
  simp only [ipv4?, Option.bind_eq_bind, Option.bind_eq_some_iff] at h
  obtain ⟨parts, -, last, -, h⟩ := h
  split at h
  · cases h
  · rw [Option.some.injEq] at h
    rw [← h] at hc
    rcases mem_join hc with hc | ⟨t, ht, hc⟩
    · exact .inl (List.mem_singleton.1 hc)
    · obtain ⟨n, -, rfl⟩ := List.mem_map.1 ht
      have htext : (toString n).toList = Nat.toDigits 10 n := by simp
      rw [htext] at hc
      exact .inr (Number.isDigit_of_mem hc)

theorem head?_bracketed {cs : List Char} {s : String} (h : bracketed cs = .ok s) :
    s.toList.head? = some '[' := by
  unfold bracketed at h
  split at h
  · cases h
  · split at h
    next groups _ =>
      cases h
      unfold ipv6Text
      rcases longestZeros 0 groups with ⟨start, run⟩
      dsimp only
      rw [String.append_assoc, String.toList_append]
      rfl
    next => cases h

/-! ### Hosts -/

/-- A name of small letters and dots that begins with a letter, and not with one that is a digit of
base 16. -/
structure IsName (v : List Char) : Prop where
  letters : ∀ c ∈ v, c = '.' ∨ 'a' ≤ c ∧ c ≤ 'z'
  first : ∃ c r, v = c :: r ∧ c ≠ '.' ∧ Text.hexValue? c = none

namespace IsName

variable {p v s : List Char} (hv : IsName v)
include hv

theorem ne_nil : v ≠ [] := by
  obtain ⟨c, r, rfl, -⟩ := hv.first
  exact List.cons_ne_nil c r

theorem ascii : ∀ c ∈ v, c.toNat < 0x80 := by
  intro c hc
  rcases hv.letters c hc with rfl | ⟨-, hz⟩
  · decide
  · exact Nat.lt_of_le_of_lt hz (by decide)

/-- What is neither a small letter nor a dot stands in no name. -/
theorem not_mem {c : Char} (h : ¬ (c = '.' ∨ 'a' ≤ c ∧ c ≤ 'z')) : c ∉ v :=
  fun hc => h (hv.letters c hc)

theorem head?_ne : (String.ofList v).toList.head? ≠ some '[' := by
  rw [String.toList_ofList]
  exact fun h => hv.not_mem (by decide) (List.mem_of_mem_head? h)

theorem hexValue?_head : ∀ c ∈ v.head?, Text.hexValue? c = none := by
  obtain ⟨c, r, rfl, -, hhex⟩ := hv.first
  rintro d hd
  cases hd
  exact hhex

/-- A host whose text holds a name and that is read as the name has nothing else in its text. -/
theorem read_around (h : read (p ++ (v ++ s)) = .ok (String.ofList v)) : p = [] ∧ s = [] := by
  rw [read] at h
  split at h
  · exact absurd (head?_bracketed h) hv.head?_ne
  · split at h
    · cases h
    · cases h
    next name _ hname =>
      split at h
      · cases hip : ipv4? name with
        | none => rw [hip] at h; cases h
        | some t =>
          rw [hip] at h
          cases h
          obtain ⟨c, r, rfl, hdot, hhex⟩ := hv.first
          have hc : c ∈ (String.ofList (c :: r)).toList := by simp
          rcases of_mem_ipv4? hip hc with hc | hc
          · exact absurd hc hdot
          · simp [Text.hexValue?, hc] at hhex
      · rw [Except.ok.injEq, String.ofList_inj] at h
        subst h
        obtain ⟨cs, hcs, hread⟩ := Option.bind_eq_some_iff.1 hname
        exact Text.eq_nil_of_ofUtf8? hv.ascii (hv.not_mem (by decide)) hv.hexValue?_head hv.ne_nil hcs
          (length_le_of_name? hread (hv.not_mem (by decide)))

theorem readPlain_around (h : readPlain (p ++ (v ++ s)) = .ok (String.ofList v)) :
    p = [] ∧ s = [] := by
  rw [readPlain] at h
  split at h
  · exact absurd (head?_bracketed h) hv.head?_ne
  · split at h
    · cases h
    · rw [Except.ok.injEq, String.ofList_inj] at h
      have hlength : (p ++ (v ++ s)).length ≤ v.length := by
        conv =>
          rhs
          rw [← h]
        refine length_le_of_flatMap (fun c => ?_) _
        obtain ⟨b, bs, hbs⟩ := List.exists_cons_of_ne_nil (Text.utf8_ne_nil c)
        split
        · rw [hbs, List.flatMap_cons]
          exact List.cons_ne_nil _ _
        · exact List.cons_ne_nil c []
      rw [List.length_append, List.length_append] at hlength
      exact ⟨List.eq_nil_of_length_eq_zero (by omega), List.eq_nil_of_length_eq_zero (by omega)⟩

end IsName

end Host

end QueryDesk
