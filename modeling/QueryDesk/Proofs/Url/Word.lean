import Mathlib.Data.List.TakeWhile
import QueryDesk.Url.Reading

/-!
# A word in the text of a URL

A word of letters, digits and dots is nowhere cut by the reading of a URL, since no part ends at one of
its characters. So each part of the reading comes to the same place around any word: what it leaves of
the text in front of the word and behind it does not depend on the word, or the word is not in what is
left. A word within a scheme is told apart by its length, as the special schemes are shorter.
-/

namespace QueryDesk.Url

/-! ### Words -/

/-- Letters, digits and dots, more of them than a special scheme has. -/
structure IsWord (v : List Char) : Prop where
  plain : ∀ c ∈ v, c.isAlphanum = true ∨ c = '.'
  long : 5 < v.length

theorem isWord_of_all {v : List Char} (h : (v.all fun c => c.isAlphanum || c == '.') = true)
    (long : 5 < v.length) : IsWord v :=
  ⟨by simpa using h, long⟩

theorem dropWhile_append_stop {p : Char → Bool} {x : List Char}
    (h : ∀ c ∈ x.head?, p c = false) (a : List Char) :
    (a ++ x).dropWhile p = a.dropWhile p ++ x := by
  rw [List.dropWhile_append]
  split
  next hnil =>
    rw [List.isEmpty_iff.1 hnil, List.nil_append]
    cases x with
    | nil => rfl
    | cons c x => rw [List.dropWhile_cons, h c rfl, if_neg Bool.false_ne_true]
  next => rfl

theorem takeWhile_append_early {p : Char → Bool} {a : List Char} (h : ∃ c ∈ a, p c = false)
    (x : List Char) : (a ++ x).takeWhile p = a.takeWhile p := by
  obtain ⟨c, hc, hp⟩ := h
  induction a with
  | nil => cases hc
  | cons d a ih =>
    rw [List.cons_append, List.takeWhile_cons, List.takeWhile_cons]
    rcases List.mem_cons.1 hc with rfl | hc
    · rw [hp, if_neg Bool.false_ne_true, if_neg Bool.false_ne_true]
    · rw [ih hc]

theorem dropWhile_append_early {p : Char → Bool} {a : List Char} (h : ∃ c ∈ a, p c = false)
    (x : List Char) : (a ++ x).dropWhile p = a.dropWhile p ++ x := by
  obtain ⟨c, hc, hp⟩ := h
  induction a with
  | nil => cases hc
  | cons d a ih =>
    rw [List.cons_append, List.dropWhile_cons, List.dropWhile_cons]
    rcases List.mem_cons.1 hc with rfl | hc
    · rw [hp, if_neg Bool.false_ne_true, if_neg Bool.false_ne_true]
      rfl
    · rw [ih hc]
      split <;> rfl

theorem drop_takeWhile (p : Char → Bool) (cs : List Char) :
    cs.drop (cs.takeWhile p).length = cs.dropWhile p := by
  calc cs.drop (cs.takeWhile p).length
      = (cs.takeWhile p ++ cs.dropWhile p).drop (cs.takeWhile p).length := by
        rw [List.takeWhile_append_dropWhile]
    _ = cs.dropWhile p := List.drop_left

namespace IsWord

variable {v : List Char} (hv : IsWord v)
include hv

theorem ne_nil : v ≠ [] := by
  rintro rfl
  exact absurd hv.long (by decide)

theorem ofList_ne : String.ofList v ≠ "" := by
  intro h
  rw [← String.toList_inj, String.toList_ofList] at h
  exact hv.ne_nil h

theorem not_mem {c : Char} (h : ¬ (c.isAlphanum = true ∨ c = '.')) : c ∉ v :=
  fun hc => h (hv.plain c hc)

theorem beq_of_mem {c d : Char} (hc : c ∈ v) (h : ¬ (d.isAlphanum = true ∨ d = '.')) :
    (c == d) = false :=
  beq_eq_false_iff_ne.2 fun he => hv.not_mem h (he ▸ hc)

theorem outer {c : Char} (hc : c ∈ v) : 32 < c.toNat := by
  by_cases h : c.toNat ≤ 32
  · have hall : ∀ n < 33, ¬ ((Char.ofNat n).isAlphanum = true ∨ Char.ofNat n = '.') := by decide
    have hself := hall c.toNat (by omega)
    rw [Char.ofNat_toNat] at hself
    exact absurd (hv.plain c hc) hself
  · omega

/-- A word stops what reads over characters that are in no word. -/
theorem head?_append {p : Char → Bool} (h : ∀ c ∈ v, p c = false) (b : List Char) :
    ∀ c ∈ (v ++ b).head?, p c = false := by
  obtain ⟨c, r, hr⟩ := List.exists_cons_of_ne_nil hv.ne_nil
  subst hr
  rintro d hd
  cases hd
  exact h c List.mem_cons_self

end IsWord

/-! ### Cleaning -/

def isOuter (c : Char) : Bool := c.toNat ≤ 32

def isKept (c : Char) : Bool := !(c == '\t' || c == '\n' || c == '\r')

def leading (cs : List Char) : List Char := (cs.dropWhile isOuter).filter isKept

def trailing (cs : List Char) : List Char := (cs.reverse.dropWhile isOuter).reverse.filter isKept

theorem cleaned_word {v : List Char} (hv : IsWord v) (a b : List Char) :
    cleaned (String.ofList (a ++ (v ++ b))) = leading a ++ (v ++ trailing b) := by
  have houter : ∀ c ∈ v, isOuter c = false := fun c hc => by
    have := hv.outer hc
    simp only [isOuter, decide_eq_false_iff_not]
    omega
  have hkept : v.filter isKept = v := List.filter_eq_self.2 fun c hc => by
    rw [isKept, hv.beq_of_mem hc (by decide), hv.beq_of_mem hc (by decide),
      hv.beq_of_mem hc (by decide)]
    rfl
  have hreverse : ∀ c ∈ (v.reverse ++ (a.dropWhile isOuter).reverse).head?, isOuter c = false := by
    have hw : IsWord v.reverse := ⟨by simpa using hv.plain, by simpa using hv.long⟩
    exact hw.head?_append (by simpa using houter) _
  have hback := dropWhile_append_stop hreverse b.reverse
  show (((String.ofList (a ++ (v ++ b))).toList.dropWhile isOuter).reverse.dropWhile
    isOuter).reverse.filter isKept = _
  rw [String.toList_ofList, dropWhile_append_stop (hv.head?_append houter b), List.reverse_append,
    List.reverse_append, List.append_assoc, hback, List.reverse_append, List.reverse_append,
    List.reverse_reverse, List.reverse_reverse, List.append_assoc, List.filter_append,
    List.filter_append, hkept]
  rfl

/-! ### Schemes -/

def isSchemePart (c : Char) : Bool := c.isAlphanum || c == '+' || c == '-' || c == '.'

theorem scheme?_cons (c : Char) (cs : List Char) : scheme? (c :: cs) =
    if !c.isAlpha then none
    else match (c :: cs).dropWhile isSchemePart with
      | ':' :: r => some (String.ofList (((c :: cs).takeWhile isSchemePart).map Char.toLower), r)
      | _ => none := rfl

/-- A text in which the scheme has ended may be continued in any way. -/
theorem scheme?_append {a : List Char} (h : ∃ c ∈ a, isSchemePart c = false) (x : List Char) :
    scheme? (a ++ x) = (scheme? a).map fun (s, r) => (s, r ++ x) := by
  have htake := takeWhile_append_early h x
  have hdrop := dropWhile_append_early h x
  obtain ⟨d, hd, hnot⟩ := h
  rcases a with - | ⟨c, a⟩
  · cases hd
  rw [List.cons_append, scheme?_cons, scheme?_cons, ← List.cons_append, htake, hdrop]
  split
  · rfl
  cases hrest : (c :: a).dropWhile isSchemePart with
  | nil =>
    have hall := List.dropWhile_eq_nil_iff.1 hrest d hd
    rw [hnot] at hall
    cases hall
  | cons e r =>
    by_cases he : e = ':'
    · subst he
      rfl
    · simp [he]

theorem length_of_isSpecial {s : String} (h : isSpecial s = true) : s.toList.length ≤ 5 := by
  have hmem : s = "file" ∨ s = "http" ∨ s = "ws" ∨ s = "https" ∨ s = "wss" ∨ s = "ftp" := by
    by_contra hnone
    simp only [not_or] at hnone
    simp [isSpecial, usualPort?, hnone] at h
  rcases hmem with rfl | rfl | rfl | rfl | rfl | rfl <;> decide

theorem scheme?_inside {v a b r : List Char} {s : String} (hv : IsWord v)
    (ha : ∀ c ∈ a, isSchemePart c = true) (h : scheme? (a ++ (v ++ b)) = some (s, r)) :
    isSpecial s = false ∧ b.dropWhile isSchemePart = ':' :: r := by
  have hpart : ∀ c ∈ v, isSchemePart c = true := fun c hc => by
    rcases hv.plain c hc with hc | rfl
    · simp [isSchemePart, hc]
    · decide
  have hdrop : (a ++ (v ++ b)).dropWhile isSchemePart = b.dropWhile isSchemePart := by
    rw [List.dropWhile_append_of_pos ha, List.dropWhile_append_of_pos hpart]
  have htake : (a ++ (v ++ b)).takeWhile isSchemePart = a ++ (v ++ b.takeWhile isSchemePart) := by
    rw [List.takeWhile_append_of_pos ha, List.takeWhile_append_of_pos hpart]
  cases hx : a ++ (v ++ b) with
  | nil =>
    rw [hx] at h
    cases h
  | cons c cs =>
    rw [hx] at h hdrop htake
    rw [scheme?_cons, hdrop, htake] at h
    split at h
    · cases h
    split at h
    next rest hrest =>
      cases h
      refine ⟨?_, hrest⟩
      rw [Bool.eq_false_iff]
      intro hspecial
      have hlength := length_of_isSpecial hspecial
      have hlong := hv.long
      simp only [String.toList_ofList, List.length_map, List.length_append] at hlength
      omega
    next => cases h

/-- The kinds of schemes, which tell where a host may stand. -/
inductive Kind where
  | file
  | special
  | other
deriving DecidableEq

def kind (scheme : String) : Kind :=
  if scheme == "file" then .file else if isSpecial scheme then .special else .other

/-! ### Slashes -/

def isSlash (c : Char) : Bool := c == '/' || c == '\\'

/-- What stands behind the slashes in front of an authority: two for most schemes, any number of them
for those that are special. -/
def behindSlashes : Kind → List Char → Option (List Char)
  | .file, a :: b :: r => if isSlash a && isSlash b then some r else none
  | .file, _ => none
  | .special, cs => some (cs.dropWhile isSlash)
  | .other, '/' :: '/' :: r => some r
  | .other, _ => none

theorem behindSlashes_word {v : List Char} (hv : IsWord v) (k : Kind) (a b : List Char) :
    behindSlashes k (a ++ (v ++ b)) = (behindSlashes k a).map (· ++ (v ++ b)) := by
  have hslash : ∀ c ∈ v, isSlash c = false := fun c hc => by
    rw [isSlash, hv.beq_of_mem hc (by decide), hv.beq_of_mem hc (by decide)]
    rfl
  obtain ⟨c, d, w, hw⟩ : ∃ c d w, v = c :: d :: w := by
    have hlong := hv.long
    rcases v with - | ⟨c, - | ⟨d, w⟩⟩
    · simp at hlong
    · simp at hlong
    · exact ⟨c, d, w, rfl⟩
  have hc := hslash c (by simp [hw])
  cases k with
  | file =>
    rcases a with - | ⟨x, - | ⟨y, a⟩⟩
    · simp [hw, behindSlashes, hc]
    · simp [hw, behindSlashes, hc]
    · by_cases h : (isSlash x && isSlash y) = true
      · simp [behindSlashes, h]
      · simp [behindSlashes, h]
  | special =>
    rw [behindSlashes, dropWhile_append_stop (hv.head?_append hslash b)]
    rfl
  | other =>
    have hne : c ≠ '/' := beq_eq_false_iff_ne.1 (hv.beq_of_mem (by simp [hw]) (by decide))
    rcases a with - | ⟨x, - | ⟨y, a⟩⟩
    · simp [hw, behindSlashes, hne]
    · by_cases hx : x = '/'
      · simp [hw, behindSlashes, hx, hne]
      · simp [hw, behindSlashes, hx]
    · by_cases hx : x = '/'
      · by_cases hy : y = '/'
        · simp [behindSlashes, hx, hy]
        · simp [behindSlashes, hx, hy]
      · simp [behindSlashes, hx]

/-! ### Cuts around a word -/

theorem cutAt_append_of_mem {c : Char} {x : List Char} (h : c ∈ x) (y : List Char) :
    Text.cutAt c (x ++ y) = (Text.cutAt c x).map fun (a, b) => (a, b ++ y) := by
  cases hx : Text.cutAt c x with
  | none => exact absurd h (Text.cutAt_eq_none_iff.1 hx)
  | some p =>
    obtain ⟨hsplit, hnot⟩ := Text.cutAt_eq_some hx
    rw [hsplit, List.append_assoc, List.cons_append, Text.cutAt_append hnot]
    rfl

theorem cutAt_append_of_not_mem {c : Char} {x : List Char} (h : c ∉ x) (y : List Char) :
    Text.cutAt c (x ++ y) = (Text.cutAt c y).map fun (a, b) => (x ++ a, b) := by
  cases hy : Text.cutAt c y with
  | none =>
    have hnot : c ∉ x ++ y := by
      rw [List.mem_append, not_or]
      exact ⟨h, Text.cutAt_eq_none_iff.1 hy⟩
    rw [Text.cutAt_eq_none_iff.2 hnot]
    rfl
  | some p =>
    obtain ⟨hsplit, hnot⟩ := Text.cutAt_eq_some hy
    have hfront : c ∉ x ++ p.1 := by
      rw [List.mem_append, not_or]
      exact ⟨h, hnot⟩
    rw [hsplit, ← List.append_assoc, Text.cutAt_append hfront]
    rfl

theorem cutAtLast_append_of_mem {c : Char} {y : List Char} (h : c ∈ y) (x : List Char) :
    cutAtLast c (x ++ y) = (cutAtLast c y).map fun (a, b) => (x ++ a, b) := by
  rw [cutAtLast, cutAtLast, List.reverse_append, cutAt_append_of_mem (List.mem_reverse.2 h)]
  cases Text.cutAt c y.reverse with
  | none => rfl
  | some p => simp

theorem cutAtLast_append_of_not_mem {c : Char} {y : List Char} (h : c ∉ y) (x : List Char) :
    cutAtLast c (x ++ y) = (cutAtLast c x).map fun (a, b) => (a, b ++ y) := by
  rw [cutAtLast, cutAtLast, List.reverse_append,
    cutAt_append_of_not_mem fun hc => h (List.mem_reverse.1 hc)]
  cases Text.cutAt c x.reverse with
  | none => rfl
  | some p => simp

theorem cutAtLast_eq_some {c : Char} {x a b : List Char} (h : cutAtLast c x = some (a, b)) :
    x = a ++ c :: b ∧ c ∉ b := by
  obtain ⟨⟨p, q⟩, hcut, hpair⟩ := Option.map_eq_some_iff.1 h
  obtain ⟨hsplit, hnot⟩ := Text.cutAt_eq_some hcut
  rw [Prod.mk.injEq] at hpair
  rw [← hpair.1, ← hpair.2]
  refine ⟨?_, fun hc => hnot (List.mem_reverse.1 hc)⟩
  have := congrArg List.reverse hsplit
  simpa using this

theorem cutAtLast_eq_none {c : Char} {x : List Char} (h : cutAtLast c x = none) : c ∉ x := by
  rw [cutAtLast, Option.map_eq_none_iff] at h
  exact fun hc => Text.cutAt_eq_none_iff.1 h (List.mem_reverse.2 hc)

/-- A word behind the last `@` stands in the text of the host. -/
theorem readUser_word {a b : List Char} (hb : '@' ∉ b) :
    ∃ name password h, '@' ∉ h ∧ (a = h ∨ ∃ u, a = u ++ '@' :: h) ∧
      ∀ v more, IsWord v → readUser (a ++ (v ++ b)) more = .ok (name, password, h ++ (v ++ b)) := by
  have hword : ∀ v, IsWord v → '@' ∉ v ++ b := fun v hv => by
    rw [List.mem_append, not_or]
    exact ⟨hv.not_mem (by decide), hb⟩
  cases ha : cutAtLast '@' a with
  | none =>
    refine ⟨"", "", a, cutAtLast_eq_none ha, .inl rfl, fun v more hv => ?_⟩
    rw [readUser, cutAtLast_append_of_not_mem (hword v hv), ha]
    rfl
  | some p =>
    obtain ⟨u, h⟩ := p
    obtain ⟨hsplit, hnot⟩ := cutAtLast_eq_some ha
    have hne : ∀ v, IsWord v → (h ++ (v ++ b)).isEmpty = false := fun v hv => by
      rw [List.isEmpty_eq_false_iff]
      simp [hv.ne_nil]
    cases hcolon : Text.cutAt ':' u with
    | none =>
      refine ⟨encodeUser u, "", h, hnot, .inr ⟨u, hsplit⟩, fun v more hv => ?_⟩
      simp [readUser, cutAtLast_append_of_not_mem (hword v hv), ha, hne v hv, hcolon]
    | some p =>
      refine ⟨encodeUser p.1, encodeUser p.2, h, hnot, .inr ⟨u, hsplit⟩, fun v more hv => ?_⟩
      simp [readUser, cutAtLast_append_of_not_mem (hword v hv), ha, hne v hv, hcolon]

/-- A word in front of the last `@` belongs to the user. -/
theorem readUser_word_of_mem {b : List Char} (hb : '@' ∈ b) (a : List Char) :
    ∃ h, ∀ v more, IsWord v → ∃ name password,
      readUser (a ++ (v ++ b)) more = .ok (name, password, h) := by
  cases hcut : cutAtLast '@' b with
  | none => exact absurd hb (cutAtLast_eq_none hcut)
  | some p =>
    refine ⟨p.2, fun v more hv => ?_⟩
    have huser : (a ++ (v ++ p.1)).isEmpty = false := by
      rw [List.isEmpty_eq_false_iff]
      simp [hv.ne_nil]
    rw [readUser, cutAtLast_append_of_mem (List.mem_append_right v hb),
      cutAtLast_append_of_mem hb, hcut]
    simp only [Option.map_some, huser, Bool.false_and, Bool.false_eq_true, if_false]
    cases Text.cutAt ':' (a ++ (v ++ p.1)) with
    | none => exact ⟨_, _, rfl⟩
    | some q => exact ⟨_, _, rfl⟩

theorem splitPort_cons {c : Char} {inside : Bool} (h : (c == ':' && !inside) = false)
    (r : List Char) : splitPort inside (c :: r) =
      (c :: (splitPort (if c == '[' then true else if c == ']' then false else inside) r).1,
        (splitPort (if c == '[' then true else if c == ']' then false else inside) r).2) := by
  rw [splitPort, h]
  rfl

theorem splitPort_word {v : List Char} (hv : IsWord v) (inside : Bool) (x : List Char) :
    splitPort inside (v ++ x) = (v ++ (splitPort inside x).1, (splitPort inside x).2) := by
  have hplain : ∀ c ∈ v, (c == ':') = false ∧ (c == '[') = false ∧ (c == ']') = false :=
    fun c hc => ⟨hv.beq_of_mem hc (by decide), hv.beq_of_mem hc (by decide),
      hv.beq_of_mem hc (by decide)⟩
  clear hv
  induction v with
  | nil => rfl
  | cons c v ih =>
    obtain ⟨hcolon, hopen, hclose⟩ := hplain c List.mem_cons_self
    rw [List.cons_append, splitPort_cons (by rw [hcolon]; rfl), hopen, hclose,
      if_neg Bool.false_ne_true, if_neg Bool.false_ne_true,
      ih fun d hd => hplain d (List.mem_cons_of_mem c hd)]
    rfl

/-- Either the host has ended, or what comes behind goes on with it. -/
theorem splitPort_append (inside : Bool) (a : List Char) :
    (∃ t, ∀ x, (splitPort inside (a ++ x)).1 = t) ∨
      ∃ i, (a = [] → i = inside) ∧ ∀ x, (splitPort inside (a ++ x)).1 = a ++ (splitPort i x).1 := by
  induction a generalizing inside with
  | nil => exact .inr ⟨inside, fun _ => rfl, fun _ => rfl⟩
  | cons c a ih =>
    by_cases hend : (c == ':' && !inside) = true
    · refine .inl ⟨[], fun x => ?_⟩
      rw [List.cons_append, splitPort, hend]
      rfl
    · have hnot := Bool.eq_false_iff.2 hend
      rcases ih (if c == '[' then true else if c == ']' then false else inside) with
        ⟨t, ht⟩ | ⟨i, -, hi⟩
      · refine .inl ⟨c :: t, fun x => ?_⟩
        rw [List.cons_append, splitPort_cons hnot, ht]
      · refine .inr ⟨i, by simp, fun x => ?_⟩
        rw [List.cons_append, splitPort_cons hnot, hi]
        rfl

theorem of_splitPort_eq_nil {x : List Char} (h : (splitPort false x).1 = []) :
    x = [] ∨ x.head? = some ':' := by
  rcases x with - | ⟨c, r⟩
  · exact .inl rfl
  · by_cases hc : (c == ':' && !false) = true
    · rw [Bool.not_false, Bool.and_true, beq_iff_eq] at hc
      exact .inr (by rw [hc]; rfl)
    · rw [splitPort_cons (Bool.eq_false_iff.2 hc)] at h
      cases h

end QueryDesk.Url
