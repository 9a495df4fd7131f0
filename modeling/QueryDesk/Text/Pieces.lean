/-!
# Cutting and joining texts

The few cuts that names, addresses and statements need. Each has its counterpart over lists of
characters, where the laws are stated.
-/

namespace QueryDesk.Text

def cutAt (c : Char) : List Char → Option (List Char × List Char)
  | [] => none
  | d :: r => if d = c then some ([], r) else (cutAt c r).map fun (a, b) => (d :: a, b)

def splitFirst (c : Char) (s : String) : Option (String × String) :=
  (cutAt c s.toList).map fun (a, b) => (String.ofList a, String.ofList b)

def join (separator : String) : List String → String
  | [] => ""
  | [s] => s
  | s :: rest => s ++ separator ++ join separator rest

/-- The pieces between the occurrences of `c`, at least one. -/
def pieces (c : Char) : List Char → List (List Char)
  | [] => [[]]
  | d :: r =>
    if d = c then [] :: pieces c r
    else match pieces c r with
      | [] => [[d]]
      | p :: ps => (d :: p) :: ps

/-- The characters before and behind the first occurrence of `word`. -/
def cutAtWord (word : List Char) : List Char → Option (List Char × List Char)
  | [] => if word.isEmpty then some ([], []) else none
  | c :: r =>
    if word.isPrefixOf (c :: r) then some ([], (c :: r).drop word.length)
    else (cutAtWord word r).map fun (a, b) => (c :: a, b)

def includes (s word : String) : Bool := (cutAtWord word.toList s.toList).isSome

/-- `s` with the first occurrence of `word` replaced. -/
def replaceFirst (s word replacement : String) : String :=
  match cutAtWord word.toList s.toList with
  | some (a, b) => String.ofList (a ++ replacement.toList ++ b)
  | none => s

/-! ### What a cut leaves -/

theorem cutAt_eq_some {c : Char} {cs a b : List Char} (h : cutAt c cs = some (a, b)) :
    cs = a ++ c :: b ∧ c ∉ a := by
  induction cs generalizing a b with
  | nil => simp [cutAt] at h
  | cons d r ih =>
    by_cases hd : d = c
    · simp only [cutAt, hd, if_true, Option.some.injEq, Prod.mk.injEq] at h
      obtain ⟨rfl, rfl⟩ := h
      simp [hd]
    · simp only [cutAt, hd, if_false, Option.map_eq_some_iff, Prod.exists] at h
      obtain ⟨a', b', h', he⟩ := h
      simp only [Prod.mk.injEq] at he
      obtain ⟨rfl, rfl⟩ := he
      obtain ⟨rfl, hn⟩ := ih h'
      exact ⟨rfl, by simp [hn, Ne.symm hd]⟩

theorem cutAt_eq_none_iff {c : Char} {cs : List Char} : cutAt c cs = none ↔ c ∉ cs := by
  induction cs with
  | nil => simp [cutAt]
  | cons d r ih =>
    by_cases hd : d = c
    · simp [cutAt, hd]
    · simp [cutAt, hd, ih, Ne.symm hd]

theorem cutAt_append {c : Char} {a : List Char} (h : c ∉ a) (b : List Char) :
    cutAt c (a ++ c :: b) = some (a, b) := by
  induction a with
  | nil => simp [cutAt]
  | cons d r ih =>
    simp only [List.mem_cons, not_or] at h
    simp [cutAt, Ne.symm h.1, ih h.2]

/-- The first place of a word, with what stands in front of it and behind it. -/
theorem cutAtWord_eq_some {word cs a rest : List Char} (hne : word ≠ [])
    (h : cutAtWord word cs = some (a, rest)) :
    cs = a ++ word ++ rest ∧ ∀ x y, cs = x ++ word ++ y → a.length ≤ x.length := by
  induction cs generalizing a with
  | nil =>
    rw [cutAtWord, if_neg (by simpa using hne)] at h
    cases h
  | cons c cs ih =>
    rw [cutAtWord] at h
    by_cases hprefix : word.isPrefixOf (c :: cs) = true
    · rw [if_pos hprefix, Option.some.injEq, Prod.mk.injEq] at h
      obtain ⟨rfl, rfl⟩ := h
      obtain ⟨v, hv⟩ := List.isPrefixOf_iff_prefix.1 hprefix
      refine ⟨?_, fun _ _ _ => Nat.zero_le _⟩
      rw [← hv, List.nil_append, List.drop_left]
    · rw [if_neg hprefix] at h
      obtain ⟨⟨a', rest'⟩, ha, he⟩ := Option.map_eq_some_iff.1 h
      simp only [Prod.mk.injEq] at he
      obtain ⟨rfl, rfl⟩ := he
      obtain ⟨hsplit, hfirst⟩ := ih ha
      refine ⟨by rw [hsplit]; simp, fun x y hx => ?_⟩
      rcases x with - | ⟨x₀, x⟩
      · exact absurd (List.isPrefixOf_iff_prefix.2 ⟨y, hx.symm⟩) hprefix
      · rw [List.cons_append, List.cons_append, List.cons.injEq] at hx
        have hle := hfirst x y hx.2
        simpa using hle

/-- A word that occurs is found. -/
theorem cutAtWord_isSome (word x y : List Char) :
    (cutAtWord word (x ++ (word ++ y))).isSome = true := by
  induction x with
  | nil =>
    rcases hw : word ++ y with - | ⟨c, r⟩
    · rw [List.append_eq_nil_iff.1 hw |>.1]
      rfl
    · have hprefix : word.isPrefixOf (c :: r) = true :=
        List.isPrefixOf_iff_prefix.2 ⟨y, hw⟩
      simp [cutAtWord, hprefix]
  | cons c x ih =>
    rw [List.cons_append, cutAtWord]
    split
    · rfl
    · simpa using ih

end QueryDesk.Text
