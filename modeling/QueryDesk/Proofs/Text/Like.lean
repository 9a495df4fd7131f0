import Mathlib.Data.List.Infix

/-!
# Patterns

The patterns of `LIKE`: a percent sign stands for any run of characters and an underscore for any
single one, a backslash takes the next character as it is, and any other character stands for itself.
A text between two percent signs is meant as a text to be found in another one. Main statement: it is
found just where it occurs if none of these three characters is in it, and only then.
-/

namespace QueryDesk.Text

/-- What a pattern asks for at one place. -/
inductive PatternMark where
  | anyRun
  | anyOne
  | only (c : Char)
deriving DecidableEq

namespace PatternMark

/-- The marks of a pattern. A backslash at its very end stands for itself. -/
def read : List Char → List PatternMark
  | [] => []
  | '%' :: cs => anyRun :: read cs
  | '_' :: cs => anyOne :: read cs
  | '\\' :: c :: cs => only c :: read cs
  | c :: cs => only c :: read cs

/-- The marks take the characters one after the other and to the last. -/
def fits : List PatternMark → List Char → Bool
  | [], cs => cs.isEmpty
  | anyRun :: ms, cs => cs.tails.any (fits ms)
  | anyOne :: ms, _ :: cs => fits ms cs
  | only m :: ms, c :: cs => c == m && fits ms cs
  | _ :: _, [] => false

theorem fits_anyRun {ms : List PatternMark} {cs : List Char} :
    fits (anyRun :: ms) cs = true ↔ ∃ a b, cs = a ++ b ∧ fits ms b = true := by
  simp only [fits, List.any_eq_true, List.mem_tails]
  constructor
  · rintro ⟨b, ⟨a, rfl⟩, hb⟩
    exact ⟨a, b, rfl, hb⟩
  · rintro ⟨a, b, rfl, hb⟩
    exact ⟨b, List.suffix_append a b, hb⟩

theorem fits_anyOne {ms : List PatternMark} {cs : List Char} :
    fits (anyOne :: ms) cs = true ↔ ∃ c b, cs = c :: b ∧ fits ms b = true := by
  cases cs <;> simp [fits]

theorem fits_only {m : Char} {ms : List PatternMark} {cs : List Char} :
    fits (only m :: ms) cs = true ↔ ∃ b, cs = m :: b ∧ fits ms b = true := by
  cases cs <;> simp [fits, and_assoc]

theorem fits_append {ms ns : List PatternMark} {cs : List Char} :
    fits (ms ++ ns) cs = true ↔ ∃ a b, cs = a ++ b ∧ fits ms a = true ∧ fits ns b = true := by
  -- One case for each mark: each takes its own piece off the text.
  induction ms generalizing cs with
  | nil => simp [fits]
  | cons m ms ih =>
    cases m with
    | anyRun =>
      simp only [List.cons_append, fits_anyRun, ih]
      constructor
      · rintro ⟨x, y, rfl, a, b, rfl, ha, hb⟩
        exact ⟨x ++ a, b, (List.append_assoc ..).symm, ⟨x, a, rfl, ha⟩, hb⟩
      · rintro ⟨a, b, rfl, ⟨x, y, rfl, hy⟩, hb⟩
        exact ⟨x, y ++ b, List.append_assoc .., y, b, rfl, hy, hb⟩
    | anyOne =>
      simp only [List.cons_append, fits_anyOne, ih]
      constructor
      · rintro ⟨c, y, rfl, a, b, rfl, ha, hb⟩
        exact ⟨c :: a, b, rfl, ⟨c, a, rfl, ha⟩, hb⟩
      · rintro ⟨a, b, rfl, ⟨c, y, rfl, hy⟩, hb⟩
        exact ⟨c, y ++ b, rfl, y, b, rfl, hy, hb⟩
    | only m =>
      simp only [List.cons_append, fits_only, ih]
      constructor
      · rintro ⟨y, rfl, a, b, rfl, ha, hb⟩
        exact ⟨m :: a, b, rfl, ⟨a, rfl, ha⟩, hb⟩
      · rintro ⟨a, b, rfl, ⟨y, rfl, hy⟩, hb⟩
        exact ⟨y ++ b, rfl, y, b, rfl, hy, hb⟩

/-- Between two runs a pattern fits the texts with a part that it fits. -/
theorem fits_between_runs {ms : List PatternMark} {cs : List Char} :
    fits (anyRun :: (ms ++ [anyRun])) cs = true ↔ ∃ part, part <:+: cs ∧ fits ms part = true := by
  have hrun : ∀ b, fits [anyRun] b = true := fun b => fits_anyRun.2 ⟨b, [], by simp, rfl⟩
  simp only [fits_anyRun, fits_append, hrun, and_true]
  constructor
  · rintro ⟨x, -, rfl, part, y, rfl, h⟩
    exact ⟨part, ⟨x, y, List.append_assoc ..⟩, h⟩
  · rintro ⟨part, ⟨x, y, rfl⟩, h⟩
    exact ⟨x, part ++ y, List.append_assoc .., part, y, rfl, h⟩

theorem fits_map_only {cs part : List Char} : fits (cs.map only) part = true ↔ part = cs := by
  induction cs generalizing part with
  | nil => simp [fits]
  | cons c cs ih => simp [fits_only, ih]

/-! ### Reading -/

/-- Has a meaning of its own in a pattern. -/
def isSpecial (c : Char) : Bool := c == '%' || c == '_' || c == '\\'

/-- No character has a meaning of its own. -/
def Plain (cs : List Char) : Prop := ∀ c ∈ cs, isSpecial c = false

instance (cs : List Char) : Decidable (Plain cs) :=
  List.decidableBAll (isSpecial · = false) cs

/-- Each backslash has a character behind it to take. -/
def isClosed : List Char → Bool
  | [] => true
  | ['\\'] => false
  | '\\' :: _ :: cs => isClosed cs
  | _ :: cs => isClosed cs

theorem read_plain {c : Char} (h : isSpecial c = false) (cs : List Char) :
    read (c :: cs) = only c :: read cs := by
  simp only [isSpecial, Bool.or_eq_false_iff, beq_eq_false_iff_ne] at h
  cases cs <;> simp [read, h]

theorem Plain.read_append {cs : List Char} (h : Plain cs) (rest : List Char) :
    read (cs ++ rest) = cs.map only ++ read rest := by
  induction cs with
  | nil => rfl
  | cons c cs ih =>
    have hc := h c List.mem_cons_self
    rw [List.cons_append, read_plain hc, ih fun d hd => h d (List.mem_cons_of_mem c hd)]
    rfl

theorem read_pair (c : Char) (cs : List Char) : read ('\\' :: c :: cs) = only c :: read cs := rfl

theorem read_append_of_isClosed {cs : List Char} (h : isClosed cs = true) (rest : List Char) :
    read (cs ++ rest) = read cs ++ read rest := by
  fun_induction isClosed cs with
  | case1 => rfl
  | case2 => cases h
  | case3 c cs ih =>
    rw [List.cons_append, List.cons_append, read_pair, read_pair, ih h]
    rfl
  | case4 c cs hlone hpair ih =>
    have hc : c ≠ '\\' := by
      rintro rfl
      cases cs with
      | nil => exact hlone rfl rfl
      | cons d cs => exact hpair d cs rfl rfl
    by_cases hrun : c = '%'
    · subst hrun
      exact congrArg (anyRun :: ·) (ih h)
    by_cases hone : c = '_'
    · subst hone
      exact congrArg (anyOne :: ·) (ih h)
    have hplain : isSpecial c = false := by simp [isSpecial, hrun, hone, hc]
    rw [List.cons_append, read_plain hplain, read_plain hplain, ih h]
    rfl

/-! ### The shortest text that fits -/

/-- A text that some marks fit, as short as any. -/
def sample : List PatternMark → List Char
  | [] => []
  | anyRun :: ms => sample ms
  | anyOne :: ms => 'x' :: sample ms
  | only c :: ms => c :: sample ms

theorem fits_sample (ms : List PatternMark) : fits ms (sample ms) = true := by
  induction ms with
  | nil => rfl
  | cons m ms ih =>
    cases m with
    | anyRun => exact fits_anyRun.2 ⟨[], sample ms, rfl, ih⟩
    | anyOne => exact fits_anyOne.2 ⟨'x', sample ms, rfl, ih⟩
    | only c => exact fits_only.2 ⟨sample ms, rfl, ih⟩

/-- In front of a percent sign, a text is no shorter than what it asks for, and not the same unless
it is plain. -/
theorem sample_read (cs : List Char) :
    (sample (read (cs ++ ['%']))).length ≤ cs.length ∧
      (sample (read (cs ++ ['%'])) = cs → Plain cs) := by
  fun_induction read cs with
  | case1 => exact ⟨Nat.le_refl 0, fun _ c hc => by cases hc⟩
  | case2 cs ih =>
    refine ⟨Nat.le_succ_of_le ih.1, fun h => absurd (congrArg List.length h) (Nat.ne_of_lt ?_)⟩
    exact Nat.lt_succ_of_le ih.1
  | case3 cs ih =>
    refine ⟨Nat.succ_le_succ ih.1, fun h => ?_⟩
    exact absurd (List.cons.inj h).1 (by decide)
  | case4 c cs ih =>
    refine ⟨Nat.le_succ_of_le (Nat.succ_le_succ ih.1), fun h => ?_⟩
    refine absurd (congrArg List.length h) (Nat.ne_of_lt ?_)
    exact Nat.succ_lt_succ (Nat.lt_succ_of_le ih.1)
  | case5 c cs hrun hone hpair ih =>
    by_cases hc : c = '\\'
    · -- Only at the end a backslash comes here, and then it takes the percent sign.
      subst hc
      cases cs with
      | nil => exact ⟨Nat.le_refl 1, fun h => absurd (List.cons.inj h).1 (by decide)⟩
      | cons d cs => exact absurd rfl (hpair d cs rfl)
    have hplain : isSpecial c = false := by
      simp only [isSpecial, Bool.or_eq_false_iff, beq_eq_false_iff_ne]
      exact ⟨⟨hrun, hone⟩, hc⟩
    rw [List.cons_append, read_plain hplain, sample]
    refine ⟨Nat.succ_le_succ ih.1, fun h => ?_⟩
    exact List.forall_mem_cons.2 ⟨hplain, ih.2 (List.cons.inj h).2⟩

end PatternMark

/-! ### Texts -/

open PatternMark

def like (s pattern : String) : Bool := fits (read pattern.toList) s.toList

/-- The text passes the test for being like the pattern, or for not being like it. -/
def passes (negated : Bool) (pattern s : String) : Bool := like s pattern != negated

def Occurs (word s : String) : Prop := word.toList <:+: s.toList

instance (word s : String) : Decidable (Occurs word s) :=
  inferInstanceAs (Decidable (word.toList <:+: s.toList))

theorem like_between_percents (v s : String) :
    like s ("%" ++ v ++ "%") = fits (anyRun :: read (v.toList ++ ['%'])) s.toList := by
  rw [like, String.toList_append, String.toList_append, List.append_assoc]
  rfl

/-- Between percent signs a text is looked for as a pattern, if no backslash takes the second of
them. -/
theorem like_between_percents_iff {v : String} (h : isClosed v.toList = true) (s : String) :
    like s ("%" ++ v ++ "%") = true ↔ ∃ part, Occurs part s ∧ like part v = true := by
  rw [like_between_percents, read_append_of_isClosed h]
  refine fits_between_runs.trans ⟨fun ⟨part, hpart, hfits⟩ => ?_, fun ⟨part, hpart, hfits⟩ => ?_⟩
  · refine ⟨String.ofList part, ?_, ?_⟩
    · rwa [Occurs, String.toList_ofList]
    · rwa [like, String.toList_ofList]
  · exact ⟨part.toList, hpart, hfits⟩

/-- Between percent signs a text is found just where it occurs, exactly if it is plain. -/
theorem like_iff_occurs_iff (v : String) :
    (∀ s, like s ("%" ++ v ++ "%") = true ↔ Occurs v s) ↔ Plain v.toList := by
  constructor
  · intro h
    -- The shortest text that is like the pattern has no room for another text as long as `v`.
    have hsample := (h (String.ofList (sample (read (v.toList ++ ['%']))))).1 (by
      rw [like_between_percents, String.toList_ofList]
      exact fits_anyRun.2 ⟨[], _, rfl, fits_sample _⟩)
    rw [Occurs, String.toList_ofList] at hsample
    obtain ⟨hlength, hplain⟩ := sample_read v.toList
    exact hplain (hsample.eq_of_length (Nat.le_antisymm hsample.length_le hlength)).symm
  · intro h s
    rw [like_between_percents, h.read_append]
    refine fits_between_runs.trans ?_
    simp only [fits_map_only, exists_eq_right]
    rfl

theorem passes_iff_occurs_iff (negated : Bool) (v : String) :
    (∀ s, passes negated ("%" ++ v ++ "%") s = true ↔ (Occurs v s ↔ negated = false)) ↔
      Plain v.toList := by
  rw [← like_iff_occurs_iff]
  refine forall_congr' fun s => ?_
  cases negated
  · simp [passes]
  · cases h : like s ("%" ++ v ++ "%") <;> simp [passes, h]

end QueryDesk.Text
