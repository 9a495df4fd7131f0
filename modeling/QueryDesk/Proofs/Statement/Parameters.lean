import Mathlib.Data.List.Basic
import QueryDesk.Proofs.Statement.Skeleton

/-!
# Parameters of selections

The steps of a selection bind their values in the order in which they are made, conditions on rows and
conditions on groups through one another. The invariant behind this module, `Select.WellBound`, says
that a slot named by a condition was given out before; so later steps do not change its value. Main
statement: in the statement of a selection, however the steps and the copies came, the parameters are
the values of the conditions on rows and then those of the conditions on groups, each in the order of
the steps, and the placeholders are numbered in the order of the text.
-/

namespace QueryDesk

/-! ### Values of slots -/

namespace Bindings

theorem value_append {b : Bindings} {i : Nat} (h : i < b.values.length) (vs : List Value) :
    (⟨b.values ++ vs⟩ : Bindings).value i = b.value i := by
  simp only [value, List.getD_eq_getElem?_getD, List.getElem?_append_left h]

theorem map_value_append {b : Bindings} {is : List Nat} (h : ∀ i ∈ is, i < b.values.length)
    (vs : List Value) : is.map (⟨b.values ++ vs⟩ : Bindings).value = is.map b.value :=
  List.map_congr_left fun i hi => value_append (h i hi) vs

theorem map_value_range' (b : Bindings) (vs : List Value) :
    (List.range' b.values.length vs.length).map (⟨b.values ++ vs⟩ : Bindings).value = vs := by
  apply List.ext_getElem
  · simp
  · intro i h₁ h₂
    have hi : b.values.length ≤ b.values.length + i := by omega
    simp [value, List.getD_eq_getElem?_getD, List.getElem?_append_right hi, List.getElem?_eq_getElem h₂]

end Bindings

namespace Select

/-! ### What the conditions hold -/

/-- Every slot that a condition names was given out. -/
structure WellBound (s : Select) : Prop where
  wheres : ∀ i ∈ s.wheres.flatMap Piece.slots, i < s.bindings.values.length
  havings : ∀ i ∈ s.havings.flatMap Piece.slots, i < s.bindings.values.length

/-- The values that the conditions on rows hold, in the order of the text. -/
def rowParams (s : Select) : List Value := (s.wheres.flatMap Piece.slots).map s.bindings.value

/-- The values that the conditions on groups hold, in the order of the text. -/
def groupParams (s : Select) : List Value := (s.havings.flatMap Piece.slots).map s.bindings.value

theorem slots_conditions (keyword : String) (cs : List (List Piece)) :
    Piece.slots (conditions keyword cs) = cs.flatMap Piece.slots := by
  cases cs with
  | nil => rfl
  | cons c cs =>
    simp only [conditions, List.isEmpty_cons, Bool.false_eq_true, if_false, Piece.slots,
      Piece.slots_between]

theorem slots_clause (keyword separator : String) (entries : List String) :
    Piece.slots (clause keyword separator entries) = [] := by
  cases entries <;> rfl

theorem slots_pieces (s : Select) :
    Piece.slots s.pieces = s.wheres.flatMap Piece.slots ++ s.havings.flatMap Piece.slots := by
  have hj : ∀ js : List String, Piece.slots (js.map fun j => .sql (" " ++ j)) = [] := by
    intro js
    induction js with
    | nil => rfl
    | cons j js ih => simpa [Piece.slots] using ih
  cases ho : s.offset <;>
    simp [pieces, Piece.slots, Piece.slots_append, slots_conditions, slots_clause, hj, ho]

theorem params_statement (s : Select) : s.statement.params = s.rowParams ++ s.groupParams := by
  simp only [statement, Piece.statement, slots_pieces, List.map_append, rowParams, groupParams]

/-! ### What a step adds -/

/-- The values that a step binds for the conditions on rows, in the order of the text. -/
def Step.rowValues : Step → List Value
  | .condition f => if f.enabled then f.bound else []
  | .search cs term =>
    if Text.allBlank term then []
    else List.replicate cs.length (searchPattern (Text.trimmed term))
  | _ => []

/-- The values that a step binds for the conditions on groups, in the order of the text. -/
def Step.groupValues : Step → List Value
  | .having f => if f.enabled then f.bound else []
  | _ => []

def Step.isHaving : Step → Bool
  | .having _ => true
  | _ => false

/-- The values bound for the conditions on rows by those of some steps that are not refused. -/
def rowValues (s : Select) : List Step → List Value
  | [] => []
  | st :: rest =>
    (if (s.attempt st).refusal? = none then st.rowValues else []) ++ (s.after st).rowValues rest

/-- The values bound for the conditions on groups by those of some steps that are not refused. -/
def groupValues (s : Select) : List Step → List Value
  | [] => []
  | st :: rest =>
    (if (s.attempt st).refusal? = none then st.groupValues else [])
      ++ (s.after st).groupValues rest

/-- The values of some slots under bindings that grew by `vs`, when the last of the slots are new. -/
theorem map_value_grow {b : Bindings} {is js : List Nat} {vs ws : List Value}
    (h : ∀ i ∈ is, i < b.values.length)
    (hj : js.map (⟨b.values ++ vs⟩ : Bindings).value = ws) :
    (is ++ js).map (⟨b.values ++ vs⟩ : Bindings).value = is.map b.value ++ ws := by
  rw [List.map_append, Bindings.map_value_append h, hj]

theorem slots_searchPieces (d : Dialect) (cs : List String) (n : Nat) :
    Piece.slots (searchPieces d cs n) = List.replicate cs.length n := by
  have h : ∀ cs : List String, (cs.map fun c =>
      [Piece.sql ("LOWER(" ++ d.column c ++ ") LIKE "), Piece.param n]).flatMap Piece.slots =
      List.replicate cs.length n := by
    intro cs
    induction cs with
    | nil => rfl
    | cons c cs ih =>
      rw [List.map_cons, List.flatMap_cons, ih]
      rfl
  simp [searchPieces, Piece.slots, Piece.slots_append, Piece.slots_between, h]

/-- What a step makes of the conditions: they stay well bound, and hold besides what they held the
values of the step. -/
structure Extends (s : Select) (st : Step) (t : Select) : Prop where
  wellBound : t.WellBound
  rows : t.rowParams = s.rowParams ++ st.rowValues
  groups : t.groupParams = s.groupParams ++ st.groupValues

theorem extends_row {s : Select} (h : s.WellBound) {st : Step} {c : List Piece} {vs : List Value}
    (hc : ∀ i ∈ Piece.slots c, i < s.bindings.values.length + vs.length)
    (hv : (Piece.slots c).map (⟨s.bindings.values ++ vs⟩ : Bindings).value = st.rowValues)
    (hg : st.groupValues = []) :
    s.Extends st { s with wheres := s.wheres ++ [c], bindings := ⟨s.bindings.values ++ vs⟩ } where
  wellBound := by
    constructor
    · intro i hi
      simp only [List.flatMap_append, List.mem_append, List.flatMap_singleton] at hi
      rw [List.length_append]
      rcases hi with hi | hi
      · exact Nat.lt_add_right _ (h.wheres i hi)
      · exact hc i hi
    · intro i hi
      rw [List.length_append]
      exact Nat.lt_add_right _ (h.havings i hi)
  rows := by
    simp only [rowParams, List.flatMap_append, List.flatMap_singleton]
    exact map_value_grow h.wheres hv
  groups := by
    rw [hg, List.append_nil]
    exact Bindings.map_value_append h.havings vs

theorem extends_group {s : Select} (h : s.WellBound) {st : Step} {c : List Piece} {vs : List Value}
    (hc : ∀ i ∈ Piece.slots c, i < s.bindings.values.length + vs.length)
    (hv : (Piece.slots c).map (⟨s.bindings.values ++ vs⟩ : Bindings).value = st.groupValues)
    (hr : st.rowValues = []) :
    s.Extends st { s with havings := s.havings ++ [c], bindings := ⟨s.bindings.values ++ vs⟩ } where
  wellBound := by
    constructor
    · intro i hi
      rw [List.length_append]
      exact Nat.lt_add_right _ (h.wheres i hi)
    · intro i hi
      simp only [List.flatMap_append, List.mem_append, List.flatMap_singleton] at hi
      rw [List.length_append]
      rcases hi with hi | hi
      · exact Nat.lt_add_right _ (h.havings i hi)
      · exact hc i hi
  rows := by
    rw [hr, List.append_nil]
    exact Bindings.map_value_append h.wheres vs
  groups := by
    simp only [groupParams, List.flatMap_append, List.flatMap_singleton]
    exact map_value_grow h.havings hv

theorem extends_of_eq {s t : Select} (st : Step) (h : s.WellBound) (hw : t.wheres = s.wheres)
    (hh : t.havings = s.havings) (hb : t.bindings = s.bindings)
    (hr : st.rowValues = []) (hg : st.groupValues = []) : s.Extends st t where
  wellBound := ⟨by rw [hw, hb]; exact h.wheres, by rw [hh, hb]; exact h.havings⟩
  rows := by rw [rowParams, hw, hb, hr, List.append_nil, rowParams]
  groups := by rw [groupParams, hh, hb, hg, List.append_nil, groupParams]

theorem mem_slots_filter {f : Filter} {d : Dialect} {n i : Nat}
    (h : i ∈ Piece.slots (f.pieces d n)) : i < n + f.bound.length := by
  rw [Filter.slots_pieces, List.mem_range'_1] at h
  exact h.2

theorem map_value_filter (f : Filter) (d : Dialect) (b : Bindings) :
    (Piece.slots (f.pieces d b.values.length)).map (⟨b.values ++ f.bound⟩ : Bindings).value =
      f.bound := by
  rw [Filter.slots_pieces, Bindings.map_value_range']

theorem map_value_search (d : Dialect) (cs : List String) (b : Bindings) (v : Value) :
    (Piece.slots (searchPieces d cs b.values.length)).map (⟨b.values ++ [v]⟩ : Bindings).value =
      List.replicate cs.length v := by
  have hv : (⟨b.values ++ [v]⟩ : Bindings).value b.values.length = v := by
    simp [Bindings.value]
  rw [slots_searchPieces, List.map_replicate, hv]

/-- Everything a step can do: it is refused before it binds anything, it adds one condition on rows or
one on groups, whose slots are those of what it binds, or it leaves conditions and bindings alone. -/
theorem attempt_cases (s : Select) (st : Step) :
    (∃ e, s.attempt st = .refused e s) ∨
    (∃ c vs, s.attempt st = .done { s with
        wheres := s.wheres ++ [c], bindings := ⟨s.bindings.values ++ vs⟩ } ∧
      (∀ i ∈ Piece.slots c, i < s.bindings.values.length + vs.length) ∧
      (Piece.slots c).map (⟨s.bindings.values ++ vs⟩ : Bindings).value = st.rowValues ∧
      st.groupValues = [] ∧ st.isHaving = false) ∨
    (∃ c vs, s.attempt st = .done { s with
        havings := s.havings ++ [c], bindings := ⟨s.bindings.values ++ vs⟩ } ∧
      (∀ i ∈ Piece.slots c, i < s.bindings.values.length + vs.length) ∧
      (Piece.slots c).map (⟨s.bindings.values ++ vs⟩ : Bindings).value = st.groupValues ∧
      st.rowValues = [] ∧ st.isHaving = true) ∨
    (∃ columns joins groups order limit offset,
      s.attempt st = .done { s with columns, joins, groups, order, limit, offset } ∧
      st.rowValues = [] ∧ st.groupValues = []) := by
  cases st with
  | condition f =>
    simp only [attempt, addWhere_eq]
    cases he : f.enabled with
    | false =>
      exact .inr (.inr (.inr ⟨_, _, _, _, _, _, rfl, by simp [Step.rowValues, he], rfl⟩))
    | true =>
      cases f.refusal? with
      | some e => exact .inl ⟨e, rfl⟩
      | none =>
        refine .inr (.inl ⟨_, _, rfl, fun i hi => mem_slots_filter hi, ?_, rfl, rfl⟩)
        rw [map_value_filter, Step.rowValues, he, if_pos rfl]
  | having f =>
    simp only [attempt, addHaving_eq]
    cases he : f.enabled with
    | false =>
      exact .inr (.inr (.inr ⟨_, _, _, _, _, _, rfl, rfl, by simp [Step.groupValues, he]⟩))
    | true =>
      cases f.refusal? with
      | some e => exact .inl ⟨e, rfl⟩
      | none =>
        refine .inr (.inr (.inl ⟨_, _, rfl, fun i hi => mem_slots_filter hi, ?_, rfl, rfl⟩))
        rw [map_value_filter, Step.groupValues, he, if_pos rfl]
  | search cs term =>
    simp only [attempt, addSearch_eq]
    cases hb : Text.allBlank term with
    | true =>
      exact .inr (.inr (.inr ⟨_, _, _, _, _, _, rfl, by simp [Step.rowValues, hb], rfl⟩))
    | false =>
      by_cases hc : cs = []
      · rw [if_pos (.inr hc)]
        exact .inr (.inr (.inr ⟨_, _, _, _, _, _, rfl, by simp [Step.rowValues, hc], rfl⟩))
      · rw [if_neg (by simp [hc])]
        refine .inr (.inl ⟨_, [searchPattern (Text.trimmed term)], rfl, fun i hi => ?_, ?_, rfl, rfl⟩)
        · rw [slots_searchPieces] at hi
          simp [List.eq_of_mem_replicate hi]
        · rw [map_value_search, Step.rowValues, hb]
          rfl
  | columns cs =>
    simp only [attempt, setColumns]
    cases cs.mapM (·.entry s.dialect) with
    | error e => exact .inl ⟨e, rfl⟩
    | ok es => exact .inr (.inr (.inr ⟨_, _, _, _, _, _, rfl, rfl, rfl⟩))
  | join j =>
    simp only [attempt, addJoin]
    cases Sql.checkJoin s.dialect j.on with
    | error e => exact .inl ⟨_, rfl⟩
    | ok u => exact .inr (.inr (.inr ⟨_, _, _, _, _, _, rfl, rfl, rfl⟩))
  | group c =>
    simp only [attempt, addGroup]
    cases c.expression s.dialect with
    | error e => exact .inl ⟨e, rfl⟩
    | ok e =>
      refine .inr (.inr (.inr ?_))
      dsimp only
      split
      · exact ⟨_, _, _, _, _, _, rfl, rfl, rfl⟩
      · exact ⟨_, _, _, _, _, _, rfl, rfl, rfl⟩
  | order target direction => exact .inr (.inr (.inr ⟨_, _, _, _, _, _, rfl, rfl, rfl⟩))
  | limit n => exact .inr (.inr (.inr ⟨_, _, _, _, _, _, rfl, rfl, rfl⟩))
  | offset n => exact .inr (.inr (.inr ⟨_, _, _, _, _, _, rfl, rfl, rfl⟩))

theorem after_of_refused {s : Select} {st : Step} (h : (s.attempt st).refusal? ≠ none) :
    s.after st = s := by
  rcases attempt_cases s st with ⟨e, he⟩ | ⟨c, vs, he, -⟩ | ⟨c, vs, he, -⟩ |
    ⟨_, _, _, _, _, _, he, -⟩
  · rw [after, he, Attempt.left]
  all_goals exact absurd (by rw [he]; rfl) h

/-- A step that is not refused adds its values to what the conditions hold. -/
theorem extends_after {s : Select} (h : s.WellBound) (st : Step)
    (ha : (s.attempt st).refusal? = none) : s.Extends st (s.after st) := by
  rcases attempt_cases s st with ⟨e, he⟩ | ⟨c, vs, he, hc, hv, hg, -⟩ | ⟨c, vs, he, hc, hv, hr, -⟩ |
    ⟨_, _, _, _, _, _, he, hr, hg⟩
  · rw [he] at ha
    cases ha
  · rw [after, he]
    exact extends_row h hc hv hg
  · rw [after, he]
    exact extends_group h hc hv hr
  · rw [after, he]
    exact extends_of_eq st h rfl rfl rfl hr hg

theorem dialect_after (s : Select) (st : Step) : (s.after st).dialect = s.dialect := by
  rcases attempt_cases s st with ⟨e, he⟩ | ⟨c, vs, he, -⟩ | ⟨c, vs, he, -⟩ |
    ⟨_, _, _, _, _, _, he, -⟩ <;> rw [after, he] <;> rfl

theorem table_after (s : Select) (st : Step) : (s.after st).table = s.table := by
  rcases attempt_cases s st with ⟨e, he⟩ | ⟨c, vs, he, -⟩ | ⟨c, vs, he, -⟩ |
    ⟨_, _, _, _, _, _, he, -⟩ <;> rw [after, he] <;> rfl

theorem dialect_foldl_after (steps : List Step) (s : Select) :
    (steps.foldl after s).dialect = s.dialect := by
  induction steps generalizing s with
  | nil => rfl
  | cons st steps ih => rw [List.foldl_cons, ih, dialect_after]

theorem havings_after_of_isHaving {s : Select} {st : Step} (h : st.isHaving = false) :
    (s.after st).havings = s.havings := by
  rcases attempt_cases s st with ⟨e, he⟩ | ⟨c, vs, he, -⟩ | ⟨c, vs, -, -, -, -, hh⟩ |
    ⟨_, _, _, _, _, _, he, -⟩
  · rw [after, he, Attempt.left]
  · rw [after, he, Attempt.left]
  · rw [h] at hh
    cases hh
  · rw [after, he, Attempt.left]

/-! ### Runs of steps -/

theorem wellBound_ofTable (d : Dialect) (table : String) : (ofTable d table).WellBound :=
  ⟨by simp [ofTable], by simp [ofTable]⟩

/-- Along any run of steps, the conditions hold the values of the steps that were not refused. -/
theorem foldl_after_params (steps : List Step) (s : Select) (h : s.WellBound) :
    (steps.foldl after s).WellBound ∧
      (steps.foldl after s).rowParams = s.rowParams ++ s.rowValues steps ∧
      (steps.foldl after s).groupParams = s.groupParams ++ s.groupValues steps := by
  induction steps generalizing s with
  | nil => simp [rowValues, groupValues, h]
  | cons st steps ih =>
    by_cases hr : (s.attempt st).refusal? = none
    · have he := extends_after h st hr
      obtain ⟨hw, hrow, hgroup⟩ := ih (s.after st) he.wellBound
      refine ⟨hw, ?_, ?_⟩
      · rw [List.foldl_cons, hrow, he.rows, rowValues, if_pos hr, List.append_assoc]
      · rw [List.foldl_cons, hgroup, he.groups, groupValues, if_pos hr, List.append_assoc]
    · have he := after_of_refused hr
      obtain ⟨hw, hrow, hgroup⟩ := ih s h
      rw [List.foldl_cons, he]
      refine ⟨hw, ?_, ?_⟩
      · rw [hrow, rowValues, if_neg hr, he, List.nil_append]
      · rw [hgroup, groupValues, if_neg hr, he, List.nil_append]

theorem params_foldl_after (steps : List Step) (d : Dialect) (table : String) :
    (steps.foldl after (ofTable d table)).statement.params =
      (ofTable d table).rowValues steps ++ (ofTable d table).groupValues steps := by
  obtain ⟨-, hrow, hgroup⟩ :=
    foldl_after_params steps (ofTable d table) (wellBound_ofTable d table)
  rw [params_statement, hrow, hgroup]
  rfl

/-! ### Steps on groups among the others -/

/-- The values that a step binds for the conditions on rows, none if it is refused. -/
def Step.heldRows : Step → List Value
  | .condition f => if f.refusal? = none then (Step.condition f).rowValues else []
  | st => st.rowValues

/-- The values that a step binds for the conditions on groups, none if it is refused. -/
def Step.heldGroups : Step → List Value
  | .having f => if f.refusal? = none then (Step.having f).groupValues else []
  | st => st.groupValues

theorem rowValues_eq_flatMap (s : Select) (steps : List Step) :
    s.rowValues steps = steps.flatMap Step.heldRows := by
  induction steps generalizing s with
  | nil => rfl
  | cons st steps ih =>
    rw [rowValues, ih, List.flatMap_cons]
    congr 1
    cases st with
    | condition f =>
      simp only [attempt, addWhere_eq, Step.heldRows, Step.rowValues]
      cases f.enabled <;> cases f.refusal? <;> simp [Attempt.refusal?]
    | search cs term => rfl
    | _ => simp [Step.heldRows, Step.rowValues]

theorem groupValues_eq_flatMap (s : Select) (steps : List Step) :
    s.groupValues steps = steps.flatMap Step.heldGroups := by
  induction steps generalizing s with
  | nil => rfl
  | cons st steps ih =>
    rw [groupValues, ih, List.flatMap_cons]
    congr 1
    cases st with
    | having f =>
      simp only [attempt, addHaving_eq, Step.heldGroups, Step.groupValues]
      cases f.enabled <;> cases f.refusal? <;> simp [Attempt.refusal?]
    | _ => simp [Step.heldGroups, Step.groupValues]

/-- What only some members of a list contribute to is the same for these members alone. -/
theorem flatMap_filter_of_nil {α β : Type} {p : α → Bool} {g : α → List β}
    (h : ∀ a, p a = false → g a = []) (l : List α) : (l.filter p).flatMap g = l.flatMap g := by
  induction l with
  | nil => rfl
  | cons a l ih =>
    cases hp : p a with
    | true => simp [hp, ih]
    | false => simp [hp, ih, h a hp]

/-- The skeleton of a selection without its conditions on groups. -/
def ungrouped (s : Select) : Select := ({ s with havings := [] } : Select).skeleton

theorem skeleton_eq_ungrouped (s : Select) :
    s.skeleton = { s.ungrouped with havings := s.havings.map (·.map Piece.skeleton) } := rfl

theorem ungrouped_having (s : Select) (f : Filter) :
    (s.after (.having f)).ungrouped = s.ungrouped := by
  simp only [after, attempt, addHaving_eq]
  cases f.enabled with
  | false => rfl
  | true => cases f.refusal? <;> rfl

theorem after_without_havings (s : Select) {st : Step} (h : st.isHaving = false) :
    ({ s with havings := [] } : Select).after st = { s.after st with havings := [] } := by
  cases st with
  | having f => cases h
  | condition f =>
    simp only [after, attempt, addWhere_eq]
    cases f.enabled with
    | false => rfl
    | true => cases f.refusal? <;> rfl
  | search cs term =>
    simp only [after, attempt, Attempt.left, addSearch_eq]
    split <;> rfl
  | columns cs =>
    simp only [after, attempt, setColumns]
    cases cs.mapM (·.entry s.dialect) <;> rfl
  | join j =>
    simp only [after, attempt, addJoin]
    cases Sql.checkJoin s.dialect j.on <;> rfl
  | group c =>
    simp only [after, attempt, addGroup]
    cases c.expression s.dialect with
    | error e => rfl
    | ok e =>
      simp only [Attempt.left]
      split <;> rfl
  | order target direction => rfl
  | limit n => rfl
  | offset n => rfl

theorem ungrouped_after {s t : Select} (h : s.ungrouped = t.ungrouped) {st : Step}
    (hst : st.isHaving = false) : (s.after st).ungrouped = (t.after st).ungrouped := by
  have ha := (attempt_skeleton h (.same st)).1
  change (({ s with havings := [] } : Select).after st).skeleton =
    (({ t with havings := [] } : Select).after st).skeleton at ha
  rw [after_without_havings s hst, after_without_havings t hst] at ha
  exact ha

/-- Leaving out the steps on groups leaves out the conditions on groups and nothing else. -/
theorem ungrouped_foldl_after (steps : List Step) {s t : Select} (h : s.ungrouped = t.ungrouped) :
    (steps.foldl after s).ungrouped =
      ((steps.filter fun st => !st.isHaving).foldl after t).ungrouped := by
  induction steps generalizing s t with
  | nil => exact h
  | cons st steps ih =>
    cases hst : st.isHaving with
    | true =>
      have hs : (s.after st).ungrouped = t.ungrouped := by
        cases st with
        | having f => rw [ungrouped_having, h]
        | _ => cases hst
      simpa [hst] using ih hs
    | false => simpa [hst] using ih (ungrouped_after h hst)

/-- The condition on groups that a step adds, without its values. -/
def Step.heldConditions (d : Dialect) : Step → List (List Piece)
  | .having f =>
    if f.enabled = true ∧ f.refusal? = none then [(f.pieces d 0).map Piece.skeleton] else []
  | _ => []

theorem havings_after (s : Select) (st : Step) :
    (s.after st).havings.map (·.map Piece.skeleton) =
      s.havings.map (·.map Piece.skeleton) ++ st.heldConditions s.dialect := by
  cases hst : st.isHaving with
  | true =>
    cases st with
    | having f =>
      simp only [after, attempt, addHaving_eq, Step.heldConditions]
      cases he : f.enabled with
      | false => simp [Attempt.left]
      | true =>
        cases hf : f.refusal? with
        | some e => simp [Attempt.left]
        | none =>
          have hc := (Filter.Alike.refl f).skeleton_pieces s.dialect s.bindings.values.length 0
          simp only [if_true, Attempt.left, List.map_append, List.map_cons, List.map_nil, hc,
            and_self]
    | _ => cases hst
  | false =>
    have hn : st.heldConditions s.dialect = [] := by
      cases st <;> first | rfl | cases hst
    rw [havings_after_of_isHaving hst, hn, List.append_nil]

theorem havings_foldl_after (steps : List Step) (s : Select) :
    (steps.foldl after s).havings.map (·.map Piece.skeleton) =
      s.havings.map (·.map Piece.skeleton) ++ steps.flatMap (·.heldConditions s.dialect) := by
  induction steps generalizing s with
  | nil => simp
  | cons st steps ih =>
    rw [List.foldl_cons, ih, havings_after, dialect_after, List.flatMap_cons, List.append_assoc]

/-- Runs in which the steps on groups are the same, and the others are the same, lead to one
statement, however the two kinds come through one another. -/
theorem statement_eq_of_filter {steps steps' : List Step} (d : Dialect) (table : String)
    (ho : (steps.filter fun st => !st.isHaving) = steps'.filter fun st => !st.isHaving)
    (hh : steps.filter (·.isHaving) = steps'.filter (·.isHaving)) :
    (steps.foldl after (ofTable d table)).statement =
      (steps'.foldl after (ofTable d table)).statement := by
  have hskeleton : (steps.foldl after (ofTable d table)).skeleton =
      (steps'.foldl after (ofTable d table)).skeleton := by
    have hu : (steps.foldl after (ofTable d table)).ungrouped =
        (steps'.foldl after (ofTable d table)).ungrouped := by
      rw [ungrouped_foldl_after steps rfl, ho, ← ungrouped_foldl_after steps' rfl]
    have hc : (steps.foldl after (ofTable d table)).havings.map (·.map Piece.skeleton) =
        (steps'.foldl after (ofTable d table)).havings.map (·.map Piece.skeleton) := by
      have hnil : ∀ st : Step, st.isHaving = false → st.heldConditions d = [] := by
        intro st hst
        cases st <;> first | rfl | cases hst
      rw [havings_foldl_after, havings_foldl_after]
      change [] ++ steps.flatMap (·.heldConditions d) = [] ++ steps'.flatMap (·.heldConditions d)
      rw [← flatMap_filter_of_nil hnil, hh, flatMap_filter_of_nil hnil]
    rw [skeleton_eq_ungrouped, hu, hc]
    rfl
  have hrows : (ofTable d table).rowValues steps = (ofTable d table).rowValues steps' := by
    have hnil : ∀ st : Step, (!st.isHaving) = false → st.heldRows = [] := by
      intro st hst
      cases st <;> first | rfl | cases hst
    rw [rowValues_eq_flatMap, rowValues_eq_flatMap, ← flatMap_filter_of_nil hnil, ho,
      flatMap_filter_of_nil hnil]
  have hgroups : (ofTable d table).groupValues steps = (ofTable d table).groupValues steps' := by
    have hnil : ∀ st : Step, st.isHaving = false → st.heldGroups = [] := by
      intro st hst
      cases st <;> first | rfl | cases hst
    rw [groupValues_eq_flatMap, groupValues_eq_flatMap, ← flatMap_filter_of_nil hnil, hh,
      flatMap_filter_of_nil hnil]
  have hparams : (steps.foldl after (ofTable d table)).statement.params =
      (steps'.foldl after (ofTable d table)).statement.params := by
    rw [params_foldl_after, params_foldl_after, hrows, hgroups]
  have hshape := shape_eq_of_skeleton hskeleton
  exact Statement.ext (congrArg Prod.fst hshape) hparams

/-! ### Copies -/

/-- A selection under construction with the steps that led to it. -/
structure Branch where
  select : Select
  steps : List Step

namespace Branch

def start (d : Dialect) (table : String) : Branch := ⟨ofTable d table, []⟩

def extend (b : Branch) (st : Step) : Branch := ⟨b.select.after st, b.steps ++ [st]⟩

/-- The selection is what the steps make of a new one. -/
def Led (d : Dialect) (table : String) (b : Branch) : Prop :=
  b.select = b.steps.foldl after (ofTable d table)

end Branch

/-- A call on one of several selections, known by their numbers. -/
inductive Call where
  | step (i : Nat) (st : Step)
  | clone (i : Nat)

/-- Makes a step on one selection, or copies one; the copy is put behind the others. -/
def Call.perform (bs : List Branch) : Call → List Branch
  | .step i st => bs.modify i (·.extend st)
  | .clone i => bs ++ bs[i]?.toList

/-- The selections after some calls that begin with one new selection. -/
def branches (d : Dialect) (table : String) (calls : List Call) : List Branch :=
  calls.foldl Call.perform [.start d table]

theorem Branch.led_extend {d : Dialect} {table : String} {b : Branch} (h : b.Led d table)
    (st : Step) : (b.extend st).Led d table := by
  simp only [Led, extend, List.foldl_append, List.foldl_cons, List.foldl_nil]
  rw [h]

theorem Call.led_perform {d : Dialect} {table : String} {bs : List Branch}
    (h : ∀ b ∈ bs, b.Led d table) (call : Call) : ∀ b ∈ call.perform bs, b.Led d table := by
  intro b hb
  cases call with
  | step i st =>
    obtain ⟨k, hk⟩ := List.getElem?_of_mem hb
    simp only [perform, List.getElem?_modify, Option.map_eq_map, Option.map_eq_some_iff] at hk
    obtain ⟨a, ha, rfl⟩ := hk
    have hl := h a (List.mem_of_getElem? ha)
    split
    · exact Branch.led_extend hl st
    · exact hl
  | clone i =>
    simp only [perform, List.mem_append, Option.mem_toList] at hb
    rcases hb with hb | hb
    · exact h b hb
    · exact h b (List.mem_of_getElem? hb)

theorem led_foldl_perform {d : Dialect} {table : String} (calls : List Call) (bs : List Branch)
    (h : ∀ b ∈ bs, b.Led d table) : ∀ b ∈ calls.foldl Call.perform bs, b.Led d table := by
  induction calls generalizing bs with
  | nil => exact h
  | cons call calls ih => exact ih _ (Call.led_perform h call)

theorem led_branches (d : Dialect) (table : String) (calls : List Call) :
    ∀ b ∈ branches d table calls, b.Led d table := by
  exact led_foldl_perform calls _ (by simp [Branch.Led, Branch.start])

end Select

/-! ### Placeholders -/

/-- A text is that of some pieces: every piece of text as it stands, and of the parameters the first
as the first placeholder, the second as the second, and so on. -/
def Piece.Reads (d : Dialect) (ps : List Piece) (sql : String) : Prop :=
  ∃ texts : List String, sql = String.join texts ∧ texts.length = ps.length ∧
    ∀ (k : Nat) (p : Piece), ps[k]? = some p → texts[k]? = some (match p with
      | .sql t => t
      | .param _ => d.placeholder ((Piece.slots (ps.take k)).length + 1))

theorem Piece.exists_texts (d : Dialect) (ps : List Piece) (n : Nat) : ∃ texts : List String,
    Piece.textAfter d n ps = String.join texts ∧ texts.length = ps.length ∧
      ∀ (k : Nat) (p : Piece), ps[k]? = some p → texts[k]? = some (match p with
        | .sql t => t
        | .param _ => d.placeholder (n + (Piece.slots (ps.take k)).length + 1)) := by
  -- Each parameter puts one more placeholder in front of the rest.
  induction ps generalizing n with
  | nil => exact ⟨[], by simp [textAfter], rfl, by simp⟩
  | cons p ps ih =>
    cases p with
    | sql t =>
      obtain ⟨texts, ht, hl, hk⟩ := ih n
      refine ⟨t :: texts, by rw [textAfter, ht, String.join_cons], by simp [hl], ?_⟩
      intro k p hp
      cases k with
      | zero => simp at hp; simp [← hp]
      | succ k => simpa [slots] using hk k p hp
    | param slot =>
      obtain ⟨texts, ht, hl, hk⟩ := ih (n + 1)
      refine ⟨d.placeholder (n + 1) :: texts, by rw [textAfter, ht, String.join_cons],
        by simp [hl], ?_⟩
      intro k p hp
      cases k with
      | zero => simp at hp; simp [← hp, slots]
      | succ k =>
        have hnext := hk k p hp
        have hn : n + ((slots (ps.take k)).length + 1) + 1 =
            n + 1 + (slots (ps.take k)).length + 1 := by omega
        simpa [slots, hn] using hnext

theorem Piece.reads_textAfter (d : Dialect) (ps : List Piece) :
    Piece.Reads d ps (Piece.textAfter d 0 ps) := by
  simpa [Reads] using exists_texts d ps 0

/-! ### The parameters of a statement -/

namespace Select

/-- However selections are built step by step and copied from one another: the parameters of each
are the values bound by its steps on rows that were not refused, in the order of the steps, and then
those bound by its steps on groups; the i-th parameter in the text reads as the i-th placeholder; and
every slot that it names was given out. So two selections with the same steps on groups, and the same
other steps, have one statement, however the two kinds came through one another. -/
theorem statement_of_branches (d : Dialect) (table : String) (calls : List Call) :
    (∀ b ∈ branches d table calls,
      b.select.statement.params =
        (ofTable d table).rowValues b.steps ++ (ofTable d table).groupValues b.steps ∧
      b.select.statement.params.length = (Piece.slots b.select.pieces).length ∧
      Piece.Reads d b.select.pieces b.select.statement.sql ∧
      ∀ i ∈ Piece.slots b.select.pieces, i < b.select.bindings.values.length) ∧
    ∀ calls' : List Call, ∀ b ∈ branches d table calls, ∀ b' ∈ branches d table calls',
      b.steps.filter (·.isHaving) = b'.steps.filter (·.isHaving) →
      (b.steps.filter fun st => !st.isHaving) = (b'.steps.filter fun st => !st.isHaving) →
      b.select.statement = b'.select.statement := by
  refine ⟨fun b hb => ?_, fun calls' b hb b' hb' hh ho => ?_⟩
  · have hl : b.select = b.steps.foldl after (ofTable d table) := led_branches d table calls b hb
    obtain ⟨hw, -, -⟩ := foldl_after_params b.steps _ (wellBound_ofTable d table)
    rw [← hl] at hw
    refine ⟨?_, ?_, ?_, ?_⟩
    · rw [hl]
      exact params_foldl_after b.steps d table
    · simp only [statement, Piece.statement, List.length_map]
    · have hd : b.select.dialect = d := by
        rw [hl, dialect_foldl_after]
        rfl
      rw [statement, Piece.statement, hd]
      exact Piece.reads_textAfter d b.select.pieces
    · intro i hi
      rw [slots_pieces, List.mem_append] at hi
      exact hi.elim (hw.wheres i) (hw.havings i)
  · have hl : b.select = b.steps.foldl after (ofTable d table) := led_branches d table calls b hb
    have hl' : b'.select = b'.steps.foldl after (ofTable d table) :=
      led_branches d table calls' b' hb'
    rw [hl, hl']
    exact statement_eq_of_filter d table ho hh

end Select

end QueryDesk
