import QueryDesk.Proofs.Statement.Clauses
import QueryDesk.Proofs.Statement.Names

/-!
# Assigned values and their places

An INSERT names its columns in one list and its values in another; an UPDATE binds the values of its
conditions when they come, and the assigned values in front of them only when its statement is made.
Main statement: of each statement the entries stand in the order of the assignments, an expression
as it was written and any other value as the placeholder of its own parameter, the parameters of the
conditions come behind them, and the placeholders are numbered in the order of the text. An UPDATE
depends on the last assigned values and on its conditions, not on how the two came through one
another or on the statements that were made on the way.
-/

namespace QueryDesk

/-! ### Items in the order of the text -/

section placed

variable {α β : Type} {place : Nat → α → β} {bound : α → List Value}

theorem length_placed (n : Nat) (as : List α) : (placed place bound n as).length = as.length := by
  induction as generalizing n with
  | nil => rfl
  | cons a as ih => rw [placed, List.length_cons, ih, List.length_cons]

/-- An item has in front of it what the items before it bind. -/
theorem getElem?_placed {n i : Nat} {as : List α} {a : α} (h : as[i]? = some a) :
    (placed place bound n as)[i]? = some (place (n + ((as.take i).flatMap bound).length) a) := by
  induction as generalizing n i with
  | nil => simp at h
  | cons b bs ih =>
    cases i with
    | zero =>
      rw [List.getElem?_cons_zero, Option.some.injEq] at h
      subst h
      simp [placed]
    | succ i =>
      rw [List.getElem?_cons_succ] at h
      have hlength : n + (bound b).length + ((bs.take i).flatMap bound).length =
          n + (((b :: bs).take (i + 1)).flatMap bound).length := by
        rw [List.take_succ_cons, List.flatMap_cons, List.length_append, Nat.add_assoc]
      rw [placed, List.getElem?_cons_succ, ih h, hlength]

end placed

/-- The text of some items with a separator: each item has as many placeholders in front of it as
slots were given out before. -/
theorem Piece.textAfter_between_placed {α : Type} {place : Nat → α → List Piece}
    {bound : α → List Value} (h : ∀ n a, (slots (place n a)).length = (bound a).length)
    (separator : String) (d : Dialect) (n : Nat) (as : List α) :
    textAfter d n (between separator (placed place bound n as)) =
      Text.join separator (placed (fun n a => textAfter d n (place n a)) bound n as) := by
  rw [textAfter_between, texts_placed h]

theorem Piece.params_of_slots {d : Dialect} {vs : List Value} {ps : List Piece}
    (h : slots ps = List.range' 0 vs.length) : (statement d ⟨vs⟩ ps).params = vs := by
  have hvalues := Bindings.map_value_range' .none vs
  rw [statement, h]
  simpa [Bindings.none] using hvalues

/-! ### Assignments -/

namespace Assignment

/-- The assigned value in the text, with `n` placeholders in front of it. -/
def shown (d : Dialect) (n : Nat) (a : Assignment) : String :=
  match a.value.rawExpression? with
  | none => d.placeholder (n + 1)
  | some raw => Text.trimmed raw

/-- How many values the first assignments bind. -/
def boundBefore (values : List Assignment) (i : Nat) : Nat := ((values.take i).flatMap bound).length

/-- The values that are bound and not written out, in their order. -/
def plainValues (values : List Assignment) : List Value :=
  (values.map (·.value)).filter fun v => v.rawExpression?.isNone

theorem flatMap_bound (values : List Assignment) : values.flatMap bound = plainValues values := by
  induction values with
  | nil => rfl
  | cons a as ih =>
    rw [plainValues] at ih ⊢
    rw [List.flatMap_cons, ih, List.map_cons, List.filter_cons, bound]
    cases a.value.rawExpression? <;> rfl

theorem slots_placedAt (n : Nat) (a : Assignment) :
    Piece.slots [a.placedAt n] = List.range' n a.bound.length := by
  cases h : a.value.rawExpression? <;> simp [placedAt, bound, h, Piece.slots]

theorem textAfter_placedAt (d : Dialect) (n slot : Nat) (a : Assignment) :
    Piece.textAfter d n [a.placedAt slot] = a.shown d n := by
  cases h : a.value.rawExpression? <;> simp [placedAt, shown, h, Piece.textAfter]

end Assignment

/-! ### Inserts -/

namespace Insert

/-- A statement with one column and one value for each of the assigned values. -/
structure Aligned (d : Dialect) (table : String) (values : List Assignment) (st : Statement)
    (columns shown : List String) : Prop where
  text : st.sql = "INSERT INTO " ++ d.identifier table ++ " (" ++ Text.join ", " columns ++
    ") VALUES (" ++ Text.join ", " shown ++ ")"
  columns_length : columns.length = values.length
  shown_length : shown.length = values.length
  entry : ∀ (i : Nat) (a : Assignment), values[i]? = some a → columns[i]? = some (a.target d) ∧
    shown[i]? = some (a.shown d (Assignment.boundBefore values i))
  params : st.params = Assignment.plainValues values

theorem slots_accepted (s : Insert) :
    Piece.slots s.accepted = List.range' 0 (s.values.flatMap Assignment.bound).length := by
  have hslots := flatMap_slots_placed Assignment.slots_placedAt 0 s.values
  rw [accepted, map_placed, Piece.slots, Piece.slots_append, Piece.slots_between, hslots,
    Piece.slots, Piece.slots, List.append_nil]

theorem aligned (s : Insert) :
    Aligned s.dialect s.table s.values
      (Piece.statement s.dialect ⟨s.values.flatMap Assignment.bound⟩ s.accepted)
      (s.values.map (·.target s.dialect))
      (placed (fun n a => a.shown s.dialect n) Assignment.bound 0 s.values) where
  text := by
    have hlength : ∀ (n : Nat) (a : Assignment),
        (Piece.slots [a.placedAt n]).length = a.bound.length := by
      intro n a
      rw [Assignment.slots_placedAt, List.length_range']
    have htext := Piece.textAfter_between_placed hlength ", " s.dialect 0 s.values
    simp only [Assignment.textAfter_placedAt] at htext
    simp only [Piece.statement, accepted, map_placed, Piece.textAfter, Piece.textAfter_append,
      htext, String.append_assoc, String.append_empty]
  columns_length := List.length_map _
  shown_length := length_placed 0 s.values
  entry := by
    intro i a ha
    refine ⟨by rw [List.getElem?_map, ha]; rfl, ?_⟩
    rw [getElem?_placed ha, Nat.zero_add, Assignment.boundBefore]
  params := by
    rw [← Assignment.flatMap_bound]
    exact Piece.params_of_slots s.slots_accepted

end Insert

/-! ### Updates -/

namespace Update

/-- A statement with one entry for each assigned value, and then one condition for each filter,
whose placeholders are numbered from the first to the last parameter. -/
structure Aligned (d : Dialect) (table : String) (values : List Assignment) (filters : List Filter)
    (st : Statement) (entries conditions : List String) : Prop where
  text : st.sql = "UPDATE " ++ d.identifier table ++ " SET " ++ Text.join ", " entries ++
    if filters = [] then "" else " WHERE " ++ Text.join " AND " conditions
  entries_length : entries.length = values.length
  conditions_length : conditions.length = filters.length
  entry : ∀ (i : Nat) (a : Assignment), values[i]? = some a →
    entries[i]? = some (a.target d ++ " = " ++ a.shown d (Assignment.boundBefore values i))
  condition : ∀ (j : Nat) (f : Filter), filters[j]? = some f → conditions[j]? = some
    (Piece.textAfter d
      ((Assignment.plainValues values).length + ((filters.take j).flatMap Filter.bound).length)
      (f.pieces d 0))
  params : st.params = Assignment.plainValues values ++ filters.flatMap Filter.bound
  numbered : ∃ ps, Piece.Reads d ps st.sql ∧ Piece.slots ps = List.range st.params.length

/-- The pieces of an update that binds in the order of the text. -/
def inOrder (d : Dialect) (table : String) (values : List Assignment) (filters : List Filter) :
    List Piece :=
  .sql ("UPDATE " ++ d.identifier table ++ " SET ") ::
    (Piece.between ", " (placed (assignmentAt d) Assignment.bound 0 values) ++
      if filters = [] then [] else .sql " WHERE " :: Piece.between " AND "
        (placed (fun n f => f.pieces d n) Filter.bound (values.flatMap Assignment.bound).length
          filters))

theorem slots_assignmentAt (d : Dialect) (n : Nat) (a : Assignment) :
    Piece.slots (assignmentAt d n a) = List.range' n a.bound.length := a.slots_placedAt n

theorem slots_inOrder (d : Dialect) (table : String) (values : List Assignment)
    (filters : List Filter) : Piece.slots (inOrder d table values filters) =
      List.range' 0 (values.flatMap Assignment.bound ++ filters.flatMap Filter.bound).length := by
  have hsets := flatMap_slots_placed (slots_assignmentAt d) 0 values
  have hrow : ∀ n (f : Filter), Piece.slots (f.pieces d n) = List.range' n f.bound.length :=
    fun n f => f.slots_pieces d n
  have hrows := flatMap_slots_placed hrow (values.flatMap Assignment.bound).length filters
  have happend := List.range'_append_1 (s := 0) (m := (values.flatMap Assignment.bound).length)
    (n := (filters.flatMap Filter.bound).length)
  rw [Nat.zero_add] at happend
  rw [inOrder, Piece.slots, Piece.slots_append, Piece.slots_between, hsets, List.length_append,
    ← happend]
  congr 1
  by_cases hf : filters = []
  · simp [hf, Piece.slots]
  · rw [if_neg hf, Piece.slots, Piece.slots_between, hrows]

theorem textAfter_pieces (d : Dialect) (n slot : Nat) (f : Filter) :
    Piece.textAfter d n (f.pieces d slot) = Piece.textAfter d n (f.pieces d 0) :=
  Piece.textAfter_eq_of_skeleton ((Filter.Alike.refl f).skeleton_pieces d slot 0)

theorem aligned_inOrder (d : Dialect) (table : String) (values : List Assignment)
    (filters : List Filter) :
    Aligned d table values filters
      (Piece.statement d ⟨values.flatMap Assignment.bound ++ filters.flatMap Filter.bound⟩
        (inOrder d table values filters))
      (placed (fun n a => a.target d ++ " = " ++ a.shown d n) Assignment.bound 0 values)
      (placed (fun n f => Piece.textAfter d n (f.pieces d 0)) Filter.bound
        (values.flatMap Assignment.bound).length filters) where
  text := by
    have hset : ∀ n a, (Piece.slots (assignmentAt d n a)).length = a.bound.length := by
      intro n a
      rw [slots_assignmentAt, List.length_range']
    have hrow : ∀ n (f : Filter), (Piece.slots (f.pieces d n)).length = f.bound.length := by
      intro n f
      rw [f.slots_pieces, List.length_range']
    have hentry : ∀ n (a : Assignment), Piece.textAfter d n (assignmentAt d n a) =
        a.target d ++ " = " ++ a.shown d n := by
      intro n a
      rw [assignmentAt, Piece.textAfter, a.textAfter_placedAt]
    have hsets := Piece.textAfter_between_placed hset ", " d 0 values
    have hrows := Piece.textAfter_between_placed hrow " AND " d
      (values.flatMap Assignment.bound).length filters
    have hslots := flatMap_slots_placed (slots_assignmentAt d) 0 values
    simp only [hentry] at hsets
    simp only [textAfter_pieces d _ _ _] at hrows
    simp only [Piece.statement, inOrder, Piece.textAfter, Piece.textAfter_append, hsets,
      Piece.slots_between, hslots, List.length_range', Nat.zero_add, String.append_assoc]
    by_cases hf : filters = []
    · simp only [hf, if_true, Piece.textAfter]
    · simp only [hf, if_false, Piece.textAfter, hrows]
  entries_length := length_placed 0 values
  conditions_length := length_placed _ filters
  entry := by
    intro i a ha
    rw [getElem?_placed ha, Nat.zero_add, Assignment.boundBefore]
  condition := by
    intro j f hf
    rw [getElem?_placed hf, ← Assignment.flatMap_bound]
  params := by
    rw [← Assignment.flatMap_bound]
    exact Piece.params_of_slots (slots_inOrder d table values filters)
  numbered := by
    refine ⟨inOrder d table values filters, Piece.reads_textAfter d _, ?_⟩
    rw [Piece.statement, List.length_map, slots_inOrder, List.length_range', List.range_eq_range']

/-! ### What the conditions hold -/

/-- The conditions of an update are those of some filters, and hold their values. -/
structure Holds (s : Update) (filters : List Filter) : Prop where
  texts : s.wheres.map (·.map Piece.skeleton) =
    filters.map fun f => (f.pieces s.dialect 0).map Piece.skeleton
  slots : ∀ i ∈ s.wheres.flatMap Piece.slots, i < s.bindings.values.length
  params : (s.wheres.flatMap Piece.slots).map s.bindings.value = filters.flatMap Filter.bound

variable {s : Update} {fs : List Filter}

theorem Holds.add (h : s.Holds fs) (f : Filter) :
    ({ s with
      wheres := s.wheres ++ [f.pieces s.dialect s.bindings.values.length]
      bindings := ⟨s.bindings.values ++ f.bound⟩ } : Update).Holds (fs ++ [f]) where
  texts := by
    have hf := (Filter.Alike.refl f).skeleton_pieces s.dialect s.bindings.values.length 0
    simp only [List.map_append, List.map_cons, List.map_nil, h.texts, hf]
  slots := by
    intro i hi
    simp only [List.flatMap_append, List.mem_append, List.flatMap_singleton] at hi
    rcases hi with hi | hi
    · rw [List.length_append]
      exact Nat.lt_add_right _ (h.slots i hi)
    · rw [List.length_append]
      exact Select.mem_slots_filter hi
  params := by
    have hf := Select.map_value_filter f s.dialect s.bindings
    simp only [List.flatMap_append, List.flatMap_singleton]
    rw [Select.map_value_grow h.slots hf, h.params]

/-- The filters that a step which is not refused adds. -/
def Step.filters : Step → List Filter
  | .values _ => []
  | .condition f => if f.enabled then [f] else []

def held (s : Update) : List Step → List Filter
  | [] => []
  | st :: rest =>
    (if (s.attempt st).refusal? = none then st.filters else []) ++ (s.after st).held rest

theorem Holds.after (h : s.Holds fs) (st : Step) :
    (s.after st).Holds
      (fs ++ if (s.attempt st).refusal? = none then st.filters else []) := by
  cases st with
  | values vs =>
    simp only [Step.filters, ite_self, List.append_nil]
    exact ⟨h.texts, h.slots, h.params⟩
  | condition f =>
    simp only [Update.after, attempt, addWhere_eq, Step.filters]
    cases f.enabled with
    | false => simpa [Attempt.left] using h
    | true =>
      cases f.refusal? with
      | some e => simpa [Attempt.left, Attempt.refusal?] using h
      | none => simpa [Attempt.left, Attempt.refusal?] using h.add f

theorem Holds.run (h : s.Holds fs) (steps : List Step) :
    (steps.foldl Update.after s).Holds (fs ++ s.held steps) := by
  induction steps generalizing s fs with
  | nil => simpa [held] using h
  | cons st steps ih =>
    have hnext := ih (h.after st)
    rwa [List.append_assoc] at hnext

theorem holds_ofTable (d : Dialect) (table : String) : (ofTable d table).Holds [] :=
  ⟨rfl, by simp [ofTable], rfl⟩

theorem held_eq (s : Update) (steps : List Step) :
    s.held steps = steps.flatMap fun
      | .condition f => if f.isAccepted then [f] else []
      | .values _ => [] := by
  induction steps generalizing s with
  | nil => rfl
  | cons st steps ih =>
    rw [held, ih, List.flatMap_cons]
    congr 1
    cases st with
    | values vs => simp [Step.filters]
    | condition f =>
      cases he : f.enabled <;> cases hr : f.refusal? <;>
        simp [attempt, addWhere_eq, Step.filters, Filter.isAccepted, Attempt.refusal?, he, hr]

/-! ### The statement -/

/-- The text of an update is that of its conditions bound in the order of the text. -/
theorem Holds.textAfter_accepted (h : s.Holds fs) :
    Piece.textAfter s.dialect 0 s.accepted =
      Piece.textAfter s.dialect 0 (inOrder s.dialect s.table s.values fs) := by
  apply Piece.textAfter_eq_of_skeleton
  have hsets : ∀ n, (placed (assignmentAt s.dialect) Assignment.bound n s.values).map
      (·.map Piece.skeleton) = s.values.map (assignmentAt s.dialect 0) := by
    intro n
    rw [map_placed]
    exact placed_eq_map (skeleton_assignmentAt s.dialect) _ _ _
  have hrows : ∀ n, (placed (fun n (f : Filter) => f.pieces s.dialect n) Filter.bound n fs).map
      (·.map Piece.skeleton) = s.wheres.map (·.map Piece.skeleton) := by
    intro n
    rw [map_placed, h.texts]
    exact placed_eq_map (fun n f => (Filter.Alike.refl f).skeleton_pieces s.dialect n 0) _ _ _
  have hempty : s.wheres = [] ↔ fs = [] := by
    rw [← List.map_eq_nil_iff (f := (·.map Piece.skeleton)), h.texts, List.map_eq_nil_iff]
  simp only [accepted, inOrder, List.map_cons, List.map_append, Piece.between_map_skeleton, hsets,
    List.isEmpty_iff, hempty]
  by_cases hf : fs = []
  · simp only [hf, if_true]
  · simp only [hf, if_false, List.map_cons, Piece.between_map_skeleton, hrows]

theorem Holds.params_accepted (h : s.Holds fs) :
    (Piece.slots s.accepted).map
        (⟨s.bindings.values ++ s.values.flatMap Assignment.bound⟩ : Bindings).value =
      s.values.flatMap Assignment.bound ++ fs.flatMap Filter.bound := by
  have hsets := flatMap_slots_placed (slots_assignmentAt s.dialect) s.bindings.values.length
    s.values
  have hrows : Piece.slots (if s.wheres.isEmpty then [] else
      Piece.sql " WHERE " :: Piece.between " AND " s.wheres) = s.wheres.flatMap Piece.slots := by
    cases hw : s.wheres with
    | nil => rfl
    | cons c cs => simp [Piece.slots, Piece.slots_between]
  rw [accepted, Piece.slots, Piece.slots_append, Piece.slots_between, hsets, hrows, List.map_append,
    Bindings.map_value_range', Bindings.map_value_append h.slots, h.params]

/-- The statement of an update is made of its values and the filters that its conditions hold. -/
theorem Holds.statement_eq (h : s.Holds fs) :
    s.statement = match s.refusal? with
      | some e => .error e
      | none => .ok (Piece.statement s.dialect
          ⟨s.values.flatMap Assignment.bound ++ fs.flatMap Filter.bound⟩
          (inOrder s.dialect s.table s.values fs)) := by
  have horder := aligned_inOrder s.dialect s.table s.values fs
  have hstatement : Piece.statement s.dialect
      ⟨s.bindings.values ++ s.values.flatMap Assignment.bound⟩ s.accepted =
      Piece.statement s.dialect ⟨s.values.flatMap Assignment.bound ++ fs.flatMap Filter.bound⟩
        (inOrder s.dialect s.table s.values fs) := by
    apply Statement.ext
    · exact h.textAfter_accepted
    · rw [horder.params, ← Assignment.flatMap_bound]
      exact h.params_accepted
  cases hrefusal : s.refusal? with
  | some e => rw [Update.statement_eq, hrefusal]
  | none => rw [Update.statement_eq, hrefusal, hstatement]

theorem refusal?_eq_none_iff (s : Update) :
    s.refusal? = none ↔ s.values ≠ [] ∧ ∀ a ∈ s.values, ∀ raw,
      a.value.rawExpression? = some raw → Sql.checkRaw s.dialect raw = .ok () := by
  have hone : ∀ a : Assignment, a.refusal? s.dialect = none ↔
      ∀ raw, a.value.rawExpression? = some raw → Sql.checkRaw s.dialect raw = .ok () := by
    intro a
    cases hr : a.value.rawExpression? with
    | none => simp [Assignment.refusal?, hr]
    | some raw =>
      cases hc : Sql.checkRaw s.dialect raw with
      | error e => simp [Assignment.refusal?, hr, hc]
      | ok u => simp [Assignment.refusal?, hr, hc]
  rw [refusal?]
  by_cases he : s.values = []
  · simp [he]
  · simp only [List.isEmpty_iff, he, if_false, List.findSome?_eq_none_iff, hone, ne_eq,
      not_false_eq_true, true_and]

/-! ### Statements made on the way -/

/-- A call on an update: a step, or making its statement. -/
inductive Call where
  | step (st : Step)
  | build

/-- A statement that was asked for, and the steps made until then. -/
structure Build where
  steps : List Step
  result : Except Refusal Statement

/-- The statements that some calls ask for; some steps were made before. -/
def builds (s : Update) (steps : List Step) : List Call → List Build
  | [] => []
  | .step st :: calls => (s.after st).builds (steps ++ [st]) calls
  | .build :: calls => ⟨steps, s.statement⟩ :: s.builds steps calls

theorem result_of_builds {s₀ : Update} {steps : List Step} (h : s = steps.foldl Update.after s₀)
    (calls : List Call) :
    ∀ b ∈ s.builds steps calls, b.result = (b.steps.foldl Update.after s₀).statement := by
  induction calls generalizing s steps with
  | nil => simp [builds]
  | cons call calls ih =>
    cases call with
    | step st =>
      apply ih
      rw [h, List.foldl_append, List.foldl_cons, List.foldl_nil]
    | build =>
      rw [builds, List.forall_mem_cons]
      exact ⟨by rw [h], ih h⟩

def Step.values? : Step → Option (List Assignment)
  | .values vs => some vs
  | .condition _ => none

def Step.isCondition : Step → Bool
  | .values _ => false
  | .condition _ => true

/-- The values assigned by the last step that assigns some. -/
def lastValues (steps : List Step) : List Assignment :=
  (steps.filterMap Step.values?).getLast?.getD []

theorem values_foldl_after (steps : List Step) (s : Update) :
    (steps.foldl Update.after s).values =
      (steps.filterMap Step.values?).getLast?.getD s.values := by
  induction steps generalizing s with
  | nil => rfl
  | cons st steps ih =>
    rw [List.foldl_cons, ih]
    cases st with
    | values vs =>
      have hstep : (Step.values vs).values? = some vs := rfl
      rw [List.filterMap_cons_some hstep, List.getLast?_cons, Option.getD_some]
      rfl
    | condition f =>
      have hkept : (s.after (.condition f)).values = s.values := by
        rw [Update.after, attempt, left_addWhere]
        split <;> rfl
      have hstep : (Step.condition f).values? = none := rfl
      rw [List.filterMap_cons_none hstep, hkept]

theorem held_eq_of_conditions {s t : Update} {steps steps' : List Step}
    (h : steps.filter (·.isCondition) = steps'.filter (·.isCondition)) :
    s.held steps = t.held steps' := by
  have hnil : ∀ st : Step, st.isCondition = false → (match st with
      | .condition f => if f.isAccepted then [f] else []
      | .values _ => ([] : List Filter)) = [] := by
    intro st hst
    cases st with
    | values vs => rfl
    | condition f => cases hst
  rw [held_eq, held_eq, ← Select.flatMap_filter_of_nil hnil, h, Select.flatMap_filter_of_nil hnil]

/-- The result of a build is a function of the last values and of the filters that were held. -/
theorem result_eq_inOrder {d : Dialect} {table : String} {calls : List Call} {b : Build}
    (hb : b ∈ (ofTable d table).builds [] calls) :
    b.result =
      match (⟨d, table, lastValues b.steps, [], .none⟩ : Update).refusal? with
      | some e => .error e
      | none => .ok (Piece.statement d
          ⟨(lastValues b.steps).flatMap Assignment.bound ++
            ((ofTable d table).held b.steps).flatMap Filter.bound⟩
          (inOrder d table (lastValues b.steps) ((ofTable d table).held b.steps))) := by
  have hstatement := ((holds_ofTable d table).run b.steps).statement_eq
  have hvalues := values_foldl_after b.steps (.ofTable d table)
  obtain ⟨hdialect, htable⟩ := foldl_after b.steps (.ofTable d table)
  rw [refusal?, hvalues, hdialect, htable, List.nil_append] at hstatement
  have hstart : ofTable d table = [].foldl after (.ofTable d table) := rfl
  rw [result_of_builds hstart calls b hb, hstatement]
  rfl

end Update

/-! ### Both -/

/-- Whatever calls are made on an update, each statement that is made has one entry per value of the
last assigned values and one condition per filter that was not refused, both in their order and with
the parameters of the entries in front, and is made exactly if there are values and their
expressions are accepted; two updates with the same last values and the same steps on conditions
have the same statement or the same refusal. And each statement of an insert has one column and one
value per assigned value. -/
theorem assignments_aligned :
    (∀ (d : Dialect) (table : String) (calls : List Update.Call),
      ∀ b ∈ (Update.ofTable d table).builds [] calls,
        (∀ st, b.result = .ok st → ∃ entries conditions,
          Update.Aligned d table (Update.lastValues b.steps) ((Update.ofTable d table).held b.steps)
            st entries conditions) ∧
        ((∃ st, b.result = .ok st) ↔ Update.lastValues b.steps ≠ [] ∧
          ∀ a ∈ Update.lastValues b.steps, ∀ raw, a.value.rawExpression? = some raw →
            Sql.checkRaw d raw = .ok ()) ∧
        ∀ calls', ∀ b' ∈ (Update.ofTable d table).builds [] calls',
          Update.lastValues b.steps = Update.lastValues b'.steps →
          b.steps.filter (·.isCondition) = b'.steps.filter (·.isCondition) →
          b.result = b'.result) ∧
    ∀ (s : Insert) (st : Statement), s.statement = .ok st →
      ∃ columns shown, Insert.Aligned s.dialect s.table s.values st columns shown := by
  refine ⟨fun d table calls => ?_, fun s st hst => ?_⟩
  · intro b hb
    have hiff := Update.refusal?_eq_none_iff ⟨d, table, Update.lastValues b.steps, [], .none⟩
    refine ⟨?_, ?_, ?_⟩
    · intro st hst
      rw [Update.result_eq_inOrder hb] at hst
      split at hst
      · cases hst
      · cases hst
        exact ⟨_, _, Update.aligned_inOrder d table _ _⟩
    · rw [Update.result_eq_inOrder hb, ← hiff]
      split
      next e he => simp [he]
      next hn => simp [hn]
    · intro calls' b' hb' hlast hconditions
      have hheld := Update.held_eq_of_conditions (s := .ofTable d table) (t := .ofTable d table)
        hconditions
      rw [Update.result_eq_inOrder hb, Update.result_eq_inOrder hb', hlast, hheld]
  · rw [s.statement_eq] at hst
    split at hst
    · cases hst
    · cases hst
      exact ⟨_, _, s.aligned⟩

/-- A condition that came first is bound first and numbered last; an expression has no number. -/
theorem assignments_aligned_after_condition :
    let f := Filter.on "users.id" .eq [.literal (.int 7)]
    let values := [⟨"name", .text "Bob"⟩, ⟨"users.age", .text "= age + 1 "⟩, ⟨"rank", .int 3⟩]
    let calls : List Update.Call :=
      [.step (.condition f), .build, .step (.values values), .build]
    let st : Statement :=
      ⟨"UPDATE \"users\" SET \"name\" = $1, \"age\" = age + 1, \"rank\" = $2" ++
        " WHERE \"users\".\"id\" = $3", [.text "Bob", .int 3, .int 7]⟩
    ⟨[.condition f, .values values], .ok st⟩ ∈
        (Update.ofTable .postgres "users").builds [] calls ∧
      ∃ entries conditions, Update.Aligned .postgres "users" values [f] st entries conditions := by
  intro f values calls st
  have hst : ([.condition f, .values values].foldl Update.after
      (.ofTable .postgres "users")).statement = .ok st := by decide +kernel
  have hbuild : ⟨[.condition f, .values values], .ok st⟩ ∈
      (Update.ofTable .postgres "users").builds [] calls := by
    rw [← hst]
    exact List.mem_cons_of_mem _ List.mem_cons_self
  have hheld : (Update.ofTable .postgres "users").held [.condition f, .values values] = [f] := by
    have haccepted : f.isAccepted = true := by decide +kernel
    simp only [Update.held_eq, List.flatMap_cons, List.flatMap_nil, haccepted, if_true,
      List.append_nil]
  have haligned := (assignments_aligned.1 .postgres "users" calls _ hbuild).1 st rfl
  rw [hheld] at haligned
  exact ⟨hbuild, haligned⟩

end QueryDesk
