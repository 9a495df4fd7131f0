import QueryDesk.Proofs.Filter.Canonical
import QueryDesk.Proofs.Query.Plan
import QueryDesk.Proofs.Statement.Clauses

/-!
# Where filters go

A typed filter that says something stands for one filter, under its own id, column and function. What
can be read from a filter text has as many values as its operator needs, but for a list, which may be
empty; so an empty list is all that a plan can refuse a filter for. The plan of a request is a run of
steps none of which is refused, so its clauses are those of its steps: a condition on rows for each
filter that aggregates nothing, then the search, and a condition on groups for each that does.

Main statement: `SelectPlan.filters_routed`.
-/

namespace QueryDesk

/-! ### What a typed filter stands for -/

theorem refusal?_addWhere {g : Filter} (h : g.enabled = true) (s : Select) :
    (s.addWhere g).refusal? = g.refusal? := by
  rw [Select.addWhere_eq, h, if_pos rfl]
  cases g.refusal? <;> rfl

theorem refusal?_addHaving {g : Filter} (h : g.enabled = true) (s : Select) :
    (s.addHaving g).refusal? = g.refusal? := by
  rw [Select.addHaving_eq, h, if_pos rfl]
  cases g.refusal? <;> rfl

/-- On a column with a name a filter is refused only for want of a value. -/
theorem Filter.refusal?_ne_none {f : Filter} (hcolumn : Text.allBlank f.column = false) :
    f.refusal? ≠ none ↔ f.operator.isNullCheck = false ∧ f.operands = [] := by
  rw [refusal?, hcolumn, if_neg (by simp)]
  cases f.operator <;> simp [Operator.isNullCheck]

/-- What is read without a value, though its operator needs one, is a list. -/
theorem Notation.Regular.valueless {r : Notation.Reading} (h : Notation.Regular r) :
    (r.operator.isNullCheck = false ∧ r.operands = []) ↔
      (r.operator.isList = true ∧ r.operands = []) := by
  cases h with
  | @null o kind =>
    have hlist : o.isList = false := by cases o <;> first | rfl | cases kind
    simp [kind, hlist]
  | @list o kind vs _ =>
    have hnull : o.isNullCheck = false := by cases o <;> first | rfl | cases kind
    simp [kind, hnull]
  | pattern kind s => simp
  | comparison kind scalar => simp

namespace ClientFilter

/-- The text is read as a list of nothing. -/
def IsEmptyList (f : ClientFilter) (schema : Schema) : Prop :=
  f.advanced = true ∧ ∃ o, o.isList = true ∧
    Notation.read f.value (schema.declared? f.column) = .ok ⟨o, []⟩

/-- The filter `g` is the one that a typed filter stands for: it goes by the same id, column and
function, it is looked at, and as a condition on rows or on groups of whatever selection it is refused
exactly if it was read as an empty list. -/
structure StandsFor (schema : Schema) (f : ClientFilter) (g : Filter) : Prop where
  id : g.id = f.id
  column : g.column = f.column
  function : g.function = f.function
  enabled : g.enabled = true
  row : ∀ s : Select, (s.addWhere g).refusal? ≠ none ↔ f.IsEmptyList schema
  group : ∀ s : Select, (s.addHaving g).refusal? ≠ none ↔ f.IsEmptyList schema

/-- All that a typed filter can become: what was read, or its text as it is behind the default
operator of the column. -/
theorem toFilter_eq_ok {f : ClientFilter} {schema : Schema} {g : Filter}
    (h : f.toFilter schema = .ok g) :
    ∃ r : Notation.Reading, g = { r.toFilter f.column with id := f.id, function := f.function } ∧
      ((f.advanced = true ∧ Notation.read f.value (schema.declared? f.column) = .ok r) ∨
        (f.advanced = false ∧ r = ⟨Operator.default (schema.declared? f.column) .like,
          [.literal (.text f.value)]⟩)) := by
  rw [toFilter] at h
  cases ha : f.advanced with
  | true =>
    cases hr : Notation.read f.value (schema.declared? f.column) with
    | error e => rw [ha, hr] at h; cases h
    | ok r =>
      rw [ha, hr] at h
      cases h
      exact ⟨r, rfl, .inl ⟨rfl, rfl⟩⟩
  | false =>
    rw [ha] at h
    cases h
    exact ⟨_, rfl, .inr ⟨rfl, rfl⟩⟩

theorem refusal?_toFilter {f : ClientFilter} {schema : Schema} {g : Filter}
    (hcolumn : Text.allBlank f.column = false) (h : f.toFilter schema = .ok g) :
    g.refusal? ≠ none ↔ f.IsEmptyList schema := by
  obtain ⟨r, rfl, ⟨ha, hread⟩ | ⟨ha, rfl⟩⟩ := toFilter_eq_ok h
  · have hvalueless := (Notation.regular_of_read hread).valueless
    rw [Filter.refusal?_ne_none hcolumn, IsEmptyList, hread]
    refine hvalueless.trans ⟨?_, ?_⟩
    · rintro ⟨hlist, hnone⟩
      exact ⟨ha, r.operator, hlist, by rw [← hnone]⟩
    · rintro ⟨-, o, hlist, ho⟩
      cases ho
      exact ⟨hlist, rfl⟩
  · rw [Filter.refusal?_ne_none hcolumn, IsEmptyList, ha]
    simp [Notation.Reading.toFilter, Filter.on]

theorem standsFor_of_toFilter {f : ClientFilter} {schema : Schema} {g : Filter}
    (hactive : f.isActive = true) (h : f.toFilter schema = .ok g) : StandsFor schema f g := by
  have hcolumn : Text.allBlank f.column = false := by
    simp only [isActive, Bool.and_eq_true, Bool.not_eq_true'] at hactive
    exact hactive.1.2
  have hrefusal := refusal?_toFilter hcolumn h
  obtain ⟨r, rfl, -⟩ := toFilter_eq_ok h
  refine ⟨rfl, rfl, rfl, rfl, fun s => ?_, fun s => ?_⟩
  · rw [← hrefusal, refusal?_addWhere rfl]
  · rw [← hrefusal, refusal?_addHaving rfl]

/-- The typed filters that say something stand for the filters, one for each and in their order. -/
theorem standsFor_of_toFilters {fs : List ClientFilter} {schema : Schema} {gs : List Filter}
    (h : toFilters fs schema = .ok gs) :
    List.Forall₂ (StandsFor schema) (fs.filter isActive) gs := by
  have hactive : ∀ f ∈ fs.filter isActive, f.isActive = true :=
    fun f hf => (List.mem_filter.1 hf).2
  exact ((List.forall₂_and_left _ _).2 ⟨hactive, forall₂_of_mapM h⟩).imp
    fun _ _ hfg => standsFor_of_toFilter hfg.1 hfg.2

theorem exists_of_mem_toFilters {fs : List ClientFilter} {schema : Schema} {gs : List Filter}
    (h : toFilters fs schema = .ok gs) {g : Filter} (hg : g ∈ gs) :
    ∃ f ∈ fs, f.isActive = true ∧ f.toFilter schema = .ok g := by
  obtain ⟨f, hf, hread⟩ := exists_of_mem_mapM h hg
  obtain ⟨hf, hactive⟩ := List.mem_filter.1 hf
  exact ⟨f, hf, hactive, hread⟩

end ClientFilter

/-! ### A plan as a run of steps -/

namespace SelectPlan

open Select (Step)

def routed (g : Filter) : Step := if g.isAggregate then .having g else .condition g

def searchSteps (o : QueryOptions) (schema : Schema) : List Step :=
  o.searchAll.toList.map fun term => .search (searchable (columnsFor o schema) schema) term

/-- The steps of a plan, up to the selection of columns. -/
def firstSteps (o : QueryOptions) (page : Page) (gs : List Filter) : List Step :=
  [.limit (page.size + 1), .offset page.offset] ++ o.joins.map .join ++
    (OrderBy.allowed o.orderBy o.selected).map (fun e => .order e.1 e.2) ++
    o.groupBy.map .group ++ gs.map routed

def planSteps (o : QueryOptions) (page : Page) (gs : List Filter) (schema : Schema) : List Step :=
  firstSteps o page gs ++ .columns (columnsFor o schema) :: searchSteps o schema

theorem after_of_refused_ok {s t : Select} {st : Step}
    (h : refused (s.attempt st).toExcept = .ok t) : t = s.after st := by
  rw [Select.after]
  cases ha : s.attempt st with
  | done u => rw [ha] at h; cases h; rfl
  | refused e u => rw [ha] at h; cases h

theorem addFilter_eq (s : Select) (g : Filter) :
    addFilter s g = refused (s.attempt (routed g)).toExcept := by
  rw [addFilter, routed]
  split <;> rfl

theorem foldl_of_foldlM {α : Type} {step : Select → α → Except Failure Select} {f : α → Step}
    (h : ∀ s a, step s a = refused (s.attempt (f a)).toExcept) {as : List α} {s t : Select}
    (hok : as.foldlM step s = .ok t) : t = (as.map f).foldl Select.after s := by
  induction as generalizing s with
  | nil => cases hok; rfl
  | cons a as ih =>
    rw [List.foldlM_cons] at hok
    obtain ⟨u, hu, hok⟩ := exists_of_bind_ok hok
    rw [h] at hu
    rw [ih hok, after_of_refused_ok hu, List.map_cons, List.foldl_cons]

theorem make_eq_ok {r : SelectRequest} {d : Dialect} {size : Nat} {schema : Schema}
    {plan : SelectPlan} (h : make r d size schema = .ok plan) :
    ∃ gs, ClientFilter.toFilters r.options.filters schema = .ok gs ∧
      plan.columns = columnsFor r.options schema ∧
      plan.select = (planSteps r.options plan.page gs schema).foldl Select.after
        (.ofTable d r.options.table) := by
  obtain ⟨page, -, h⟩ := exists_of_bind_ok h
  obtain ⟨s₁, h₁, h⟩ := exists_of_bind_ok h
  obtain ⟨s₂, h₂, h⟩ := exists_of_bind_ok h
  obtain ⟨gs, hgs, h⟩ := exists_of_bind_ok h
  obtain ⟨s₃, h₃, h⟩ := exists_of_bind_ok h
  obtain ⟨s₄, h₄, h⟩ := exists_of_bind_ok h
  cases h
  refine ⟨gs, hgs, rfl, ?_⟩
  have hjoins := foldl_of_foldlM (f := .join) (fun _ _ => rfl) h₁
  have hgroups := foldl_of_foldlM (f := .group) (fun _ _ => rfl) h₂
  have hfilters := foldl_of_foldlM addFilter_eq h₃
  have hcolumns : s₄ = s₃.after (.columns (columnsFor r.options schema)) := after_of_refused_ok h₄
  have horder : ∀ s : Select, (OrderBy.allowed r.options.orderBy r.options.selected).foldl
      (fun s e => s.addOrder e.1 e.2) s =
      ((OrderBy.allowed r.options.orderBy r.options.selected).map fun e =>
        Step.order e.1 e.2).foldl Select.after s := fun s => by rw [List.foldl_map]; rfl
  have hsearch : ∀ s : Select, search r.options schema s =
      (searchSteps r.options schema).foldl Select.after s := fun s => by
    rw [search, searchSteps]
    cases r.options.searchAll <;> rfl
  simp only [planSteps, firstSteps, List.foldl_append, List.foldl_cons, ← horder, ← hsearch]
  rw [hcolumns, hfilters, hgroups, hjoins]
  rfl

theorem fits_of_make {r : SelectRequest} {d : Dialect} {size : Nat} {schema : Schema}
    {plan : SelectPlan} (h : make r d size schema = .ok plan) : r.options.Fits d schema := by
  rcases make_cases r d size schema with ⟨-, he⟩ | ⟨-, -, e, he⟩ | ⟨-, hfits, -⟩
  · cases he.symm.trans h
  · cases he.symm.trans h
  · exact hfits

theorem dialect_of_make {r : SelectRequest} {d : Dialect} {size : Nat} {schema : Schema}
    {plan : SelectPlan} (h : make r d size schema = .ok plan) : plan.select.dialect = d := by
  obtain ⟨gs, -, -, hrun⟩ := make_eq_ok h
  rw [hrun, Select.dialect_foldl_after]
  rfl

/-- The list of columns is that of the columns of the plan; the search behind them leaves it alone. -/
theorem entries_of_make {r : SelectRequest} {d : Dialect} {size : Nat} {schema : Schema}
    {plan : SelectPlan} (h : make r d size schema = .ok plan) :
    (columnsFor r.options schema).mapM (·.entry d) = .ok plan.select.columns := by
  obtain ⟨gs, -, -, hrun⟩ := make_eq_ok h
  have hall := (fits_of_make h).columns
  have hsearch : ∀ cs, Step.columns cs ∉ searchSteps r.options schema := fun cs hcs => by
    obtain ⟨term, -, he⟩ := List.mem_map.1 hcs
    cases he
  rcases SelectedColumn.mapM_entry (columnsFor r.options schema) d with
    ⟨-, entries, hentries, -⟩ | ⟨hnot, -⟩
  · rw [hentries, hrun, planSteps, List.foldl_append, List.foldl_cons,
      Select.columns_foldl_after hsearch, Select.columns_after_columns]
    rw [Select.dialect_foldl_after]
    exact hentries
  · rw [List.all_eq_true.2 hall] at hnot
    cases hnot

/-! ### Its clauses -/

/-- The conditions of a search, if there is something to search for and something to search in. -/
def searchConditions (o : QueryOptions) (d : Dialect) (schema : Schema) : List (List Piece) :=
  (searchSteps o schema).flatMap (·.heldRowConditions d)

theorem length_searchConditions (o : QueryOptions) (d : Dialect) (schema : Schema) :
    (searchConditions o d schema).length ≤ 1 := by
  rw [searchConditions, searchSteps]
  cases o.searchAll with
  | none => simp
  | some term =>
    simp only [Option.toList_some, List.map_cons, List.map_nil, List.flatMap_singleton,
      Step.heldRowConditions]
    split <;> simp

theorem skeleton_searchConditions (o : QueryOptions) (d : Dialect) (schema : Schema) :
    (searchConditions o d schema).map (·.map Piece.skeleton) = searchConditions o d schema := by
  rw [searchConditions, searchSteps]
  cases o.searchAll with
  | none => rfl
  | some term =>
    simp only [Option.toList_some, List.map_cons, List.map_nil, List.flatMap_singleton,
      Step.heldRowConditions]
    split
    · rfl
    · rw [List.map_singleton, Select.searchPieces_skeleton]

def rowFilters (gs : List Filter) : List Filter := gs.filter fun g => !g.isAggregate

def groupFilters (gs : List Filter) : List Filter := gs.filter fun g => g.isAggregate

/-- What steps on groups do not contribute to comes from the filters on rows. -/
theorem flatMap_routed_rows {β : Type} {k : Step → List β} (h : ∀ g, k (.having g) = [])
    (gs : List Filter) :
    (gs.map routed).flatMap k = (rowFilters gs).flatMap fun g => k (.condition g) := by
  induction gs with
  | nil => rfl
  | cons g gs ih =>
    rw [rowFilters] at ih ⊢
    rw [List.map_cons, List.flatMap_cons, ih, routed]
    cases ha : g.isAggregate with
    | true => simp [ha, h]
    | false => simp [ha]

/-- What steps on rows do not contribute to comes from the filters on groups. -/
theorem flatMap_routed_groups {β : Type} {k : Step → List β} (h : ∀ g, k (.condition g) = [])
    (gs : List Filter) :
    (gs.map routed).flatMap k = (groupFilters gs).flatMap fun g => k (.having g) := by
  induction gs with
  | nil => rfl
  | cons g gs ih =>
    rw [groupFilters] at ih ⊢
    rw [List.map_cons, List.flatMap_cons, ih, routed]
    cases ha : g.isAggregate with
    | true => simp [ha]
    | false => simp [ha, h]

def isConditional : Step → Bool
  | .condition _ | .having _ | .search _ _ => true
  | _ => false

def isJoin : Step → Bool
  | .join _ => true
  | _ => false

section

variable {β : Type} {k : Step → List β} (o : QueryOptions) (page : Page) (gs : List Filter)
  (schema : Schema)

/-- What only joins and conditions contribute to comes from the joins, from the filters and from the
search of a plan. -/
theorem flatMap_planSteps
    (h : ∀ st, isJoin st = false → isConditional st = false → k st = []) :
    (planSteps o page gs schema).flatMap k = (o.joins.map Step.join).flatMap k ++
      (gs.map routed).flatMap k ++ (searchSteps o schema).flatMap k := by
  have hnil : ∀ steps : List Step,
      (∀ st ∈ steps, isJoin st = false ∧ isConditional st = false) → steps.flatMap k = [] :=
    fun steps hsteps => List.flatMap_eq_nil_iff.2 fun st hst =>
      h st (hsteps st hst).1 (hsteps st hst).2
  have hwindow := hnil [.limit (page.size + 1), .offset page.offset]
    (by simp [isJoin, isConditional])
  have horder := hnil ((OrderBy.allowed o.orderBy o.selected).map fun e => .order e.1 e.2)
    (List.forall_mem_map.2 fun _ _ => ⟨rfl, rfl⟩)
  have hgroups := hnil (o.groupBy.map .group) (List.forall_mem_map.2 fun _ _ => ⟨rfl, rfl⟩)
  have hcolumns := h (.columns (columnsFor o schema)) rfl rfl
  simp only [planSteps, firstSteps, List.flatMap_append, List.flatMap_cons, hwindow, horder,
    hgroups, hcolumns, List.nil_append, List.append_nil]

theorem flatMap_conditional (h : ∀ st, isConditional st = false → k st = []) :
    (planSteps o page gs schema).flatMap k =
      (gs.map routed).flatMap k ++ (searchSteps o schema).flatMap k := by
  have hjoins : (o.joins.map Step.join).flatMap k = [] :=
    List.flatMap_eq_nil_iff.2 (List.forall_mem_map.2 fun j _ => h _ rfl)
  rw [flatMap_planSteps _ _ _ _ fun st _ => h st, hjoins, List.nil_append]

end

/-- The conditions of some filters, each with its slots from 0 on. -/
def conditions (d : Dialect) (gs : List Filter) : List (List Piece) := gs.map (·.pieces d 0)

theorem flatMap_skeleton {gs : List Filter} {d : Dialect} {k : Filter → List (List Piece)}
    (h : ∀ g ∈ gs, k g = [(g.pieces d 0).map Piece.skeleton]) :
    gs.flatMap k = (conditions d gs).map (·.map Piece.skeleton) := by
  rw [List.flatMap_congr h, conditions, List.map_map, ← List.flatMap_pure_eq_map]
  rfl

/-! ### What the steps of a plan contribute -/

section

variable {gs : List Filter} (h : ∀ g ∈ gs, g.enabled = true ∧ g.refusal? = none) (o : QueryOptions)
  (d : Dialect) (page : Page) (schema : Schema)

include h

theorem rowConditions_planSteps :
    (planSteps o page gs schema).flatMap (Step.heldRowConditions d) =
      (conditions d (rowFilters gs) ++ searchConditions o d schema).map
        (·.map Piece.skeleton) := by
  have hother : ∀ st : Step, isConditional st = false → st.heldRowConditions d = [] :=
    fun st hst => by cases st <;> first | rfl | cases hst
  have hrow : ∀ g ∈ rowFilters gs, (Step.condition g).heldRowConditions d =
      [(g.pieces d 0).map Piece.skeleton] := fun g hg => if_pos (h g (List.mem_filter.1 hg).1)
  rw [flatMap_conditional _ _ _ _ hother, flatMap_routed_rows fun _ => rfl, flatMap_skeleton hrow,
    List.map_append, skeleton_searchConditions]
  rfl

theorem groupConditions_planSteps :
    (planSteps o page gs schema).flatMap (Step.heldConditions d) =
      (conditions d (groupFilters gs)).map (·.map Piece.skeleton) := by
  have hother : ∀ st : Step, isConditional st = false → st.heldConditions d = [] :=
    fun st hst => by cases st <;> first | rfl | cases hst
  have hgroup : ∀ g ∈ groupFilters gs, (Step.having g).heldConditions d =
      [(g.pieces d 0).map Piece.skeleton] := fun g hg => if_pos (h g (List.mem_filter.1 hg).1)
  have hsearch : (searchSteps o schema).flatMap (Step.heldConditions d) = [] :=
    List.flatMap_eq_nil_iff.2 (List.forall_mem_map.2 fun _ _ => rfl)
  rw [flatMap_conditional _ _ _ _ hother, flatMap_routed_groups fun _ => rfl, flatMap_skeleton hgroup,
    hsearch, List.append_nil]

theorem rowValues_planSteps :
    (planSteps o page gs schema).flatMap Step.heldRows =
      (rowFilters gs).flatMap Filter.bound ++ (searchSteps o schema).flatMap Step.heldRows := by
  have hother : ∀ st : Step, isConditional st = false → st.heldRows = [] :=
    fun st hst => by cases st <;> first | rfl | cases hst
  have hrow : ∀ g ∈ rowFilters gs, (Step.condition g).heldRows = g.bound := fun g hg => by
    simp [Step.heldRows, Step.rowValues, h g (List.mem_filter.1 hg).1]
  rw [flatMap_conditional _ _ _ _ hother, flatMap_routed_rows fun _ => rfl, List.flatMap_congr hrow]

theorem groupValues_planSteps :
    (planSteps o page gs schema).flatMap Step.heldGroups =
      (groupFilters gs).flatMap Filter.bound := by
  have hother : ∀ st : Step, isConditional st = false → st.heldGroups = [] :=
    fun st hst => by cases st <;> first | rfl | cases hst
  have hgroup : ∀ g ∈ groupFilters gs, (Step.having g).heldGroups = g.bound := fun g hg => by
    simp [Step.heldGroups, Step.groupValues, h g (List.mem_filter.1 hg).1]
  have hsearch : (searchSteps o schema).flatMap Step.heldGroups = [] :=
    List.flatMap_eq_nil_iff.2 (List.forall_mem_map.2 fun _ _ => rfl)
  rw [flatMap_conditional _ _ _ _ hother, flatMap_routed_groups fun _ => rfl, List.flatMap_congr hgroup,
    hsearch, List.append_nil]

end

/-- What the conditions of a plan are: of each filter on rows its condition, then the search; of each
filter on groups its condition; and the parameters are their values. -/
structure Routed (d : Dialect) (gs : List Filter) (search : List (List Piece))
    (searched : List Value) (st : Statement) (c : Clauses) : Prop where
  sql : st.sql = c.text
  accepted : ∀ g ∈ gs, (g.condition d).outcome .none = (.ok (g.pieces d 0), ⟨g.bound⟩)
  once : search.length ≤ 1
  rows : c.rows = Piece.texts d 0 (conditions d (rowFilters gs) ++ search)
  groupRows : c.groupRows = Piece.texts d
    ((conditions d (rowFilters gs) ++ search).flatMap Piece.slots).length
    (conditions d (groupFilters gs))
  params : st.params = (rowFilters gs).flatMap Filter.bound ++ searched ++
    (groupFilters gs).flatMap Filter.bound

theorem routed_of_run {gs : List Filter} (h : ∀ g ∈ gs, g.enabled = true ∧ g.refusal? = none)
    (o : QueryOptions) (d : Dialect) (page : Page) (schema : Schema) {s : Select}
    (hs : s = (planSteps o page gs schema).foldl Select.after (.ofTable d o.table)) :
    Routed d gs (searchConditions o d schema) ((searchSteps o schema).flatMap Step.heldRows)
      s.statement s.clauses := by
  have hd : s.dialect = d := by
    rw [hs, Select.dialect_foldl_after]
    rfl
  have hwheres : s.wheres.map (·.map Piece.skeleton) =
      (conditions d (rowFilters gs) ++ searchConditions o d schema).map (·.map Piece.skeleton) := by
    rw [hs, Select.wheres_foldl_after]
    exact rowConditions_planSteps h o d page schema
  have hhavings : s.havings.map (·.map Piece.skeleton) =
      (conditions d (groupFilters gs)).map (·.map Piece.skeleton) := by
    rw [hs, Select.havings_foldl_after]
    exact groupConditions_planSteps h o d page schema
  refine ⟨s.sql_statement, fun g hg => ?_, length_searchConditions o d schema, ?_, ?_, ?_⟩
  · rw [g.condition_outcome, (h g hg).2]
    rfl
  · rw [Select.clauses, hd]
    exact Piece.texts_eq_of_skeleton hwheres
  · rw [Select.clauses, hd, ← Piece.length_slots_eq_of_skeletons hwheres]
    exact Piece.texts_eq_of_skeleton hhavings
  · rw [hs, Select.params_foldl_after, Select.rowValues_eq_flatMap, Select.groupValues_eq_flatMap,
      rowValues_planSteps h, groupValues_planSteps h]

/-- Filters are routed completely. Each typed filter that says something stands for one filter, which
no selection refuses unless it was read as an empty list; and a plan has for each of these filters,
in their order, one condition, among those on rows or among those on groups, and besides them at most
the search behind the conditions on rows. -/
theorem filters_routed :
    (∀ (fs : List ClientFilter) (schema : Schema) (gs : List Filter),
      ClientFilter.toFilters fs schema = .ok gs →
        List.Forall₂ (ClientFilter.StandsFor schema) (fs.filter ClientFilter.isActive) gs) ∧
    ∀ (r : SelectRequest) (d : Dialect) (size : Nat) (schema : Schema) (plan : SelectPlan),
      make r d size schema = .ok plan →
        ∃ gs search searched c, ClientFilter.toFilters r.options.filters schema = .ok gs ∧
          Routed d gs search searched plan.select.statement c := by
  refine ⟨fun fs schema gs h => ClientFilter.standsFor_of_toFilters h,
    fun r d size schema plan hmake => ?_⟩
  obtain ⟨gs, hgs, -, hrun⟩ := make_eq_ok hmake
  have hfits := fits_of_make hmake
  have haccepted : ∀ g ∈ gs, g.enabled = true ∧ g.refusal? = none := by
    intro g hg
    obtain ⟨f, hf, hactive, hread⟩ := ClientFilter.exists_of_mem_toFilters hgs hg
    have henabled := (ClientFilter.standsFor_of_toFilter hactive hread).enabled
    exact ⟨henabled, hfits.filters f hf hactive g hread henabled⟩
  exact ⟨gs, _, _, _, hgs, routed_of_run haccepted r.options d plan.page schema hrun⟩

/-- A list, a filter that is not enabled, a filter on groups and a search. -/
def mixedRequest : SelectRequest where
  datasource := "d"
  options :=
    { table := "t", columns := [.plain "t.n"], joins := [], orderBy := [], groupBy := []
      aggregations := [], searchAll := some " Q "
      filters := [⟨"1", "t.m", "5", true, false, some .sum⟩, ⟨"2", "t.n", "x", false, false, none⟩,
        ⟨"3", "t.n", "NOT IN (1, 'x')", true, true, none⟩] }
  page := 0
  size := none

def mixedSchema : Schema where
  tables := [⟨"t", [⟨"n", "varchar", false, none, []⟩], default, default⟩]

theorem filters_routed_mixed :
    ∃ plan gs search searched c, make mixedRequest .postgres 20 mixedSchema = .ok plan ∧
      List.Forall₂ (ClientFilter.StandsFor mixedSchema)
        (mixedRequest.options.filters.filter ClientFilter.isActive) gs ∧
      Routed .postgres gs search searched plan.select.statement c ∧
      plan.select.statement = ⟨"SELECT \"t\".\"n\" AS \"t.n\" FROM \"t\" " ++
          "WHERE \"t\".\"n\" NOT IN ($1, $2) AND (LOWER(\"t\".\"n\") LIKE $3) " ++
          "HAVING COALESCE(SUM(\"t\".\"m\"), 0) = $4 LIMIT 21 OFFSET 0",
        [.int 1, .text "x", .text "%q%", .text "5"]⟩ := by
  have hmade : (make mixedRequest .postgres 20 mixedSchema).map (·.select.statement) =
      .ok ⟨"SELECT \"t\".\"n\" AS \"t.n\" FROM \"t\" " ++
          "WHERE \"t\".\"n\" NOT IN ($1, $2) AND (LOWER(\"t\".\"n\") LIKE $3) " ++
          "HAVING COALESCE(SUM(\"t\".\"m\"), 0) = $4 LIMIT 21 OFFSET 0",
        [.int 1, .text "x", .text "%q%", .text "5"]⟩ := by decide +kernel
  obtain ⟨plan, hplan, hstatement⟩ := Notation.exists_of_map_ok hmade
  obtain ⟨gs, search, searched, c, hgs, hrouted⟩ := filters_routed.2 _ _ _ _ _ hplan
  exact ⟨plan, gs, search, searched, c, hplan, filters_routed.1 _ _ _ hgs, hrouted,
    hstatement.symm⟩

end SelectPlan

end QueryDesk
