import Mathlib.Data.List.Induction
import Mathlib.Data.List.Nodup
import QueryDesk.Proofs.Query.Routing

/-!
# The order of a selection

The entries of an order name columns by the aliases of the selection. An entry whose name came before
gives a new direction to the first one, so the order by some entries has each name once, where it came
first, in the direction it came with last. Main statement: the order of a plan is that by the entries
that name a selected column, or by all entries if no column was asked for; and each is written as its
column stands in the list, by the alias behind AS or by the expression in front of it.
-/

namespace QueryDesk

namespace OrderBy

/-! ### The order by some entries -/

/-- What some entries come to: each name stands once, where it came first, in the direction it came
with last. -/
structure InForce (os order : List OrderBy) : Prop where
  once : (order.map (·.column)).Nodup
  places : order.map (·.column) = (os.map (·.column)).eraseDups
  last : ∀ o ∈ order, os.reverse.find? (·.column == o.column) = some o

def put (o : OrderBy) : List OrderBy → List OrderBy
  | [] => [o]
  | p :: rest => if p.column = o.column then o :: rest else p :: put o rest

theorem map_column_put (o : OrderBy) (order : List OrderBy) :
    (put o order).map (·.column) = if o.column ∈ order.map (·.column)
      then order.map (·.column) else order.map (·.column) ++ [o.column] := by
  induction order with
  | nil => rfl
  | cons p rest ih =>
    rw [put]
    by_cases hp : p.column = o.column
    · simp [hp]
    · rw [if_neg hp, List.map_cons, ih, List.map_cons]
      have hmem : o.column ∈ p.column :: rest.map (·.column) ↔ o.column ∈ rest.map (·.column) := by
        simp [Ne.symm hp]
      simp only [hmem]
      split <;> rfl

theorem mem_put {o p : OrderBy} {order : List OrderBy} (h : (order.map (·.column)).Nodup)
    (hp : p ∈ put o order) : p = o ∨ p ∈ order ∧ p.column ≠ o.column := by
  induction order with
  | nil => exact .inl (List.mem_singleton.1 hp)
  | cons q rest ih =>
    rw [List.map_cons, List.nodup_cons] at h
    rw [put] at hp
    by_cases hq : q.column = o.column
    · rw [if_pos hq] at hp
      rcases List.mem_cons.1 hp with hp | hp
      · exact .inl hp
      · refine .inr ⟨List.mem_cons_of_mem q hp, fun he => h.1 ?_⟩
        rw [hq, ← he]
        exact List.mem_map_of_mem hp
    · rw [if_neg hq] at hp
      rcases List.mem_cons.1 hp with rfl | hp
      · exact .inr ⟨List.mem_cons_self, hq⟩
      · exact (ih h.2 hp).imp_right fun hmem => ⟨List.mem_cons_of_mem q hmem.1, hmem.2⟩

theorem InForce.nil : InForce [] [] := ⟨List.nodup_nil, rfl, by simp⟩

theorem InForce.concat {os order : List OrderBy} (h : InForce os order) (o : OrderBy) :
    InForce (os ++ [o]) (put o order) := by
  have hmem : o.column ∈ order.map (·.column) ↔ o.column ∈ os.map (·.column) := by
    rw [h.places, List.mem_eraseDups]
  refine ⟨?_, ?_, fun p hp => ?_⟩
  · rw [map_column_put]
    split
    · exact h.once
    next hnew => exact List.nodup_append.2 ⟨h.once, List.nodup_singleton _, by
        rintro a ha b hb rfl
        exact hnew (List.mem_singleton.1 hb ▸ ha)⟩
  · rw [map_column_put, List.map_append, List.eraseDups_append, ← h.places, List.map_singleton]
    generalize os.map (·.column) = names at hmem
    by_cases hold : o.column ∈ names
    · rw [if_pos (hmem.2 hold)]
      simp [List.removeAll, hold]
    · rw [if_neg fun hin => hold (hmem.1 hin)]
      simp [List.removeAll, hold, List.eraseDups_cons]
  · rw [List.reverse_append, List.reverse_singleton, List.singleton_append, List.find?_cons]
    rcases mem_put h.once hp with rfl | ⟨hp, hne⟩
    · simp
    · have hother : (o.column == p.column) = false := beq_false_of_ne hne.symm
      rw [hother]
      exact h.last p hp

/-! ### Targets -/

end OrderBy

def OrderTarget.name : OrderTarget → String
  | column name => name
  | resultAlias name => name

namespace OrderBy

/-- The entry stays: it names a selected column, or no column was asked for. -/
def isKept (selected : List SelectedColumn) (o : OrderBy) : Bool :=
  selected.isEmpty || selected.any (·.resultAlias == o.column)

/-- What an entry that stays orders by. -/
def target (selected : List SelectedColumn) (o : OrderBy) : OrderTarget :=
  (o.target? selected).getD (.column o.column)

theorem target?_eq (selected : List SelectedColumn) (o : OrderBy) :
    o.target? selected = if o.isKept selected then some (o.target selected) else none := by
  rw [target, isKept, target?]
  cases selected.isEmpty with
  | true => rfl
  | false =>
    simp only [Bool.false_eq_true, if_false, Bool.false_or]
    cases hfind : selected.find? (·.resultAlias == o.column) with
    | none =>
      rw [if_neg]
      · rfl
      · rw [List.any_eq_true]
        rintro ⟨c, hc, hname⟩
        exact List.find?_eq_none.1 hfind c hc hname
    | some c =>
      rw [if_pos (List.any_eq_true.2 ⟨c, List.mem_of_find?_eq_some hfind,
        List.find?_some (p := fun c : SelectedColumn => c.resultAlias == o.column) hfind⟩)]
      rfl

theorem name_target (selected : List SelectedColumn) (o : OrderBy) :
    (o.target selected).name = o.column := by
  rw [target, target?]
  split
  · rfl
  · cases selected.find? (·.resultAlias == o.column) with
    | none => rfl
    | some c =>
      simp only [Option.map_some, Option.getD_some]
      split <;> rfl

theorem target_eq_iff (selected : List SelectedColumn) (o p : OrderBy) :
    o.target selected = p.target selected ↔ o.column = p.column := by
  refine ⟨fun h => ?_, fun h => ?_⟩
  · rw [← name_target selected o, h, name_target]
  · rw [target, target, target?, target?, h]

def aimed (selected : List SelectedColumn) (o : OrderBy) : OrderTarget × Direction :=
  (o.target selected, o.direction)

theorem allowed_eq (os : List OrderBy) (selected : List SelectedColumn) :
    allowed os selected = (os.filter (·.isKept selected)).map (·.aimed selected) := by
  rw [allowed]
  induction os with
  | nil => rfl
  | cons o os ih =>
    rw [List.filterMap_cons, target?_eq, List.filter_cons]
    cases o.isKept selected with
    | true => simp [ih, aimed]
    | false => simp [ih]

open Select (place placeAll)

theorem place_aimed (selected : List SelectedColumn) (o : OrderBy) (order : List OrderBy) :
    place (o.target selected) o.direction (order.map (·.aimed selected)) =
      (put o order).map (·.aimed selected) := by
  induction order with
  | nil => rfl
  | cons p rest ih =>
    rw [List.map_cons, aimed, place, put]
    by_cases h : p.column = o.column
    · have htarget := (target_eq_iff selected p o).2 h
      rw [if_pos htarget, if_pos h, List.map_cons, htarget]
      rfl
    · rw [if_neg fun htarget => h ((target_eq_iff selected p o).1 htarget), if_neg h, ih]
      rfl

theorem exists_placeAll (selected : List SelectedColumn) (os : List OrderBy) :
    ∃ order, InForce os order ∧
      placeAll [] (os.map (·.aimed selected)) = order.map (·.aimed selected) := by
  induction os using List.reverseRecOn with
  | nil => exact ⟨[], .nil, rfl⟩
  | append_singleton os o ih =>
    obtain ⟨order, hforce, hplaced⟩ := ih
    refine ⟨put o order, hforce.concat o, ?_⟩
    rw [← place_aimed, ← hplaced, List.map_append, placeAll, List.foldl_append]
    rfl

/-! ### The clause -/

/-- How an entry is written: as a reference if no column was asked for; and otherwise as a column of
that name stands in the list, by the alias behind its AS if it has a function or DISTINCT, or else by
the expression in front of it. -/
inductive Written (d : Dialect) (selected : List SelectedColumn) (columns : List String)
    (o : OrderBy) : String → Prop where
  | asReference (h : selected = []) : Written d selected columns o
      (d.column o.column ++ " " ++ o.direction.name)
  | byAlias {i : Nat} {c : SelectedColumn} {e : String} (hc : selected[i]? = some c)
      (hname : c.resultAlias = o.column) (hkind : c.function ≠ none ∨ c.distinct = true)
      (hentry : columns[i]? = some (e ++ " AS " ++ d.quoted o.column)) :
      Written d selected columns o (d.quoted o.column ++ " " ++ o.direction.name)
  | byExpression {i : Nat} {c : SelectedColumn} {e : String} (hc : selected[i]? = some c)
      (hname : c.resultAlias = o.column) (hkind : c.function = none ∧ c.distinct = false)
      (hentry : columns[i]? = some (e ++ " AS " ++ d.quoted o.column)) :
      Written d selected columns o (e ++ " " ++ o.direction.name)

end OrderBy

/-- A column stands in the list by its expression and its alias, unless it is a star. -/
theorem SelectedColumn.exists_expression {c : SelectedColumn} {d : Dialect} {entry : String}
    (h : c.entry d = .ok entry) (hstar : c.resultAlias ≠ "*") :
    ∃ e, c.expression d = .ok e ∧ entry = e ++ " AS " ++ d.quoted c.resultAlias := by
  obtain ⟨e, he, h⟩ := exists_of_bind_ok h
  have hnamed : ¬(c.function.isNone ∧ c.value = "*") := by
    rintro ⟨hfunction, hvalue⟩
    rw [SelectedColumn.resultAlias, Option.isNone_iff_eq_none.1 hfunction] at hstar
    exact hstar hvalue
  rw [if_neg hnamed] at h
  exact ⟨e, he, (Except.ok.inj h).symm⟩

/-- A plain column is written as the reference by which it is named. -/
theorem SelectedColumn.expression_plain {c : SelectedColumn} {d : Dialect} {e : String}
    (h : c.expression d = .ok e) (hplain : c.function = none) : e = d.column c.resultAlias := by
  rw [expression, hplain] at h
  rw [resultAlias, hplain]
  split at h
  · cases h
  · exact (Except.ok.inj h).symm

namespace OrderBy

variable {d : Dialect} {selected : List SelectedColumn} {columns : List String} {o : OrderBy}

/-- An entry that stays is written as its column stands in the list. -/
theorem written_target (hcolumns : selected = [] ∨ selected.mapM (·.entry d) = .ok columns)
    (hkept : o.isKept selected = true) (hstar : o.column ≠ "*") :
    Written d selected columns o ((o.target selected).text d ++ " " ++ o.direction.name) := by
  by_cases hnone : selected = []
  · subst hnone
    exact .asReference rfl
  have hentries := hcolumns.resolve_left hnone
  have hsome : selected.isEmpty = false := by simpa using hnone
  -- the entry names the first column of that alias
  obtain ⟨c, hfind⟩ : ∃ c, selected.find? (·.resultAlias == o.column) = some c := by
    rw [isKept, hsome, Bool.false_or, List.any_eq_true] at hkept
    obtain ⟨x, hx, hname⟩ := hkept
    exact Option.isSome_iff_exists.1 (List.find?_isSome.2 ⟨x, hx, hname⟩)
  have hname : c.resultAlias = o.column := by
    simpa using List.find?_some hfind
  obtain ⟨i, hc⟩ := List.mem_iff_getElem?.1 (List.mem_of_find?_eq_some hfind)
  obtain ⟨entry, hentry, hlisted⟩ := getElem?_of_mapM hentries hc
  obtain ⟨e, he, rfl⟩ := SelectedColumn.exists_expression hlisted (hname ▸ hstar)
  rw [hname] at hentry
  rw [target, target?, hsome, hfind]
  by_cases hkind : (c.function.isSome || c.distinct) = true
  · simp only [Bool.false_eq_true, if_false, Option.map_some, Option.getD_some, hkind, if_true]
    exact .byAlias hc hname (by simpa [Option.isSome_iff_ne_none] using hkind) hentry
  · have hplain : c.function = none ∧ c.distinct = false := by simpa using hkind
    simp only [Bool.false_eq_true, if_false, Option.map_some, Option.getD_some, hkind]
    have htext : (OrderTarget.column o.column).text d = e := by
      rw [SelectedColumn.expression_plain he hplain.1, hname]
      rfl
    rw [htext]
    exact .byExpression hc hname hplain hentry

end OrderBy

namespace SelectPlan

open Select (Step placeAll)

theorem heldOrder_planSteps (o : QueryOptions) (page : Page) (gs : List Filter) (schema : Schema) :
    (planSteps o page gs schema).flatMap Step.heldOrder =
      OrderBy.allowed o.orderBy o.selected := by
  have hjoins : (o.joins.map Step.join).flatMap Step.heldOrder = [] :=
    List.flatMap_eq_nil_iff.2 (List.forall_mem_map.2 fun _ _ => rfl)
  have horder : ((OrderBy.allowed o.orderBy o.selected).map fun e =>
      Step.order e.1 e.2).flatMap Step.heldOrder = OrderBy.allowed o.orderBy o.selected := by
    rw [List.flatMap_map]
    exact List.flatMap_singleton' _
  have hgroups : (o.groupBy.map Step.group).flatMap Step.heldOrder = [] :=
    List.flatMap_eq_nil_iff.2 (List.forall_mem_map.2 fun _ _ => rfl)
  have hfilters : (gs.map routed).flatMap Step.heldOrder = [] :=
    List.flatMap_eq_nil_iff.2 (List.forall_mem_map.2 fun g _ => by
      rw [routed]
      split <;> rfl)
  have hsearch : (searchSteps o schema).flatMap Step.heldOrder = [] :=
    List.flatMap_eq_nil_iff.2 (List.forall_mem_map.2 fun _ _ => rfl)
  simp only [planSteps, firstSteps, List.flatMap_append, List.flatMap_cons, List.flatMap_nil,
    hjoins, horder, hgroups, hfilters, hsearch, Step.heldOrder, List.nil_append, List.append_nil]

/-- The order follows the selection. The entries in force are those that name a selected column by its
alias, or all entries if no column was asked for: each name once, where it came first, in the direction
it came with last. Each of them is written as its column stands in the list: a column with a function
or DISTINCT by the alias behind its AS, a plain one by the expression in front of it. -/
theorem order_follows_selection (r : SelectRequest) (d : Dialect) (size : Nat) (schema : Schema)
    (plan : SelectPlan) (hmake : make r d size schema = .ok plan)
    (hstar : ∀ o ∈ r.options.orderBy, o.column ≠ "*") :
    plan.select.statement.sql = plan.select.clauses.text ∧
    ∃ order, OrderBy.InForce
        (r.options.orderBy.filter fun o => r.options.selected.isEmpty ||
          r.options.selected.any (·.resultAlias == o.column)) order ∧
      List.Forall₂ (OrderBy.Written d r.options.selected plan.select.clauses.columns) order
        plan.select.clauses.order := by
  refine ⟨plan.select.sql_statement, ?_⟩
  have hcolumns : r.options.selected = [] ∨
      r.options.selected.mapM (·.entry d) = .ok plan.select.columns := by
    have hentries := entries_of_make hmake
    rw [columnsFor] at hentries
    by_cases hnone : r.options.selected = []
    · exact .inl hnone
    · rw [if_neg (by simpa using hnone)] at hentries
      exact .inr hentries
  obtain ⟨order, hforce, hplaced⟩ := OrderBy.exists_placeAll r.options.selected
    (r.options.orderBy.filter (·.isKept r.options.selected))
  have horder : plan.select.order = order.map (·.aimed r.options.selected) := by
    obtain ⟨gs, -, -, hrun⟩ := make_eq_ok hmake
    rw [hrun, Select.order_foldl_after, heldOrder_planSteps, OrderBy.allowed_eq, ← hplaced]
    rfl
  refine ⟨order, hforce, ?_⟩
  have hclause : plan.select.clauses.order = order.map fun o =>
      (o.target r.options.selected).text d ++ " " ++ o.direction.name := by
    simp only [Select.clauses, horder, List.map_map, dialect_of_make hmake]
    rfl
  rw [hclause, List.forall₂_map_right_iff]
  refine List.forall₂_same.2 fun o ho => ?_
  have hfound := List.mem_of_find?_eq_some (hforce.last o ho)
  obtain ⟨hasked, hkept⟩ := List.mem_filter.1 (List.mem_reverse.1 hfound)
  exact OrderBy.written_target hcolumns hkept (hstar o hasked)

/-- A sum that is named twice, a plain column, one with DISTINCT, and a name that is not selected. -/
def sortedRequest : SelectRequest where
  datasource := "d"
  options :=
    { table := "t", columns := [.plain "t.a", ⟨"t.b", some .sum, false⟩, ⟨"t.c", none, true⟩]
      joins := [], filters := [], groupBy := [], aggregations := [], searchAll := none
      orderBy := [⟨"SUM t.b", .asc⟩, ⟨"t.a", .desc⟩, ⟨"t.z", .asc⟩, ⟨"SUM t.b", .desc⟩,
        ⟨"t.c", .asc⟩] }
  page := 0
  size := none

theorem order_follows_selection_sorted :
    ∃ plan order, make sortedRequest .postgres 20 ⟨[]⟩ = .ok plan ∧
      plan.select.clauses.text =
        "SELECT \"t\".\"a\" AS \"t.a\", COALESCE(SUM(\"t\".\"b\"), 0) AS \"SUM t.b\", " ++
          "\"t\".\"c\" AS \"t.c\" FROM \"t\" " ++
          "ORDER BY \"SUM t.b\" DESC, \"t\".\"a\" DESC, \"t.c\" ASC LIMIT 21 OFFSET 0" ∧
      OrderBy.InForce [⟨"SUM t.b", .asc⟩, ⟨"t.a", .desc⟩, ⟨"SUM t.b", .desc⟩, ⟨"t.c", .asc⟩] order ∧
      List.Forall₂ (OrderBy.Written .postgres sortedRequest.options.selected
        plan.select.clauses.columns) order plan.select.clauses.order := by
  have hmade : (make sortedRequest .postgres 20 ⟨[]⟩).map (·.select.statement.sql) =
      .ok ("SELECT \"t\".\"a\" AS \"t.a\", COALESCE(SUM(\"t\".\"b\"), 0) AS \"SUM t.b\", " ++
          "\"t\".\"c\" AS \"t.c\" FROM \"t\" " ++
          "ORDER BY \"SUM t.b\" DESC, \"t\".\"a\" DESC, \"t.c\" ASC LIMIT 21 OFFSET 0") := by
    decide +kernel
  obtain ⟨plan, hplan, hsql⟩ := Notation.exists_of_map_ok hmade
  obtain ⟨htext, order, hforce, hwritten⟩ :=
    order_follows_selection _ _ _ _ plan hplan (by decide)
  exact ⟨plan, order, hplan, htext.symm.trans hsql.symm, hforce, hwritten⟩

end SelectPlan

end QueryDesk
