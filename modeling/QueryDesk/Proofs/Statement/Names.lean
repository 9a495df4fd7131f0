import QueryDesk.Proofs.Statement.Parameters
import QueryDesk.Proofs.Statement.Spelling

/-!
# The names in a statement

What a builder was given names tables and columns, and the statement has these names in its quotes and
no others. The sources of a statement are what its clauses were made from: of the calls on a builder
those that were accepted, the last selected columns and the last values only, and a group that is
written like an earlier one only once. Main statement: the scan of any statement, joins and raw
expressions aside, brings back the names of its sources, with own text around them.
-/

namespace QueryDesk

/-- The scan of a text brings back these names, with own text around them. -/
def ScansTo (d : Dialect) (sql : String) (names : List String) : Prop :=
  ∃ segments, d.scan sql = some segments ∧ segments.filterMap Segment.name? = names ∧
    ∀ t ∈ segments.filterMap Segment.text?, OwnText d t

theorem ScansTo.names {d : Dialect} {sql : String} {ns : List String} (h : ScansTo d sql ns) :
    (d.scan sql).map (·.filterMap Segment.name?) = some ns := by
  obtain ⟨segments, hscan, hnames, -⟩ := h
  rw [hscan, Option.map_some, hnames]

theorem Piece.Spelled.scansTo {d : Dialect} {ps : List Piece} {ns : List String}
    (h : Piece.Spelled d ps ns) (b : Bindings) : ScansTo d (statement d b ps).sql ns := by
  obtain ⟨ended, hw⟩ := h 0
  exact hw.scan

/-! ### Sources -/

def Filter.isAccepted (f : Filter) : Bool := f.enabled && f.refusal?.isNone

/-- The column of an assignment without its table. -/
def Assignment.bareColumn (a : Assignment) : String :=
  match Text.splitFirst '.' a.column with
  | some (_, column) => column
  | none => a.column

def Assignment.names (a : Assignment) : List String := identifierNames a.bareColumn

/-- The names in a target of an order; an alias is a name even when it is a star. -/
def OrderTarget.names : OrderTarget → List String
  | column name => columnNames name
  | resultAlias name => [name]

namespace Select

/-- What the clauses of a selection were made from; of a condition there are its names. -/
structure Sources where
  columns : List SelectedColumn
  rows : List (List String)
  groups : List SelectedColumn
  groupRows : List (List String)
  order : List (OrderTarget × Direction)

namespace Sources

def none : Sources := ⟨[], [], [], [], []⟩

def after (d : Dialect) (g : Sources) : Step → Sources
  | .columns cs => if cs.all (·.isAccepted) then { g with columns := cs } else g
  | .join _ => g
  | .condition f => if f.isAccepted then { g with rows := g.rows ++ [f.names] } else g
  | .having f => if f.isAccepted then { g with groupRows := g.groupRows ++ [f.names] } else g
  | .group c =>
    if !c.isAccepted ||
        g.groups.any (fun c' => (c'.expression d).toOption == (c.expression d).toOption) then g
    else { g with groups := g.groups ++ [c] }
  | .order target direction => { g with order := place target direction g.order }
  | .limit _ => g
  | .offset _ => g
  | .search columns term =>
    if Text.allBlank term = true ∨ columns = [] then g
    else { g with rows := g.rows ++ [columns.flatMap columnNames] }

def names (g : Sources) (table : String) : List String :=
  g.columns.flatMap (·.names) ++ identifierNames table ++ g.rows.flatten ++
    g.groups.flatMap (fun c => columnNames c.value) ++ g.groupRows.flatten ++
    g.order.flatMap (fun o => o.1.names)

end Sources

/-- A selection was made from these sources, and no table is joined. -/
structure MadeOf (s : Select) (g : Sources) : Prop where
  columns : List.Forall₂ (fun t c => Spelled s.dialect t c.names) s.columns g.columns
  joins : s.joins = []
  rows : List.Forall₂ (Piece.Spelled s.dialect) s.wheres g.rows
  groups : List.Forall₂ (fun t c => c.expression s.dialect = .ok t) s.groups g.groups
  groupRows : List.Forall₂ (Piece.Spelled s.dialect) s.havings g.groupRows
  order : s.order = g.order

end Select

namespace Update

structure Sources where
  values : List Assignment
  rows : List (List String)

namespace Sources

def none : Sources := ⟨[], []⟩

def after (g : Sources) : Step → Sources
  | .values vs => { g with values := vs }
  | .condition f => if f.isAccepted then { g with rows := g.rows ++ [f.names] } else g

def names (g : Sources) (table : String) : List String :=
  identifierNames table ++ g.values.flatMap (·.names) ++ g.rows.flatten

end Sources

structure MadeOf (s : Update) (g : Sources) : Prop where
  values : s.values = g.values
  rows : List.Forall₂ (Piece.Spelled s.dialect) s.wheres g.rows

end Update

/-! ### Steps of a selection -/

theorem forall₂_snoc {α β : Type} {R : α → β → Prop} {as : List α} {bs : List β} {a : α} {b : β}
    (h : List.Forall₂ R as bs) (hab : R a b) : List.Forall₂ R (as ++ [a]) (bs ++ [b]) :=
  List.rel_append h (.cons hab .nil)

namespace SelectedColumn

theorem entry_eq_ok {c : SelectedColumn} {d : Dialect} (h : c.isAccepted = true) :
    ∃ t, c.entry d = .ok t := by
  obtain ⟨e, he⟩ := expression_eq_ok_iff.2 h
  rw [entry, he]
  by_cases hstar : c.function.isNone ∧ c.value = "*"
  · exact ⟨e, by simp only [hstar, and_self, if_true]; rfl⟩
  · exact ⟨e ++ " AS " ++ d.quoted c.resultAlias, by simp only [hstar, if_false]; rfl⟩

theorem entry_eq_error {c : SelectedColumn} {d : Dialect} (h : c.isAccepted = false) :
    ∃ e, c.entry d = .error e := by
  have hne : ¬∃ t, c.expression d = .ok t := by
    rw [expression_eq_ok_iff, h]
    exact Bool.false_ne_true
  cases he : c.expression d with
  | ok t => exact absurd ⟨t, he⟩ hne
  | error e =>
    refine ⟨e, ?_⟩
    rw [entry, he]
    rfl

/-- The entries of some columns: all of them when all are accepted, or else none. -/
theorem mapM_entry (cs : List SelectedColumn) (d : Dialect) :
    (cs.all (·.isAccepted) = true ∧ ∃ ts, cs.mapM (·.entry d) = .ok ts ∧
      List.Forall₂ (fun t c => Spelled d t c.names) ts cs) ∨
    (cs.all (·.isAccepted) = false ∧ ∃ e, cs.mapM (·.entry d) = .error e) := by
  induction cs with
  | nil => exact .inl ⟨rfl, [], rfl, .nil⟩
  | cons c cs ih =>
    simp only [List.mapM_cons, List.all_cons]
    cases hc : c.isAccepted with
    | false =>
      obtain ⟨e, he⟩ := entry_eq_error (d := d) hc
      refine .inr ⟨rfl, e, ?_⟩
      rw [he]
      rfl
    | true =>
      obtain ⟨t, ht⟩ := entry_eq_ok (d := d) hc
      rcases ih with ⟨hall, ts, hts, hnames⟩ | ⟨hall, e, he⟩
      · refine .inl ⟨by rw [hall]; rfl, t :: ts, ?_, .cons (spelled_entry ht) hnames⟩
        rw [ht, hts]
        rfl
      · refine .inr ⟨by rw [hall]; rfl, e, ?_⟩
        rw [ht, he]
        rfl

end SelectedColumn

theorem Select.left_addWhere (s : Select) (f : Filter) :
    (s.addWhere f).left = if f.isAccepted then { s with
      wheres := s.wheres ++ [f.pieces s.dialect s.bindings.values.length]
      bindings := ⟨s.bindings.values ++ f.bound⟩ } else s := by
  rw [addWhere_eq, Filter.isAccepted]
  cases f.enabled <;> cases f.refusal? <;> rfl

theorem Select.left_addHaving (s : Select) (f : Filter) :
    (s.addHaving f).left = if f.isAccepted then { s with
      havings := s.havings ++ [f.pieces s.dialect s.bindings.values.length]
      bindings := ⟨s.bindings.values ++ f.bound⟩ } else s := by
  rw [addHaving_eq, Filter.isAccepted]
  cases f.enabled <;> cases f.refusal? <;> rfl

theorem Update.left_addWhere (s : Update) (f : Filter) :
    (s.addWhere f).left = if f.isAccepted then { s with
      wheres := s.wheres ++ [f.pieces s.dialect s.bindings.values.length]
      bindings := ⟨s.bindings.values ++ f.bound⟩ } else s := by
  rw [addWhere_eq, Filter.isAccepted]
  cases f.enabled <;> cases f.refusal? <;> rfl

namespace Select

theorem spelled_searchPieces (d : Dialect) (columns : List String) (n : Nat) :
    Piece.Spelled d (searchPieces d columns n) (columns.flatMap columnNames) := by
  have hor : Owns d " OR " := .literal " OR " " " ["OR", " "] (by decide) (by decide)
  have hlower : Owns d "LOWER(" := .literal "LOWER(" "LOWER" ["("] (by decide) (by decide)
  have hlike : Owns d ") LIKE " := .literal ") LIKE " ")" [" ", "LIKE", " "] (by decide) (by decide)
  have hcases : List.Forall₂ (fun ps c => Piece.Spelled d ps (columnNames c))
      (columns.map fun c => [Piece.sql ("LOWER(" ++ d.column c ++ ") LIKE "), Piece.param n])
      columns := by
    rw [List.forall₂_map_left_iff, List.forall₂_same]
    intro c _
    have h := Piece.follows_cons ((spelled_column d c).between hlower hlike)
      (Piece.follows_param n)
    rw [List.append_nil] at h
    exact h.spelled
  have h := (Piece.spelled_between hor hcases).append Piece.follows_closing
  rw [List.append_nil] at h
  exact (Piece.follows_own .opening h).spelled

/-- A group is written already when a column was accepted that is written alike. -/
theorem contains_groups {d : Dialect} {ts : List String} {cs : List SelectedColumn}
    (h : List.Forall₂ (fun t c => c.expression d = .ok t) ts cs) (e : String) :
    ts.contains e = cs.any (fun c => (c.expression d).toOption == some e) := by
  induction h with
  | nil => rfl
  | @cons t c ts cs ht _ ih =>
    rw [List.contains_cons, List.any_cons, ih, ht]
    have heq : (e == t) = ((Except.ok t : Except Refusal String).toOption == some e) := by
      rw [Bool.eq_iff_iff, beq_iff_eq, beq_iff_eq]
      exact ⟨fun h => by rw [h]; rfl, fun h => (Option.some.inj h).symm⟩
    rw [heq]

namespace MadeOf

variable {s : Select} {g : Sources}

theorem ofTable (d : Dialect) (table : String) : (Select.ofTable d table).MadeOf .none :=
  ⟨.nil, rfl, .nil, .nil, .nil, rfl⟩

theorem setColumns (h : s.MadeOf g) (cs : List SelectedColumn) :
    (s.after (.columns cs)).MadeOf (g.after s.dialect (.columns cs)) := by
  rcases SelectedColumn.mapM_entry cs s.dialect with ⟨hall, ts, hts, hnames⟩ | ⟨hall, e, he⟩
  · simp only [Select.after, attempt, Select.setColumns, hts, Attempt.left, Sources.after, hall,
      if_true]
    exact { h with columns := hnames }
  · simp only [Select.after, attempt, Select.setColumns, he, Attempt.left, Sources.after, hall,
      Bool.false_eq_true, if_false]
    exact h

theorem addWhere (h : s.MadeOf g) (f : Filter) :
    (s.after (.condition f)).MadeOf (g.after s.dialect (.condition f)) := by
  rw [Select.after, attempt, left_addWhere, Sources.after]
  split
  · exact { h with rows := forall₂_snoc h.rows (f.spelled_pieces s.dialect _) }
  · exact h

theorem addHaving (h : s.MadeOf g) (f : Filter) :
    (s.after (.having f)).MadeOf (g.after s.dialect (.having f)) := by
  rw [Select.after, attempt, left_addHaving, Sources.after]
  split
  · exact { h with groupRows := forall₂_snoc h.groupRows (f.spelled_pieces s.dialect _) }
  · exact h

theorem addGroup (h : s.MadeOf g) (c : SelectedColumn) :
    (s.after (.group c)).MadeOf (g.after s.dialect (.group c)) := by
  simp only [Select.after, attempt, Select.addGroup, Sources.after]
  cases ha : c.isAccepted with
  | false =>
    have hne : ¬∃ t, c.expression s.dialect = .ok t := by
      rw [SelectedColumn.expression_eq_ok_iff, ha]
      exact Bool.false_ne_true
    cases he : c.expression s.dialect with
    | ok t => exact absurd ⟨t, he⟩ hne
    | error e => exact h
  | true =>
    obtain ⟨t, ht⟩ := SelectedColumn.expression_eq_ok_iff.2 ha
    -- The texts of the groups and the columns they come from repeat at the same places.
    have hany : g.groups.any (fun c' =>
        (c'.expression s.dialect).toOption == (c.expression s.dialect).toOption) =
          s.groups.contains t := by
      rw [contains_groups h.groups t, ht]
      rfl
    rw [hany]
    simp only [ht, Attempt.left, Bool.not_true, Bool.false_or]
    split
    · exact h
    · exact { h with groups := forall₂_snoc h.groups ht }

theorem addSearch (h : s.MadeOf g) (columns : List String) (term : String) :
    (s.after (.search columns term)).MadeOf (g.after s.dialect (.search columns term)) := by
  simp only [Select.after, attempt, Attempt.left, addSearch_eq, Sources.after]
  split
  · exact h
  · exact { h with rows := forall₂_snoc h.rows (spelled_searchPieces s.dialect columns _) }

theorem after (h : s.MadeOf g) (step : Step)
    (hj : ∀ j, step = .join j → ∃ e, Sql.checkJoin s.dialect j.on = .error e) :
    (s.after step).MadeOf (g.after s.dialect step) := by
  cases step with
  | columns cs => exact h.setColumns cs
  | join j =>
    obtain ⟨e, he⟩ := hj j rfl
    simp only [Select.after, attempt, addJoin, he, Attempt.left, Sources.after]
    exact h
  | condition f => exact h.addWhere f
  | having f => exact h.addHaving f
  | group c => exact h.addGroup c
  | order target direction =>
    simp only [Select.after, attempt, addOrder, Attempt.left, Sources.after]
    exact { h with order := by rw [h.order] }
  | limit n => exact { h with }
  | offset n => exact { h with }
  | search columns term => exact h.addSearch columns term

end MadeOf

/-! ### The text of a selection -/

variable {s : Select} {g : Sources}

theorem follows_conditions {d : Dialect} {keyword : String} (hk : Owns d keyword)
    {cs : List (List Piece)} {nss : List (List String)}
    (h : List.Forall₂ (Piece.Spelled d) cs nss) :
    Piece.Follows d (conditions keyword cs) nss.flatten := by
  have hand : Owns d " AND " := .literal " AND " " " ["AND", " "] (by decide) (by decide)
  cases h with
  | nil => exact Piece.follows_nil
  | cons hp hps =>
    have hall := @Piece.spelled_between d _ " AND " hand id _ _ (.cons hp hps)
    rw [List.flatMap_id] at hall
    exact Piece.follows_own hk hall

theorem follows_clause {α : Type} {d : Dialect} {keyword : String} (hk : Owns d keyword)
    {names : α → List String} {ts : List String} {as : List α}
    (h : List.Forall₂ (fun t a => Spelled d t (names a)) ts as) :
    Piece.Follows d (clause keyword ", " ts) (as.flatMap names) := by
  cases h with
  | nil => exact Piece.follows_nil
  | cons ht hts =>
    exact Piece.follows_sql (hk.append_spelled (spelled_join .comma (.cons ht hts)))

theorem spelled_order (d : Dialect) (target : OrderTarget) (direction : Direction) :
    Spelled d (target.text d ++ " " ++ direction.name) target.names := by
  have hdirection : Owns d direction.name := by
    cases direction <;> exact .word (.word (by decide))
  have htarget : Spelled d (target.text d) target.names := by
    cases target with
    | column name => exact spelled_column d name
    | resultAlias name => exact spelled_quoted d name
  have h := htarget.append (Owns.blank.append hdirection).follows
  rwa [List.append_nil, ← String.append_assoc] at h

theorem MadeOf.spelled_list (h : s.MadeOf g) :
    Spelled s.dialect (if s.columns.isEmpty then "*" else Text.join ", " s.columns)
      (g.columns.flatMap (·.names)) := by
  have hjoin := spelled_join .comma h.columns
  rcases hc : s.columns with - | ⟨t, ts⟩
  · have hg : g.columns = [] := by
      have hcolumns := h.columns
      rw [hc] at hcolumns
      exact List.forall₂_nil_left_iff.1 hcolumns
    rw [hg]
    exact Owns.star.follows.spelled
  · rw [hc] at hjoin
    exact hjoin

theorem follows_window (s : Select) :
    Piece.Follows s.dialect (.sql (" LIMIT " ++ toString (s.limit.getD defaultLimit)) ::
      match s.offset with
      | some n => [.sql (" OFFSET " ++ toString n)]
      | none => []) [] := by
  have hlimit : Owns s.dialect " LIMIT " :=
    .literal " LIMIT " " " ["LIMIT", " "] (by decide) (by decide)
  have hoffset : Owns s.dialect " OFFSET " :=
    .literal " OFFSET " " " ["OFFSET", " "] (by decide) (by decide)
  have hl := (hlimit.append (.number (s.limit.getD defaultLimit))).follows
  cases s.offset with
  | none => exact Piece.follows_cons hl Piece.follows_nil
  | some n => exact Piece.follows_cons hl (Piece.follows_sql (hoffset.append (.number n)).follows)

/-- A selection without joins is spelled with the names of its sources. -/
theorem MadeOf.spelled (h : s.MadeOf g) :
    Piece.Spelled s.dialect s.pieces (g.names s.table) := by
  have hselect : Owns s.dialect "SELECT " :=
    .literal "SELECT " "SELECT" [" "] (by decide) (by decide)
  have hgroup : Owns s.dialect " GROUP BY " :=
    .literal " GROUP BY " " " ["GROUP", " ", "BY", " "] (by decide) (by decide)
  have hhaving : Owns s.dialect " HAVING " :=
    .literal " HAVING " " " ["HAVING", " "] (by decide) (by decide)
  have horder : Owns s.dialect " ORDER BY " :=
    .literal " ORDER BY " " " ["ORDER", " ", "BY", " "] (by decide) (by decide)
  have hhead := (hselect.append_spelled h.spelled_list).append
    (Owns.fromWord.append_spelled (spelled_identifier s.dialect s.table))
  have hrows := follows_conditions .whereWord h.rows
  have hgroups := follows_clause hgroup
    (h.groups.imp fun _ _ he => SelectedColumn.spelled_expression he)
  have hgroupRows := follows_conditions hhaving h.groupRows
  have hentries : List.Forall₂ (fun t (o : OrderTarget × Direction) => Spelled s.dialect t o.1.names)
      (s.order.map fun o => o.1.text s.dialect ++ " " ++ o.2.name) g.order := by
    rw [h.order, List.forall₂_map_left_iff, List.forall₂_same]
    exact fun o _ => spelled_order s.dialect o.1 o.2
  have hordered := follows_clause horder hentries
  -- Each of these clauses begins with own text, so it does not matter which of them are empty.
  have hclauses := (((hrows.append hgroups).append hgroupRows).append hordered).append
    (follows_window s)
  have hspelled := (Piece.follows_cons hhead hclauses).spelled
  simp only [List.append_nil, ← String.append_assoc, ← List.append_assoc] at hspelled
  simp only [pieces, h.joins, List.map_nil, List.nil_append, Sources.names]
  exact hspelled

theorem MadeOf.run (h : s.MadeOf g) (steps : List Step)
    (hj : ∀ j, .join j ∈ steps → ∃ e, Sql.checkJoin s.dialect j.on = .error e) :
    (steps.foldl Select.after s).MadeOf (steps.foldl (Sources.after s.dialect) g) := by
  induction steps generalizing s g with
  | nil => exact h
  | cons step steps ih =>
    have hnext := h.after step fun j hstep => hj j (by rw [hstep]; exact List.mem_cons_self)
    have hrun := ih hnext fun j hmem => by
      rw [dialect_after]
      exact hj j (List.mem_cons_of_mem step hmem)
    rw [dialect_after] at hrun
    exact hrun

theorem table_foldl_after (steps : List Step) (s : Select) :
    (steps.foldl Select.after s).table = s.table := by
  induction steps generalizing s with
  | nil => rfl
  | cons step steps ih => rw [List.foldl_cons, ih, table_after]

end Select

/-! ### Inserts and updates -/

/-- A value that is bound, not an expression of its own. -/
def Assignment.IsBound (a : Assignment) : Prop := a.value.rawExpression? = none

namespace Assignment

theorem spelled_target (a : Assignment) (d : Dialect) : Spelled d (a.target d) a.names := by
  have h : a.target d = d.identifier a.bareColumn := rfl
  rw [h]
  exact spelled_identifier d a.bareColumn

theorem IsBound.refusal? {a : Assignment} (h : a.IsBound) (d : Dialect) : a.refusal? d = none := by
  rw [Assignment.refusal?, h]

theorem IsBound.placedAt {a : Assignment} (h : a.IsBound) (n : Nat) : a.placedAt n = .param n := by
  rw [Assignment.placedAt, h]

theorem findSome?_of_isBound {values : List Assignment} (h : ∀ a ∈ values, a.IsBound)
    (d : Dialect) : values.findSome? (Assignment.refusal? d) = none := by
  rw [List.findSome?_eq_none_iff]
  exact fun a ha => (h a ha).refusal? d

end Assignment

namespace Insert

variable {s : Insert}

theorem spelled_accepted (h : ∀ a ∈ s.values, a.IsBound) :
    Piece.Spelled s.dialect s.accepted
      (identifierNames s.table ++ s.values.flatMap (·.names)) := by
  have hinsert : Owns s.dialect "INSERT INTO " :=
    .literal "INSERT INTO " "INSERT" [" ", "INTO", " "] (by decide) (by decide)
  have hopen : Owns s.dialect " (" := .literal " (" " " ["("] (by decide) (by decide)
  have hvalues : Owns s.dialect ") VALUES (" :=
    .literal ") VALUES (" ")" [" ", "VALUES", " ", "("] (by decide) (by decide)
  have htargets : List.Forall₂ (fun t (a : Assignment) => Spelled s.dialect t a.names)
      (s.values.map (·.target s.dialect)) s.values := by
    rw [List.forall₂_map_left_iff, List.forall₂_same]
    exact fun a _ => a.spelled_target s.dialect
  have hitems : List.Forall₂ (fun ps (_ : Assignment) => Piece.Spelled s.dialect ps [])
      ((placed Assignment.placedAt Assignment.bound 0 s.values).map ([·])) s.values := by
    rw [map_placed]
    refine forall₂_placed (fun n a ha => ?_) Assignment.bound 0
    rw [(h a ha).placedAt n]
    exact (Piece.follows_param n).spelled
  have hhead := (hinsert.append_spelled (spelled_identifier s.dialect s.table)).append
    (hopen.append_spelled (spelled_join .comma htargets))
  have hlist := (Piece.spelled_between .comma hitems).append Piece.follows_closing
  have hnone : s.values.flatMap (fun _ => ([] : List String)) = [] := by simp
  rw [hnone, List.append_nil] at hlist
  have hall := Piece.spelled_before hhead.spelled hvalues hlist
  simp only [← String.append_assoc, List.append_nil] at hall
  exact hall

theorem statement_of_bound (h : ∀ a ∈ s.values, a.IsBound) :
    if s.values = [] then s.statement = .error .nothingToInsert
    else ∃ statement, s.statement = .ok statement ∧
      ScansTo s.dialect statement.sql (identifierNames s.table ++ s.values.flatMap (·.names)) := by
  rw [statement_eq, refusal?, Assignment.findSome?_of_isBound h]
  by_cases he : s.values = []
  · simp [he]
  · simp only [he, List.isEmpty_iff, if_false]
    exact ⟨_, rfl, (spelled_accepted h).scansTo _⟩

theorem foldl_setValues (rows : List (List Assignment)) (s : Insert) :
    rows.foldl setValues s = { s with values := rows.getLast?.getD s.values } := by
  induction rows generalizing s with
  | nil => rfl
  | cons values rows ih =>
    rw [List.foldl_cons, ih, setValues, List.getLast?_cons, Option.getD_some]

end Insert

namespace Update

variable {s : Update} {g : Sources}

theorem MadeOf.ofTable (d : Dialect) (table : String) : (Update.ofTable d table).MadeOf .none :=
  ⟨rfl, .nil⟩

theorem MadeOf.after (h : s.MadeOf g) (step : Step) : (s.after step).MadeOf (g.after step) := by
  cases step with
  | values vs => exact { h with values := rfl }
  | condition f =>
    rw [Update.after, attempt, left_addWhere, Sources.after]
    split
    · exact { h with rows := forall₂_snoc h.rows (f.spelled_pieces s.dialect _) }
    · exact h

theorem MadeOf.run (h : s.MadeOf g) (steps : List Step) :
    (steps.foldl Update.after s).MadeOf (steps.foldl Sources.after g) := by
  induction steps generalizing s g with
  | nil => exact h
  | cons step steps ih => exact ih (h.after step)

theorem MadeOf.spelled_accepted (h : s.MadeOf g) (hv : ∀ a ∈ s.values, a.IsBound) :
    Piece.Spelled s.dialect s.accepted (g.names s.table) := by
  have hupdate : Owns s.dialect "UPDATE " :=
    .literal "UPDATE " "UPDATE" [" "] (by decide) (by decide)
  have hset : Owns s.dialect " SET " := .literal " SET " " " ["SET", " "] (by decide) (by decide)
  have hequals : Owns s.dialect " = " := .literal " = " " " ["=", " "] (by decide) (by decide)
  have hsets : List.Forall₂ (fun ps (a : Assignment) => Piece.Spelled s.dialect ps a.names)
      (placed (assignmentAt s.dialect) Assignment.bound s.bindings.values.length s.values)
      s.values := by
    refine forall₂_placed (fun n a ha => ?_) Assignment.bound _
    rw [assignmentAt, (hv a ha).placedAt n]
    have hp := Piece.spelled_before (a.spelled_target s.dialect) hequals
      (Piece.follows_param n).spelled
    rwa [List.append_nil] at hp
  have hhead := hupdate.append_spelled (spelled_identifier s.dialect s.table)
  have hlist := Piece.spelled_between .comma hsets
  have hrows := Select.follows_conditions .whereWord h.rows
  have hall := Piece.spelled_before hhead.spelled hset (hlist.append hrows)
  rw [← List.append_assoc, h.values] at hall
  rw [accepted, h.values]
  exact hall

theorem MadeOf.statement_of_bound (h : s.MadeOf g) (hv : ∀ a ∈ g.values, a.IsBound) :
    if g.values = [] then s.statement = .error .nothingToUpdate
    else ∃ statement, s.statement = .ok statement ∧
      ScansTo s.dialect statement.sql (g.names s.table) := by
  rw [← h.values] at hv ⊢
  rw [statement_eq, refusal?, Assignment.findSome?_of_isBound hv]
  by_cases he : s.values = []
  · simp [he]
  · simp only [he, List.isEmpty_iff, if_false]
    exact ⟨_, rfl, (h.spelled_accepted hv).scansTo _⟩

theorem dialect_after (s : Update) (step : Step) : (s.after step).dialect = s.dialect := by
  cases step with
  | values vs => rfl
  | condition f =>
    rw [Update.after, attempt, left_addWhere]
    split <;> rfl

theorem table_after (s : Update) (step : Step) : (s.after step).table = s.table := by
  cases step with
  | values vs => rfl
  | condition f =>
    rw [Update.after, attempt, left_addWhere]
    split <;> rfl

theorem foldl_after (steps : List Step) (s : Update) :
    (steps.foldl Update.after s).dialect = s.dialect ∧
      (steps.foldl Update.after s).table = s.table := by
  induction steps generalizing s with
  | nil => exact ⟨rfl, rfl⟩
  | cons step steps ih =>
    obtain ⟨hd, ht⟩ := ih (s.after step)
    rw [List.foldl_cons, hd, ht, dialect_after, table_after]
    exact ⟨rfl, rfl⟩

theorem values_sources {P : Assignment → Prop} (steps : List Step) (g : Sources)
    (hg : ∀ a ∈ g.values, P a) (h : ∀ values, .values values ∈ steps → ∀ a ∈ values, P a) :
    ∀ a ∈ (steps.foldl Sources.after g).values, P a := by
  induction steps generalizing g with
  | nil => exact hg
  | cons step steps ih =>
    refine ih _ ?_ fun values hmem => h values (List.mem_cons_of_mem step hmem)
    cases step with
    | values vs => exact h vs List.mem_cons_self
    | condition f =>
      rw [Sources.after]
      split <;> exact hg

end Update

/-! ### Main statement -/

/-- The names of a statement are those its builder was given. For a selection made by any steps none of
which joins a table, for an insert made by any calls that set values and for an update made by any
steps, none of the values being an expression of its own, the scan of the statement succeeds and brings
back the names of the sources in their order; around them stands nothing but words of the vocabulary,
numbers and placeholders. An insert or an update of bound values has a statement unless it has no
values. -/
theorem names_of_statement :
    (∀ (d : Dialect) (table : String) (steps : List Select.Step),
      (∀ j, .join j ∈ steps → ∃ e, Sql.checkJoin d j.on = .error e) →
      ScansTo d (steps.foldl Select.after (.ofTable d table)).statement.sql
        ((steps.foldl (Select.Sources.after d) .none).names table)) ∧
    (∀ (d : Dialect) (table : String) (rows : List (List Assignment)),
      (∀ values ∈ rows, ∀ a ∈ values, a.IsBound) →
      if rows.getLast?.getD [] = [] then
        (rows.foldl Insert.setValues (.ofTable d table)).statement = .error .nothingToInsert
      else ∃ statement,
        (rows.foldl Insert.setValues (.ofTable d table)).statement = .ok statement ∧
        ScansTo d statement.sql
          (identifierNames table ++ (rows.getLast?.getD []).flatMap (·.names))) ∧
    (∀ (d : Dialect) (table : String) (steps : List Update.Step),
      (∀ values, .values values ∈ steps → ∀ a ∈ values, a.IsBound) →
      if (steps.foldl Update.Sources.after .none).values = [] then
        (steps.foldl Update.after (.ofTable d table)).statement = .error .nothingToUpdate
      else ∃ statement,
        (steps.foldl Update.after (.ofTable d table)).statement = .ok statement ∧
        ScansTo d statement.sql ((steps.foldl Update.Sources.after .none).names table)) := by
  refine ⟨?_, ?_, ?_⟩
  · intro d table steps hj
    have hrun := (Select.MadeOf.ofTable d table).run steps hj
    have hspelled := hrun.spelled
    rw [Select.table_foldl_after, Select.dialect_foldl_after] at hspelled
    have hscan := hspelled.scansTo (steps.foldl Select.after (.ofTable d table)).bindings
    rw [Select.statement, Select.dialect_foldl_after]
    exact hscan
  · intro d table rows h
    have hlast : ∀ a ∈ rows.getLast?.getD [], a.IsBound := by
      cases hr : rows.getLast? with
      | none => simp
      | some values => exact h values (List.mem_of_getLast? hr)
    have hstatement := Insert.statement_of_bound
      (s := { Insert.ofTable d table with values := rows.getLast?.getD [] }) hlast
    rw [Insert.foldl_setValues]
    exact hstatement
  · intro d table steps h
    have hvalues := Update.values_sources steps .none (by simp [Update.Sources.none]) h
    have hrun := (Update.MadeOf.ofTable d table).run steps
    have hstatement := hrun.statement_of_bound hvalues
    obtain ⟨hd, ht⟩ := Update.foldl_after steps (.ofTable d table)
    rw [hd, ht] at hstatement
    exact hstatement

/-- A table that is a star stands without quotes, and the target of an assignment leaves the table of
its column out. -/
theorem names_left_out :
    ¬ScansTo .mysql (Select.ofTable .mysql "*").statement.sql ["*"] ∧
    ¬∃ statement,
      ((Insert.ofTable .postgres "users").setValues [⟨"users.age", .int 1⟩]).statement =
        .ok statement ∧
      ScansTo .postgres statement.sql ("users" :: columnNames "users.age") := by
  refine ⟨?_, ?_⟩
  · intro hscan
    have h : (Dialect.scan .mysql (Select.ofTable .mysql "*").statement.sql).map
        (·.filterMap Segment.name?) = some [] := by decide
    rw [hscan.names] at h
    cases h
  · rintro ⟨statement, hs, hscan⟩
    have h : ((Insert.ofTable .postgres "users").setValues
        [⟨"users.age", .int 1⟩]).statement.toOption.bind (fun s =>
          (Dialect.scan .postgres s.sql).map (·.filterMap Segment.name?)) =
            some ["users", "age"] := by decide
    rw [hs] at h
    have hnames := hscan.names.symm.trans h
    exact absurd hnames (by decide)

end QueryDesk
