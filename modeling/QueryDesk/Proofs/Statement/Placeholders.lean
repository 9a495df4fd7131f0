import QueryDesk.Proofs.Statement.Marks
import QueryDesk.Proofs.Statement.Names

/-!
# The placeholders of a statement

The server numbers parameters by what it reads, not by what a builder put there. Join conditions and
raw values stand in a statement as the request wrote them, so they must bring no parameter mark, and
must not take what follows into a comment. Main statement: where the fragments of a request are
clear, the parameter marks in its statement are the placeholders of its parameters, one by one in
their order.
-/

namespace QueryDesk

open Sql.Server (Shows Continues Closed Hangs doubtful carriesMark marks Mode)

/-! ### Clear fragments -/

/-- Nothing is told of a fragment but that the server cuts it into the same tokens, that none of
them is a placeholder, and that what is written of it does not end in a comment with the line still
open. -/
structure Clear (d : Dialect) (fragment : String) (written : List Char) : Prop where
  cut : doubtful d .start fragment.toList = false
  tokens : carriesMark d fragment = false
  line : ¬Hangs d written

instance (d : Dialect) (fragment : String) (written : List Char) :
    Decidable (Clear d fragment written) :=
  decidable_of_iff
    (doubtful d .start fragment.toList = false ∧ carriesMark d fragment = false ∧ ¬Hangs d written)
    ⟨fun ⟨cut, tokens, line⟩ => ⟨cut, tokens, line⟩, fun h => ⟨h.cut, h.tokens, h.line⟩⟩

theorem Clear.shows_join {d : Dialect} {on : String} (h : Clear d on on.toList)
    (hok : Sql.checkJoin d on = .ok ()) : Shows d on.toList [] where
  closed := (Sql.Server.checkJoin_closed hok h.cut).resolve_right h.line
  marks := (Sql.Server.ready_expression (Sql.Server.expression_of_checkJoin hok) h.cut).2 h.tokens

theorem Clear.shows_raw {d : Dialect} {raw : String} (h : Clear d raw (Text.trim raw.toList))
    (hok : Sql.checkRaw d raw = .ok ()) : Shows d (Text.trim raw.toList) [] where
  closed := (Sql.Server.checkRaw_closed hok h.cut).resolve_right h.line
  marks := by
    have hmarks := (Sql.Server.ready_expression
      (Sql.Server.expression_of_checkRaw hok).1 h.cut).2 h.tokens
    have hcut := h.cut
    obtain ⟨lead, trail, hs, hlead, -⟩ := Text.trim_split raw.toList
    rw [hs, Sql.Server.doubtful_append, Bool.or_eq_false_iff] at hcut
    rw [hs, Sql.Server.marks_append, (Sql.Server.after_blanks hlead hcut.1).1,
      Sql.Server.marks_append] at hmarks
    exact (List.append_eq_nil_iff.1 (List.append_eq_nil_iff.1 hmarks).2).1

/-- The raw expression of an assignment, if it has one, is clear. -/
def Assignment.Clear (d : Dialect) (a : Assignment) : Prop :=
  ∀ raw, a.value.rawExpression? = some raw → QueryDesk.Clear d raw (Text.trim raw.toList)

/-- The condition of a join is clear, if it is accepted. -/
def Join.Clear (d : Dialect) (j : Join) : Prop :=
  Sql.checkJoin d j.on = .ok () → QueryDesk.Clear d j.on j.on.toList

theorem forall_mem_snoc {α : Type} {P : α → Prop} {as : List α} {a : α} (h : ∀ x ∈ as, P x)
    (ha : P a) : ∀ x ∈ as ++ [a], P x := by
  intro x hx
  rcases List.mem_append.1 hx with hx | hx
  · exact h x hx
  · rw [List.mem_singleton.1 hx]
    exact ha

namespace Select

/-! ### Steps of a selection -/

/-- The texts and conditions of a selection can stand behind each other, and their parameter marks
are their placeholders. -/
structure Marked (s : Select) : Prop where
  columns : ∀ t ∈ s.columns, Shows s.dialect t.toList []
  joins : ∀ t ∈ s.joins, Shows s.dialect t.toList []
  wheres : ∀ c ∈ s.wheres, Piece.Shows s.dialect c
  groups : ∀ t ∈ s.groups, Shows s.dialect t.toList []
  havings : ∀ c ∈ s.havings, Piece.Shows s.dialect c

theorem shows_entries {d : Dialect} {cs : List SelectedColumn} {ts : List String}
    (h : cs.mapM (·.entry d) = .ok ts) : ∀ t ∈ ts, Shows d t.toList [] := by
  induction cs generalizing ts with
  | nil =>
    cases h
    simp
  | cons c cs ih =>
    rw [List.mapM_cons] at h
    cases he : c.entry d with
    | error e =>
      rw [he] at h
      cases h
    | ok t =>
      rw [he] at h
      cases hes : cs.mapM (·.entry d) with
      | error e =>
        rw [hes] at h
        cases h
      | ok rest =>
        rw [hes] at h
        cases h
        rw [List.forall_mem_cons]
        exact ⟨SelectedColumn.shows_entry he, ih hes⟩

theorem marked_ofTable (d : Dialect) (table : String) : (ofTable d table).Marked := by
  constructor <;> simp [ofTable]

namespace Marked

variable {s : Select}

theorem setColumns (h : s.Marked) (cs : List SelectedColumn) :
    (s.after (.columns cs)).Marked := by
  simp only [Select.after, attempt, Select.setColumns]
  cases hes : cs.mapM (·.entry s.dialect) with
  | error e => exact h
  | ok ts => exact { h with columns := shows_entries hes }

theorem addJoin (h : s.Marked) (j : Join) (hj : j.Clear s.dialect) :
    (s.after (.join j)).Marked := by
  simp only [Select.after, attempt, Select.addJoin]
  cases hok : Sql.checkJoin s.dialect j.on with
  | error e => exact h
  | ok u =>
    have hon := (hj hok).shows_join hok
    have hjoin : opening (j.kind.name ++ " JOIN ") = true := by
      cases j.kind <;> decide
    -- The alias may be left out; with it or without, `ON` follows.
    have hclause : ∀ shown : String, Continues s.dialect shown.toList [] → Shows s.dialect
        (j.kind.name ++ " JOIN " ++ s.dialect.identifier j.table ++ shown ++ " ON " ++ j.on).toList
        [] := by
      intro shown hshown
      have htable := shows_opening hjoin (Sql.Server.shows_identifier s.dialect j.table)
      have hnamed := shows_append htable hshown
      have hall := shows_append hnamed (continues_opening (w := " ON ") (by decide) (by decide) hon)
      rwa [← String.append_assoc] at hall
    refine { h with joins := forall_mem_snoc h.joins (hclause _ ?_) }
    rcases j.aliasName with - | a
    · exact .nil
    · dsimp only
      split
      · exact .nil
      · exact continues_opening (by decide) (by decide) (Sql.Server.shows_identifier s.dialect a)

theorem addWhere (h : s.Marked) (f : Filter) : (s.after (.condition f)).Marked := by
  rw [Select.after, attempt, left_addWhere]
  split
  · exact { h with wheres := forall_mem_snoc h.wheres (f.shows_pieces s.dialect _) }
  · exact h

theorem addHaving (h : s.Marked) (f : Filter) : (s.after (.having f)).Marked := by
  rw [Select.after, attempt, left_addHaving]
  split
  · exact { h with havings := forall_mem_snoc h.havings (f.shows_pieces s.dialect _) }
  · exact h

theorem addGroup (h : s.Marked) (c : SelectedColumn) : (s.after (.group c)).Marked := by
  simp only [Select.after, attempt, Select.addGroup]
  cases he : c.expression s.dialect with
  | error e => exact h
  | ok t =>
    dsimp only
    split
    · exact h
    · have ht := SelectedColumn.shows_expression he
      exact { h with groups := forall_mem_snoc h.groups ht }

theorem addSearch (h : s.Marked) (columns : List String) (term : String) :
    (s.after (.search columns term)).Marked := by
  simp only [Select.after, attempt, Attempt.left, addSearch_eq]
  split
  · exact h
  · exact { h with wheres := forall_mem_snoc h.wheres (shows_searchPieces s.dialect columns _) }

theorem after (h : s.Marked) (step : Step) (hj : ∀ j, step = .join j → j.Clear s.dialect) :
    (s.after step).Marked := by
  cases step with
  | columns cs => exact h.setColumns cs
  | join j => exact h.addJoin j (hj j rfl)
  | condition f => exact h.addWhere f
  | having f => exact h.addHaving f
  | group c => exact h.addGroup c
  | order target direction => exact { h with }
  | limit n => exact { h with }
  | offset n => exact { h with }
  | search columns term => exact h.addSearch columns term

theorem run (h : s.Marked) (steps : List Step) (hj : ∀ j, .join j ∈ steps → j.Clear s.dialect) :
    (steps.foldl Select.after s).Marked := by
  induction steps generalizing s with
  | nil => exact h
  | cons step steps ih =>
    refine ih (h.after step fun j hstep => hj j (by rw [hstep]; exact List.mem_cons_self)) ?_
    intro j hmem
    rw [dialect_after]
    exact hj j (List.mem_cons_of_mem step hmem)

end Marked

/-! ### The text of a selection -/

variable {d : Dialect}

theorem continues_conditions {w : String} (ho : opening w = true) (hc : closing w = true)
    {cs : List (List Piece)} (h : ∀ c ∈ cs, Piece.Shows d c) :
    Piece.Continues d (conditions w cs) := by
  rw [conditions]
  split
  · exact .nil
  · exact .opening ho hc (.between (by decide) (by decide) h)

theorem continues_clause {w : String} (ho : opening w = true) (hc : closing w = true)
    {ts : List String} (h : ∀ t ∈ ts, Shows d t.toList []) :
    Piece.Continues d (clause w ", " ts) := by
  rw [clause]
  split
  · exact .nil
  · exact .sql (continues_opening ho hc (shows_join (by decide) (by decide) h))

theorem continues_joins {ts : List String} (h : ∀ t ∈ ts, Shows d t.toList []) :
    Piece.Continues d (ts.map fun t => .sql (" " ++ t)) := by
  induction ts with
  | nil => exact .nil
  | cons t ts ih =>
    rw [List.forall_mem_cons] at h
    have ht : Piece.Continues d [.sql (" " ++ t)] :=
      .sql (continues_opening (by decide) (by decide) h.1)
    exact ht.append (ih h.2)

theorem shows_order (target : OrderTarget) (direction : Direction) :
    Shows d (target.text d ++ " " ++ direction.name).toList [] := by
  have htarget : Shows d (target.text d).toList [] := by
    cases target with
    | column name => exact Sql.Server.shows_column d name
    | resultAlias name => exact Sql.Server.shows_quoted d name
  have hdirection : closing (" " ++ direction.name) = true := by
    cases direction <;> decide
  rw [String.append_assoc]
  exact shows_closing htarget hdirection

theorem continues_window (limit : Nat) (offset : Option Nat) :
    Piece.Continues d (.sql (" LIMIT " ++ toString limit) ::
      match offset with
      | some n => [.sql (" OFFSET " ++ toString n)]
      | none => []) := by
  have hnumber : ∀ (keyword : String) (n : Nat), opening keyword = true → closing keyword = true →
      Piece.Continues d [.sql (keyword ++ toString n)] := fun keyword n ho hc =>
    .sql (continues_opening ho hc (Sql.Server.shows_number n))
  have hlimit := hnumber " LIMIT " limit (by decide) (by decide)
  cases offset with
  | none => exact hlimit
  | some n => exact hlimit.append (hnumber " OFFSET " n (by decide) (by decide))

theorem Marked.shows {s : Select} (h : s.Marked) : Piece.Shows s.dialect s.pieces := by
  have hlist : Shows s.dialect
      (if s.columns.isEmpty then "*" else Text.join ", " s.columns).toList [] := by
    split
    · exact Sql.Server.shows_plain (by decide)
    · exact shows_join (by decide) (by decide) h.columns
  have hhead := shows_append (shows_opening (w := "SELECT ") (by decide) hlist)
    (continues_opening (w := " FROM ") (by decide) (by decide)
      (Sql.Server.shows_identifier s.dialect s.table))
  have hrows := continues_conditions (w := " WHERE ") (by decide) (by decide) h.wheres
  have hgroups := continues_clause (w := " GROUP BY ") (by decide) (by decide) h.groups
  have hhavings := continues_conditions (w := " HAVING ") (by decide) (by decide) h.havings
  have htargets : ∀ t ∈ s.order.map fun o => o.1.text s.dialect ++ " " ++ o.2.name,
      Shows s.dialect t.toList [] := by
    intro t ht
    obtain ⟨o, -, rfl⟩ := List.mem_map.1 ht
    exact shows_order o.1 o.2
  have horder := continues_clause (w := " ORDER BY ") (by decide) (by decide) htargets
  have hclauses := (((((continues_joins h.joins).append hrows).append hgroups).append
    hhavings).append horder).append (continues_window (s.limit.getD defaultLimit) s.offset)
  have hall := (Piece.Shows.sql hhead).append hclauses
  simp only [← String.append_assoc] at hall
  exact hall

end Select

/-! ### Inserts and updates -/

namespace Assignment

variable {a : Assignment} {d : Dialect}

theorem shows_target (a : Assignment) (d : Dialect) : Shows d (a.target d).toList [] :=
  Sql.Server.shows_identifier d a.bareColumn

theorem shows_placedAt (hok : a.refusal? d = none) (h : a.Clear d) (n : Nat) :
    Piece.Shows d [a.placedAt n] := by
  rw [refusal?] at hok
  rw [placedAt]
  cases hr : a.value.rawExpression? with
  | none => exact .param n
  | some raw =>
    rw [hr] at hok
    dsimp only at hok
    cases hc : Sql.checkRaw d raw with
    | error e =>
      rw [hc] at hok
      cases hok
    | ok u =>
      have hraw := (h raw hr).shows_raw hc
      have htrim : (Text.trimmed raw).toList = Text.trim raw.toList := by
        rw [Text.trimmed, String.toList_ofList]
      exact .sql (htrim ▸ hraw)

end Assignment

/-- The parameter marks in the statement made of some pieces are the placeholders of its parameters.
-/
theorem Piece.Shows.statement {d : Dialect} {ps : List Piece} (h : Piece.Shows d ps)
    (b : Bindings) : Sql.Server.Shows d (Piece.statement d b ps).sql.toList
      (numbered d 0 (Piece.statement d b ps).params.length) := by
  have hlength : (Piece.statement d b ps).params.length = (slots ps).length := List.length_map ..
  rw [hlength]
  exact h 0

namespace Insert

variable {s : Insert}

theorem shows_accepted (hok : s.values.findSome? (Assignment.refusal? s.dialect) = none)
    (h : ∀ a ∈ s.values, a.Clear s.dialect) : Piece.Shows s.dialect s.accepted := by
  rw [List.findSome?_eq_none_iff] at hok
  have htable := shows_opening (w := "INSERT INTO ") (by decide)
    (Sql.Server.shows_identifier s.dialect s.table)
  have htargets : Shows s.dialect
      (Text.join ", " (s.values.map (·.target s.dialect))).toList [] := by
    refine shows_join (by decide) (by decide) fun t ht => ?_
    obtain ⟨a, -, rfl⟩ := List.mem_map.1 ht
    exact a.shows_target s.dialect
  have hhead := shows_append htable
    (continues_opening (w := " (") (by decide) (by decide) htargets)
  have hitems : Piece.Shows s.dialect (Piece.between ", "
      ((placed Assignment.placedAt Assignment.bound 0 s.values).map ([·]))) := by
    rw [map_placed]
    exact .between (by decide) (by decide) (forall_mem_placed
      (fun n a ha => Assignment.shows_placedAt (hok a ha) (h a ha) n) Assignment.bound 0)
  have hlist := hitems.append (.sql (continues_closing (w := ")") (by decide)))
  have hall := Piece.Shows.before hhead (w := ") VALUES (") (by decide) (by decide) hlist
  simp only [← String.append_assoc] at hall
  exact hall

theorem shows_statement {statement : Statement} (hs : s.statement = .ok statement)
    (h : ∀ a ∈ s.values, a.Clear s.dialect) :
    Shows s.dialect statement.sql.toList (numbered s.dialect 0 statement.params.length) := by
  rw [statement_eq] at hs
  cases hr : s.refusal? with
  | some e =>
    rw [hr] at hs
    cases hs
  | none =>
    rw [hr] at hs
    cases hs
    rw [refusal?] at hr
    split at hr
    · cases hr
    · exact (shows_accepted hr h).statement _

end Insert

namespace Update

variable {s : Update}

/-- The parameter marks of the conditions are their placeholders. -/
def Marked (s : Update) : Prop := ∀ c ∈ s.wheres, Piece.Shows s.dialect c

theorem marked_ofTable (d : Dialect) (table : String) : (ofTable d table).Marked := by
  simp [Marked, ofTable]

theorem Marked.after (h : s.Marked) (step : Step) : (s.after step).Marked := by
  cases step with
  | values vs => exact h
  | condition f =>
    rw [Update.after, attempt, left_addWhere]
    split
    · exact forall_mem_snoc h (f.shows_pieces s.dialect _)
    · exact h

theorem Marked.run (h : s.Marked) (steps : List Step) : (steps.foldl Update.after s).Marked := by
  induction steps generalizing s with
  | nil => exact h
  | cons step steps ih => exact ih (h.after step)

theorem Marked.shows_accepted (h : s.Marked)
    (hok : s.values.findSome? (Assignment.refusal? s.dialect) = none)
    (hv : ∀ a ∈ s.values, a.Clear s.dialect) : Piece.Shows s.dialect s.accepted := by
  rw [List.findSome?_eq_none_iff] at hok
  have hhead := shows_opening (w := "UPDATE ") (by decide)
    (Sql.Server.shows_identifier s.dialect s.table)
  have hsets : Piece.Shows s.dialect (Piece.between ", " (placed (assignmentAt s.dialect)
      Assignment.bound s.bindings.values.length s.values)) := by
    refine .between (by decide) (by decide) (forall_mem_placed (fun n a ha => ?_) _ _)
    have hvalue := Assignment.shows_placedAt (hok a ha) (hv a ha) n
    exact .before (a.shows_target s.dialect) (by decide) (by decide) hvalue
  have hrows := Select.continues_conditions (w := " WHERE ") (by decide) (by decide) h
  exact .before hhead (by decide) (by decide) (hsets.append hrows)

theorem Marked.shows_statement {statement : Statement} (h : s.Marked)
    (hs : s.statement = .ok statement) (hv : ∀ a ∈ s.values, a.Clear s.dialect) :
    Shows s.dialect statement.sql.toList (numbered s.dialect 0 statement.params.length) := by
  rw [statement_eq] at hs
  cases hr : s.refusal? with
  | some e =>
    rw [hr] at hs
    cases hs
  | none =>
    rw [hr] at hs
    cases hs
    rw [refusal?] at hr
    split at hr
    · cases hr
    · exact (h.shows_accepted hr hv).statement _

end Update

/-! ### Main statement -/

/-- Accepted fragments that are clear have no parameter mark. In every statement of the builders
whose fragments are clear the server meets one parameter mark for each parameter, in their order;
and the statement is closed, so that no clause is lost. -/
theorem placeholders_of_statement (d : Dialect) (table : String) :
    (∀ on : String, Clear d on on.toList → Sql.checkJoin d on = .ok () → Shows d on.toList []) ∧
    (∀ raw : String, Clear d raw (Text.trim raw.toList) → Sql.checkRaw d raw = .ok () →
      Shows d (Text.trim raw.toList) []) ∧
    (∀ steps : List Select.Step, (∀ j, .join j ∈ steps → j.Clear d) →
      Shows d (steps.foldl Select.after (.ofTable d table)).statement.sql.toList
        (numbered d 0 (steps.foldl Select.after (.ofTable d table)).statement.params.length)) ∧
    (∀ (values : List Assignment) (statement : Statement), (∀ a ∈ values, a.Clear d) →
      ((Insert.ofTable d table).setValues values).statement = .ok statement →
      Shows d statement.sql.toList (numbered d 0 statement.params.length)) ∧
    (∀ (steps : List Update.Step) (statement : Statement),
      (∀ values, .values values ∈ steps → ∀ a ∈ values, a.Clear d) →
      (steps.foldl Update.after (.ofTable d table)).statement = .ok statement →
      Shows d statement.sql.toList (numbered d 0 statement.params.length)) := by
  refine ⟨fun on h hok => h.shows_join hok, fun raw h hok => h.shows_raw hok, ?_, ?_, ?_⟩
  · intro steps hj
    have hmarked := (Select.marked_ofTable d table).run steps hj
    have hshows := hmarked.shows.statement (steps.foldl Select.after (.ofTable d table)).bindings
    rw [Select.dialect_foldl_after] at hshows
    rw [Select.statement, Select.dialect_foldl_after]
    exact hshows
  · intro values statement h hs
    exact Insert.shows_statement (s := (Insert.ofTable d table).setValues values) hs h
  · intro steps statement h hs
    have hmarked := (Update.marked_ofTable d table).run steps
    have hvalues := Update.values_sources steps .none (by simp [Update.Sources.none]) h
    rw [← ((Update.MadeOf.ofTable d table).run steps).values] at hvalues
    have hdialect : (steps.foldl Update.after (.ofTable d table)).dialect = d :=
      (Update.foldl_after steps (.ofTable d table)).1
    have hshows := hmarked.shows_statement hs (by rwa [hdialect])
    rw [hdialect] at hshows
    exact hshows

theorem placeholders_of_clear_fragments :
    Shows .postgres "orders.user = users.id AND note = '$1' /* $2 */".toList [] ∧
    Shows .mysql (Text.trim " COALESCE(b, '?') ".toList) [] ∧
    Shows .postgres ([Select.Step.join ⟨"orders", none, .left,
        "orders.user = users.id AND note = '$1' /* $2 */"⟩,
      .condition (.on "id" .eq [.literal (.int 1)])].foldl Select.after
        (.ofTable .postgres "users")).statement.sql.toList (numbered .postgres 0 1) ∧
    Shows .mysql "INSERT INTO `t` (`a`, `b`) VALUES (COALESCE(b, '?'), ?)".toList ['?'] ∧
    Shows .mysql "UPDATE `t` SET `a` = a + 1 WHERE `id` = ?".toList ['?'] := by
  obtain ⟨hjoin, -, hselect, -, -⟩ := placeholders_of_statement .postgres "users"
  obtain ⟨-, hraw, -, hinsert, hupdate⟩ := placeholders_of_statement .mysql "t"
  have hon : Clear .postgres "orders.user = users.id AND note = '$1' /* $2 */"
      "orders.user = users.id AND note = '$1' /* $2 */".toList := by decide +kernel
  have hcoalesce : Clear .mysql " COALESCE(b, '?') " (Text.trim " COALESCE(b, '?') ".toList) := by
    decide +kernel
  have hsum : Clear .mysql "a + 1" (Text.trim "a + 1".toList) := by decide +kernel
  have hparams : ([Select.Step.join ⟨"orders", none, .left,
        "orders.user = users.id AND note = '$1' /* $2 */"⟩,
      .condition (.on "id" .eq [.literal (.int 1)])].foldl Select.after
        (.ofTable .postgres "users")).statement.params.length = 1 := by decide +kernel
  refine ⟨hjoin _ hon (by decide +kernel), hraw _ hcoalesce (by decide +kernel), ?_, ?_, ?_⟩
  · have h := hselect [.join ⟨"orders", none, .left,
        "orders.user = users.id AND note = '$1' /* $2 */"⟩,
      .condition (.on "id" .eq [.literal (.int 1)])] (by
        intro j hj
        simp only [List.mem_cons, List.not_mem_nil, or_false, reduceCtorEq,
          Select.Step.join.injEq] at hj
        rw [hj]
        exact fun _ => hon)
    rwa [hparams] at h
  · rw [← List.replicate_one, ← numbered_mysql 0 1]
    refine hinsert [⟨"a", .text "= COALESCE(b, '?') "⟩, ⟨"b", .int 1⟩] ⟨_, [.int 1]⟩ ?_
      (by decide +kernel)
    intro a ha raw hr
    simp only [List.mem_cons, List.not_mem_nil, or_false] at ha
    rcases ha with rfl | rfl
    · cases hr
      exact hcoalesce
    · cases hr
  · rw [← List.replicate_one, ← numbered_mysql 0 1]
    refine hupdate [.values [⟨"a", .text "=a + 1"⟩],
      .condition (.on "id" .eq [.literal (.int 1)])] ⟨_, [.int 1]⟩ ?_ (by decide +kernel)
    intro values hvalues a ha raw hr
    simp only [List.mem_cons, List.not_mem_nil, or_false, reduceCtorEq,
      Update.Step.values.injEq] at hvalues
    rw [hvalues, List.mem_singleton] at ha
    subst ha
    cases hr
    exact hsum

/-- Raw values with a parameter mark are accepted. In MySQL the statement then has more marks than
parameters, in Postgres the mark reads the parameter of another column. -/
theorem accepted_parameter_marks :
    Sql.checkRaw .mysql "?" = .ok () ∧ Sql.checkJoin .mysql "a.id = ?" = .ok () ∧
    ((Insert.ofTable .mysql "t").setValues [⟨"a", .text "=?"⟩, ⟨"b", .int 1⟩]).statement =
      .ok ⟨"INSERT INTO `t` (`a`, `b`) VALUES (?, ?)", [.int 1]⟩ ∧
    marks .mysql .start "INSERT INTO `t` (`a`, `b`) VALUES (?, ?)".toList ≠ numbered .mysql 0 1 ∧
    ((Insert.ofTable .postgres "t").setValues [⟨"a", .text "=$1"⟩, ⟨"b", .int 1⟩]).statement =
      .ok ⟨"INSERT INTO \"t\" (\"a\", \"b\") VALUES ($1, $1)", [.int 1]⟩ ∧
    marks .postgres .start "INSERT INTO \"t\" (\"a\", \"b\") VALUES ($1, $1)".toList ≠
      numbered .postgres 0 1 := by
  refine ⟨?_, ?_, ?_, ?_, ?_, ?_⟩
  all_goals decide +kernel

end QueryDesk
