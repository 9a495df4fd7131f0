import QueryDesk.Proofs.Statement.Parameters

/-!
# Clauses of a selection

The statement of a selection read clause by clause, each clause entry by entry. The text of an entry
depends on how many placeholders stand in front of it and on no slot, so the entries of a selection
are known from the steps that made it. Main statements: the text of a selection is that of its
clauses, and after any run of steps the joins, the conditions on rows, the conditions on groups and the
entries of the order are those of the steps that were not refused, in their order.
-/

namespace QueryDesk

namespace Piece

/-- The texts of lists of pieces that stand one behind the other, with `n` placeholders in front of
the first. -/
def texts (d : Dialect) : Nat → List (List Piece) → List String
  | _, [] => []
  | n, ps :: rest => textAfter d n ps :: texts d (n + (slots ps).length) rest

variable {d : Dialect} {n : Nat}

theorem textAfter_between (separator : String) (pss : List (List Piece)) :
    textAfter d n (between separator pss) = Text.join separator (texts d n pss) := by
  induction pss generalizing n with
  | nil => rfl
  | cons ps pss ih =>
    cases pss with
    | nil => rfl
    | cons qs pss =>
      have hrest := ih (n := n + (slots ps).length)
      simp only [texts, between, Text.join] at hrest ⊢
      rw [textAfter_append, textAfter, hrest, String.append_assoc]

theorem texts_map_skeleton (pss : List (List Piece)) :
    texts d n (pss.map (·.map skeleton)) = texts d n pss := by
  induction pss generalizing n with
  | nil => rfl
  | cons ps pss ih =>
    rw [List.map_cons, texts, texts, textAfter_skeleton, length_slots_skeleton, ih]

theorem texts_eq_of_skeleton {pss qss : List (List Piece)}
    (h : pss.map (·.map skeleton) = qss.map (·.map skeleton)) : texts d n pss = texts d n qss := by
  rw [← texts_map_skeleton, h, texts_map_skeleton]

theorem length_slots_eq_of_skeletons {pss qss : List (List Piece)}
    (h : pss.map (·.map skeleton) = qss.map (·.map skeleton)) :
    (pss.flatMap slots).length = (qss.flatMap slots).length := by
  have hlength : ∀ pss : List (List Piece), (pss.flatMap slots).length =
      (pss.map fun ps => (slots (ps.map skeleton)).length).sum := by
    intro pss
    rw [List.length_flatMap]
    simp only [length_slots_skeleton]
  have hsum := congrArg (fun pss => (pss.map fun ps => (slots ps).length).sum) h
  simp only [List.map_map] at hsum
  rw [hlength, hlength]
  exact hsum

/-- Items that name as many slots as they bind, read one behind the other. -/
theorem texts_placed {α : Type} {place : Nat → α → List Piece} {bound : α → List Value}
    (h : ∀ n a, (slots (place n a)).length = (bound a).length) (as : List α) :
    texts d n (placed place bound n as) =
      placed (fun n a => textAfter d n (place n a)) bound n as := by
  induction as generalizing n with
  | nil => rfl
  | cons a as ih => rw [placed, texts, h, ih, placed]

end Piece

/-! ### The text -/

/-- The clauses of a selection as they stand in its text. -/
structure Clauses where
  columns : List String
  table : String
  joins : List String
  rows : List String
  groups : List String
  groupRows : List String
  order : List String
  limit : Nat
  offset : Option Nat

namespace Clauses

/-- A clause with entries between separators, left out when there are none. -/
def clause (keyword separator : String) (entries : List String) : String :=
  if entries.isEmpty then "" else keyword ++ Text.join separator entries

/-- The cut of the rows. -/
def window (limit : Nat) (offset : Option Nat) : String :=
  " LIMIT " ++ toString limit ++
    match offset with
    | some n => " OFFSET " ++ toString n
    | none => ""

def text (c : Clauses) : String :=
  "SELECT " ++ (if c.columns.isEmpty then "*" else Text.join ", " c.columns) ++
    " FROM " ++ c.table ++ String.join (c.joins.map (" " ++ ·)) ++
    clause " WHERE " " AND " c.rows ++ clause " GROUP BY " ", " c.groups ++
    clause " HAVING " " AND " c.groupRows ++ clause " ORDER BY " ", " c.order ++
    window c.limit c.offset

end Clauses

namespace Select

def clauses (s : Select) : Clauses where
  columns := s.columns
  table := s.dialect.identifier s.table
  joins := s.joins
  rows := Piece.texts s.dialect 0 s.wheres
  groups := s.groups
  groupRows := Piece.texts s.dialect (s.wheres.flatMap Piece.slots).length s.havings
  order := s.order.map fun (t, d) => t.text s.dialect ++ " " ++ d.name
  limit := s.limit.getD defaultLimit
  offset := s.offset

section

variable (d : Dialect) (n : Nat) (keyword : String) (rest : List Piece)

theorem textAfter_clause (separator : String) (entries : List String) :
    Piece.textAfter d n (clause keyword separator entries ++ rest) =
      Clauses.clause keyword separator entries ++ Piece.textAfter d n rest := by
  cases entries with
  | nil => simp [clause, Clauses.clause]
  | cons e es => simp [clause, Clauses.clause, Piece.textAfter]

theorem textAfter_conditions (cs : List (List Piece)) :
    Piece.textAfter d n (conditions keyword cs ++ rest) =
      Clauses.clause keyword " AND " (Piece.texts d n cs) ++
        Piece.textAfter d (n + (cs.flatMap Piece.slots).length) rest := by
  rw [Piece.textAfter_append, slots_conditions]
  cases cs with
  | nil => rfl
  | cons c cs =>
    rw [conditions, List.isEmpty_cons, if_neg (by simp), Piece.textAfter, Piece.textAfter_between,
      Clauses.clause, if_neg (by simp [Piece.texts])]

theorem textAfter_joins (js : List String) :
    Piece.textAfter d n (js.map (fun j => .sql (" " ++ j)) ++ rest) =
      String.join (js.map (" " ++ ·)) ++ Piece.textAfter d n rest := by
  induction js with
  | nil => simp
  | cons j js ih =>
    simp only [List.map_cons, List.cons_append, Piece.textAfter, ih, String.join_cons,
      String.append_assoc]

end

theorem sql_statement (s : Select) : s.statement.sql = s.clauses.text := by
  unfold Clauses.text
  cases hoffset : s.offset <;>
    simp only [statement, Piece.statement, pieces, List.append_assoc, Piece.textAfter,
      textAfter_joins, textAfter_conditions, textAfter_clause, Nat.zero_add, clauses,
      Clauses.window, hoffset, String.append_assoc, String.append_empty]

/-! ### What the steps add -/

/-- Which clauses a step left alone on its way from `s` to `t`. -/
structure Leaves (s : Select) (st : Step) (t : Select) : Prop where
  columns : (∀ cs, st ≠ .columns cs) → t.columns = s.columns
  joins : (∀ j, st ≠ .join j) → t.joins = s.joins
  wheres : (∀ f, st ≠ .condition f) → (∀ cs term, st ≠ .search cs term) → t.wheres = s.wheres
  order : (∀ target direction, st ≠ .order target direction) → t.order = s.order

theorem leaves_after (s : Select) (st : Step) : s.Leaves st (s.after st) := by
  cases st with
  | columns cs =>
    simp only [after, attempt, setColumns]
    cases cs.mapM (·.entry s.dialect) <;>
      exact ⟨fun h => absurd rfl (h cs), fun _ => rfl, fun _ _ => rfl, fun _ => rfl⟩
  | join j =>
    simp only [after, attempt, addJoin]
    cases Sql.checkJoin s.dialect j.on <;>
      exact ⟨fun _ => rfl, fun h => absurd rfl (h j), fun _ _ => rfl, fun _ => rfl⟩
  | condition f =>
    simp only [after, attempt, addWhere_eq]
    cases f.enabled <;> cases f.refusal? <;>
      exact ⟨fun _ => rfl, fun _ => rfl, fun h _ => absurd rfl (h f), fun _ => rfl⟩
  | having f =>
    simp only [after, attempt, addHaving_eq]
    cases f.enabled <;> cases f.refusal? <;>
      exact ⟨fun _ => rfl, fun _ => rfl, fun _ _ => rfl, fun _ => rfl⟩
  | group c =>
    simp only [after, attempt, addGroup]
    cases c.expression s.dialect with
    | error e => exact ⟨fun _ => rfl, fun _ => rfl, fun _ _ => rfl, fun _ => rfl⟩
    | ok e =>
      simp only [Attempt.left]
      split <;> exact ⟨fun _ => rfl, fun _ => rfl, fun _ _ => rfl, fun _ => rfl⟩
  | order target direction =>
    exact ⟨fun _ => rfl, fun _ => rfl, fun _ _ => rfl, fun h => absurd rfl (h target direction)⟩
  | limit n => exact ⟨fun _ => rfl, fun _ => rfl, fun _ _ => rfl, fun _ => rfl⟩
  | offset n => exact ⟨fun _ => rfl, fun _ => rfl, fun _ _ => rfl, fun _ => rfl⟩
  | search cs term =>
    simp only [after, attempt, Attempt.left, addSearch_eq]
    split <;>
      exact ⟨fun _ => rfl, fun _ => rfl, fun _ h => absurd rfl (h cs term), fun _ => rfl⟩

/-- The condition on rows that a step adds, without its values. -/
def Step.heldRowConditions (d : Dialect) : Step → List (List Piece)
  | .condition f =>
    if f.enabled = true ∧ f.refusal? = none then [(f.pieces d 0).map Piece.skeleton] else []
  | .search cs term =>
    if Text.allBlank term = true ∨ cs = [] then [] else [searchPieces d cs 0]
  | _ => []

theorem wheres_after (s : Select) (st : Step) :
    (s.after st).wheres.map (·.map Piece.skeleton) =
      s.wheres.map (·.map Piece.skeleton) ++ st.heldRowConditions s.dialect := by
  have hleaves := (s.leaves_after st).wheres
  cases st with
  | condition f =>
    simp only [after, attempt, addWhere_eq, Step.heldRowConditions]
    cases f.enabled with
    | false => simp [Attempt.left]
    | true =>
      cases f.refusal? with
      | some e => simp [Attempt.left]
      | none =>
        have hc := (Filter.Alike.refl f).skeleton_pieces s.dialect s.bindings.values.length 0
        simp only [if_true, Attempt.left, List.map_append, List.map_cons, List.map_nil, hc,
          and_self]
  | search cs term =>
    simp only [after, attempt, Attempt.left, addSearch_eq, Step.heldRowConditions]
    split
    · rw [List.append_nil]
    · simp only [List.map_append, List.map_cons, List.map_nil, searchPieces_skeleton]
  | _ => simp [hleaves, Step.heldRowConditions]

theorem wheres_foldl_after (steps : List Step) (s : Select) :
    (steps.foldl after s).wheres.map (·.map Piece.skeleton) =
      s.wheres.map (·.map Piece.skeleton) ++ steps.flatMap (·.heldRowConditions s.dialect) := by
  induction steps generalizing s with
  | nil => simp
  | cons st steps ih =>
    rw [List.foldl_cons, ih, wheres_after, dialect_after, List.flatMap_cons, List.append_assoc]

end Select

/-- The name by which a statement knows a joined table. -/
def Join.name (j : Join) : String := j.aliasName.getD j.table

/-- The clause of a join, with the name where it is not that of the table. -/
def Join.clause (j : Join) (d : Dialect) : String :=
  j.kind.name ++ " JOIN " ++ d.identifier j.table ++
    (if j.name = j.table then "" else " AS " ++ d.identifier j.name) ++ " ON " ++ j.on

namespace Select

theorem columns_after_columns {s : Select} {cs : List SelectedColumn} {entries : List String}
    (h : cs.mapM (·.entry s.dialect) = .ok entries) :
    (s.after (.columns cs)).columns = entries := by
  rw [after, attempt, setColumns, h]
  rfl

theorem columns_foldl_after {steps : List Step} (h : ∀ cs, .columns cs ∉ steps) (s : Select) :
    (steps.foldl after s).columns = s.columns := by
  induction steps generalizing s with
  | nil => rfl
  | cons st steps ih =>
    have hst : ∀ cs, st ≠ .columns cs := fun cs he => h cs (by simp [he])
    have hrest : ∀ cs, .columns cs ∉ steps := fun cs hc => h cs (by simp [hc])
    rw [List.foldl_cons, ih hrest, (s.leaves_after st).columns hst]

def Step.heldOrder : Step → List (OrderTarget × Direction)
  | .order target direction => [(target, direction)]
  | _ => []

/-- An order with some more entries put into it. -/
def placeAll (order entries : List (OrderTarget × Direction)) : List (OrderTarget × Direction) :=
  entries.foldl (fun order e => place e.1 e.2 order) order

theorem order_after (s : Select) (st : Step) :
    (s.after st).order = placeAll s.order st.heldOrder := by
  have hleaves := (s.leaves_after st).order
  cases st with
  | order target direction => rfl
  | _ => simp [hleaves, Step.heldOrder, placeAll]

theorem order_foldl_after (steps : List Step) (s : Select) :
    (steps.foldl after s).order = placeAll s.order (steps.flatMap Step.heldOrder) := by
  induction steps generalizing s with
  | nil => rfl
  | cons st steps ih =>
    rw [List.foldl_cons, ih, order_after, List.flatMap_cons, placeAll, placeAll, placeAll,
      List.foldl_append]

end Select

end QueryDesk
