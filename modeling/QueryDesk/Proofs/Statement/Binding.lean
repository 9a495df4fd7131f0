import QueryDesk.Statement.Mutation
import QueryDesk.Statement.Select

/-!
# What is bound

A filter either has no condition, and then nothing is bound, or its condition takes the next slots,
one for each of its values in the order of the text; and an assigned value is refused, or takes the
next slot, or is written out. Which values these are, why they may be refused, and how the pieces look
from some slot on is said here without binding anything. `Filter.condition_outcome` says that this is
what a condition does, `Insert.statement_eq` and `Update.statement_eq` what becomes of the values.
-/

namespace QueryDesk

/-! ### Assemblies -/

namespace Assembly

variable {α : Type}

theorem outcome_liftM (r : Except Refusal α) (b : Bindings) :
    (liftM r : Assembly α).outcome b = (r, b) := by
  cases r <;> rfl

theorem outcome_map {β : Type} (g : α → β) (p : Assembly α) (b : Bindings) :
    (g <$> p).outcome b = ((p.outcome b).1.map g, (p.outcome b).2) := by
  rw [map_eq_pure_bind, outcome_bind]
  rcases p.outcome b with ⟨r, b'⟩
  cases r <;> rfl

end Assembly

/-! ### Items one after the other -/

/-- What some items become one after the other, when an item with `n` slots in front of it becomes
`place n item` and binds the values `bound item`. -/
def placed {α β : Type} (place : Nat → α → β) (bound : α → List Value) (n : Nat) : List α → List β
  | [] => []
  | a :: as => place n a :: placed place bound (n + (bound a).length) as

/-- Items that are refused before they bind anything, or else become what they become and bind what
they bind, are refused together with the first of them, or become and bind all that each does. -/
theorem Assembly.outcome_mapM {α β : Type} {p : α → Assembly β} {refusal? : α → Option Refusal}
    {place : Nat → α → β} {bound : α → List Value}
    (h : ∀ a b, (p a).outcome b = match refusal? a with
      | some e => (.error e, b)
      | none => (.ok (place b.values.length a), ⟨b.values ++ bound a⟩))
    (as : List α) (b : Bindings) :
    match as.findSome? refusal? with
    | some e => ((as.mapM p).outcome b).1 = .error e
    | none => (as.mapM p).outcome b =
        (.ok (placed place bound b.values.length as), ⟨b.values ++ as.flatMap bound⟩) := by
  -- Bindings grow by what each part binds, up to the first part that is refused.
  induction as generalizing b with
  | nil => simp [outcome_pure, placed]
  | cons a as ih =>
    simp only [List.mapM_cons, outcome_bind, h, List.findSome?_cons]
    cases hr : refusal? a with
    | some e => rfl
    | none =>
      have hnext := ih ⟨b.values ++ bound a⟩
      cases hs : as.findSome? refusal? with
      | some e =>
        simp only [hs] at hnext ⊢
        rcases ho : (as.mapM p).outcome ⟨b.values ++ bound a⟩ with ⟨r, b'⟩
        rw [ho] at hnext
        cases hnext
        rfl
      | none =>
        simp only [hs] at hnext ⊢
        rw [hnext]
        simp only [outcome_pure, placed, List.length_append, List.flatMap_cons, List.append_assoc]

theorem Assembly.statement_mapM {α β : Type} {p : α → Assembly β} {refusal? : α → Option Refusal}
    {place : Nat → α → β} {bound : α → List Value}
    (h : ∀ a b, (p a).outcome b = match refusal? a with
      | some e => (.error e, b)
      | none => (.ok (place b.values.length a), ⟨b.values ++ bound a⟩))
    (as : List α) (f : List β → List Piece) (d : Dialect) (b : Bindings) :
    Assembly.statement (as.mapM p >>= fun items => pure (f items)) d b =
      match as.findSome? refusal? with
      | some e => .error e
      | none => .ok (Piece.statement d ⟨b.values ++ as.flatMap bound⟩
          (f (placed place bound b.values.length as))) := by
  have hm := outcome_mapM h as b
  simp only [statement, outcome_bind, outcome_pure]
  cases hr : as.findSome? refusal? with
  | some e =>
    simp only [hr] at hm
    rcases ho : (as.mapM p).outcome b with ⟨r, b'⟩
    rw [ho] at hm
    cases hm
    rfl
  | none =>
    simp only [hr] at hm
    simp only [hm]

theorem map_placed {α β γ : Type} (g : β → γ) (place : Nat → α → β) (bound : α → List Value) (n : Nat)
    (as : List α) :
    (placed place bound n as).map g = placed (fun n a => g (place n a)) bound n as := by
  induction as generalizing n with
  | nil => rfl
  | cons a as ih => simp only [placed, List.map_cons, ih]

theorem placed_eq_map {α β : Type} {place : Nat → α → β} {f : α → β} (h : ∀ n a, place n a = f a)
    (bound : α → List Value) (n : Nat) (as : List α) : placed place bound n as = as.map f := by
  induction as generalizing n with
  | nil => rfl
  | cons a as ih => simp only [placed, List.map_cons, h, ih]

/-- Items that name the slots of what they bind name together the slots of all that is bound. -/
theorem flatMap_slots_placed {α : Type} {place : Nat → α → List Piece} {bound : α → List Value}
    (h : ∀ n a, Piece.slots (place n a) = List.range' n (bound a).length) (n : Nat) (as : List α) :
    (placed place bound n as).flatMap Piece.slots =
      List.range' n (as.flatMap bound).length := by
  induction as generalizing n with
  | nil => rfl
  | cons a as ih =>
    simp only [placed, List.flatMap_cons, h, ih, List.length_append, List.range'_append_1]

theorem Piece.flatMap_slots_singletons (ps : List Piece) :
    (ps.map ([·])).flatMap slots = slots ps := by
  induction ps with
  | nil => rfl
  | cons p ps ih => cases p <;> simp [slots, ih]

/-! ### Operands -/

namespace Operand

/-- The value that an operand binds; a column binds none. -/
def bound (o : Operand) : List Value :=
  match o.reference? with
  | some _ => []
  | none => [o.value]

/-- The piece of an operand with `n` slots in front of it. -/
def placedAt (d : Dialect) (n : Nat) (o : Operand) : Piece :=
  match o.reference? with
  | some name => .sql (d.column name)
  | none => .param n

/-- The pieces of some operands, those that are bound taking the slots from `n` on. -/
def pieces (d : Dialect) (n : Nat) (os : List Operand) : List Piece :=
  placed (placedAt d) bound n os

theorem slots_placedAt (d : Dialect) (n : Nat) (o : Operand) :
    Piece.slots [o.placedAt d n] = List.range' n o.bound.length := by
  cases h : o.reference? <;> simp [placedAt, bound, h, Piece.slots]

theorem slots_pieces (d : Dialect) (n : Nat) (os : List Operand) :
    Piece.slots (pieces d n os) = List.range' n (os.flatMap bound).length := by
  rw [← Piece.flatMap_slots_singletons, pieces, map_placed]
  exact flatMap_slots_placed (slots_placedAt d) n os

theorem outcome_piece (d : Dialect) (o : Operand) (b : Bindings) :
    (o.piece d).outcome b = (.ok (o.placedAt d b.values.length), ⟨b.values ++ o.bound⟩) := by
  cases h : o.reference? with
  | some name => simp only [piece, placedAt, bound, h, Assembly.outcome_pure, List.append_nil]
  | none => simp only [piece, placedAt, bound, h, Assembly.outcome_bound]

theorem outcome_mapM (os : List Operand) (d : Dialect) (b : Bindings) :
    Assembly.outcome (os.mapM fun o => o.piece d) b =
      (.ok (pieces d b.values.length os), ⟨b.values ++ os.flatMap bound⟩) := by
  have h := @Assembly.outcome_mapM Operand Piece (fun o => o.piece d) (fun _ => none) (placedAt d)
    bound (outcome_piece d) os b
  have hn : os.findSome? (fun _ => (none : Option Refusal)) = none := by simp
  simpa only [hn, pieces] using h

end Operand

/-! ### Filters -/

namespace Filter

def refusal? (f : Filter) : Option Refusal :=
  if Text.allBlank f.column then some .blankFilterColumn
  else match f.operator with
    | .isNull | .isNotNull => none
    | .isIn | .notIn =>
      if f.operands.isEmpty then some (.listEmpty f.operator.symbol f.column) else none
    | _ => if f.operands.isEmpty then some (.valueMissing f.column f.operator.symbol) else none

/-- The values that the condition of a filter binds, in the order of the text: every literal of a
list, the pattern of a pattern match, the literal of a comparison. -/
def bound (f : Filter) : List Value :=
  match f.operator with
  | .isNull | .isNotNull => []
  | .isIn | .notIn => f.operands.flatMap Operand.bound
  | .like | .notLike | .contains | .notContains =>
    (f.operands.take 1).map fun o => f.pattern o.value
  | _ => (f.operands.take 1).flatMap Operand.bound

/-- The condition of a filter that binds the slots from `n` on. -/
def pieces (f : Filter) (d : Dialect) (n : Nat) : List Piece :=
  match f.operator with
  | .isNull | .isNotNull => [.sql (f.subject d ++ " " ++ f.operator.symbol)]
  | .isIn | .notIn =>
    .sql (f.subject d ++ " " ++ f.operator.symbol ++ " (") ::
      (Piece.between ", " ((Operand.pieces d n f.operands).map ([·])) ++ [.sql ")"])
  | .like | .contains =>
    .sql (f.subject d ++ " " ++ d.likeWord false ++ " ") ::
      (f.operands.take 1).map fun _ => .param n
  | .notLike | .notContains =>
    .sql (f.subject d ++ " " ++ d.likeWord true ++ " ") ::
      (f.operands.take 1).map fun _ => .param n
  | _ =>
    .sql (f.subject d ++ " " ++ f.operator.symbol ++ " ") ::
      Operand.pieces d n (f.operands.take 1)

theorem outcome_first (f : Filter) (b : Bindings) :
    Assembly.outcome (liftM f.first) b = match f.operands with
      | o :: _ => (.ok o, b)
      | [] => (.error (.valueMissing f.column f.operator.symbol), b) := by
  rw [Assembly.outcome_liftM, first]
  cases f.operands <;> rfl

theorem condition_outcome (f : Filter) (d : Dialect) (b : Bindings) :
    (f.condition d).outcome b = match f.refusal? with
      | some e => (.error e, b)
      | none => (.ok (f.pieces d b.values.length), ⟨b.values ++ f.bound⟩) := by
  by_cases hb : Text.allBlank f.column = true
  · simp only [condition, refusal?, hb, if_true, Assembly.outcome_throw]
  · rcases ho : f.operands with - | ⟨o, os⟩
    · cases hop : f.operator <;>
        simp [condition, refusal?, hb, hop, ho, Assembly.outcome_pure, Assembly.outcome_throw,
          Assembly.outcome_bind, outcome_first, pieces, bound]
    · cases hop : f.operator
      case isIn | notIn =>
        simp [condition, refusal?, hb, hop, ho, Assembly.outcome_map, Operand.outcome_mapM, pieces,
          bound, Except.map, -List.mapM_cons]
      case isNull | isNotNull =>
        simp [condition, refusal?, hb, hop, Assembly.outcome_pure, pieces, bound]
      case like | notLike | contains | notContains =>
        simp [condition, refusal?, hb, hop, ho, Assembly.outcome_map, Assembly.outcome_bind,
          Assembly.outcome_bound, outcome_first, pieces, bound, Except.map]
      all_goals
        simp [condition, refusal?, hb, hop, ho, Assembly.outcome_map, Assembly.outcome_bind,
          Operand.outcome_piece, outcome_first, pieces, bound, Operand.pieces, placed, Except.map]

theorem slots_pieces (f : Filter) (d : Dialect) (n : Nat) :
    Piece.slots (f.pieces d n) = List.range' n f.bound.length := by
  cases hop : f.operator
  case isIn | notIn =>
    simp only [pieces, bound, hop, Piece.slots, Piece.slots_append, Piece.slots_between,
      Piece.flatMap_slots_singletons, Operand.slots_pieces, List.append_nil]
  case isNull | isNotNull => simp [pieces, bound, hop, Piece.slots]
  case like | notLike | contains | notContains =>
    rcases ho : f.operands with - | ⟨o, os⟩ <;> simp [pieces, bound, hop, ho, Piece.slots]
  all_goals simp only [pieces, bound, hop, Piece.slots, Operand.slots_pieces]

end Filter

/-! ### Assignments -/

namespace Assignment

/-- Why a value cannot be assigned: it is an expression that is not accepted. -/
def refusal? (d : Dialect) (a : Assignment) : Option Refusal :=
  match a.value.rawExpression? with
  | none => none
  | some raw =>
    match Sql.checkRaw d raw with
    | .ok () => none
    | .error e => some (.fragment e)

/-- The value that an assignment binds; an expression binds none. -/
def bound (a : Assignment) : List Value :=
  match a.value.rawExpression? with
  | none => [a.value]
  | some _ => []

/-- The assigned value with `n` slots in front of it. -/
def placedAt (n : Nat) (a : Assignment) : Piece :=
  match a.value.rawExpression? with
  | none => .param n
  | some raw => .sql (Text.trimmed raw)

theorem outcome_piece (d : Dialect) (a : Assignment) (b : Bindings) :
    (a.piece d).outcome b = match a.refusal? d with
      | some e => (.error e, b)
      | none => (.ok (a.placedAt b.values.length), ⟨b.values ++ a.bound⟩) := by
  cases h : a.value.rawExpression? with
  | none => simp only [piece, refusal?, placedAt, bound, h, Assembly.outcome_bound]
  | some raw =>
    simp only [piece, refusal?, placedAt, bound, h]
    rcases Sql.checkRaw d raw with e | u
    · simp only [Assembly.outcome_throw]
    · simp only [Assembly.outcome_pure, List.append_nil]

end Assignment

/-! ### Statements that assign -/

namespace Insert

def refusal? (s : Insert) : Option Refusal :=
  if s.values.isEmpty then some .nothingToInsert
  else s.values.findSome? (Assignment.refusal? s.dialect)

def accepted (s : Insert) : List Piece :=
  .sql ("INSERT INTO " ++ s.dialect.identifier s.table ++ " (" ++
      Text.join ", " (s.values.map (·.target s.dialect)) ++ ") VALUES (") ::
    (Piece.between ", "
      ((placed Assignment.placedAt Assignment.bound 0 s.values).map ([·])) ++ [.sql ")"])

theorem statement_eq (s : Insert) :
    s.statement = match s.refusal? with
      | some e => .error e
      | none => .ok
          (Piece.statement s.dialect ⟨s.values.flatMap Assignment.bound⟩ s.accepted) := by
  by_cases he : s.values.isEmpty = true
  · simp only [statement, pieces, refusal?, he, if_true, Assembly.statement,
      Assembly.outcome_throw]
  · have hm := Assembly.statement_mapM (Assignment.outcome_piece s.dialect) s.values
    simp only [statement, pieces, refusal?, he, Bool.false_eq_true, if_false, hm]
    cases s.values.findSome? (Assignment.refusal? s.dialect) <;> rfl

end Insert

namespace Update

def refusal? (s : Update) : Option Refusal :=
  if s.values.isEmpty then some .nothingToUpdate
  else s.values.findSome? (Assignment.refusal? s.dialect)

/-- One assignment in the SET clause with `n` slots in front of it. -/
def assignmentAt (d : Dialect) (n : Nat) (a : Assignment) : List Piece :=
  [.sql (a.target d ++ " = "), a.placedAt n]

def accepted (s : Update) : List Piece :=
  .sql ("UPDATE " ++ s.dialect.identifier s.table ++ " SET ") ::
    (Piece.between ", "
      (placed (assignmentAt s.dialect) Assignment.bound s.bindings.values.length s.values)
      ++ if s.wheres.isEmpty then [] else .sql " WHERE " :: Piece.between " AND " s.wheres)

theorem outcome_assignment (d : Dialect) (a : Assignment) (b : Bindings) :
    (assignment d a).outcome b = match a.refusal? d with
      | some e => (.error e, b)
      | none => (.ok (assignmentAt d b.values.length a), ⟨b.values ++ a.bound⟩) := by
  simp only [assignment, Assembly.outcome_bind, Assignment.outcome_piece]
  cases a.refusal? d <;> rfl

theorem statement_eq (s : Update) :
    s.statement = match s.refusal? with
      | some e => .error e
      | none => .ok (Piece.statement s.dialect
          ⟨s.bindings.values ++ s.values.flatMap Assignment.bound⟩ s.accepted) := by
  by_cases he : s.values.isEmpty = true
  · simp only [statement, pieces, refusal?, he, if_true, Assembly.statement,
      Assembly.outcome_throw]
  · have hm := Assembly.statement_mapM (outcome_assignment s.dialect) s.values
    simp only [statement, pieces, refusal?, he, Bool.false_eq_true, if_false, hm]
    cases s.values.findSome? (Assignment.refusal? s.dialect) <;> rfl

end Update

/-! ### Steps that bind -/

theorem Select.addWhere_eq (s : Select) (f : Filter) :
    s.addWhere f = if f.enabled then
      match f.refusal? with
      | some e => .refused e s
      | none => .done { s with
          wheres := s.wheres ++ [f.pieces s.dialect s.bindings.values.length]
          bindings := ⟨s.bindings.values ++ f.bound⟩ }
    else .done s := by
  simp only [addWhere, f.condition_outcome]
  cases f.refusal? <;> rfl

theorem Select.addHaving_eq (s : Select) (f : Filter) :
    s.addHaving f = if f.enabled then
      match f.refusal? with
      | some e => .refused e s
      | none => .done { s with
          havings := s.havings ++ [f.pieces s.dialect s.bindings.values.length]
          bindings := ⟨s.bindings.values ++ f.bound⟩ }
    else .done s := by
  simp only [addHaving, f.condition_outcome]
  cases f.refusal? <;> rfl

theorem Update.addWhere_eq (s : Update) (f : Filter) :
    s.addWhere f = if f.enabled then
      match f.refusal? with
      | some e => .refused e s
      | none => .done { s with
          wheres := s.wheres ++ [f.pieces s.dialect s.bindings.values.length]
          bindings := ⟨s.bindings.values ++ f.bound⟩ }
    else .done s := by
  simp only [addWhere, f.condition_outcome]
  cases f.refusal? <;> rfl

end QueryDesk
