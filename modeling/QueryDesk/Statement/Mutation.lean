import QueryDesk.Statement.Condition

/-!
# INSERT and UPDATE statements

Assignments of values to columns. A text that begins with an equals sign is an expression, checked
and written into the statement; every other value is bound.
-/

namespace QueryDesk

structure Assignment where
  column : String
  value : Value
deriving DecidableEq, Inhabited

namespace Assignment

/-- The quoted column without its table. -/
def target (a : Assignment) (d : Dialect) : String :=
  d.identifier (match Text.splitFirst '.' a.column with
    | some (_, column) => column
    | none => a.column)

def piece (a : Assignment) (d : Dialect) : Assembly Piece :=
  match a.value.rawExpression? with
  | none => .bound a.value
  | some raw =>
    match Sql.checkRaw d raw with
    -- Checked with the blanks around it, written without them.
    | .ok () => pure (.sql (Text.trimmed raw))
    | .error e => throw (.fragment e)

end Assignment

structure Insert where
  dialect : Dialect
  table : String
  values : List Assignment
deriving DecidableEq, Inhabited

namespace Insert

def ofTable (dialect : Dialect) (table : String) : Insert := ⟨dialect, table, []⟩

/-- Inserts these values and no others. -/
def setValues (s : Insert) (values : List Assignment) : Insert := { s with values }

def pieces (s : Insert) : Assembly (List Piece) :=
  if s.values.isEmpty then throw .nothingToInsert
  else do
    let columns := s.values.map (·.target s.dialect)
    let values ← s.values.mapM (·.piece s.dialect)
    pure (.sql ("INSERT INTO " ++ s.dialect.identifier s.table ++ " (" ++ Text.join ", " columns
        ++ ") VALUES (") ::
      (Piece.between ", " (values.map ([·])) ++ [.sql ")"]))

def statement (s : Insert) : Except Refusal Statement := s.pieces.statement s.dialect .none

end Insert

/-- An UPDATE of the rows that meet its conditions. Values of conditions are bound as they come; the
assigned values are bound anew for every statement, behind them. -/
structure Update where
  dialect : Dialect
  table : String
  values : List Assignment
  wheres : List (List Piece)
  bindings : Bindings
deriving DecidableEq, Inhabited

namespace Update

def ofTable (dialect : Dialect) (table : String) : Update := ⟨dialect, table, [], [], .none⟩

/-- Assigns these values and no others. -/
def setValues (s : Update) (values : List Assignment) : Update := { s with values }

/-- Updates only rows that meet a filter; one that is not enabled says nothing. -/
def addWhere (s : Update) (f : Filter) : Attempt Update :=
  if f.enabled then
    match (f.condition s.dialect).outcome s.bindings with
    | (.ok c, bindings) => .done { s with wheres := s.wheres ++ [c], bindings }
    | (.error e, bindings) => .refused e { s with bindings }
  else .done s

inductive Step where
  | values (values : List Assignment)
  | condition (filter : Filter)
deriving DecidableEq

def attempt (s : Update) : Step → Attempt Update
  | .values vs => .done (s.setValues vs)
  | .condition f => s.addWhere f

/-- What a step makes of the update, unless it is refused. -/
def step (s : Update) (step : Step) : Except Refusal Update := (s.attempt step).toExcept

/-- The update after a step that may have been refused. -/
def after (s : Update) (step : Step) : Update := (s.attempt step).left

def assignment (d : Dialect) (a : Assignment) : Assembly (List Piece) := do
  let value ← a.piece d
  pure [.sql (a.target d ++ " = "), value]

def pieces (s : Update) : Assembly (List Piece) :=
  if s.values.isEmpty then throw .nothingToUpdate
  else do
    let sets ← s.values.mapM (assignment s.dialect)
    pure (.sql ("UPDATE " ++ s.dialect.identifier s.table ++ " SET ") ::
      (Piece.between ", " sets
        ++ if s.wheres.isEmpty then [] else .sql " WHERE " :: Piece.between " AND " s.wheres))

def statement (s : Update) : Except Refusal Statement := s.pieces.statement s.dialect s.bindings

end Update

end QueryDesk
