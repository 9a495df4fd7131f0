import QueryDesk.Statement.Condition

/-!
# SELECT statements

A selection is built by steps, each of which adds to one clause. Conditions on rows and conditions
on groups bind their values in the order of the steps; the statement of a selection is its clauses
in the order of SQL, whatever the order of the steps.
-/

namespace QueryDesk

inductive JoinKind where
  | left
  | inner
  | right
deriving DecidableEq, Inhabited

def JoinKind.name : JoinKind → String
  | left => "LEFT"
  | inner => "INNER"
  | right => "RIGHT"

def JoinKind.ofName? (s : String) : Option JoinKind :=
  [left, inner, right].find? (·.name == s)

/-- A joined table; its condition is SQL of the request. -/
structure Join where
  table : String
  aliasName : Option String
  kind : JoinKind
  on : String
deriving DecidableEq, Inhabited

inductive Direction where
  | asc
  | desc
deriving DecidableEq, Inhabited

def Direction.name : Direction → String
  | asc => "ASC"
  | desc => "DESC"

def Direction.ofName? (s : String) : Option Direction := [asc, desc].find? (·.name == s)

/-- What rows are ordered by: a column, or an alias of the selection. -/
inductive OrderTarget where
  | column (name : String)
  | resultAlias (name : String)
deriving DecidableEq, Inhabited

def OrderTarget.text (t : OrderTarget) (d : Dialect) : String :=
  match t with
  | column name => d.column name
  | resultAlias name => d.quoted name

structure Select where
  dialect : Dialect
  table : String
  columns : List String
  joins : List String
  wheres : List (List Piece)
  havings : List (List Piece)
  groups : List String
  order : List (OrderTarget × Direction)
  limit : Option Nat
  offset : Option Nat
  bindings : Bindings
deriving DecidableEq, Inhabited

namespace Select

def ofTable (dialect : Dialect) (table : String) : Select :=
  { dialect, table, columns := [], joins := [], wheres := [], havings := [], groups := [],
    order := [], limit := none, offset := none, bindings := .none }

/-- How many rows are selected when nothing else is said. -/
def defaultLimit : Nat := 50

/-! ### Steps -/

/-- Selects these columns and no others. -/
def setColumns (s : Select) (columns : List SelectedColumn) : Attempt Select :=
  match columns.mapM (·.entry s.dialect) with
  | .ok entries => .done { s with columns := entries }
  | .error e => .refused e s

/-- Joins a table. An alias that repeats the name of the table is left out. -/
def addJoin (s : Select) (j : Join) : Attempt Select :=
  match Sql.checkJoin s.dialect j.on with
  | .error e => .refused (.fragment e) s
  | .ok () =>
    let shown := match j.aliasName with
      | some a => if a = j.table then "" else " AS " ++ s.dialect.identifier a
      | none => ""
    let clause :=
      j.kind.name ++ " JOIN " ++ s.dialect.identifier j.table ++ shown ++ " ON " ++ j.on
    .done { s with joins := s.joins ++ [clause] }

/-- Keeps the rows that meet a filter; one that is not enabled says nothing. -/
def addWhere (s : Select) (f : Filter) : Attempt Select :=
  if f.enabled then
    match (f.condition s.dialect).outcome s.bindings with
    | (.ok c, bindings) => .done { s with wheres := s.wheres ++ [c], bindings }
    | (.error e, bindings) => .refused e { s with bindings }
  else .done s

def addHaving (s : Select) (f : Filter) : Attempt Select :=
  if f.enabled then
    match (f.condition s.dialect).outcome s.bindings with
    | (.ok c, bindings) => .done { s with havings := s.havings ++ [c], bindings }
    | (.error e, bindings) => .refused e { s with bindings }
  else .done s

/-- Groups by a column too, once. -/
def addGroup (s : Select) (column : SelectedColumn) : Attempt Select :=
  match column.expression s.dialect with
  | .ok e => .done (if s.groups.contains e then s else { s with groups := s.groups ++ [e] })
  | .error e => .refused e s

/-- Puts a target into an order: at the end, or with a new direction where it stands already. -/
def place (target : OrderTarget) (direction : Direction) :
    List (OrderTarget × Direction) → List (OrderTarget × Direction)
  | [] => [(target, direction)]
  | (t, d) :: rest =>
    if t = target then (t, direction) :: rest else (t, d) :: place target direction rest

def addOrder (s : Select) (target : OrderTarget) (direction : Direction) : Select :=
  { s with order := place target direction s.order }

def setLimit (s : Select) (n : Nat) : Select := { s with limit := some n }

def setOffset (s : Select) (n : Nat) : Select := { s with offset := some n }

/-- The pattern that a search term is matched by. -/
def searchPattern (term : String) : Value := .text ("%" ++ Text.lowercase term ++ "%")

/-- Keeps the rows in which one of the columns contains the term, letter case aside. The pattern is
bound once for all columns. -/
def addSearch (s : Select) (columns : List String) (term : String) : Select :=
  let term := Text.trimmed term
  if term = "" ∨ columns = [] then s
  else
    let (slot, bindings) := s.bindings.bind (searchPattern term)
    let cases := columns.map fun c =>
      [Piece.sql ("LOWER(" ++ s.dialect.column c ++ ") LIKE "), Piece.param slot]
    { s with
      wheres := s.wheres ++ [.sql "(" :: (Piece.between " OR " cases ++ [.sql ")"])]
      bindings }

inductive Step where
  | columns (columns : List SelectedColumn)
  | join (join : Join)
  | condition (filter : Filter)
  | having (filter : Filter)
  | group (column : SelectedColumn)
  | order (target : OrderTarget) (direction : Direction)
  | limit (n : Nat)
  | offset (n : Nat)
  | search (columns : List String) (term : String)
deriving DecidableEq

def attempt (s : Select) : Step → Attempt Select
  | .columns cs => s.setColumns cs
  | .join j => s.addJoin j
  | .condition f => s.addWhere f
  | .having f => s.addHaving f
  | .group c => s.addGroup c
  | .order t d => .done (s.addOrder t d)
  | .limit n => .done (s.setLimit n)
  | .offset n => .done (s.setOffset n)
  | .search cs term => .done (s.addSearch cs term)

/-- What a step makes of the selection, unless it is refused. -/
def step (s : Select) (step : Step) : Except Refusal Select := (s.attempt step).toExcept

/-- The selection after a step that may have been refused. -/
def after (s : Select) (step : Step) : Select := (s.attempt step).left

/-! ### The statement -/

/-- A clause of texts, left out when there are none. -/
def clause (keyword separator : String) (entries : List String) : List Piece :=
  if entries.isEmpty then [] else [.sql (keyword ++ Text.join separator entries)]

/-- A clause of conditions, left out when there are none. -/
def conditions (keyword : String) (cs : List (List Piece)) : List Piece :=
  if cs.isEmpty then [] else .sql keyword :: Piece.between " AND " cs

def pieces (s : Select) : List Piece :=
  let list := if s.columns.isEmpty then "*" else Text.join ", " s.columns
  .sql ("SELECT " ++ list ++ " FROM " ++ s.dialect.identifier s.table) ::
    (s.joins.map (fun j => .sql (" " ++ j))
      ++ conditions " WHERE " s.wheres
      ++ clause " GROUP BY " ", " s.groups
      ++ conditions " HAVING " s.havings
      ++ clause " ORDER BY " ", "
          (s.order.map fun (t, d) => t.text s.dialect ++ " " ++ d.name)
      -- A limit is always set, an offset only on request.
      ++ .sql (" LIMIT " ++ toString (s.limit.getD defaultLimit)) ::
        match s.offset with
        | some n => [.sql (" OFFSET " ++ toString n)]
        | none => [])

def statement (s : Select) : Statement := Piece.statement s.dialect s.bindings s.pieces

end Select

end QueryDesk
