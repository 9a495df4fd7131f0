import QueryDesk.Column.Selected
import QueryDesk.Json.Basic
import QueryDesk.Schema.Index

/-!
# Results

The rows that a statement brings and the columns they have.
-/

namespace QueryDesk

/-- A column of a result. `full` is `table.column` where the table is known. -/
structure ResultColumn where
  column : String
  table : String
  resultAlias : String
  full : String
  declared : Option String
  function : Option ColumnFunction
  reference : Option ColumnRef
  referencedBy : List ColumnRef
deriving DecidableEq, Inhabited

namespace ResultColumn

/-- A column about which nothing but its names is known. -/
def named (column table resultAlias : String) : ResultColumn :=
  { column, table, resultAlias, full := if table == "" then column else table ++ "." ++ column
    declared := none, function := none, reference := none, referencedBy := [] }

/-- The column in which a mutation tells how many rows it touched. -/
def affectedRows : ResultColumn := named "affectedRows" "" "Affected rows"

end ResultColumn

structure Outcome where
  columns : List ResultColumn
  rows : List (List Json)
  query : String
deriving Inhabited

namespace Outcome

def mutation (affected : Nat) (query : String) : Outcome :=
  ⟨[.affectedRows], [[.int affected]], query⟩

/-- How many rows a mutation touched; a selection tells nothing. -/
def affectedRows? (o : Outcome) : Option Nat :=
  match o.columns, o.rows with
  | c :: _, (.int n :: _) :: _ =>
    if c.column == "affectedRows" && 0 ≤ n && n < Nat.pow 2 64 then some n.toNat else none
  | _, _ => none

end Outcome

/-- A page of a selection, with all that is known about its tables. -/
structure SelectResult where
  columns : List ResultColumn
  rows : List (List Json)
  allColumns : List SchemaColumn
  tables : List String
  query : String
  hasMore : Bool
deriving Inhabited

structure EntityResult where
  entity : List Json
  columns : List ResultColumn
  sql : String
deriving Inhabited

end QueryDesk
