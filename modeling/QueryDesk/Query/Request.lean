import QueryDesk.Column.Selected
import QueryDesk.Filter.Basic
import QueryDesk.Statement.Mutation
import QueryDesk.Statement.Select

/-!
# Requests

What a client asks of a datasource, independent of the dialect: a page of a selection, an insert,
an update, or one row by its values.
-/

namespace QueryDesk

structure OrderBy where
  column : String
  direction : Direction
deriving DecidableEq, Inhabited

/-- A filter as typed: raw text, in the filter notation when `advanced`. -/
structure ClientFilter where
  id : String
  column : String
  value : String
  enabled : Bool
  advanced : Bool
  function : Option ColumnFunction
deriving DecidableEq, Inhabited

structure QueryOptions where
  table : String
  columns : List SelectedColumn
  joins : List Join
  filters : List ClientFilter
  orderBy : List OrderBy
  groupBy : List SelectedColumn
  aggregations : List SelectedColumn
  searchAll : Option String
deriving DecidableEq, Inhabited

namespace QueryOptions

/-- The table and then the joined ones. -/
def tables (o : QueryOptions) : List String := o.table :: o.joins.map (·.table)

/-- The columns asked for: groups and aggregations if there are any, or else the plain columns. -/
def selected (o : QueryOptions) : List SelectedColumn :=
  if o.groupBy.isEmpty && o.aggregations.isEmpty then o.columns else o.groupBy ++ o.aggregations

end QueryOptions

/-- A page of a selection; pages are counted from zero. -/
structure SelectRequest where
  datasource : String
  options : QueryOptions
  page : Nat
  size : Option Nat
deriving DecidableEq, Inhabited

structure InsertRequest where
  datasource : String
  table : String
  values : List Assignment
deriving DecidableEq, Inhabited

/-- New values for the rows that meet all filters. -/
structure UpdateRequest where
  datasource : String
  table : String
  values : List Assignment
  filters : List Filter
  allowBulk : Bool
deriving DecidableEq, Inhabited

/-- The one row with these values. -/
structure EntityRequest where
  datasource : String
  table : String
  props : List (String × Value)
deriving DecidableEq, Inhabited

end QueryDesk
