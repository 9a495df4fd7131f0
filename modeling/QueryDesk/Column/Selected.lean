import QueryDesk.Column.Function

/-!
# Selected columns

A column as a request names it: a reference, with a function around it or without.
-/

namespace QueryDesk

structure SelectedColumn where
  value : String
  function : Option ColumnFunction
  distinct : Bool
deriving DecidableEq, Inhabited

namespace SelectedColumn

def plain (value : String) : SelectedColumn := ⟨value, none, false⟩

/-- The name a result column is found by. -/
def resultAlias (c : SelectedColumn) : String :=
  match c.function with
  | some f => if c.distinct then f.name ++ " distinct " ++ c.value else f.name ++ " " ++ c.value
  | none => c.value

def isAggregate (c : SelectedColumn) : Bool := c.function.any ColumnFunction.isAggregate

end SelectedColumn

end QueryDesk
