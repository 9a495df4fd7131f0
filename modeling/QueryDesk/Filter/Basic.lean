import QueryDesk.Column.Function
import QueryDesk.Filter.Operator
import QueryDesk.Filter.Value

/-!
# Filters

A structured condition on one column.
-/

namespace QueryDesk

/-- What a filter compares with: a value, or the name of another column. -/
structure Operand where
  value : Value
  isColumn : Bool
deriving DecidableEq, Inhabited

/-- A value that stands for itself. -/
def Operand.literal (v : Value) : Operand := ⟨v, false⟩

structure Filter where
  id : String
  column : String
  operator : Operator
  operands : List Operand
  enabled : Bool
  function : Option ColumnFunction
deriving DecidableEq, Inhabited

namespace Filter

/-- An enabled condition on a bare column. -/
def on (column : String) (operator : Operator) (operands : List Operand) : Filter :=
  { id := "", column, operator, operands, enabled := true, function := none }

/-- Compares what an aggregate makes of the rows. -/
def isAggregate (f : Filter) : Bool := f.function.any ColumnFunction.isAggregate

end Filter

end QueryDesk
