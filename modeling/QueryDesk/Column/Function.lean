import QueryDesk.Failure
import QueryDesk.Text.Case

/-!
# Column functions

The functions that may stand around a column: parts of a date, and aggregates.
-/

namespace QueryDesk

inductive ColumnFunction where
  | year
  | month
  | day
  | sum
  | count
  | avg
  | max
  | min
deriving DecidableEq, Inhabited

namespace ColumnFunction

def name : ColumnFunction → String
  | year => "YEAR"
  | month => "MONTH"
  | day => "DAY"
  | sum => "SUM"
  | count => "COUNT"
  | avg => "AVG"
  | max => "MAX"
  | min => "MIN"

def all : List ColumnFunction := [year, month, day, sum, count, avg, max, min]

/-- Makes one value out of many rows. -/
def isAggregate : ColumnFunction → Bool
  | year | month | day => false
  | _ => true

/-- The function with a name in any letter case. -/
def ofName? (s : String) : Option ColumnFunction :=
  let upper := Text.uppercase s
  all.find? (·.name == upper)

/-- The function with a name; any other name is refused. -/
def ofText (s : String) : Except Failure ColumnFunction :=
  match ofName? s with
  | some f => .ok f
  | none => .error (.validation ("Function not allowed: " ++ s))

theorem ofName?_name (f : ColumnFunction) : ofName? f.name = some f := by
  cases f <;> decide

end ColumnFunction

end QueryDesk
