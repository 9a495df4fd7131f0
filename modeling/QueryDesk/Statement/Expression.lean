import QueryDesk.Column.Selected
import QueryDesk.Statement.Basic

/-!
# Column expressions

A column in a statement: quoted, with its function around it, and in a selection with the alias by
which the result names it.
-/

namespace QueryDesk

/-- A function of an expression. Parts of a date are written in the dialect's way, and the sum of no
rows is zero. -/
def ColumnFunction.call (f : ColumnFunction) (d : Dialect) (expression : String) (distinct : Bool) :
    String :=
  let argument := (if distinct then "DISTINCT " else "") ++ expression
  match f, d with
  | year, .mysql | month, .mysql | day, .mysql => f.name ++ "(" ++ expression ++ ")"
  | year, .postgres | month, .postgres | day, .postgres =>
    "EXTRACT(" ++ f.name ++ " FROM " ++ expression ++ ")"
  | sum, _ => "COALESCE(SUM(" ++ argument ++ "), 0)"
  | count, _ | avg, _ | max, _ | min, _ => f.name ++ "(" ++ argument ++ ")"

namespace SelectedColumn

/-- The expression of a column. Only COUNT may be applied to a bare star. -/
def expression (c : SelectedColumn) (d : Dialect) : Except Refusal String :=
  if Text.allBlank c.value then .error .blankColumn
  else match c.function with
    | none => .ok (d.column c.value)
    | some f =>
      if f ≠ .count ∧ c.value = "*" then .error .starWithoutCount
      else .ok (f.call d (d.column c.value) c.distinct)

/-- The entry of a column in a selection: its expression under its alias. A plain star has none. -/
def entry (c : SelectedColumn) (d : Dialect) : Except Refusal String := do
  let e ← c.expression d
  if c.function.isNone ∧ c.value = "*" then pure e
  else pure (e ++ " AS " ++ d.quoted c.resultAlias)

end SelectedColumn

end QueryDesk
