import QueryDesk.Filter.Basic
import QueryDesk.Statement.Expression

/-!
# Conditions

A filter as a condition of a statement. Its values are bound and never written into the text; the
name of another column is quoted instead.
-/

namespace QueryDesk

namespace Operand

/-- The column that an operand names; any other operand stands for its value. -/
def reference? (o : Operand) : Option String :=
  match o.value, o.isColumn with
  | .text name, true => some name
  | _, _ => none

/-- An operand: a quoted column or a bound value. -/
def piece (o : Operand) (d : Dialect) : Assembly Piece :=
  match o.reference? with
  | some name => pure (.sql (d.column name))
  | none => .bound o.value

end Operand

namespace Filter

/-- What the condition is on: the column, or a function of it. -/
def subject (f : Filter) (d : Dialect) : String :=
  match f.function with
  | some g => g.call d (d.column f.column) false
  | none => d.column f.column

/-- The first operand, which an operator with one value needs. -/
def first (f : Filter) : Except Refusal Operand :=
  match f.operands with
  | o :: _ => .ok o
  | [] => .error (.valueMissing f.column f.operator.symbol)

/-- The pattern that a value is matched by. Containing a text is matching it with anything around
it. -/
def pattern (f : Filter) (v : Value) : Value :=
  match f.operator with
  | .contains | .notContains => .text ("%" ++ v.display ++ "%")
  | _ => .text v.display

def condition (f : Filter) (d : Dialect) : Assembly (List Piece) :=
  if Text.allBlank f.column then throw .blankFilterColumn
  else
    let subject := f.subject d
    match f.operator with
    | .isNull | .isNotNull => pure [.sql (subject ++ " " ++ f.operator.symbol)]
    | .isIn | .notIn =>
      if f.operands.isEmpty then throw (.listEmpty f.operator.symbol f.column)
      else do
        let items ← f.operands.mapM (·.piece d)
        pure (.sql (subject ++ " " ++ f.operator.symbol ++ " (") ::
          (Piece.between ", " (items.map ([·])) ++ [.sql ")"]))
    | .like | .contains => do
      let o ← f.first
      let pattern ← Assembly.bound (f.pattern o.value)
      pure [.sql (subject ++ " " ++ d.likeWord false ++ " "), pattern]
    | .notLike | .notContains => do
      let o ← f.first
      let pattern ← Assembly.bound (f.pattern o.value)
      pure [.sql (subject ++ " " ++ d.likeWord true ++ " "), pattern]
    | .eq | .differs | .bangEq | .gt | .ge | .lt | .le => do
      let o ← f.first
      let operand ← o.piece d
      pure [.sql (subject ++ " " ++ f.operator.symbol ++ " "), operand]

end Filter

end QueryDesk
