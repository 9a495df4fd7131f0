import QueryDesk.Sql.Grammar.Query

/-!
# The grammar of expressions

The rules tied together: expressions and queries may stand in each other up to a depth.
-/

namespace QueryDesk.Sql

/-- The rules with `n` levels of nesting left. -/
def rules (d : Dialect) : Nat → Rules
  | 0 =>
    { expr := fun _ _ => .error .tooDeep
      query := fun _ => .error .tooDeep
      table := fun _ => .error .tooDeep }
  | n + 1 =>
    let below := rules d n
    { expr := expression d below
      query := query d below
      table := joinedTables d below }

def maxDepth : Nat := 50

/-- Reads one expression off the front of some tokens; what is left comes behind it. -/
def readExpression (d : Dialect) (ts : List Token) : Except Stop (List Token) :=
  ((rules d maxDepth).expr 0 ts).map (·.2)

end QueryDesk.Sql
