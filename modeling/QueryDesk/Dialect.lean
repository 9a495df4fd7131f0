import QueryDesk.Failure
import QueryDesk.Text.Case
import QueryDesk.Text.Pieces

/-!
# Dialects

The two families of SQL and the words in which they differ: how an identifier is quoted, how a
parameter is marked, how a pattern is matched and how a transaction begins.
-/

namespace QueryDesk

inductive Dialect where
  | mysql
  | postgres
deriving DecidableEq, Inhabited

namespace Dialect

def name : Dialect → String
  | mysql => "mysql"
  | postgres => "postgres"

/-- The dialect with a name as it is stored. -/
def ofName? (s : String) : Option Dialect :=
  if s == "mysql" || s == "mariadb" then some .mysql
  else if s == "postgres" || s == "postgresql" then some .postgres
  else none

/-- The dialect with a name in any letter case. -/
def ofText (s : String) : Except Failure Dialect :=
  match ofName? (Text.lowercase s) with
  | some d => .ok d
  | none => .error (.validation ("Unsupported database type: " ++ s))

/-! ### Identifiers -/

def quote : Dialect → Char
  | mysql => '`'
  | postgres => '"'

/-- Every `q` written twice. -/
def doubled (q : Char) : List Char → List Char
  | [] => []
  | c :: r => if c = q then q :: q :: doubled q r else c :: doubled q r

/-- A name between quotes, whatever its characters. -/
def quoted (d : Dialect) (name : String) : String :=
  String.ofList (d.quote :: (doubled d.quote name.toList ++ [d.quote]))

/-- A name of a table or a column. A star stays as it is. -/
def identifier (d : Dialect) (name : String) : String :=
  if name = "*" then name else d.quoted name

/-- A `table.column` reference, cut at its first point, or a bare column. -/
def column (d : Dialect) (name : String) : String :=
  match Text.splitFirst '.' name with
  | some (table, column) => d.identifier table ++ "." ++ d.identifier column
  | none => d.identifier name

/-! ### Words -/

/-- The mark of the parameter at a position, counted from one. -/
def placeholder (d : Dialect) (position : Nat) : String :=
  match d with
  | mysql => "?"
  | postgres => "$" ++ toString position

/-- The keyword of a pattern match that leaves letter case aside. -/
def likeWord (d : Dialect) (negated : Bool) : String :=
  match d, negated with
  | mysql, false => "LIKE"
  | mysql, true => "NOT LIKE"
  | postgres, false => "ILIKE"
  | postgres, true => "NOT ILIKE"

def begin (d : Dialect) : String :=
  match d with
  | mysql => "START TRANSACTION"
  | postgres => "BEGIN"

/-- Opens a transaction that may not write. -/
def beginReadOnly (d : Dialect) : String :=
  match d with
  | mysql => "START TRANSACTION READ ONLY"
  | postgres => "BEGIN READ ONLY"

/-! ### Quotes inside names -/

theorem quoted_toList (d : Dialect) (name : String) :
    (d.quoted name).toList = d.quote :: (doubled d.quote name.toList ++ [d.quote]) := by
  simp [quoted]

end Dialect

end QueryDesk
