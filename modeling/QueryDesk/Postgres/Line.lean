import QueryDesk.Failure
import QueryDesk.Filter.Value
import QueryDesk.Postgres.Cell
import QueryDesk.Program

/-!
# The line to a PostgreSQL server

What is said on a connection to a server and what it answers. Parameters are sent as text, so that
the server casts each to the type that its place in the statement asks for.
-/

namespace QueryDesk.Postgres

/-- Why the server did not do what it was asked for. -/
inductive Fault where
  | refused (message : String)
  | lost
  /-- There were not as many parameters as the statement takes. -/
  | miscounted (wanted given : Nat)
deriving DecidableEq

def Fault.failure : Fault → Failure
  | refused message => .execution message
  | lost => .execution "connection closed"
  | miscounted wanted given =>
    .execution ("expected " ++ toString wanted ++ " parameters but got " ++ toString given)

/-- What the server wants after a user has named himself. -/
inductive Greeting where
  | welcome
  | passwordWanted
deriving DecidableEq

inductive Param where
  | null
  | text (s : String)
  | texts (ss : List String)
deriving DecidableEq

/-- How many parameters a statement takes: the highest number behind a dollar sign. -/
def parameterCount (sql : String) : Nat := highest sql.toList
where
  highest : List Char → Nat
    | [] => 0
    | '$' :: rest =>
      max ((Number.readUpTo? 65535 (rest.takeWhile Char.isDigit)).getD 0) (highest rest)
    | _ :: rest => highest rest

/-- The text that a value is sent as; null is sent as such. -/
def textOfValue? : Value → Option String
  | .null => none
  | v => some v.display

def Param.ofValue (v : Value) : Param := (textOfValue? v).elim .null .text

/-- A column of a prepared statement. Its source is a column of a table, told by the number of the
table and the number of the column in it; a number is zero where there is no source. -/
structure Column where
  name : String
  type : CellType
  table : Nat
  number : Int
deriving DecidableEq

def Column.source? (c : Column) : Option String :=
  if c.table = 0 ∨ c.number = 0 then none
  else some (toString c.table ++ "-" ++ toString c.number)

/-- What a statement brings: rows of binary values, and a tag that tells how it went. -/
structure Answer where
  rows : List (List (Option (List UInt8)))
  tag : String

/-- How many rows the tag of a statement counts: its last word. -/
def Answer.affected (a : Answer) : Nat :=
  let word := (a.tag.toList.reverse.takeWhile (· != ' ')).reverse
  (Number.readUpTo? (Nat.pow 2 64 - 1) word).getD 0

def Answer.texts (a : Answer) : List (List String) :=
  a.rows.map fun row => row.map fun cell => (cell.bind CellType.textOf?).getD ""

inductive Call where
  /-- Opens the line; the answer is whether somebody is there. -/
  | dial (host : String) (port : Nat)
  | startup (user database : String)
  | password (text : String)
  /-- A statement without parameters and without rows. -/
  | command (sql : String)
  | prepare (sql : String)
  /-- Executes the statement that was prepared last. -/
  | bind (params : List Param)
  | isLost
  | terminate
deriving DecidableEq

abbrev Call.Reply : Call → Type
  | dial _ _ => Bool
  | startup _ _ => Except Fault Greeting
  | password _ => Except Fault Unit
  | command _ => Except Fault Unit
  | prepare _ => Except Fault (List Column)
  | bind _ => Except Fault Answer
  | isLost => Bool
  | terminate => Unit

abbrev LineProgram (α : Type) := Program Call.Reply α

namespace LineProgram

def dial (host : String) (port : Nat) : LineProgram Bool := Program.call (Call.dial host port)

def startup (user database : String) : LineProgram (Except Fault Greeting) :=
  Program.call (Call.startup user database)

def password (text : String) : LineProgram (Except Fault Unit) := Program.call (Call.password text)

def command (sql : String) : LineProgram (Except Fault Unit) := Program.call (Call.command sql)

def prepare (sql : String) : LineProgram (Except Fault (List Column)) :=
  Program.call (Call.prepare sql)

def bind (params : List Param) : LineProgram (Except Fault Answer) :=
  Program.call (Call.bind params)

def isLost : LineProgram Bool := Program.call Call.isLost

def terminate : LineProgram Unit := Program.call Call.terminate

/-- Prepares and executes a statement. -/
def query (sql : String) (params : List Param) :
    LineProgram (Except Fault (List Column × Answer)) := do
  match ← prepare sql with
  | .error e => pure (.error e)
  | .ok columns =>
    match ← bind params with
    | .error e => pure (.error e)
    | .ok answer => pure (.ok (columns, answer))

end LineProgram

end QueryDesk.Postgres
