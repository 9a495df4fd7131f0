import QueryDesk.Failure
import QueryDesk.Filter.Value
import QueryDesk.Json.Basic
import QueryDesk.Number.Reading
import QueryDesk.Program
import QueryDesk.Text.Utf8

/-!
# The line to a MySQL server

What is said on a connection to a server and what it answers, and the values that go over it in both
directions.
-/

namespace QueryDesk.Mysql

/-! ### Values -/

inductive Param where
  | null
  | int (n : Int)
  | double (x : Binary64)
  | text (s : String)
deriving DecidableEq

/-- The parameter that a value is sent as; truth values are numbers. -/
def Param.ofValue : Value → Param
  | .null => null
  | .bool b => int (if b then 1 else 0)
  | .int n => int n.toInt
  | .float x => double x
  | .text s => text s

/-- A day and a time of day, as numbers that need not make one. -/
structure Moment where
  year : Nat
  month : Nat
  day : Nat
  hour : Nat
  minute : Nat
  second : Nat
  micros : Nat
deriving DecidableEq

structure Span where
  negative : Bool
  days : Nat
  hours : Nat
  minutes : Nat
  seconds : Nat
  micros : Nat
deriving DecidableEq

inductive Cell where
  | null
  | bytes (bs : List UInt8)
  | int (n : Int)
  | float (x : Binary64)
  | moment (m : Moment)
  | span (s : Span)
deriving DecidableEq

/-- A day alone when the time of day is all zero. Parts of a second are not shown. -/
def Moment.text (m : Moment) : String :=
  let day := Number.padded 4 m.year ++ "-" ++ Number.padded 2 m.month ++ "-"
    ++ Number.padded 2 m.day
  if m.hour = 0 ∧ m.minute = 0 ∧ m.second = 0 ∧ m.micros = 0 then day
  else day ++ " " ++ Number.padded 2 m.hour ++ ":" ++ Number.padded 2 m.minute ++ ":"
    ++ Number.padded 2 m.second

/-- Hours, minutes and seconds; the days count as hours. -/
def Span.text (s : Span) : String :=
  (if s.negative then "-" else "") ++ toString (s.days * 24 + s.hours) ++ ":"
    ++ Number.padded 2 s.minutes ++ ":" ++ Number.padded 2 s.seconds

namespace Cell

def textOf? (bs : List UInt8) : Option String :=
  (Text.ofUtf8? (bs.map (·.toNat))).map String.ofList

def toJson : Cell → Json
  | null => .null
  | bytes bs => .str ((textOf? bs).getD "<binary>")
  | int n => .int n
  | float x => .ofFloat x
  | moment m => .str m.text
  | span s => .str s.text

def text : Cell → String
  | bytes bs => (textOf? bs).getD ""
  | _ => ""

end Cell

/-! ### Calls -/

inductive Breakage where
  /-- While the server should have answered. -/
  | during
  /-- Before anything was said. -/
  | before
deriving DecidableEq

def Breakage.message : Breakage → String
  | during => "connection closed"
  | before => "Driver error: `Connection to the server is closed.'"

/-- Why the server did not do what it was asked for. -/
inductive Fault where
  | refused (message : String)
  | broken (cause : Breakage)
  /-- There were not as many parameters as the statement takes. -/
  | miscounted (wanted given : Nat)
deriving DecidableEq

def Fault.failure : Fault → Failure
  | refused message => .execution message
  | broken cause => .execution ("Input/output error: Input/output error: " ++ cause.message)
  | miscounted wanted given =>
    .execution ("Driver error: `Statement takes " ++ toString wanted ++ " parameters but "
      ++ toString given ++ " was supplied.'")

/-- How many parameters a statement takes: one for each question mark. -/
def parameterCount (sql : String) : Nat := sql.toList.count '?'

/-- A column of a result. Its origin is a column of a table; a computed column has none. -/
structure Column where
  name : String
  originName : String
  originTable : String
deriving DecidableEq

structure Answer where
  columns : List Column
  rows : List (List Cell)
  affected : Nat

structure Login where
  user : String
  /-- An empty password is none. -/
  password : Option String
  database : String
  /-- A mutation counts the rows that it found, and not only those that it changed. -/
  countsFound : Bool
deriving DecidableEq

inductive Call where
  /-- Opens the line; the answer is whether somebody is there. -/
  | dial (host : String) (port : Nat)
  | login (login : Login)
  /-- A statement without parameters and without rows. -/
  | command (sql : String)
  /-- A statement without parameters that brings rows of texts. -/
  | read (sql : String)
  | ping
  /-- Executes a statement with parameters, which is prepared once on a line. -/
  | execute (sql : String) (params : List Param)
  | quit
deriving DecidableEq

abbrev Call.Reply : Call → Type
  | dial _ _ => Bool
  | login _ => Except Fault Unit
  | command _ => Except Fault Unit
  | read _ => Except Fault (List (List String))
  | ping => Except Fault Unit
  | execute _ _ => Except Fault Answer
  | quit => Except Fault Unit

abbrev LineProgram (α : Type) := Program Call.Reply α

namespace LineProgram

def dial (host : String) (port : Nat) : LineProgram Bool := Program.call (Call.dial host port)

def login (l : Login) : LineProgram (Except Fault Unit) := Program.call (Call.login l)

def command (sql : String) : LineProgram (Except Fault Unit) := Program.call (Call.command sql)

def read (sql : String) : LineProgram (Except Fault (List (List String))) :=
  Program.call (Call.read sql)

def ping : LineProgram (Except Fault Unit) := Program.call Call.ping

def execute (sql : String) (params : List Param) : LineProgram (Except Fault Answer) :=
  Program.call (Call.execute sql params)

def quit : LineProgram (Except Fault Unit) := Program.call Call.quit

end LineProgram

end QueryDesk.Mysql
