import QueryDesk.Program
import QueryDesk.Query.Result
import QueryDesk.Session.Basic
import QueryDesk.Store

/-!
# Calls of the desk

What the desk needs of its surroundings: a store for datasources, a set of claimed datasources, and
a factory that opens connections. A connection is known by its number.
-/

namespace QueryDesk

inductive DeskCall where
  | load (id : String)
  | snapshots (id : String) (tables : List String)
  | save (datasource : Datasource)
  | setStatus (id : String) (status : InspectionStatus)
  | replace (id : String) (snapshots : List Snapshot)
  /-- Notes that the inspection of a datasource has come to its end now. -/
  | stamp (id : String)
  | claim (id : String)
  | release (id : String)
  | connect (dialect : Dialect) (config : ConnectionConfig)
  | inspect (link : Nat)
  | check (link : Nat)
  | execute (link : Nat) (query : Query)
  | close (link : Nat)
  | isClosed (link : Nat)

namespace DeskCall

/-- What a call is answered with. A claim is answered by whether it was free. -/
abbrev Reply : DeskCall → Type
  | load _ => Except Failure (Option Datasource)
  | snapshots _ _ => Except Failure (List Snapshot)
  | save _ => Except Failure Unit
  | setStatus _ _ => Except Failure Unit
  | replace _ _ => Except Failure Unit
  | stamp _ => Except Failure Unit
  | claim _ => Bool
  | release _ => Unit
  | connect _ _ => Except Failure Nat
  | inspect _ => Except Failure (List Snapshot)
  | check _ => Except Failure Unit
  | execute _ _ => Except Failure Outcome
  | close _ => Except Failure Unit
  | isClosed _ => Bool

end DeskCall

abbrev DeskProgram (α : Type) := Program DeskCall.Reply α

namespace DeskProgram

def load (id : String) : DeskProgram (Except Failure (Option Datasource)) :=
  Program.call (DeskCall.load id)

def snapshots (id : String) (tables : List String) :
    DeskProgram (Except Failure (List Snapshot)) :=
  Program.call (DeskCall.snapshots id tables)

def save (d : Datasource) : DeskProgram (Except Failure Unit) := Program.call (DeskCall.save d)

def setStatus (id : String) (status : InspectionStatus) : DeskProgram (Except Failure Unit) :=
  Program.call (DeskCall.setStatus id status)

def replace (id : String) (ss : List Snapshot) : DeskProgram (Except Failure Unit) :=
  Program.call (DeskCall.replace id ss)

def stamp (id : String) : DeskProgram (Except Failure Unit) := Program.call (DeskCall.stamp id)

def claim (id : String) : DeskProgram Bool := Program.call (DeskCall.claim id)

def release (id : String) : DeskProgram Unit := Program.call (DeskCall.release id)

def connect (d : Dialect) (c : ConnectionConfig) : DeskProgram (Except Failure Nat) :=
  Program.call (DeskCall.connect d c)

def inspect (link : Nat) : DeskProgram (Except Failure (List Snapshot)) :=
  Program.call (DeskCall.inspect link)

def check (link : Nat) : DeskProgram (Except Failure Unit) := Program.call (DeskCall.check link)

def execute (link : Nat) (q : Query) : DeskProgram (Except Failure Outcome) :=
  Program.call (DeskCall.execute link q)

def close (link : Nat) : DeskProgram (Except Failure Unit) := Program.call (DeskCall.close link)

def isClosed (link : Nat) : DeskProgram Bool := Program.call (DeskCall.isClosed link)

end DeskProgram

abbrev DeskTask (α : Type) := DeskProgram (Except Failure α)

namespace DeskTask

variable {α β : Type}

/-- Goes on with the result, or stops at the failure. -/
def followedBy (p : DeskTask α) (f : α → DeskTask β) : DeskTask β :=
  p.andThen fun
    | .ok a => f a
    | .error e => .done (.error e)

/-- A result that needs no call. -/
def ofExcept (r : Except Failure α) : DeskTask α := .done r

end DeskTask

end QueryDesk
