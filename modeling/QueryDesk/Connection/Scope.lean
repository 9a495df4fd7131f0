import QueryDesk.Desk.Call

/-!
# Connection scopes

The connections that one piece of work has opened. Closing the scope closes those that are still
open and forgets all of them; a failed close is passed over. A scope that is dropped leaves those that
are still open to a task of their own.
-/

namespace QueryDesk

structure Scope where
  links : List Nat
deriving DecidableEq, Inhabited

namespace Scope

def empty : Scope := ⟨[]⟩

/-- Opens a connection and holds it; a failed attempt changes nothing. -/
def acquire (s : Scope) (d : Dialect) (c : ConnectionConfig) :
    DeskProgram (Except Failure Nat × Scope) := do
  match ← DeskProgram.connect d c with
  | .ok link => pure (.ok link, ⟨s.links ++ [link]⟩)
  | .error e => pure (.error e, s)

def openOnes : List Nat → DeskProgram (List Nat)
  | [] => pure []
  | link :: rest => do
    let closed ← DeskProgram.isClosed link
    let others ← openOnes rest
    pure (if closed then others else link :: others)

def closeEach : List Nat → DeskProgram Unit
  | [] => pure ()
  | link :: rest => do
    let _ ← DeskProgram.close link
    closeEach rest

def openCount (s : Scope) : DeskProgram Nat := do
  pure (← openOnes s.links).length

/-- Closes what is open; the scope is empty afterwards. -/
def closeAll (s : Scope) : DeskProgram Scope := do
  -- All are asked before the first one is closed.
  closeEach (← openOnes s.links)
  pure empty

/-- Lets go of the scope: what comes of it is the task that closes what is open. Without a runtime
there is nobody to carry it out, and the connections stay as they are. -/
def drop (s : Scope) (runtime : Bool) : DeskProgram (DeskProgram Unit) := do
  let opened ← openOnes s.links
  pure (if runtime then closeEach opened else pure ())

end Scope

end QueryDesk
