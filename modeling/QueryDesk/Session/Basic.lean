import QueryDesk.Program
import QueryDesk.Query.Result
import QueryDesk.Statement.Basic

/-!
# Sessions

What can be asked of an open connection to a database: a statement without parameters or result, a
selection, a mutation. A reply that does not come in time does not come at all.
-/

namespace QueryDesk

inductive QueryKind where
  | select
  | insert
  | update
deriving DecidableEq, Inhabited

/-- A statement to be executed, and what it may do. -/
structure Query where
  statement : Statement
  kind : QueryKind
  allowBulk : Bool
deriving DecidableEq, Inhabited

namespace Query

def select (s : Statement) : Query := ⟨s, .select, false⟩

def insert (s : Statement) : Query := ⟨s, .insert, false⟩

def update (s : Statement) (allowBulk : Bool) : Query := ⟨s, .update, allowBulk⟩

end Query

inductive SessionCall where
  | command (sql : String)
  | fetch (statement : Statement)
  | mutate (statement : Statement)
deriving DecidableEq

namespace SessionCall

/-- What a call is answered with: nothing, when the time is over before. -/
abbrev Reply : SessionCall → Type
  | command _ => Option (Except Failure Unit)
  | fetch _ => Option (Except Failure Outcome)
  | mutate _ => Option (Except Failure Nat)

end SessionCall

abbrev SessionProgram (α : Type) := Program SessionCall.Reply α

namespace SessionProgram

/-- How a call that ran out of time failed. -/
def timedOut (seconds : Nat) : Failure :=
  .execution ("Query timeout after " ++ toString seconds ++ " seconds")

/-- A reply within some seconds. -/
def within {α : Type} (seconds : Nat) : Option (Except Failure α) → Except Failure α
  | some reply => reply
  | none => .error (timedOut seconds)

def command (seconds : Nat) (sql : String) : SessionProgram (Except Failure Unit) := do
  pure (within seconds (← Program.call (SessionCall.command sql)))

def fetch (seconds : Nat) (s : Statement) : SessionProgram (Except Failure Outcome) := do
  pure (within seconds (← Program.call (SessionCall.fetch s)))

def mutate (seconds : Nat) (s : Statement) : SessionProgram (Except Failure Nat) := do
  pure (within seconds (← Program.call (SessionCall.mutate s)))

end SessionProgram

end QueryDesk
