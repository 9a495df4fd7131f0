import QueryDesk.Session.Basic

/-!
# The transaction policy

Every statement is executed in a transaction of its own. A selection runs in a transaction that may
not write and is always rolled back. A mutation is committed when it succeeds, unless it touched
more than one row without permission; otherwise it is rolled back.
-/

namespace QueryDesk.Policy

open SessionProgram

/-- How a mutation of many rows without permission fails. -/
def bulkRefused (affected : Nat) : Failure :=
  .policy ("Bulk update performed without permission (" ++ toString affected ++ " rows affected)")

/-- Reads in a transaction that is rolled back in the end. -/
def select (d : Dialect) (seconds : Nat) (s : Statement) :
    SessionProgram (Except Failure Outcome) := do
  match ← command seconds d.beginReadOnly with
  | .error e => pure (.error e)
  | .ok () =>
    let fetched ← fetch seconds s
    -- Rolled back after a failed reading too, whose failure is then the one that is told.
    let ended ← command seconds "ROLLBACK"
    match fetched, ended with
    | .error e, _ => pure (.error e)
    | .ok _, .error e => pure (.error e)
    | .ok outcome, .ok () => pure (.ok { outcome with query := s.sql })

/-- Writes in a transaction that is committed or rolled back. A failed rollback is passed over. -/
def mutate (d : Dialect) (seconds : Nat) (s : Statement) (allowBulk : Bool) :
    SessionProgram (Except Failure Outcome) := do
  match ← command seconds d.begin with
  | .error e => pure (.error e)
  | .ok () =>
    match ← SessionProgram.mutate seconds s with
    | .error e =>
      let _ ← command seconds "ROLLBACK"
      pure (.error e)
    | .ok affected =>
      if 1 < affected ∧ allowBulk = false then
        -- How many rows they are shows only once they are written.
        let _ ← command seconds "ROLLBACK"
        pure (.error (bulkRefused affected))
      else
        match ← command seconds "COMMIT" with
        | .error e => pure (.error e)
        | .ok () => pure (.ok (.mutation affected s.sql))

def execute (d : Dialect) (seconds : Nat) (q : Query) : SessionProgram (Except Failure Outcome) :=
  match q.kind with
  | .select => select d seconds q.statement
  | .insert | .update => mutate d seconds q.statement q.allowBulk

end QueryDesk.Policy
