import QueryDesk.Connection.Config
import QueryDesk.Session.Basic

/-!
# Scripted behaviour

What a scripted database does when it is called, and the log in which it notes what it was told.
-/

namespace QueryDesk.Scripted

/-- What a call comes to. -/
inductive Behaviour where
  | works
  | fails (failure : Failure)
  | hangs
deriving DecidableEq, Inhabited

/-- The reply to a call that answers `a` when it works. -/
def Behaviour.reply {α : Type} (b : Behaviour) (a : α) : Option (Except Failure α) :=
  match b with
  | works => some (.ok a)
  | fails f => some (.error f)
  | hangs => none

inductive LogEntry where
  | command (sql : String)
  | fetch (statement : Statement)
  | mutate (statement : Statement)
  | connect (link : Nat) (dialect : Dialect) (config : ConnectionConfig)
  | inspect (link : Nat)
  | check (link : Nat)
  | close (link : Nat)
deriving DecidableEq

/-- How one statement goes: each call of its transaction, and what a working one brings. -/
structure Script where
  opening : Behaviour
  fetch : Behaviour
  fetched : Outcome
  mutate : Behaviour
  affected : Nat
  commit : Behaviour
  rollback : Behaviour
deriving Inhabited

/-- Everything works, no rows come, and one row is touched. -/
def Script.plain : Script :=
  { opening := .works, fetch := .works, fetched := ⟨[], [], ""⟩, mutate := .works, affected := 1
    commit := .works, rollback := .works }

def Script.behaviour (s : Script) : SessionCall → Behaviour
  | .command sql =>
    if sql == "COMMIT" then s.commit else if sql == "ROLLBACK" then s.rollback else s.opening
  | .fetch _ => s.fetch
  | .mutate _ => s.mutate

/-- Answers a call to a session and notes it. -/
def Script.answer (s : Script) (c : SessionCall) (log : List LogEntry) :
    c.Reply × List LogEntry :=
  let b := s.behaviour c
  match c with
  | .command sql => (b.reply (), log ++ [.command sql])
  | .fetch st => (b.reply s.fetched, log ++ [.fetch st])
  | .mutate st => (b.reply s.affected, log ++ [.mutate st])

end QueryDesk.Scripted
