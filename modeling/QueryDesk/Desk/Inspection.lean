import QueryDesk.Desk.Basic

/-!
# Inspections

An inspection reads the catalog of a datasource in the background and replaces its snapshot. A
datasource is claimed from the moment an inspection is accepted until the inspection has written
how it ended, so that no two inspections of one datasource overlap.
-/

namespace QueryDesk.Desk

open DeskTask

/-- Reads the snapshots of a datasource on a connection of its own. -/
def readSnapshots (d : Dialect) (c : ConnectionConfig) :
    DeskProgram (Except Failure (List Snapshot)) := do
  match ← DeskProgram.connect d c with
  | .error e => pure (.error e)
  | .ok link =>
    let read ← DeskProgram.inspect link
    let _ ← DeskProgram.close link
    pure read

/-- Reads and stores the snapshots of a datasource; the answer is their number. -/
def refresh (d : Datasource) (c : ConnectionConfig) : DeskTask Nat :=
  followedBy (readSnapshots d.dialect c) fun snapshots =>
  followedBy (DeskProgram.replace d.id snapshots) fun () =>
  followedBy (DeskProgram.stamp d.id) fun () =>
  ofExcept (.ok snapshots.length)

def finalStatus (outcome : Except Failure Nat) : InspectionStatus :=
  match outcome with
  | .ok _ => .ready
  | .error _ => .failed

/-- The background part of an inspection: the datasource is claimed before and free after it. -/
def inspection (d : Datasource) (c : ConnectionConfig) : DeskProgram (Except Failure Nat) := do
  let outcome ← refresh d c
  let _ ← DeskProgram.setStatus d.id (finalStatus outcome)
  -- The next inspection may begin only now that the status of this one is written.
  let _ ← DeskProgram.release d.id
  pure outcome

def alreadyRunning : Failure := .conflict "An inspection of this datasource is already running"

/-- Claims a datasource for an inspection and gives its background part. -/
def accept (d : Datasource) (c : ConnectionConfig) :
    DeskProgram (Except Failure (DeskTask Nat)) := do
  if ← DeskProgram.claim d.id then
    match ← DeskProgram.setStatus d.id .inspecting with
    | .ok () => pure (.ok (inspection d c))
    | .error e =>
      -- There will be no background part that frees it.
      let _ ← DeskProgram.release d.id
      pure (.error e)
  else pure (.error alreadyRunning)

/-- Accepts an inspection and gives its background part, to be started. -/
def inspect (s : DeskSettings) (id : String) : DeskTask (DeskTask Nat) :=
  followedBy (resolve s id) fun (d, config) => accept d config

/-- Checks that a datasource can be reached, stores it with its password encrypted, and accepts its
first inspection. -/
def register (s : DeskSettings) (d : Datasource) : DeskTask (Datasource × DeskTask Nat) :=
  followedBy (check s d.dialect (d.config d.password)) fun () =>
  -- The check needs the password in the clear; the store gets it encrypted.
  let encrypted : Except Failure (Option String) := match d.password with
    | none => .ok none
    | some p => (s.cipher.encrypt p).map some
  followedBy (ofExcept encrypted) fun password =>
  let stored := { d with password }
  followedBy (DeskProgram.save stored) fun () =>
  followedBy (inspect s d.id) fun task =>
  ofExcept (.ok (stored, task))

end QueryDesk.Desk
