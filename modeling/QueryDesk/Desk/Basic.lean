import QueryDesk.Connection.Scope
import QueryDesk.Query.Plan

/-!
# The desk

The operations on registered datasources that answer at once. Each one looks its datasource up,
plans its statement, and only then opens one connection, which is closed before the answer.
-/

namespace QueryDesk

/-- Turns passwords into what is stored and back. -/
structure Cipher where
  encrypt : String → Except Failure String
  decrypt : String → Except Failure String

structure DeskSettings where
  pageSize : Nat
  dockerMode : Bool
  cipher : Cipher

namespace Desk

open DeskTask

/-- The settings a connection is really opened with. -/
def reachable (s : DeskSettings) (c : ConnectionConfig) : ConnectionConfig :=
  if s.dockerMode then c.withDockerHost else c

def unknownDatasource : Failure := .notFound "Datasource not found"

/-- A stored password in the clear. -/
def password (s : DeskSettings) (d : Datasource) : Except Failure (Option String) :=
  match d.password with
  | none => .ok none
  | some p => (s.cipher.decrypt p).map some

/-- A datasource and the settings for connecting to it. -/
def resolve (s : DeskSettings) (id : String) : DeskTask (Datasource × ConnectionConfig) :=
  followedBy (DeskProgram.load id) fun
    | none => ofExcept (.error unknownDatasource)
    | some d => ofExcept ((password s d).map fun p => (d, reachable s (d.config p)))

/-- Executes one query on a connection of its own. -/
def execute (d : Dialect) (c : ConnectionConfig) (q : Query) :
    DeskProgram (Except Failure Outcome) := do
  let (acquired, scope) ← Scope.empty.acquire d c
  let outcome ← match acquired with
    | .ok link => DeskProgram.execute link q
    | .error e => pure (.error e)
  -- Closed whatever came of the query; that it could not be closed is not told.
  let _ ← scope.closeAll
  pure outcome

def select (s : DeskSettings) (r : SelectRequest) : DeskTask SelectResult :=
  if Text.allBlank r.options.table then ofExcept (.error (.validation "Table is required"))
  else
    followedBy (resolve s r.datasource) fun (d, config) =>
    followedBy (DeskProgram.snapshots d.id r.options.tables) fun tables =>
    let schema : Schema := ⟨tables⟩
    followedBy (ofExcept (SelectPlan.make r d.dialect s.pageSize schema)) fun plan =>
    followedBy (execute d.dialect config (.select plan.select.statement)) fun outcome =>
    ofExcept (.ok (plan.result r.options schema outcome))

def insert (s : DeskSettings) (r : InsertRequest) : DeskTask Outcome :=
  followedBy (resolve s r.datasource) fun (d, config) =>
  if d.allowInsert then
    followedBy (ofExcept (r.plan d.dialect)) fun statement =>
    execute d.dialect config (.insert statement)
  else ofExcept (.error (.policy "This datasource does not allow insert operations"))

def update (s : DeskSettings) (r : UpdateRequest) : DeskTask Outcome :=
  followedBy (resolve s r.datasource) fun (d, config) =>
  if d.allowUpdate then
    followedBy (ofExcept (r.plan d.dialect)) fun statement =>
    execute d.dialect config (.update statement r.allowBulk)
  else ofExcept (.error (.policy "This datasource does not allow update operations"))

def single (sql : String) (outcome : Outcome) : Except Failure EntityResult :=
  match outcome.rows with
  | [] => .error (.notFound "Entity not found")
  | [row] => .ok { entity := row, columns := outcome.columns, sql }
  | _ => .error (.validation "Found multiple rows for given query")

def entity (s : DeskSettings) (r : EntityRequest) : DeskTask EntityResult :=
  if r.props.isEmpty then
    ofExcept (.error (.validation "Entity lookup needs at least one column"))
  else
    followedBy (resolve s r.datasource) fun (d, config) =>
    followedBy (ofExcept (r.plan d.dialect)) fun plan =>
    let statement := plan.statement
    followedBy (execute d.dialect config (.select statement)) fun outcome =>
    ofExcept (single statement.sql outcome)

def checkFailed : Failure :=
  .connection "Cannot connect to the database, please check datasource configuration"

/-- Opens a connection, asks whether it works and closes it. -/
def check (s : DeskSettings) (d : Dialect) (c : ConnectionConfig) :
    DeskProgram (Except Failure Unit) := do
  -- Whatever goes wrong, the answer is the same: nothing of what the server said gets out.
  match ← DeskProgram.connect d (reachable s c) with
  | .error _ => pure (.error checkFailed)
  | .ok link =>
    let checked ← DeskProgram.check link
    let _ ← DeskProgram.close link
    match checked with
    | .error _ => pure (.error checkFailed)
    | .ok () => pure (.ok ())

end Desk

end QueryDesk
