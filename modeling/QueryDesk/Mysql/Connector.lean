import QueryDesk.Connection.Config
import QueryDesk.Connector.Operation
import QueryDesk.Mysql.Line
import QueryDesk.Schema.Catalog
import QueryDesk.Session.Policy

/-!
# The MySQL connector

One connection to a server. Columns of a result tell their origin themselves. A mutation counts the
rows that it found, so that the transaction policy sees all of them. A connector is closed by taking
its line away, whether the server takes leave or not; from then on nothing reaches the server that its
session is asked for. One whose line broke is not closed.
-/

namespace QueryDesk.Mysql

/-- A session, as long as it has its line. -/
structure Session where
  hasLine : Bool
deriving DecidableEq

structure Connector where
  session : Session
  database : String
  timeout : Nat
deriving DecidableEq

/-- The port of a server when none is given. -/
def defaultPort : Nat := 3306

/-! ### Queries about the schema -/

def tablesQuery : String := "SHOW TABLES"

def keysQuery : String :=
  "SELECT TABLE_NAME, COLUMN_NAME FROM information_schema.KEY_COLUMN_USAGE "
    ++ "WHERE CONSTRAINT_NAME = 'PRIMARY' AND TABLE_SCHEMA = DATABASE() "
    ++ "ORDER BY TABLE_NAME, ORDINAL_POSITION"

def referencesQuery : String :=
  "SELECT TABLE_NAME, COLUMN_NAME, REFERENCED_TABLE_NAME, REFERENCED_COLUMN_NAME "
    ++ "FROM information_schema.KEY_COLUMN_USAGE "
    ++ "WHERE REFERENCED_TABLE_NAME IS NOT NULL AND CONSTRAINT_SCHEMA = DATABASE()"

def columnsQuery : String :=
  "SELECT TABLE_NAME, COLUMN_NAME, DATA_TYPE FROM information_schema.COLUMNS "
    ++ "WHERE TABLE_SCHEMA = ? ORDER BY TABLE_NAME, ORDINAL_POSITION"

/-! ### Connecting -/

def loginOf (c : ConnectionConfig) : Login :=
  { user := c.user, password := c.password.filter (· != ""), database := c.database
    countsFound := true }

/-- Opens a connection. Why it failed is not told. -/
def connect (c : ConnectionConfig) (timeout : Nat) : LineProgram (Except Failure Connector) := do
  if ← LineProgram.dial c.host (c.port.getD defaultPort) then
    match ← LineProgram.login (loginOf c) with
    | .error _ => pure (.error .unreachable)
    | .ok () => pure (.ok ⟨⟨true⟩, c.database, timeout⟩)
  else pure (.error .unreachable)

/-! ### The session -/

def failed {α : Type} : Except Fault α → Except Failure α
  | .ok a => .ok a
  | .error e => .error e.failure

/-- A column of a result: the table column it comes from, or its own name. -/
def resultColumn (c : Column) : ResultColumn :=
  -- What is computed has no origin.
  if c.originName == "" then .named c.name "" c.name
  else .named c.originName (Text.lowercase c.originTable) c.name

def outcome (s : Statement) (a : Answer) : Outcome :=
  ⟨a.columns.map resultColumn, a.rows.map (·.map Cell.toJson), s.sql⟩

namespace Session

/-- Says something on the line; a session without a line fails. -/
def onLine {α : Type} (s : Session) (p : LineProgram (Except Fault α)) :
    LineProgram (Except Failure α) := do
  if s.hasLine then pure (failed (← p)) else pure (.error .closed)

def answer (s : Session) : (c : SessionCall) → LineProgram c.Reply
  | .command sql => do pure (some (← s.onLine (LineProgram.command sql)))
  | .fetch st => do
    let answer ← s.onLine (LineProgram.execute st.sql (st.params.map .ofValue))
    pure (some (answer.map (outcome st)))
  | .mutate st => do
    let answer ← s.onLine (LineProgram.execute st.sql (st.params.map .ofValue))
    pure (some (answer.map (·.affected)))

end Session

def readCatalog (database : String) : LineProgram (Except Fault Catalog) := do
  match ← LineProgram.read tablesQuery with
  | .error e => pure (.error e)
  | .ok tables =>
    match ← LineProgram.read keysQuery with
    | .error e => pure (.error e)
    | .ok keys =>
      match ← LineProgram.read referencesQuery with
      | .error e => pure (.error e)
      | .ok references =>
        match ← LineProgram.execute columnsQuery [.text database] with
        | .error e => pure (.error e)
        | .ok columns =>
          pure (.ok (.ofRows tables keys references (columns.rows.map (·.map Cell.text))))

/-! ### Operations -/

namespace Connector

/-- The line was taken away. -/
def isClosed (c : Connector) : Bool := !c.session.hasLine

def inspect (c : Connector) (now : Instant) : LineProgram (Except Failure (List Snapshot)) := do
  pure ((← c.session.onLine (readCatalog c.database)).map (·.snapshots now))

def execute (c : Connector) (q : Query) : LineProgram (Except Failure Outcome) :=
  (Policy.execute .mysql c.timeout q).via c.session.answer

def check (c : Connector) : LineProgram (Except Failure Unit) := c.session.onLine LineProgram.ping

def close (c : Connector) : LineProgram (Except Failure Unit × Connector) := do
  -- Whether the server takes leave is told; the line is gone either way.
  if c.session.hasLine then pure (failed (← LineProgram.quit), { c with session := ⟨false⟩ })
  else pure (.ok (), c)

def perform (c : Connector) (now : Instant) :
    ConnectorOperation → LineProgram (ConnectorResult × Connector)
  | .inspect => do pure (.inspected (← c.inspect now), c)
  | .execute q => do pure (.executed (← c.execute q), c)
  | .check => do pure (.checked (← c.check), c)
  | .close => do
    let (r, c) ← c.close
    pure (.closed r, c)

end Connector

end QueryDesk.Mysql
