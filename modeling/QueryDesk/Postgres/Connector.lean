import QueryDesk.Connection.Config
import QueryDesk.Connector.Operation
import QueryDesk.Postgres.Line
import QueryDesk.Schema.Catalog
import QueryDesk.Session.Policy

/-!
# The PostgreSQL connector

One connection to a server, with the schema of its datasource as search path. A selection tells for
each of its columns the table column it comes from, which the server is asked for by number. A
connector that was closed, or whose line is lost, does nothing any more; this is looked at in front of
every operation.
-/

namespace QueryDesk.Postgres

open LineProgram

/-- A session, as long as it has its client. -/
structure Session where
  hasClient : Bool
deriving DecidableEq

structure Connector where
  session : Session
  schema : String
  timeout : Nat
  closed : Bool
deriving DecidableEq

/-- The port of a server when none is given. -/
def defaultPort : Nat := 5432

/-! ### Queries about the schema -/

def sourcesQuery : String :=
  "SELECT c.oid::text || '-' || a.attnum::text AS source_key, LOWER(c.relname) AS table_name, "
    ++ "a.attname::text AS column_name FROM pg_catalog.pg_attribute a "
    ++ "JOIN pg_catalog.pg_class c ON a.attrelid = c.oid "
    ++ "WHERE c.oid::text || '-' || a.attnum::text = ANY($1)"

def tablesQuery : String :=
  "SELECT tablename::text FROM pg_catalog.pg_tables WHERE schemaname = $1::text"

def keysQuery : String :=
  "SELECT kcu.table_name::text, kcu.column_name::text "
    ++ "FROM information_schema.table_constraints tc JOIN information_schema.key_column_usage kcu "
    ++ "ON tc.constraint_name = kcu.constraint_name AND tc.table_schema = kcu.table_schema "
    ++ "WHERE tc.constraint_type = 'PRIMARY KEY' AND tc.table_schema::text = $1::text "
    ++ "ORDER BY kcu.table_name, kcu.ordinal_position"

def referencesQuery : String :=
  "SELECT kcu.table_name::text, kcu.column_name::text, ccu.table_name::text, "
    ++ "ccu.column_name::text FROM information_schema.table_constraints tc "
    ++ "JOIN information_schema.key_column_usage kcu "
    ++ "ON tc.constraint_name = kcu.constraint_name AND tc.table_schema = kcu.table_schema "
    ++ "JOIN information_schema.constraint_column_usage ccu "
    ++ "ON ccu.constraint_name = tc.constraint_name AND ccu.table_schema = tc.table_schema "
    ++ "WHERE tc.constraint_type = 'FOREIGN KEY' AND tc.table_schema::text = $1::text"

def columnsQuery : String :=
  "SELECT table_name::text, column_name::text, data_type::text FROM information_schema.columns "
    ++ "WHERE table_schema::text = $1::text ORDER BY table_name, ordinal_position"

/-! ### Connecting -/

/-- The statement that makes a schema the search path. -/
def searchPath (schema : String) : String :=
  "SET search_path TO " ++ Dialect.postgres.identifier schema

def login (c : ConnectionConfig) : LineProgram (Except Failure Unit) := do
  match ← startup c.user c.database with
  | .error _ => pure (.error .unreachable)
  | .ok .welcome => pure (.ok ())
  | .ok .passwordWanted =>
    match c.password with
    -- The server wants a password, and there is none.
    | none => pure (.error .unreachable)
    | some p =>
      match ← password p with
      | .error _ => pure (.error .unreachable)
      | .ok () => pure (.ok ())

/-- Opens a connection. Why it failed is not told. -/
def connect (c : ConnectionConfig) (timeout : Nat) : LineProgram (Except Failure Connector) := do
  if ← dial c.host (c.port.getD defaultPort) then
    match ← login c with
    | .error e => pure (.error e)
    | .ok () =>
      match ← command (searchPath c.schema) with
      | .error _ => pure (.error .unreachable)
      | .ok () => pure (.ok ⟨⟨true⟩, c.schema, timeout, false⟩)
  else pure (.error .unreachable)

/-! ### The session -/

def failed {α : Type} : Except Fault α → Except Failure α
  | .ok a => .ok a
  | .error e => .error e.failure

/-- The table columns with these sources, by source. -/
def sources (keys : List String) :
    LineProgram (Except Fault (List (String × String × String))) := do
  if keys.isEmpty then pure (.ok [])
  else
    match ← query sourcesQuery [.texts keys] with
    | .error e => pure (.error e)
    | .ok (_, answer) =>
      pure (.ok (answer.texts.filterMap fun
        | [key, table, column] => some (key, table, column)
        | _ => none))

/-- A column of a result: the table column it comes from, or its own name. -/
def resultColumn (known : List (String × String × String)) (c : Column) : ResultColumn :=
  match c.source?.bind fun key => known.lookup key with
  | some (table, column) => .named column table c.name
  | none => .named c.name "" c.name

def fetch (s : Statement) : LineProgram (Except Fault Outcome) := do
  match ← query s.sql (s.params.map .ofValue) with
  | .error e => pure (.error e)
  | .ok (columns, answer) =>
    -- The rows are here already; they are lost if nothing is told of their columns.
    match ← sources (columns.filterMap (·.source?)) with
    | .error e => pure (.error e)
    | .ok known =>
      let rows := answer.rows.map fun row =>
        (columns.zip row).map fun (c, cell) => c.type.cell cell
      pure (.ok ⟨columns.map (resultColumn known), rows, s.sql⟩)

namespace Session

/-- Says something through the client; a session without a client fails. -/
def onLine {α : Type} (s : Session) (p : LineProgram (Except Fault α)) :
    LineProgram (Except Failure α) := do
  if s.hasClient then pure (failed (← p)) else pure (.error .closed)

def answer (s : Session) : (c : SessionCall) → LineProgram c.Reply
  | .command sql => do pure (some (← s.onLine (command sql)))
  | .fetch st => do pure (some (← s.onLine (fetch st)))
  | .mutate st => do
    let answer ← s.onLine (query st.sql (st.params.map .ofValue))
    pure (some (answer.map fun (_, a) => a.affected))

end Session

def readCatalog (schema : String) : LineProgram (Except Fault Catalog) := do
  let rows (sql : String) : LineProgram (Except Fault (List (List String))) := do
    pure ((← query sql [.text schema]).map fun (_, a) => a.texts)
  match ← rows tablesQuery with
  | .error e => pure (.error e)
  | .ok tables =>
    match ← rows keysQuery with
    | .error e => pure (.error e)
    | .ok keys =>
      match ← rows referencesQuery with
      | .error e => pure (.error e)
      | .ok references =>
        match ← rows columnsQuery with
        | .error e => pure (.error e)
        | .ok columns => pure (.ok (.ofRows tables keys references columns))

/-! ### Operations -/

namespace Connector

/-- Nothing more can be done with this connector. -/
def isClosed (c : Connector) : LineProgram Bool :=
  if c.closed then pure true else if c.session.hasClient then isLost else pure true

/-- Does something with a connector that is not closed. -/
def whenOpen {α : Type} (c : Connector) (p : LineProgram (Except Failure α)) :
    LineProgram (Except Failure α) := do
  if ← c.isClosed then pure (.error .closed) else p

def inspect (c : Connector) (now : Instant) : LineProgram (Except Failure (List Snapshot)) :=
  c.whenOpen do pure ((← c.session.onLine (readCatalog c.schema)).map (·.snapshots now))

def execute (c : Connector) (q : Query) : LineProgram (Except Failure Outcome) :=
  c.whenOpen ((Policy.execute .postgres c.timeout q).via c.session.answer)

def check (c : Connector) : LineProgram (Except Failure Unit) :=
  c.whenOpen (c.session.onLine (command "SELECT 1"))

/-- Gives the client up, which takes leave of the server. -/
def close (c : Connector) : LineProgram (Except Failure Unit × Connector) := do
  if c.closed then pure (.ok (), c)
  else
    if c.session.hasClient then terminate
    pure (.ok (), { c with session := ⟨false⟩, closed := true })

def perform (c : Connector) (now : Instant) :
    ConnectorOperation → LineProgram (ConnectorResult × Connector)
  | .inspect => do pure (.inspected (← c.inspect now), c)
  | .execute q => do pure (.executed (← c.execute q), c)
  | .check => do pure (.checked (← c.check), c)
  | .close => do
    let (r, c) ← c.close
    pure (.closed r, c)

end Connector

end QueryDesk.Postgres
