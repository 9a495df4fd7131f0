import QueryDesk.Archive.Row
import QueryDesk.Form.Schema
import QueryDesk.Datasource
import QueryDesk.Time.Stamp

/-!
# The archive

The store in the tables of a database: one row for each datasource, one for each table of a snapshot,
one for each column of such a table. Deleting a table deletes its columns. What goes wrong on the
way leaves the tables as they were.
-/

namespace QueryDesk

/-- The three tables, and how many row ids have been drawn. No id is drawn twice. -/
structure Archive where
  datasources : List Archive.Row
  tables : List Archive.Row
  columns : List Archive.Row
  drawn : Nat
deriving DecidableEq, Inhabited

namespace Archive

def empty : Archive := ⟨[], [], [], 0⟩

def datasourceSchema : TableSchema where
  name := "datasources"
  required := ["name", "dialect", "url", "user", "database_name", "allow_insert", "allow_update",
    "status", "created_at"]
  keys := [["id"]]

def tableSchema : TableSchema where
  name := "database_tables"
  required := ["datasource_id", "name", "created_at", "updated_at"]
  keys := [["id"], ["datasource_id", "name"]]

def columnSchema : TableSchema where
  name := "database_columns"
  required := ["table_id", "name", "type", "is_primary", "position", "meta"]
  keys := [["id"]]

/-! ### Instants -/

def instantCell (t : Instant) : Cell := .text (Stamp.write t)

/-- The instant that a text from a position tells. -/
def parseInstant (i : Nat) (s : String) : Except Failure Instant :=
  match Stamp.read s with
  | .ok t => .ok t
  | .error e => .error (Row.unconverted i e.message)

def parseOptional (i : Nat) : Option String → Except Failure (Option Instant)
  | some s => (parseInstant i s).map some
  | none => .ok none

/-! ### Datasources -/

def savedColumns : List String :=
  ["id", "name", "dialect", "url", "port", "user", "password", "database_name", "schema_name",
    "allow_insert", "allow_update", "status", "created_at", "last_inspected"]

/-- The columns that saving writes over in a row that is there already. -/
def overwrittenColumns : List String :=
  ["name", "dialect", "url", "port", "user", "password", "database_name", "schema_name",
    "allow_insert", "allow_update", "status", "last_inspected"]

def loadedColumns : List String :=
  ["id", "name", "dialect", "url", "port", "user", "password", "database_name", "schema_name",
    "allow_insert", "allow_update", "status", "created_at", "last_inspected"]

/-- What saving binds to its columns. -/
def datasourceCells (d : Datasource) : List Cell :=
  [.text d.id, .text d.name, .text d.dialect.name, .text d.url,
    .ofOption (fun (n : Nat) => .integer n) d.port, .text d.user, .ofOption .text d.password,
    .text d.database, .ofOption .text d.schema, .ofBool d.allowInsert, .ofBool d.allowUpdate,
    .text d.status.name, instantCell d.createdAt, .ofOption instantCell d.lastInspected]

def datasourceRow (d : Datasource) : Row := savedColumns.zip (datasourceCells d)

/-- The datasource in a row of the columns that loading reads. -/
def datasourceOf (r : Row) : Except Failure Datasource := do
  -- The order of the steps decides which of several faults is told.
  let dialect ← r.read Cell.asText 2
  let id ← r.read Cell.asText 0
  let name ← r.read Cell.asText 1
  let dialect ← match Dialect.ofText dialect with
    | .ok d => .ok d
    | .error e => .error (Row.unconverted 2 e.display)
  let url ← r.read Cell.asText 3
  let port ← r.read (Cell.asOptional (Cell.asNatUpTo 65535)) 4
  let user ← r.read Cell.asText 5
  let password ← r.read (Cell.asOptional Cell.asText) 6
  let database ← r.read Cell.asText 7
  let schema ← r.read (Cell.asOptional Cell.asText) 8
  let allowInsert ← r.read Cell.asBool 9
  let allowUpdate ← r.read Cell.asBool 10
  let status := InspectionStatus.ofText (← r.read Cell.asText 11)
  let createdAt ← parseInstant 12 (← r.read Cell.asText 12)
  let lastInspected ← parseOptional 13 (← r.read (Cell.asOptional Cell.asText) 13)
  pure { id, name, dialect, url, port, user, password, database, schema, allowInsert, allowUpdate,
         status, createdAt, lastInspected }

def hasId (id : String) (r : Row) : Bool := r.cell "id" == .text id

def get (a : Archive) (id : String) : Except Failure (Option Datasource) :=
  match a.datasources.find? (hasId id) with
  | none => .ok none
  | some r => (datasourceOf (r.select loadedColumns)).map some

/-- Stores a datasource. One that is there already keeps its creation. -/
def save (a : Archive) (d : Datasource) : Except Failure Unit × Archive :=
  match datasourceSchema.upsert "id" overwrittenColumns a.datasources (datasourceRow d) with
  | .ok rows => (.ok (), { a with datasources := rows })
  | .error e => (.error e, a)

def setStatus (a : Archive) (id : String) (status : InspectionStatus) :
    Except Failure Unit × Archive :=
  let (rows, count) :=
    Row.updateWhere (hasId id) [("status", .text status.name)] a.datasources
  let a := { a with datasources := rows }
  if count = 0 then (.error (.notFound ("Datasource " ++ id ++ " not found")), a) else (.ok (), a)

/-- Notes when a datasource was inspected; one that is not stored is passed over. -/
def markInspected (a : Archive) (id : String) (moment : Instant) : Archive :=
  let (rows, _) :=
    Row.updateWhere (hasId id) [("last_inspected", instantCell moment)] a.datasources
  { a with datasources := rows }

/-! ### Snapshots -/

/-- What is kept of the references of a column. -/
structure ColumnMeta where
  reference : Option ColumnRef
  referencedBy : List ColumnRef
deriving DecidableEq, Inhabited

namespace ColumnMeta

def toJson (x : ColumnMeta) : Json :=
  .obj [("refs", Json.ofOption ColumnRef.toJson x.reference),
    ("referencedBy", .arr (x.referencedBy.map ColumnRef.toJson))]

def reader : Json.Reader ColumnMeta :=
  Json.record ⟨none, []⟩ [
    Json.Field.defaulted "refs" (Json.Reader.optional ColumnRef.reader)
      fun r x => { x with reference := r },
    Json.Field.defaulted "referencedBy" (Json.Reader.list ColumnRef.reader)
      fun rs x => { x with referencedBy := rs }]

def parse (s : String) : Except Failure ColumnMeta :=
  match Json.Reader.whole reader s with
  | .ok x => .ok x
  | .error _ => .error (.storage "Invalid stored JSON: ")

end ColumnMeta

def rowId (n : Nat) : String := toString n

def noOwner : Failure := .storage "FOREIGN KEY constraint failed"

def tableRow (rowId owner : String) (x : Snapshot) : Row :=
  ["id", "datasource_id", "name", "created_at", "updated_at"].zip
    [.text rowId, .text owner, .text (Text.lowercase x.table), instantCell x.createdAt,
      instantCell x.updatedAt]

def columnRow (rowId table : String) (position : Nat) (c : ColumnInfo) : Row :=
  ["id", "table_id", "name", "type", "is_primary", "position", "meta"].zip
    [.text rowId, .text table, .text c.name, .text c.declared, .ofBool c.isPrimary,
      .integer position, .text (ColumnMeta.toJson ⟨c.reference, c.referencedBy⟩).write]

def ownedBy (id : String) (r : Row) : Bool := r.cell "datasource_id" == .text id

def isPartOf (table : String) (r : Row) : Bool := r.cell "table_id" == .text table

/-- Deletes the tables of a datasource, and with them their columns. -/
def deleteTables (a : Archive) (id : String) : Archive :=
  let gone := (a.tables.filter (ownedBy id)).map (·.cell "id")
  { a with
    tables := a.tables.filter fun r => !ownedBy id r
    columns := a.columns.filter fun r => !gone.contains (r.cell "table_id") }

def insertColumn (table : String) (a : Archive) (column : ColumnInfo × Nat) :
    Except Failure Archive := do
  let columns ← columnSchema.insert a.columns (columnRow (rowId a.drawn) table column.2 column.1)
  -- Whose row it is comes after the rules of the row itself.
  if a.tables.any (hasId table) then pure { a with columns, drawn := a.drawn + 1 }
  else throw noOwner

def insertTable (owner : String) (a : Archive) (x : Snapshot) : Except Failure Archive := do
  let table := rowId a.drawn
  let tables ← tableSchema.insert a.tables (tableRow table owner x)
  if a.datasources.any (hasId owner) then
    x.columns.zipIdx.foldlM (insertColumn table) { a with tables, drawn := a.drawn + 1 }
  else throw noOwner

/-- Replaces the snapshot of a datasource, or leaves everything as it is. -/
def replace (a : Archive) (id : String) (xs : List Snapshot) : Except Failure Unit × Archive :=
  match xs.foldlM (insertTable id) (a.deleteTables id) with
  | .ok new => (.ok (), new)
  -- Deleting and inserting are one transaction.
  | .error e => (.error e, a)

/-- The column in a row of its name, type, key and references. -/
def columnOf (r : Row) : Except Failure ColumnInfo := do
  let name ← r.read Cell.asText 0
  let declared ← r.read Cell.asText 1
  let isPrimary ← r.read Cell.asBool 2
  let kept ← ColumnMeta.parse (← r.read Cell.asText 3)
  pure { name, declared, isPrimary, reference := kept.reference, referencedBy := kept.referencedBy }

def columnsOf (a : Archive) (table : String) : Except Failure (List ColumnInfo) :=
  ((a.columns.filter (isPartOf table)).mergeSort fun r x =>
    (r.cell "position").before (x.cell "position")).mapM fun r =>
      columnOf (r.select ["name", "type", "is_primary", "meta"])

def snapshot (a : Archive) (id table : String) : Except Failure (Option Snapshot) :=
  match a.tables.find? fun r =>
    ownedBy id r && r.cell "name" == .text (Text.lowercase table) with
  | none => .ok none
  | some r => do
    let r := r.select ["id", "name", "created_at", "updated_at"]
    let key ← r.read Cell.asText 0
    let table ← r.read Cell.asText 1
    let createdAt ← parseInstant 2 (← r.read Cell.asText 2)
    let updatedAt ← parseInstant 3 (← r.read Cell.asText 3)
    let columns ← a.columnsOf key
    pure (some { table, columns, createdAt, updatedAt })

/-- The snapshots of some tables in the order of their names, unknown ones left out. -/
def snapshots (a : Archive) (id : String) (tables : List String) :
    Except Failure (List Snapshot) := do
  let found ← tables.mapM (a.snapshot id)
  pure (found.filterMap fun x => x)

end Archive

end QueryDesk
