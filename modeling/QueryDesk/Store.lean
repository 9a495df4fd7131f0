import QueryDesk.Datasource
import QueryDesk.Schema.Snapshot

/-!
# The store

Datasources by id, each with the snapshot of its last inspection. A snapshot is replaced as a whole
or not at all. An instant is kept as text with a year of four digits: one outside these years can
be written and not be read back.
-/

namespace QueryDesk

structure StoreEntry where
  datasource : Datasource
  snapshots : List Snapshot
deriving DecidableEq, Inhabited

/-- The stored datasources, each id once. -/
structure Store where
  entries : List StoreEntry
deriving DecidableEq, Inhabited

namespace Store

def empty : Store := ⟨[]⟩

def entry? (s : Store) (id : String) : Option StoreEntry :=
  s.entries.find? (·.datasource.id == id)

/-- Changes the entry of a datasource, if there is one. -/
def update (s : Store) (id : String) (f : StoreEntry → StoreEntry) : Store :=
  ⟨s.entries.map fun e => if e.datasource.id = id then f e else e⟩

/-! ### Instants -/

/-- The year has four digits. -/
def isReadable (t : Instant) : Bool := decide (0 ≤ t.date.year ∧ t.date.year ≤ 9999)

/-- How reading fails in a column with an instant that is not readable. -/
def unreadable (column : Nat) : Failure :=
  .storage ("Conversion error from type Text at index: " ++ toString column
    ++ ", input contains invalid characters")

def readInstant (column : Nat) (t : Instant) : Except Failure Unit :=
  if isReadable t then .ok () else .error (unreadable column)

/-! ### Datasources -/

def get (s : Store) (id : String) : Except Failure (Option Datasource) :=
  match s.entry? id with
  | none => .ok none
  | some e => do
    -- Of all that is stored only instants may not come back.
    readInstant 12 e.datasource.createdAt
    match e.datasource.lastInspected with
    | some t => readInstant 13 t
    | none => pure ()
    pure (some e.datasource)

/-- Stores a datasource. One that is there already keeps its creation and its snapshot. -/
def save (s : Store) (d : Datasource) : Store :=
  match s.entry? d.id with
  | some _ =>
    s.update d.id fun e => { e with datasource := { d with createdAt := e.datasource.createdAt } }
  | none => ⟨s.entries ++ [⟨d, []⟩]⟩

def setStatus (s : Store) (id : String) (status : InspectionStatus) : Except Failure Unit × Store :=
  match s.entry? id with
  | some _ =>
    (.ok (), s.update id fun e => { e with datasource := { e.datasource with status } })
  | none => (.error (.notFound ("Datasource " ++ id ++ " not found")), s)

/-- Notes when a datasource was inspected; one that is not stored is passed over. -/
def markInspected (s : Store) (id : String) (moment : Instant) : Store :=
  s.update id fun e => { e with datasource := { e.datasource with lastInspected := some moment } }

/-! ### Snapshots -/

/-- A snapshot as it is stored: its table in lower case. -/
def stored (x : Snapshot) : Snapshot := { x with table := Text.lowercase x.table }

/-- Two of the names are equal. -/
def hasTwice : List String → Bool
  | [] => false
  | n :: rest => rest.contains n || hasTwice rest

def noOwner : Failure := .storage "FOREIGN KEY constraint failed"

def tableTwice : Failure :=
  .storage "UNIQUE constraint failed: database_tables.datasource_id, database_tables.name"

/-- Replaces the snapshot of a datasource. Tables need a stored datasource and distinct names. -/
def replace (s : Store) (id : String) (ss : List Snapshot) : Except Failure Unit × Store :=
  let new := ss.map stored
  match s.entry? id with
  -- It is the first table that misses its datasource, so no tables are no fault.
  | none => (if new.isEmpty then .ok () else .error noOwner, s)
  | some _ =>
    if hasTwice (new.map (·.table)) then (.error tableTwice, s)
    else (.ok (), s.update id fun e => { e with snapshots := new })

def snapshot (s : Store) (id table : String) : Except Failure (Option Snapshot) :=
  match ((s.entry? id).map (·.snapshots)).getD [] |>.find? (·.table == Text.lowercase table) with
  | none => .ok none
  | some x => do
    readInstant 2 x.createdAt
    readInstant 3 x.updatedAt
    pure (some x)

/-- The snapshots of some tables in the order of their names, unknown ones left out. -/
def snapshots (s : Store) (id : String) (tables : List String) : Except Failure (List Snapshot) := do
  let found ← tables.mapM (s.snapshot id)
  pure (found.filterMap (fun x => x))

end Store

end QueryDesk
