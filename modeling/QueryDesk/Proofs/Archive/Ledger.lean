import QueryDesk.Proofs.Archive.Rows
import QueryDesk.Store

/-!
# The ledger

What the archive keeps, as a map from ids to datasources and their snapshots. The archive represents
a ledger when each entry is found in its rows: the datasource in the row with its id, the snapshots
in the rows of its tables, and the columns of each of them in their order. Reading the archive tells
of an entry alone; changing the row of a datasource changes the entry.
-/

namespace QueryDesk

/-- The stored datasources and their snapshots by id. -/
def Ledger : Type := String → Option StoreEntry

namespace Ledger

def empty : Ledger := fun _ => none

def set (m : Ledger) (id : String) (e : StoreEntry) : Ledger :=
  fun other => if other = id then some e else m other

/-- Stores a datasource. One that is there already keeps its creation and its snapshot. -/
def save (m : Ledger) (d : Datasource) : Ledger :=
  match m d.id with
  | some e => m.set d.id { e with datasource := { d with createdAt := e.datasource.createdAt } }
  | none => m.set d.id ⟨d, []⟩

def setStatus (m : Ledger) (id : String) (status : InspectionStatus) :
    Except Failure Unit × Ledger :=
  match m id with
  | some e => (.ok (), m.set id { e with datasource := { e.datasource with status } })
  | none => (.error (.notFound ("Datasource " ++ id ++ " not found")), m)

def markInspected (m : Ledger) (id : String) (moment : Instant) : Ledger :=
  match m id with
  | some e => m.set id { e with datasource := { e.datasource with lastInspected := some moment } }
  | none => m

def names (xs : List Snapshot) : List String := xs.map (Text.lowercase ·.table)

/-- Replaces the snapshot of a datasource. Tables need a stored datasource and distinct names. -/
def replace (m : Ledger) (id : String) (xs : List Snapshot) : Except Failure Unit × Ledger :=
  match m id with
  | some e =>
    if (names xs).Nodup then (.ok (), m.set id { e with snapshots := xs.map Store.stored })
    else (.error Store.tableTwice, m)
  | none => (if xs.isEmpty then .ok () else .error Store.noOwner, m)

def get (m : Ledger) (id : String) : Option Datasource := (m id).map (·.datasource)

/-- The snapshot of a datasource; none for one that is not stored. -/
def snapshotsOf (m : Ledger) (id : String) : List Snapshot :=
  ((m id).map (·.snapshots)).getD []

def snapshot? (m : Ledger) (id table : String) : Option Snapshot :=
  (m.snapshotsOf id).find? (·.table == Text.lowercase table)

/-- The snapshots of some tables in the order of their names, unknown ones left out. -/
def snapshots (m : Ledger) (id : String) (tables : List String) : List Snapshot :=
  tables.filterMap (m.snapshot? id)

variable {m : Ledger} {id other : String} {e : StoreEntry}

@[simp] theorem set_self : (m.set id e) id = some e := if_pos rfl

theorem set_of_ne (h : other ≠ id) : (m.set id e) other = m other := if_neg h

@[simp] theorem set_set (e' : StoreEntry) : (m.set id e).set id e' = m.set id e' := by
  funext other
  by_cases hother : other = id
  · subst hother
    rw [set_self, set_self]
  · rw [set_of_ne hother, set_of_ne hother, set_of_ne hother]

theorem snapshotsOf_of_some (h : m id = some e) : m.snapshotsOf id = e.snapshots := by
  rw [snapshotsOf, h]
  rfl

theorem snapshotsOf_of_none (h : m id = none) : m.snapshotsOf id = [] := by
  rw [snapshotsOf, h]
  rfl

theorem snapshotsOf_set_of_ne (h : other ≠ id) :
    (m.set id e).snapshotsOf other = m.snapshotsOf other := by
  rw [snapshotsOf, set_of_ne h, snapshotsOf]

@[simp] theorem snapshotsOf_set_self : (m.set id e).snapshotsOf id = e.snapshots :=
  snapshotsOf_of_some set_self

end Ledger

namespace Archive

/-- The row is that of a column at its position in a table. -/
def IsColumn (table : String) (r : Row) (c : ColumnInfo × Nat) : Prop :=
  ∃ key, r = columnRow key table c.2 c.1

/-- The row of a table and the rows of its columns are those of a snapshot as it is stored. -/
def Holds (a : Archive) (id : String) (r : Row) (y : Snapshot) : Prop :=
  ∃ key x, r = tableRow key id x ∧ y = Store.stored x ∧
    List.Forall₂ (IsColumn key) (a.columns.filter (isPartOf key)) x.columns.zipIdx

/-- The cell holds a row id that has been drawn. -/
def IsDrawn (a : Archive) (x : Cell) : Prop := ∃ n < a.drawn, x = .text (rowId n)

/-- The ledger that the rows of an archive keep. -/
structure Represents (a : Archive) (m : Ledger) : Prop where
  own : ∀ id e, m id = some e → e.datasource.id = id
  datasources : ∀ id, a.datasources.find? (hasId id) =
    (m id).map fun e => datasourceRow e.datasource
  tables : ∀ id, List.Forall₂ (a.Holds id) (a.tables.filter (ownedBy id)) (m.snapshotsOf id)
  apart : (a.tables.map (·.cell "id")).Nodup
  tableIds : ∀ r ∈ a.tables, a.IsDrawn (r.cell "id")
  columnIds : ∀ r ∈ a.columns, a.IsDrawn (r.cell "id") ∧ a.IsDrawn (r.cell "table_id")

theorem represents_empty : Represents empty Ledger.empty where
  own id e h := by cases h
  datasources _ := rfl
  tables _ := .nil
  apart := List.nodup_nil
  tableIds r h := by cases h
  columnIds r h := by cases h

variable {a b : Archive} {m : Ledger} {id : String}

theorem text_beq (s t : String) : (Cell.text s == Cell.text t) = decide (s = t) := by
  by_cases h : s = t <;> simp [h]

@[simp] theorem hasId_datasourceRow (d : Datasource) :
    hasId id (datasourceRow d) = decide (d.id = id) := by
  rw [hasId, cell_id_datasourceRow, text_beq]

@[simp] theorem ownedBy_tableRow (key owner : String) (x : Snapshot) :
    ownedBy id (tableRow key owner x) = decide (owner = id) := by
  rw [ownedBy, cell_owner_tableRow, text_beq]

/-! ### Reading -/

def reloaded (d : Datasource) : Except Failure Datasource :=
  datasourceOf ((datasourceRow d).select loadedColumns)

def recalled (y : Snapshot) : Except Failure Snapshot := do
  let createdAt ← parseInstant 2 (Stamp.write y.createdAt)
  let updatedAt ← parseInstant 3 (Stamp.write y.updatedAt)
  pure { y with createdAt, updatedAt }

theorem Represents.get_eq (h : a.Represents m) (id : String) :
    a.get id = (m.get id).elim (.ok none) fun d => (reloaded d).map some := by
  rw [Archive.get, h.datasources id, Ledger.get]
  cases m id <;> rfl

theorem map_position {key : String} {rows : List Row} {cs : List (ColumnInfo × Nat)}
    (h : List.Forall₂ (IsColumn key) rows cs) :
    rows.map (·.cell "position") = cs.map fun c => .integer c.2 := by
  induction h with
  | nil => rfl
  | cons hr _ ih =>
    obtain ⟨k, rfl⟩ := hr
    rw [List.map_cons, List.map_cons, ih, cell_position_columnRow]

theorem pairwise_position {key : String} {rows : List Row} {cs : List ColumnInfo}
    (h : List.Forall₂ (IsColumn key) rows cs.zipIdx) :
    rows.Pairwise fun r x => (r.cell "position").before (x.cell "position") = true := by
  have hindices : (cs.zipIdx.map Prod.snd).Pairwise (· < ·) := by
    rw [List.zipIdx_map_snd]
    exact List.pairwise_lt_range' 1
  rw [List.pairwise_map] at hindices
  have hcells : (rows.map fun r : Row => r.cell "position").Pairwise
      fun x y => x.before y = true := by
    rw [map_position h, List.pairwise_map]
    exact hindices.imp fun hlt => decide_eq_true (by omega)
  exact List.pairwise_map.1 hcells

theorem columnsOf_eq {key : String} {cs : List ColumnInfo}
    (h : List.Forall₂ (IsColumn key) (a.columns.filter (isPartOf key)) cs.zipIdx) :
    a.columnsOf key = .ok cs := by
  -- the columns were taken in by their positions, so that sorting leaves them as they stand
  rw [columnsOf, List.mergeSort_of_pairwise (pairwise_position h)]
  apply mapM_eq_ok
  rw [← List.zipIdx_map_fst 0 cs, List.forall₂_map_right_iff]
  refine h.imp fun r c hr => ?_
  obtain ⟨k, rfl⟩ := hr
  exact columnOf_row k key c.2 c.1

/-- The row of a table is found by the name of its snapshot. -/
theorem find?_name {rows : List Row} {ys : List Snapshot} (h : List.Forall₂ (a.Holds id) rows ys)
    (t : String) :
    (rows.find? (fun r => r.cell "name" == .text t) = none ∧ ys.find? (·.table == t) = none) ∨
    ∃ r y, rows.find? (fun r => r.cell "name" == .text t) = some r ∧
      ys.find? (·.table == t) = some y ∧ a.Holds id r y := by
  induction h with
  | nil => exact .inl ⟨rfl, rfl⟩
  | @cons r y rows ys hr _ ih =>
    have hname : (r.cell "name" == .text t) = (y.table == t) := by
      obtain ⟨key, x, rfl, rfl, -⟩ := hr
      rw [cell_name_tableRow, text_beq]
      rfl
    cases ht : y.table == t with
    | true =>
      refine .inr ⟨r, y, ?_, ?_, hr⟩
      · rw [List.find?_cons, hname, ht]
      · rw [List.find?_cons, ht]
    | false =>
      rw [List.find?_cons, List.find?_cons, hname, ht]
      exact ih

theorem Represents.snapshot_eq (h : a.Represents m) (id t : String) :
    a.snapshot id t = (m.snapshot? id t).elim (.ok none) fun y => (recalled y).map some := by
  have hfind : a.tables.find?
      (fun r => ownedBy id r && r.cell "name" == .text (Text.lowercase t)) =
      (a.tables.filter (ownedBy id)).find? fun r => r.cell "name" == .text (Text.lowercase t) := by
    rw [List.find?_filter]
    simp only [Bool.decide_and, Bool.decide_eq_true]
  rw [snapshot, hfind, Ledger.snapshot?]
  rcases find?_name (h.tables id) (Text.lowercase t) with ⟨hr, hy⟩ | ⟨r, y, hr, hy, hholds⟩
  · rw [hr, hy]
    rfl
  · obtain ⟨key, x, rfl, rfl, hcolumns⟩ := hholds
    let r := (tableRow key id x).select ["id", "name", "created_at", "updated_at"]
    have hkey : r.read Cell.asText 0 = .ok key := Row.read_eq rfl rfl
    have hname : r.read Cell.asText 1 = .ok (Text.lowercase x.table) := Row.read_eq rfl rfl
    have hcreated : r.read Cell.asText 2 = .ok (Stamp.write x.createdAt) := Row.read_eq rfl rfl
    have hupdated : r.read Cell.asText 3 = .ok (Stamp.write x.updatedAt) := Row.read_eq rfl rfl
    rw [hr, hy]
    simp only [Option.elim_some, recalled, Store.stored]
    rw [hkey, ok_bind, hname, ok_bind, hcreated, ok_bind]
    cases parseInstant 2 (Stamp.write x.createdAt) with
    | error e => rfl
    | ok createdAt =>
      rw [ok_bind, hupdated, ok_bind]
      cases parseInstant 3 (Stamp.write x.updatedAt) with
      | error e => rfl
      | ok updatedAt =>
        rw [ok_bind, columnsOf_eq hcolumns]
        rfl

theorem Represents.reads_eq {m' : Ledger} (h : a.Represents m) (h' : b.Represents m')
    (hid : m id = m' id) :
    a.get id = b.get id ∧ ∀ ts, a.snapshots id ts = b.snapshots id ts := by
  have hget : m.get id = m'.get id := by rw [Ledger.get, hid, Ledger.get]
  have hsnapshots : m.snapshotsOf id = m'.snapshotsOf id := by
    rw [Ledger.snapshotsOf, hid, Ledger.snapshotsOf]
  refine ⟨by rw [h.get_eq, h'.get_eq, hget], fun ts => ?_⟩
  have hsnapshot : a.snapshot id = b.snapshot id := by
    funext t
    rw [h.snapshot_eq, h'.snapshot_eq, Ledger.snapshot?, hsnapshots, Ledger.snapshot?]
  rw [Archive.snapshots, hsnapshot, Archive.snapshots]

theorem recalled_eq {y : Snapshot} (h : y.IsProper) : recalled y = .ok y := by
  rw [recalled, parseInstant_write h.createdAt, ok_bind, parseInstant_write h.updatedAt]
  rfl

theorem Represents.get_ok (h : a.Represents m) (hproper : ∀ d, m.get id = some d → d.IsProper) :
    a.get id = .ok (m.get id) := by
  rw [h.get_eq]
  cases hd : m.get id with
  | none => rfl
  | some d => rw [Option.elim_some, reloaded, datasourceOf_row (hproper d hd)]; rfl

theorem Represents.snapshots_ok (h : a.Represents m)
    (hproper : ∀ y ∈ m.snapshotsOf id, y.IsProper) (ts : List String) :
    a.snapshots id ts = .ok (m.snapshots id ts) := by
  have hsnapshot : ∀ t, a.snapshot id t = .ok (m.snapshot? id t) := by
    intro t
    rw [h.snapshot_eq]
    cases hy : m.snapshot? id t with
    | none => rfl
    | some y => rw [Option.elim_some, recalled_eq (hproper y (List.mem_of_find?_eq_some hy))]; rfl
  rw [Archive.snapshots, mapM_eq_map hsnapshot, ok_bind, List.filterMap_map]
  rfl

end Archive

end QueryDesk
