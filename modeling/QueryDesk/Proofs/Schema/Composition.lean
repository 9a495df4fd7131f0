import Mathlib.Data.List.Forall2
import QueryDesk.Proofs.Text.Utf8
import QueryDesk.Schema.Catalog

/-!
# What snapshots are composed of

A catalog lists the columns of all its tables in one list. Its snapshots are those rows put in order
again, table by table: no row of a table is lost and none is made up, the columns of the primary key
come first and in the order of their names, and the others follow in the order of the catalog.

Main statement: `Catalog.compose_rearranges`.
-/

namespace QueryDesk

/-- What the catalog says of a column but its table. -/
def CatalogColumn.row (col : CatalogColumn) : String × String := (col.name, col.declared)

/-- The same of a column in a snapshot. -/
def ColumnInfo.row (i : ColumnInfo) : String × String := (i.name, i.declared)

namespace CatalogReference

/-- Leads from a column of a table given in lower case. -/
def leadsFrom (r : CatalogReference) (table column : String) : Bool :=
  Text.lowercase r.table == table && r.column == column

/-- The column that it leads to, the table in lower case. -/
def target (r : CatalogReference) : ColumnRef := ⟨Text.lowercase r.targetTable, r.targetColumn⟩

end CatalogReference

namespace Catalog

/-- The rows of the columns of a table given in lower case. -/
def rowsOf (c : Catalog) (table : String) : List CatalogColumn :=
  c.columns.filter fun col => Text.lowercase col.table == table

/-- Some row of the primary keys tells of the column. -/
def ListsKey (c : Catalog) (table column : String) : Prop :=
  ∃ key ∈ c.primaryKeys, Text.lowercase key.1 = table ∧ key.2 = column

instance (c : Catalog) (table column : String) : Decidable (c.ListsKey table column) :=
  inferInstanceAs (Decidable (∃ key ∈ c.primaryKeys, _))

/-- The last reference that leads from a column of a table given in lower case. -/
def lastReference? (c : Catalog) (table column : String) : Option CatalogReference :=
  (c.references.filter (·.leadsFrom table column)).getLast?

variable {c : Catalog} {table column name : String}

theorem isPrimary_eq_decide (c : Catalog) (table column : String) :
    c.isPrimary table column = decide (c.ListsKey table column) := by
  rw [Bool.eq_iff_iff, decide_eq_true_iff]
  simp [isPrimary, ListsKey]

theorem target?_eq (c : Catalog) (table column : String) :
    c.target? table column = (c.lastReference? table column).map (·.target) := by
  rw [target?, lastReference?, ← List.head?_reverse, ← List.filter_reverse, List.head?_filter]
  rfl

/-! ### The columns of one table -/

/-- A row with what the rest of the catalog tells of it. -/
def info (c : Catalog) (table : String) (col : CatalogColumn) : ColumnInfo :=
  { name := col.name, declared := col.declared, isPrimary := c.isPrimary table col.name,
    reference := c.target? table col.name, referencedBy := [] }

theorem columnsOf_eq_map (c : Catalog) (table : String) :
    c.columnsOf table = (c.rowsOf table).map (c.info table) := rfl

theorem map_row_filter_columnsOf (c : Catalog) (table : String) (p : String → Bool → Bool) :
    ((c.columnsOf table).filter fun i => p i.name i.isPrimary).map (·.row) =
      ((c.rowsOf table).filter fun col => p col.name (c.ListsKey table col.name)).map (·.row) := by
  rw [columnsOf_eq_map, List.filter_map, List.map_map]
  simp only [Function.comp_def, info, isPrimary_eq_decide]
  rfl

/-! ### Sorting the key -/

abbrev byName (a b : ColumnInfo) : Bool := decide (a.name ≤ b.name)

theorem byName_trans (a b d : ColumnInfo) (hab : byName a b = true) (hbd : byName b d = true) :
    byName a d = true := by
  simp only [byName, decide_eq_true_eq] at *
  exact String.le_trans hab hbd

theorem byName_total (a b : ColumnInfo) : (byName a b || byName b a) = true := by
  simp only [byName, Bool.or_eq_true, decide_eq_true_eq]
  exact String.le_total _ _

theorem pairwise_inByteOrder (l : List ColumnInfo) :
    (l.mergeSort byName).Pairwise fun a b => Text.InByteOrder a.name b.name := by
  refine (List.pairwise_mergeSort byName_trans byName_total l).imp fun h => ?_
  rw [Text.inByteOrder_iff]
  exact of_decide_eq_true h

theorem filter_mergeSort (l : List ColumnInfo) (name : String) :
    (l.mergeSort byName).filter (·.name == name) = l.filter (·.name == name) := by
  have halike : (l.filter (·.name == name)).Pairwise fun a b => byName a b = true := by
    refine List.pairwise_of_forall_mem_list fun a ha b hb => ?_
    simp only [List.mem_filter, beq_iff_eq] at ha hb
    have hname : a.name = b.name := ha.2.trans hb.2.symm
    exact decide_eq_true (hname ▸ String.le_refl a.name)
  have hsub := List.sublist_mergeSort byName_trans byName_total halike List.filter_sublist
  have hfilter := hsub.filter (·.name == name)
  rw [List.filter_filter] at hfilter
  simp only [Bool.and_self] at hfilter
  exact (hfilter.eq_of_length ((List.mergeSort_perm l byName).filter _).length_eq.symm).symm

/-! ### Snapshots -/

/-- What the snapshot of a table holds of the catalog: the columns `keys`, then the columns `others`.
The columns of the key are sorted by the bytes of their names, and where names are equal they stay in
the order of the catalog. -/
structure Composed (c : Catalog) (name : String) (s : Snapshot) (keys others : List ColumnInfo) :
    Prop where
  table : s.table = Text.lowercase name
  columns : s.columns = keys ++ others
  rows : (s.columns.map (·.row)).Perm ((c.rowsOf s.table).map (·.row))
  rows_keys : (keys.map (·.row)).Perm
    (((c.rowsOf s.table).filter fun col => c.ListsKey s.table col.name).map (·.row))
  sorted : keys.Pairwise fun a b => Text.InByteOrder a.name b.name
  stable : ∀ n, (keys.filter (·.name == n)).map (·.row) =
    ((c.rowsOf s.table).filter fun col => col.name == n && c.ListsKey s.table col.name).map (·.row)
  rows_others : others.map (·.row) =
    ((c.rowsOf s.table).filter fun col => !c.ListsKey s.table col.name).map (·.row)
  isPrimary : (∀ i ∈ keys, i.isPrimary = true) ∧ ∀ i ∈ others, i.isPrimary = false
  reference : ∀ i ∈ s.columns,
    i.reference = (c.lastReference? s.table i.name).map (·.target)

def snapshotOf (c : Catalog) (now : Instant) (name : String) : Snapshot :=
  { table := Text.lowercase name, columns := keysFirst (c.columnsOf (Text.lowercase name)),
    createdAt := now, updatedAt := now }

theorem compose_eq_map (c : Catalog) (now : Instant) :
    c.compose now = c.tables.map (c.snapshotOf now) := rfl

theorem keysFirst_perm (l : List ColumnInfo) : (keysFirst l).Perm l :=
  ((List.mergeSort_perm _ _).append_right _).trans (List.filter_append_perm (·.isPrimary) l)

theorem composed_snapshotOf (c : Catalog) (now : Instant) (name : String) :
    c.Composed name (c.snapshotOf now name)
      (((c.columnsOf (Text.lowercase name)).filter (·.isPrimary)).mergeSort byName)
      ((c.columnsOf (Text.lowercase name)).filter (!·.isPrimary)) where
  table := rfl
  columns := rfl
  rows := by
    have h := (keysFirst_perm (c.columnsOf (Text.lowercase name))).map (·.row)
    rw [columnsOf_eq_map, List.map_map] at h
    exact h
  rows_keys := by
    have h := ((c.columnsOf (Text.lowercase name)).filter (·.isPrimary)).mergeSort_perm byName
    have hmap := h.map (·.row)
    rw [c.map_row_filter_columnsOf _ fun _ b => b] at hmap
    exact hmap
  sorted := pairwise_inByteOrder _
  stable n := by
    rw [filter_mergeSort, List.filter_filter]
    exact c.map_row_filter_columnsOf _ fun m b => m == n && b
  rows_others := c.map_row_filter_columnsOf _ fun _ b => !b
  isPrimary := by
    refine ⟨fun i hi => ?_, fun i hi => ?_⟩
    · exact (List.mem_filter.1 (List.mem_mergeSort.1 hi)).2
    · simpa using (List.mem_filter.1 hi).2
  reference i hi := by
    have hmem : i ∈ c.columnsOf (Text.lowercase name) := (keysFirst_perm _).mem_iff.1 hi
    obtain ⟨col, -, rfl⟩ := List.mem_map.1 hmem
    exact c.target?_eq _ col.name

/-- A catalog is composed into one snapshot for each of its tables, in their order. Each holds the
columns that the catalog lists for the table, with multiplicity and no others: those of the primary
key first and in the order of their names, then the rest in the order of the catalog; and a column
references what the last of its references leads to. -/
theorem compose_rearranges (c : Catalog) (now : Instant) :
    List.Forall₂ (fun name s => ∃ keys others, c.Composed name s keys others)
      c.tables (c.compose now) := by
  rw [compose_eq_map, List.forall₂_map_right_iff, List.forall₂_same]
  exact fun name _ => ⟨_, _, c.composed_snapshotOf now name⟩

end Catalog

end QueryDesk
