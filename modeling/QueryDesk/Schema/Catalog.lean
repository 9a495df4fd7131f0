import QueryDesk.Schema.Snapshot
import QueryDesk.Text.Case

/-!
# Catalogs

What a database tells about its tables, and the snapshots made of it. Table names are compared in
lower case, column names as they are. References are attached at both ends: each column knows the
column it references, and in a second pass the columns that reference it.
-/

namespace QueryDesk

structure CatalogColumn where
  table : String
  name : String
  declared : String
deriving DecidableEq, Inhabited

structure CatalogReference where
  table : String
  column : String
  targetTable : String
  targetColumn : String
deriving DecidableEq, Inhabited

structure Catalog where
  tables : List String
  columns : List CatalogColumn
  primaryKeys : List (String × String)
  references : List CatalogReference
deriving DecidableEq, Inhabited

namespace Catalog

def empty : Catalog := ⟨[], [], [], []⟩

/-- The catalog that the rows of four queries tell: for its tables, primary keys, references and
columns. Tables are known by their names in lower case; a row of another length tells nothing. -/
def ofRows (tables keys references columns : List (List String)) : Catalog :=
  { tables := tables.filterMap fun
      | [table] => some (Text.lowercase table)
      | _ => none
    columns := columns.filterMap fun
      | [table, name, declared] => some ⟨table, name, declared⟩
      | _ => none
    primaryKeys := keys.filterMap fun
      | [table, column] => some (table, column)
      | _ => none
    references := references.filterMap fun
      | [table, column, targetTable, targetColumn] =>
        some ⟨table, column, targetTable, targetColumn⟩
      | _ => none }

/-- Belongs to the primary key of a table given in lower case. -/
def isPrimary (c : Catalog) (table column : String) : Bool :=
  c.primaryKeys.any fun (t, n) => Text.lowercase t == table && n == column

/-- The target of a column of a table given in lower case; of several the last one counts. -/
def target? (c : Catalog) (table column : String) : Option ColumnRef :=
  (c.references.reverse.find? fun r => Text.lowercase r.table == table && r.column == column).map
    fun r => ⟨Text.lowercase r.targetTable, r.targetColumn⟩

/-- The columns of a table given in lower case, in the order of the catalog. -/
def columnsOf (c : Catalog) (table : String) : List ColumnInfo :=
  (c.columns.filter fun col => Text.lowercase col.table == table).map fun col =>
    { name := col.name
      declared := col.declared
      isPrimary := c.isPrimary table col.name
      reference := c.target? table col.name
      referencedBy := [] }

/-- Keys first, by name; then the other columns as they come. -/
def keysFirst (columns : List ColumnInfo) : List ColumnInfo :=
  (columns.filter (·.isPrimary)).mergeSort (fun a b => decide (a.name ≤ b.name))
    ++ columns.filter (!·.isPrimary)

/-- One snapshot for each table. -/
def compose (c : Catalog) (now : Instant) : List Snapshot :=
  c.tables.map fun name =>
    let table := Text.lowercase name
    { table, columns := keysFirst (c.columnsOf table), createdAt := now, updatedAt := now }

end Catalog

/-- A list of columns under each key, the keys in the order in which they came up. -/
abbrev References := List (String × List ColumnRef)

namespace References

/-- The columns under a key. -/
def under (m : References) (key : String) : List ColumnRef := (m.lookup key).getD []

/-- Adds a column at the end of a key's list. -/
def add (key : String) (r : ColumnRef) : References → References
  | [] => [(key, [r])]
  | (k, rs) :: rest => if k = key then (k, rs ++ [r]) :: rest else (k, rs) :: add key r rest

/-- The references of some tables: target and origin of each, in their order. -/
def edges (ss : List Snapshot) : List (ColumnRef × ColumnRef) :=
  ss.flatMap fun s => s.columns.filterMap fun c => c.reference.map (·, s.refTo c)

/-- The columns that reference others, under the names of those. -/
def ofSnapshots (ss : List Snapshot) : References :=
  (edges ss).foldl (fun m (target, origin) => add target.key origin m) []

def attach (m : References) (ss : List Snapshot) : List Snapshot :=
  ss.map fun s => { s with
    columns := s.columns.map fun c => { c with referencedBy := m.under (s.refTo c).key } }

end References

/-- The snapshots of a catalog, references attached at both ends. -/
def Catalog.snapshots (c : Catalog) (now : Instant) : List Snapshot :=
  let composed := c.compose now
  (References.ofSnapshots composed).attach composed

end QueryDesk
