import QueryDesk.Schema.Snapshot
import QueryDesk.Column.Kind

/-!
# Looking up columns

The snapshots that one query concerns, asked for columns by `table.column`. A name is looked up as
it is written and then in lower case; where two columns have the same full name, the later one is
found.
-/

namespace QueryDesk

structure Schema where
  tables : List Snapshot
deriving DecidableEq, Inhabited

structure SchemaColumn where
  column : String
  table : String
  full : String
  declared : String
deriving DecidableEq, Inhabited

namespace Schema

/-- Every column with its full name, table by table. -/
def entries (s : Schema) : List (String × ColumnInfo) :=
  s.tables.flatMap fun t => t.columns.map fun c => ((t.refTo c).key, c)

/-- The last column with exactly this full name. -/
def named? (s : Schema) (full : String) : Option ColumnInfo := s.entries.reverse.lookup full

def lookup? (s : Schema) (full : String) : Option ColumnInfo :=
  (s.named? full).or (s.named? (Text.lowercase full))

def declared? (s : Schema) (full : String) : Option String := (s.lookup? full).map (·.declared)

def isText (s : Schema) (full : String) : Bool := (s.declared? full).any ColumnKind.isText

def tableNames (s : Schema) : List String := s.tables.map (·.table)

def allColumns (s : Schema) : List SchemaColumn :=
  s.tables.flatMap fun t => t.columns.map fun c =>
    { column := c.name, table := t.table, full := (t.refTo c).key, declared := c.declared }

end Schema

end QueryDesk
