import QueryDesk.Time.Instant

/-!
# Snapshots

What an inspection has found out about one table: its columns with their types, keys and
references, in the order in which they are shown.
-/

namespace QueryDesk

structure ColumnRef where
  table : String
  field : String
deriving DecidableEq, Inhabited

def ColumnRef.key (r : ColumnRef) : String := r.table ++ "." ++ r.field

theorem ColumnRef.toList_key (r : ColumnRef) :
    r.key.toList = r.table.toList ++ '.' :: r.field.toList := by
  simp [key]

/-- A column of an inspected table, with the column it references and those that reference it. -/
structure ColumnInfo where
  name : String
  declared : String
  isPrimary : Bool
  reference : Option ColumnRef
  referencedBy : List ColumnRef
deriving DecidableEq, Inhabited

structure Snapshot where
  table : String
  columns : List ColumnInfo
  createdAt : Instant
  updatedAt : Instant
deriving DecidableEq, Inhabited

namespace Snapshot

def column? (s : Snapshot) (name : String) : Option ColumnInfo :=
  s.columns.find? (·.name == name)

/-- The reference to a column of this table. -/
def refTo (s : Snapshot) (c : ColumnInfo) : ColumnRef := ⟨s.table, c.name⟩

end Snapshot

end QueryDesk
