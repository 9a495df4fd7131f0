import QueryDesk.Json.Record
import QueryDesk.Schema.Index

/-!
# JSON forms of snapshots
-/

namespace QueryDesk

open Json (Reader Field)

def Instant.reader : Reader Instant := Reader.textAs Instant.ofText?

def Instant.toJson (t : Instant) : Json := .str t.text

namespace ColumnRef

def reader : Reader ColumnRef :=
  Json.record ⟨"", ""⟩ [
    Field.required "table" Reader.text fun s r => { r with table := s },
    Field.required "field" Reader.text fun s r => { r with field := s }]

def toJson (r : ColumnRef) : Json := .obj [("table", .str r.table), ("field", .str r.field)]

/-- The member of a list of columns, left out when there are none. -/
def members (name : String) (rs : List ColumnRef) : List (String × Json) :=
  if rs.isEmpty then [] else [(name, .arr (rs.map (·.toJson)))]

end ColumnRef

namespace ColumnInfo

def reader : Reader ColumnInfo :=
  Json.record ⟨"", "", false, none, []⟩ [
    Field.required "name" Reader.text fun s c => { c with name := s },
    Field.required "type" Reader.text fun s c => { c with declared := s },
    Field.defaulted "is_primary" Reader.bool fun b c => { c with isPrimary := b },
    Field.defaulted "ref" (Reader.optional ColumnRef.reader) fun r c => { c with reference := r },
    Field.defaulted "referenced_by" (Reader.list ColumnRef.reader)
      fun rs c => { c with referencedBy := rs }]

def toJson (c : ColumnInfo) : Json :=
  .obj ([("name", .str c.name), ("type", .str c.declared), ("is_primary", .bool c.isPrimary)]
    ++ Json.optional "ref" ColumnRef.toJson c.reference
    ++ ColumnRef.members "referenced_by" c.referencedBy)

end ColumnInfo

namespace Snapshot

/-- A snapshot; one without instants was taken at `taken`. -/
def reader (taken : Instant) : Reader Snapshot :=
  Json.record ⟨"", [], taken, taken⟩ [
    Field.required "table_name" Reader.text fun s x => { x with table := s },
    Field.required "columns" (Reader.list ColumnInfo.reader) fun cs x => { x with columns := cs },
    Field.nullable "created_at" Instant.reader fun t x => { x with createdAt := t.getD taken },
    Field.nullable "updated_at" Instant.reader fun t x => { x with updatedAt := t.getD taken }]

def members (x : Snapshot) : List (String × Json) :=
  [("table_name", .str x.table), ("columns", .arr (x.columns.map (·.toJson)))]

def toJson (x : Snapshot) : Json :=
  .obj (x.members ++ [("created_at", x.createdAt.toJson), ("updated_at", x.updatedAt.toJson)])

end Snapshot

def SchemaColumn.toJson (c : SchemaColumn) : Json :=
  .obj [("column", .str c.column), ("table", .str c.table), ("full", .str c.full),
    ("type", .str c.declared)]

end QueryDesk
