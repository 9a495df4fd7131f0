import QueryDesk.Form.Filter
import QueryDesk.Form.Schema
import QueryDesk.Query.Result

/-!
# JSON forms of results
-/

namespace QueryDesk

open Json (Reader Field)

namespace ResultColumn

def reader : Reader ResultColumn :=
  Json.record (named "" "" "") [
    Field.required "column" Reader.text fun s c => { c with column := s },
    Field.defaulted "table" Reader.text fun s c => { c with table := s },
    Field.required "alias" Reader.text fun s c => { c with resultAlias := s },
    Field.required "full" Reader.text fun s c => { c with full := s },
    Field.defaulted "type" (Reader.optional Reader.text) fun s c => { c with declared := s },
    Field.defaulted "fn" (Reader.optional ColumnFunction.reader) fun f c => { c with function := f },
    Field.defaulted "ref" (Reader.optional ColumnRef.reader) fun r c => { c with reference := r },
    Field.defaulted "referenced_by" (Reader.list ColumnRef.reader)
      fun rs c => { c with referencedBy := rs }]

def toJson (c : ResultColumn) : Json :=
  .obj ([("column", .str c.column), ("table", .str c.table), ("alias", .str c.resultAlias),
    ("full", .str c.full)]
    ++ Json.optional "type" .str c.declared
    ++ Json.optional "fn" ColumnFunction.toJson c.function
    ++ Json.optional "ref" ColumnRef.toJson c.reference
    ++ ColumnRef.members "referenced_by" c.referencedBy)

end ResultColumn

def rowsToJson (rows : List (List Json)) : Json := .arr (rows.map .arr)

namespace Outcome

def reader : Reader Outcome :=
  Json.record ⟨[], [], ""⟩ [
    Field.required "columns" (Reader.list ResultColumn.reader) fun cs o => { o with columns := cs },
    Field.required "rows" (Reader.list (Reader.list Reader.json)) fun rs o => { o with rows := rs },
    Field.required "query" Reader.text fun s o => { o with query := s }]

def toJson (o : Outcome) : Json :=
  .obj [("columns", .arr (o.columns.map (·.toJson))), ("rows", rowsToJson o.rows),
    ("query", .str o.query)]

end Outcome

def SelectResult.toJson (r : SelectResult) : Json :=
  .obj [("columns", .arr (r.columns.map (·.toJson))), ("rows", rowsToJson r.rows),
    ("all_columns", .arr (r.allColumns.map (·.toJson))), ("tables", Json.texts r.tables),
    ("query", .str r.query), ("has_more", .bool r.hasMore)]

def EntityResult.toJson (r : EntityResult) : Json :=
  .obj [("entity", .arr r.entity), ("columns", .arr (r.columns.map (·.toJson))),
    ("sql", .str r.sql)]

end QueryDesk
