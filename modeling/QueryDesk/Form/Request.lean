import QueryDesk.Form.Filter
import QueryDesk.Query.Request

/-!
# JSON forms of requests
-/

namespace QueryDesk

open Json (Reader Field)

def JoinKind.reader : Reader JoinKind := Reader.name JoinKind.ofName?

namespace Join

def reader : Reader Join :=
  Json.record ⟨"", none, .left, ""⟩ [
    Field.required "table" Reader.text fun s j => { j with table := s },
    Field.defaulted "alias" (Reader.optional Reader.text) fun s j => { j with aliasName := s },
    Field.defaulted "type" JoinKind.reader fun k j => { j with kind := k },
    Field.required "on" Reader.text fun s j => { j with on := s }]

def toJson (j : Join) : Json :=
  .obj ([("table", .str j.table)] ++ Json.optional "alias" .str j.aliasName
    ++ [("type", .str j.kind.name), ("on", .str j.on)])

end Join

def Direction.reader : Reader Direction := Reader.name Direction.ofName?

namespace OrderBy

def reader : Reader OrderBy :=
  Json.record ⟨"", .asc⟩ [
    Field.required "column" Reader.text fun s o => { o with column := s },
    Field.defaulted "direction" Direction.reader fun d o => { o with direction := d }]

def toJson (o : OrderBy) : Json :=
  .obj [("column", .str o.column), ("direction", .str o.direction.name)]

end OrderBy

namespace ClientFilter

def reader : Reader ClientFilter :=
  Json.record ⟨"", "", "", true, false, none⟩ [
    Field.defaulted "id" Reader.text fun s f => { f with id := s },
    Field.required "column" Reader.text fun s f => { f with column := s },
    Field.defaulted "value" Reader.text fun s f => { f with value := s },
    Field.defaulted "is_enabled" Reader.bool fun b f => { f with enabled := b },
    Field.defaulted "is_advanced" Reader.bool fun b f => { f with advanced := b },
    Field.defaulted "fn" (Reader.optional ColumnFunction.reader) fun g f => { f with function := g }]

def toJson (f : ClientFilter) : Json :=
  .obj ([("id", .str f.id), ("column", .str f.column), ("value", .str f.value),
    ("is_enabled", .bool f.enabled), ("is_advanced", .bool f.advanced)]
    ++ Json.optional "fn" ColumnFunction.toJson f.function)

end ClientFilter

namespace QueryOptions

def reader : Reader QueryOptions :=
  Json.record ⟨"", [], [], [], [], [], [], none⟩ [
    Field.defaulted "table" Reader.text fun s o => { o with table := s },
    Field.defaulted "columns" (Reader.list SelectedColumn.reader)
      fun cs o => { o with columns := cs },
    Field.defaulted "joins" (Reader.list Join.reader) fun js o => { o with joins := js },
    Field.defaulted "filters" (Reader.list ClientFilter.reader)
      fun fs o => { o with filters := fs },
    Field.defaulted "order_by" (Reader.list OrderBy.reader) fun os o => { o with orderBy := os },
    Field.defaulted "group_by" (Reader.list SelectedColumn.reader)
      fun cs o => { o with groupBy := cs },
    Field.defaulted "aggregations" (Reader.list SelectedColumn.reader)
      fun cs o => { o with aggregations := cs },
    Field.defaulted "search_all" (Reader.optional Reader.text)
      fun s o => { o with searchAll := s }]

def toJson (o : QueryOptions) : Json :=
  .obj ([("table", .str o.table), ("columns", .arr (o.columns.map (·.toJson))),
    ("joins", .arr (o.joins.map (·.toJson))), ("filters", .arr (o.filters.map (·.toJson))),
    ("order_by", .arr (o.orderBy.map (·.toJson))), ("group_by", .arr (o.groupBy.map (·.toJson))),
    ("aggregations", .arr (o.aggregations.map (·.toJson)))]
    ++ Json.optional "search_all" .str o.searchAll)

end QueryOptions

def SelectRequest.reader : Reader SelectRequest :=
  Json.record ⟨"", ⟨"", [], [], [], [], [], [], none⟩, 0, none⟩ [
    Field.defaulted "datasource_id" Reader.text fun s r => { r with datasource := s },
    Field.required "opts" QueryOptions.reader fun o r => { r with options := o },
    Field.defaulted "page" Reader.nat64 fun n r => { r with page := n },
    Field.defaulted "size" (Reader.optional Reader.nat64) fun n r => { r with size := n }]

def InsertRequest.reader : Reader InsertRequest :=
  Json.record ⟨"", "", []⟩ [
    Field.defaulted "datasource_id" Reader.text fun s r => { r with datasource := s },
    Field.required "table" Reader.text fun s r => { r with table := s },
    Field.required "values" (Reader.list Assignment.reader) fun vs r => { r with values := vs }]

def UpdateRequest.reader : Reader UpdateRequest :=
  Json.record ⟨"", "", [], [], false⟩ [
    Field.defaulted "datasource_id" Reader.text fun s r => { r with datasource := s },
    Field.required "table" Reader.text fun s r => { r with table := s },
    Field.required "values" (Reader.list Assignment.reader) fun vs r => { r with values := vs },
    Field.defaulted "filters" (Reader.list Filter.reader) fun fs r => { r with filters := fs },
    Field.defaulted "allow_bulk_update" Reader.bool fun b r => { r with allowBulk := b }]

/-- Pairs in the order of their keys, the last of equal keys alone. -/
def EntityRequest.sorted (props : List (String × Value)) : List (String × Value) :=
  let last := props.foldr (fun p kept => if kept.any (·.1 == p.1) then kept else p :: kept) []
  last.mergeSort fun a b => decide (a.1 ≤ b.1)

def EntityRequest.propsReader : Reader (List (String × Value))
  | .obj members closed => do
    let props ← members.mapM fun (k, d) => (Value.reader d).map (k, ·)
    if closed then pure (sorted props) else .error .brokenText
  | d => .error d.refusal

def EntityRequest.reader : Reader EntityRequest :=
  Json.record ⟨"", "", []⟩ [
    Field.defaulted "datasource_id" Reader.text fun s r => { r with datasource := s },
    Field.required "table" Reader.text fun s r => { r with table := s },
    Field.required "props" propsReader fun ps r => { r with props := ps }]

end QueryDesk
