import QueryDesk.Datasource
import QueryDesk.Form.Filter
import QueryDesk.Form.Schema

/-!
# JSON forms of datasources

The password of a datasource is read and never written.
-/

namespace QueryDesk

open Json (Reader Field)

def InspectionStatus.reader : Reader InspectionStatus := Reader.name InspectionStatus.ofName?

namespace Datasource

def blank : Datasource :=
  { id := "", name := "", dialect := .mysql, url := "", port := none, user := "", password := none
    database := "", schema := none, allowInsert := false, allowUpdate := false, status := .ready
    createdAt := ⟨0, 0⟩, lastInspected := none }

def reader : Reader Datasource :=
  Json.record blank [
    Field.required "id" Reader.text fun s d => { d with id := s },
    Field.required "name" Reader.text fun s d => { d with name := s },
    Field.required "dialect" Dialect.reader fun x d => { d with dialect := x },
    Field.required "url" Reader.text fun s d => { d with url := s },
    Field.nullable "port" Reader.nat16 fun n d => { d with port := n },
    Field.required "user" Reader.text fun s d => { d with user := s },
    Field.nullable "password" Reader.text fun s d => { d with password := s },
    Field.required "database" Reader.text fun s d => { d with database := s },
    Field.nullable "schema" Reader.text fun s d => { d with schema := s },
    Field.required "allow_insert" Reader.bool fun b d => { d with allowInsert := b },
    Field.required "allow_update" Reader.bool fun b d => { d with allowUpdate := b },
    Field.required "status" InspectionStatus.reader fun x d => { d with status := x },
    Field.required "created_at" Instant.reader fun t d => { d with createdAt := t },
    Field.nullable "last_inspected" Instant.reader fun t d => { d with lastInspected := t }]

def members (d : Datasource) : List (String × Json) :=
  [("id", .str d.id), ("name", .str d.name), ("dialect", .str d.dialect.name), ("url", .str d.url),
    ("port", Json.ofOption (fun n => .int n) d.port), ("user", .str d.user),
    ("database", .str d.database), ("schema", Json.ofOption .str d.schema),
    ("allow_insert", .bool d.allowInsert), ("allow_update", .bool d.allowUpdate),
    ("status", .str d.status.name), ("created_at", d.createdAt.toJson),
    ("last_inspected", Json.ofOption Instant.toJson d.lastInspected)]

def toJson (d : Datasource) : Json := .obj d.members

end Datasource

def Registration.reader : Reader Registration :=
  Json.record ⟨"", .mysql, "", none, "", none, "", none, false, false⟩ [
    Field.required "name" Reader.text fun s r => { r with name := s },
    Field.required "dialect" Dialect.reader fun x r => { r with dialect := x },
    Field.required "url" Reader.text fun s r => { r with url := s },
    Field.defaulted "port" (Reader.optional Reader.nat16) fun n r => { r with port := n },
    Field.required "user" Reader.text fun s r => { r with user := s },
    Field.defaulted "password" (Reader.optional Reader.text) fun s r => { r with password := s },
    Field.required "database" Reader.text fun s r => { r with database := s },
    Field.defaulted "schema" (Reader.optional Reader.text) fun s r => { r with schema := s },
    Field.defaulted "allow_insert" Reader.bool fun b r => { r with allowInsert := b },
    Field.defaulted "allow_update" Reader.bool fun b r => { r with allowUpdate := b }]

def ConnectionConfig.reader : Reader ConnectionConfig :=
  Json.record ⟨"", none, "", none, "", none⟩ [
    Field.required "url" Reader.text fun s c => { c with url := s },
    Field.nullable "port" Reader.nat16 fun n c => { c with givenPort := n },
    Field.required "user" Reader.text fun s c => { c with user := s },
    Field.nullable "password" Reader.text fun s c => { c with password := s },
    Field.required "database" Reader.text fun s c => { c with database := s },
    Field.nullable "schema" Reader.text fun s c => { c with givenSchema := s }]

end QueryDesk
