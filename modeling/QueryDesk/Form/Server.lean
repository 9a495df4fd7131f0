import QueryDesk.Form.Script
import QueryDesk.Scripted.MysqlServer
import QueryDesk.Scripted.PostgresServer

/-!
# JSON forms of scripted servers

Binary values are told by their hexadecimal digits. What is not told of a server is empty.
-/

namespace QueryDesk.Scripted

open Json (Reader Field Doc)

def hexBytes? : List Char → Option (List UInt8)
  | [] => some []
  | [_] => none
  | a :: b :: rest => do
    let high ← Doc.hexValue? a
    let low ← Doc.hexValue? b
    let bytes ← hexBytes? rest
    some (UInt8.ofNat (high * 16 + low) :: bytes)

def hexReader : Reader (List UInt8) := Reader.textAs fun s => hexBytes? s.toList

def messageReader : Reader String :=
  Json.record "" [Field.required "message" Reader.text fun s _ => s]

/-- The members of an object, each with its key. -/
def membersReader {α : Type} (r : Reader α) : Reader (List (String × α))
  | .obj members true => members.mapM fun (k, d) => (r d).map (k, ·)
  | d => .error d.refusal

/-- A member, or what stands for a missing one. -/
def member {α : Type} (d : Doc) (key : String) (r : Reader α) (missing : α) :
    Except Json.Fault α :=
  match d.get? key with
  | none => .ok missing
  | some v => (r.optional v).map (·.getD missing)

def refusalMember (d : Doc) (key : String) : Except Json.Fault (Option String) :=
  member d key (Reader.optional messageReader) none

namespace PostgresServer

def columnReader : Reader Postgres.Column :=
  Json.record ⟨"", .unknown, 0, 0⟩ [
    Field.required "name" Reader.text fun s c => { c with name := s },
    Field.required "type" Reader.text
      fun s c => { c with type := Postgres.CellType.ofName s },
    Field.defaulted "oid" Reader.nat64 fun n c => { c with table := n },
    Field.defaulted "attnum" Reader.int fun n c => { c with number := n }]

def replyReader : Reader PostgresReply := fun d => do
  let rows ← member d "rows" (Reader.list (Reader.list (Reader.optional hexReader))) []
  pure {
    columns := ← member d "columns" (Reader.list columnReader) []
    rows
    tag := ← member d "tag" Reader.text ("SELECT " ++ toString rows.length)
    refusedAtPrepare := ← refusalMember d "error"
    refusedAtExecution := ← refusalMember d "execute_error"
    hangsUp := ← member d "hangup" Reader.bool false }

/-- How a login is answered: a password may be wanted, or nobody is let in. -/
def greetingReader : Reader (Except Postgres.Fault Postgres.Greeting)
  | .str "password" => .ok (.ok .passwordWanted)
  | d => do
    match ← refusalMember d "error" with
    | some message => pure (.error (.refused message))
    | none => pure (.ok .welcome)

def reader : Reader PostgresServer := fun d => do
  pure {
    reachable := true
    greeting := ← member d "auth" greetingReader (.ok .welcome)
    replies := ← member d "replies" (Reader.list replyReader) []
    catalog := ← member d "catalog" Catalog.reader Catalog.empty
    sources := ← member d "attributes" (membersReader pairReader) []
    refusals := ← member d "statements" (membersReader messageReader) []
    prepared := .texts []
    wanted := 0
    lost := false
    log := [] }

/-- Nobody is there. -/
def absent : PostgresServer :=
  { reachable := false, greeting := .ok .welcome, replies := [], catalog := Catalog.empty
    sources := [], refusals := [], prepared := .texts [], wanted := 0, lost := false, log := [] }

end PostgresServer

namespace MysqlServer

structure TypedColumn where
  column : Mysql.Column
  type : String

def columnReader : Reader TypedColumn :=
  Json.record ⟨⟨"", "", ""⟩, ""⟩ [
    Field.required "name" Reader.text fun s c => { c with column := { c.column with name := s } },
    Field.defaulted "org_name" Reader.text
      fun s c => { c with column := { c.column with originName := s } },
    Field.defaulted "org_table" Reader.text
      fun s c => { c with column := { c.column with originTable := s } },
    Field.required "type" Reader.text fun s c => { c with type := s }]

/-- A sign: a truth value, or a number that is zero or not. -/
def signReader : Reader Bool
  | .bool b => .ok b
  | d => (Reader.int d).map (· != 0)

def cellReader (type : String) : Reader Mysql.Cell
  | .null => .ok .null
  | d =>
    match type with
    | "int" | "uint" => (Reader.int d).map .int
    | "float" => do
      let bs ← hexReader d
      pure (.float (Binary64.ofBits32 (UInt32.ofNat (Number.bigEndian bs))))
    | "double" => do
      let bs ← hexReader d
      pure (.float ⟨UInt64.ofNat (Number.bigEndian bs)⟩)
    | "text" => (Reader.text d).map cellOf
    | "blob" => (hexReader d).map .bytes
    | "date" | "datetime" => do
      match ← Reader.list Reader.nat64 d with
      | [y, m, day, h, min, s, us] => pure (.moment ⟨y, m, day, h, min, s, us⟩)
      | _ => .error .mismatch
    | "time" =>
      match d with
      | .arr (sign :: rest) true => do
        match ← rest.mapM Reader.nat64 with
        | [days, h, m, s, us] => pure (.span ⟨← signReader sign, days, h, m, s, us⟩)
        | _ => .error .mismatch
      | _ => .error .mismatch
    | _ => .error .mismatch

def rowReader (columns : List TypedColumn) : Reader (List Mysql.Cell)
  | .arr items true => (columns.zip items).mapM fun (c, d) => cellReader c.type d
  | d => .error d.refusal

def replyReader : Reader MysqlReply := fun d => do
  let columns ← member d "columns" (Reader.list columnReader) []
  pure {
    columns := columns.map (·.column)
    rows := ← member d "rows" (Reader.list (rowReader columns)) []
    affected := ← member d "affected" Reader.nat64 0
    refusedAtPrepare := ← refusalMember d "error"
    refusedAtExecution := ← refusalMember d "execute_error"
    hangsUp := ← member d "hangup" Reader.bool false }

def welcomeReader : Reader (Except Mysql.Fault Unit) := fun d => do
  match ← refusalMember d "error" with
  | some message => pure (.error (.refused message))
  | none => pure (.ok ())

def reader : Reader MysqlServer := fun d => do
  pure {
    reachable := true
    welcome := ← member d "auth" welcomeReader (.ok ())
    replies := ← member d "replies" (Reader.list replyReader) []
    catalog := ← member d "catalog" Catalog.reader Catalog.empty
    refusals := ← member d "statements" (membersReader messageReader) []
    prepared := []
    lost := false
    log := [] }

/-- Nobody is there. -/
def absent : MysqlServer :=
  { reachable := false, welcome := .ok (), replies := [], catalog := Catalog.empty, refusals := []
    prepared := [], lost := false, log := [] }

end MysqlServer

end QueryDesk.Scripted
