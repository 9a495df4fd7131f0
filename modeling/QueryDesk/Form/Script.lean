import QueryDesk.Form.Filter
import QueryDesk.Schema.Catalog
import QueryDesk.Scripted.World

/-!
# JSON forms of scripts

How the behaviour of a scripted world is told: null for a call that works, the text `hang` for one
that never ends, and an object with an error code for one that fails.
-/

namespace QueryDesk

open Json (Reader Field Doc)

def pairReader : Reader (String × String) := fun d => do
  match ← Reader.list Reader.text d with
  | [a, b] => pure (a, b)
  | _ => .error .mismatch

namespace Catalog

def columnReader : Reader CatalogColumn := fun d => do
  match ← Reader.list Reader.text d with
  | [table, name, declared] => pure ⟨table, name, declared⟩
  | _ => .error .mismatch

def referenceReader : Reader CatalogReference := fun d => do
  match ← Reader.list Reader.text d with
  | [table, column, targetTable, targetColumn] => pure ⟨table, column, targetTable, targetColumn⟩
  | _ => .error .mismatch

def reader : Reader Catalog :=
  Json.record ⟨[], [], [], []⟩ [
    Field.required "tables" (Reader.list Reader.text) fun ts c => { c with tables := ts },
    Field.required "columns" (Reader.list columnReader) fun cs c => { c with columns := cs },
    Field.required "primary_keys" (Reader.list pairReader) fun ks c => { c with primaryKeys := ks },
    Field.required "references" (Reader.list referenceReader)
      fun rs c => { c with references := rs }]

end Catalog

namespace Scripted

def Behaviour.failureReader : Reader Failure :=
  Json.record ⟨.internal, ""⟩ [
    Field.required "error" Reader.text fun s f => { f with kind := FailureKind.ofCode s },
    Field.defaulted "message" Reader.text fun s f => { f with message := s }]

def Behaviour.reader : Reader Behaviour
  | .null => .ok .works
  | .str s => if s == "hang" then .ok .hangs else .error .mismatch
  | d => (failureReader d).map .fails

def Behaviour.bringing {α : Type} (nothing : α) (r : Reader α) : Reader (Behaviour × α) := fun d =>
  match d with
  | .obj members _ =>
    if members.any (·.1 == "error") then (reader d).map (·, nothing)
    else (r d).map (.works, ·)
  | d => (reader d).map (·, nothing)

def columnReader : Reader ResultColumn := fun d => do
  match ← Reader.list Reader.text d with
  | [column, table, resultAlias] => pure (.named column table resultAlias)
  | _ => .error .mismatch

def outcomeReader : Reader Outcome :=
  Json.record ⟨[], [], ""⟩ [
    Field.defaulted "columns" (Reader.list columnReader) fun cs o => { o with columns := cs },
    Field.defaulted "rows" (Reader.list (Reader.list Reader.json)) fun rs o => { o with rows := rs }]

def affectedReader : Reader Nat :=
  Json.record 1 [Field.defaulted "affected" Reader.nat64 fun n _ => n]

def Script.reader : Reader Script :=
  Json.record Script.plain [
    Field.defaulted "begin" Behaviour.reader fun b s => { s with opening := b },
    Field.defaulted "fetch" (Behaviour.bringing ⟨[], [], ""⟩ outcomeReader)
      fun (b, o) s => { s with fetch := b, fetched := o },
    Field.defaulted "mutate" (Behaviour.bringing 1 affectedReader)
      fun (b, n) s => { s with mutate := b, affected := n },
    Field.defaulted "commit" Behaviour.reader fun b s => { s with commit := b },
    Field.defaulted "rollback" Behaviour.reader fun b s => { s with rollback := b }]

/-- New settings of a world; what is not named stays as it is, and scripts wait behind those that
wait already. -/
def World.settingsReader (w : World) : Reader World :=
  Json.record w [
    Field.defaulted "connect" Behaviour.reader fun b w => { w with connect := b },
    Field.defaulted "check" Behaviour.reader fun b w => { w with check := b },
    Field.defaulted "close" Behaviour.reader fun b w => { w with close := b },
    Field.defaulted "inspect" Behaviour.reader fun b w => { w with inspect := b },
    Field.defaulted "catalog" Catalog.reader fun c w => { w with catalog := c },
    Field.defaulted "scripts" (Reader.list Script.reader)
      fun ss w => { w with scripts := w.scripts ++ ss },
    Field.defaulted "timeout" Reader.nat64 fun n w => { w with timeout := n },
    Field.defaulted "gate" Reader.bool fun b w => w.setGate b,
    Field.defaulted "release" Reader.nat64 fun _ w => w.release]

end Scripted

end QueryDesk
