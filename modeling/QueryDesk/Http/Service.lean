import QueryDesk.Desk.Inspection
import QueryDesk.Form.Datasource
import QueryDesk.Form.Failure
import QueryDesk.Form.Request
import QueryDesk.Form.Result
import QueryDesk.Http.Query

/-!
# The HTTP service

The routes under which the operations of a desk are reached, and how requests are read and answers
written. A request that fits no operation is rejected before the desk sees it.
-/

namespace QueryDesk.Http

structure Request where
  method : String
  target : Target
  contentType : Option String
  body : String
deriving DecidableEq, Inhabited

inductive Body where
  | none
  | text (s : String)
  | json (v : Json)
deriving Inhabited

structure Response where
  status : Nat
  /-- The media type of the body; empty without one. -/
  contentType : String
  body : Body
deriving Inhabited

namespace Response

def text (status : Nat) (s : String) : Response := ⟨status, "text/plain; charset=utf-8", .text s⟩

def json (status : Nat) (v : Json) : Response := ⟨status, "application/json", .json v⟩

def failed (f : Failure) : Response := json f.kind.status f.toJson

/-- A request that could not be read; the text of the reason is not fixed. -/
def rejected (status : Nat) : Response := text status ""

def bare (status : Nat) : Response := ⟨status, "", .none⟩

/-- What is answered when only the head of an answer is asked for. -/
def head (r : Response) : Response := { r with body := .none }

end Response

/-! ### Routes -/

inductive Route where
  | health
  | datasources
  | inspect (id : List Char)
  | select (id : List Char)
  | insert (id : List Char)
  | update (id : List Char)
  | entity (id table : List Char)
  | filters
deriving DecidableEq

namespace Route

def ofParts? (parts : List (List Char)) : Option Route :=
  match parts.map String.ofList, parts with
  | ["health"], _ => some health
  | ["api", "datasources"], _ => some datasources
  | ["api", "filters", "parse"], _ => some filters
  | ["api", "datasources", _, "inspect"], [_, _, id, _] => some (inspect id)
  | ["api", "datasources", _, "select"], [_, _, id, _] => some (select id)
  | ["api", "datasources", _, "insert"], [_, _, id, _] => some (insert id)
  | ["api", "datasources", _, "update"], [_, _, id, _] => some (update id)
  | ["api", "datasources", _, "entity", _], [_, _, id, _, table] =>
    if table.isEmpty then none else some (entity id table)
  | _, _ => none

def method : Route → String
  | health | entity _ _ => "GET"
  | _ => "POST"

end Route

/-! ### Handlers -/

/-- What a request comes to: an answer, and perhaps an inspection to be started. -/
structure Reaction where
  response : Response
  task : Option (DeskTask Nat)

namespace Reaction

def answer (r : Response) : Reaction := ⟨r, none⟩

def ofResult {α : Type} (f : α → Json) : Except Failure α → Reaction
  | .ok a => answer (.json 200 (f a))
  | .error e => answer (.failed e)

end Reaction

/-- Reads a JSON body: it has to be announced as one, well formed, and of the right shape. -/
def readBody {α : Type} (r : Json.Reader α) (request : Request) : Except Response α :=
  if !(request.contentType.any isJsonType) then .error (.rejected 415)
  else match r.whole request.body with
    | .ok a => .ok a
    | .error .brokenText => .error (.rejected 400)
    | .error .mismatch => .error (.rejected 422)

/-- A text of a filter and the type of its column. -/
structure FilterQuestion where
  text : String
  declared : Option String

def FilterQuestion.reader : Json.Reader FilterQuestion :=
  Json.record ⟨"", none⟩ [
    Json.Field.required "text" Json.Reader.text fun s q => { q with text := s },
    Json.Field.defaulted "column_type" (Json.Reader.optional Json.Reader.text)
      fun s q => { q with declared := s }]

/-- What a text of a filter means, and its canonical text. -/
def FilterQuestion.answer (q : FilterQuestion) : Except Failure Json :=
  match Notation.read q.text q.declared with
  | .error e => .error ⟨.parse, e.message⟩
  | .ok r =>
    .ok (.obj (r.members ++ [("label", .str r.operator.label),
      ("text", .str (Notation.write (r.toFilter "") (q.declared.getD "")))]))

/-- Does what a request with a JSON body asks for. -/
def withBody {α : Type} (r : Json.Reader α) (request : Request) (f : α → DeskProgram Reaction) :
    DeskProgram Reaction :=
  match readBody r request with
  | .ok a => f a
  | .error rejection => pure (.answer rejection)

def createDatasource (s : DeskSettings) (id : String) (now : Instant) (r : Registration) :
    DeskProgram Reaction :=
  match r.check with
  | .error fault => pure (.answer (.failed fault.failure))
  | .ok () => do
    match ← Desk.register s (r.datasource id now) with
    | .error e => pure (.answer (.failed e))
    | .ok (d, task) =>
      -- Its first inspection was accepted after it was stored.
      let shown := { d with status := .inspecting }
      pure ⟨.json 201 (.obj [("datasource", shown.toJson)]), some task⟩

def inspectDatasource (s : DeskSettings) (id : String) : DeskProgram Reaction := do
  match ← Desk.inspect s id with
  | .error e => pure (.answer (.failed e))
  | .ok task =>
    pure ⟨.json 202 (.obj [("datasource_id", .str id),
      ("status", .str InspectionStatus.inspecting.name)]), some task⟩

def withPart (part : List Char) (f : String → DeskProgram Reaction) : DeskProgram Reaction :=
  match pathText? part with
  | some s => f s
  | none => pure (.answer (.rejected 400))

/-- Does what a request to a route with the right method asks for. -/
def handle (s : DeskSettings) (freshId : String) (now : Instant) (request : Request) :
    Route → DeskProgram Reaction
  | .health => pure (.answer (.text 200 "OK"))
  | .datasources => withBody Registration.reader request (createDatasource s freshId now)
  | .inspect id => withPart id (inspectDatasource s)
  | .select id => withPart id fun id =>
    withBody SelectRequest.reader request fun r => do
      pure (.ofResult SelectResult.toJson (← Desk.select s { r with datasource := id }))
  | .insert id => withPart id fun id =>
    withBody InsertRequest.reader request fun r => do
      pure (.ofResult Outcome.toJson (← Desk.insert s { r with datasource := id }))
  | .update id => withPart id fun id =>
    withBody UpdateRequest.reader request fun r => do
      pure (.ofResult Outcome.toJson (← Desk.update s { r with datasource := id }))
  | .entity id table => withPart id fun id => withPart table fun table => do
    let props := (pairs request.target.query).map fun (k, v) => (k, Value.text v)
    pure (.ofResult EntityResult.toJson
      (← Desk.entity s ⟨id, table, EntityRequest.sorted props⟩))
  | .filters => withBody FilterQuestion.reader request fun q =>
    pure (.ofResult (fun v => v) q.answer)

/-- Answers a request. Every path may be asked for its options, and what may be asked for by GET may
be asked for by HEAD, which leaves the body out. -/
def serve (s : DeskSettings) (freshId : String) (now : Instant) (request : Request) :
    DeskProgram Reaction :=
  if request.method == "OPTIONS" then pure (.answer (.bare 200))
  else match Route.ofParts? request.target.parts with
    | none => pure (.answer (.bare 404))
    | some route =>
      if request.method == route.method then handle s freshId now request route
      else if request.method == "HEAD" && route.method == "GET" then do
        let reaction ← handle s freshId now request route
        pure { reaction with response := reaction.response.head }
      -- The path leads somewhere, only not by this method.
      else pure (.answer (.bare 405))

end QueryDesk.Http
