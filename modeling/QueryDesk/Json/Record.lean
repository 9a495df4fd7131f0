import QueryDesk.Json.Doc

/-!
# Reading records

A record is read from the members of an object, or from a list that gives its fields in order. The
first fault in the order of the text is the answer: a syntax error where the text has one, a
mismatch where a value is of the wrong kind, a key comes twice, or a required field is missing at
the end. Unknown keys are passed over.
-/

namespace QueryDesk.Json

inductive Fault where
  | brokenText
  | mismatch
deriving DecidableEq, Inhabited

/-- What a document of the wrong kind is answered with. -/
def Doc.refusal : Doc → Fault
  | .cut => .brokenText
  | .unheld => .brokenText
  | _ => .mismatch

abbrev Reader (α : Type) := Doc → Except Fault α

namespace Reader

def text : Reader String
  | .str s => .ok s
  | d => .error d.refusal

def bool : Reader Bool
  | .bool b => .ok b
  | d => .error d.refusal

def int : Reader Int
  | .int n => .ok n
  | d => .error d.refusal

def natUpTo (top : Nat) : Reader Nat
  | .int n => if 0 ≤ n ∧ n ≤ top then .ok n.toNat else .error .mismatch
  | d => .error d.refusal

def nat16 : Reader Nat := natUpTo 65535

def nat64 : Reader Nat := natUpTo (Nat.pow 2 64 - 1)

/-- Null, or a value. -/
def optional {α : Type} (r : Reader α) : Reader (Option α)
  | .null => .ok none
  | d => (r d).map some

/-- The items of a list, each read in turn. -/
def list {α : Type} (r : Reader α) : Reader (List α)
  | .arr items closed => do
    let vs ← items.mapM r
    if closed then pure vs else .error .brokenText
  | d => .error d.refusal

/-- One of a fixed set of names; an object with that name as its only key and a null is one too. -/
def name {α : Type} (of? : String → Option α) : Reader α
  | .str s => (of? s).elim (.error .mismatch) .ok
  | .obj [(s, .null)] true => (of? s).elim (.error .mismatch) .ok
  | .obj ((s, d) :: rest) closed =>
    match of? s, d with
    | none, _ => .error .mismatch
    | some _, .null => .error (if rest.isEmpty && closed then .mismatch else .brokenText)
    | some _, d => .error d.refusal
  | .obj [] closed => .error (if closed then .mismatch else .brokenText)
  | d => .error d.refusal

/-- A text read by `of?`. -/
def textAs {α : Type} (of? : String → Option α) : Reader α
  | .str s => (of? s).elim (.error .mismatch) .ok
  | d => .error d.refusal

/-- Any value; the last of repeated keys counts. -/
def json : Reader Json
  | d => (d.lastWins.value?).elim (.error .brokenText) .ok

end Reader

/-- Whether a field may be missing: never, when the fields have names, or always. -/
inductive Presence where
  | required
  | nullable
  | defaulted
deriving DecidableEq

/-- One field of a record of type `α`: how a document becomes its value. -/
structure Field (α : Type) where
  name : String
  presence : Presence
  set : Doc → α → Except Fault α

namespace Field

def required {α β : Type} (name : String) (r : Reader β) (put : β → α → α) : Field α :=
  ⟨name, .required, fun d a => (r d).map (put · a)⟩

def nullable {α β : Type} (name : String) (r : Reader β) (put : Option β → α → α) : Field α :=
  ⟨name, .nullable, fun d a => (r.optional d).map (put · a)⟩

def defaulted {α β : Type} (name : String) (r : Reader β) (put : β → α → α) : Field α :=
  ⟨name, .defaulted, fun d a => (r d).map (put · a)⟩

end Field

/-- Reads the members of an object into `a`; `seen` are the fields met before. -/
def readFields {α : Type} (fields : List (Field α)) :
    List (String × Doc) → List String → α → Except Fault (List String × α)
  | [], seen, a => .ok (seen, a)
  | (key, d) :: rest, seen, a =>
    match fields.find? (·.name == key) with
    | none => readFields fields rest seen a
    | some f =>
      -- Only a key that is no field may come again.
      if seen.contains key then .error .mismatch else do
        let a ← f.set d a
        readFields fields rest (key :: seen) a

/-- Reads the items of a list into the fields in their order. -/
def readInOrder {α : Type} (closed : Bool) : List (Field α) → List Doc → α → Except Fault α
  | [], [], a => if closed then .ok a else .error .brokenText
  | [], _ :: _, _ => .error .brokenText
  | f :: fields, [], a =>
    if !closed then .error .brokenText
    else if (f :: fields).all (·.presence == .defaulted) then .ok a else .error .mismatch
  | f :: fields, d :: rest, a => do
    let a ← f.set d a
    readInOrder closed fields rest a

def record {α : Type} (blank : α) (fields : List (Field α)) : Reader α
  | .obj members closed => do
    let (seen, a) ← readFields fields members [] blank
    if !closed then .error .brokenText
    else if fields.all fun f => f.presence != .required || seen.contains f.name then pure a
    else .error .mismatch
  | .arr items closed => readInOrder closed fields items blank
  | d => .error d.refusal

/-- Reads the body of a message: one value and nothing behind it. -/
def Reader.whole {α : Type} (r : Reader α) (text : String) : Except Fault α :=
  match Doc.read text with
  | (d, clear) => do
    let a ← r d
    if clear then pure a else .error .brokenText

end QueryDesk.Json
