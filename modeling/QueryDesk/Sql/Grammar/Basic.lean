import QueryDesk.Sql.Token

/-!
# Grammar rules

A rule takes tokens off the front of a list or stops. The rules that call themselves through an
expression or a query get them as parameters (`Rules`), one level down, so that the depth of nesting
is bounded by the number of levels and every rule is total.
-/

namespace QueryDesk.Sql

/-- Why a rule stops. A text that nests too deep is given up; other rules are not tried on it. -/
inductive Stop where
  | mismatch
  | tooDeep
deriving DecidableEq

abbrev Rule (α : Type) := StateT (List Token) (Except Stop) α

/-- What kind of expression was read, as far as what may follow depends on it. -/
inductive Shape where
  | identifier
  | dotted
  | access
  | value
  | call
  | star
  | other
deriving DecidableEq

/-- The rules one level down. -/
structure Rules where
  /-- An expression of operators that bind tighter than a level. -/
  expr : Nat → Rule Shape
  query : Rule Unit
  table : Rule Unit

namespace Rule

def mismatch {α : Type} : Rule α := fun _ => .error .mismatch

def peek : Rule (Option Token) := fun ts => .ok (ts.head?, ts)

def peekAt (n : Nat) : Rule (Option Token) := fun ts => .ok (ts[n]?, ts)

def next : Rule (Option Token) := fun ts => .ok (ts.head?, ts.drop 1)

/-- Tries a rule; where it does not fit nothing is taken. -/
def attempt {α : Type} (p : Rule α) : Rule (Option α) := fun ts =>
  match p ts with
  | .ok (a, rest) => .ok (some a, rest)
  | .error .mismatch => .ok (none, ts)
  | .error .tooDeep => .error .tooDeep

/-- The keyword that a bare word is. -/
def keywordOf : Option Token → String
  | some (.word s none) => Text.uppercase s
  | _ => ""

def isSign (s : String) : Option Token → Bool
  | some (.sign t) => s == t
  | _ => false

def atKeyword (k : String) : Rule Bool := fun ts => .ok (keywordOf ts.head? == k, ts)

def atSign (s : String) : Rule Bool := fun ts => .ok (isSign s ts.head?, ts)

def keyword (k : String) : Rule Bool := fun ts =>
  if keywordOf ts.head? == k then .ok (true, ts.drop 1) else .ok (false, ts)

/-- Takes all of some keywords if they come next in this order. -/
def keywords (ks : List String) : Rule Bool := fun ts =>
  if (ts.take ks.length).map (keywordOf ∘ some) == ks then .ok (true, ts.drop ks.length)
  else .ok (false, ts)

def oneOf (ks : List String) : Rule (Option String) := fun ts =>
  let k := keywordOf ts.head?
  if ks.contains k then .ok (some k, ts.drop 1) else .ok (none, ts)

def sign (s : String) : Rule Bool := fun ts =>
  if isSign s ts.head? then .ok (true, ts.drop 1) else .ok (false, ts)

def expectKeyword (k : String) : Rule Unit := do
  if ← keyword k then pure () else mismatch

def expectSign (s : String) : Rule Unit := do
  if ← sign s then pure () else mismatch

/-- A rule one or more times with commas between, at most `fuel` times. -/
def commaRun {α : Type} (p : Rule α) : Nat → Rule Unit
  | 0 => mismatch
  | fuel + 1 => do
    let _ ← p
    if ← sign "," then commaRun p fuel else pure ()

/-- A rule one or more times with commas between. -/
def commas {α : Type} (p : Rule α) : Rule Unit := fun ts => commaRun p (ts.length + 1) ts

/-- A rule as long as it says that it read something. -/
def repeatRun (p : Rule Bool) : Nat → Rule Unit
  | 0 => mismatch
  | fuel + 1 => do
    if ← p then repeatRun p fuel else pure ()

def repeated (p : Rule Bool) : Rule Unit := fun ts => repeatRun p (ts.length + 1) ts

def inParens {α : Type} (p : Rule α) : Rule α := do
  expectSign "("
  let a ← p
  expectSign ")"
  pure a

/-- A name: a word or a quoted text. -/
def identifier : Rule Unit := do
  match ← next with
  | some (.word _ _) => pure ()
  | some (.text .plain _) => pure ()
  | some (.text .double _) => pure ()
  | _ => mismatch

def objectName : Rule Unit := fun ts =>
  (do
    identifier
    repeated do
      if ← sign "." then
        identifier
        pure true
      else pure false : Rule Unit) ts

def value : Rule Unit := do
  match ← next with
  | some (.word s none) =>
    if ["TRUE", "FALSE", "NULL"].contains (Text.uppercase s) then pure () else mismatch
  | some (.word _ (some '"')) => pure ()
  | some (.number _) => pure ()
  | some (.text _ _) => pure ()
  | some (.placeholder _) => pure ()
  | some (.sign s) =>
    if s == ":" || s == "@" then
      match ← next with
      | some (.word _ _) => pure ()
      | some (.number _) => pure ()
      | _ => mismatch
    else mismatch
  | _ => mismatch

/-- Texts side by side are one constant in MySQL. -/
def valueWith (d : Dialect) : Rule Unit := do
  let first ← peek
  value
  match d, first with
  | .mysql, some (.text .plain _) | .mysql, some (.text .double _) =>
    repeated do
      match ← peek with
      | some (.text .plain _) | some (.text .double _) =>
        let _ ← next
        pure true
      | _ => pure false
  | _, _ => pure ()

def natural : Rule Unit := do
  match ← next with
  | some (.number s) => if s.toList.all Char.isDigit then pure () else mismatch
  | _ => mismatch

end Rule

end QueryDesk.Sql
