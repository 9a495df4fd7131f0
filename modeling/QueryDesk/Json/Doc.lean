import QueryDesk.Json.Basic
import QueryDesk.Number.Reading

/-!
# JSON texts

`Doc.read` reads a JSON text as far as it goes. A text that breaks off leaves a tree whose open
ends are marked, so that a reader that walks the tree in the order of the text meets its first
fault where the text has it: a member of the wrong kind in front of a syntax error is found first.
Repeated keys are kept; `Doc.lastWins` settles them.
-/

namespace QueryDesk.Json

/-- What a JSON text holds, up to its first syntax error. -/
inductive Doc where
  | null
  | bool (b : Bool)
  | int (n : Int)
  | float (x : Binary64)
  | str (s : String)
  | arr (items : List Doc) (closed : Bool)
  | obj (members : List (String × Doc)) (closed : Bool)
  /-- Well formed, but no value: a number out of range or half of a surrogate pair. -/
  | unheld
  /-- The text goes wrong here. -/
  | cut
deriving Inhabited

namespace Doc

/-! ### Numbers -/

def tenTo (n : Nat) : Binary64 := Binary64.ofRatio false (Nat.pow 10 n) 1

/-- `significand · 10^exponent` in at most two steps of binary64 arithmetic per 308 places; a
result beyond the largest number is out of range. -/
def scaled (x : Binary64) (exponent : Int) : Nat → Option Binary64
  | 0 => some x
  | fuel + 1 =>
    if exponent.natAbs ≤ 308 then
      if 0 ≤ exponent then
        let y := x.mul (tenTo exponent.toNat)
        if y.isFinite then some y else none
      else some (x.div (tenTo (-exponent).toNat))
    else if x.isZero then some x
    else if 0 ≤ exponent then none
    else scaled (x.div (tenTo 308)) (exponent + 308) fuel

/-- The longest beginning of `digits` that fits 64 bits after `start`, with the count of digits
left over. -/
def fitting (start : Nat) : List Char → Nat × Nat
  | [] => (start, 0)
  | c :: r =>
    let next := 10 * start + (c.toNat - 48)
    if next < Nat.pow 2 64 then fitting next r else (start, r.length + 1)

def signed (minus : Bool) (x : Binary64) : Binary64 := if minus then x.neg else x

/-- A number from its digits before the point, behind it, and its exponent if there is one. The
significand is read as far as it fits 64 bits. -/
def number (minus : Bool) (whole : List Char) (part : Option (List Char))
    (exponent : Option (Bool × List Char)) : Doc :=
  let (head, dropped) := fitting 0 whole
  match part, exponent with
  | none, none =>
    if dropped == 0 && !minus then .int head
    -- Zero with a minus is no integer.
    else if dropped == 0 && head ≠ 0 && head ≤ Nat.pow 2 63 then .int (-head)
    else match scaled (Binary64.ofInt head) dropped 8 with
      | some x => .float (signed minus x)
      | none => .unheld
  | part, exponent =>
    let part := part.getD []
    let (significand, unused) := fitting head part
    let base : Int := dropped - (part.length - unused : Nat)
    let (down, digits) := exponent.getD (false, [])
    let e := Number.digitsValue digits
    if Nat.pow 2 31 ≤ e then
      if significand ≠ 0 && !down then .unheld else .float (Binary64.zero minus)
    else match scaled (Binary64.ofInt significand) (base + if down then -(e : Int) else e) 8000000 with
      | some x => .float (signed minus x)
      | none => .unheld

/-- Reads a number; `minus` has been read already. -/
def readNumber (minus : Bool) (cs : List Char) : Doc × List Char :=
  let whole := cs.takeWhile Char.isDigit
  let rest := cs.dropWhile Char.isDigit
  let leadingZero := whole.head? == some '0' && whole.length > 1
  if whole.isEmpty || leadingZero then (.cut, []) else
  let (part, rest, good) := match rest with
    | '.' :: r =>
      let ds := r.takeWhile Char.isDigit
      (some ds, r.dropWhile Char.isDigit, !ds.isEmpty)
    | r => (none, r, true)
  if !good then (.cut, []) else
  match rest with
  | c :: r =>
    if c == 'e' || c == 'E' then
      let (down, r) := Number.splitSign r
      let ds := r.takeWhile Char.isDigit
      if ds.isEmpty then (.cut, []) else
      (number minus whole part (some (down, ds)), r.dropWhile Char.isDigit)
    else (number minus whole part none, rest)
  | [] => (number minus whole part none, [])

/-! ### Texts -/

def hexValue? (c : Char) : Option Nat :=
  if c.isDigit then some (c.toNat - 48)
  else if 'a' ≤ c && c ≤ 'f' then some (c.toNat - 87)
  else if 'A' ≤ c && c ≤ 'F' then some (c.toNat - 55)
  else none

def hex4? : List Char → Option (Nat × List Char)
  | a :: b :: c :: d :: r => do
    let a ← hexValue? a
    let b ← hexValue? b
    let c ← hexValue? c
    let d ← hexValue? d
    some (((a * 16 + b) * 16 + c) * 16 + d, r)
  | _ => none

def simpleEscape? (c : Char) : Option Char :=
  match c with
  | '"' => some '"'
  | '\\' => some '\\'
  | '/' => some '/'
  | 'b' => some (Char.ofNat 8)
  | 'f' => some (Char.ofNat 12)
  | 'n' => some '\n'
  | 'r' => some '\r'
  | 't' => some '\t'
  | _ => none

/-- What stands between quotes: its characters, last first, and whether they make up a text. The
opening quote has been read. `none` when the text goes wrong. -/
def readChars : Nat → List Char → List Char → Bool → Option (List Char × Bool × List Char)
  | 0, _, _, _ => none
  | _ + 1, [], _, _ => none
  | fuel + 1, c :: r, read, whole =>
    if c == '"' then some (read, whole, r)
    else if c.toNat < 32 then none
    else if c != '\\' then readChars fuel r (c :: read) whole
    else match r with
      | 'u' :: r =>
        match hex4? r with
        | none => none
        | some (n, r) =>
          -- The second half of a pair without a first one.
          if 0xDC00 ≤ n && n < 0xE000 then readChars fuel r read false
          else if 0xD800 ≤ n && n < 0xDC00 then
            match r with
            | '\\' :: 'u' :: r' =>
              match hex4? r' with
              | none => none
              | some (m, r'') =>
                if 0xDC00 ≤ m && m < 0xE000 then
                  readChars fuel r'' (Char.ofNat (0x10000 + (n - 0xD800) * 0x400 + (m - 0xDC00)) :: read)
                    whole
                else readChars fuel r read false
            | _ => readChars fuel r read false
          else readChars fuel r (Char.ofNat n :: read) whole
      | e :: r =>
        match simpleEscape? e with
        | some c => readChars fuel r (c :: read) whole
        | none => none
      | [] => none

/-- A text, its opening quote read. -/
def readText (cs : List Char) : Doc × List Char :=
  match readChars (cs.length + 1) cs [] true with
  | some (read, true, rest) => (.str (String.ofList read.reverse), rest)
  | some (_, false, rest) => (.unheld, rest)
  | none => (.cut, [])

/-! ### Values -/

def isSpace (c : Char) : Bool := c == ' ' || c == '\n' || c == '\t' || c == '\r'

def skipSpace (cs : List Char) : List Char := cs.dropWhile isSpace

def word (expected : List Char) (value : Doc) (cs : List Char) : Doc × List Char :=
  if expected.isPrefixOf cs then (value, cs.drop expected.length) else (.cut, [])

mutual

/-- The document is complete: nothing broke off in it. -/
def complete : Doc → Bool
  | .arr items closed => closed && completeItems items
  | .obj members closed => closed && completeMembers members
  | .cut => false
  | _ => true

def completeItems : List Doc → Bool
  | [] => true
  | d :: rest => d.complete && completeItems rest

def completeMembers : List (String × Doc) → Bool
  | [] => true
  | (_, d) :: rest => d.complete && completeMembers rest

end

mutual

/-- Reads one value; `depth` is how many more brackets may open. -/
def readValue (fuel depth : Nat) (cs : List Char) : Doc × List Char :=
  match fuel with
  | 0 => (.cut, [])
  | fuel + 1 =>
    match skipSpace cs with
    | [] => (.cut, [])
    | c :: r =>
      if c == '"' then readText r
      else if c == 'n' then word ['u', 'l', 'l'] .null r
      else if c == 't' then word ['r', 'u', 'e'] (.bool true) r
      else if c == 'f' then word ['a', 'l', 's', 'e'] (.bool false) r
      else if c == '-' then readNumber true r
      else if c.isDigit then readNumber false (c :: r)
      else if c == '[' then
        if depth ≤ 1 then (.cut, []) else
        match skipSpace r with
        | ']' :: r => (.arr [] true, r)
        | r =>
          let (items, closed, rest) := readItems fuel (depth - 1) r
          (.arr items closed, rest)
      else if c == '\x7b' then
        if depth ≤ 1 then (.cut, []) else
        match skipSpace r with
        | '\x7d' :: r => (.obj [] true, r)
        | r =>
          let (members, closed, rest) := readMembers fuel (depth - 1) r
          (.obj members closed, rest)
      else (.cut, [])

/-- The items of a list up to its closing bracket. -/
def readItems (fuel depth : Nat) (cs : List Char) : List Doc × Bool × List Char :=
  match fuel with
  | 0 => ([.cut], false, [])
  | fuel + 1 =>
    let (d, rest) := readValue fuel depth cs
    if !d.complete then ([d], false, []) else
    match skipSpace rest with
    | ']' :: r => ([d], true, r)
    | ',' :: r =>
      let (ds, closed, rest) := readItems fuel depth r
      (d :: ds, closed, rest)
    | _ => ([d], false, [])

/-- The members of an object up to its closing brace. -/
def readMembers (fuel depth : Nat) (cs : List Char) : List (String × Doc) × Bool × List Char :=
  match fuel with
  | 0 => ([], false, [])
  | fuel + 1 =>
    match skipSpace cs with
    | '"' :: r =>
      match readText r with
      | (.str key, r) =>
        match skipSpace r with
        | ':' :: r =>
          let (d, rest) := readValue fuel depth r
          if !d.complete then ([(key, d)], false, []) else
          match skipSpace rest with
          | '\x7d' :: r => ([(key, d)], true, r)
          | ',' :: r =>
            let (ms, closed, rest) := readMembers fuel depth r
            ((key, d) :: ms, closed, rest)
          | _ => ([(key, d)], false, [])
        | _ => ([(key, .cut)], false, [])
      | _ => ([], false, [])
    | _ => ([], false, [])

end

/-- Reads a text: its value, and whether nothing but blanks comes behind it. Brackets nest at most
127 deep. -/
def read (text : String) : Doc × Bool :=
  let cs := text.toList
  let (d, rest) := readValue (2 * cs.length + 4) 128 cs
  (d, (skipSpace rest).isEmpty)

/-! ### Settling keys, taking values -/

mutual

/-- Of members with one key only the last is kept. -/
def lastWins : Doc → Doc
  | .arr items closed => .arr (lastWinsItems items) closed
  | .obj members closed => .obj (lastWinsMembers members) closed
  | d => d

def lastWinsItems : List Doc → List Doc
  | [] => []
  | d :: rest => d.lastWins :: lastWinsItems rest

def lastWinsMembers : List (String × Doc) → List (String × Doc)
  | [] => []
  | (k, d) :: rest =>
    let later := lastWinsMembers rest
    if later.any (·.1 == k) then later else (k, d.lastWins) :: later

end

mutual

def value? : Doc → Option Json
  | .null => some .null
  | .bool b => some (.bool b)
  | .int n => some (.int n)
  | .float x => some (.float x)
  | .str s => some (.str s)
  | .arr items closed => if closed then (values? items).map .arr else none
  | .obj members closed => if closed then (memberValues? members).map .obj else none
  | .unheld => none
  | .cut => none

def values? : List Doc → Option (List Json)
  | [] => some []
  | d :: rest =>
    match d.value?, values? rest with
    | some v, some vs => some (v :: vs)
    | _, _ => none

def memberValues? : List (String × Doc) → Option (List (String × Json))
  | [] => some []
  | (k, d) :: rest =>
    match d.value?, memberValues? rest with
    | some v, some vs => some ((k, v) :: vs)
    | _, _ => none

end

/-- A whole JSON text with the last of repeated keys, or nothing. -/
def ofText? (text : String) : Option Doc :=
  match read text with
  | (d, true) => if d.value?.isSome then some d.lastWins else none
  | _ => none

def get? (d : Doc) (key : String) : Option Doc :=
  match d with
  | .obj members _ => members.lookup key
  | _ => none

end Doc

def ofText? (text : String) : Option Json := (Doc.ofText? text).bind Doc.value?

end QueryDesk.Json
