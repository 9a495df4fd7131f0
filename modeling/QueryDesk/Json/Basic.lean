import QueryDesk.Number.Shortest

/-!
# JSON values

Values and their compact text. Whole numbers and binary64 numbers are kept apart: `1` and `1.0` are
different values, and each is written so that it reads back as what it was.
-/

namespace QueryDesk

inductive Json where
  | null
  | bool (b : Bool)
  | int (n : Int)
  | float (x : Binary64)
  | str (s : String)
  | arr (items : List Json)
  | obj (members : List (String × Json))
deriving Inhabited

namespace Json

def texts (ss : List String) : Json := .arr (ss.map .str)

def ofOption {α : Type} (f : α → Json) : Option α → Json
  | some a => f a
  | none => .null

/-- A number; infinities and NaN have no JSON form and become null. -/
def ofFloat (x : Binary64) : Json := if x.isFinite then .float x else .null

/-- The member of an optional value, left out when there is none. -/
def optional {α : Type} (name : String) (f : α → Json) : Option α → List (String × Json)
  | some a => [(name, f a)]
  | none => []

/-! ### Text -/

def hexDigit (n : Nat) : Char := Char.ofNat (if n < 10 then 48 + n else 87 + n)

def escape (c : Char) : List Char :=
  if c == '"' then ['\\', '"']
  else if c == '\\' then ['\\', '\\']
  else if c == '\n' then ['\\', 'n']
  else if c == '\r' then ['\\', 'r']
  else if c == '\t' then ['\\', 't']
  else if c.toNat == 8 then ['\\', 'b']
  else if c.toNat == 12 then ['\\', 'f']
  else if c.toNat < 32 then ['\\', 'u', '0', '0', hexDigit (c.toNat / 16), hexDigit (c.toNat % 16)]
  else [c]

def quoted (s : String) : String :=
  String.ofList ('"' :: (s.toList.flatMap escape ++ ['"']))

/-- A finite number as JSON text: its shortest digits, positional while the point falls within
sixteen digits or five zeros, always recognisable as no whole number. -/
def floatText (x : Binary64) : String :=
  let (digits, exponent) := x.shortest
  let ds := toString digits
  let point : Int := ds.length + exponent
  let sign := if x.negative then "-" else ""
  let body :=
    if x.isZero then "0.0"
    else if 0 ≤ exponent ∧ point ≤ 16 then Binary64.positional digits exponent ++ ".0"
    else if -5 < point ∧ point ≤ 16 then Binary64.positional digits exponent
    else
      let tail := String.ofList (ds.toList.drop 1)
      let head := String.ofList (ds.toList.take 1)
      head ++ (if tail == "" then "" else "." ++ tail) ++ "e" ++ toString (point - 1)
  sign ++ body

mutual

def write : Json → String
  | .null => "null"
  | .bool true => "true"
  | .bool false => "false"
  | .int n => toString n
  | .float x => floatText x
  | .str s => quoted s
  | .arr items => "[" ++ writeItems items ++ "]"
  | .obj members => "\x7b" ++ writeMembers members ++ "\x7d"

def writeItems : List Json → String
  | [] => ""
  | [v] => write v
  | v :: rest => write v ++ "," ++ writeItems rest

def writeMembers : List (String × Json) → String
  | [] => ""
  | [(k, v)] => quoted k ++ ":" ++ write v
  | (k, v) :: rest => quoted k ++ ":" ++ write v ++ "," ++ writeMembers rest

end

end Json

end QueryDesk
