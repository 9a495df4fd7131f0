import QueryDesk.Number.BigEndian
import QueryDesk.Number.Reading

/-!
# Exact numbers of PostgreSQL

A numeric value comes as a header of four words and groups of four decimal digits. The header tells
how many groups follow, the power of 10000 of the first one, the sign, and how many decimal places
are shown; groups that are zero may be left out at both ends. The text shows exactly these places,
cut off and not rounded.
-/

namespace QueryDesk.Postgres

/-- A value of type numeric: its first group counts `10000^weight`. -/
structure Numeric where
  negative : Bool
  weight : Int
  scale : Nat
  groups : List Nat
deriving DecidableEq, Inhabited

inductive NumericFault where
  | shortHeader
  | missingGroups
deriving DecidableEq

namespace Numeric

/-- The sign words of negative numbers and of NaN. -/
def minusWord : Nat := 0x4000

def nanWord : Nat := 0xC000

/-- A word in two's complement. -/
def signedWord (w : Nat) : Int := if w < 32768 then w else (w : Int) - 65536

/-- The group at a position; what was left out is zero. -/
def groupAt (n : Numeric) (position : Int) : Nat :=
  if 0 ≤ position then n.groups.getD position.toNat 0 else 0

/-- A count of groups from a position on. -/
def groupsFrom (n : Numeric) (position : Int) : Nat → List Nat
  | 0 => []
  | count + 1 => n.groupAt position :: groupsFrom n (position + 1) count

/-- The digits of some groups, four of each. -/
def digits (groups : List Nat) : List Char := groups.flatMap fun g => (Number.padded 4 g).toList

/-- The digits in front of the point: those of the first group without zeros in front. -/
def wholeText (n : Numeric) : String :=
  if n.weight < 0 then "0"
  else toString (n.groupAt 0) ++ String.ofList (digits (n.groupsFrom 1 n.weight.toNat))

def fractionText (n : Numeric) : String :=
  String.ofList ((digits (n.groupsFrom (n.weight + 1) ((n.scale + 3) / 4))).take n.scale)

def text (n : Numeric) : String :=
  (if n.negative then "-" else "") ++ n.wholeText
    ++ if n.scale = 0 then "" else "." ++ n.fractionText

/-- The number that the words of a value tell, or nothing for NaN. -/
def ofWords : List Nat → Except NumericFault (Option Numeric)
  | count :: weight :: sign :: scale :: groups =>
    -- Told by the sign word alone, whatever groups are announced.
    if sign = nanWord then .ok none
    else if groups.length < count then .error .missingGroups
    else .ok (some ⟨sign = minusWord, signedWord weight, scale, groups.take count⟩)
  | _ => .error .shortHeader

end Numeric

def decodeNumeric (bytes : List UInt8) : Except NumericFault String :=
  (Numeric.ofWords (Number.words bytes)).map fun
    | some n => n.text
    | none => "NaN"

end QueryDesk.Postgres
