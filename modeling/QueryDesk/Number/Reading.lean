import QueryDesk.Number.Binary64

/-!
# Reading numbers

Integers of a bounded range and decimal numbers, from the characters of a text. A number fills its
text: blanks and anything else around it make the text no number.
-/

namespace QueryDesk.Number

def allDigits (cs : List Char) : Bool := !cs.isEmpty && cs.all Char.isDigit

def digitsValue (cs : List Char) : Nat := cs.foldl (fun n c => 10 * n + (c.toNat - 48)) 0

/-- Splits an optional sign off; `true` is a minus. -/
def splitSign : List Char → Bool × List Char
  | '-' :: r => (true, r)
  | '+' :: r => (false, r)
  | r => (false, r)

/-- An integer between `-2^63` and `2^63 - 1`, with an optional sign. -/
def readInt64? (cs : List Char) : Option Int :=
  let (minus, ds) := splitSign cs
  if allDigits ds then
    let n : Int := digitsValue ds
    let n := if minus then -n else n
    if Int64.minValue.toInt ≤ n ∧ n ≤ Int64.maxValue.toInt then some n else none
  else none

/-- A natural number up to `top`; a plus may stand in front. -/
def readUpTo? (top : Nat) (cs : List Char) : Option Nat :=
  let ds := match cs with
    | '+' :: r => r
    | r => r
  if allDigits ds && digitsValue ds ≤ top then some (digitsValue ds) else none

/-- The exponent behind a mantissa: nothing, or `e`, an optional sign and digits. -/
def readExponent? : List Char → Option Int
  | [] => some 0
  | c :: r =>
    if c == 'e' || c == 'E' then
      let (minus, ds) := splitSign r
      if allDigits ds then some (if minus then -(digitsValue ds : Int) else digitsValue ds) else none
    else none

/-- A decimal number without sign: digits with at most one point among them, then an exponent. -/
def readUnsigned? (negative : Bool) (cs : List Char) : Option Binary64 :=
  let whole := cs.takeWhile Char.isDigit
  let rest := cs.dropWhile Char.isDigit
  let (part, rest) := match rest with
    | '.' :: r => (r.takeWhile Char.isDigit, r.dropWhile Char.isDigit)
    | r => ([], r)
  -- A point wants a digit on one side at least.
  if whole.isEmpty && part.isEmpty then none
  else (readExponent? rest).map fun e =>
    Binary64.ofDecimal negative (digitsValue (whole ++ part)) (e - part.length)

/-- The number nearest to a decimal text, with an optional sign. Infinity and NaN have names. -/
def readBinary64? (cs : List Char) : Option Binary64 :=
  let (minus, r) := splitSign cs
  let word := String.ofList (r.map Char.toLower)
  if word == "inf" || word == "infinity" then some (Binary64.infinity minus)
  else if word == "nan" then some (Binary64.pack minus 2047 (Nat.pow 2 51))
  else readUnsigned? minus r

/-- A natural number with zeros in front up to `width` digits. -/
def padded (width n : Nat) : String :=
  let ds := (toString n).toList
  String.ofList (List.replicate (width - ds.length) '0' ++ ds)

end QueryDesk.Number
