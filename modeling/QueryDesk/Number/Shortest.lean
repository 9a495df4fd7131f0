import QueryDesk.Number.Binary64

/-!
# Shortest decimal text

The fewest digits that still read back as the same number: for one digit, two digits, and so on,
the two neighbours of the number on that decimal grid are tried against the interval of reals that
round to it, in exact arithmetic. The first grid with a hit gives the digits; of two hits the
nearer one wins.
-/

namespace QueryDesk

namespace Binary64

/-- The `e` with `10^e ≤ |x| < 10^(e+1)`, for a finite `x` other than zero. -/
def decimalExponent (x : Binary64) : Int :=
  -- The logarithm of two by five digits: the guess is right or one too small.
  let guess := ((x.mantissa.log2 : Int) + x.scale) * 30103 / 100000
  let above := guess + 1
  let (n, d) := inUnits x.mantissa 1 (-x.scale)
  let reached := if 0 ≤ above then d * Nat.pow 10 above.toNat ≤ n else d ≤ n * Nat.pow 10 (-above).toNat
  if reached then above else guess

/-- The number and the ends of its interval, in quarters of its last place. -/
structure Bracket where
  low : Nat
  mid : Nat
  high : Nat
  closed : Bool

/-- The reals that round to `x`. Below a power of two the next number is half as far away. -/
def bracket (x : Binary64) : Bracket :=
  let m := x.mantissa
  { low := if x.fraction = 0 && 1 < x.exponentField then 4 * m - 1 else 4 * m - 2
    mid := 4 * m
    high := 4 * m + 2
    closed := m % 2 == 0 }

/-- The hit of the grid of multiples of `10^k`, if there is one. -/
def gridHit? (x : Binary64) (k : Int) : Option Nat :=
  let q := x.scale - 2
  let unit := Nat.pow 10 k.toNat * Nat.pow 2 (-q).toNat
  let weight := Nat.pow 2 q.toNat * Nat.pow 10 (-k).toNat
  let b := x.bracket
  let inside (c : Nat) : Bool :=
    if b.closed then b.low * weight ≤ c * unit && c * unit ≤ b.high * weight
    else b.low * weight < c * unit && c * unit < b.high * weight
  let c := b.mid * weight / unit
  let r := b.mid * weight % unit
  match inside c, inside (c + 1) with
  -- Of two hits the nearer one, or else the even one.
  | true, true => if 2 * r < unit || (2 * r == unit && c % 2 == 0) then some c else some (c + 1)
  | true, false => some c
  | false, true => some (c + 1)
  | false, false => none

/-- Tries grids of ever more digits; seventeen digits always suffice. -/
def searchGrids (x : Binary64) (top : Int) : Nat → Nat × Int
  | 0 => (0, 0)
  | left + 1 =>
    let k := top - (16 - left)
    match x.gridHit? k with
    | some c => (c, k)
    | none => searchGrids x top left

def stripZeros : Nat → Nat × Int → Nat × Int
  | 0, d => d
  | fuel + 1, (c, k) => if c % 10 = 0 && c ≠ 0 then stripZeros fuel (c / 10, k + 1) else (c, k)

/-- Digits and exponent of the shortest decimal for a finite number. -/
def shortest (x : Binary64) : Nat × Int :=
  if x.isZero then (0, 0) else stripZeros 20 (searchGrids x x.decimalExponent 17)

/-- `digits · 10^exponent` written without an exponent. -/
def positional (digits : Nat) (exponent : Int) : String :=
  let ds := (toString digits).toList
  if 0 ≤ exponent then String.ofList (ds ++ List.replicate exponent.toNat '0')
  else
    let places := (-exponent).toNat
    if places < ds.length then
      String.ofList (ds.take (ds.length - places) ++ '.' :: ds.drop (ds.length - places))
    else String.ofList ('0' :: '.' :: (List.replicate (places - ds.length) '0' ++ ds))

/-- The text of a number: its shortest digits, never with an exponent, and a whole number without
a point. Zero keeps its sign. -/
def text (x : Binary64) : String :=
  let sign := if x.negative then "-" else ""
  if x.isNaN then "NaN"
  else if !x.isFinite then sign ++ "inf"
  else
    let (digits, exponent) := x.shortest
    sign ++ positional digits exponent

end Binary64

end QueryDesk
