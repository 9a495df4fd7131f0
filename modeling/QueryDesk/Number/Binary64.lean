/-!
# Binary64

The numbers of IEEE 754 binary64, kept as their 64 bits so that two of them can be told apart. A
finite one is `±mantissa · 2^scale`. `ofRatio` is the one place where rounding happens: it takes
the nearest number to a quotient of naturals, and of two equally near ones the even one.
-/

namespace QueryDesk

structure Binary64 where
  bits : UInt64
deriving DecidableEq, Inhabited

namespace Binary64

/-! ### The parts of a number -/

def negative (x : Binary64) : Bool := Nat.pow 2 63 ≤ x.bits.toNat

def exponentField (x : Binary64) : Nat := x.bits.toNat / Nat.pow 2 52 % 2048

def fraction (x : Binary64) : Nat := x.bits.toNat % Nat.pow 2 52

def isFinite (x : Binary64) : Bool := x.exponentField != 2047

def isNaN (x : Binary64) : Bool := x.exponentField == 2047 && x.fraction != 0

/-- The whole factor of a finite number. -/
def mantissa (x : Binary64) : Nat :=
  if x.exponentField = 0 then x.fraction else Nat.pow 2 52 + x.fraction

/-- The power of two of a finite number. -/
def scale (x : Binary64) : Int :=
  if x.exponentField = 0 then -1074 else x.exponentField - 1075

def isZero (x : Binary64) : Bool := x.exponentField == 0 && x.fraction == 0

def pack (negative : Bool) (exponentField fraction : Nat) : Binary64 :=
  ⟨UInt64.ofNat ((if negative then Nat.pow 2 63 else 0) + exponentField * Nat.pow 2 52 + fraction)⟩

def zero (negative : Bool) : Binary64 := pack negative 0 0

def infinity (negative : Bool) : Binary64 := pack negative 2047 0

/-! ### Rounding -/

/-- The nearest natural to `num / den`; a half goes to the even neighbour. -/
def roundHalfEven (num den : Nat) : Nat :=
  let q := num / den
  let r := num % den
  if 2 * r < den then q else if den < 2 * r then q + 1 else q + q % 2

/-- `num / den` in units of `2^q`, as a numerator and a denominator. -/
def inUnits (num den : Nat) (q : Int) : Nat × Nat :=
  if 0 ≤ q then (num, den * Nat.pow 2 q.toNat) else (num * Nat.pow 2 (-q).toNat, den)

/-- The `e` with `2^e ≤ num / den < 2^(e+1)`, for positive arguments. -/
def leadingExponent (num den : Nat) : Int :=
  let guess : Int := (num.log2 : Int) - den.log2
  let (n, d) := inUnits num den guess
  if n < d then guess - 1 else guess

/-- The binary64 number nearest to `±num / den`, for a positive `den`. -/
def ofRatio (negative : Bool) (num den : Nat) : Binary64 :=
  if num = 0 then zero negative else
  let q := max (leadingExponent num den - 52) (-1074)
  let (n, d) := inUnits num den q
  let m := roundHalfEven n d
  if m < Nat.pow 2 52 then pack negative 0 m else
  let (m, q) := if m = Nat.pow 2 53 then (Nat.pow 2 52, q + 1) else (m, q)
  if 971 < q then infinity negative else pack negative (q + 1075).toNat (m - Nat.pow 2 52)

def ofInt (n : Int) : Binary64 := ofRatio (n < 0) n.natAbs 1

/-- The nearest number to `±digits · 10^exponent`. Exponents far outside the range of the format
are answered without computing the power. -/
def ofDecimal (negative : Bool) (digits : Nat) (exponent : Int) : Binary64 :=
  let size : Int := (toString digits).length
  if digits = 0 then zero negative
  else if 400 < exponent + size then infinity negative
  else if exponent + size < -400 then zero negative
  else if 0 ≤ exponent then ofRatio negative (digits * Nat.pow 10 exponent.toNat) 1
  else ofRatio negative digits (Nat.pow 10 (-exponent).toNat)

def mul (x y : Binary64) : Binary64 :=
  let (n, d) := inUnits (x.mantissa * y.mantissa) 1 (-(x.scale + y.scale))
  ofRatio (x.negative != y.negative) n d

/-- The quotient of two finite numbers, the second one not zero. -/
def div (x y : Binary64) : Binary64 :=
  let (n, d) := inUnits x.mantissa y.mantissa (y.scale - x.scale)
  ofRatio (x.negative != y.negative) n d

def neg (x : Binary64) : Binary64 := pack (!x.negative) x.exponentField x.fraction

/-- The binary64 number equal to a binary32 number given by its bits. -/
def ofBits32 (b : UInt32) : Binary64 :=
  let n := b.toNat
  let negative := decide (Nat.pow 2 31 ≤ n)
  let e := n / Nat.pow 2 23 % 256
  let f := n % Nat.pow 2 23
  if e = 255 then pack negative 2047 (f * Nat.pow 2 29)
  else if e = 0 then ofRatio negative f (Nat.pow 2 149)
  else pack negative (e + 896) (f * Nat.pow 2 29)

end Binary64

end QueryDesk
