import QueryDesk.Text.Utf8

/-!
# Percent encoding

A byte as a percent sign and two hexadecimal digits. Decoding leaves alone what only looks like an
encoded byte.
-/

namespace QueryDesk.Text

def upperHexDigit (n : Nat) : Char := Char.ofNat (if n < 10 then 48 + n else 55 + n)

def hexValue? (c : Char) : Option Nat :=
  if c.isDigit then some (c.toNat - 48)
  else if 'a' ≤ c && c ≤ 'f' then some (c.toNat - 87)
  else if 'A' ≤ c && c ≤ 'F' then some (c.toNat - 55)
  else none

def percentByte (b : Nat) : List Char := ['%', upperHexDigit (b / 16), upperHexDigit (b % 16)]

def percentEncode (reserved : Char → Bool) (cs : List Char) : List Char :=
  cs.flatMap fun c => if reserved c then (utf8 c).flatMap percentByte else [c]

/-- The bytes of a text, encoded ones decoded. -/
def percentDecode : List Char → List Nat
  | [] => []
  | '%' :: a :: b :: r =>
    match hexValue? a, hexValue? b with
    | some x, some y => (16 * x + y) :: percentDecode r
    | _, _ => 37 :: percentDecode (a :: b :: r)
  | c :: r => utf8 c ++ percentDecode r

end QueryDesk.Text
