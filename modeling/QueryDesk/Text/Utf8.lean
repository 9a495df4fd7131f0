/-!
# UTF-8

Characters as bytes and back. Decoding splits any bytes into characters and broken parts; a broken
part is the longest beginning of a character that is not continued as it should be, or one byte
that begins none.
-/

namespace QueryDesk.Text

def utf8 (c : Char) : List Nat :=
  let n := c.toNat
  if n < 0x80 then [n]
  else if n < 0x800 then [0xC0 + n / 64, 0x80 + n % 64]
  else if n < 0x10000 then [0xE0 + n / 4096, 0x80 + n / 64 % 64, 0x80 + n % 64]
  else [0xF0 + n / 262144, 0x80 + n / 4096 % 64, 0x80 + n / 64 % 64, 0x80 + n % 64]

/-- What a first byte announces: how many bytes follow, its own bits, and the bounds of the byte
that follows first. -/
structure Lead where
  following : Nat
  bits : Nat
  low : Nat := 0x80
  high : Nat := 0xBF

def lead? (b : Nat) : Option Lead :=
  if b < 0x80 then some { following := 0, bits := b }
  else if b < 0xC2 then none
  else if b < 0xE0 then some { following := 1, bits := b - 0xC0 }
  else if b = 0xE0 then some { following := 2, bits := 0, low := 0xA0 }
  else if b = 0xED then some { following := 2, bits := 0xD, high := 0x9F }
  else if b < 0xF0 then some { following := 2, bits := b - 0xE0 }
  else if b = 0xF0 then some { following := 3, bits := 0, low := 0x90 }
  else if b < 0xF4 then some { following := 3, bits := b - 0xF0 }
  else if b = 0xF4 then some { following := 3, bits := 4, high := 0x8F }
  else none

/-- Reads `n` more bytes into `value`, the first of them within bounds. Gives nothing when the
character breaks off, and the bytes behind what was read in either case. -/
def continued : Nat → Nat → Nat → Nat → List Nat → Option Nat × List Nat
  | 0, _, _, value, rest => (some value, rest)
  | _ + 1, _, _, _, [] => (none, [])
  | n + 1, low, high, value, b :: rest =>
    if low ≤ b ∧ b ≤ high then continued n 0x80 0xBF (value * 64 + (b - 0x80)) rest
    else (none, b :: rest)

def decodeParts : Nat → List Nat → List (Option Char)
  | 0, _ => []
  | _ + 1, [] => []
  | fuel + 1, b :: rest =>
    match lead? b with
    | none => none :: decodeParts fuel rest
    | some l =>
      let (value, rest) := continued l.following l.low l.high l.bits rest
      value.map Char.ofNat :: decodeParts fuel rest

/-- The characters of some bytes, `none` for each broken part. -/
def utf8Parts (bytes : List Nat) : List (Option Char) := decodeParts bytes.length bytes

/-- The text of some bytes, unless a part of them is broken. -/
def ofUtf8? (bytes : List Nat) : Option (List Char) := (utf8Parts bytes).mapM id

/-- The text of some bytes, with the replacement character for broken parts. -/
def ofUtf8 (bytes : List Nat) : List Char :=
  (utf8Parts bytes).map (·.getD (Char.ofNat 0xFFFD))

end QueryDesk.Text
