import QueryDesk.Time.Date
import QueryDesk.Text.Blank

/-!
# Instants

A point in time to the nanosecond. A leap second is counted within the second before it, which then
has up to two thousand million nanoseconds.
-/

namespace QueryDesk

/-- The seconds since the beginning of 1970 and the nanoseconds within the second. -/
structure Instant where
  seconds : Int
  nanos : Nat
deriving DecidableEq, Inhabited

namespace Instant

def date (t : Instant) : Date := Date.ofDays (t.seconds / 86400)

/-- A fraction of a second with no, three, six or nine places, as many as are needed. -/
def fractionText (nanos : Nat) : String :=
  if nanos = 0 then ""
  else if nanos % 1000000 = 0 then "." ++ Number.padded 3 (nanos / 1000000)
  else if nanos % 1000 = 0 then "." ++ Number.padded 6 (nanos / 1000)
  else "." ++ Number.padded 9 nanos

/-- The time of day, from the seconds and nanoseconds since midnight. A leap second is the
sixtieth. -/
def clockText (seconds nanos : Nat) : String :=
  let (s, n) := if 1000000000 ≤ nanos then (seconds % 60 + 1, nanos - 1000000000)
    else (seconds % 60, nanos)
  Number.padded 2 (seconds / 3600) ++ ":" ++ Number.padded 2 (seconds / 60 % 60) ++ ":"
    ++ Number.padded 2 s ++ fractionText n

/-- Date and time of day in Greenwich, with something between them. -/
def textWith (separator : String) (t : Instant) : String :=
  t.date.text ++ separator ++ clockText (t.seconds % 86400).toNat t.nanos

/-- The text of an instant, as RFC 3339 has it. -/
def text (t : Instant) : String := t.textWith "T" ++ "Z"

/-! ### Reading

The format of RFC 3339 with some liberties: numbers may lack leading zeros, blanks may stand in front
of each part, a blank may stand for the `T`, and a year outside the four digits has a sign. -/

/-- One to `most` digits off the front. -/
def digits? (most : Nat) (cs : List Char) : Option (Nat × List Char) :=
  let ds := (cs.take most).takeWhile Char.isDigit
  if ds.isEmpty then none else some (Number.digitsValue ds, cs.drop ds.length)

/-- A number of one or two digits within bounds. -/
def part? (low high : Nat) (cs : List Char) : Option (Nat × List Char) := do
  let (n, rest) ← digits? 2 (Text.trimLeft cs)
  if low ≤ n ∧ n ≤ high then some (n, rest) else none

/-- A given character off the front, blanks before it. -/
def mark? (c : Char) (cs : List Char) : Option (List Char) :=
  match Text.trimLeft cs with
  | d :: rest => if d = c then some rest else none
  | [] => none

def year? (cs : List Char) : Option (Int × List Char) :=
  match Text.trimLeft cs with
  | '-' :: r => (digits? r.length r).map fun (n, rest) => (-(n : Int), rest)
  | '+' :: r => (digits? r.length r).map fun (n, rest) => ((n : Int), rest)
  | r => (digits? 4 r).map fun (n, rest) => ((n : Int), rest)

def date? (cs : List Char) : Option (Date × List Char) := do
  let (y, r) ← year? cs
  let (m, r) ← part? 1 12 (← mark? '-' r)
  let (d, r) ← part? 1 31 (← mark? '-' r)
  if Date.yearInRange y then (Date.of? y m d).map (·, r) else none

/-- The digits of a fraction as nanoseconds; digits beyond the ninth are dropped. -/
def fraction? (cs : List Char) : Option (Nat × List Char) :=
  match cs with
  | '.' :: r =>
    let ds := r.takeWhile Char.isDigit
    if ds.isEmpty then none
    else
      let kept := ds.take 9
      some (Number.digitsValue kept * Nat.pow 10 (9 - kept.length), r.drop ds.length)
  | r => some (0, r)

def clock? (cs : List Char) : Option (Nat × Nat × List Char) := do
  let (h, r) ← part? 0 23 cs
  let (m, r) ← part? 0 59 (← mark? ':' r)
  let (s, r) ← part? 0 60 (← mark? ':' r)
  let (n, r) ← fraction? r
  if s = 60 then some (3600 * h + 60 * m + 59, n + 1000000000, r)
  else some (3600 * h + 60 * m + s, n, r)

/-- Two digits and nothing less. -/
def pair? : List Char → Option (Nat × List Char)
  | a :: b :: r =>
    if a.isDigit && b.isDigit then some (Number.digitsValue [a, b], r) else none
  | _ => none

/-- Hours and minutes of an offset, with colons and blanks between them or nothing. -/
def offsetAmount? (cs : List Char) : Option (Nat × List Char) := do
  let (h, r) ← pair? cs
  let (m, r) ← pair? (r.dropWhile fun c => c == ':' || Text.isBlank c)
  if m < 60 then some (3600 * h + 60 * m, r) else none

/-- The distance of a clock from Greenwich, in seconds. -/
def offset? (cs : List Char) : Option (Int × List Char) :=
  match Text.trimLeft cs with
  | [] => none
  | c :: r =>
    if ((c :: r).take 3).map Char.toUpper = ['U', 'T', 'C'] then some (0, r.drop 2)
    else if c = 'Z' ∨ c = 'z' then some (0, r)
    else if c = '+' then (offsetAmount? r).map fun (n, rest) => ((n : Int), rest)
    else if c = '-' ∨ c = '−' then (offsetAmount? r).map fun (n, rest) => (-(n : Int), rest)
    else none

def ofText? (s : String) : Option Instant := do
  let (d, r) ← date? s.toList
  let r ← match r with
    | c :: r => if c = 'T' ∨ c = 't' ∨ c = ' ' then some r else none
    | [] => none
  let (seconds, nanos, r) ← clock? r
  let (offset, r) ← offset? r
  if !(r.all Text.isBlank) || 86400 ≤ offset.natAbs then none
  else
    let t : Instant := ⟨d.toDays * 86400 + seconds - offset, nanos⟩
    if Date.yearInRange t.date.year then some t else none

end Instant

end QueryDesk
