import QueryDesk.Time.Instant

/-!
# Stamps

Instants as they are kept: date and time of day in Greenwich with an offset of zero behind them.
Reading is strict: each number has just its digits, nothing may be left out and nothing added, and a
year has four digits and no sign.
-/

namespace QueryDesk.Stamp

/-- The text that an instant is kept as. -/
def write (t : Instant) : String := t.textWith "T" ++ "+00:00"

inductive Fault where
  | invalid
  | outOfRange
  | tooShort
  | tooLong
deriving DecidableEq

namespace Fault

def message : Fault → String
  | invalid => "input contains invalid characters"
  | outOfRange => "input is out of range"
  | tooShort => "premature end of input"
  | tooLong => "trailing input"

end Fault

/-- Just so many digits. -/
def digits (count : Nat) (cs : List Char) : Except Fault (Nat × List Char) :=
  if cs.length < count then .error .tooShort
  else if (cs.take count).all Char.isDigit then
    .ok (Number.digitsValue (cs.take count), cs.drop count)
  else .error .invalid

/-- Two digits within bounds. -/
def pair (low high : Nat) (cs : List Char) : Except Fault (Nat × List Char) := do
  let (n, rest) ← digits 2 cs
  if low ≤ n ∧ n ≤ high then .ok (n, rest) else .error .outOfRange

def mark (marks : List Char) : List Char → Except Fault (List Char)
  | c :: rest => if marks.contains c then .ok rest else .error .invalid
  | [] => .error .tooShort

/-- A fraction of a second, if there is one, in nanoseconds. -/
def fraction : List Char → Except Fault (Nat × List Char)
  | '.' :: rest =>
    let kept := (rest.takeWhile Char.isDigit).take 9
    if kept.isEmpty then .error (if rest.isEmpty then .tooShort else .invalid)
    -- Digits beyond nanoseconds are read over.
    else .ok (Number.digitsValue kept * Nat.pow 10 (9 - kept.length), rest.dropWhile Char.isDigit)
  | rest => .ok (0, rest)

/-- Hours and minutes of an offset, in seconds. -/
def amount (cs : List Char) : Except Fault (Int × List Char) := do
  let (h, rest) ← digits 2 cs
  let (m, rest) ← pair 0 59 (← mark [':'] rest)
  pure (3600 * h + 60 * m, rest)

def offset : List Char → Except Fault (Int × List Char)
  | [] => .error .tooShort
  | c :: rest =>
    if c = 'Z' ∨ c = 'z' then .ok (0, rest)
    else if c = '+' then amount rest
    else if c = '-' ∨ c = '−' then (amount rest).map fun (n, rest) => (-n, rest)
    else .error .invalid

def date (cs : List Char) : Except Fault ((Nat × Nat × Nat) × List Char) := do
  let (y, rest) ← digits 4 cs
  let (m, rest) ← pair 1 12 (← mark ['-'] rest)
  let (d, rest) ← pair 1 31 (← mark ['-'] rest)
  pure ((y, m, d), rest)

/-- Seconds since midnight and nanoseconds; the sixtieth second is a leap second. -/
def clock (cs : List Char) : Except Fault ((Nat × Nat) × List Char) := do
  let (h, rest) ← pair 0 23 cs
  let (m, rest) ← pair 0 59 (← mark [':'] rest)
  let (s, rest) ← pair 0 60 (← mark [':'] rest)
  let (n, rest) ← fraction rest
  -- A leap second is counted within the second before it.
  if s = 60 then pure ((3600 * h + 60 * m + 59, n + 1000000000), rest)
  else pure ((3600 * h + 60 * m + s, n), rest)

def read (s : String) : Except Fault Instant := do
  let ((y, m, d), rest) ← date s.toList
  let ((seconds, nanos), rest) ← clock (← mark ['T', 't', ' '] rest)
  let (shift, rest) ← offset rest
  if 86400 < shift.natAbs then .error .outOfRange
  else if !rest.isEmpty then .error .tooLong
  else match Date.of? y m d with
    | some day => .ok ⟨day.toDays * 86400 + seconds - shift, nanos⟩
    | none => .error .outOfRange

end QueryDesk.Stamp
