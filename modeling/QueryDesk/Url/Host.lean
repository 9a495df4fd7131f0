import QueryDesk.Number.Reading
import QueryDesk.Text.Case
import QueryDesk.Url.Basic

/-!
# Hosts

A host is a name, an IPv4 address in any of its spellings, or an IPv6 address between brackets.
Where a scheme is not special, a host that is no IPv6 address is kept as it is.
-/

namespace QueryDesk.Host

/-! ### IPv4 -/

def digitsOf (base : Nat) (cs : List Char) : Option Nat :=
  cs.foldlM (fun n c => do
    let d ← Text.hexValue? c
    if d < base then some (n * base + d) else none) 0

/-- A part of an address: decimal, octal behind a zero, or hexadecimal behind `0x`. -/
def ipv4Part? (cs : List Char) : Option Nat :=
  match cs with
  | [] => none
  | '0' :: 'x' :: r => digitsOf 16 r
  | '0' :: 'X' :: r => digitsOf 16 r
  -- A zero by itself is decimal.
  | '0' :: d :: r => digitsOf 8 (d :: r)
  | r => digitsOf 10 r

/-- The parts of a name, an empty last one left out. -/
def labels (cs : List Char) : List (List Char) :=
  let parts := Text.pieces '.' cs
  if 1 < parts.length && parts.getLast? == some [] then parts.dropLast else parts

/-- A name whose last part is a number has to be an address. -/
def endsInNumber (cs : List Char) : Bool :=
  match (labels cs).getLast? with
  | some last => Number.allDigits last || (ipv4Part? last).isSome
  | none => false

/-- The text of an address, whose last part fills all bytes that are left. -/
def ipv4? (cs : List Char) : Option String := do
  let parts ← (labels cs).mapM ipv4Part?
  let last ← parts.getLast?
  let front := parts.dropLast
  if 3 < front.length || front.any (255 < ·) || Nat.pow 256 (4 - front.length) ≤ last then none
  else
    let rest := (List.range (4 - front.length)).reverse.map fun i => last / Nat.pow 256 i % 256
    some (Text.join "." ((front ++ rest).map toString))

/-! ### IPv6 -/

/-- Up to four hexadecimal digits off the front. -/
def hexGroup (cs : List Char) : Nat × Nat × List Char :=
  let ds := (cs.take 4).takeWhile fun c => (Text.hexValue? c).isSome
  (ds.length, (digitsOf 16 ds).getD 0, cs.drop ds.length)

/-- A decimal byte without leading zeros off the front. -/
def byte? (cs : List Char) : Option (Nat × List Char) :=
  let ds := cs.takeWhile Char.isDigit
  let n := Number.digitsValue ds
  if ds.isEmpty || (1 < ds.length && ds.head? == some '0') || 255 < n then none
  else some (n, cs.drop ds.length)

/-- The two groups of an IPv4 address at the end. -/
def dotted? (cs : List Char) : Option (List Nat) := do
  let (a, r) ← byte? cs
  let '.' :: r := r | none
  let (b, r) ← byte? r
  let '.' :: r := r | none
  let (c, r) ← byte? r
  let '.' :: r := r | none
  let (d, r) ← byte? r
  if r.isEmpty then some [256 * a + b, 256 * c + d] else none

/-- The groups from here on. `gap` is where a run of zeros was left out. -/
def groups? : Nat → List Nat → Option Nat → List Char → Option (List Nat × Option Nat)
  | 0, _, _, _ => none
  | _ + 1, read, gap, [] => some (read, gap)
  | fuel + 1, read, gap, ':' :: r =>
    if gap.isSome || 8 ≤ read.length then none else groups? fuel read (some read.length) r
  | fuel + 1, read, gap, cs =>
    if 8 ≤ read.length then none
    else
      let (count, value, rest) := hexGroup cs
      match rest with
      | '.' :: _ =>
        -- The dotted part takes the place of the last two groups.
        if count = 0 || 6 < read.length then none
        else (dotted? cs).map fun tail => (read ++ tail, gap)
      | ':' :: r =>
        if r.isEmpty || count = 0 then none else groups? fuel (read ++ [value]) gap r
      | [] => if count = 0 then none else some (read ++ [value], gap)
      | _ => none

def ipv6Groups? (cs : List Char) : Option (List Nat) := do
  let start : List Char × Option Nat ← match cs with
    | ':' :: ':' :: r => some (r, some 0)
    -- One colon at the front is half of a gap.
    | ':' :: _ => none
    | r => some (r, none)
  let (read, gap) ← groups? (cs.length + 2) [] start.2 start.1
  match gap with
  | some at_ => some (read.take at_ ++ List.replicate (8 - read.length) 0 ++ read.drop at_)
  | none => if read.length = 8 then some read else none

/-- Where the longest run of zeros begins and how long it is; the first of several. -/
def longestZeros (at_ : Nat) : List Nat → Nat × Nat
  | [] => (0, 0)
  | g :: rest =>
    let run := ((g :: rest).takeWhile (· == 0)).length
    let later := longestZeros (at_ + 1) rest
    if run ≠ 0 && later.2 ≤ run then (at_, run) else later

def hexText (n : Nat) : String := String.ofList (Nat.toDigits 16 n)

def ipv6Text (groups : List Nat) : String :=
  let (from_, run) := longestZeros 0 groups
  let part (gs : List Nat) := Text.join ":" (gs.map hexText)
  let body := if run < 2 then part groups
    else part (groups.take from_) ++ "::" ++ part (groups.drop (from_ + run))
  "[" ++ body ++ "]"

def bracketed (cs : List Char) : Except UrlError String :=
  if cs.getLast? != some ']' then .error .badIpv6
  else match ipv6Groups? (cs.drop 1).dropLast with
    | some groups => .ok (ipv6Text groups)
    | none => .error .badIpv6

/-! ### Names -/

/-- A letter outside ASCII as part of a name: its number above the last one, in digits of base 36
whose thresholds follow the sizes seen so far. -/
def punyDigit (d : Nat) : Char := Char.ofNat (if d < 26 then 97 + d else 22 + d)

def threshold (k bias : Nat) : Nat := min 26 (max 1 (k - bias))

def punyNumber : Nat → Nat → Nat → Nat → List Char
  | 0, _, _, _ => []
  | fuel + 1, bias, k, q =>
    let t := threshold k bias
    if q < t then [punyDigit q]
    else punyDigit (t + (q - t) % (36 - t)) :: punyNumber fuel bias (k + 36) ((q - t) / (36 - t))

def shrink : Nat → Nat → Nat → Nat × Nat
  | 0, delta, k => (delta, k)
  | fuel + 1, delta, k => if 455 < delta then shrink fuel (delta / 35) (k + 36) else (delta, k)

def nextBias (delta count : Nat) (first : Bool) : Nat :=
  let d := if first then delta / 700 else delta / 2
  let (delta, k) := shrink 64 (d + d / count) 0
  k + 36 * delta / (delta + 38)

/-- What has been written so far, and the state of the count. -/
structure Puny where
  written : List Char
  delta : Nat
  bias : Nat
  done : Nat

def Puny.letter (basic m : Nat) (s : Puny) (n : Nat) : Puny :=
  if n < m then { s with delta := s.delta + 1 }
  else if n = m then
    { written := s.written ++ punyNumber 64 s.bias 36 s.delta
      delta := 0
      bias := nextBias s.delta (s.done + 1) (s.done == basic)
      done := s.done + 1 }
  else s

/-- The letters from `m` on, least first. -/
def Puny.letters (ns : List Nat) (basic : Nat) : Nat → Nat → Puny → Puny
  | 0, _, s => s
  | fuel + 1, n, s =>
    match (ns.filter (n ≤ ·)).min? with
    | none => s
    | some m =>
      let s := { s with delta := s.delta + (m - n) * (s.done + 1) }
      let s := ns.foldl (Puny.letter basic m) s
      Puny.letters ns basic fuel (m + 1) { s with delta := s.delta + 1 }

def asciiLabel (cs : List Char) : List Char :=
  if cs.all (·.toNat < 128) then cs
  else
    let basic := cs.filter (·.toNat < 128)
    let ns := cs.map Char.toNat
    let s := Puny.letters ns basic.length (cs.length + 1) 128
      { written := [], delta := 0, bias := 72, done := basic.length }
    ['x', 'n', '-', '-'] ++ basic ++ (if basic.isEmpty then [] else ['-']) ++ s.written

/-- Characters that no name holds. -/
def isForbidden (c : Char) : Bool :=
  c.toNat ≤ 32 || c.toNat == 127 ||
    ['%', '#', '/', ':', '<', '>', '?', '@', '[', '\\', ']', '^', '`', '\x7b', '|', '\x7d'].contains c

def isDot (c : Char) : Bool := c == '.' || [0x3002, 0xFF0E, 0xFF61].contains c.toNat

/-- A name in lower case and in letters of ASCII. -/
def name? (cs : List Char) : Option (List Char) :=
  let lower := (cs.flatMap Text.lowerChar).map fun c => if isDot c then '.' else c
  if lower.any (fun c => isForbidden c || c.toNat == 0xFFFD) then none
  else some (List.intercalate ['.'] ((Text.pieces '.' lower).map asciiLabel))

/-! ### Hosts of URLs -/

/-- The host of a special scheme. -/
def read (cs : List Char) : Except UrlError String :=
  if cs.head? == some '[' then bracketed cs
  -- Percent signs are resolved first: they may spell an address too.
  else match (Text.ofUtf8? (Text.percentDecode cs)).bind name? with
    | none => .error .badName
    | some [] => .error .emptyHost
    | some name =>
      if endsInNumber name then (ipv4? name).elim (.error .badIpv4) .ok
      else .ok (String.ofList name)

/-- Characters that no host of another scheme holds. -/
def isForbiddenAnywhere (c : Char) : Bool :=
  c.toNat == 0 || [' ', '#', '/', ':', '<', '>', '?', '@', '[', '\\', ']', '^', '|'].contains c

/-- The host of another scheme; it may be empty. -/
def readPlain (cs : List Char) : Except UrlError String :=
  if cs.head? == some '[' then bracketed cs
  else if cs.any isForbiddenAnywhere then .error .badHostCharacter
  else .ok (String.ofList (Text.percentEncode Url.isControl cs))

end QueryDesk.Host
