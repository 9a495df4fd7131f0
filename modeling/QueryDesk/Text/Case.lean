import QueryDesk.Text.Case.Tables

/-!
# Lower case and upper case

The full Unicode mappings. A letter may turn into several characters (`ß` is `SS` in upper case),
and a capital sigma at the end of a word turns into the final small sigma.
-/

namespace QueryDesk.Text

open Case

/-- The first run that holds `n` moves it; a number in no run stays. -/
def Case.move (runs : List Run) (n : Nat) : Nat :=
  match runs.find? (·.holds n) with
  | some r => (n + r.shift).toNat
  | none => n

private def Case.within (ranges : List (Nat × Nat)) (c : Char) : Bool :=
  ranges.any fun r => r.1 ≤ c.toNat && c.toNat ≤ r.2

/-- The lower case of one character, its place in a word left aside. -/
def lowerChar (c : Char) : List Char :=
  if c.toNat < 0x80 then [c.toLower]
  else if c.toNat == 0x130 then ['i', Char.ofNat 0x307]
  else [Char.ofNat (move lowerRuns c.toNat)]

def upperChar (c : Char) : List Char :=
  if c.toNat < 0x80 then [c.toUpper]
  else match upperWords.find? (·.1 == c.toNat) with
    | some (_, word) => word.map Char.ofNat
    | none => [Char.ofNat (move upperRuns c.toNat)]

/-- Past the characters that are passed over comes a letter of a word. -/
private def Case.touchesWord (cs : List Char) : Bool :=
  match cs.dropWhile (within ignorable) with
  | [] => false
  | c :: _ => within cased c

/-- Lower-cases `rest`, given the characters before it, last first. -/
def lowerFrom (before : List Char) : List Char → List Char
  | [] => []
  | c :: rest =>
    if c.toNat == 0x3A3 then
      (if touchesWord before && !touchesWord rest then 'ς' else 'σ') :: lowerFrom (c :: before) rest
    else lowerChar c ++ lowerFrom (c :: before) rest

def lowercase (s : String) : String := String.ofList (lowerFrom [] s.toList)

def uppercase (s : String) : String := String.ofList (s.toList.flatMap upperChar)

/-- Two texts that differ at most in the case of their ASCII letters. -/
def sameLetters (a b : String) : Bool := a.toList.map Char.toLower == b.toList.map Char.toLower

end QueryDesk.Text
