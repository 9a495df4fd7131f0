import QueryDesk.Text.Shown.Table

/-!
# Texts as they are shown to developers

A text between double quotes in which quotes, backslashes and everything that would not show are
escaped.
-/

namespace QueryDesk.Text

def isHidden (c : Char) : Bool := Shown.hidden.any fun r => r.1 ≤ c.toNat && c.toNat ≤ r.2

def shownChar (c : Char) : List Char :=
  if c == '"' || c == '\\' then ['\\', c]
  else if c == '\n' then ['\\', 'n']
  else if c == '\r' then ['\\', 'r']
  else if c == '\t' then ['\\', 't']
  else if c.toNat == 0 then ['\\', '0']
  else if c.toNat < 32 || isHidden c then
    ['\\', 'u', '\x7b'] ++ Nat.toDigits 16 c.toNat ++ ['\x7d']
  else [c]

def shown (s : String) : String := String.ofList ('"' :: (s.toList.flatMap shownChar ++ ['"']))

def shownOption {α : Type} (f : α → String) : Option α → String
  | some a => "Some(" ++ f a ++ ")"
  | none => "None"

end QueryDesk.Text
