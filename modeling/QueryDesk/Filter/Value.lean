import QueryDesk.Number.Shortest

/-!
# Scalar values

The values that a statement binds and a filter compares with.
-/

namespace QueryDesk

inductive Value where
  | null
  | bool (b : Bool)
  | int (n : Int64)
  | float (x : Binary64)
  | text (s : String)
deriving DecidableEq, Inhabited

namespace Value

def isNumber : Value → Bool
  | int _ | float _ => true
  | _ => false

def asText? : Value → Option String
  | text s => some s
  | _ => none

/-- The expression of a text that begins with an equals sign: it is written into a statement as it
is instead of being bound. -/
def rawExpression? : Value → Option String
  | text s =>
    match s.toList with
    | '=' :: r => some (String.ofList r)
    | _ => none
  | _ => none

def display : Value → String
  | null => "NULL"
  | bool true => "true"
  | bool false => "false"
  | int n => toString n.toInt
  | float x => x.text
  | text s => s

end Value

end QueryDesk
