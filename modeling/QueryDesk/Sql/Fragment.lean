import QueryDesk.Sql.Grammar

/-!
# Fragments of SQL in requests

Join conditions and raw values are the two places where a request's own SQL enters a statement. Each
has to be exactly one expression of the dialect.
-/

namespace QueryDesk.Sql

inductive ExpressionError where
  | unreadable
  | trailing (token : String)
deriving DecidableEq

def ExpressionError.message : ExpressionError → String
  | unreadable => "SQL parsing error:"
  | trailing token => "Unexpected trailing input near '" ++ token ++ "'"

def checkExpression (d : Dialect) (sql : String) : Except ExpressionError Unit :=
  match tokens? d sql with
  | none => .error .unreadable
  | some ts =>
    match readExpression d ts with
    | .error _ => .error .unreadable
    | .ok [] => .ok ()
    | .ok (t :: _) => .error (.trailing t.spelled)

/-- Why a text is no join condition or no raw value. -/
inductive FragmentError where
  | emptyJoin
  | badJoin (on : String) (cause : ExpressionError)
  | forbidden (raw token : String)
  | emptyRaw
  | badRaw (cause : ExpressionError)
deriving DecidableEq

def FragmentError.message : FragmentError → String
  | emptyJoin => "Join condition cannot be empty"
  | badJoin on cause =>
    "Invalid join condition '" ++ on ++ "': " ++ (Failure.validation cause.message).display
  | forbidden raw token =>
    "Raw value '" ++ raw ++ "' contains forbidden token '" ++ token ++ "'"
  | emptyRaw => "Raw value cannot be empty"
  | badRaw cause => cause.message

/-- Every refused fragment is a fault of the request. -/
def FragmentError.failure (e : FragmentError) : Failure := .validation e.message

/-- A join condition is an expression, written behind `ON` as it is. -/
def checkJoin (d : Dialect) (on : String) : Except FragmentError Unit :=
  if Text.allBlank on then .error .emptyJoin
  else match checkExpression d on with
    | .ok () => .ok ()
    | .error e => .error (.badJoin on e)

/-- What a raw value may not contain anywhere, in any letter case. -/
def forbiddenWords : List String := ["--", ";", "DROP"]

/-- A raw value is an expression without comments, further statements and drops. -/
def checkRaw (d : Dialect) (raw : String) : Except FragmentError Unit :=
  let upper := Text.uppercase raw
  -- Looked for everywhere, inside quotes too.
  match forbiddenWords.find? (Text.includes upper) with
  | some word => .error (.forbidden raw word)
  | none =>
    if Text.allBlank raw then .error .emptyRaw
    else match checkExpression d raw with
      | .ok () => .ok ()
      | .error e => .error (.badRaw e)

end QueryDesk.Sql
