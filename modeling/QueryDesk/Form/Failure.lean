import QueryDesk.Failure
import QueryDesk.Json.Basic

/-!
# JSON forms of failures

What is told of a failure. Failures of the store and of the program itself keep their message to
themselves; refused and unreachable operations come with advice.
-/

namespace QueryDesk.Failure

def detail (code message : String) (details : Option String) : Json :=
  .obj ([("code", .str code), ("message", .str message)] ++ Json.optional "details" .str details)

/-- The message that may be told. -/
def toldMessage (f : Failure) : String :=
  match f.kind with
  | .storage | .internal => FailureKind.internal.heading
  | _ => f.message

def advice? (f : Failure) : Option String :=
  match f.kind with
  | .policy =>
    some "The operation was rolled back. Narrow the filters or enable bulk updates explicitly."
  | .connection => some "Check the datasource host, port and credentials."
  | _ => none

def toJson (f : Failure) : Json :=
  .obj [("error", detail f.kind.code f.toldMessage f.advice?)]

end QueryDesk.Failure
