/-!
# Failures

What an operation answers when it does not succeed: a kind, which fixes the code and the HTTP
status, and a message. The modules that can fail have causes of their own and say here how a cause
is put into words.
-/

namespace QueryDesk

inductive FailureKind where
  | parse
  | validation
  | policy
  | connection
  | execution
  | notFound
  | conflict
  | storage
  | internal
deriving DecidableEq, Inhabited

namespace FailureKind

def code : FailureKind → String
  | parse => "PARSE_ERROR"
  | validation => "VALIDATION_ERROR"
  | policy => "POLICY_ERROR"
  | connection => "CONNECTION_ERROR"
  | execution => "EXECUTION_ERROR"
  | notFound => "NOT_FOUND"
  | conflict => "CONFLICT"
  | storage => "STORAGE_ERROR"
  | internal => "INTERNAL_ERROR"

def heading : FailureKind → String
  | parse => "Parse error"
  | validation => "Validation error"
  | policy => "Policy error"
  | connection => "Connection error"
  | execution => "Execution error"
  | notFound => "Not found"
  | conflict => "Conflict"
  | storage => "Storage error"
  | internal => "Internal server error"

def status : FailureKind → Nat
  | parse => 400
  | validation => 400
  | execution => 400
  | policy => 403
  | connection => 502
  | notFound => 404
  | conflict => 409
  | storage => 500
  | internal => 500

def all : List FailureKind :=
  [parse, validation, policy, connection, execution, notFound, conflict, storage, internal]

/-- The kind with a code; a code that names none is an internal failure. -/
def ofCode (code : String) : FailureKind :=
  (all.find? (·.code == code)).getD internal

theorem ofCode_code (k : FailureKind) : ofCode k.code = k := by
  cases k <;> decide

end FailureKind

structure Failure where
  kind : FailureKind
  message : String
deriving DecidableEq, Inhabited

namespace Failure

def display (f : Failure) : String := f.kind.heading ++ ": " ++ f.message

def validation (message : String) : Failure := ⟨.validation, message⟩

def policy (message : String) : Failure := ⟨.policy, message⟩

def connection (message : String) : Failure := ⟨.connection, message⟩

def execution (message : String) : Failure := ⟨.execution, message⟩

def notFound (message : String) : Failure := ⟨.notFound, message⟩

def conflict (message : String) : Failure := ⟨.conflict, message⟩

def storage (message : String) : Failure := ⟨.storage, message⟩

/-- The connection was closed before. -/
def closed : Failure := connection "Connection is closed"

/-- No connection came about. The reason may name hosts or users and is not told. -/
def unreachable : Failure := connection "Failed to connect to the database"

end Failure

end QueryDesk
