import QueryDesk.Number.Reading
import QueryDesk.Text.Case

/-!
# Settings

How a service is set up: by variables of its environment, each with a value that stands for a missing
or unreadable one.
-/

namespace QueryDesk

/-- How a service is set up. Timeouts are in seconds. -/
structure Settings where
  database : String
  host : String
  port : Nat
  pageSize : Nat
  dockerMode : Bool
  queryTimeout : Nat
  connectTimeout : Nat
  logLevel : String
deriving DecidableEq, Inhabited

namespace Settings

def default : Settings :=
  { database := "./tablewise.db", host := "0.0.0.0", port := 3000, pageSize := 20
    dockerMode := false, queryTimeout := 10, connectTimeout := 10, logLevel := "info" }

/-- A variable as a number up to `top`; `missing` stands for anything else. -/
def numberOr (missing top : Nat) (value : Option String) : Nat :=
  (value.bind fun s => Number.readUpTo? top s.toList).getD missing

/-- A variable says yes, in any letter case. -/
def isYes (value : Option String) : Bool :=
  value.any fun s => ["1", "true", "yes"].contains (Text.lowercase s)

/-- The settings that the variables of an environment ask for. -/
def ofEnvironment (value? : String → Option String) : Settings :=
  { database := (value? "DATABASE_URL").getD default.database
    host := (value? "HOST").getD default.host
    port := numberOr default.port 65535 (value? "PORT")
    pageSize := default.pageSize
    dockerMode := isYes (value? "DOCKER_MODE")
    queryTimeout := numberOr default.queryTimeout (Nat.pow 2 64 - 1) (value? "QUERY_TIMEOUT_SECS")
    connectTimeout := numberOr default.connectTimeout (Nat.pow 2 64 - 1) (value? "CONNECT_TIMEOUT_SECS")
    logLevel := (value? "RUST_LOG").getD default.logLevel }

def address (s : Settings) : String := s.host ++ ":" ++ toString s.port

end Settings

end QueryDesk
