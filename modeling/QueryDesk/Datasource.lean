import QueryDesk.Connection.Config
import QueryDesk.Dialect
import QueryDesk.Time.Instant

/-!
# Datasources

A registered database: where it is, what may be done to it, and how far its inspection has come.
-/

namespace QueryDesk

/-- How the last inspection of a datasource went, or that one is going on. -/
inductive InspectionStatus where
  | ready
  | inspecting
  | failed
deriving DecidableEq, Inhabited

namespace InspectionStatus

def name : InspectionStatus → String
  | ready => "READY"
  | inspecting => "INSPECTING"
  | failed => "FAILED"

def ofName? (s : String) : Option InspectionStatus :=
  [ready, inspecting, failed].find? (·.name == s)

/-- The status with a name; any other name is read as ready. -/
def ofText (s : String) : InspectionStatus := (ofName? s).getD ready

theorem ofText_name (s : InspectionStatus) : ofText s.name = s := by
  cases s <;> decide

end InspectionStatus

/-- A registered database. Its password is kept in the form that the cipher gives it. -/
structure Datasource where
  id : String
  name : String
  dialect : Dialect
  url : String
  port : Option Nat
  user : String
  password : Option String
  database : String
  schema : Option String
  allowInsert : Bool
  allowUpdate : Bool
  status : InspectionStatus
  createdAt : Instant
  lastInspected : Option Instant
deriving DecidableEq, Inhabited

/-- The settings for connecting with a password in the clear. -/
def Datasource.config (d : Datasource) (password : Option String) : ConnectionConfig :=
  { url := d.url, givenPort := d.port, user := d.user, password, database := d.database,
    givenSchema := d.schema }

/-- A request to register a database; the password is in the clear. -/
structure Registration where
  name : String
  dialect : Dialect
  url : String
  port : Option Nat
  user : String
  password : Option String
  database : String
  schema : Option String
  allowInsert : Bool
  allowUpdate : Bool
deriving DecidableEq, Inhabited

namespace Registration

inductive Fault where
  | noName
  | noHost
  | badUrl (cause : UrlError)
  | noDatabase
deriving DecidableEq

def Fault.failure : Fault → Failure
  | noName => .validation "Datasource name cannot be empty"
  | noHost => .validation "Datasource host cannot be empty"
  | badUrl cause => .validation ("Invalid datasource URL: " ++ cause.message)
  | noDatabase => .validation "Database name cannot be empty"

/-- The first fault of a registration. -/
def check (r : Registration) : Except Fault Unit :=
  if Text.allBlank r.name then .error .noName
  else if Text.allBlank r.url then .error .noHost
  else match ConnectionConfig.url? r.url with
    | some (.error e) => .error (.badUrl e)
    | _ => if Text.allBlank r.database then .error .noDatabase else .ok ()

def datasource (r : Registration) (id : String) (now : Instant) : Datasource :=
  { id, name := r.name, dialect := r.dialect, url := r.url, port := r.port, user := r.user,
    password := r.password, database := r.database, schema := r.schema,
    allowInsert := r.allowInsert, allowUpdate := r.allowUpdate, status := .ready,
    createdAt := now, lastInspected := none }

end Registration

end QueryDesk
