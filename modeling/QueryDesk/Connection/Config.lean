import QueryDesk.Text.Shown
import QueryDesk.Url.Reading

/-!
# Connection settings

What is needed to open one connection. The host may be given as a name or as a URL, whose host and
port then count.
-/

namespace QueryDesk

structure ConnectionConfig where
  url : String
  givenPort : Option Nat
  user : String
  password : Option String
  database : String
  givenSchema : Option String
deriving DecidableEq, Inhabited

namespace ConnectionConfig

/-- What a text names as a URL; only a text with `://` in it is read as one. -/
def url? (text : String) : Option (Except UrlError Url) :=
  if Text.includes text "://" then some (Url.read text) else none

/-- The host to connect to: that of the URL, or the text itself. -/
def host (c : ConnectionConfig) : String :=
  match url? c.url with
  | some (.ok u) => u.hostName?.getD c.url
  | _ => c.url

/-- The port that is given, or else the port of the URL. -/
def port (c : ConnectionConfig) : Option Nat :=
  match c.givenPort, url? c.url with
  | some n, _ => some n
  | none, some (.ok u) => u.port
  | none, _ => none

/-- The schema that is given, `public` when there is none. -/
def schema (c : ConnectionConfig) : String :=
  match c.givenSchema with
  | some s => if s == "" then "public" else s
  | none => "public"

/-- The host of the machine as it is seen from within a container. -/
def dockerHost : String := "host.docker.internal"

/-- Settings that reach this machine from within a container: the first occurrence of a loopback
host in the text of the URL is replaced. -/
def withDockerHost (c : ConnectionConfig) : ConnectionConfig :=
  if c.host = "localhost" ∨ c.host = "127.0.0.1" then
    { c with url := Text.replaceFirst c.url c.host dockerHost }
  else c

/-- The settings as they are shown; whether there is a password is told, the password is not. -/
def shown (c : ConnectionConfig) : String :=
  "DynamicConnectionConfig \x7b url: " ++ Text.shown c.url
    ++ ", port: " ++ Text.shownOption toString c.givenPort
    ++ ", user: " ++ Text.shown c.user
    ++ ", password: " ++ Text.shownOption (fun _ => "\"***\"") c.password
    ++ ", database: " ++ Text.shown c.database
    ++ ", schema: " ++ Text.shownOption Text.shown c.givenSchema ++ " \x7d"

end ConnectionConfig

/-- A URL as it may be shown: its password is replaced, and a text that should be a URL but is none
is not shown at all. -/
def maskCredentials (text : String) : String :=
  match ConnectionConfig.url? text with
  | none => text
  | some (.error _) => "[invalid-url]"
  | some (.ok u) => (if u.hasPassword then { u with password := "***" } else u).text

end QueryDesk
