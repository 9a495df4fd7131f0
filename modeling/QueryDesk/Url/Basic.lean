import QueryDesk.Text.Percent
import QueryDesk.Text.Pieces

/-!
# URLs

The parts of an absolute URL, each already in its written form, and their text.
-/

namespace QueryDesk

inductive UrlError where
  | relative
  | emptyHost
  | badName
  | badPort
  | badIpv4
  | badIpv6
  | badHostCharacter
deriving DecidableEq

def UrlError.message : UrlError → String
  | relative => "relative URL without a base"
  | emptyHost => "empty host"
  | badName => "invalid international domain name"
  | badPort => "invalid port number"
  | badIpv4 => "invalid IPv4 address"
  | badIpv6 => "invalid IPv6 address"
  | badHostCharacter => "invalid domain character"

/-- A path: segments behind slashes, or a text without structure. -/
inductive UrlPath where
  | segments (parts : List String)
  | opaqueText (text : String)
deriving DecidableEq, Inhabited

/-- An absolute URL. A host may be missing, or present and empty. -/
structure Url where
  scheme : String
  username : String
  password : String
  host : Option String
  port : Option Nat
  path : UrlPath
  query : Option String
  fragment : Option String
deriving DecidableEq, Inhabited

namespace Url

/-- Schemes whose hosts are names or addresses of the internet, and their usual ports. -/
def usualPort? (scheme : String) : Option Nat :=
  if scheme == "http" || scheme == "ws" then some 80
  else if scheme == "https" || scheme == "wss" then some 443
  else if scheme == "ftp" then some 21
  else none

def isSpecial (scheme : String) : Bool := scheme == "file" || (usualPort? scheme).isSome

/-- The host, if there is one that names something. -/
def hostName? (u : Url) : Option String := u.host.filter (· != "")

def hasPassword (u : Url) : Bool := u.password != ""

def userText (u : Url) : String :=
  if u.username == "" && u.password == "" then ""
  else u.username ++ (if u.password == "" then "" else ":" ++ u.password) ++ "@"

def portText (u : Url) : String :=
  match u.port with
  | some n => ":" ++ toString n
  | none => ""

def pathText (u : Url) : String :=
  match u.path with
  | .opaqueText s => s
  | .segments parts =>
    let body := String.join (parts.map ("/" ++ ·))
    match u.host, parts with
    | none, "" :: _ :: _ => "/." ++ body
    | _, _ => body

def text (u : Url) : String :=
  let authority := match u.host with
    | some h => "//" ++ u.userText ++ h ++ u.portText
    | none => ""
  u.scheme ++ ":" ++ authority ++ u.pathText
    ++ (match u.query with
      | some q => "?" ++ q
      | none => "")
    ++ (match u.fragment with
      | some f => "#" ++ f
      | none => "")

/-! ### Characters that are encoded -/

def isControl (c : Char) : Bool := c.toNat < 32 || 126 < c.toNat

def inFragment (c : Char) : Bool := isControl c || [' ', '"', '<', '>', '`'].contains c

def inPath (c : Char) : Bool := inFragment c || ['#', '?', '\x7b', '\x7d'].contains c

def inUser (c : Char) : Bool :=
  inPath c || ['/', ':', ';', '=', '@', '[', '\\', ']', '^', '|'].contains c

def inQuery (special : Bool) (c : Char) : Bool :=
  isControl c || [' ', '"', '#', '<', '>'].contains c || (special && c == '\'')

end Url

end QueryDesk
