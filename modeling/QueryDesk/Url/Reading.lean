import QueryDesk.Url.Host

/-!
# Reading URLs

An absolute URL from its text. Control characters and blanks around it are dropped, tabs and line
ends anywhere in it. Each part is brought into its written form: characters that may not stand in
it are percent-encoded, dots in a path are resolved, a usual port is left out.
-/

namespace QueryDesk.Url

/-- The text without what is dropped before reading. -/
def cleaned (s : String) : List Char :=
  let outer (c : Char) : Bool := c.toNat ≤ 32
  let cs := (s.toList.dropWhile outer).reverse.dropWhile outer
  cs.reverse.filter fun c => !(c == '\t' || c == '\n' || c == '\r')

def scheme? (cs : List Char) : Option (String × List Char) :=
  match cs with
  | [] => none
  | c :: _ =>
    if !c.isAlpha then none
    else
      let isPart (c : Char) : Bool := c.isAlphanum || c == '+' || c == '-' || c == '.'
      match cs.dropWhile isPart with
      | ':' :: r => some (String.ofList ((cs.takeWhile isPart).map Char.toLower), r)
      | _ => none

/-- Ends an authority. -/
def endsAuthority (special : Bool) (c : Char) : Bool :=
  c == '/' || c == '?' || c == '#' || (special && c == '\\')

/-! ### Authorities -/

/-- What stands before and behind the last `c`. -/
def cutAtLast (c : Char) (cs : List Char) : Option (List Char × List Char) :=
  (Text.cutAt c cs.reverse).map fun (b, a) => (a.reverse, b.reverse)

def encodeUser (cs : List Char) : String := String.ofList (Text.percentEncode inUser cs)

/-- User name and password of an authority, and what is left of it. An `@` in front of nothing, with
more of the URL behind it, has no host. -/
def readUser (authority : List Char) (more : Bool) :
    Except UrlError (String × String × List Char) :=
  match cutAtLast '@' authority with
  | none => .ok ("", "", authority)
  | some (user, host) =>
    if user.isEmpty && host.isEmpty && more then .error .emptyHost
    else match Text.cutAt ':' user with
      | some (name, password) => .ok (encodeUser name, encodeUser password, host)
      | none => .ok (encodeUser user, "", host)

/-- The host of an authority and the text of a port, if there is one. A colon between brackets is
part of the host. -/
def splitPort (inside : Bool) : List Char → List Char × Option (List Char)
  | [] => ([], none)
  | c :: r =>
    if c == ':' && !inside then ([], some r)
    else
      let (host, port) := splitPort (if c == '[' then true else if c == ']' then false else inside) r
      (c :: host, port)

/-- The digits of a port; a backslash ends them in any scheme. No digits are no port. -/
def readPort (scheme : String) (cs : List Char) : Except UrlError (Option Nat × List Char) :=
  let ds := cs.takeWhile Char.isDigit
  let rest := cs.drop ds.length
  let n := Number.digitsValue ds
  if 65535 < n then .error .badPort
  else match rest with
    | c :: _ => if c == '\\' then .ok (usual ds n, rest) else .error .badPort
    | [] => .ok (usual ds n, [])
where
  usual (ds : List Char) (n : Nat) : Option Nat :=
    if ds.isEmpty || usualPort? scheme == some n then none else some n

/-! ### Paths -/

def isDouble (segment : String) : Bool :=
  ["..", ".%2e", "%2e.", "%2e%2e"].contains (Text.lowercase segment)

def isSingle (segment : String) : Bool := [".", "%2e"].contains (Text.lowercase segment)

/-- A letter and a colon or a bar: the name of a drive. -/
def isDrive : List Char → Bool
  | [a, b] => a.isAlpha && (b == ':' || b == '|')
  | _ => false

/-- The path without its last segment; a drive is not left. -/
def shorten (file : Bool) (parts : List String) : List String :=
  match parts with
  | [p] => if file && isDrive p.toList && p.toList.getLast? == some ':' then parts else []
  | _ => parts.dropLast

/-- Adds a segment to a path; `final` when nothing comes behind it. -/
def addSegment (file : Bool) (parts : List String) (segment : List Char) (final : Bool) :
    List String :=
  let s := String.ofList (Text.percentEncode inPath segment)
  if isDouble s then (if final then shorten file parts ++ [""] else shorten file parts)
  else if isSingle s then (if final then parts ++ [""] else parts)
  else if file && parts.isEmpty && isDrive segment then
    -- A bar is written as a colon.
    [String.ofList (segment.take 1 ++ [':'])]
  else parts ++ [s]

def resolve (file : Bool) : List String → List (List Char) → List String
  | parts, [] => parts
  | parts, [last] => addSegment file parts last true
  | parts, s :: rest => resolve file (addSegment file parts s false) rest

/-- The segments of a path whose first slash has been read. -/
def readSegments (scheme : String) (cs : List Char) : List String :=
  let cs := if isSpecial scheme then cs.map fun c => if c == '\\' then '/' else c else cs
  let file := scheme == "file"
  let parts := resolve file [] (Text.pieces '/' cs)
  if file then
    let kept := parts.dropWhile (· == "")
    if kept.isEmpty then [""] else kept
  else parts

/-! ### The whole -/

def splitTail (cs : List Char) : List Char × Option (List Char) × Option (List Char) :=
  let (front, fragment) := match Text.cutAt '#' cs with
    | some (a, b) => (a, some b)
    | none => (cs, none)
  match Text.cutAt '?' front with
  | some (a, b) => (a, some b, fragment)
  | none => (front, none, fragment)

def encodeQuery (special : Bool) (cs : List Char) : String :=
  String.ofList (Text.percentEncode (inQuery special) cs)

def encodeFragment (cs : List Char) : String := String.ofList (Text.percentEncode inFragment cs)

/-- A URL from its parts, path, query and fragment still to be read. -/
def finish (scheme username password : String) (host : Option String) (port : Option Nat)
    (tail : List Char) : Url :=
  let (path, query, fragment) := splitTail tail
  let parts := match path with
    -- A special scheme has a path, if only the root.
    | [] => if isSpecial scheme then [""] else []
    | c :: r =>
      if c == '/' || (c == '\\' && isSpecial scheme) then readSegments scheme r
      else readSegments scheme (c :: r)
  { scheme, username, password, host, port
    path := .segments parts
    query := query.map (encodeQuery (isSpecial scheme))
    fragment := fragment.map encodeFragment }

def readAuthority (scheme : String) (cs : List Char) : Except UrlError Url := do
  let special := isSpecial scheme
  let authority := cs.takeWhile (!endsAuthority special ·)
  let tail := cs.drop authority.length
  let (username, password, rest) ← readUser authority (!tail.isEmpty)
  let (hostText, portText) := splitPort false rest
  if special && hostText.isEmpty then throw .emptyHost
  let host ← if special then Host.read hostText else Host.readPlain hostText
  -- Neither a port nor a user can do without a host.
  if host == "" && portText.isSome then throw .emptyHost
  let (port, beyond) ← match portText with
    | some p => readPort scheme p
    | none => pure (none, [])
  if host == "" && (username != "" || password != "") then throw .emptyHost
  pure (finish scheme username password (some host) port (beyond ++ tail))

/-- A path that names a file, its host aside. -/
def filePath (host : String) (cs : List Char) : Url :=
  let u := finish "file" "" "" (some host) none cs
  match u.path with
  | .segments (p :: _) => if isDrive p.toList then { u with host := some "" } else u
  | _ => u

def readFile (cs : List Char) : Except UrlError Url :=
  let isSlash (c : Char) : Bool := c == '/' || c == '\\'
  match cs with
  | a :: b :: r =>
    if isSlash a && isSlash b then
      let hostText := r.takeWhile (!endsAuthority true ·)
      -- What looks like a drive belongs to the path.
      if isDrive hostText then .ok (filePath "" r)
      else if hostText.isEmpty then .ok (filePath "" r)
      else do
        let host ← Host.read hostText
        pure (filePath (if host == "localhost" then "" else host) (r.drop hostText.length))
    else .ok (filePath "" (a :: b :: r))
  | r => .ok (filePath "" r)

/-- A URL without authority behind its colon. -/
def readPathOnly (scheme : String) (cs : List Char) : Url :=
  match cs with
  | '/' :: _ => finish scheme "" "" none none cs
  | _ =>
    let (path, query, fragment) := splitTail cs
    { scheme, username := "", password := "", host := none, port := none
      path := .opaqueText (String.ofList (Text.percentEncode isControl path))
      query := query.map (encodeQuery false)
      fragment := fragment.map encodeFragment }

def read (s : String) : Except UrlError Url :=
  match scheme? (cleaned s) with
  | none => .error .relative
  | some (scheme, rest) =>
    if scheme == "file" then readFile rest
    else if isSpecial scheme then
      -- Any number of slashes opens the authority, leaning either way.
      readAuthority scheme (rest.dropWhile fun c => c == '/' || c == '\\')
    else match rest with
      | '/' :: '/' :: r => readAuthority scheme r
      | r => .ok (readPathOnly scheme r)

end QueryDesk.Url
