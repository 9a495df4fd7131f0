import QueryDesk.Text.Percent
import QueryDesk.Text.Pieces

/-!
# Targets and query strings

The target of a request is a path and, behind a question mark, a query. The parts of a path are
percent-encoded texts between slashes; a query is a list of pairs in which a plus is a blank.
-/

namespace QueryDesk.Http

structure Target where
  path : List Char
  query : List Char
deriving DecidableEq, Inhabited

namespace Target

/-- A character that a target may hold as it is. -/
def isPathChar (c : Char) : Bool :=
  32 < c.toNat && !(['#', '<', '>', '?', '`'].contains c)

def isQueryChar (c : Char) : Bool := 32 < c.toNat && !(['"', '#', '<', '>'].contains c)

/-- A path with its query; a fragment is dropped. -/
def ofPath? (cs : List Char) : Option Target :=
  let cs := cs.takeWhile (· != '#')
  let path := cs.takeWhile (· != '?')
  let query := (cs.drop path.length).drop 1
  if !path.all isPathChar || !query.all isQueryChar then none else some ⟨path, query⟩

/-- What has been met of a host: colons that may come before a port, brackets, percent signs. -/
structure HostScan where
  colons : Nat
  opened : Bool
  closed : Bool
  percent : Bool

/-- One character of a host with its user and port. -/
def HostScan.step (s : HostScan) (c : Char) : Option HostScan :=
  if c == ':' then if 8 ≤ s.colons then none else some { s with colons := s.colons + 1 }
  else if c == '[' then if s.percent || s.opened then none else some { s with opened := true }
  else if c == ']' then
    -- The colons and percent signs so far were those of an address.
    if !s.opened || s.closed then none
    else some { s with colons := 0, closed := true, percent := false }
  else if c == '@' then some { s with colons := 0, percent := false }
  else if c == '%' then some { s with percent := true }
  else if c.isAlphanum || "!$&'()*+,-.;=_~".toList.contains c then some s
  else none

/-- A host, with a user in front of it and a port behind it or without. -/
def isHost (cs : List Char) : Bool :=
  match cs.foldlM HostScan.step ⟨0, false, false, false⟩ with
  | some s => s.opened == s.closed && s.colons ≤ 1 && !s.percent && cs.getLast? != some '@'
  | none => false

/-- What stands behind a scheme and its two slashes. -/
def behindScheme? (cs : List Char) : Option (List Char) :=
  match cs.dropWhile fun c => c.isAlphanum || c == '+' || c == '-' || c == '.' with
  | ':' :: '/' :: '/' :: r => some r
  | _ => none

/-- The target that a text names: a path, a whole URL, whose path counts, or a host alone, which has
none. -/
def ofText? (s : String) : Option Target :=
  match s.toList with
  | [] => none
  | '/' :: r => ofPath? ('/' :: r)
  | ['*'] => some ⟨['*'], []⟩
  | cs =>
    let (rest, absolute) := match behindScheme? cs with
      | some r => (r, true)
      | none => (cs, false)
    let host := rest.takeWhile fun c => c != '/' && c != '?' && c != '#'
    if host.isEmpty || !isHost host then none
    else match absolute, rest.drop host.length with
      | false, [] => some ⟨[], []⟩
      | false, _ => none
      | true, r => (ofPath? r).map fun t => if t.path.isEmpty then { t with path := ['/'] } else t

/-- The parts of the path between its slashes; a path begins with one. -/
def parts (t : Target) : List (List Char) :=
  match t.path with
  | '/' :: r => Text.pieces '/' r
  | _ => []

end Target

/-- A part of a path as text, unless its bytes are none. -/
def pathText? (part : List Char) : Option String :=
  (Text.ofUtf8? (Text.percentDecode part)).map String.ofList

def queryText (part : List Char) : String :=
  let spaced := part.map fun c => if c == '+' then ' ' else c
  String.ofList (Text.ofUtf8 (Text.percentDecode spaced))

/-- The pairs of a query; a piece without equals sign has an empty value. -/
def pairs (query : List Char) : List (String × String) :=
  (Text.pieces '&' query).filterMap fun piece =>
    if piece.isEmpty then none
    else match Text.cutAt '=' piece with
      | some (k, v) => some (queryText k, queryText v)
      | none => some (queryText piece, "")

/-- A media type is JSON: `application/json` or `application/` something `+json`, in any letter
case, whatever its parameters. What stands behind a plus is a suffix of the name in front of it. -/
def isJsonType (contentType : String) : Bool :=
  let essence := (contentType.toList.takeWhile (· != ';')).map Char.toLower
  let isToken (c : Char) : Bool := c.isAlphanum || "!#$&-^_.+".toList.contains c
  let json := "json".toList
  match Text.cutAt '/' essence with
  | some (main, sub) =>
    let sub := (sub.reverse.dropWhile (· == ' ')).reverse
    let named := match Text.cutAt '+' sub.reverse with
      | some (suffix, name) => !name.isEmpty && (suffix.reverse == json || name.reverse == json)
      | none => sub == json
    main == "application".toList && sub.all isToken && named
  | none => false

end QueryDesk.Http
