import QueryDesk.Postgres.Connector
import QueryDesk.Text.Blank

/-!
# A scripted PostgreSQL server

A server that answers statements by replies it was given, in their order, and queries about the
schema from a catalog. It notes what it is told.
-/

namespace QueryDesk.Scripted

open Postgres

structure PostgresReply where
  columns : List Column
  rows : List (List (Option (List UInt8)))
  tag : String
  refusedAtPrepare : Option String
  refusedAtExecution : Option String
  hangsUp : Bool

def PostgresReply.empty : PostgresReply :=
  { columns := [], rows := [], tag := "SELECT 0", refusedAtPrepare := none
    refusedAtExecution := none, hangsUp := false }

/-- What the statement that was prepared last answers. -/
inductive PostgresPrepared where
  | reply (r : PostgresReply)
  | texts (rows : List (List String))
  /-- The sources of columns, which are among the parameters. -/
  | sources

structure PostgresServer where
  reachable : Bool
  greeting : Except Fault Greeting
  replies : List PostgresReply
  catalog : Catalog
  /-- Table and column of each source. -/
  sources : List (String × String × String)
  /-- Why a statement without parameters is refused. -/
  refusals : List (String × String)
  prepared : PostgresPrepared
  /-- How many parameters the statement that was prepared last takes. -/
  wanted : Nat
  lost : Bool
  log : List Call

namespace PostgresServer

def note (s : PostgresServer) (c : Call) : PostgresServer := { s with log := s.log ++ [c] }

def cellOf (s : String) : Option (List UInt8) :=
  some ((s.toList.flatMap Text.utf8).map UInt8.ofNat)

def answerOf (rows : List (List String)) : Answer := ⟨rows.map (·.map cellOf), ""⟩

def catalogRows? (c : Catalog) (sql : String) : Option (List (List String)) :=
  if sql = tablesQuery then some (c.tables.map ([·]))
  else if sql = keysQuery then some (c.primaryKeys.map fun (t, n) => [t, n])
  else if sql = referencesQuery then
    some (c.references.map fun r => [r.table, r.column, r.targetTable, r.targetColumn])
  else if sql = columnsQuery then some (c.columns.map fun x => [x.table, x.name, x.declared])
  else none

def command (s : PostgresServer) (sql : String) : Except Fault Unit × PostgresServer :=
  if s.lost then (.error .lost, s)
  else match s.refusals.lookup sql with
    | some message => (.error (.refused message), s.note (.command sql))
    | none => (.ok (), s.note (.command sql))

def prepare (s : PostgresServer) (sql : String) : Except Fault (List Column) × PostgresServer :=
  if s.lost then (.error .lost, s)
  else
    let s := { s.note (.prepare (Text.join " " (Text.words sql))) with wanted := parameterCount sql }
    if sql = sourcesQuery then (.ok [], { s with prepared := .sources })
    else match catalogRows? s.catalog sql with
      | some rows => (.ok [], { s with prepared := .texts rows })
      | none =>
        let reply := s.replies.head?.getD .empty
        let s := { s with replies := s.replies.drop 1 }
        match reply.refusedAtPrepare with
        | some message => (.error (.refused message), s)
        | none => (.ok reply.columns, { s with prepared := .reply reply })

def holds (key : String) : Param → Bool
  | .texts keys => keys.contains key
  | _ => false

def knownSources (s : PostgresServer) (params : List Param) : List (List String) :=
  (s.sources.filter fun (key, _, _) => params.any (holds key)).map fun (key, table, column) =>
    [key, table, column]

def bind (s : PostgresServer) (params : List Param) : Except Fault Answer × PostgresServer :=
  if s.lost then (.error .lost, s)
  else if params.length ≠ s.wanted then (.error (.miscounted s.wanted params.length), s)
  else
    let s := s.note (.bind params)
    match s.prepared with
    | .texts rows => (.ok (answerOf rows), s)
    | .sources => (.ok (answerOf (s.knownSources params)), s)
    | .reply r =>
      if r.hangsUp then (.error .lost, { s with lost := true })
      else match r.refusedAtExecution with
        | some message => (.error (.refused message), s)
        | none => (.ok ⟨r.rows, r.tag⟩, s)

def answer (c : Call) (s : PostgresServer) : c.Reply × PostgresServer :=
  match c with
  | .dial host port => if s.reachable then (true, s.note (.dial host port)) else (false, s)
  | .startup user database => (s.greeting, s.note (.startup user database))
  | .password p => (.ok (), s.note (.password p))
  | .command sql => s.command sql
  | .prepare sql => s.prepare sql
  | .bind params => s.bind params
  | .isLost => (s.lost, s)
  | .terminate => ((), s)

end PostgresServer

end QueryDesk.Scripted
