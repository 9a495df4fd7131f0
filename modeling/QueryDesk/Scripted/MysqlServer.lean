import QueryDesk.Mysql.Connector
import QueryDesk.Text.Blank

/-!
# A scripted MySQL server

A server that answers statements by replies it was given, in their order, and queries about the
schema from a catalog. It notes what it is told. A statement is prepared once on a line, and its
reply goes with it.
-/

namespace QueryDesk.Scripted

open Mysql

structure MysqlReply where
  columns : List Column
  rows : List (List Cell)
  affected : Nat
  refusedAtPrepare : Option String
  refusedAtExecution : Option String
  hangsUp : Bool

def MysqlReply.empty : MysqlReply :=
  { columns := [], rows := [], affected := 0, refusedAtPrepare := none, refusedAtExecution := none
    hangsUp := false }

inductive MysqlEntry where
  | call (c : Call)
  | prepare (sql : String)
  | execute (params : List Param)
deriving DecidableEq

structure MysqlServer where
  reachable : Bool
  welcome : Except Fault Unit
  replies : List MysqlReply
  catalog : Catalog
  /-- Why a statement without parameters is refused. -/
  refusals : List (String × String)
  prepared : List (String × MysqlReply)
  lost : Bool
  log : List MysqlEntry

namespace MysqlServer

def note (s : MysqlServer) (e : MysqlEntry) : MysqlServer := { s with log := s.log ++ [e] }

def pingWord : String := "PING"

def squeezed (sql : String) : String := Text.join " " (Text.words sql)

def cellOf (s : String) : Cell := .bytes ((s.toList.flatMap Text.utf8).map UInt8.ofNat)

/-- Does what is asked for by a text, unless that is refused. -/
def simple {α : Type} (s : MysqlServer) (c : Call) (word : String) (a : α) :
    Except Fault α × MysqlServer :=
  if s.lost then (.error (.broken .before), s)
  else match s.refusals.lookup word with
    | some message => (.error (.refused message), s.note (.call c))
    | none => (.ok a, s.note (.call c))

def catalogRows (c : Catalog) (sql : String) : List (List String) :=
  if sql = tablesQuery then c.tables.map ([·])
  else if sql = keysQuery then c.primaryKeys.map fun (t, n) => [t, n]
  else if sql = referencesQuery then
    c.references.map fun r => [r.table, r.column, r.targetTable, r.targetColumn]
  else []

def nextReply (s : MysqlServer) (sql : String) : MysqlReply × MysqlServer :=
  if sql = columnsQuery then
    let rows := s.catalog.columns.map fun x => [x.table, x.name, x.declared].map cellOf
    ({ MysqlReply.empty with rows }, s)
  else (s.replies.head?.getD .empty, { s with replies := s.replies.drop 1 })

/-- Gives the reply of a statement that is prepared. -/
def reply (s : MysqlServer) (r : MysqlReply) (params : List Param) :
    Except Fault Answer × MysqlServer :=
  let s := s.note (.execute params)
  if r.hangsUp then (.error (.broken .during), { s with lost := true })
  else match r.refusedAtExecution with
    | some message => (.error (.refused message), s)
    | none => (.ok ⟨r.columns, r.rows, r.affected⟩, s)

/-- Executes a statement that is prepared. A wrong count of parameters breaks the line. -/
def run (s : MysqlServer) (sql : String) (r : MysqlReply) (params : List Param) :
    Except Fault Answer × MysqlServer :=
  let wanted := parameterCount sql
  if params.length = wanted then s.reply r params
  else (.error (.miscounted wanted params.length), { s with lost := true })

def execute (s : MysqlServer) (sql : String) (params : List Param) :
    Except Fault Answer × MysqlServer :=
  if s.lost then (.error (.broken .before), s)
  else match s.prepared.lookup sql with
    | some r => s.run sql r params
    | none =>
      let (r, s) := (s.note (.prepare (squeezed sql))).nextReply sql
      match r.refusedAtPrepare with
      | some message => (.error (.refused message), s)
      | none => { s with prepared := (sql, r) :: s.prepared }.run sql r params

def answer (c : Call) (s : MysqlServer) : c.Reply × MysqlServer :=
  match c with
  | .dial host port =>
    if s.reachable then (true, s.note (.call (.dial host port))) else (false, s)
  | .login l => (s.welcome, s.note (.call (.login l)))
  | .command sql => s.simple (.command (squeezed sql)) (squeezed sql) ()
  | .read sql => s.simple (.read (squeezed sql)) (squeezed sql) (catalogRows s.catalog sql)
  | .ping => s.simple .ping pingWord ()
  | .execute sql params => s.execute sql params
  | .quit => (.ok (), s)

end MysqlServer

end QueryDesk.Scripted
