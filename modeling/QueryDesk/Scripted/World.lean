import QueryDesk.Desk.Inspection
import QueryDesk.Schema.Catalog
import QueryDesk.Scripted.Behaviour
import QueryDesk.Session.Policy

/-!
# A scripted world

Surroundings for a desk: a store, claims, and a factory whose connections behave as they are told.
Connections are numbered in the order of the attempts. Inspections can be held at a gate, and what
hangs goes on only when time passes.
-/

namespace QueryDesk.Scripted

/-- A gate in front of inspections: whether one inspection may pass at once, and the connections
that wait. -/
structure Gate where
  passes : Bool
  waiting : List Nat
deriving DecidableEq, Inhabited

structure Link where
  number : Nat
  dialect : Dialect
  closed : Bool
deriving DecidableEq, Inhabited

/-- A background task under a name; `asked` when it stands at a call that it has made. -/
structure Background where
  name : String
  program : DeskTask Nat
  asked : Bool

structure World where
  store : Store
  claims : List String
  log : List LogEntry
  attempts : Nat
  links : List Link
  connect : Behaviour
  check : Behaviour
  close : Behaviour
  inspect : Behaviour
  catalog : Catalog
  scripts : List Script
  timeout : Nat
  gate : Option Gate
  /-- Connections held at this gate or at one that is gone. -/
  held : List Nat
  /-- Calls that hang run out of time; otherwise they wait. -/
  clock : Bool
  /-- A call has run out of time. -/
  elapsed : Bool
  now : Instant
deriving Inhabited

namespace World

/-- A world in which everything works and nothing is stored. -/
def new (now : Instant) : World :=
  { store := Store.empty, claims := [], log := [], attempts := 0, links := []
    connect := .works, check := .works, close := .works, inspect := .works
    catalog := Catalog.empty, scripts := [], timeout := 10, gate := none
    held := [], clock := true, elapsed := false, now }

def note (w : World) (e : LogEntry) : World := { w with log := w.log ++ [e] }

/-! ### Settings -/

/-- Puts up a new gate, or none. -/
def setGate (w : World) (present : Bool) : World :=
  { w with gate := if present then some ⟨false, []⟩ else none }

/-- Lets one inspection pass: the first that waits, or the next one that comes. -/
def release (w : World) : World :=
  match w.gate with
  | none => w
  | some g =>
    match g.waiting with
    | link :: rest => { w with gate := some { g with waiting := rest }, held := w.held.erase link }
    | [] => { w with gate := some { g with passes := true } }

/-! ### Calls -/

/-- The reply to a call by its behaviour; what hangs is answered when time passes. -/
def timed {α : Type} (w : World) (b : Behaviour) (a : α) : Option (Except Failure α) × World :=
  match b.reply a with
  | some r => (some r, w)
  | none =>
    if w.clock then (some (.error (SessionProgram.timedOut w.timeout)), { w with elapsed := true })
    else (none, w)

/-- Notes a call, unless it was noted before. -/
def noteOnce (w : World) (again : Bool) (e : LogEntry) : World := if again then w else w.note e

def dialectOf (w : World) (link : Nat) : Dialect :=
  ((w.links.find? (·.number == link)).map (·.dialect)).getD .mysql

def isClosed (w : World) (link : Nat) : Bool :=
  (w.links.find? (·.number == link)).any (·.closed)

def answerConnect (again : Bool) (w : World) (d : Dialect) (c : ConnectionConfig) :
    Option (Except Failure Nat) × World :=
  let number := w.attempts + 1
  let noted := if again then w else { w with attempts := number }.note (.connect number d c)
  match noted.timed noted.connect noted.attempts with
  | (some (.ok n), w) => (some (.ok n), { w with links := w.links ++ [⟨n, d, false⟩] })
  | other => other

def answerClose (again : Bool) (w : World) (link : Nat) : Option (Except Failure Unit) × World :=
  let noted := w.noteOnce again (.close link)
  match noted.timed noted.close () with
  | (some (.ok ()), w) =>
    (some (.ok ()), { w with
      links := w.links.map fun l => if l.number = link then { l with closed := true } else l })
  | other => other

/-- What an inspection reads, once nothing holds it. -/
def read (w : World) : Option (Except Failure (List Snapshot)) × World :=
  w.timed w.inspect (w.catalog.snapshots w.now)

def answerInspect (again : Bool) (w : World) (link : Nat) :
    Option (Except Failure (List Snapshot)) × World :=
  if again then if w.held.contains link then (none, w) else w.read
  else
    let w := w.note (.inspect link)
    match w.gate with
    | none => w.read
    | some g =>
      if g.passes then { w with gate := some { g with passes := false } }.read
      else (none, { w with
        gate := some { g with waiting := g.waiting ++ [link] }, held := link :: w.held })

def answerCheck (again : Bool) (w : World) (link : Nat) : Option (Except Failure Unit) × World :=
  let noted := w.noteOnce again (.check link)
  noted.timed noted.check ()

def answerExecute (w : World) (link : Nat) (q : Query) : Except Failure Outcome × World :=
  let script := w.scripts.head?.getD Script.plain
  let answer (c : SessionCall) (s : List LogEntry × Bool) : c.Reply × List LogEntry × Bool :=
    let (reply, log) := script.answer c s.1
    (reply, log, s.2 || script.behaviour c == .hangs)
  let (outcome, log, elapsed) :=
    (Policy.execute (w.dialectOf link) w.timeout q).run answer (w.log, w.elapsed)
  (outcome, { w with scripts := w.scripts.drop 1, log, elapsed })

/-- Answers a call of a desk, or leaves it waiting. -/
def answer (again : Bool) (c : DeskCall) (w : World) : Option c.Reply × World :=
  match c with
  | .load id => (some (w.store.get id), w)
  | .snapshots id tables => (some (w.store.snapshots id tables), w)
  | .save d => (some (.ok ()), { w with store := w.store.save d })
  | .setStatus id status =>
    let (r, store) := w.store.setStatus id status
    (some r, { w with store })
  | .replace id snapshots =>
    let (r, store) := w.store.replace id snapshots
    (some r, { w with store })
  | .stamp id => (some (.ok ()), { w with store := w.store.markInspected id w.now })
  | .claim id =>
    if w.claims.contains id then (some false, w)
    else (some true, { w with claims := id :: w.claims })
  | .release id => (some (), { w with claims := w.claims.erase id })
  | .connect d c => w.answerConnect again d c
  | .inspect link => w.answerInspect again link
  | .check link => w.answerCheck again link
  | .execute link q =>
    let (r, w) := w.answerExecute link q
    (some r, w)
  | .close link => w.answerClose again link
  | .isClosed link => (some (w.isClosed link), w)

/-- Runs a computation whose caller waits for it, so that time passes while a call hangs. -/
def perform {α : Type} (w : World) (p : DeskProgram α) : Option α × World :=
  let (p, w) := p.advance answer false { w with clock := true }
  (p.result?, w)

def runEach (w : World) : List Background → List Background × World
  | [] => ([], w)
  | t :: rest =>
    let (program, w) := t.program.advance answer t.asked w
    let (rest, w) := runEach w rest
    (⟨t.name, program, true⟩ :: rest, w)

/-- Runs the background tasks until they wait. Hanging calls go on if time has passed. -/
def settle (w : World) (tasks : List Background) : List Background × World :=
  let (tasks, w) := runEach { w with clock := w.elapsed } tasks
  (tasks, { w with elapsed := false })

end World

end QueryDesk.Scripted
