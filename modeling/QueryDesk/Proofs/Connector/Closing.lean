import QueryDesk.Mysql.Connector
import QueryDesk.Postgres.Connector
import QueryDesk.Proofs.Exchanges

/-!
# Closed connectors

The course of a connector: a history of operations at their moments, on a line to a server that
answers in any way, and after each of them the question whether the connector is closed. The two
kinds of connector keep this in different places, one in the line of its session and one in a mark
beside its client, and look at it at different times, in front of an operation or where a call reaches
the session. Main statement: from the first closing on, whatever the server says to it, both do the
same for every history: nothing is said on the line any more, the connector is closed, and every
operation is answered without the server.
-/

namespace QueryDesk

open Program

/-- What comes of an operation after a closing. -/
def ConnectorOperation.afterClose : ConnectorOperation → ConnectorResult
  | inspect => .inspected (.error .closed)
  | execute _ => .executed (.error .closed)
  | check => .checked (.error .closed)
  | close => .closed (.ok ())

/-- A kind of connector with states `κ` and a line of its own. -/
structure ConnectorKind {Call : Type} (Reply : Call → Type) (κ : Type) where
  perform : κ → Instant → ConnectorOperation → Program Reply (ConnectorResult × κ)
  isClosed : κ → Program Reply Bool
  /-- Was not closed yet. -/
  isHeld : κ → Bool
  /-- What is said to the server when the connector is closed. -/
  leave : Call

def Mysql.connectorKind : ConnectorKind Call.Reply Connector where
  perform := Connector.perform
  isClosed c := pure c.isClosed
  isHeld c := c.session.hasLine
  leave := .quit

def Postgres.connectorKind : ConnectorKind Call.Reply Connector where
  perform := Connector.perform
  isClosed := Connector.isClosed
  isHeld c := !c.closed && c.session.hasClient
  leave := .terminate

namespace ConnectorKind

variable {Call : Type} {Reply : Call → Type} {κ σ : Type}

/-- An operation in the course of a connector: what came of it, whether the connector said afterwards
that it is closed, and what was said on the line meanwhile. -/
structure Entry (Reply : Call → Type) where
  operation : ConnectorOperation
  result : ConnectorResult
  isClosed : Bool
  said : List (Exchange Reply)

/-- An operation that is answered without the server. -/
def Entry.silent (op : ConnectorOperation) : Entry Reply := ⟨op, op.afterClose, true, []⟩

def Entry.outcome (e : Entry Reply) : ConnectorOperation × ConnectorResult × Bool :=
  (e.operation, e.result, e.isClosed)

/-- Carries out an operation and asks whether the connector is closed. -/
def attend (k : ConnectorKind Reply κ) (c : κ) (now : Instant) (op : ConnectorOperation) :
    Program Reply ((ConnectorResult × Bool) × κ) := do
  let (r, c) ← k.perform c now op
  pure ((r, ← k.isClosed c), c)

def course (k : ConnectorKind Reply κ) (answer : (c : Call) → σ → Reply c × σ) :
    κ → σ → List (Instant × ConnectorOperation) → List (Entry Reply)
  | _, _, [] => []
  | c, s, (now, op) :: rest =>
    let (((r, closed), c'), s') := (k.attend c now op).run answer s
    ⟨op, r, closed, (k.attend c now op).exchanges answer s⟩ :: k.course answer c' s' rest

/-- A course with a closing after `before`: whatever comes of this closing, the connector is closed
and everything later is answered without the server. The server is left by the first closing of a
connector, and nothing is said to it by any other. -/
def Final (k : ConnectorKind Reply κ) (c : κ) (before later : List (Instant × ConnectorOperation))
    (l : List (Entry Reply)) : Prop :=
  ∃ front r said,
    l = front ++ ⟨.close, .closed r, true, said⟩ :: later.map (fun x => .silent x.2) ∧
    front.map (·.operation) = before.map (·.2) ∧
    said.map (·.call) = if k.isHeld c && before.all (·.2 != .close) then [k.leave] else []

theorem Final.outcomes {k : ConnectorKind Reply κ} {c : κ}
    {before later : List (Instant × ConnectorOperation)} {l : List (Entry Reply)}
    (h : k.Final c before later l) :
    (l.drop (before.length + 1)).map (·.outcome) =
      later.map fun x => (x.2, x.2.afterClose, true) := by
  obtain ⟨front, r, said, rfl, hfront, -⟩ := h
  have hlength : before.length = front.length := by
    simpa using (congrArg List.length hfront).symm
  rw [hlength, ← List.drop_drop, List.drop_left, List.drop_one, List.tail_cons, List.map_map]
  rfl

/-! ### Kinds of connectors that stay closed -/

/-- What a kind of connector does where a closing may be behind it. -/
structure StaysClosed (k : ConnectorKind Reply κ) : Prop where
  /-- Only a closing changes a connector. -/
  keep : ∀ c now op, k.isHeld c = true → op ≠ .close →
    ∃ (α : Type) (p : Program Reply α) (r : α → ConnectorResult),
      k.perform c now op = p >>= fun a => pure (r a, c)
  /-- The server is left, and whatever it says to that the connector is closed. -/
  close : ∀ c now, k.isHeld c = true → ∃ (r : Reply k.leave → Except Failure Unit) (c' : κ),
    k.isHeld c' = false ∧ k.perform c now .close = .ask k.leave fun x => pure (.closed (r x), c')
  refuse : ∀ c now op, k.isHeld c = false →
    ∃ c', k.isHeld c' = false ∧ k.perform c now op = pure (op.afterClose, c')
  tell : ∀ c, k.isHeld c = false → k.isClosed c = pure true

namespace StaysClosed

variable {k : ConnectorKind Reply κ} (hk : k.StaysClosed)
  (answer : (c : Call) → σ → Reply c × σ)

include hk

theorem attend_of_closed {c : κ} (hc : k.isHeld c = false) (now : Instant)
    (op : ConnectorOperation) :
    ∃ c', k.isHeld c' = false ∧ k.attend c now op = pure ((op.afterClose, true), c') := by
  obtain ⟨c', hc', hperform⟩ := hk.refuse c now op hc
  refine ⟨c', hc', ?_⟩
  rw [attend, hperform]
  show k.isClosed c' >>= _ = _
  rw [hk.tell c' hc']
  rfl

theorem attend_close {c : κ} (hc : k.isHeld c = true) (now : Instant) :
    ∃ (r : Reply k.leave → Except Failure Unit) (c' : κ), k.isHeld c' = false ∧
      k.attend c now .close = .ask k.leave fun x => pure ((.closed (r x), true), c') := by
  obtain ⟨r, c', hc', hperform⟩ := hk.close c now hc
  refine ⟨r, c', hc', ?_⟩
  rw [attend, hperform]
  refine congrArg (ask k.leave) (funext fun x => ?_)
  show k.isClosed c' >>= _ = _
  rw [hk.tell c' hc']
  rfl

/-- A step: the connector is held afterwards if it was before and this is no closing. -/
theorem isHeld_attend (c : κ) (s : σ) (now : Instant) (op : ConnectorOperation) :
    k.isHeld ((k.attend c now op).run answer s).1.2 = (k.isHeld c && op != .close) := by
  cases hc : k.isHeld c with
  | false =>
    obtain ⟨c', hc', hattend⟩ := hk.attend_of_closed hc now op
    rw [hattend]
    exact hc'
  | true =>
    by_cases hop : op = .close
    · subst hop
      obtain ⟨r, c', hc', hattend⟩ := hk.attend_close hc now
      rw [hattend]
      exact hc'
    · obtain ⟨α, p, r, hp⟩ := hk.keep c now op hc hop
      have hrun : ((k.attend c now op).run answer s).1.2 = c := by
        simp only [attend, hp, run_bind]
        rfl
      rw [hrun, hc]
      simp [hop]

theorem course_of_closed {c : κ} (hc : k.isHeld c = false) (s : σ)
    (later : List (Instant × ConnectorOperation)) :
    k.course answer c s later = later.map fun x => .silent x.2 := by
  induction later generalizing c with
  | nil => rfl
  | cons x later ih =>
    obtain ⟨now, op⟩ := x
    obtain ⟨c', hc', hattend⟩ := hk.attend_of_closed hc now op
    simp only [course, hattend]
    exact congrArg (Entry.silent op :: ·) (ih hc')

theorem course_final (c : κ) (s : σ) (before : List (Instant × ConnectorOperation)) (now : Instant)
    (later : List (Instant × ConnectorOperation)) :
    k.Final c before later (k.course answer c s (before ++ (now, .close) :: later)) := by
  -- On what happens before: every entry passes on a connector that is held only without a closing.
  induction before generalizing c s with
  | nil =>
    cases hc : k.isHeld c with
    | false =>
      have hcourse := hk.course_of_closed answer hc s ((now, .close) :: later)
      exact ⟨[], .ok (), [], hcourse, rfl, by simp [hc]⟩
    | true =>
      obtain ⟨r, c', hc', hattend⟩ := hk.attend_close hc now
      have hlater := hk.course_of_closed answer hc' (answer k.leave s).2 later
      refine ⟨[], r (answer k.leave s).1, [⟨k.leave, (answer k.leave s).1⟩], ?_, rfl, by simp [hc]⟩
      rw [List.nil_append, List.nil_append, course, hattend, ← hlater]
      rfl
  | cons x before ih =>
    obtain ⟨moment, op⟩ := x
    obtain ⟨front, r, said, hcourse, hfront, hsaid⟩ :=
      ih ((k.attend c moment op).run answer s).1.2 ((k.attend c moment op).run answer s).2
    rw [hk.isHeld_attend] at hsaid
    refine ⟨_ :: front, r, said, congrArg (_ :: ·) hcourse, congrArg (op :: ·) hfront, ?_⟩
    rw [hsaid, List.all_cons, Bool.and_assoc]

end StaysClosed

end ConnectorKind

/-! ### Both kinds of connectors -/

/-- A query asked of a session that answers every command as closed. -/
theorem Policy.execute_via_closed {Call : Type} {Reply : Call → Type}
    (handle : (c : SessionCall) → Program Reply c.Reply)
    (h : ∀ sql, handle (.command sql) = pure (some (.error .closed))) (d : Dialect) (seconds : Nat)
    (q : Query) : (execute d seconds q).via handle = pure (.error .closed) := by
  have hfirst (sql : String) (next : Option (Except Failure Unit) → SessionProgram
      (Except Failure Outcome)) : (ask (.command sql) next).via handle =
        (next (some (.error .closed))).via handle := by
    rw [via, h]
    rfl
  rw [execute]
  cases q.kind with
  | select => exact hfirst _ _
  | insert => exact hfirst _ _
  | update => exact hfirst _ _

theorem Mysql.connectorKind_staysClosed : connectorKind.StaysClosed where
  keep c now op _ hop := by
    cases op with
    | inspect => exact ⟨_, c.inspect now, .inspected, rfl⟩
    | execute q => exact ⟨_, c.execute q, .executed, rfl⟩
    | check => exact ⟨_, c.check, .checked, rfl⟩
    | close => exact absurd rfl hop
  close c now hc := by
    obtain ⟨⟨hasLine⟩, database, timeout⟩ := c
    cases (show hasLine = true from hc)
    exact ⟨failed, ⟨⟨false⟩, database, timeout⟩, rfl, rfl⟩
  refuse c now op hc := by
    obtain ⟨⟨hasLine⟩, database, timeout⟩ := c
    cases (show hasLine = false from hc)
    refine ⟨⟨⟨false⟩, database, timeout⟩, rfl, ?_⟩
    cases op with
    | inspect => rfl
    | execute q =>
      have hquery := Policy.execute_via_closed (Session.answer ⟨false⟩) (fun _ => rfl) .mysql
        timeout q
      exact congrArg (fun p => p >>= fun r => pure (ConnectorResult.executed r, _)) hquery
    | check => rfl
    | close => rfl
  tell c hc := by
    obtain ⟨⟨hasLine⟩, database, timeout⟩ := c
    cases (show hasLine = false from hc)
    rfl

theorem Postgres.Connector.isClosed_of_not_held {c : Connector}
    (h : connectorKind.isHeld c = false) : c.isClosed = pure true := by
  obtain ⟨⟨hasClient⟩, schema, timeout, closed⟩ := c
  cases closed with
  | true => rfl
  | false =>
    cases (show hasClient = false from h)
    rfl

theorem Postgres.Connector.whenOpen_of_not_held {α : Type} {c : Connector}
    (h : connectorKind.isHeld c = false) (p : LineProgram (Except Failure α))
    (r : Except Failure α → ConnectorResult) :
    (c.whenOpen p >>= fun a => pure (r a, c)) = (pure (r (.error .closed), c) : LineProgram _) := by
  rw [whenOpen, isClosed_of_not_held h]
  rfl

theorem Postgres.connectorKind_staysClosed : connectorKind.StaysClosed where
  keep c now op _ hop := by
    cases op with
    | inspect => exact ⟨_, c.inspect now, .inspected, rfl⟩
    | execute q => exact ⟨_, c.execute q, .executed, rfl⟩
    | check => exact ⟨_, c.check, .checked, rfl⟩
    | close => exact absurd rfl hop
  close c now hc := by
    obtain ⟨⟨hasClient⟩, schema, timeout, closed⟩ := c
    cases closed with
    | true => cases hc
    | false =>
      cases (show hasClient = true from hc)
      exact ⟨fun _ => .ok (), ⟨⟨false⟩, schema, timeout, true⟩, rfl, rfl⟩
  refuse c now op hc := by
    cases op with
    | inspect => exact ⟨c, hc, Connector.whenOpen_of_not_held hc _ .inspected⟩
    | execute q => exact ⟨c, hc, Connector.whenOpen_of_not_held hc _ .executed⟩
    | check => exact ⟨c, hc, Connector.whenOpen_of_not_held hc _ .checked⟩
    | close =>
      obtain ⟨⟨hasClient⟩, schema, timeout, closed⟩ := c
      cases closed with
      | true => exact ⟨_, rfl, rfl⟩
      | false =>
        cases (show hasClient = false from hc)
        exact ⟨_, rfl, rfl⟩
  tell c hc := Connector.isClosed_of_not_held hc

/-- Both kinds of connectors, each with a history of its own, on lines to servers that answer in any
way: from a closing on, whatever comes of it, they are closed and say nothing, and both answer what
is asked of them later in the same way. -/
theorem closed_connectors_agree {σ τ : Type} (m : Mysql.Connector) (p : Postgres.Connector)
    (server : (c : Mysql.Call) → σ → c.Reply × σ) (server' : (c : Postgres.Call) → τ → c.Reply × τ)
    (s : σ) (t : τ) (before before' : List (Instant × ConnectorOperation)) (now now' : Instant)
    (later : List (Instant × ConnectorOperation)) :
    let course := Mysql.connectorKind.course server m s (before ++ (now, .close) :: later)
    let course' := Postgres.connectorKind.course server' p t (before' ++ (now', .close) :: later)
    Mysql.connectorKind.Final m before later course ∧
      Postgres.connectorKind.Final p before' later course' ∧
      (course.drop (before.length + 1)).map (·.outcome) =
        (course'.drop (before'.length + 1)).map (·.outcome) := by
  intro course course'
  have h := Mysql.connectorKind_staysClosed.course_final server m s before now later
  have h' := Postgres.connectorKind_staysClosed.course_final server' p t before' now' later
  exact ⟨h, h', h.outcomes.trans h'.outcomes.symm⟩

end QueryDesk
