import QueryDesk.Session.Policy

/-!
# Atomicity of queries

A session leads to a database that keeps what is committed and, from BEGIN to COMMIT or ROLLBACK, the
changed state that one open transaction sees. How the database answers is left open, but for COMMIT
and ROLLBACK, which succeed: an opening may fail, a statement may touch any number of rows, fail or
never be answered, and what it changed before that stays in the transaction. Main statement: over any
run of queries under the policy, every query leaves no transaction open, and what is committed are the
mutations that were answered with a result, each whole and in their order.
-/

namespace QueryDesk

/-! ### Databases -/

/-- A database with contents `σ`, whose answers may depend on anything else, `ω`. -/
structure Database (σ ω : Type) where
  /-- How an opening is answered. The transaction is open when the answer says so. -/
  opening : String → σ → ω → Option (Except Failure Unit) × ω
  fetching : Statement → σ → ω → Option (Except Failure Outcome) × ω
  mutating : Statement → σ → ω → Option (Except Failure Nat) × ω
  /-- What a mutation that touched so many rows makes of the contents. -/
  effect : Statement → Nat → σ → σ
  /-- What a fetch makes of the contents, and a mutation that failed or was not answered. -/
  leftover : Statement → σ → ω → σ

/-- A database in the course of a session: what is committed, and what the open transaction sees. -/
structure DatabaseState (σ ω : Type) where
  committed : σ
  opened : Option σ
  world : ω

namespace DatabaseState

variable {σ ω : Type}

/-- A database without a transaction. -/
def quiet (contents : σ) (world : ω) : DatabaseState σ ω := ⟨contents, none, world⟩

/-- What a statement works on. -/
def contents (s : DatabaseState σ ω) : σ := s.opened.getD s.committed

/-- Changes the contents: inside the transaction, or at once where there is none. -/
def change (s : DatabaseState σ ω) (f : σ → σ) : DatabaseState σ ω :=
  match s.opened with
  | some t => { s with opened := some (f t) }
  | none => { s with committed := f s.committed }

/-- Opens a transaction. One that is still open is committed by that in one dialect, and goes on in
the other. -/
def start (d : Dialect) (s : DatabaseState σ ω) : DatabaseState σ ω :=
  match s.opened, d with
  | none, _ => { s with opened := some s.committed }
  | some t, .mysql => { s with committed := t }
  | some _, .postgres => s

def commit (s : DatabaseState σ ω) : DatabaseState σ ω :=
  { s with committed := s.contents, opened := none }

def rollback (s : DatabaseState σ ω) : DatabaseState σ ω := { s with opened := none }

end DatabaseState

namespace Database

variable {σ ω : Type} (db : Database σ ω)

def obey (d : Dialect) (sql : String) (s : DatabaseState σ ω) :
    Option (Except Failure Unit) × DatabaseState σ ω :=
  if sql = "COMMIT" then (some (.ok ()), s.commit)
  else if sql = "ROLLBACK" then (some (.ok ()), s.rollback)
  else
    let (reply, world) := db.opening sql s.contents s.world
    match reply with
    | some (.ok ()) =>
      if sql = d.begin ∨ sql = d.beginReadOnly then (reply, DatabaseState.start d { s with world })
      else (reply, { s with world })
    | _ => (reply, { s with world })

def answer (d : Dialect) :
    (c : SessionCall) → DatabaseState σ ω → SessionCall.Reply c × DatabaseState σ ω
  | .command sql, s => db.obey d sql s
  | .fetch q, s =>
    let (reply, world) := db.fetching q s.contents s.world
    (reply, { s.change fun t => db.leftover q t s.world with world })
  | .mutate q, s =>
    let (reply, world) := db.mutating q s.contents s.world
    match reply with
    | some (.ok n) => (reply, { s.change (db.effect q n) with world })
    | _ => (reply, { s.change fun t => db.leftover q t s.world with world })

end Database

/-! ### Runs -/

/-- One query of a run, with the database before and after it. -/
structure Visit (σ ω : Type) where
  query : Query
  before : DatabaseState σ ω
  result : Except Failure Outcome
  after : DatabaseState σ ω

/-- How many rows the outcome of a mutation tells. -/
def Outcome.touched (o : Outcome) : Nat :=
  match o.rows with
  | [[.int n]] => n.toNat
  | _ => 0

/-- How many rows were touched, when the query is a mutation that was answered with a result. -/
def Visit.written? {σ ω : Type} (v : Visit σ ω) : Option Nat :=
  match v.query.kind, v.result with
  | .select, _ => none
  | _, .ok o => some o.touched
  | _, .error _ => none

namespace Database

variable {σ ω : Type} (db : Database σ ω)

/-- The queries of a run, one after the other on one session. -/
def visits (d : Dialect) (seconds : Nat) : List Query → DatabaseState σ ω → List (Visit σ ω)
  | [], _ => []
  | q :: qs, s =>
    let (result, after) := (Policy.execute d seconds q).run (db.answer d) s
    ⟨q, s, result, after⟩ :: visits d seconds qs after

/-- Some contents after the mutations that were answered with a result. -/
def written (vs : List (Visit σ ω)) (contents : σ) : σ :=
  vs.foldl (fun t v => match v.written? with
    | some n => db.effect v.query.statement n t
    | none => t) contents

/-! ### One query -/

theorem obey_commit (d : Dialect) (s : DatabaseState σ ω) :
    db.obey d "COMMIT" s = (some (.ok ()), s.commit) := rfl

theorem obey_rollback (d : Dialect) (s : DatabaseState σ ω) :
    db.obey d "ROLLBACK" s = (some (.ok ()), s.rollback) := rfl

/-- An opening on a quiet database opens a transaction or leaves the database quiet. -/
theorem obey_opening (d : Dialect) (sql : String) (h : sql = d.begin ∨ sql = d.beginReadOnly)
    (c : σ) (w : ω) :
    ∃ w', db.obey d sql (.quiet c w) = (some (.ok ()), ⟨c, some c, w'⟩) ∨
      ∃ r, r ≠ some (.ok ()) ∧ db.obey d sql (.quiet c w) = (r, .quiet c w') := by
  have hc : sql ≠ "COMMIT" := by
    rcases h with h | h <;> rw [h] <;> cases d <;> decide
  have hr : sql ≠ "ROLLBACK" := by
    rcases h with h | h <;> rw [h] <;> cases d <;> decide
  rcases ho : db.opening sql c w with ⟨reply, w'⟩
  refine ⟨w', ?_⟩
  rcases reply with - | (e | u)
  · right
    exact ⟨none, by simp, by simp [obey, hc, hr, DatabaseState.quiet, DatabaseState.contents, ho]⟩
  · right
    refine ⟨some (.error e), by simp, ?_⟩
    simp [obey, hc, hr, DatabaseState.quiet, DatabaseState.contents, ho]
  · left
    simp [obey, hc, hr, DatabaseState.quiet, DatabaseState.contents, ho, h, DatabaseState.start]

theorem run_command (d : Dialect) (seconds : Nat) (sql : String) (s : DatabaseState σ ω) :
    (SessionProgram.command seconds sql).run (db.answer d) s =
      (SessionProgram.within seconds (db.obey d sql s).1, (db.obey d sql s).2) := rfl

theorem run_fetch (d : Dialect) (seconds : Nat) (q : Statement) (s : DatabaseState σ ω) :
    (SessionProgram.fetch seconds q).run (db.answer d) s =
      (SessionProgram.within seconds (db.answer d (.fetch q) s).1,
        (db.answer d (.fetch q) s).2) := rfl

theorem run_mutate (d : Dialect) (seconds : Nat) (q : Statement) (s : DatabaseState σ ω) :
    (SessionProgram.mutate seconds q).run (db.answer d) s =
      (SessionProgram.within seconds (db.answer d (.mutate q) s).1,
        (db.answer d (.mutate q) s).2) := rfl

theorem within_some {α : Type} (seconds : Nat) (r : Except Failure α) :
    SessionProgram.within seconds (some r) = r := rfl

theorem within_ne_ok (seconds : Nat) {r : Option (Except Failure Unit)} (h : r ≠ some (.ok ())) :
    ∃ e, SessionProgram.within seconds r = .error e := by
  rcases r with - | (e | u)
  · exact ⟨_, rfl⟩
  · exact ⟨e, rfl⟩
  · exact absurd rfl h

theorem answer_fetch (d : Dialect) (q : Statement) (c t : σ) (w : ω) :
    ∃ r t' w', db.answer d (.fetch q) ⟨c, some t, w⟩ = (r, ⟨c, some t', w'⟩) :=
  ⟨_, _, _, rfl⟩

/-- Inside a transaction a mutation changes only what the transaction sees, and makes of it what it
should when it is answered with a number of rows. -/
theorem answer_mutate (d : Dialect) (q : Statement) (c t : σ) (w : ω) :
    ∃ r t' w', db.answer d (.mutate q) ⟨c, some t, w⟩ = (r, ⟨c, some t', w'⟩) ∧
      ∀ n, r = some (.ok n) → t' = db.effect q n t := by
  rcases hm : db.mutating q t w with ⟨reply, w'⟩
  rcases reply with - | (e | n)
  · refine ⟨none, db.leftover q t w, w', ?_, by simp⟩
    simp [answer, DatabaseState.contents, DatabaseState.change, hm]
  · refine ⟨some (.error e), db.leftover q t w, w', ?_, by simp⟩
    simp [answer, DatabaseState.contents, DatabaseState.change, hm]
  · refine ⟨some (.ok n), db.effect q n t, w', ?_, by simp⟩
    simp [answer, DatabaseState.contents, DatabaseState.change, hm]

theorem rollback_open (c t : σ) (w : ω) :
    (⟨c, some t, w⟩ : DatabaseState σ ω).rollback = .quiet c w := rfl

theorem commit_open (c t : σ) (w : ω) :
    (⟨c, some t, w⟩ : DatabaseState σ ω).commit = .quiet t w := rfl

theorem run_select (d : Dialect) (seconds : Nat) (q : Statement) (c : σ) (w : ω) :
    ∃ r w', (Policy.select d seconds q).run (db.answer d) (.quiet c w) = (r, .quiet c w') := by
  obtain ⟨w₁, ho | ⟨r, hr, ho⟩⟩ := db.obey_opening d d.beginReadOnly (.inr rfl) c w
  · obtain ⟨reply, t, w₂, hf⟩ := db.answer_fetch d q c c w₁
    refine ⟨_, w₂, Prod.ext rfl ?_⟩
    simp only [Policy.select, Program.run_bind, run_command, ho, within_some, run_fetch, hf,
      obey_rollback, rollback_open]
    cases reply with
    | none => rfl
    | some r => cases r <;> rfl
  · obtain ⟨e, he⟩ := within_ne_ok seconds hr
    refine ⟨.error e, w₁, ?_⟩
    simp only [Policy.select, Program.run_bind, run_command, ho, he]
    rfl

/-- A mutation leaves a quiet database quiet. When it is answered with a result, its effect is
committed and the rows were allowed; when it fails, the contents are the same. -/
theorem run_mutation (d : Dialect) (seconds : Nat) (q : Statement) (bulk : Bool) (c : σ) (w : ω) :
    ∃ r c' w', (Policy.mutate d seconds q bulk).run (db.answer d) (.quiet c w) = (r, .quiet c' w') ∧
      ((∃ e, r = .error e ∧ c' = c) ∨
        ∃ n, r = .ok (.mutation n q.sql) ∧ (n ≤ 1 ∨ bulk = true) ∧ c' = db.effect q n c) := by
  obtain ⟨w₁, ho | ⟨r, hr, ho⟩⟩ := db.obey_opening d d.begin (.inl rfl) c w
  · obtain ⟨reply, t, w₂, hm, he⟩ := db.answer_mutate d q c c w₁
    cases hw : SessionProgram.within seconds reply with
    | error e =>
      refine ⟨.error e, c, w₂, ?_, .inl ⟨e, rfl, rfl⟩⟩
      simp only [Policy.mutate, Program.run_bind, run_command, ho, within_some, run_mutate, hm, hw,
        obey_rollback, rollback_open]
      rfl
    | ok n =>
      have hn : reply = some (.ok n) := by
        cases reply with
        | none => simp [SessionProgram.within] at hw
        | some r => simpa [SessionProgram.within] using hw
      by_cases hb : 1 < n ∧ bulk = false
      · refine ⟨.error (Policy.bulkRefused n), c, w₂, ?_, .inl ⟨_, rfl, rfl⟩⟩
        simp only [Policy.mutate, Program.run_bind, run_command, ho, within_some, run_mutate, hm, hn,
          hb, and_self, if_true, obey_rollback, rollback_open]
        rfl
      · refine ⟨.ok (.mutation n q.sql), t, w₂, ?_, .inr ⟨n, rfl, ?_, he n hn⟩⟩
        · simp only [Policy.mutate, Program.run_bind, run_command, ho, within_some, run_mutate, hm,
            hn, hb, if_false, obey_commit, commit_open]
          rfl
        · rcases bulk with - | -
          · exact .inl (by simpa using hb)
          · exact .inr rfl
  · obtain ⟨e, he⟩ := within_ne_ok seconds hr
    refine ⟨.error e, c, w₁, ?_, .inl ⟨e, rfl, rfl⟩⟩
    simp only [Policy.mutate, Program.run_bind, run_command, ho, he]
    rfl

/-- What a query may do to contents `c` when it is answered with `r`: a selection keeps them, and a
mutation changes them when `r` is a result, and then within what its query allows. -/
structure Allowed (q : Query) (c : σ) (r : Except Failure Outcome) (c' : σ) : Prop where
  written : ∀ before after, c' = db.written [⟨q, before, r, after⟩] c
  selection : q.kind = .select → c' = c
  mutation : q.kind ≠ .select → ∀ o, r = .ok o →
    o = .mutation o.touched q.statement.sql ∧ (o.touched ≤ 1 ∨ q.allowBulk = true)

theorem allowed_selection {q : Query} (h : q.kind = .select) (c : σ) (r : Except Failure Outcome) :
    db.Allowed q c r c where
  written before after := by simp [Database.written, Visit.written?, h]
  selection _ := rfl
  mutation hk := absurd h hk

theorem allowed_failure {q : Query} (c : σ) (e : Failure) : db.Allowed q c (.error e) c where
  written before after := by
    cases hk : q.kind with
    | select => simp [Database.written, Visit.written?, hk]
    | insert => simp [Database.written, Visit.written?, hk]
    | update => simp [Database.written, Visit.written?, hk]
  selection _ := rfl
  mutation _ o ho := by cases ho

theorem allowed_mutation {q : Query} (h : q.kind ≠ .select) {n : Nat}
    (hn : n ≤ 1 ∨ q.allowBulk = true) (c : σ) :
    db.Allowed q c (.ok (.mutation n q.statement.sql)) (db.effect q.statement n c) where
  written before after := by
    cases hk : q.kind with
    | select => exact absurd hk h
    | insert => simp [Database.written, Visit.written?, hk, Outcome.touched, Outcome.mutation]
    | update => simp [Database.written, Visit.written?, hk, Outcome.touched, Outcome.mutation]
  selection hk := absurd hk h
  mutation _ o ho := by
    cases ho
    exact ⟨rfl, hn⟩

theorem run_query (d : Dialect) (seconds : Nat) (q : Query) (c : σ) (w : ω) :
    ∃ r c' w', (Policy.execute d seconds q).run (db.answer d) (.quiet c w) = (r, .quiet c' w') ∧
      db.Allowed q c r c' := by
  by_cases hk : q.kind = .select
  · obtain ⟨r, w', hr⟩ := db.run_select d seconds q.statement c w
    exact ⟨r, c, w', by simp only [Policy.execute, hk, hr], db.allowed_selection hk c r⟩
  · have he : Policy.execute d seconds q = Policy.mutate d seconds q.statement q.allowBulk := by
      cases h : q.kind with
      | select => exact absurd h hk
      | insert => simp only [Policy.execute, h]
      | update => simp only [Policy.execute, h]
    obtain ⟨r, c', w', hr, ⟨e, rfl, rfl⟩ | ⟨n, rfl, hn, rfl⟩⟩ :=
      db.run_mutation d seconds q.statement q.allowBulk c w
    · exact ⟨_, _, w', by rw [he, hr], db.allowed_failure _ e⟩
    · exact ⟨_, _, w', by rw [he, hr], db.allowed_mutation hk hn c⟩

/-! ### Runs of queries -/

theorem written_cons (v : Visit σ ω) (vs : List (Visit σ ω)) (c : σ) :
    db.written (v :: vs) c = db.written vs (db.written [v] c) := rfl

/-- Over any run of queries on a database without a transaction, every query leaves no transaction
open; what is committed then are the initial contents with the mutations so far that were answered
with a result, in their order; a selection never changes it; and a mutation that was answered with a
result touched one row at most, unless its query allows more. -/
theorem visits_atomic (d : Dialect) (seconds : Nat) (qs : List Query) (c : σ) (w : ω) :
    (db.visits d seconds qs (.quiet c w)).map (·.query) = qs ∧
    ∀ k v, (db.visits d seconds qs (.quiet c w))[k]? = some v →
      v.before.opened = none ∧ v.after.opened = none ∧
      v.before.committed = db.written ((db.visits d seconds qs (.quiet c w)).take k) c ∧
      v.after.committed = db.written ((db.visits d seconds qs (.quiet c w)).take (k + 1)) c ∧
      (v.query.kind = .select → v.after.committed = v.before.committed) ∧
      (v.query.kind ≠ .select → ∀ o, v.result = .ok o →
        o = .mutation o.touched v.query.statement.sql ∧
          (o.touched ≤ 1 ∨ v.query.allowBulk = true)) := by
  -- Each query starts where the one before it left the database, with nothing opened.
  induction qs generalizing c w with
  | nil => simp [visits]
  | cons q qs ih =>
    obtain ⟨r, c', w', hr, ha⟩ := db.run_query d seconds q c w
    have hv : db.visits d seconds (q :: qs) (.quiet c w) =
        ⟨q, .quiet c w, r, .quiet c' w'⟩ :: db.visits d seconds qs (.quiet c' w') := by
      simp only [visits, hr]
    obtain ⟨hq, hk⟩ := ih c' w'
    rw [hv]
    refine ⟨by simp only [List.map_cons, hq], fun k v hkv => ?_⟩
    cases k with
    | zero =>
      simp only [List.getElem?_cons_zero, Option.some.injEq] at hkv
      subst hkv
      refine ⟨rfl, rfl, rfl, ?_, ha.selection, ha.mutation⟩
      simp only [Nat.zero_add, List.take_succ_cons, List.take_zero]
      exact ha.written _ _
    | succ k =>
      simp only [List.getElem?_cons_succ] at hkv
      obtain ⟨h₁, h₂, h₃, h₄, h₅, h₆⟩ := hk k v hkv
      refine ⟨h₁, h₂, ?_, ?_, h₅, h₆⟩
      · rw [List.take_succ_cons, written_cons, ← ha.written, h₃]
      · rw [List.take_succ_cons, written_cons, ← ha.written, h₄]

end Database

end QueryDesk
