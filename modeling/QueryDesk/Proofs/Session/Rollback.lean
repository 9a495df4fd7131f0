import QueryDesk.Proofs.Exchanges
import QueryDesk.Proofs.Session.Atomicity

/-!
# How a transaction ends

What a session is asked, with its replies, in surroundings that may answer every call in any way, or
not at all. Main statement: once the opening of a query succeeded, one statement of the query
follows and then one attempt to end the transaction, which is the last thing the session is asked.
An error is met by a ROLLBACK, with one exception: after a COMMIT that fails or is not answered in
time nothing else is sent.
-/

namespace QueryDesk

namespace SessionProgram

open Program

variable {σ : Type} (answer : (c : SessionCall) → σ → c.Reply × σ)

theorem exchanges_command (seconds : Nat) (sql : String) (s : σ) :
    (command seconds sql).exchanges answer s =
      [⟨.command sql, (answer (.command sql) s).1⟩] := rfl

theorem command_run (seconds : Nat) (sql : String) (s : σ) :
    (command seconds sql).run answer s =
      (within seconds (answer (.command sql) s).1, (answer (.command sql) s).2) := rfl

theorem exchanges_fetch (seconds : Nat) (q : Statement) (s : σ) :
    (fetch seconds q).exchanges answer s = [⟨.fetch q, (answer (.fetch q) s).1⟩] := rfl

theorem fetch_run (seconds : Nat) (q : Statement) (s : σ) :
    (fetch seconds q).run answer s =
      (within seconds (answer (.fetch q) s).1, (answer (.fetch q) s).2) := rfl

theorem exchanges_mutate (seconds : Nat) (q : Statement) (s : σ) :
    (mutate seconds q).exchanges answer s = [⟨.mutate q, (answer (.mutate q) s).1⟩] := rfl

theorem mutate_run (seconds : Nat) (q : Statement) (s : σ) :
    (mutate seconds q).run answer s =
      (within seconds (answer (.mutate q) s).1, (answer (.mutate q) s).2) := rfl

theorem within_eq_ok {α : Type} {seconds : Nat} {r : Option (Except Failure α)} {a : α}
    (h : within seconds r = .ok a) : r = some (.ok a) := by
  cases r with
  | none => cases h
  | some r => exact congrArg some h

end SessionProgram

namespace Policy

open Program SessionProgram

/-- The course of a query on a session: what the session is asked and replies, and the result. -/
inductive Course (d : Dialect) (seconds : Nat) (q : Query) :
    List (Exchange SessionCall.Reply) → Except Failure Outcome → Prop
  | unopened (sql : String) (r : Option (Except Failure Unit)) (e : Failure)
      (opening : within seconds r = .error e) : Course d seconds q [⟨.command sql, r⟩] (.error e)
  | unread (kind : q.kind = .select) (r : Option (Except Failure Outcome))
      (last : Option (Except Failure Unit)) (e : Failure) (fetched : within seconds r = .error e) :
      Course d seconds q
        [⟨.command d.beginReadOnly, some (.ok ())⟩, ⟨.fetch q.statement, r⟩,
          ⟨.command "ROLLBACK", last⟩] (.error e)
  | unended (kind : q.kind = .select) (o : Outcome) (last : Option (Except Failure Unit))
      (e : Failure) (ended : within seconds last = .error e) :
      Course d seconds q
        [⟨.command d.beginReadOnly, some (.ok ())⟩, ⟨.fetch q.statement, some (.ok o)⟩,
          ⟨.command "ROLLBACK", last⟩] (.error e)
  | read (kind : q.kind = .select) (o : Outcome) :
      Course d seconds q
        [⟨.command d.beginReadOnly, some (.ok ())⟩, ⟨.fetch q.statement, some (.ok o)⟩,
          ⟨.command "ROLLBACK", some (.ok ())⟩] (.ok { o with query := q.statement.sql })
  | unwritten (kind : q.kind ≠ .select) (r : Option (Except Failure Nat))
      (last : Option (Except Failure Unit)) (e : Failure) (mutated : within seconds r = .error e) :
      Course d seconds q
        [⟨.command d.begin, some (.ok ())⟩, ⟨.mutate q.statement, r⟩,
          ⟨.command "ROLLBACK", last⟩] (.error e)
  | refused (kind : q.kind ≠ .select) (n : Nat) (last : Option (Except Failure Unit))
      (many : 1 < n) (single : q.allowBulk = false) :
      Course d seconds q
        [⟨.command d.begin, some (.ok ())⟩, ⟨.mutate q.statement, some (.ok n)⟩,
          ⟨.command "ROLLBACK", last⟩] (.error (bulkRefused n))
  | uncommitted (kind : q.kind ≠ .select) (n : Nat) (last : Option (Except Failure Unit))
      (e : Failure) (allowed : n ≤ 1 ∨ q.allowBulk = true)
      (committed : within seconds last = .error e) :
      Course d seconds q
        [⟨.command d.begin, some (.ok ())⟩, ⟨.mutate q.statement, some (.ok n)⟩,
          ⟨.command "COMMIT", last⟩] (.error e)
  | written (kind : q.kind ≠ .select) (n : Nat) (allowed : n ≤ 1 ∨ q.allowBulk = true) :
      Course d seconds q
        [⟨.command d.begin, some (.ok ())⟩, ⟨.mutate q.statement, some (.ok n)⟩,
          ⟨.command "COMMIT", some (.ok ())⟩] (.ok (.mutation n q.statement.sql))

/-- The statement that a query is there for, as the session is asked to carry it out. -/
def work (q : Query) : SessionCall :=
  if q.kind = .select then .fetch q.statement else .mutate q.statement

variable {σ : Type} (answer : (c : SessionCall) → σ → c.Reply × σ)

theorem course_of_select (d : Dialect) (seconds : Nat) (q : Query) (kind : q.kind = .select)
    (s : σ) : Course d seconds q ((select d seconds q.statement).exchanges answer s)
      ((select d seconds q.statement).run answer s).1 := by
  rcases ho : answer (.command d.beginReadOnly) s with ⟨opened, s₁⟩
  rcases hf : answer (.fetch q.statement) s₁ with ⟨fetched, s₂⟩
  rcases hr : answer (.command "ROLLBACK") s₂ with ⟨ended, s₃⟩
  simp only [select, exchanges_bind, Program.run_bind, exchanges_command, command_run, ho]
  cases h₁ : within seconds opened with
  | error e => exact .unopened d.beginReadOnly opened e h₁
  | ok u =>
    rw [within_eq_ok h₁]
    simp only [exchanges_bind, Program.run_bind, exchanges_command, command_run, exchanges_fetch,
      fetch_run, hf, hr]
    cases h₂ : within seconds fetched with
    | error e => exact .unread kind fetched ended e h₂
    | ok o =>
      rw [within_eq_ok h₂]
      cases h₃ : within seconds ended with
      | error e => exact .unended kind o ended e h₃
      | ok v =>
        rw [within_eq_ok h₃]
        exact .read kind o

theorem course_of_mutate (d : Dialect) (seconds : Nat) (q : Query) (kind : q.kind ≠ .select)
    (s : σ) : Course d seconds q ((mutate d seconds q.statement q.allowBulk).exchanges answer s)
      ((mutate d seconds q.statement q.allowBulk).run answer s).1 := by
  rcases ho : answer (.command d.begin) s with ⟨opened, s₁⟩
  rcases hm : answer (.mutate q.statement) s₁ with ⟨mutated, s₂⟩
  rcases hr : answer (.command "ROLLBACK") s₂ with ⟨ended, s₃⟩
  rcases hc : answer (.command "COMMIT") s₂ with ⟨committed, s₄⟩
  simp only [mutate, exchanges_bind, Program.run_bind, exchanges_command, command_run, ho]
  cases h₁ : within seconds opened with
  | error e => exact .unopened d.begin opened e h₁
  | ok u =>
    rw [within_eq_ok h₁]
    simp only [exchanges_bind, Program.run_bind, exchanges_mutate, mutate_run, hm]
    cases h₂ : within seconds mutated with
    | error e =>
      simp only [exchanges_bind, Program.run_bind, exchanges_command, command_run, hr]
      exact .unwritten kind mutated ended e h₂
    | ok n =>
      rw [within_eq_ok h₂]
      by_cases hb : 1 < n ∧ q.allowBulk = false
      · simp only [hb, and_self, if_true, exchanges_bind, Program.run_bind, exchanges_command,
          command_run, hr]
        exact .refused kind n ended hb.1 hb.2
      · have allowed : n ≤ 1 ∨ q.allowBulk = true := by
          rcases Nat.lt_or_ge 1 n with hn | hn
          · exact .inr (by simpa [hn] using hb)
          · exact .inl hn
        simp only [hb, if_false, exchanges_bind, Program.run_bind, exchanges_command, command_run,
          hc]
        cases h₃ : within seconds committed with
        | error e => exact .uncommitted kind n committed e allowed h₃
        | ok v =>
          rw [within_eq_ok h₃]
          exact .written kind n allowed

theorem course_of_execute (d : Dialect) (seconds : Nat) (q : Query) (s : σ) :
    Course d seconds q ((execute d seconds q).exchanges answer s)
      ((execute d seconds q).run answer s).1 := by
  cases hk : q.kind with
  | select =>
    simp only [execute, hk]
    exact course_of_select answer d seconds q hk s
  | insert =>
    simp only [execute, hk]
    exact course_of_mutate answer d seconds q (by simp [hk]) s
  | update =>
    simp only [execute, hk]
    exact course_of_mutate answer d seconds q (by simp [hk]) s

/-- Whatever the session does: when a query ends in an error after its opening succeeded, its one
statement was sent and the last thing sent is ROLLBACK, or the query is a mutation within its rows
and the error is that of its COMMIT, which is then the last thing sent. -/
theorem rolled_back_unless_commit_failed (d : Dialect) (seconds : Nat) (q : Query) (s : σ)
    (sql : String) (rest : List (Exchange SessionCall.Reply)) (e : Failure)
    (opened : (execute d seconds q).exchanges answer s = ⟨.command sql, some (.ok ())⟩ :: rest)
    (failed : ((execute d seconds q).run answer s).1 = .error e) :
    (∃ x last, rest = [x, ⟨.command "ROLLBACK", last⟩] ∧ x.call = work q) ∨
    (q.kind ≠ .select ∧ ∃ n last, (n ≤ 1 ∨ q.allowBulk = true) ∧ within seconds last = .error e ∧
      rest = [⟨.mutate q.statement, some (.ok n)⟩, ⟨.command "COMMIT", last⟩]) := by
  have course := course_of_execute answer d seconds q s
  rw [opened, failed] at course
  cases course with
  | unopened _ _ _ opening => cases opening
  | unread kind r last e _ => exact .inl ⟨_, last, rfl, by simp [work, kind]⟩
  | unended kind o last e _ => exact .inl ⟨_, last, rfl, by simp [work, kind]⟩
  | unwritten kind r last e _ => exact .inl ⟨_, last, rfl, by simp [work, kind]⟩
  | refused kind n last _ _ => exact .inl ⟨_, last, rfl, by simp [work, kind]⟩
  | uncommitted kind n last e allowed committed =>
    exact .inr ⟨kind, n, last, allowed, committed, rfl⟩

/-- A session that never answers a statement in time, nor a ROLLBACK. -/
def hanging : (c : SessionCall) → Unit → c.Reply × Unit
  | .command sql, u => (if sql = "ROLLBACK" then none else some (.ok ()), u)
  | .fetch _, u => (none, u)
  | .mutate _, u => (none, u)

theorem rolled_back_hanging :
    let q := Query.update ⟨"UPDATE t SET a = 1", []⟩ false
    (∃ x last, [⟨.mutate q.statement, none⟩, ⟨.command "ROLLBACK", none⟩] =
        [x, (⟨.command "ROLLBACK", last⟩ : Exchange SessionCall.Reply)] ∧ x.call = work q) ∨
      (q.kind ≠ .select ∧ ∃ n last, (n ≤ 1 ∨ q.allowBulk = true) ∧
        within 5 last = .error (timedOut 5) ∧
        [⟨.mutate q.statement, none⟩, ⟨.command "ROLLBACK", none⟩] =
          [(⟨.mutate q.statement, some (.ok n)⟩ : Exchange SessionCall.Reply),
            ⟨.command "COMMIT", last⟩]) :=
  rolled_back_unless_commit_failed hanging .postgres 5 (.update ⟨"UPDATE t SET a = 1", []⟩ false) ()
    "BEGIN" _ (timedOut 5) rfl rfl

/-- A session on which every COMMIT fails. -/
def uncommitting : (c : SessionCall) → Unit → c.Reply × Unit
  | .command sql, u =>
    (if sql = "COMMIT" then some (.error (.execution "relation does not exist"))
      else some (.ok ()), u)
  | .fetch _, u => (none, u)
  | .mutate _, u => (some (.ok 1), u)

/-- A COMMIT that fails is not followed by a ROLLBACK. -/
theorem commit_failed_without_rollback :
    let q := Query.insert ⟨"STMT", []⟩
    ∃ rest, (execute .mysql 30 q).exchanges uncommitting () =
        ⟨.command "START TRANSACTION", some (.ok ())⟩ :: rest ∧
      ((execute .mysql 30 q).run uncommitting ()).1 =
        .error (.execution "relation does not exist") ∧
      ∀ before last, rest ≠ before ++ [⟨.command "ROLLBACK", last⟩] := by
  refine ⟨[⟨.mutate ⟨"STMT", []⟩, some (.ok 1)⟩,
    ⟨.command "COMMIT", some (.error (.execution "relation does not exist"))⟩], rfl, rfl, ?_⟩
  intro before last h
  have hcalls := congrArg (fun l => (l.map (·.call)).getLast?) h
  simp at hcalls

end Policy

end QueryDesk
