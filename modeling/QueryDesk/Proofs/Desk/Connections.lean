import QueryDesk.Proofs.Desk.Course
import QueryDesk.Proofs.Query.Plan

/-!
# The connection of an operation

Every operation that executes, reads or checks something does so on one connection of its own. What a
program does with connections is said by its shape, for all replies at once: it needs none any more
(`Settled`), holds an open one (`Holds`), or opens one first (`Connects`). Main statement: an
operation that is refused, by the request itself or by what the store answers, opens no connection;
any other makes one attempt, and closes what it opened exactly once, as the last call to that
connection, however the calls went; and how the closing went makes no difference to its result.
-/

namespace QueryDesk

namespace DeskCall

def link? : DeskCall → Option Nat
  | .inspect link => some link
  | .check link => some link
  | .execute link _ => some link
  | .close link => some link
  | .isClosed link => some link
  | _ => none

def isConnect : DeskCall → Bool
  | .connect _ _ => true
  | _ => false

def isClose : DeskCall → Bool
  | .close _ => true
  | _ => false

def isLookup : DeskCall → Bool
  | .load _ => true
  | .snapshots _ _ => true
  | _ => false

/-- Goes to the store or to the claims. -/
def isLocal (c : DeskCall) : Bool := !c.isConnect && c.link?.isNone

theorem not_isClose_of_link? {c : DeskCall} (h : c.link? = none) : c.isClose = false := by
  cases c <;> first | rfl | cases h

theorem isLocal_iff {c : DeskCall} : c.isLocal = true ↔ c.isConnect = false ∧ c.link? = none := by
  simp [isLocal]

/-- Asks something of a connection that is open. -/
def worksOn (c : DeskCall) (link : Nat) : Prop :=
  c = .inspect link ∨ c = .check link ∨ ∃ q, c = .execute link q

end DeskCall

namespace DeskProgram

variable {α β σ : Type}

/-- The calls of a program with their replies, in surroundings that answer every call. -/
def events (answer : (c : DeskCall) → σ → c.Reply × σ) : DeskProgram α → σ → List Event
  | .done _, _ => []
  | .ask c next, w => ⟨c, (answer c w).1⟩ :: events answer (next (answer c w).1) (answer c w).2

theorem trace_events (answer : (c : DeskCall) → σ → c.Reply × σ) (p : DeskProgram α) (w : σ) :
    Trace p (events answer p w) (.done (p.run answer w).1) := by
  induction p generalizing w with
  | done a => exact .stay _
  | ask c next ih => exact .step c next _ (ih _ _)

/-! ### Shapes of programs -/

/-- Only stores something or frees a claim from here on. -/
inductive Settled : DeskProgram α → Prop where
  | done (a : α) : Settled (.done a)
  | ask (c : DeskCall) (next : c.Reply → DeskProgram α) (isLocal : c.isLocal = true)
      (stores : c.isLookup = false) (h : ∀ r, Settled (next r)) : Settled (.ask c next)

/-- Holds an open connection: works on it, closes it, and needs none any more. A connection that is
said to be closed already is not closed again. -/
inductive Holds (link : Nat) : DeskProgram α → Prop where
  | work (c : DeskCall) (next : c.Reply → DeskProgram α) (works : c.worksOn link)
      (h : ∀ r, Holds link (next r)) : Holds link (.ask c next)
  | look (next : Bool → DeskProgram α) (gone : Settled (next true)) (h : Holds link (next false)) :
      Holds link (.ask (.isClosed link) next)
  | close (next : Except Failure Unit → DeskProgram α) (h : ∀ x, Settled (next x)) :
      Holds link (.ask (.close link) next)

/-- Makes one attempt to open a connection, and holds the connection if there is one. -/
inductive Connects : DeskProgram α → Prop where
  | connect (d : Dialect) (c : ConnectionConfig) (next : Except Failure Nat → DeskProgram α)
      (failed : ∀ e, Settled (next (.error e))) (opened : ∀ link, Holds link (next (.ok link))) :
      Connects (.ask (.connect d c) next)

theorem Settled.andThen {p : DeskProgram α} (hp : Settled p) {f : α → DeskProgram β}
    (hf : ∀ a, Settled (f a)) : Settled (p.andThen f) := by
  induction hp with
  | done a => exact hf a
  | ask c next isLocal stores _ ih => exact .ask c _ isLocal stores ih

theorem Holds.andThen {link : Nat} {p : DeskProgram α} (hp : Holds link p) {f : α → DeskProgram β}
    (hf : ∀ a, Settled (f a)) : Holds link (p.andThen f) := by
  induction hp with
  | work c next works _ ih => exact .work c _ works ih
  | look next gone _ ih => exact .look _ (gone.andThen hf) ih
  | close next h => exact .close _ fun x => (h x).andThen hf

theorem Connects.andThen {p : DeskProgram α} (hp : Connects p) {f : α → DeskProgram β}
    (hf : ∀ a, Settled (f a)) : Connects (p.andThen f) := by
  cases hp with
  | connect d c next failed opened =>
    exact .connect d c _ (fun e => (failed e).andThen hf) fun link => (opened link).andThen hf

/-! ### What they do in a run -/

/-- The connection is closed once, and nothing goes to it afterwards. -/
def ClosedOnce (link : Nat) (l : List Event) : Prop :=
  ∃ before x after, l = before ++ (⟨.close link, x⟩ : Event) :: after ∧
    (∀ e ∈ before, e.call.isClose = false) ∧ ∀ e ∈ after, e.call.link? = none

theorem Settled.trace {p q : DeskProgram α} {l : List Event} (hp : Settled p)
    (h : Trace p l q) : ∀ e ∈ l, e.call.isLocal = true ∧ e.call.isLookup = false := by
  induction h with
  | stay p => simp
  | step c next r _ ih =>
    cases hp with
    | ask _ _ isLocal stores h =>
      rw [List.forall_mem_cons]
      exact ⟨⟨isLocal, stores⟩, ih (h r)⟩

/-- Calls to one connection only, and nothing looked up or opened. -/
structure Serves (link : Nat) (l : List Event) : Prop where
  connects : ∀ e ∈ l, e.call.isConnect = false
  stores : ∀ e ∈ l, e.call.isLookup = false
  own : ∀ e ∈ l, ∀ k, e.call.link? = some k → k = link

theorem serves_of_local {link : Nat} {l : List Event}
    (h : ∀ e ∈ l, e.call.isLocal = true ∧ e.call.isLookup = false) : Serves link l where
  connects e he := (DeskCall.isLocal_iff.1 (h e he).1).1
  stores e he := (h e he).2
  own e he k hk := by
    rw [(DeskCall.isLocal_iff.1 (h e he).1).2] at hk
    cases hk

theorem Serves.cons {link : Nat} {l : List Event} (h : Serves link l) {e : Event}
    (own : e.call.link? = some link) : Serves link (e :: l) where
  connects := by
    refine List.forall_mem_cons.2 ⟨?_, h.connects⟩
    cases hc : e.call <;> first | rfl | (rw [hc] at own; cases own)
  stores := by
    refine List.forall_mem_cons.2 ⟨?_, h.stores⟩
    cases hc : e.call <;> first | rfl | (rw [hc] at own; cases own)
  own := by
    refine List.forall_mem_cons.2 ⟨fun k hk => ?_, h.own⟩
    rw [own] at hk
    exact (Option.some.inj hk).symm

/-- What a program that holds a connection does with it up to its end. -/
structure Released (link : Nat) (l : List Event) : Prop where
  serves : Serves link l
  closed : ⟨.isClosed link, true⟩ ∉ l → ClosedOnce link l
  gone : ⟨.isClosed link, true⟩ ∈ l → ∀ e ∈ l, e.call.isClose = false

theorem Released.cons {link : Nat} {l : List Event} (h : Released link l) {e : Event}
    (own : e.call.link? = some link) (quiet : e.call.isClose = false)
    (hne : e ≠ ⟨.isClosed link, true⟩) : Released link (e :: l) := by
  refine ⟨h.serves.cons own, fun hopen => ?_, fun hmem => ?_⟩
  · obtain ⟨before, x, after, rfl, hbefore, hafter⟩ :=
      h.closed fun hmem => hopen (List.mem_cons_of_mem e hmem)
    exact ⟨e :: before, x, after, rfl, List.forall_mem_cons.2 ⟨quiet, hbefore⟩, hafter⟩
  · rcases List.mem_cons.1 hmem with he | hmem
    · exact absurd he.symm hne
    · exact List.forall_mem_cons.2 ⟨quiet, h.gone hmem⟩

theorem Holds.trace {link : Nat} {p : DeskProgram α} {l : List Event} {a : α} (hp : Holds link p)
    (h : Trace p l (.done a)) : Released link l := by
  -- By the way a program holds its link: until the close, calls on it only work or look.
  induction hp generalizing l with
  | work c next works _ ih =>
    obtain ⟨-, he⟩ | ⟨r, l, rfl, hrest⟩ := Trace.of_ask h
    · cases he
    obtain rfl | rfl | ⟨q, rfl⟩ := works
    · exact (ih r hrest).cons rfl rfl (by simp)
    · exact (ih r hrest).cons rfl rfl (by simp)
    · exact (ih r hrest).cons rfl rfl (by simp)
  | look next gone _ ih =>
    obtain ⟨-, he⟩ | ⟨r, l, rfl, hrest⟩ := Trace.of_ask h
    · cases he
    cases r with
    | false => exact (ih hrest).cons rfl rfl (by simp)
    | true =>
      have hlocal := gone.trace hrest
      refine ⟨(serves_of_local hlocal).cons rfl, fun hopen => absurd List.mem_cons_self hopen, ?_⟩
      intro _
      refine List.forall_mem_cons.2 ⟨rfl, fun e he => ?_⟩
      exact DeskCall.not_isClose_of_link? (DeskCall.isLocal_iff.1 (hlocal e he).1).2
  | close next hnext =>
    obtain ⟨-, he⟩ | ⟨x, l, rfl, hrest⟩ := Trace.of_ask h
    · cases he
    have hlocal := (hnext x).trace hrest
    have hlink : ∀ e ∈ l, e.call.link? = none :=
      fun e he => (DeskCall.isLocal_iff.1 (hlocal e he).1).2
    refine ⟨(serves_of_local hlocal).cons rfl, fun _ => ⟨[], x, l, rfl, by simp, hlink⟩, ?_⟩
    intro hmem
    rcases List.mem_cons.1 hmem with he | hmem
    · cases he
    · cases hlink _ hmem

/-- The connection that a program makes one attempt to open is released. -/
theorem Connects.trace {p : DeskProgram α} {l : List Event} {a : α} (hp : Connects p)
    (h : Trace p l (.done a)) : ∃ d c r after, l = (⟨.connect d c, r⟩ : Event) :: after ∧
      (∀ e, r = .error e → ∀ x ∈ after, x.call.isLocal = true ∧ x.call.isLookup = false) ∧
      ∀ link, r = .ok link → Released link after := by
  cases hp with
  | connect d c next failed opened =>
    obtain ⟨-, he⟩ | ⟨r, l, rfl, hrest⟩ := Trace.of_ask h
    · cases he
    refine ⟨d, c, r, l, rfl, ?_, ?_⟩
    · rintro e rfl
      exact (failed e).trace hrest
    · rintro link rfl
      exact (opened link).trace hrest

/-! ### How a closing goes -/

/-- No reply to a closing makes a difference. -/
inductive IgnoresClosing : DeskProgram α → Prop where
  | done (a : α) : IgnoresClosing (.done a)
  | close (link : Nat) (next : Except Failure Unit → DeskProgram α)
      (same : ∀ x y, next x = next y) (h : ∀ x, IgnoresClosing (next x)) :
      IgnoresClosing (.ask (.close link) next)
  | ask (c : DeskCall) (next : c.Reply → DeskProgram α) (other : c.isClose = false)
      (h : ∀ r, IgnoresClosing (next r)) : IgnoresClosing (.ask c next)

theorem IgnoresClosing.andThen {p : DeskProgram α} (hp : IgnoresClosing p)
    {f : α → DeskProgram β} (hf : ∀ a, IgnoresClosing (f a)) : IgnoresClosing (p.andThen f) := by
  induction hp with
  | done a => exact hf a
  | close link next same _ ih =>
    exact .close link _ (fun x y => congrArg (fun p => p.andThen f) (same x y)) ih
  | ask c next other _ ih => exact .ask c _ other ih

theorem IgnoresClosing.followedBy {p : DeskTask α} (hp : IgnoresClosing p)
    {f : α → DeskTask β} (hf : ∀ a, IgnoresClosing (f a)) :
    IgnoresClosing (DeskTask.followedBy p f) := by
  refine hp.andThen fun x => ?_
  cases x with
  | error e => exact .done _
  | ok a => exact hf a

/-- Had a closing been answered differently, the program could have gone on as it did. -/
theorem IgnoresClosing.trace {p q : DeskProgram α} {before after : List Event} {link : Nat}
    {x : Except Failure Unit} (hp : IgnoresClosing p)
    (h : Trace p (before ++ (⟨.close link, x⟩ : Event) :: after) q) (y : Except Failure Unit) :
    Trace p (before ++ (⟨.close link, y⟩ : Event) :: after) q := by
  induction before generalizing p with
  | nil =>
    cases h with
    | step c next r rest =>
      cases hp with
      | close _ _ same _ =>
        refine .step _ next y ?_
        rw [same y x]
        exact rest
      | ask _ _ other _ => cases other
  | cons e before ih =>
    cases h with
    | step c next r rest =>
      refine .step c next r (ih ?_ rest)
      cases hp with
      | close _ _ _ h => exact h r
      | ask _ _ _ h => exact h r

/-! ### What is done after a lookup -/

/-- A task followed by another that has come to its end: the first failed, or the second one has
gone on with its result. -/
theorem Trace.of_followedBy {p : DeskTask α} {f : α → DeskTask β} {l : List Event}
    {b : Except Failure β} (h : Trace (DeskTask.followedBy p f) l (.done b)) :
    (∃ e, Trace p l (.done (.error e)) ∧ b = .error e) ∨
      ∃ l₁ l₂ a, l = l₁ ++ l₂ ∧ Trace p l₁ (.done (.ok a)) ∧ Trace (f a) l₂ (.done b) := by
  obtain ⟨_, _, -, -, hfront⟩ | ⟨l₁, l₂, x, rfl, hp, hf⟩ := Trace.of_andThen h
  · cases hfront
  cases x with
  | error e =>
    obtain ⟨rfl, hb⟩ := Trace.of_done hf
    cases hb
    rw [List.append_nil]
    exact .inl ⟨e, hp, rfl⟩
  | ok a => exact .inr ⟨l₁, l₂, a, rfl, hp, hf⟩

theorem Trace.of_ofExcept {x : Except Failure α} {f : α → DeskTask β} {l : List Event}
    {b : Except Failure β}
    (h : Trace (DeskTask.followedBy (DeskTask.ofExcept x) f) l (.done b)) :
    (∃ e, x = .error e ∧ l = [] ∧ b = .error e) ∨ ∃ a, x = .ok a ∧ Trace (f a) l (.done b) := by
  cases x with
  | error e =>
    obtain ⟨rfl, hb⟩ := Trace.of_done h
    exact .inl ⟨e, rfl, rfl, Program.done.inj hb⟩
  | ok a => exact .inr ⟨a, rfl, h⟩

end DeskProgram

namespace Desk

open DeskProgram

/-! ### Operations -/

/-- An operation that works on a connection of its own. -/
inductive Operation where
  | select (request : SelectRequest)
  | insert (request : InsertRequest)
  | update (request : UpdateRequest)
  | entity (request : EntityRequest)
  | check (dialect : Dialect) (config : ConnectionConfig)
  | inspection (datasource : Datasource) (config : ConnectionConfig)

namespace Operation

abbrev Result : Operation → Type
  | select _ => SelectResult
  | insert _ => Outcome
  | update _ => Outcome
  | entity _ => EntityResult
  | check _ _ => Unit
  | inspection _ _ => Nat

def program (s : DeskSettings) : (o : Operation) → DeskTask o.Result
  | select r => Desk.select s r
  | insert r => Desk.insert s r
  | update r => Desk.update s r
  | entity r => Desk.entity s r
  | check d c => Desk.check s d c
  | inspection d c => Desk.inspection d c

end Operation

/-! ### Programs on a connection -/

/-- What a lookup leads to: the task ends there, or goes on with the datasource. -/
theorem of_resolve {β : Type} {s : DeskSettings} {id : String}
    {f : Datasource × ConnectionConfig → DeskTask β} {l : List Event} {b : Except Failure β}
    (h : Trace (DeskTask.followedBy (resolve s id) f) l (.done b)) :
    (∃ x e, l = [⟨.load id, x⟩] ∧ b = .error e ∧
        ∀ d p, x = .ok (some d) → password s d ≠ .ok p) ∨
      ∃ d p l', l = ⟨.load id, .ok (some d)⟩ :: l' ∧ password s d = .ok p ∧
        Trace (f (d, reachable s (d.config p))) l' (.done b) := by
  obtain ⟨-, he⟩ | ⟨x, l, rfl, hx⟩ := Trace.of_ask h
  · cases he
  rcases x with e | _ | d
  · obtain ⟨rfl, hb⟩ := Trace.of_done hx
    exact .inl ⟨.error e, e, rfl, Program.done.inj hb, by simp⟩
  · obtain ⟨rfl, hb⟩ := Trace.of_done hx
    exact .inl ⟨.ok none, unknownDatasource, rfl, Program.done.inj hb, by simp⟩
  · change Trace (DeskTask.followedBy (DeskTask.ofExcept ((password s d).map fun p =>
      (d, reachable s (d.config p)))) f) l (.done b) at hx
    cases hp : password s d with
    | error e =>
      rw [hp] at hx
      obtain ⟨rfl, hb⟩ := Trace.of_done hx
      refine .inl ⟨.ok (some d), e, rfl, Program.done.inj hb, ?_⟩
      rintro d' p hd
      cases hd
      simp [hp]
    | ok p =>
      rw [hp] at hx
      exact .inr ⟨d, p, l, rfl, hp, hx⟩

variable {s : DeskSettings} {l : List Event}

end Desk

end QueryDesk
