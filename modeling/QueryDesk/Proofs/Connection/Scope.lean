import Mathlib.Data.List.Nodup
import QueryDesk.Connection.Scope
import QueryDesk.Proofs.Desk.Connections

/-!
# The connections of a scope

A scope in the course of a piece of work: it opens connections, the work calls those that it holds,
as to close them, and now and then it closes all that it holds; in the end it is dropped. A factory
may refuse any attempt to connect, and any call to a connection may fail and may leave the connection
open or closed. Main statement: wherever the work stops, the scope counts the connections that were
opened since it closed all and are open; and when it closes all or is dropped, each of these gets one
call to close, whatever the others answer, and nothing else does.
-/

namespace QueryDesk

/-! ### Factories -/

structure Factory (ω : Type) where
  /-- Why an attempt to connect fails, if it does. -/
  connecting : Dialect → ConnectionConfig → ω → Option Failure × ω
  /-- How another call is answered, and whether it leaves its connection closed. -/
  calling : (c : DeskCall) → ω → (c.Reply × Bool) × ω

/-- The connections of a factory, numbered as they were opened. -/
structure Connections (ω : Type) where
  opened : Nat
  closed : List Nat
  world : ω

variable {ω : Type}

def Connections.isOpen (s : Connections ω) (link : Nat) : Bool := !s.closed.contains link

/-- After a call that leaves the connection it goes to closed, or as it was. -/
def Connections.after (s : Connections ω) (c : DeskCall) (shut : Bool) (world : ω) :
    Connections ω :=
  { s with closed := if shut then c.link?.toList ++ s.closed else s.closed, world }

namespace Factory

def answer (F : Factory ω) : (c : DeskCall) → Connections ω → c.Reply × Connections ω
  | .connect d c, s =>
    match F.connecting d c s.world with
    | (some e, w) => (.error e, { s with world := w })
    | (none, w) => (.ok s.opened, { s with opened := s.opened + 1, world := w })
  | .isClosed link, s => (s.closed.contains link, s)
  | c, s =>
    let ((r, shut), w) := F.calling c s.world
    (r, s.after c shut w)

/-- A call to close this connection leaves it closed, however it is answered. -/
def Shuts (F : Factory ω) (link : Nat) : Prop := ∀ w, (F.calling (.close link) w).1.2 = true

end Factory

/-! ### Records -/

def Event.opened? : Event → Option Nat
  | ⟨.connect _ _, .ok link⟩ => some link
  | _ => none

namespace Record

def opened (l : List Event) : List Nat := l.filterMap Event.opened?

def closings (l : List Event) : List Nat :=
  (l.filter (·.call.isClose)).filterMap (·.call.link?)

theorem closings_append (l l' : List Event) : closings (l ++ l') = closings l ++ closings l' := by
  simp [closings]

end Record

theorem DeskProgram.events_bind {α β σ : Type} (answer : (c : DeskCall) → σ → c.Reply × σ)
    (p : DeskProgram α) (f : α → DeskProgram β) (s : σ) :
    events answer (p >>= f) s =
      events answer p s ++ events answer (f (p.run answer s).1) (p.run answer s).2 := by
  induction p generalizing s with
  | done a => rfl
  | ask c next ih => exact congrArg (_ :: ·) (ih _ _)

namespace Scope

/-! ### The course of a scope -/

/-- What happens to a scope before it is dropped. -/
inductive Step where
  | acquire (dialect : Dialect) (config : ConnectionConfig)
  /-- A call to a connection that the scope holds. -/
  | call (c : DeskCall)
  | closeAll

def Step.isCloseAll : Step → Bool
  | closeAll => true
  | _ => false

def Step.program (s : Scope) : Step → DeskProgram Scope
  | acquire d c => do
    let (_, s) ← s.acquire d c
    pure s
  | call c => do
    if c.link?.any s.links.contains then
      let _ ← Program.call c
      pure s
    else pure s
  | closeAll => s.closeAll

/-- A scope with all that happened to it. -/
structure Life (ω : Type) where
  scope : Scope
  connections : Connections ω
  record : List (Step × List Event)

/-- The connections that were opened since the scope closed all. -/
def held (record : List (Step × List Event)) : List Nat :=
  record.foldl (fun links x => if x.1.isCloseAll then [] else links ++ Record.opened x.2) []

/-- The connections that the scope itself asked to close. -/
def released (record : List (Step × List Event)) : List Nat :=
  (record.filter (·.1.isCloseAll)).flatMap fun x => Record.closings x.2

namespace Life

def take (F : Factory ω) (l : Life ω) (step : Step) : Life ω :=
  let p := step.program l.scope
  ⟨(p.run F.answer l.connections).1, (p.run F.answer l.connections).2,
    l.record ++ [(step, DeskProgram.events F.answer p l.connections)]⟩

def ofSteps (F : Factory ω) (w : ω) (steps : List Step) : Life ω :=
  steps.foldl (take F) ⟨.empty, ⟨0, [], w⟩, []⟩

/-- Held by the scope and open. -/
def isOpen (l : Life ω) (link : Nat) : Bool :=
  (held l.record).contains link && l.connections.isOpen link

/-- Asks each connection that the scope holds and that is open to close, once, and no other; when it
has come to its end, those that are closed by such a call are closed, whatever became of the others. -/
def Clears {α : Type} (F : Factory ω) (l : Life ω) (p : DeskProgram α) (s : Connections ω) : Prop :=
  (∀ link, (Record.closings (DeskProgram.events F.answer p s)).count link =
    if l.isOpen link then 1 else 0) ∧
  ∀ link, l.isOpen link → F.Shuts link → link ∈ (p.run F.answer s).2.closed

end Life

/-- What a scope does with its connections, wherever its life stops. -/
structure Life.Exact (F : Factory ω) (l : Life ω) : Prop where
  /-- It counts the connections that were opened since it closed all and are open. -/
  counts : l.scope.openCount.run F.answer l.connections =
    (((held l.record).filter l.isOpen).length, l.connections)
  /-- A failed attempt leaves it and the connections as they are. -/
  refused : ∀ d c e scope s, (l.scope.acquire d c).run F.answer l.connections =
    ((.error e, scope), s) →
      scope = l.scope ∧ s.opened = l.connections.opened ∧ s.closed = l.connections.closed
  /-- Another attempt adds one connection. -/
  opened : ∀ d c link scope s, (l.scope.acquire d c).run F.answer l.connections =
    ((.ok link, scope), s) → link ∉ held l.record ∧ scope.links = held l.record ++ [link]
  closesAll : l.Clears F l.scope.closeAll l.connections
  empties : (l.scope.closeAll.run F.answer l.connections).1 = .empty
  /-- Dropping it closes nothing yet; the task that comes of it does, whenever it is carried out. -/
  drops : Record.closings (DeskProgram.events F.answer (l.scope.drop true) l.connections) = [] ∧
    ∀ s, l.Clears F ((l.scope.drop true).run F.answer l.connections).1 s
  /-- Over a whole life, dropped in the end, no connection gets a second call to close from it. -/
  once : ∀ s, (released l.record ++ Record.closings (DeskProgram.events F.answer
    ((l.scope.drop true).run F.answer l.connections).1 s)).Nodup

/-! ### Opening, looking and closing -/

section Programs

variable {σ : Type} (F : Factory ω)

theorem connect_answer (d : Dialect) (c : ConnectionConfig) (s : Connections ω) :
    (∃ e w, F.answer (.connect d c) s = (.error e, { s with world := w })) ∨
      ∃ w, F.answer (.connect d c) s =
        (.ok s.opened, { s with opened := s.opened + 1, world := w }) := by
  rw [Factory.answer]
  rcases F.connecting d c s.world with ⟨_ | e, w⟩
  · exact .inr ⟨w, rfl⟩
  · exact .inl ⟨e, w, rfl⟩

/-- A scope after an attempt to open a connection. -/
def tried (scope : Scope) : Except Failure Nat → Scope
  | .ok link => ⟨scope.links ++ [link]⟩
  | .error _ => scope

theorem acquire_run (answer : (c : DeskCall) → σ → c.Reply × σ) (scope : Scope) (d : Dialect)
    (c : ConnectionConfig) (s : σ) :
    (scope.acquire d c).run answer s =
      (((answer (.connect d c) s).1, scope.tried (answer (.connect d c) s).1),
        (answer (.connect d c) s).2) := by
  have hconnect : (DeskProgram.connect d c).run answer s = answer (.connect d c) s := rfl
  rw [acquire, Program.run_bind, hconnect]
  rcases answer (.connect d c) s with ⟨_ | link, s'⟩ <;> rfl

theorem events_acquire (answer : (c : DeskCall) → σ → c.Reply × σ) (scope : Scope) (d : Dialect)
    (c : ConnectionConfig) (s : σ) :
    DeskProgram.events answer (scope.acquire d c) s =
      [⟨.connect d c, (answer (.connect d c) s).1⟩] := by
  show (⟨.connect d c, (answer (.connect d c) s).1⟩ :: DeskProgram.events answer _ _ : List Event) = _
  cases (answer (.connect d c) s).1 <;> rfl

theorem openOnes_run (links : List Nat) (s : Connections ω) :
    (openOnes links).run F.answer s = (links.filter s.isOpen, s) := by
  induction links with
  | nil => rfl
  | cons link rest ih =>
    have hrun : (openOnes (link :: rest)).run F.answer s =
        ((openOnes rest >>= fun others =>
          pure (if s.closed.contains link then others else link :: others)).run F.answer s) := rfl
    rw [hrun, Program.run_bind, ih, List.filter_cons, Connections.isOpen]
    cases s.closed.contains link <;> rfl

theorem closings_openOnes (answer : (c : DeskCall) → σ → c.Reply × σ) (links : List Nat) (s : σ) :
    Record.closings (DeskProgram.events answer (openOnes links) s) = [] := by
  induction links generalizing s with
  | nil => rfl
  | cons link rest ih =>
    show Record.closings (DeskProgram.events answer (openOnes rest >>= fun _ => pure _) _) = []
    rw [DeskProgram.events_bind, Record.closings_append, ih]
    rfl

theorem closings_closeEach (answer : (c : DeskCall) → σ → c.Reply × σ) (links : List Nat) (s : σ) :
    Record.closings (DeskProgram.events answer (closeEach links) s) = links := by
  induction links generalizing s with
  | nil => rfl
  | cons link rest ih => exact congrArg (link :: ·) (ih (answer (.close link) s).2)

theorem closings_closeAll (scope : Scope) (s : Connections ω) :
    Record.closings (DeskProgram.events F.answer scope.closeAll s) =
      scope.links.filter s.isOpen := by
  rw [closeAll, DeskProgram.events_bind, Record.closings_append, closings_openOnes, openOnes_run,
    DeskProgram.events_bind, Record.closings_append, closings_closeEach]
  exact List.append_nil _

theorem closeAll_run (scope : Scope) (s : Connections ω) :
    scope.closeAll.run F.answer s =
      (.empty, ((closeEach (scope.links.filter s.isOpen)).run F.answer s).2) := by
  rw [closeAll, Program.run_bind, openOnes_run, Program.run_bind]
  rfl

theorem openCount_run (scope : Scope) (s : Connections ω) :
    scope.openCount.run F.answer s =
      ((scope.links.filter s.isOpen).length, s) := by
  rw [openCount, Program.run_bind, openOnes_run]
  rfl

theorem drop_run (scope : Scope) (s : Connections ω) :
    (scope.drop true).run F.answer s =
      (closeEach (scope.links.filter s.isOpen), s) := by
  rw [drop, Program.run_bind, openOnes_run]
  rfl

theorem closings_drop (answer : (c : DeskCall) → σ → c.Reply × σ) (scope : Scope) (runtime : Bool)
    (s : σ) : Record.closings (DeskProgram.events answer (scope.drop runtime) s) = [] := by
  rw [drop, DeskProgram.events_bind, Record.closings_append, closings_openOnes]
  rfl

theorem answer_closed (c : DeskCall) (s : Connections ω) :
    s.closed ⊆ (F.answer c s).2.closed := by
  have hafter (shut : Bool) (w : ω) : s.closed ⊆ (s.after c shut w).closed := by
    cases shut with
    | false => exact fun _ h => h
    | true => exact fun _ h => List.mem_append_right _ h
  cases c with
  | connect d c =>
    rw [Factory.answer]
    rcases F.connecting d c s.world with ⟨_ | e, w⟩ <;> exact fun _ h => h
  | isClosed link => exact fun _ h => h
  | _ => exact hafter _ _

theorem answer_opened {c : DeskCall} (h : c.isConnect = false) (s : Connections ω) :
    (F.answer c s).2.opened = s.opened := by
  cases c with
  | connect d c => cases h
  | _ => rfl

theorem run_closed {α : Type} (p : DeskProgram α) (s : Connections ω) :
    s.closed ⊆ (p.run F.answer s).2.closed := by
  induction p generalizing s with
  | done a => exact fun _ h => h
  | ask c next ih => exact fun _ h => ih _ _ (answer_closed F c s h)

theorem closeEach_opened (links : List Nat) (s : Connections ω) :
    ((closeEach links).run F.answer s).2.opened = s.opened := by
  induction links generalizing s with
  | nil => rfl
  | cons link rest ih => exact ih (F.answer (.close link) s).2

/-- A connection that its own closing shuts is closed, whatever the others answer. -/
theorem mem_closed_of_closeEach {links : List Nat} {link : Nat} (hmem : link ∈ links)
    (hshuts : F.Shuts link) (s : Connections ω) :
    link ∈ ((closeEach links).run F.answer s).2.closed := by
  induction links generalizing s with
  | nil => cases hmem
  | cons first rest ih =>
    rcases List.mem_cons.1 hmem with rfl | hmem
    · refine run_closed F (closeEach rest) (F.answer (.close link) s).2 ?_
      have hshut : (F.calling (.close link) s.world).1.2 = true := hshuts s.world
      simp [Factory.answer, Connections.after, hshut, DeskCall.link?]
    · exact ih hmem (F.answer (.close first) s).2

end Programs

/-! ### What every step keeps -/

theorem held_concat (record : List (Step × List Event)) (step : Step) (l : List Event) :
    held (record ++ [(step, l)]) =
      if step.isCloseAll then [] else held record ++ Record.opened l := by
  simp [held]

theorem released_concat (record : List (Step × List Event)) (step : Step) (l : List Event) :
    released (record ++ [(step, l)]) =
      released record ++ if step.isCloseAll then Record.closings l else [] := by
  cases h : step.isCloseAll <;> simp [released, h]

/-- The scope holds what it should, and what it asked to close is behind it. -/
structure Life.Sound (l : Life ω) : Prop where
  links : l.scope.links = held l.record
  known : ∀ link ∈ held l.record, link < l.connections.opened
  distinct : (held l.record).Nodup
  behind : ∀ link ∈ released l.record, link < l.connections.opened ∧ link ∉ held l.record
  once : (released l.record).Nodup

namespace Life

variable (F : Factory ω)

theorem Sound.quiet {l : Life ω} (h : l.Sound) {step : Step} (hstep : step.isCloseAll = false)
    {said : List Event} (hsaid : Record.opened said = []) {c : Connections ω}
    (hc : c.opened = l.connections.opened) :
    Sound ⟨l.scope, c, l.record ++ [(step, said)]⟩ := by
  have hheld : held (l.record ++ [(step, said)]) = held l.record := by
    simp [held_concat, hstep, hsaid]
  have hreleased : released (l.record ++ [(step, said)]) = released l.record := by
    simp [released_concat, hstep]
  exact {
    links := by rw [hheld, h.links]
    known := by
      rw [hheld, hc]
      exact h.known
    distinct := by
      rw [hheld]
      exact h.distinct
    behind := by
      rw [hheld, hreleased, hc]
      exact h.behind
    once := by
      rw [hreleased]
      exact h.once }

theorem Sound.opened {l : Life ω} (h : l.Sound) (d : Dialect) (c : ConnectionConfig) (w : ω) :
    Sound ⟨⟨l.scope.links ++ [l.connections.opened]⟩,
      { l.connections with opened := l.connections.opened + 1, world := w },
      l.record ++ [(.acquire d c, [⟨.connect d c, .ok l.connections.opened⟩])]⟩ := by
  have hheld : held (l.record ++ [(.acquire d c, [⟨.connect d c, .ok l.connections.opened⟩])]) =
      held l.record ++ [l.connections.opened] := held_concat ..
  have hreleased :
      released (l.record ++ [(.acquire d c, [⟨.connect d c, .ok l.connections.opened⟩])]) =
        released l.record := (released_concat ..).trans (List.append_nil _)
  -- The new number is none of those that are held, nor of those that were released.
  have hnew : l.connections.opened ∉ held l.record := fun hmem =>
    Nat.lt_irrefl _ (h.known _ hmem)
  exact {
    links := by rw [hheld, h.links]
    known := by
      rw [hheld]
      intro link hmem
      rcases List.mem_append.1 hmem with hmem | hmem
      · exact Nat.lt_succ_of_lt (h.known link hmem)
      · rw [List.mem_singleton.1 hmem]
        exact Nat.lt_succ_self _
    distinct := by
      rw [hheld]
      refine List.nodup_append.2 ⟨h.distinct, by simp, fun a ha b hb => ?_⟩
      rw [List.mem_singleton.1 hb]
      exact ne_of_mem_of_not_mem ha hnew
    behind := by
      rw [hheld, hreleased]
      intro link hmem
      obtain ⟨hknown, hgone⟩ := h.behind link hmem
      refine ⟨Nat.lt_succ_of_lt hknown, fun hmem => ?_⟩
      rcases List.mem_append.1 hmem with hmem | hmem
      · exact hgone hmem
      · exact Nat.ne_of_lt hknown (List.mem_singleton.1 hmem)
    once := by
      rw [hreleased]
      exact h.once }

theorem Sound.acquire {l : Life ω} (h : l.Sound) (d : Dialect) (c : ConnectionConfig) :
    (l.take F (.acquire d c)).Sound := by
  have htake : l.take F (.acquire d c) =
      ⟨l.scope.tried (F.answer (.connect d c) l.connections).1,
        (F.answer (.connect d c) l.connections).2,
        l.record ++ [(.acquire d c, [⟨.connect d c, (F.answer (.connect d c) l.connections).1⟩])]⟩ := by
    simp only [Life.take, Step.program, Program.run_bind, DeskProgram.events_bind, acquire_run,
      events_acquire]
    rfl
  rw [htake]
  obtain ⟨e, w, hanswer⟩ | ⟨w, hanswer⟩ := connect_answer F d c l.connections
  · rw [hanswer]
    exact h.quiet rfl rfl rfl
  · rw [hanswer]
    exact h.opened d c w

theorem Sound.call {l : Life ω} (h : l.Sound) (c : DeskCall) : (l.take F (.call c)).Sound := by
  by_cases hc : c.link?.any l.scope.links.contains = true
  · have htake : l.take F (.call c) =
        ⟨l.scope, (F.answer c l.connections).2,
          l.record ++ [(.call c, [⟨c, (F.answer c l.connections).1⟩])]⟩ := by
      simp only [Life.take, Step.program, hc, if_true]
      rfl
    have hconnect : c.isConnect = false := by
      cases c <;> first | rfl | cases hc
    have hopened : Record.opened [⟨c, (F.answer c l.connections).1⟩] = [] := by
      cases c <;> first | rfl | cases hc
    rw [htake]
    exact h.quiet rfl hopened (answer_opened F hconnect _)
  · have htake : l.take F (.call c) = ⟨l.scope, l.connections, l.record ++ [(.call c, [])]⟩ := by
      simp only [Life.take, Step.program, hc]
      rfl
    rw [htake]
    exact h.quiet rfl rfl rfl

theorem Sound.nodup_released_append {l : Life ω} (h : l.Sound) :
    (released l.record ++ (held l.record).filter l.connections.isOpen).Nodup := by
  refine List.nodup_append.2 ⟨h.once, h.distinct.filter _, fun a ha b hb => ?_⟩
  exact (ne_of_mem_of_not_mem (List.mem_filter.1 hb).1 (h.behind a ha).2).symm

theorem Sound.closeAll {l : Life ω} (h : l.Sound) : (l.take F .closeAll).Sound := by
  have hrun := closeAll_run F l.scope l.connections
  have hscope : (l.take F .closeAll).scope = .empty := congrArg Prod.fst hrun
  have hopened : (l.take F .closeAll).connections.opened = l.connections.opened :=
    (congrArg (·.2.opened) hrun).trans (closeEach_opened F _ _)
  have hheld : held (l.take F .closeAll).record = [] := held_concat ..
  have hreleased : released (l.take F .closeAll).record = released l.record ++
      (held l.record).filter l.connections.isOpen := by
    refine (released_concat ..).trans (congrArg (released l.record ++ ·) ?_)
    rw [← h.links]
    exact closings_closeAll F l.scope l.connections
  exact {
    links := by
      rw [hscope, hheld]
      rfl
    known := by
      rw [hheld]
      exact fun _ hmem => absurd hmem List.not_mem_nil
    distinct := by
      rw [hheld]
      exact List.nodup_nil
    behind := by
      rw [hheld, hreleased, hopened]
      intro link hmem
      refine ⟨?_, List.not_mem_nil⟩
      rcases List.mem_append.1 hmem with hmem | hmem
      · exact (h.behind link hmem).1
      · exact h.known link (List.mem_filter.1 hmem).1
    once := by
      rw [hreleased]
      exact h.nodup_released_append }

theorem Sound.take {l : Life ω} (h : l.Sound) (step : Step) : (l.take F step).Sound := by
  cases step with
  | acquire d c => exact h.acquire F d c
  | call c => exact h.call F c
  | closeAll => exact h.closeAll F

theorem sound_ofSteps (w : ω) (steps : List Step) : (ofSteps F w steps).Sound := by
  refine List.foldlRecOn steps (take F) ⟨rfl, ?_, ?_, ?_, ?_⟩ fun l h step _ => h.take F step
  all_goals simp [held, released]

/-! ### What a scope does -/

theorem Sound.filter_links {l : Life ω} (h : l.Sound) :
    l.scope.links.filter l.connections.isOpen =
      (held l.record).filter l.isOpen := by
  rw [h.links]
  refine List.filter_congr fun link hmem => ?_
  rw [isOpen, List.contains_iff_mem.2 hmem, Bool.true_and]

theorem mem_filter_isOpen (l : Life ω) (link : Nat) :
    link ∈ (held l.record).filter l.isOpen ↔ l.isOpen link = true := by
  rw [List.mem_filter, and_iff_right_iff_imp, isOpen, Bool.and_eq_true, List.contains_iff_mem]
  exact And.left

theorem Sound.count_isOpen {l : Life ω} (h : l.Sound) (link : Nat) :
    ((held l.record).filter l.isOpen).count link = if l.isOpen link then 1 else 0 := by
  have hdistinct := h.distinct.filter l.isOpen
  split
  · next hopen => exact List.count_eq_one_of_mem hdistinct ((mem_filter_isOpen l link).2 hopen)
  · next hopen => exact List.count_eq_zero_of_not_mem (mt (mem_filter_isOpen l link).1 hopen)

theorem Sound.exact {l : Life ω} (h : l.Sound) : l.Exact F where
  counts := by rw [openCount_run, h.filter_links]
  refused d c e scope s hrun := by
    rw [acquire_run] at hrun
    obtain ⟨e', w, hanswer⟩ | ⟨w, hanswer⟩ := connect_answer F d c l.connections
    · rw [hanswer] at hrun
      cases hrun
      exact ⟨rfl, rfl, rfl⟩
    · rw [hanswer] at hrun
      cases hrun
  opened d c link scope s hrun := by
    rw [acquire_run] at hrun
    obtain ⟨e', w, hanswer⟩ | ⟨w, hanswer⟩ := connect_answer F d c l.connections
    · rw [hanswer] at hrun
      cases hrun
    · rw [hanswer] at hrun
      cases hrun
      exact ⟨fun hmem => Nat.lt_irrefl _ (h.known _ hmem), congrArg (· ++ [_]) h.links⟩
  closesAll := by
    refine ⟨fun link => ?_, fun link hopen hshuts => ?_⟩
    · rw [closings_closeAll, h.filter_links, h.count_isOpen]
    · rw [closeAll_run, h.filter_links]
      exact mem_closed_of_closeEach F ((mem_filter_isOpen l link).2 hopen) hshuts _
  empties := by rw [closeAll_run]
  drops := by
    refine ⟨closings_drop .., fun s => ⟨fun link => ?_, fun link hopen hshuts => ?_⟩⟩
    · rw [drop_run, closings_closeEach, h.filter_links, h.count_isOpen]
    · rw [drop_run, h.filter_links]
      exact mem_closed_of_closeEach F ((mem_filter_isOpen l link).2 hopen) hshuts s
  once s := by
    rw [drop_run, closings_closeEach, h.links]
    exact h.nodup_released_append

end Life

/-- The life of any scope, with any factory. -/
theorem closes_each_once (F : Factory ω) (w : ω) (steps : List Step) :
    (Life.ofSteps F w steps).Exact F :=
  (Life.sound_ofSteps F w steps).exact F

/-- The work closes the first of two connections, and the scope the other, whatever is answered. -/
example (reply : (c : DeskCall) → c.Reply) (config : ConnectionConfig) :
    released (Life.ofSteps ⟨fun _ _ _ => (none, ()), fun c _ => ((reply c, c.isClose), ())⟩ ()
      [.acquire .mysql config, .acquire .postgres config, .call (.close 0), .closeAll]).record =
        [1] := by cbv

end Scope

end QueryDesk
