import QueryDesk.Desk.Inspection

/-!
# The course of one inspection

What an inspection has behind it when it stands at a call, for all replies it can get on the way: one
rule for each call of the program. What the calls so far amount to (the datasource is held, a
snapshot is stored, a last status is written) is read off the record of the calls with their replies.
-/

namespace QueryDesk

/-! ### Records of calls -/

structure Event where
  call : DeskCall
  reply : call.Reply

namespace Event

/-- A claim that was free. -/
def isClaim : Event → Bool
  | ⟨.claim _, free⟩ => free
  | _ => false

def isRelease : Event → Bool
  | ⟨.release _, _⟩ => true
  | _ => false

def isReplace : Event → Bool
  | ⟨.replace _ _, .ok _⟩ => true
  | _ => false

def isStamp : Event → Bool
  | ⟨.stamp _, .ok _⟩ => true
  | _ => false

def status? : Event → Option InspectionStatus
  | ⟨.setStatus _ x, .ok _⟩ => some x
  | _ => none

def isUnwritten : Event → Bool
  | ⟨.setStatus _ _, .error _⟩ => true
  | _ => false

end Event

namespace Record

/-- The datasource is claimed and not free again. -/
def holds (l : List Event) : Bool := l.any Event.isClaim && !l.any Event.isRelease

def isReleased (l : List Event) : Bool := l.any Event.isRelease

def isReplaced (l : List Event) : Bool := l.any Event.isReplace

def isStamped (l : List Event) : Bool := l.any Event.isStamp

/-- The statuses written that say how the inspection ended. -/
def lastStatuses (l : List Event) : List InspectionStatus :=
  (l.filterMap Event.status?).filter (· ≠ .inspecting)

/-- Ready if the snapshot is stored and the end of the inspection noted, else failed. -/
def verdict (l : List Event) : InspectionStatus :=
  if isReplaced l && isStamped l then .ready else .failed

end Record

namespace DeskProgram

variable {α β : Type}

/-- The call a program stands at, or its result. -/
def front : DeskProgram α → DeskCall ⊕ α
  | .done a => .inr a
  | .ask c _ => .inl c

/-- `Trace p l q`: the calls and replies `l` lead from `p` to `q`. -/
inductive Trace : DeskProgram α → List Event → DeskProgram α → Prop where
  | stay (p : DeskProgram α) : Trace p [] p
  | step (c : DeskCall) (next : c.Reply → DeskProgram α) (r : c.Reply) {l : List Event}
      {q : DeskProgram α} (rest : Trace (next r) l q) : Trace (.ask c next) (⟨c, r⟩ :: l) q

theorem Trace.snoc {p : DeskProgram α} {l : List Event} {c : DeskCall}
    {next : c.Reply → DeskProgram α} (h : Trace p l (.ask c next)) (r : c.Reply) :
    Trace p (l ++ [⟨c, r⟩]) (next r) := by
  generalize hq : Program.ask c next = q at h
  induction h with
  | stay p =>
    subst hq
    exact .step c next r (.stay (next r))
  | step c' next' r' _ ih => exact .step c' next' r' (ih hq)

theorem Trace.of_done {a : α} {l : List Event} {q : DeskProgram α}
    (h : Trace (.done a : DeskProgram α) l q) : l = [] ∧ q = .done a := by
  cases h with
  | stay => exact ⟨rfl, rfl⟩

theorem Trace.of_ask {c : DeskCall} {next : c.Reply → DeskProgram α} {l : List Event}
    {q : DeskProgram α} (h : Trace (.ask c next) l q) :
    (l = [] ∧ q = .ask c next) ∨ ∃ r l', l = ⟨c, r⟩ :: l' ∧ Trace (next r) l' q := by
  cases h with
  | stay => exact .inl ⟨rfl, rfl⟩
  | step c next r rest => exact .inr ⟨r, _, rfl, rest⟩

/-- A program followed by another: the first is still at a call, or it is done and the second one
goes on. -/
theorem Trace.of_andThen {p : DeskProgram α} {f : α → DeskProgram β} {l : List Event}
    {q : DeskProgram β} (h : Trace (p.andThen f) l q) :
    (∃ p' c, Trace p l p' ∧ p'.front = .inl c ∧ q.front = .inl c) ∨
      ∃ l₁ l₂ a, l = l₁ ++ l₂ ∧ Trace p l₁ (.done a) ∧ Trace (f a) l₂ q := by
  induction p generalizing l with
  | done a => exact .inr ⟨[], l, a, rfl, .stay _, h⟩
  | ask c next ih =>
    obtain ⟨rfl, rfl⟩ | ⟨r, l', rfl, h'⟩ := Trace.of_ask h
    · exact .inl ⟨.ask c next, c, .stay _, rfl, rfl⟩
    · obtain ⟨p', c', hp, hfront, hq⟩ | ⟨l₁, l₂, a, rfl, h₁, h₂⟩ := ih r h'
      · exact .inl ⟨p', c', .step c next r hp, hfront, hq⟩
      · exact .inr ⟨⟨c, r⟩ :: l₁, l₂, a, rfl, .step c next r h₁, h₂⟩

end DeskProgram

namespace Desk

open DeskProgram

/-! ### Reading and storing -/

/-- The calls of `refresh` so far, with the next one or the result. -/
inductive Refreshing (d : Datasource) (c : ConnectionConfig) :
    List Event → DeskCall ⊕ Except Failure Nat → Prop where
  | connecting : Refreshing d c [] (.inl (.connect d.dialect c))
  | unreachable (e : Failure) :
      Refreshing d c [⟨.connect d.dialect c, .error e⟩] (.inr (.error e))
  | connected (link : Nat) :
      Refreshing d c [⟨.connect d.dialect c, .ok link⟩] (.inl (.inspect link))
  | read (link : Nat) (r : Except Failure (List Snapshot)) :
      Refreshing d c [⟨.connect d.dialect c, .ok link⟩, ⟨.inspect link, r⟩] (.inl (.close link))
  | unread (link : Nat) (e : Failure) (x : Except Failure Unit) :
      Refreshing d c [⟨.connect d.dialect c, .ok link⟩, ⟨.inspect link, .error e⟩, ⟨.close link, x⟩]
        (.inr (.error e))
  | closed (link : Nat) (ss : List Snapshot) (x : Except Failure Unit) :
      Refreshing d c [⟨.connect d.dialect c, .ok link⟩, ⟨.inspect link, .ok ss⟩, ⟨.close link, x⟩]
        (.inl (.replace d.id ss))
  | unstored (link : Nat) (ss : List Snapshot) (x : Except Failure Unit) (e : Failure) :
      Refreshing d c [⟨.connect d.dialect c, .ok link⟩, ⟨.inspect link, .ok ss⟩, ⟨.close link, x⟩,
        ⟨.replace d.id ss, .error e⟩] (.inr (.error e))
  | stored (link : Nat) (ss : List Snapshot) (x : Except Failure Unit) :
      Refreshing d c [⟨.connect d.dialect c, .ok link⟩, ⟨.inspect link, .ok ss⟩, ⟨.close link, x⟩,
        ⟨.replace d.id ss, .ok ()⟩] (.inl (.stamp d.id))
  | unstamped (link : Nat) (ss : List Snapshot) (x : Except Failure Unit) (e : Failure) :
      Refreshing d c [⟨.connect d.dialect c, .ok link⟩, ⟨.inspect link, .ok ss⟩, ⟨.close link, x⟩,
        ⟨.replace d.id ss, .ok ()⟩, ⟨.stamp d.id, .error e⟩] (.inr (.error e))
  | refreshed (link : Nat) (ss : List Snapshot) (x : Except Failure Unit) :
      Refreshing d c [⟨.connect d.dialect c, .ok link⟩, ⟨.inspect link, .ok ss⟩, ⟨.close link, x⟩,
        ⟨.replace d.id ss, .ok ()⟩, ⟨.stamp d.id, .ok ()⟩] (.inr (.ok ss.length))

theorem refreshing_store {d : Datasource} {c : ConnectionConfig} {link : Nat} {ss : List Snapshot}
    {x : Except Failure Unit} {l : List Event} {q : DeskTask Nat}
    (h : Trace (DeskTask.followedBy (DeskProgram.replace d.id ss) fun () =>
      DeskTask.followedBy (DeskProgram.stamp d.id) fun () =>
      DeskTask.ofExcept (.ok ss.length)) l q) :
    Refreshing d c (⟨.connect d.dialect c, .ok link⟩ :: ⟨.inspect link, .ok ss⟩ ::
      ⟨.close link, x⟩ :: l) q.front := by
  obtain ⟨rfl, rfl⟩ | ⟨r, l, rfl, hreplaced⟩ := Trace.of_ask h
  · exact .closed link ss x
  cases r with
  | error e =>
    obtain ⟨rfl, rfl⟩ := Trace.of_done hreplaced
    exact .unstored link ss x e
  | ok =>
    obtain ⟨rfl, rfl⟩ | ⟨r, l, rfl, hstamped⟩ := Trace.of_ask hreplaced
    · exact .stored link ss x
    cases r with
    | error e =>
      obtain ⟨rfl, rfl⟩ := Trace.of_done hstamped
      exact .unstamped link ss x e
    | ok =>
      obtain ⟨rfl, rfl⟩ := Trace.of_done hstamped
      exact .refreshed link ss x

theorem refreshing_of_trace {d : Datasource} {c : ConnectionConfig} {l : List Event}
    {q : DeskTask Nat} (h : Trace (refresh d c) l q) : Refreshing d c l q.front := by
  obtain ⟨rfl, rfl⟩ | ⟨r, l, rfl, hconnected⟩ := Trace.of_ask h
  · exact .connecting
  cases r with
  | error e =>
    obtain ⟨rfl, rfl⟩ := Trace.of_done hconnected
    exact .unreachable e
  | ok link =>
    obtain ⟨rfl, rfl⟩ | ⟨r, l, rfl, hread⟩ := Trace.of_ask hconnected
    · exact .connected link
    obtain ⟨rfl, rfl⟩ | ⟨x, l, rfl, hclosed⟩ := Trace.of_ask hread
    · exact .read link r
    cases r with
    | error e =>
      obtain ⟨rfl, rfl⟩ := Trace.of_done hclosed
      exact .unread link e x
    | ok ss => exact refreshing_store hclosed

/-! ### The whole course -/

/-- A call to `inspect` and, once it is accepted, the background part that it starts. -/
def visit (s : DeskSettings) (id : String) : DeskTask Nat :=
  DeskTask.followedBy (inspect s id) fun task => task

/-- The calls up to the claim of a datasource. -/
def claiming (id : String) (d : Datasource) (free : Bool) : List Event :=
  [⟨.load id, .ok (some d)⟩, ⟨.claim d.id, free⟩]

/-- The calls of a visit so far, with the next one or the result. -/
inductive Course (s : DeskSettings) (id : String) :
    List Event → DeskCall ⊕ Except Failure Nat → Prop where
  | arriving : Course s id [] (.inl (.load id))
  | lost (r : Except Failure (Option Datasource)) (e : Failure)
      (h : ∀ d p, r = .ok (some d) → password s d ≠ .ok p) :
      Course s id [⟨.load id, r⟩] (.inr (.error e))
  | resolved (d : Datasource) (p : Option String) (h : password s d = .ok p) :
      Course s id [⟨.load id, .ok (some d)⟩] (.inl (.claim d.id))
  | refused (d : Datasource) : Course s id (claiming id d false) (.inr (.error alreadyRunning))
  | claimed (d : Datasource) (p : Option String) (h : password s d = .ok p) :
      Course s id (claiming id d true) (.inl (.setStatus d.id .inspecting))
  | denied (d : Datasource) (e : Failure) :
      Course s id (claiming id d true ++ [⟨.setStatus d.id .inspecting, .error e⟩])
        (.inl (.release d.id))
  | dismissed (d : Datasource) (e : Failure) :
      Course s id (claiming id d true ++
        [⟨.setStatus d.id .inspecting, .error e⟩, ⟨.release d.id, ()⟩]) (.inr (.error e))
  | refreshing (d : Datasource) (c : ConnectionConfig) (l : List Event) (call : DeskCall)
      (h : Refreshing d c l (.inl call)) :
      Course s id (claiming id d true ++ ⟨.setStatus d.id .inspecting, .ok ()⟩ :: l) (.inl call)
  | reporting (d : Datasource) (c : ConnectionConfig) (l : List Event)
      (outcome : Except Failure Nat) (h : Refreshing d c l (.inr outcome)) :
      Course s id (claiming id d true ++ ⟨.setStatus d.id .inspecting, .ok ()⟩ :: l)
        (.inl (.setStatus d.id (finalStatus outcome)))
  | reported (d : Datasource) (c : ConnectionConfig) (l : List Event)
      (outcome : Except Failure Nat) (h : Refreshing d c l (.inr outcome))
      (r : Except Failure Unit) :
      Course s id (claiming id d true ++ ⟨.setStatus d.id .inspecting, .ok ()⟩ ::
        (l ++ [⟨.setStatus d.id (finalStatus outcome), r⟩])) (.inl (.release d.id))
  | ended (d : Datasource) (c : ConnectionConfig) (l : List Event)
      (outcome : Except Failure Nat) (h : Refreshing d c l (.inr outcome))
      (r : Except Failure Unit) :
      Course s id (claiming id d true ++ ⟨.setStatus d.id .inspecting, .ok ()⟩ ::
        (l ++ [⟨.setStatus d.id (finalStatus outcome), r⟩, ⟨.release d.id, ()⟩])) (.inr outcome)

theorem course_of_inspection {s : DeskSettings} {id : String} {d : Datasource}
    {c : ConnectionConfig} {l : List Event} {q : DeskTask Nat} (h : Trace (inspection d c) l q) :
    Course s id (claiming id d true ++ ⟨.setStatus d.id .inspecting, .ok ()⟩ :: l) q.front := by
  obtain ⟨p, call, hp, hfront, hq⟩ | ⟨l₁, l₂, outcome, rfl, h₁, h₂⟩ := Trace.of_andThen h
  · have hrefreshing := refreshing_of_trace hp
    rw [hfront] at hrefreshing
    rw [hq]
    exact .refreshing d c l call hrefreshing
  · have hrefreshed : Refreshing d c l₁ (.inr outcome) := refreshing_of_trace h₁
    obtain ⟨rfl, rfl⟩ | ⟨r, l, rfl, hreported⟩ := Trace.of_ask h₂
    · rw [List.append_nil]
      exact .reporting d c l₁ outcome hrefreshed
    obtain ⟨rfl, rfl⟩ | ⟨r', l, rfl, hreleased⟩ := Trace.of_ask hreported
    · exact .reported d c l₁ outcome hrefreshed r
    obtain ⟨rfl, rfl⟩ := Trace.of_done hreleased
    exact .ended d c l₁ outcome hrefreshed r

theorem course_of_accept {s : DeskSettings} {id : String} {d : Datasource} {p : Option String}
    (hp : password s d = .ok p) {c : ConnectionConfig} {l : List Event} {q : DeskTask Nat}
    (h : Trace (DeskTask.followedBy (accept d c) fun task => task) l q) :
    Course s id (⟨.load id, .ok (some d)⟩ :: l) q.front := by
  obtain ⟨rfl, rfl⟩ | ⟨free, l, rfl, hclaimed⟩ := Trace.of_ask h
  · exact .resolved d p hp
  cases free with
  | false =>
    obtain ⟨rfl, rfl⟩ := Trace.of_done hclaimed
    exact .refused d
  | true =>
    obtain ⟨rfl, rfl⟩ | ⟨r, l, rfl, hset⟩ := Trace.of_ask hclaimed
    · exact .claimed d p hp
    cases r with
    | ok => exact course_of_inspection hset
    | error e =>
      obtain ⟨rfl, rfl⟩ | ⟨r', l, rfl, hreleased⟩ := Trace.of_ask hset
      · exact .denied d e
      obtain ⟨rfl, rfl⟩ := Trace.of_done hreleased
      exact .dismissed d e

theorem course_of_trace {s : DeskSettings} {id : String} {l : List Event} {q : DeskTask Nat}
    (h : Trace (visit s id) l q) : Course s id l q.front := by
  obtain ⟨rfl, rfl⟩ | ⟨r, l, rfl, hloaded⟩ := Trace.of_ask h
  · exact .arriving
  match r, hloaded with
  | .error e, hloaded =>
    obtain ⟨rfl, rfl⟩ := Trace.of_done hloaded
    exact .lost (.error e) e (by simp)
  | .ok none, hloaded =>
    obtain ⟨rfl, rfl⟩ := Trace.of_done hloaded
    exact .lost (.ok none) unknownDatasource (by simp)
  | .ok (some d), hloaded =>
    -- the password decides whether the visit goes on to claim the datasource
    cases hp : password s d with
    | error e =>
      simp only [DeskTask.ofExcept, Program.andThen, hp, Except.map] at hloaded
      obtain ⟨rfl, rfl⟩ := Trace.of_done hloaded
      refine .lost (.ok (some d)) e ?_
      intro d' p hd
      cases hd
      simp [hp]
    | ok p =>
      simp only [DeskTask.ofExcept, Program.andThen, hp, Except.map] at hloaded
      exact course_of_accept hp hloaded

/-! ### What a course amounts to -/

open Record

theorem Refreshing.plain {d : Datasource} {c : ConnectionConfig} {l : List Event}
    {x : DeskCall ⊕ Except Failure Nat} (h : Refreshing d c l x) :
    l.any Event.isClaim = false ∧ l.any Event.isRelease = false ∧
      l.filterMap Event.status? = [] := by
  cases h <;> exact ⟨rfl, rfl, rfl⟩

theorem Refreshing.finalStatus_eq {d : Datasource} {c : ConnectionConfig} {l : List Event}
    {outcome : Except Failure Nat} (h : Refreshing d c l (.inr outcome)) :
    finalStatus outcome = verdict l := by
  cases h <;> rfl

theorem finalStatus_ne_inspecting (outcome : Except Failure Nat) :
    finalStatus outcome ≠ .inspecting := by
  cases outcome <;> simp [finalStatus]

/-- The record of an inspection from its claim on, in terms of that of reading and storing. -/
theorem record_accepted (id : String) (d : Datasource) (l : List Event) :
    holds (claiming id d true ++ ⟨.setStatus d.id .inspecting, .ok ()⟩ :: l) =
        !l.any Event.isRelease ∧
      isReleased (claiming id d true ++ ⟨.setStatus d.id .inspecting, .ok ()⟩ :: l) =
        l.any Event.isRelease ∧
      lastStatuses (claiming id d true ++ ⟨.setStatus d.id .inspecting, .ok ()⟩ :: l) =
        lastStatuses l ∧
      verdict (claiming id d true ++ ⟨.setStatus d.id .inspecting, .ok ()⟩ :: l) = verdict l :=
  ⟨rfl, rfl, rfl, rfl⟩

theorem Course.of_load {s : DeskSettings} {id i : String} {l : List Event}
    (h : Course s id l (.inl (.load i))) : i = id ∧ l = [] := by
  cases h with
  | arriving => exact ⟨rfl, rfl⟩
  | refreshing d c l call h => cases h

theorem Course.of_claim {s : DeskSettings} {id i : String} {l : List Event}
    (h : Course s id l (.inl (.claim i))) :
    ∃ d p, password s d = .ok p ∧ i = d.id ∧ l = [⟨.load id, .ok (some d)⟩] := by
  cases h with
  | resolved d p hp => exact ⟨d, p, hp, rfl, rfl⟩
  | refreshing d c l call h => cases h

/-- The status that an inspection is going on is the first thing written. -/
theorem Course.of_setStatus_inspecting {s : DeskSettings} {id i : String} {l : List Event}
    (h : Course s id l (.inl (.setStatus i .inspecting))) :
    ∃ d, i = d.id ∧ l = claiming id d true := by
  generalize hx : (Sum.inl (.setStatus i .inspecting) : DeskCall ⊕ Except Failure Nat) = x at h
  cases h with
  | claimed d p hp =>
    cases hx
    exact ⟨d, rfl, rfl⟩
  | refreshing d c l call h =>
    cases hx
    cases h
  | reporting d c l outcome h =>
    simp only [Sum.inl.injEq, DeskCall.setStatus.injEq] at hx
    exact absurd hx.2.symm (finalStatus_ne_inspecting outcome)
  | _ => cases hx

theorem Course.of_accepted {s : DeskSettings} {id i : String} {d : Datasource}
    {x : DeskCall ⊕ Except Failure Nat}
    (h : Course s id (claiming i d true ++ [⟨.setStatus d.id .inspecting, .ok ()⟩]) x) :
    ∃ dialect c, x = .inl (.connect dialect c) := by
  generalize hl : claiming i d true ++ [⟨.setStatus d.id .inspecting, .ok ()⟩] = l at h
  cases h with
  | refreshing d' c l call h =>
    cases h with
    | connecting => exact ⟨d'.dialect, c, rfl⟩
    | _ => simp [claiming] at hl
  | reporting d' c l outcome h => cases h <;> simp [claiming] at hl
  | reported d' c l outcome h r => cases h <;> simp [claiming] at hl
  | ended d' c l outcome h r => cases h <;> simp [claiming] at hl
  | _ => simp [claiming] at hl

theorem Course.of_setStatus {s : DeskSettings} {id i : String} {l : List Event}
    {x : InspectionStatus} (h : Course s id l (.inl (.setStatus i x))) :
    (∃ d, ⟨.load id, .ok (some d)⟩ ∈ l ∧ i = d.id) ∧ holds l = true ∧ lastStatuses l = [] ∧
      (x ≠ .inspecting → x = verdict l) := by
  cases h with
  | claimed d p hp => exact ⟨⟨d, by simp [claiming], rfl⟩, rfl, rfl, fun h => absurd rfl h⟩
  | refreshing d c l call h => cases h
  | reporting d c l outcome h =>
    obtain ⟨_, hrelease, hstatus⟩ := h.plain
    obtain ⟨hholds, _, hlast, hverdict⟩ := record_accepted id d l
    refine ⟨⟨d, by simp [claiming], rfl⟩, ?_, ?_, ?_⟩
    · rw [hholds, hrelease]
      rfl
    · rw [hlast, lastStatuses, hstatus]
      rfl
    · intro _
      rw [hverdict, h.finalStatus_eq]

theorem Course.of_replace {s : DeskSettings} {id i : String} {l : List Event} {ss : List Snapshot}
    (h : Course s id l (.inl (.replace i ss))) :
    (∃ d, ⟨.load id, .ok (some d)⟩ ∈ l ∧ i = d.id) ∧ holds l = true ∧ lastStatuses l = [] ∧
      isReplaced l = false := by
  cases h with
  | refreshing d c l call h =>
    cases h
    exact ⟨⟨d, by simp [claiming], rfl⟩, rfl, rfl, rfl⟩

theorem Course.of_stamp {s : DeskSettings} {id i : String} {l : List Event}
    (h : Course s id l (.inl (.stamp i))) :
    (∃ d, ⟨.load id, .ok (some d)⟩ ∈ l ∧ i = d.id) ∧ holds l = true ∧ lastStatuses l = [] := by
  cases h with
  | refreshing d c l call h =>
    cases h
    exact ⟨⟨d, by simp [claiming], rfl⟩, rfl, rfl⟩

theorem record_reported {id : String} {d : Datasource} {c : ConnectionConfig} {l : List Event}
    {outcome : Except Failure Nat} (h : Refreshing d c l (.inr outcome))
    (freed : List Event) (hfreed : freed = [] ∨ freed = [⟨.release d.id, ()⟩]) :
    lastStatuses (claiming id d true ++ ⟨.setStatus d.id .inspecting, .ok ()⟩ ::
        (l ++ ⟨.setStatus d.id (finalStatus outcome), .ok ()⟩ :: freed)) =
      [verdict (claiming id d true ++ ⟨.setStatus d.id .inspecting, .ok ()⟩ ::
        (l ++ ⟨.setStatus d.id (finalStatus outcome), .ok ()⟩ :: freed))] := by
  rcases hfreed with rfl | rfl <;> cases h <;> rfl

theorem Course.of_release {s : DeskSettings} {id i : String} {l : List Event}
    (h : Course s id l (.inl (.release i))) (written : ∀ e ∈ l, e.isUnwritten = false) :
    (∃ d, ⟨.load id, .ok (some d)⟩ ∈ l ∧ i = d.id) ∧ holds l = true ∧
      lastStatuses l = [verdict l] := by
  cases h with
  | denied d e => cases written ⟨.setStatus d.id .inspecting, .error e⟩ (by simp)
  | refreshing d c l call h => cases h
  | reported d c l outcome h r =>
    cases r with
    | error e => cases written ⟨.setStatus d.id (finalStatus outcome), .error e⟩ (by simp)
    | ok =>
      have hheld : holds (claiming id d true ++ ⟨.setStatus d.id .inspecting, .ok ()⟩ ::
          (l ++ [⟨.setStatus d.id (finalStatus outcome), .ok ()⟩])) = true := by
        rw [(record_accepted id d _).1, List.any_append, h.plain.2.1]
        rfl
      exact ⟨⟨d, by simp [claiming], rfl⟩, hheld, record_reported h [] (.inl rfl)⟩

/-- An inspection writes no second last status, and none but the one it comes to. -/
theorem Course.lastStatuses_eq {s : DeskSettings} {id : String} {l : List Event}
    {x : DeskCall ⊕ Except Failure Nat} (h : Course s id l x)
    (written : ∀ e ∈ l, e.isUnwritten = false) :
    (lastStatuses l = [] ∧ isReleased l = false) ∨ lastStatuses l = [verdict l] := by
  cases h with
  | denied d e => cases written ⟨.setStatus d.id .inspecting, .error e⟩ (by simp)
  | dismissed d e => cases written ⟨.setStatus d.id .inspecting, .error e⟩ (by simp)
  | refreshing d c l call h =>
    obtain ⟨_, hrelease, hstatus⟩ := h.plain
    obtain ⟨_, hreleased, hlast, _⟩ := record_accepted id d l
    refine .inl ⟨?_, by rw [hreleased, hrelease]⟩
    rw [hlast, lastStatuses, hstatus]
    rfl
  | reporting d c l outcome h =>
    obtain ⟨_, hrelease, hstatus⟩ := h.plain
    obtain ⟨_, hreleased, hlast, _⟩ := record_accepted id d l
    refine .inl ⟨?_, by rw [hreleased, hrelease]⟩
    rw [hlast, lastStatuses, hstatus]
    rfl
  | reported d c l outcome h r =>
    cases r with
    | error e => cases written ⟨.setStatus d.id (finalStatus outcome), .error e⟩ (by simp)
    | ok => exact .inr (record_reported h [] (.inl rfl))
  | ended d c l outcome h r =>
    cases r with
    | error e => cases written ⟨.setStatus d.id (finalStatus outcome), .error e⟩ (by simp)
    | ok => exact .inr (record_reported h [⟨.release d.id, ()⟩] (.inr rfl))
  | _ => exact .inl ⟨rfl, rfl⟩

/-- A visit that is over and has claimed its datasource has freed it. -/
theorem Course.of_result {s : DeskSettings} {id : String} {l : List Event}
    {outcome : Except Failure Nat} (h : Course s id l (.inr outcome))
    (claimed : l.any Event.isClaim = true) : isReleased l = true := by
  cases h with
  | lost r e h => cases claimed
  | refused d => cases claimed
  | dismissed d e => rfl
  | ended d c l outcome h r => simp [isReleased, Event.isRelease]

theorem Refreshing.length_le {d : Datasource} {c : ConnectionConfig} {l : List Event}
    {x : DeskCall ⊕ Except Failure Nat} (h : Refreshing d c l x) : l.length ≤ 5 := by
  cases h <;> simp

theorem Course.length_le {s : DeskSettings} {id : String} {l : List Event}
    {x : DeskCall ⊕ Except Failure Nat} (h : Course s id l x) : l.length ≤ 10 := by
  cases h with
  | refreshing d c l call h =>
    have hl := h.length_le
    simp [claiming]
    omega
  | reporting d c l outcome h =>
    have hl := h.length_le
    simp [claiming]
    omega
  | reported d c l outcome h r =>
    have hl := h.length_le
    simp [claiming]
    omega
  | ended d c l outcome h r =>
    have hl := h.length_le
    simp [claiming]
    omega
  | _ => simp [claiming]

end Desk

end QueryDesk
