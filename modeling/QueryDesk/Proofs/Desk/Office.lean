import Mathlib.Logic.Function.Basic
import Mathlib.Logic.Relation
import QueryDesk.Proofs.Desk.Course
import QueryDesk.Scripted.World

/-!
# Inspections side by side

Any number of visits, each a call to `inspect` with the background part it starts, that share a
store and the set of claimed datasources and make their calls in any order. Connecting, reading,
storing and noting the end may fail at any time. What a call changes is stated for each part of the
entry of a datasource, so that no later proof looks at the store.
-/

namespace QueryDesk

/-! ### The entry of a datasource -/

namespace Store

def status? (s : Store) (id : String) : Option InspectionStatus :=
  (s.entry? id).map (·.datasource.status)

def snapshots? (s : Store) (id : String) : Option (List Snapshot) :=
  (s.entry? id).map (·.snapshots)

def lastInspected? (s : Store) (id : String) : Option Instant :=
  (s.entry? id).bind (·.datasource.lastInspected)

theorem id_of_entry? {s : Store} {id : String} {e : StoreEntry} (h : s.entry? id = some e) :
    e.datasource.id = id := by
  have hid := List.find?_some h
  simpa using hid

theorem entry?_update (s : Store) (id k : String) {f : StoreEntry → StoreEntry}
    (hf : ∀ e, e.datasource.id = id → (f e).datasource.id = id) :
    entry? (s.update id f) k = if k = id then (s.entry? k).map f else s.entry? k := by
  have hsame : ∀ e : StoreEntry,
      (if e.datasource.id = id then f e else e).datasource.id = e.datasource.id := by
    intro e
    split
    next he => exact (hf e he).trans he.symm
    next => rfl
  have hpred : ((fun e : StoreEntry => e.datasource.id == k) ∘
      fun e => if e.datasource.id = id then f e else e) = fun e => e.datasource.id == k := by
    funext e
    simp only [Function.comp, hsame e]
  unfold entry? update
  rw [List.find?_map, hpred]
  cases he : s.entries.find? (·.datasource.id == k) with
  | none => simp
  | some e =>
    have hk : e.datasource.id = k := id_of_entry? he
    by_cases h : k = id
    · simp [h, hk]
    · simp [h, hk]

theorem get_of_entry? {s : Store} {id : String} {e : StoreEntry} (h : s.entry? id = some e)
    (created : isReadable e.datasource.createdAt = true)
    (inspected : ∀ t, e.datasource.lastInspected = some t → isReadable t = true) :
    s.get id = .ok (some e.datasource) := by
  rw [get, h]
  cases ht : e.datasource.lastInspected with
  | none => simp [readInstant, created, ht, bind, Except.bind, pure, Except.pure]
  | some t => simp [readInstant, created, ht, inspected t ht, bind, Except.bind, pure, Except.pure]

theorem entry?_of_get {s : Store} {id : String} {d : Datasource} (h : s.get id = .ok (some d)) :
    ∃ e, s.entry? id = some e ∧ e.datasource = d ∧ isReadable d.createdAt = true ∧
      ∀ t, d.lastInspected = some t → isReadable t = true := by
  cases he : s.entry? id with
  | none => simp [get, he] at h
  | some e =>
    rw [get, he] at h
    cases hc : isReadable e.datasource.createdAt with
    | false => simp [readInstant, hc, bind, Except.bind] at h
    | true =>
      cases ht : e.datasource.lastInspected with
      | none =>
        simp only [readInstant, hc, ht, if_true, bind, Except.bind, pure, Except.pure,
          Except.ok.injEq, Option.some.injEq] at h
        exact ⟨e, rfl, h, h ▸ hc, by rw [← h, ht]; simp⟩
      | some t =>
        cases hr : isReadable t with
        | false => simp [readInstant, hc, ht, hr, bind, Except.bind] at h
        | true =>
          simp only [readInstant, hc, ht, hr, if_true, bind, Except.bind, pure, Except.pure,
            Except.ok.injEq, Option.some.injEq] at h
          refine ⟨e, rfl, h, h ▸ hc, ?_⟩
          rw [← h, ht]
          intro t' ht'
          cases ht'
          exact hr

/-- The datasource can be loaded, and its password reads. -/
def Resolves (s : Store) (settings : DeskSettings) (id : String) : Prop :=
  ∃ d p, s.get id = .ok (some d) ∧ Desk.password settings d = .ok p

theorem Resolves.update {s : Store} {settings : DeskSettings} {k : String}
    (h : s.Resolves settings k) (id : String) {f : StoreEntry → StoreEntry}
    (same : ∀ e, (f e).datasource.id = e.datasource.id ∧
      (f e).datasource.password = e.datasource.password ∧
      (f e).datasource.createdAt = e.datasource.createdAt)
    (readable : ∀ e t, (f e).datasource.lastInspected = some t →
      e.datasource.lastInspected = some t ∨ isReadable t = true) :
    (s.update id f).Resolves settings k := by
  obtain ⟨d, p, hget, hp⟩ := h
  obtain ⟨e, he, rfl, hc, ht⟩ := entry?_of_get hget
  have hentry := entry?_update s id k fun e he => (same e).1.trans he
  rw [he, Option.map_some] at hentry
  by_cases hk : k = id
  · rw [if_pos hk] at hentry
    refine ⟨(f e).datasource, p, get_of_entry? hentry ?_ ?_, ?_⟩
    · rw [(same e).2.2, hc]
    · intro t hf
      rcases readable e t hf with h | h
      · exact ht t h
      · exact h
    · rw [Desk.password, (same e).2.1]
      exact hp
  · rw [if_neg hk] at hentry
    exact ⟨e.datasource, p, get_of_entry? hentry hc ht, hp⟩

end Store

namespace Desk

open DeskProgram Record

/-! ### Surroundings -/

/-- What the visits share. -/
structure Registry where
  store : Store
  claims : List String

/-- How a call of an inspection is answered: by the store and the claims, or by a failure that
changes nothing, or, by a connection, in any way. -/
inductive Answers : (c : DeskCall) → Registry → c.Reply → Registry → Prop where
  | load (id : String) (g : Registry) : Answers (.load id) g (g.store.get id) g
  | claim (id : String) (g : Registry) (h : id ∉ g.claims) :
      Answers (.claim id) g true ⟨g.store, id :: g.claims⟩
  | taken (id : String) (g : Registry) (h : id ∈ g.claims) : Answers (.claim id) g false g
  | release (id : String) (g : Registry) :
      Answers (.release id) g () ⟨g.store, g.claims.erase id⟩
  | setStatus (id : String) (x : InspectionStatus) (g : Registry) :
      Answers (.setStatus id x) g (g.store.setStatus id x).1 ⟨(g.store.setStatus id x).2, g.claims⟩
  | replace (id : String) (ss : List Snapshot) (g : Registry) :
      Answers (.replace id ss) g (g.store.replace id ss).1 ⟨(g.store.replace id ss).2, g.claims⟩
  | unreplaced (id : String) (ss : List Snapshot) (e : Failure) (g : Registry) :
      Answers (.replace id ss) g (.error e) g
  | stamp (id : String) (t : Instant) (h : Store.isReadable t = true) (g : Registry) :
      Answers (.stamp id) g (.ok ()) ⟨g.store.markInspected id t, g.claims⟩
  | unstamped (id : String) (e : Failure) (g : Registry) : Answers (.stamp id) g (.error e) g
  | connect (d : Dialect) (c : ConnectionConfig) (r : Except Failure Nat) (g : Registry) :
      Answers (.connect d c) g r g
  | inspect (link : Nat) (r : Except Failure (List Snapshot)) (g : Registry) :
      Answers (.inspect link) g r g
  | close (link : Nat) (r : Except Failure Unit) (g : Registry) : Answers (.close link) g r g

/-- A call to `inspect` for a datasource, with its record and what is left of it. -/
structure Visit where
  id : String
  record : List Event
  rest : DeskTask Nat

/-- Claimed its datasource and did not free it yet. -/
def Visit.holds (v : Visit) : Bool := Record.holds v.record

/-- Visits by number, and what they share. -/
structure Office where
  registry : Registry
  visits : Nat → Option Visit

/-- One visit comes or has gone on, and the registry has changed. -/
def Office.put (o : Office) (g : Registry) (n : Nat) (v : Visit) : Office :=
  ⟨g, Function.update o.visits n (some v)⟩

theorem Office.visits_put_eq_some {o : Office} {g : Registry} {n m : Nat} {v u : Visit} :
    (o.put g n v).visits m = some u ↔ (m = n ∧ u = v) ∨ (m ≠ n ∧ o.visits m = some u) := by
  by_cases hm : m = n
  · simp [put, hm, eq_comm]
  · simp [put, hm]

theorem Office.put_self {o : Office} {n : Nat} {v : Visit} (h : o.visits n = some v) :
    o.put o.registry n v = o := by
  rw [put, ← h, Function.update_eq_self]

/-- The visit of a number comes, or makes its next call. -/
inductive Step (s : DeskSettings) (n : Nat) : Office → Office → Prop where
  | arrive (o : Office) (id : String) (h : o.visits n = none) :
      Step s n o (o.put o.registry n ⟨id, [], visit s id⟩)
  | call (o : Office) (v : Visit) (h : o.visits n = some v) (c : DeskCall)
      (next : c.Reply → DeskTask Nat) (rest : v.rest = .ask c next) (r : c.Reply) (g : Registry)
      (answers : Answers c o.registry r g) :
      Step s n o (o.put g n ⟨v.id, v.record ++ [⟨c, r⟩], next r⟩)

/-- Some visits in turn make steps. -/
def Runs (s : DeskSettings) : Office → Office → Prop :=
  Relation.ReflTransGen fun o o' => ∃ n, Step s n o o'

/-- Nobody has come yet, and no inspection is said to be going on. -/
structure Office.Quiet (o : Office) : Prop where
  visits : ∀ n, o.visits n = none
  claims : o.registry.claims = []
  status : ∀ id, o.registry.store.status? id ≠ some .inspecting

/-! ### What an answer changes -/

/-- The datasource whose entry a call writes to. -/
def target? : DeskCall → Option String
  | .setStatus id _ => some id
  | .replace id _ => some id
  | .stamp id => some id
  | _ => none

theorem entry?_setStatus (s : Store) (id k : String) (x : InspectionStatus) :
    Store.entry? (s.setStatus id x).2 k =
      if k = id then
        (s.entry? k).map fun e => { e with datasource := { e.datasource with status := x } }
      else s.entry? k := by
  rw [Store.setStatus]
  cases he : s.entry? id with
  | none =>
    by_cases hk : k = id
    · rw [if_pos hk, hk, he]
      rfl
    · rw [if_neg hk]
  | some e => exact Store.entry?_update s id k fun _ he => he

theorem entry?_markInspected (s : Store) (id k : String) (t : Instant) :
    Store.entry? (s.markInspected id t) k =
      if k = id then
        (s.entry? k).map fun e =>
          { e with datasource := { e.datasource with lastInspected := some t } }
      else s.entry? k :=
  Store.entry?_update s id k fun _ he => he

/-- Replacing a snapshot takes the new one or leaves the store as it is. -/
theorem replace_cases (s : Store) (id : String) (ss : List Snapshot) :
    ((s.replace id ss).1 = .ok () ∧ ∀ k, Store.entry? (s.replace id ss).2 k =
        if k = id then (s.entry? k).map fun e => { e with snapshots := ss.map Store.stored }
        else s.entry? k) ∨
      ((∃ e, (s.replace id ss).1 = .error e) ∧ (s.replace id ss).2 = s) := by
  rw [Store.replace]
  cases he : s.entry? id with
  | none =>
    by_cases hs : (ss.map Store.stored).isEmpty = true
    · refine .inl ⟨if_pos hs, ?_⟩
      intro k
      by_cases hk : k = id
      · rw [if_pos hk, hk, he]
        rfl
      · rw [if_neg hk]
    · exact .inr ⟨⟨Store.noOwner, if_neg hs⟩, rfl⟩
  | some e =>
    simp only
    split
    next => exact .inr ⟨⟨Store.tableTwice, rfl⟩, rfl⟩
    next => exact .inl ⟨rfl, fun k => Store.entry?_update s id k fun _ he => he⟩

namespace Answers

variable {c : DeskCall} {g g' : Registry} {r : c.Reply}

theorem entry?_eq (h : Answers c g r g') {k : String} (hk : target? c ≠ some k) :
    g'.store.entry? k = g.store.entry? k := by
  cases h with
  | setStatus id x g =>
    have hne : k ≠ id := fun h => hk (by rw [target?, h])
    rw [entry?_setStatus, if_neg hne]
  | replace id ss g =>
    have hne : k ≠ id := fun h => hk (by rw [target?, h])
    rcases replace_cases g.store id ss with ⟨_, hentry⟩ | ⟨_, hsame⟩
    · rw [hentry k, if_neg hne]
    · rw [hsame]
  | stamp id t ht g =>
    have hne : k ≠ id := fun h => hk (by rw [target?, h])
    rw [entry?_markInspected, if_neg hne]
  | _ => rfl

theorem resolves {s : DeskSettings} (h : Answers c g r g') {k : String}
    (hk : g.store.Resolves s k) : g'.store.Resolves s k := by
  cases h with
  | setStatus id x g =>
    simp only [Store.setStatus]
    cases g.store.entry? id with
    | none => exact hk
    | some e => exact hk.update id (fun e => ⟨rfl, rfl, rfl⟩) fun e t ht => .inl ht
  | replace id ss g =>
    simp only [Store.replace]
    cases g.store.entry? id with
    | none => exact hk
    | some e =>
      simp only
      split
      · exact hk
      · exact hk.update id (fun e => ⟨rfl, rfl, rfl⟩) fun e t ht => .inl ht
  | stamp id t ht g =>
    refine hk.update id (fun e => ⟨rfl, rfl, rfl⟩) ?_
    intro e t' ht'
    cases ht'
    exact .inr ht
  | _ => exact hk

theorem claims_cases (h : Answers c g r g') :
    (∃ id, (⟨c, r⟩ : Event) = ⟨.claim id, true⟩ ∧ id ∉ g.claims ∧ g'.claims = id :: g.claims) ∨
      (∃ id, (⟨c, r⟩ : Event) = ⟨.release id, ()⟩ ∧ g'.claims = g.claims.erase id) ∨
      ((⟨c, r⟩ : Event).isClaim = false ∧ (⟨c, r⟩ : Event).isRelease = false ∧
        g'.claims = g.claims) := by
  cases h with
  | claim id g h => exact .inl ⟨id, rfl, h, rfl⟩
  | release id g => exact .inr (.inl ⟨id, rfl, rfl⟩)
  | _ => exact .inr (.inr ⟨rfl, rfl, rfl⟩)

theorem status?_cases (h : Answers c g r g') (k : String) :
    (∃ x, (⟨c, r⟩ : Event) = ⟨.setStatus k x, (g.store.setStatus k x).1⟩ ∧
        g'.store.status? k = (g.store.entry? k).map fun _ => x) ∨
      ((∀ x r', (⟨c, r⟩ : Event) ≠ ⟨.setStatus k x, r'⟩) ∧
        g'.store.status? k = g.store.status? k) := by
  by_cases hk : target? c = some k
  · cases h with
    | setStatus id x g =>
      cases hk
      refine .inl ⟨x, rfl, ?_⟩
      rw [Store.status?, entry?_setStatus, if_pos rfl, Option.map_map]
      rfl
    | replace id ss g =>
      cases hk
      refine .inr ⟨by simp, ?_⟩
      rcases replace_cases g.store k ss with ⟨_, hentry⟩ | ⟨_, hsame⟩
      · rw [Store.status?, hentry k, if_pos rfl, Option.map_map]
        rfl
      · rw [hsame]
    | unreplaced id ss e g => exact .inr ⟨by simp, rfl⟩
    | stamp id t ht g =>
      cases hk
      refine .inr ⟨by simp, ?_⟩
      rw [Store.status?, entry?_markInspected, if_pos rfl, Option.map_map]
      rfl
    | unstamped id e g => exact .inr ⟨by simp, rfl⟩
    | _ => cases hk
  · refine .inr ⟨?_, by rw [Store.status?, Store.status?, h.entry?_eq hk]⟩
    intro x r' he
    cases he
    exact hk rfl

theorem snapshots?_cases (h : Answers c g r g') (k : String) :
    (∃ ss, (⟨c, r⟩ : Event) = ⟨.replace k ss, .ok ()⟩ ∧
        g'.store.snapshots? k = (g.store.entry? k).map fun _ => ss.map Store.stored) ∨
      ((∀ ss, (⟨c, r⟩ : Event) ≠ ⟨.replace k ss, .ok ()⟩) ∧
        g'.store.snapshots? k = g.store.snapshots? k) := by
  by_cases hk : target? c = some k
  · cases h with
    | setStatus id x g =>
      cases hk
      refine .inr ⟨by simp, ?_⟩
      rw [Store.snapshots?, entry?_setStatus, if_pos rfl, Option.map_map]
      rfl
    | replace id ss g =>
      cases hk
      rcases replace_cases g.store k ss with ⟨hok, hentry⟩ | ⟨⟨e, herror⟩, hsame⟩
      · refine .inl ⟨ss, by rw [hok], ?_⟩
        rw [Store.snapshots?, hentry k, if_pos rfl, Option.map_map]
        rfl
      · refine .inr ⟨?_, by rw [hsame]⟩
        intro ss'
        rw [herror]
        simp
    | unreplaced id ss e g =>
      refine .inr ⟨?_, rfl⟩
      intro ss'
      simp
    | stamp id t ht g =>
      cases hk
      refine .inr ⟨by simp, ?_⟩
      rw [Store.snapshots?, entry?_markInspected, if_pos rfl, Option.map_map]
      rfl
    | unstamped id e g => exact .inr ⟨by simp, rfl⟩
    | _ => cases hk
  · refine .inr ⟨?_, by rw [Store.snapshots?, Store.snapshots?, h.entry?_eq hk]⟩
    intro ss he
    cases he
    exact hk rfl

/-- The end of an inspection is noted by one call, and no other touches it. -/
theorem lastInspected?_cases (h : Answers c g r g') (k : String) :
    (∃ t, (⟨c, r⟩ : Event) = ⟨.stamp k, .ok ()⟩ ∧
        g'.store.lastInspected? k = (g.store.entry? k).map fun _ => t) ∨
      ((⟨c, r⟩ : Event) ≠ ⟨.stamp k, .ok ()⟩ ∧
        g'.store.lastInspected? k = g.store.lastInspected? k) := by
  by_cases hk : target? c = some k
  · cases h with
    | setStatus id x g =>
      cases hk
      refine .inr ⟨by simp, ?_⟩
      rw [Store.lastInspected?, entry?_setStatus, if_pos rfl, Option.bind_map]
      rfl
    | replace id ss g =>
      cases hk
      refine .inr ⟨by simp, ?_⟩
      rcases replace_cases g.store k ss with ⟨_, hentry⟩ | ⟨_, hsame⟩
      · rw [Store.lastInspected?, hentry k, if_pos rfl, Option.bind_map]
        rfl
      · rw [hsame]
    | unreplaced id ss e g => exact .inr ⟨by simp, rfl⟩
    | stamp id t ht g =>
      cases hk
      refine .inl ⟨t, rfl, ?_⟩
      rw [Store.lastInspected?, entry?_markInspected, if_pos rfl, Option.bind_map]
      cases g.store.entry? k <;> rfl
    | unstamped id e g => exact .inr ⟨by simp, rfl⟩
    | _ => cases hk
  · refine .inr ⟨?_, by rw [Store.lastInspected?, Store.lastInspected?, h.entry?_eq hk]⟩
    intro he
    cases he
    exact hk rfl

theorem lastInspected?_isSome (h : Answers c g r g') {k : String}
    (hk : (g.store.lastInspected? k).isSome = true ∨
      ((⟨c, r⟩ : Event) = ⟨.stamp k, .ok ()⟩ ∧ (g.store.entry? k).isSome = true)) :
    (g'.store.lastInspected? k).isSome = true := by
  rcases h.lastInspected?_cases k with ⟨t, -, hnoted⟩ | ⟨hne, hsame⟩
  · rw [hnoted, Option.isSome_map]
    rcases hk with hk | ⟨-, hk⟩
    · exact Option.isSome_of_isSome_bind hk
    · exact hk
  · rw [hsame]
    exact hk.resolve_right fun he => hne he.1

end Answers

end Desk

namespace Scripted.World

open Desk

/-! ### The scripted world -/

def registry (w : World) : Registry := ⟨w.store, w.claims⟩

theorem registry_timed {α : Type} (w : World) (b : Behaviour) (a : α) :
    (w.timed b a).2.registry = w.registry := by
  unfold timed
  split
  · rfl
  · split <;> rfl

theorem registry_noteOnce (w : World) (again : Bool) (e : LogEntry) :
    (w.noteOnce again e).registry = w.registry := by
  cases again <;> rfl

theorem registry_answerConnect (again : Bool) (w : World) (d : Dialect) (c : ConnectionConfig) :
    (w.answerConnect again d c).2.registry = w.registry := by
  have hnoted : (if again then w
      else { w with attempts := w.attempts + 1 }.note (.connect (w.attempts + 1) d c)).registry =
      w.registry := by
    cases again <;> rfl
  simp only [answerConnect]
  generalize (if again then w
    else { w with attempts := w.attempts + 1 }.note (.connect (w.attempts + 1) d c)) = noted
    at hnoted ⊢
  have htimed := registry_timed noted noted.connect noted.attempts
  split
  next h =>
    rw [h] at htimed
    exact htimed.trans hnoted
  next => exact htimed.trans hnoted

theorem registry_answerClose (again : Bool) (w : World) (link : Nat) :
    (w.answerClose again link).2.registry = w.registry := by
  have hnoted := registry_noteOnce w again (.close link)
  have htimed := registry_timed (w.noteOnce again (.close link))
    (w.noteOnce again (.close link)).close ()
  simp only [answerClose]
  split
  next h =>
    rw [h] at htimed
    exact htimed.trans hnoted
  next => exact htimed.trans hnoted

theorem registry_answerInspect (again : Bool) (w : World) (link : Nat) :
    (w.answerInspect again link).2.registry = w.registry := by
  unfold answerInspect
  cases again with
  | true =>
    simp only [if_true]
    split
    · rfl
    · exact registry_timed _ _ _
  | false =>
    simp only [Bool.false_eq_true, if_false]
    split
    · exact registry_timed _ _ _
    · split
      · exact registry_timed _ _ _
      · rfl

/-- A scripted world answers the calls of an inspection as the visits expect. -/
theorem answers_of_answer {s : DeskSettings} {id : String} {l : List Event} {c : DeskCall}
    (course : Course s id l (.inl c)) {again : Bool} {w w' : World} {r : c.Reply}
    (now : Store.isReadable w.now = true) (h : w.answer again c = (some r, w')) :
    Answers c w.registry r w'.registry := by
  cases c with
  | load id =>
    cases h
    exact .load id _
  | claim id =>
    simp only [answer] at h
    split at h
    next hmem =>
      cases h
      have hin : id ∈ w.claims := by simpa using hmem
      exact .taken id w.registry hin
    next hmem =>
      cases h
      have hout : id ∉ w.claims := by simpa using hmem
      exact .claim id w.registry hout
  | release id =>
    cases h
    exact .release id _
  | setStatus id x =>
    cases h
    exact .setStatus id x _
  | replace id ss =>
    cases h
    exact .replace id ss _
  | stamp id =>
    cases h
    exact .stamp id w.now now _
  | connect d c =>
    have hg := registry_answerConnect again w d c
    rw [show w.answerConnect again d c = _ from h] at hg
    rw [hg]
    exact .connect d c r _
  | inspect link =>
    have hg := registry_answerInspect again w link
    rw [show w.answerInspect again link = _ from h] at hg
    rw [hg]
    exact .inspect link r _
  | close link =>
    have hg := registry_answerClose again w link
    rw [show w.answerClose again link = _ from h] at hg
    rw [hg]
    exact .close link r _
  | _ =>
    cases course with
    | refreshing d c l call h => cases h
end Scripted.World

end QueryDesk
