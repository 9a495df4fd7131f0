import QueryDesk.Proofs.Desk.Office

/-!
# Inspections take turns

In every state that some visits reach in any order, a datasource has at most one inspection between
its acceptance and its release, and the status and the snapshot of the datasource are those this
inspection has come to. What every step preserves is `Orderly`: each visit is as far as its record
says and the store agrees with the record of a visit that holds its datasource, and the claims are
the datasources held.
-/

namespace QueryDesk.Desk

open DeskProgram Record

/-! ### Records that grow -/

theorem holds_snoc {l : List Event} {e : Event} (h : holds (l ++ [e]) = true) :
    holds l = true ∨ e.isClaim = true := by
  simp only [holds, List.any_append, List.any_cons, List.any_nil, Bool.or_false, Bool.and_eq_true,
    Bool.or_eq_true, Bool.not_eq_true', Bool.or_eq_false_iff] at h ⊢
  obtain ⟨hclaim, hrelease, _⟩ := h
  rcases hclaim with hclaim | hclaim
  · exact .inl ⟨hclaim, hrelease⟩
  · exact .inr hclaim

theorem holds_snoc_of {l : List Event} {e : Event} (claim : e.isClaim = false)
    (release : e.isRelease = false) : holds (l ++ [e]) = holds l := by
  simp [holds, claim, release]

theorem claimed_of_holds {l : List Event} (h : holds l = true) : l.any Event.isClaim = true := by
  rw [holds, Bool.and_eq_true] at h
  exact h.1

theorem mem_lastStatuses_snoc {l : List Event} {e : Event} {x : InspectionStatus}
    (h : x ∈ lastStatuses (l ++ [e])) : x ∈ lastStatuses l ∨ e.status? = some x := by
  simp only [lastStatuses, List.filterMap_append, List.filter_append, List.mem_append] at h
  rcases h with h | h
  · exact .inl h
  · have hx := (List.mem_filter.mp h).1
    simp only [List.filterMap_cons, List.filterMap_nil] at hx
    cases he : e.status? with
    | none => simp [he] at hx
    | some y =>
      simp [he] at hx
      exact .inr (by rw [hx])

theorem eq_of_status? {c : DeskCall} {r : c.Reply} {x : InspectionStatus}
    (h : (⟨c, r⟩ : Event).status? = some x) :
    ∃ id, (⟨c, r⟩ : Event) = ⟨.setStatus id x, .ok ()⟩ := by
  cases c with
  | setStatus id y =>
    cases r with
    | error e => cases h
    | ok u =>
      cases h
      exact ⟨id, rfl⟩
  | _ => cases h

theorem eq_of_isStamp {c : DeskCall} {r : c.Reply} (h : (⟨c, r⟩ : Event).isStamp = true) :
    ∃ id, (⟨c, r⟩ : Event) = ⟨.stamp id, .ok ()⟩ := by
  cases c with
  | stamp id =>
    cases r with
    | error e => cases h
    | ok u => exact ⟨id, rfl⟩
  | _ => cases h

theorem eq_of_isClaim {c : DeskCall} {r : c.Reply} (h : (⟨c, r⟩ : Event).isClaim = true) :
    ∃ id, (⟨c, r⟩ : Event) = ⟨.claim id, true⟩ := by
  cases c with
  | claim id =>
    have hr : r = true := h
    exact ⟨id, by rw [hr]⟩
  | _ => cases h

/-! ### One visit -/

/-- The visit has come as far as its record says, and the store agrees with the record. -/
structure Visit.Sound (s : DeskSettings) (g : Registry) (v : Visit) : Prop where
  trace : Trace (visit s v.id) v.record v.rest
  written : ∀ e ∈ v.record, e.isUnwritten = false
  loaded : ∀ d, ⟨.load v.id, .ok (some d)⟩ ∈ v.record →
    d.id = v.id ∧ ∀ p, password s d = .ok p → g.store.Resolves s v.id
  claimed : v.record.any Event.isClaim = true → g.store.Resolves s v.id
  status : v.holds = true → ∀ x ∈ lastStatuses v.record, g.store.status? v.id = some x
  snapshots : v.holds = true → ∀ ss, ⟨.replace v.id ss, .ok ()⟩ ∈ v.record →
    g.store.snapshots? v.id = some (ss.map Store.stored)
  inspected : v.holds = true → isStamped v.record = true →
    (g.store.lastInspected? v.id).isSome = true

namespace Visit.Sound

variable {s : DeskSettings} {g g' : Registry} {v : Visit} {c : DeskCall}
  {next : c.Reply → DeskTask Nat} {r : c.Reply}

theorem course (h : v.Sound s g) : Course s v.id v.record v.rest.front := course_of_trace h.trace

theorem course_ask (h : v.Sound s g) (rest : v.rest = .ask c next) :
    Course s v.id v.record (.inl c) := by
  have hcourse := h.course
  rwa [rest] at hcourse

theorem entry (h : v.Sound s g) (holds : v.holds = true) : ∃ e, g.store.entry? v.id = some e := by
  obtain ⟨d, p, hget, _⟩ := h.claimed (claimed_of_holds holds)
  obtain ⟨e, he, _⟩ := Store.entry?_of_get hget
  exact ⟨e, he⟩

/-- A visit writes to the entry of its own datasource only, and only while it holds it. -/
theorem target (h : v.Sound s g) (rest : v.rest = .ask c next) {k : String}
    (hk : target? c = some k) : k = v.id ∧ v.holds = true := by
  have hcourse := h.course_ask rest
  cases c with
  | setStatus id x =>
    cases hk
    obtain ⟨⟨d, hd, rfl⟩, hholds, _⟩ := hcourse.of_setStatus
    exact ⟨(h.loaded d hd).1, hholds⟩
  | replace id ss =>
    cases hk
    obtain ⟨⟨d, hd, rfl⟩, hholds, _⟩ := hcourse.of_replace
    exact ⟨(h.loaded d hd).1, hholds⟩
  | stamp id =>
    cases hk
    obtain ⟨⟨d, hd, rfl⟩, hholds, _⟩ := hcourse.of_stamp
    exact ⟨(h.loaded d hd).1, hholds⟩
  | _ => cases hk

/-- Other visits are not affected, since nobody writes to the entry of a datasource they hold. -/
theorem frame (h : v.Sound s g) (answers : Answers c g r g')
    (apart : v.holds = true → target? c ≠ some v.id) : v.Sound s g' where
  trace := h.trace
  written := h.written
  loaded d hd := ⟨(h.loaded d hd).1, fun p hp => answers.resolves ((h.loaded d hd).2 p hp)⟩
  claimed hc := answers.resolves (h.claimed hc)
  status hholds x hx := by
    rw [Store.status?, answers.entry?_eq (apart hholds)]
    exact h.status hholds x hx
  snapshots hholds ss hss := by
    rw [Store.snapshots?, answers.entry?_eq (apart hholds)]
    exact h.snapshots hholds ss hss
  inspected hholds hstamped := by
    rw [Store.lastInspected?, answers.entry?_eq (apart hholds)]
    exact h.inspected hholds hstamped

/-- A visit that claims its datasource has only loaded it so far. -/
theorem record_of_claim (h : v.Sound s g) (rest : v.rest = .ask c next)
    (hc : (⟨c, r⟩ : Event).isClaim = true) :
    ∃ d p, password s d = .ok p ∧ v.record = [⟨.load v.id, .ok (some d)⟩] ∧
      (⟨c, r⟩ : Event) = ⟨.claim v.id, true⟩ := by
  obtain ⟨id, he⟩ := eq_of_isClaim hc
  cases he
  obtain ⟨d, p, hp, rfl, hrecord⟩ := (h.course_ask rest).of_claim
  have hid : d.id = v.id := (h.loaded d (by simp [hrecord])).1
  exact ⟨d, p, hp, hrecord, by rw [hid]⟩

theorem written_of_ask (h : v.Sound s g) (rest : v.rest = .ask c next)
    (answers : Answers c g r g') : (⟨c, r⟩ : Event).isUnwritten = false := by
  cases answers with
  | setStatus id x g =>
    obtain ⟨hid, hholds⟩ := h.target (k := id) rest rfl
    obtain ⟨e, he⟩ := h.entry hholds
    rw [hid, Store.setStatus, he]
    rfl
  | _ => rfl

/-- Who holds the datasource behind a call has held it before, or has only loaded it so far. -/
theorem held_before (h : v.Sound s g) (rest : v.rest = .ask c next)
    (hholds : Record.holds (v.record ++ [⟨c, r⟩]) = true) :
    v.holds = true ∨ ∃ d, v.record = [⟨.load v.id, .ok (some d)⟩] := by
  refine (holds_snoc hholds).imp_right fun hclaim => ?_
  obtain ⟨d, -, -, hrecord, -⟩ := h.record_of_claim rest hclaim
  exact ⟨d, hrecord⟩

theorem loaded_call (h : v.Sound s g) (answers : Answers c g r g') {d : Datasource}
    (hd : ⟨.load v.id, .ok (some d)⟩ ∈ v.record ++ [⟨c, r⟩]) :
    d.id = v.id ∧ ∀ p, password s d = .ok p → g'.store.Resolves s v.id := by
  rcases List.mem_append.mp hd with hd | hd
  · exact ⟨(h.loaded d hd).1, fun p hp => answers.resolves ((h.loaded d hd).2 p hp)⟩
  · have he := List.mem_singleton.mp hd
    cases answers with
    | load id g =>
      simp only [Event.mk.injEq, DeskCall.load.injEq] at he
      obtain ⟨rfl, hget⟩ := he
      have hget : g.store.get v.id = .ok (some d) := (eq_of_heq hget).symm
      obtain ⟨e, he, hd, _⟩ := Store.entry?_of_get hget
      refine ⟨?_, fun p hp => ⟨d, p, hget, hp⟩⟩
      rw [← hd]
      exact Store.id_of_entry? he
    | _ => cases he

theorem status_call (h : v.Sound s g) (rest : v.rest = .ask c next) (answers : Answers c g r g')
    (hholds : Record.holds (v.record ++ [⟨c, r⟩]) = true) {x : InspectionStatus}
    (hx : x ∈ lastStatuses (v.record ++ [⟨c, r⟩])) : g'.store.status? v.id = some x := by
  rcases answers.status?_cases v.id with ⟨y, he, hy⟩ | ⟨hother, hsame⟩
  · -- the call writes a status: it is the only last one of the record
    cases he
    obtain ⟨_, hheld, hnone, _⟩ := (h.course_ask rest).of_setStatus
    obtain ⟨e, hentry⟩ := h.entry hheld
    rcases mem_lastStatuses_snoc hx with hx | hx
    · rw [hnone] at hx
      cases hx
    · rw [Store.setStatus, hentry] at hx
      cases hx
      rw [hy, hentry]
      rfl
  · rw [hsame]
    rcases mem_lastStatuses_snoc hx with hx | hx
    · rcases h.held_before rest hholds with hheld | ⟨d, hrecord⟩
      · exact h.status hheld x hx
      · rw [hrecord] at hx
        cases hx
    · obtain ⟨id, he⟩ := eq_of_status? hx
      cases he
      have hid := (h.target (k := id) rest rfl).1
      exact absurd (by rw [hid]) (hother x (.ok ()))

theorem snapshots_call (h : v.Sound s g) (rest : v.rest = .ask c next)
    (answers : Answers c g r g') (hholds : Record.holds (v.record ++ [⟨c, r⟩]) = true)
    {ss : List Snapshot} (hss : ⟨.replace v.id ss, .ok ()⟩ ∈ v.record ++ [⟨c, r⟩]) :
    g'.store.snapshots? v.id = some (ss.map Store.stored) := by
  rcases answers.snapshots?_cases v.id with ⟨ss', he, hnew⟩ | ⟨hother, hsame⟩
  · -- the call replaces the snapshot: it is the first one that does
    cases he
    obtain ⟨_, hheld, _, hnone⟩ := (h.course_ask rest).of_replace
    obtain ⟨e, hentry⟩ := h.entry hheld
    rcases List.mem_append.mp hss with hss | hss
    · have hany : isReplaced v.record = true := List.any_eq_true.mpr ⟨_, hss, rfl⟩
      rw [hnone] at hany
      cases hany
    · cases List.mem_singleton.mp hss
      rw [hnew, hentry]
      rfl
  · rw [hsame]
    rcases List.mem_append.mp hss with hss | hss
    · rcases h.held_before rest hholds with hheld | ⟨d, hrecord⟩
      · exact h.snapshots hheld ss hss
      · rw [hrecord] at hss
        cases List.mem_singleton.mp hss
    · exact absurd (List.mem_singleton.mp hss).symm (hother ss)

theorem inspected_call (h : v.Sound s g) (rest : v.rest = .ask c next)
    (answers : Answers c g r g') (hholds : Record.holds (v.record ++ [⟨c, r⟩]) = true)
    (hstamped : isStamped (v.record ++ [⟨c, r⟩]) = true) :
    (g'.store.lastInspected? v.id).isSome = true := by
  apply answers.lastInspected?_isSome
  rw [isStamped, List.any_append, Bool.or_eq_true] at hstamped
  rcases hstamped with hstamped | hstamped
  · rcases h.held_before rest hholds with hheld | ⟨d, hrecord⟩
    · exact .inl (h.inspected hheld hstamped)
    · rw [hrecord] at hstamped
      cases hstamped
  · have hlast : (⟨c, r⟩ : Event).isStamp = true := by simpa using hstamped
    obtain ⟨id, he⟩ := eq_of_isStamp hlast
    have hcall : target? c = some id := by
      cases he
      rfl
    obtain ⟨hid, hheld⟩ := h.target rest hcall
    obtain ⟨e, hentry⟩ := h.entry hheld
    exact .inr ⟨by rw [he, hid], by rw [hentry]; rfl⟩

theorem call (h : v.Sound s g) (rest : v.rest = .ask c next) (answers : Answers c g r g') :
    Visit.Sound s g' ⟨v.id, v.record ++ [⟨c, r⟩], next r⟩ where
  trace := by
    have htrace := h.trace
    rw [rest] at htrace
    exact htrace.snoc r
  written e he := by
    rcases List.mem_append.mp he with he | he
    · exact h.written e he
    · rw [List.mem_singleton.mp he]
      exact h.written_of_ask rest answers
  loaded d hd := h.loaded_call answers hd
  claimed hc := by
    by_cases hnew : (⟨c, r⟩ : Event).isClaim = true
    · obtain ⟨d, p, hp, hrecord, _⟩ := h.record_of_claim rest hnew
      exact answers.resolves ((h.loaded d (by simp [hrecord])).2 p hp)
    · refine answers.resolves (h.claimed ?_)
      simpa [hnew] using hc
  status hholds x hx := h.status_call rest answers hholds hx
  snapshots hholds ss hss := h.snapshots_call rest answers hholds hss
  inspected hholds hstamped := h.inspected_call rest answers hholds hstamped

end Visit.Sound

/-! ### All visits -/

/-- Each visit is sound, a datasource has one holder at most, the claims are the datasources held,
and none but these is said to be inspected. -/
structure Orderly (s : DeskSettings) (o : Office) : Prop where
  sound : ∀ n v, o.visits n = some v → v.Sound s o.registry
  one : ∀ n m v u, o.visits n = some v → o.visits m = some u → v.holds = true → u.holds = true →
    v.id = u.id → n = m
  claims : ∀ id, id ∈ o.registry.claims ↔
    ∃ n v, o.visits n = some v ∧ v.holds = true ∧ v.id = id
  nodup : o.registry.claims.Nodup
  inspecting : ∀ id, o.registry.store.status? id = some .inspecting → id ∈ o.registry.claims

theorem verdict_ne_inspecting (l : List Event) : verdict l ≠ .inspecting := by
  unfold verdict
  split <;> decide

namespace Orderly

variable {s : DeskSettings} {o : Office} {n : Nat}

theorem of_quiet (quiet : o.Quiet) : Orderly s o where
  sound n v hv := by
    rw [quiet.visits n] at hv
    cases hv
  one n m v u hv := by
    rw [quiet.visits n] at hv
    cases hv
  claims id := by
    rw [quiet.claims]
    simp [quiet.visits]
  nodup := by
    rw [quiet.claims]
    exact List.nodup_nil
  inspecting id hid := absurd hid (quiet.status id)

theorem sound_visit (s : DeskSettings) (g : Registry) (id : String) :
    Visit.Sound s g ⟨id, [], visit s id⟩ where
  trace := .stay _
  written e he := by cases he
  loaded d hd := by cases hd
  claimed hc := by cases hc
  status hholds := by cases hholds
  snapshots hholds := by cases hholds
  inspected hholds := by cases hholds

/-- Who holds a datasource once one visit has come or gone on: this one, or one of the others. -/
theorem held_put {g : Registry} {v : Visit} {k : String} :
    (∃ m u, (o.put g n v).visits m = some u ∧ u.holds = true ∧ u.id = k) ↔
      (v.holds = true ∧ v.id = k) ∨
        ∃ m u, m ≠ n ∧ o.visits m = some u ∧ u.holds = true ∧ u.id = k := by
  constructor
  · rintro ⟨m, u, hu, huh, hid⟩
    rcases Office.visits_put_eq_some.mp hu with ⟨-, rfl⟩ | ⟨hm, hu⟩
    · exact .inl ⟨huh, hid⟩
    · exact .inr ⟨m, u, hm, hu, huh, hid⟩
  · rintro (⟨hvh, hid⟩ | ⟨m, u, hm, hu, huh, hid⟩)
    · exact ⟨n, v, Office.visits_put_eq_some.mpr (.inl ⟨rfl, rfl⟩), hvh, hid⟩
    · exact ⟨m, u, Office.visits_put_eq_some.mpr (.inr ⟨hm, hu⟩), huh, hid⟩

theorem arrive (h : Orderly s o) (id : String) (free : o.visits n = none) :
    Orderly s (o.put o.registry n ⟨id, [], visit s id⟩) where
  sound m v hv := by
    rcases Office.visits_put_eq_some.mp hv with ⟨-, rfl⟩ | ⟨_, hv⟩
    · exact sound_visit s o.registry id
    · exact h.sound m v hv
  one m k v u hv hu hvh huh hid := by
    rcases Office.visits_put_eq_some.mp hv with ⟨-, rfl⟩ | ⟨_, hv⟩
    · cases hvh
    rcases Office.visits_put_eq_some.mp hu with ⟨-, rfl⟩ | ⟨_, hu⟩
    · cases huh
    exact h.one m k v u hv hu hvh huh hid
  claims k := by
    rw [Office.put, h.claims k]
    constructor
    · rintro ⟨m, v, hv, hvh, hid⟩
      have hm : m ≠ n := by
        rintro rfl
        rw [free] at hv
        cases hv
      exact ⟨m, v, Office.visits_put_eq_some.mpr (.inr ⟨hm, hv⟩), hvh, hid⟩
    · rintro ⟨m, v, hv, hvh, hid⟩
      rcases Office.visits_put_eq_some.mp hv with ⟨-, rfl⟩ | ⟨_, hv⟩
      · cases hvh
      · exact ⟨m, v, hv, hvh, hid⟩
  nodup := h.nodup
  inspecting := h.inspecting

variable {v : Visit} {c : DeskCall} {next : c.Reply → DeskTask Nat} {r : c.Reply} {g : Registry}

/-- What the claims are after a call, by what the call does to the visit that makes it. -/
theorem claims_call (h : Orderly s o) (hv : o.visits n = some v) (rest : v.rest = .ask c next)
    (answers : Answers c o.registry r g) :
    (v.holds = false ∧ holds (v.record ++ [⟨c, r⟩]) = true ∧ v.id ∉ o.registry.claims ∧
        g.claims = v.id :: o.registry.claims) ∨
      (v.holds = true ∧ holds (v.record ++ [⟨c, r⟩]) = false ∧
        lastStatuses v.record = [verdict v.record] ∧ g.claims = o.registry.claims.erase v.id) ∨
      (holds (v.record ++ [⟨c, r⟩]) = v.holds ∧ g.claims = o.registry.claims) := by
  have hsound := h.sound n v hv
  rcases answers.claims_cases with ⟨id, he, hfree, hg⟩ | ⟨id, he, hg⟩ | ⟨hclaim, hrelease, hg⟩
  · have hclaim : (⟨c, r⟩ : Event).isClaim = true := by rw [he]; rfl
    obtain ⟨d, p, _, hrecord, he'⟩ := hsound.record_of_claim rest hclaim
    have hid : id = v.id := by
      rw [he'] at he
      cases he
      rfl
    rw [hid] at hfree hg
    refine .inl ⟨?_, ?_, hfree, hg⟩
    · rw [Visit.holds, hrecord]
      rfl
    · rw [hrecord, he']
      rfl
  · cases he
    have hcourse := hsound.course_ask rest
    obtain ⟨⟨d, hd, rfl⟩, hholds, hlast⟩ := hcourse.of_release hsound.written
    have hid : d.id = v.id := (hsound.loaded d hd).1
    refine .inr (.inl ⟨hholds, ?_, hlast, by rw [hg, hid]⟩)
    simp [holds, Event.isRelease]
  · exact .inr (.inr ⟨holds_snoc_of hclaim hrelease, hg⟩)

/-- The visit that makes a call is the only one that may come to hold the datasource. -/
theorem one_call (h : Orderly s o) (hv : o.visits n = some v) (rest : v.rest = .ask c next)
    (answers : Answers c o.registry r g) (holds' : holds (v.record ++ [⟨c, r⟩]) = true) {m : Nat}
    {u : Visit} (hu : o.visits m = some u) (hm : m ≠ n) (huh : u.holds = true) : u.id ≠ v.id := by
  intro hid
  rcases h.claims_call hv rest answers with ⟨_, _, hfree, _⟩ | ⟨_, hno, _⟩ | ⟨hsame, _⟩
  · exact hfree ((h.claims v.id).mpr ⟨m, u, hu, huh, hid⟩)
  · rw [hno] at holds'
    cases holds'
  · rw [holds'] at hsame
    exact hm (h.one m n u v hu hv huh hsame.symm hid)

/-- Who holds a datasource is among the claims behind a call, and nobody else is. -/
theorem mem_claims_call (h : Orderly s o) (hv : o.visits n = some v)
    (rest : v.rest = .ask c next) (answers : Answers c o.registry r g) (k : String) :
    k ∈ g.claims ↔ ∃ m u, (o.put g n ⟨v.id, v.record ++ [⟨c, r⟩], next r⟩).visits m = some u ∧
      u.holds = true ∧ u.id = k := by
  have hclaims := h.claims k
  rw [← Office.put_self hv, held_put] at hclaims
  rw [held_put]
  simp only [Office.put] at hclaims
  -- the other visits are as they were, and the one that makes the call frees, claims or neither
  rcases h.claims_call hv rest answers with
    ⟨hno, hyes, hfree, hg⟩ | ⟨hyes, hno, _, hg⟩ | ⟨hsame, hg⟩
  · have hnew : Visit.holds ⟨v.id, v.record ++ [⟨c, r⟩], next r⟩ = true := hyes
    simp only [hg, List.mem_cons, hclaims, hno, hnew, Bool.false_eq_true, false_and, false_or,
      true_and, eq_comm]
  · have hnew : Visit.holds ⟨v.id, v.record ++ [⟨c, r⟩], next r⟩ = false := hno
    simp only [hg, h.nodup.mem_erase_iff, hclaims, hnew, hyes, Bool.false_eq_true, false_and,
      false_or, true_and]
    constructor
    · rintro ⟨hk, rfl | hother⟩
      · exact absurd rfl hk
      · exact hother
    · intro hother
      refine ⟨?_, .inr hother⟩
      rintro rfl
      obtain ⟨m, u, hm, hu, huh, hid⟩ := hother
      exact hm (h.one m n u v hu hv huh hyes hid)
  · have hnew : Visit.holds ⟨v.id, v.record ++ [⟨c, r⟩], next r⟩ = v.holds := hsame
    simp only [hg, hclaims, hnew]

theorem nodup_claims_call (h : Orderly s o) (hv : o.visits n = some v)
    (rest : v.rest = .ask c next) (answers : Answers c o.registry r g) : g.claims.Nodup := by
  rcases h.claims_call hv rest answers with ⟨_, _, hfree, hg⟩ | ⟨_, _, _, hg⟩ | ⟨_, hg⟩
  · rw [hg]
    exact List.nodup_cons.mpr ⟨hfree, h.nodup⟩
  · rw [hg]
    exact h.nodup.erase v.id
  · rw [hg]
    exact h.nodup

theorem inspecting_call (h : Orderly s o) (hv : o.visits n = some v)
    (rest : v.rest = .ask c next) (answers : Answers c o.registry r g) {k : String}
    (hk : g.store.status? k = some .inspecting) : k ∈ g.claims := by
  have hsound := h.sound n v hv
  rcases answers.status?_cases k with ⟨x, he, _⟩ | ⟨_, hsame⟩
  · cases he
    obtain ⟨hid, hvh⟩ := hsound.target (k := k) rest rfl
    have hmem : k ∈ o.registry.claims := (h.claims k).mpr ⟨n, v, hv, hvh, hid.symm⟩
    cases answers
    exact hmem
  · rw [hsame] at hk
    have hmem := h.inspecting k hk
    rcases h.claims_call hv rest answers with ⟨_, _, _, hg⟩ | ⟨hvh, _, hlast, hg⟩ | ⟨_, hg⟩
    · rw [hg]
      exact List.mem_cons_of_mem v.id hmem
    · rw [hg]
      -- the visit that frees its datasource has written how its inspection ended
      have hstatus := hsound.status hvh (verdict v.record) (by rw [hlast]; simp)
      have hne : k ≠ v.id := by
        rintro rfl
        rw [hstatus, Option.some.injEq] at hk
        exact verdict_ne_inspecting v.record hk
      exact (List.mem_erase_of_ne hne).mpr hmem
    · rw [hg]
      exact hmem

theorem call (h : Orderly s o) (hv : o.visits n = some v) (rest : v.rest = .ask c next)
    (answers : Answers c o.registry r g) :
    Orderly s (o.put g n ⟨v.id, v.record ++ [⟨c, r⟩], next r⟩) where
  sound m u hu := by
    rcases Office.visits_put_eq_some.mp hu with ⟨-, rfl⟩ | ⟨hm, hu⟩
    · exact (h.sound n v hv).call rest answers
    · refine (h.sound m u hu).frame answers ?_
      intro huh htarget
      obtain ⟨hid, hvh⟩ := (h.sound n v hv).target rest htarget
      exact hm (h.one m n u v hu hv huh hvh hid)
  one m k u w hu hw huh hwh hid := by
    rcases Office.visits_put_eq_some.mp hu with ⟨rfl, rfl⟩ | ⟨hm, hu'⟩
    · rcases Office.visits_put_eq_some.mp hw with ⟨rfl, rfl⟩ | ⟨hk, hw'⟩
      · rfl
      · exact absurd hid.symm (h.one_call hv rest answers huh hw' hk hwh)
    · rcases Office.visits_put_eq_some.mp hw with ⟨rfl, rfl⟩ | ⟨hk, hw'⟩
      · exact absurd hid (h.one_call hv rest answers hwh hu' hm huh)
      · exact h.one m k u w hu' hw' huh hwh hid
  claims k := h.mem_claims_call hv rest answers k
  nodup := h.nodup_claims_call hv rest answers
  inspecting k hk := h.inspecting_call hv rest answers hk

theorem step {o' : Office} (h : Orderly s o) (step : Step s n o o') : Orderly s o' := by
  cases step with
  | arrive id free => exact h.arrive id free
  | call v hv c next rest r g answers => exact h.call hv rest answers

theorem runs {o' : Office} (h : Orderly s o) (runs : Runs s o o') : Orderly s o' := by
  induction runs with
  | refl => exact h
  | tail _ hstep ih =>
    obtain ⟨n, hn⟩ := hstep
    exact ih.step hn

end Orderly

/-! ### What the visits can rely on -/

/-- No two visits hold one datasource. -/
def Exclusive (o : Office) : Prop :=
  ∀ n m v u, o.visits n = some v → o.visits m = some u → v.holds = true → u.holds = true →
    v.id = u.id → n = m

/-- A datasource that is said to be inspected is held by a visit. -/
def Backed (o : Office) : Prop :=
  ∀ id, o.registry.store.status? id = some .inspecting →
    ∃ n v, o.visits n = some v ∧ v.holds = true ∧ v.id = id

/-- Who asks for a datasource that is held is told so, and changes nothing on the way. -/
def Refusing (s : DeskSettings) (o : Office) : Prop :=
  ∀ n v, o.visits n = some v → v.holds = true → ∀ m o', Step s m o o' →
    ∀ u u', o.visits m = some u → o'.visits m = some u' →
      (u.rest.front = .inl (.load v.id) →
        o'.registry = o.registry ∧ u'.rest.front = .inl (.claim v.id)) ∧
      (u.rest.front = .inl (.claim v.id) →
        o'.registry = o.registry ∧ u'.rest = .done (.error alreadyRunning))

/-- Who asks for a datasource that nobody holds gets it. The datasource is still there if a visit
has held it before. -/
def Accepting (s : DeskSettings) (o : Office) : Prop :=
  ∀ id, (∀ n v, o.visits n = some v → v.id = id → v.holds = false) → ∀ m o', Step s m o o' →
    ∀ u u', o.visits m = some u → o'.visits m = some u' →
      (u.rest.front = .inl (.load id) →
        (∃ n v, o.visits n = some v ∧ v.id = id ∧ isReleased v.record = true ∧
          v.record.any Event.isClaim = true) →
        u'.rest.front = .inl (.claim id)) ∧
      (u.rest.front = .inl (.claim id) →
        u'.holds = true ∧ u'.rest.front = .inl (.setStatus id .inspecting))

/-- A claimed inspection is noted as going on and starts its background part. -/
def Starting (s : DeskSettings) (o : Office) : Prop :=
  ∀ m o', Step s m o o' → ∀ u u', o.visits m = some u → o'.visits m = some u' →
    u.rest.front = .inl (.setStatus u.id .inspecting) →
      o'.registry.store.status? u.id = some .inspecting ∧
        ∃ d c, u'.rest.front = .inl (.connect d c)

/-- An accepted inspection writes one last status, ready if its snapshot is stored and its end is
noted and failed otherwise. As long as it holds the datasource the store shows what it has done. -/
def Reporting (o : Office) : Prop :=
  ∀ n v, o.visits n = some v → v.record.any Event.isClaim = true →
    (lastStatuses v.record = [] ∧ v.holds = true ∨ lastStatuses v.record = [verdict v.record]) ∧
    (∀ outcome, v.rest = .done outcome →
      isReleased v.record = true ∧ lastStatuses v.record = [verdict v.record]) ∧
    (v.holds = true →
      (∀ x ∈ lastStatuses v.record, o.registry.store.status? v.id = some x) ∧
      (∀ ss, ⟨.replace v.id ss, .ok ()⟩ ∈ v.record →
        o.registry.store.snapshots? v.id = some (ss.map Store.stored)) ∧
      (isStamped v.record = true → (o.registry.store.lastInspected? v.id).isSome = true))

/-- As long as an inspection has not stored its snapshot, the one that was there stays. -/
def Keeping (o o' : Office) : Prop :=
  ∀ n v v', o.visits n = some v → o'.visits n = some v' → v.holds = true → v'.holds = true →
    isReplaced v'.record = false →
      o'.registry.store.snapshots? v.id = o.registry.store.snapshots? v.id

/-- A visit makes at most ten calls, and it can always make the next one. -/
def Ending (s : DeskSettings) (o : Office) : Prop :=
  ∀ n v, o.visits n = some v → v.record.length ≤ 10 ∧
    ((∃ outcome, v.rest = .done outcome) ∨ ∃ o', Step s n o o')

namespace Step

variable {s : DeskSettings} {o o' : Office} {n : Nat} {u u' : Visit} {c : DeskCall}

/-- A visit that has come already makes a step by its next call. -/
theorem of_front (step : Step s n o o') (hu : o.visits n = some u) (hu' : o'.visits n = some u')
    (front : u.rest.front = .inl c) :
    ∃ next r g, u.rest = .ask c next ∧ Answers c o.registry r g ∧ o'.registry = g ∧
      u' = ⟨u.id, u.record ++ [⟨c, r⟩], next r⟩ := by
  cases step with
  | arrive id free =>
    rw [free] at hu
    cases hu
  | call v hv c' next rest r g answers =>
    rw [hv] at hu
    cases hu
    rw [rest] at front
    cases front
    rcases Office.visits_put_eq_some.mp hu' with ⟨-, rfl⟩ | ⟨hne, _⟩
    · exact ⟨next, r, g, rest, answers, rfl, rfl⟩
    · exact absurd rfl hne

theorem visits_grow (step : Step s n o o') {m : Nat} (hu : o.visits m = some u) :
    ∃ u', o'.visits m = some u' ∧ u'.id = u.id ∧ ∃ l, u'.record = u.record ++ l := by
  cases step with
  | arrive id free =>
    have hm : m ≠ n := by
      rintro rfl
      rw [free] at hu
      cases hu
    exact ⟨u, Office.visits_put_eq_some.mpr (.inr ⟨hm, hu⟩), rfl, [], by simp⟩
  | call v hv c next rest r g answers =>
    by_cases hm : m = n
    · rw [hm, hv] at hu
      cases hu
      exact ⟨_, Office.visits_put_eq_some.mpr (.inl ⟨hm, rfl⟩), rfl, _, rfl⟩
    · exact ⟨u, Office.visits_put_eq_some.mpr (.inr ⟨hm, hu⟩), rfl, [], by simp⟩

end Step

theorem Runs.arrive {s : DeskSettings} {o o' : Office} (runs : Runs s o o') {n : Nat}
    (id : String) (free : o'.visits n = none) :
    Runs s o (o'.put o'.registry n ⟨id, [], visit s id⟩) :=
  runs.tail ⟨n, .arrive o' id free⟩

theorem Runs.call {s : DeskSettings} {o o' : Office} (runs : Runs s o o') {n : Nat} {v : Visit}
    {c : DeskCall} {next : c.Reply → DeskTask Nat} {r : c.Reply} {g : Registry}
    (hv : o'.visits n = some v) (rest : v.rest = .ask c next)
    (answers : Answers c o'.registry r g) :
    Runs s o (o'.put g n ⟨v.id, v.record ++ [⟨c, r⟩], next r⟩) :=
  runs.tail ⟨n, .call o' v hv c next rest r g answers⟩

theorem Runs.visits_grow {s : DeskSettings} {o o' : Office} (runs : Runs s o o') {m : Nat}
    {u : Visit} (hu : o.visits m = some u) :
    ∃ u', o'.visits m = some u' ∧ u'.id = u.id ∧ ∃ l, u'.record = u.record ++ l := by
  induction runs with
  | refl => exact ⟨u, hu, rfl, [], by simp⟩
  | tail _ hstep ih =>
    obtain ⟨u₁, hu₁, hid₁, l₁, hl₁⟩ := ih
    obtain ⟨k, hk⟩ := hstep
    obtain ⟨u₂, hu₂, hid₂, l₂, hl₂⟩ := hk.visits_grow hu₁
    exact ⟨u₂, hu₂, hid₂.trans hid₁, l₁ ++ l₂, by rw [hl₂, hl₁, List.append_assoc]⟩

theorem Course.answered {s : DeskSettings} {id : String} {l : List Event} {c : DeskCall}
    (h : Course s id l (.inl c)) (g : Registry) : ∃ r g', Answers c g r g' := by
  cases c with
  | load id => exact ⟨_, _, .load id g⟩
  | claim id =>
    by_cases hid : id ∈ g.claims
    · exact ⟨_, _, .taken id g hid⟩
    · exact ⟨_, _, .claim id g hid⟩
  | release id => exact ⟨_, _, .release id g⟩
  | setStatus id x => exact ⟨_, _, .setStatus id x g⟩
  | replace id ss => exact ⟨_, _, .replace id ss g⟩
  | stamp id => exact ⟨_, _, .unstamped id unknownDatasource g⟩
  | connect d c => exact ⟨_, _, .connect d c (.error unknownDatasource) g⟩
  | inspect link => exact ⟨_, _, .inspect link (.error unknownDatasource) g⟩
  | close link => exact ⟨_, _, .close link (.ok ()) g⟩
  | _ =>
    cases h with
    | refreshing d c l call h => cases h

namespace Orderly

variable {s : DeskSettings} {o o' : Office}

theorem exclusive (h : Orderly s o) : Exclusive o := h.one

theorem backed (h : Orderly s o) : Backed o := by
  intro id hid
  exact (h.claims id).mp (h.inspecting id hid)

/-- A visit that loads a datasource which can be loaded goes on to claim it. -/
theorem claim_of_load (h : Orderly s o) {id : String} (hid : o.registry.store.Resolves s id)
    {m : Nat} (step : Step s m o o') {u u' : Visit} (hu : o.visits m = some u)
    (hu' : o'.visits m = some u') (front : u.rest.front = .inl (.load id)) :
    o'.registry = o.registry ∧ u'.rest.front = .inl (.claim id) := by
  obtain ⟨next, r, g, rest, answers, hg, he⟩ := step.of_front hu hu' front
  have hsound := (h.step step).sound m u' hu'
  have hcourse := hsound.course
  obtain ⟨rfl, hrecord⟩ := ((h.sound m u hu).course_ask rest).of_load
  obtain ⟨d, p, hget, hp⟩ := hid
  cases answers with
  | load id g =>
    have hrecord' : u'.record = [⟨.load u.id, .ok (some d)⟩] := by
      rw [he, hrecord, hget]
      rfl
    have hid' : u'.id = u.id := by rw [he]
    rw [hrecord', hid'] at hcourse
    have hd : d.id = u.id := by
      have hloaded := (hsound.loaded d (by rw [hrecord', hid']; simp)).1
      rw [hloaded, hid']
    refine ⟨hg, ?_⟩
    generalize hx : u'.rest.front = x at hcourse
    cases hcourse with
    | lost r e hlost => exact absurd hp (hlost d p rfl)
    | resolved d p hp => rw [hd]

theorem refusing (h : Orderly s o) : Refusing s o := by
  intro n v hv hvh m o' step u u' hu hu'
  have hclaimed := (h.sound n v hv).claimed (claimed_of_holds hvh)
  refine ⟨h.claim_of_load hclaimed step hu hu', ?_⟩
  intro front
  obtain ⟨next, r, g, rest, answers, hg, he⟩ := step.of_front hu hu' front
  have hmem : v.id ∈ o.registry.claims := (h.claims v.id).mpr ⟨n, v, hv, hvh, rfl⟩
  cases answers with
  | claim id g hfree => exact absurd hmem hfree
  | taken id g _ =>
    refine ⟨hg, ?_⟩
    have hcourse := ((h.step step).sound m u' hu').course
    obtain ⟨d, p, _, hid, hrecord⟩ := ((h.sound m u hu).course_ask rest).of_claim
    have hrecord' : u'.record = claiming u'.id d false := by
      rw [he, hrecord, hid]
      rfl
    rw [hrecord'] at hcourse
    generalize hx : u'.rest.front = x at hcourse
    cases hcourse with
    | refused d =>
      cases hrest : u'.rest with
      | done a =>
        rw [hrest] at hx
        cases hx
        rfl
      | ask c next =>
        rw [hrest] at hx
        cases hx

theorem accepting (h : Orderly s o) : Accepting s o := by
  intro id hfree m o' step u u' hu hu'
  constructor
  · rintro front ⟨n, v, hv, rfl, _, hclaimed⟩
    exact (h.claim_of_load ((h.sound n v hv).claimed hclaimed) step hu hu' front).2
  · intro front
    obtain ⟨next, r, g, rest, answers, hg, he⟩ := step.of_front hu hu' front
    have hsound := h.sound m u hu
    obtain ⟨d, p, _, hid, hrecord⟩ := (hsound.course_ask rest).of_claim
    have hd : d.id = u.id := (hsound.loaded d (by rw [hrecord]; simp)).1
    have hno : id ∉ o.registry.claims := by
      intro hmem
      obtain ⟨n, v, hv, hvh, hvid⟩ := (h.claims id).mp hmem
      rw [hfree n v hv hvid] at hvh
      cases hvh
    cases answers with
    | taken id g hmem => exact absurd hmem hno
    | claim id g _ =>
      have hcourse := ((h.step step).sound m u' hu').course
      have hrecord' : u'.record = claiming u'.id d true := by
        rw [he, hrecord, hid]
        rfl
      refine ⟨by rw [Visit.holds, hrecord']; rfl, ?_⟩
      rw [hrecord'] at hcourse
      generalize hx : u'.rest.front = x at hcourse
      cases hcourse with
      | claimed d p hp => rw [hid]

theorem starting (h : Orderly s o) : Starting s o := by
  intro m o' step u u' hu hu' front
  obtain ⟨next, r, g, rest, answers, hg, he⟩ := step.of_front hu hu' front
  have hsound := h.sound m u hu
  have hcourse := hsound.course_ask rest
  obtain ⟨_, hholds⟩ := hsound.target (k := u.id) rest rfl
  obtain ⟨e, hentry⟩ := hsound.entry hholds
  obtain ⟨d, hid, hrecord⟩ := hcourse.of_setStatus_inspecting
  cases answers with
  | setStatus id x g =>
    have hreply : (o.registry.store.setStatus u.id .inspecting).1 = .ok () := by
      rw [Store.setStatus, hentry]
    have hcourse' := ((h.step step).sound m u' hu').course
    rw [he, hrecord, hreply, hid] at hcourse'
    obtain ⟨dialect, config, hfront⟩ := hcourse'.of_accepted
    refine ⟨?_, dialect, config, ?_⟩
    · rw [hg, Store.status?, entry?_setStatus, if_pos rfl, hentry]
      rfl
    · rw [he]
      change DeskProgram.front (next (o.registry.store.setStatus u.id .inspecting).1) = _
      rw [hreply]
      exact hfront

theorem reporting (h : Orderly s o) : Reporting o := by
  intro n v hv hclaimed
  have hsound := h.sound n v hv
  have hstatuses := hsound.course.lastStatuses_eq hsound.written
  refine ⟨?_, ?_, ?_⟩
  · rcases hstatuses with ⟨hnone, hheld⟩ | hone
    · refine .inl ⟨hnone, ?_⟩
      rw [isReleased] at hheld
      rw [Visit.holds, Record.holds, hclaimed, hheld]
      rfl
    · exact .inr hone
  · intro outcome hdone
    have hcourse := hsound.course
    rw [hdone] at hcourse
    have hreleased := hcourse.of_result hclaimed
    rcases hstatuses with ⟨_, hheld⟩ | hone
    · rw [hreleased] at hheld
      cases hheld
    · exact ⟨hreleased, hone⟩
  · intro hholds
    exact ⟨hsound.status hholds, hsound.snapshots hholds, hsound.inspected hholds⟩

/-- One step keeps the snapshot of a datasource held by a visit that has not stored its own. -/
theorem snapshots?_step (h : Orderly s o) {n m : Nat} (step : Step s n o o') {v v' : Visit}
    (hv : o.visits m = some v) (hvh : v.holds = true) (hv' : o'.visits m = some v')
    (unreplaced : isReplaced v'.record = false) :
    o'.registry.store.snapshots? v.id = o.registry.store.snapshots? v.id := by
  cases step with
  | arrive id free => rfl
  | call u hu c next rest r g answers =>
    rcases answers.snapshots?_cases v.id with ⟨ss, hcall, _⟩ | ⟨_, hsame⟩
    · cases hcall
      obtain ⟨hid, huh⟩ := (h.sound n u hu).target (k := v.id) rest rfl
      obtain rfl := h.one m n v u hv hu hvh huh hid
      rcases Office.visits_put_eq_some.mp hv' with ⟨-, rfl⟩ | ⟨hne, _⟩
      · simp [isReplaced, Event.isReplace] at unreplaced
      · exact absurd rfl hne
    · exact hsame

theorem keeping (h : Orderly s o) (runs : Runs s o o') : Keeping o o' := by
  intro n v v' hv hv' hvh hvh' unreplaced
  induction runs generalizing v' with
  | refl => rfl
  | @tail o₁ o₂ hruns hstep ih =>
    obtain ⟨v₁, hv₁, hid₁, l₁, hl₁⟩ := Runs.visits_grow hruns hv
    obtain ⟨k, hk⟩ := hstep
    obtain ⟨v₂, hv₂, hid₂, l₂, hl₂⟩ := hk.visits_grow hv₁
    rw [hv₂, Option.some.injEq] at hv'
    subst hv'
    -- what the later record lacks, the earlier one lacks as well
    have hvh₁ : v₁.holds = true := by
      have hclaimed := claimed_of_holds hvh
      simp only [Visit.holds, Record.holds, hl₂, hl₁, List.any_append, hclaimed, Bool.true_or,
        Bool.true_and, Bool.not_eq_true', Bool.or_eq_false_iff] at hvh' ⊢
      exact hvh'.1
    have hun₁ : isReplaced v₁.record = false := by
      simp only [isReplaced, hl₂, List.any_append, Bool.or_eq_false_iff] at unreplaced
      exact unreplaced.1
    have hbefore := ih v₁ hv₁ hvh₁ hun₁
    have hlast := (h.runs hruns).snapshots?_step hk hv₁ hvh₁ hv₂ unreplaced
    rw [hid₁] at hlast
    rw [hlast, hbefore]

theorem ending (h : Orderly s o) : Ending s o := by
  intro n v hv
  have hsound := h.sound n v hv
  refine ⟨hsound.course.length_le, ?_⟩
  cases hrest : v.rest with
  | done outcome => exact .inl ⟨outcome, rfl⟩
  | ask c next =>
    obtain ⟨r, g, answers⟩ := (hsound.course_ask hrest).answered o.registry
    exact .inr ⟨_, .call o v hv c next hrest r g answers⟩

end Orderly

/-- In every state that visits reach in any order of their calls, whatever fails on the way: one
visit at a time holds a datasource, the others are refused without a trace, the status follows the
visit that holds it, an inspection reports once how it ended and leaves the old snapshot until it
has a new one, and when it is over the next visit is accepted. -/
theorem inspections_take_turns (s : DeskSettings) {o₀ o : Office} (quiet : o₀.Quiet)
    (runs : Runs s o₀ o) :
    Exclusive o ∧ Backed o ∧ Refusing s o ∧ Accepting s o ∧ Starting s o ∧ Reporting o ∧
      (∀ o', Runs s o o' → Keeping o o') ∧ Ending s o := by
  have h : Orderly s o := (Orderly.of_quiet quiet).runs runs
  exact ⟨h.exclusive, h.backed, h.refusing, h.accepting, h.starting, h.reporting,
    fun o' hruns => h.keeping hruns, h.ending⟩

/-- A desk that keeps passwords as they are. -/
def plainDesk : DeskSettings := ⟨20, false, ⟨.ok, .ok⟩⟩

/-- Nobody has come yet to a store with one datasource. -/
def morning : Office :=
  ⟨⟨⟨[⟨{ (default : Datasource) with id := "d" }, []⟩]⟩, []⟩, fun _ => none⟩

theorem morning_quiet : morning.Quiet where
  visits _ := rfl
  claims := rfl
  status id := by
    by_cases h : "d" = id
    · subst h
      decide
    · simp [morning, Store.status?, Store.entry?, h]

/-- A visit holds the datasource while a second one that has come for it is about to claim it. -/
theorem inspections_take_turns_second :
    ∃ o, Runs plainDesk morning o ∧
      (∃ v, o.visits 0 = some v ∧ v.holds = true) ∧
      (∃ u, o.visits 1 = some u ∧ u.rest.front = .inl (.claim "d")) ∧
      Exclusive o ∧ Backed o ∧ Refusing plainDesk o ∧ Accepting plainDesk o ∧
      Starting plainDesk o ∧ Reporting o ∧ (∀ o', Runs plainDesk o o' → Keeping o o') ∧
      Ending plainDesk o := by
  have arrived : Runs plainDesk morning _ := Runs.arrive .refl (n := 0) "d" rfl
  have loaded := arrived.call (n := 0) rfl rfl (.load "d" _)
  have claimed := loaded.call (n := 0) rfl rfl (.claim "d" _ (by decide))
  have second := (claimed.arrive (n := 1) "d" rfl).call (n := 1) rfl rfl (.load "d" _)
  exact ⟨_, second, ⟨_, rfl, rfl⟩, ⟨_, rfl, rfl⟩,
    inspections_take_turns plainDesk morning_quiet second⟩

end QueryDesk.Desk
