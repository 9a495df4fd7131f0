import QueryDesk.Proofs.Archive.Refinement
import QueryDesk.Proofs.Desk.Office

/-!
# The store is the archive

The store that the desk is run against keeps datasources as they are, and not as rows. It answers
every request as the archive does, since it holds the entries of the same ledger.
-/

namespace QueryDesk

namespace Store

def answer (s : Store) : StoreRequest → StoreReply × Store
  | .save d => (.done (.ok ()), s.save d)
  | .setStatus id status => (.done (s.setStatus id status).1, (s.setStatus id status).2)
  | .markInspected id moment => (.done (.ok ()), s.markInspected id moment)
  | .replace id xs => (.done (s.replace id xs).1, (s.replace id xs).2)
  | .get id => (.datasource (s.get id), s)
  | .snapshots id tables => (.snapshots (s.snapshots id tables), s)

/-- The store holds the entries of a ledger. -/
def Tells (s : Store) (m : Ledger) : Prop := ∀ id, s.entry? id = m id

variable {s : Store} {m : Ledger} {id : String} {e : StoreEntry}

theorem isReadable_of_isProper {t : Instant} (h : t.IsProper) : isReadable t = true :=
  decide_eq_true h.year

theorem hasTwice_eq (ns : List String) : hasTwice ns = !decide ns.Nodup := by
  induction ns with
  | nil => rfl
  | cons n ns ih =>
    rw [hasTwice, ih]
    by_cases hn : n ∈ ns <;> simp [hn]

theorem entry?_set (h : s.Tells m) (he : m id = some e)
    {f : StoreEntry → StoreEntry} (hf : ∀ e, e.datasource.id = id → (f e).datasource.id = id)
    (other : String) : entry? (s.update id f) other = m.set id (f e) other := by
  rw [entry?_update s id other hf, h]
  by_cases hother : other = id
  · rw [if_pos hother, hother, he, Ledger.set_self]
    rfl
  · rw [if_neg hother, Ledger.set_of_ne hother]

theorem update_of_none (h : s.entry? id = none) (f : StoreEntry → StoreEntry) :
    s.update id f = s := by
  have hid : ∀ e ∈ s.entries, ¬e.datasource.id = id := by
    simpa [ entry?, List.find?_eq_none] using h
  rw [update, (List.map_congr_left fun e he => if_neg (hid e he)).trans (List.map_id' s.entries)]

theorem Tells.save (h : s.Tells m) (d : Datasource) (other : String) :
    entry? (s.save d) other = m.save d other := by
  cases hm : m d.id with
  | none =>
    have hsave : entry? (s.save d) other =
        (s.entry? other).or (if d.id = other then some ⟨d, []⟩ else none) := by
      rw [Store.save, h, hm, entry?, entry?, List.find?_append, List.find?_singleton]
      simp
    have hledger : m.save d = m.set d.id ⟨d, []⟩ := by rw [Ledger.save, hm]
    rw [hsave, hledger, h]
    by_cases hother : other = d.id
    · subst hother
      rw [hm, if_pos rfl, Ledger.set_self]
      rfl
    · rw [if_neg (Ne.symm hother), Option.or_none, Ledger.set_of_ne hother]
  | some e =>
    have hledger : m.save d =
        m.set d.id { e with datasource := { d with createdAt := e.datasource.createdAt } } := by
      rw [Ledger.save, hm]
    rw [Store.save, h, hm, hledger]
    exact entry?_set h hm (fun _ _ => rfl) other

theorem Tells.setStatus (h : s.Tells m) (id : String) (status : InspectionStatus) :
    (s.setStatus id status).1 = (m.setStatus id status).1 ∧
      ∀ other, entry? (s.setStatus id status).2 other = (m.setStatus id status).2 other := by
  rw [Store.setStatus, Ledger.setStatus, h]
  cases hm : m id with
  | none => exact ⟨rfl, h⟩
  | some e => exact ⟨rfl, entry?_set h hm fun _ he => he⟩

theorem Tells.markInspected (h : s.Tells m) (id : String) (t : Instant)
    (other : String) : entry? (s.markInspected id t) other = m.markInspected id t other := by
  rw [Store.markInspected, Ledger.markInspected]
  cases hm : m id with
  | none =>
    rw [update_of_none ((h id).trans hm)]
    exact h other
  | some e =>
    let f (e : StoreEntry) : StoreEntry :=
      { e with datasource := { e.datasource with lastInspected := some t } }
    exact entry?_set (f := f) h hm (fun _ he => he) other

theorem Tells.replace (h : s.Tells m) (id : String) (xs : List Snapshot) :
    (s.replace id xs).1 = (m.replace id xs).1 ∧
      ∀ other, entry? (s.replace id xs).2 other = (m.replace id xs).2 other := by
  have htwice : hasTwice ((xs.map stored).map (·.table)) = !decide (Ledger.names xs).Nodup := by
    rw [hasTwice_eq, List.map_map]
    rfl
  rw [Store.replace, Ledger.replace, h]
  cases hm : m id with
  | none =>
    refine ⟨?_, h⟩
    cases xs <;> rfl
  | some e =>
    simp only [htwice]
    by_cases hnodup : (Ledger.names xs).Nodup
    · simp only [hnodup, decide_true, Bool.not_true, Bool.false_eq_true, if_false, if_true]
      exact ⟨trivial, entry?_set h hm fun _ he => he⟩
    · simp only [hnodup, decide_false, Bool.not_false, if_true, if_false]
      exact ⟨trivial, h⟩

/-! ### Reading -/

theorem Tells.get_ok (h : s.Tells m) (hproper : ∀ d, m.get id = some d → d.IsProper) :
    s.get id = .ok (m.get id) := by
  cases hm : m id with
  | none => rw [Store.get, h, hm, Ledger.get, hm]; rfl
  | some e =>
    have hget : m.get id = some e.datasource := by rw [Ledger.get, hm]; rfl
    have hd := hproper e.datasource hget
    rw [hget]
    exact get_of_entry? ((h id).trans hm) (isReadable_of_isProper hd.createdAt)
      fun t ht => isReadable_of_isProper (hd.lastInspected t ht)

theorem Tells.snapshots_ok (h : s.Tells m) (hproper : ∀ y ∈ m.snapshotsOf id, y.IsProper)
    (ts : List String) : s.snapshots id ts = .ok (m.snapshots id ts) := by
  have hsnapshot : ∀ t, s.snapshot id t = .ok (m.snapshot? id t) := by
    intro t
    rw [snapshot, h, ← Ledger.snapshotsOf, ← Ledger.snapshot?]
    cases hy : m.snapshot? id t with
    | none => rfl
    | some y =>
      have hyproper := hproper y (List.mem_of_find?_eq_some hy)
      simp only [readInstant, isReadable_of_isProper hyproper.createdAt,
        isReadable_of_isProper hyproper.updatedAt, if_true]
      rfl
  rw [Store.snapshots, mapM_eq_map hsnapshot, ok_bind, List.filterMap_map]
  rfl

theorem Tells.answer (h : s.Tells m) (hm : m.IsProper) (q : StoreRequest) :
    (s.answer q).1 = (m.answer q).1 ∧ (s.answer q).2.Tells (m.answer q).2 := by
  cases q with
  | save d => exact ⟨rfl, h.save d⟩
  | setStatus id status =>
    obtain ⟨hreply, hafter⟩ := h.setStatus id status
    exact ⟨congrArg StoreReply.done hreply, hafter⟩
  | markInspected id moment => exact ⟨rfl, h.markInspected id moment⟩
  | replace id xs =>
    obtain ⟨hreply, hafter⟩ := h.replace id xs
    exact ⟨congrArg StoreReply.done hreply, hafter⟩
  | get id => exact ⟨congrArg StoreReply.datasource (h.get_ok fun _ hd => hm.get hd), h⟩
  | snapshots id tables =>
    exact ⟨congrArg StoreReply.snapshots (h.snapshots_ok hm.snapshotsOf tables), h⟩

theorem replies_eq_archive (qs : List StoreRequest) (hqs : ∀ q ∈ qs, q.IsProper) :
    (StoreRequest.run answer empty qs).1 =
      (StoreRequest.run Archive.answer Archive.empty qs).1 := by
  have hstore : (StoreRequest.run answer empty qs).1 =
      (StoreRequest.run Ledger.answer Ledger.empty qs).1 := by
    apply StoreRequest.run_replies (R := fun s m => s.Tells m ∧ m.IsProper) _ qs hqs
      ⟨fun _ => rfl, Ledger.isProper_empty⟩
    intro s m q hq ⟨htells, hproper⟩
    obtain ⟨hreply, hafter⟩ := htells.answer hproper q
    exact ⟨hreply, hafter, hproper.answer hq⟩
  rw [hstore, Archive.replies_eq_ledger qs hqs]

end Store

end QueryDesk
