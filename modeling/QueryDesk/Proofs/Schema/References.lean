import Mathlib.Data.List.Nodup
import QueryDesk.Schema.Catalog

/-!
# References in both directions

A column knows the column that it references, and it is told which columns reference it. What it is
told is gathered from all tables under the name `table.column` of the referenced column. Where no two
columns share such a name, the two directions are inverse to each other.

Main statement: `References.attach_inverse`.
-/

namespace QueryDesk

/-- A snapshot whose columns were told nothing. -/
def Snapshot.untold (s : Snapshot) : Snapshot :=
  { s with columns := s.columns.map fun c => { c with referencedBy := [] } }

namespace References

/-- All columns, in the order of the tables and of their columns. -/
def columns (ss : List Snapshot) : List ColumnRef := ss.flatMap fun s => s.columns.map s.refTo

/-- Those of them whose reference meets `p`. -/
def pointing (ss : List Snapshot) (p : ColumnRef → Bool) : List ColumnRef :=
  ss.flatMap fun s => (s.columns.filter (·.reference.any p)).map s.refTo

def ends (ss : List Snapshot) : List ColumnRef :=
  ss.flatMap fun s => s.columns.flatMap fun c => s.refTo c :: c.reference.toList

variable {ss : List Snapshot} {p q : ColumnRef → Bool}

theorem mem_pointing {o : ColumnRef} :
    o ∈ pointing ss p ↔
      ∃ s ∈ ss, ∃ c ∈ s.columns, s.refTo c = o ∧ ∃ t, c.reference = some t ∧ p t = true := by
  simp only [pointing, List.mem_flatMap, List.mem_map, List.mem_filter, Option.any_eq_true]
  exact ⟨fun ⟨s, hs, c, ⟨hc, ht⟩, ho⟩ => ⟨s, hs, c, hc, ho, ht⟩,
    fun ⟨s, hs, c, hc, ho, ht⟩ => ⟨s, hs, c, ⟨hc, ht⟩, ho⟩⟩

theorem pointing_sublist (ss : List Snapshot) (p : ColumnRef → Bool) :
    (pointing ss p).Sublist (columns ss) := by
  induction ss with
  | nil => exact List.Sublist.slnil
  | cons s ss ih => exact (List.filter_sublist.map s.refTo).append ih

theorem reference_mem_ends {s : Snapshot} {c : ColumnInfo} {t : ColumnRef} (hs : s ∈ ss)
    (hc : c ∈ s.columns) (ht : c.reference = some t) : t ∈ ends ss :=
  List.mem_flatMap.2 ⟨s, hs, List.mem_flatMap.2 ⟨c, hc, by simp [ht]⟩⟩

theorem refTo_mem_ends {s : Snapshot} {c : ColumnInfo} (hs : s ∈ ss) (hc : c ∈ s.columns) :
    s.refTo c ∈ ends ss :=
  List.mem_flatMap.2 ⟨s, hs, List.mem_flatMap.2 ⟨c, hc, List.mem_cons_self⟩⟩

theorem pointing_congr (h : ∀ t ∈ ends ss, p t = q t) : pointing ss p = pointing ss q := by
  refine List.flatMap_congr fun s hs => congrArg (List.map s.refTo) (List.filter_congr fun c hc => ?_)
  cases ht : c.reference with
  | none => rfl
  | some t => exact h t (reference_mem_ends hs hc ht)

theorem nodup_columns (tables : (ss.map (·.table)).Nodup)
    (names : ∀ s ∈ ss, (s.columns.map (·.name)).Nodup) : (columns ss).Nodup := by
  rw [columns, List.nodup_flatMap]
  refine ⟨fun s hs => ?_, ?_⟩
  · refine List.Nodup.of_map (·.field) ?_
    rw [List.map_map]
    exact names s hs
  · refine (List.pairwise_map.1 tables).imp fun {s t} hne o hs ht => hne ?_
    obtain ⟨_, _, rfl⟩ := List.mem_map.1 hs
    obtain ⟨_, _, ho⟩ := List.mem_map.1 ht
    exact (congrArg ColumnRef.table ho).symm

/-! ### The map -/

theorem lookup_cons (name : String) (rs : List ColumnRef) (m : References) (k : String) :
    List.lookup k ((name, rs) :: m) = if k = name then some rs else m.lookup k := by
  by_cases hk : k = name
  · simp [hk]
  · simp [List.lookup_cons, hk, beq_eq_false_iff_ne.2 hk]

theorem lookup_add (key : String) (r : ColumnRef) (m : References) (k : String) :
    (add key r m).lookup k = if k = key then some (m.under key ++ [r]) else m.lookup k := by
  induction m with
  | nil => simp [add, under, lookup_cons]
  | cons e m ih =>
    obtain ⟨name, rs⟩ := e
    by_cases he : name = key
    · by_cases hk : k = key <;> simp [add, under, he, hk, lookup_cons]
    · by_cases hk : k = key
      · subst hk
        simp [add, under, he, ih, lookup_cons, Ne.symm he]
      · simp [add, he, hk, ih, lookup_cons]

theorem mem_keys_add (key : String) (r : ColumnRef) (m : References) (k : String) :
    k ∈ (add key r m).map (·.1) ↔ k = key ∨ k ∈ m.map (·.1) := by
  induction m with
  | nil => simp [add]
  | cons e m ih =>
    obtain ⟨name, rs⟩ := e
    by_cases he : name = key
    · simp [add, he]
    · rw [add, if_neg he, List.map_cons, List.map_cons, List.mem_cons, List.mem_cons, ih]
      exact or_left_comm

theorem nodup_keys_add (key : String) (r : ColumnRef) {m : References}
    (h : (m.map (·.1)).Nodup) : ((add key r m).map (·.1)).Nodup := by
  induction m with
  | nil => simp [add]
  | cons e m ih =>
    obtain ⟨name, rs⟩ := e
    by_cases he : name = key
    · simpa [add, he] using h
    · rw [List.map_cons, List.nodup_cons] at h
      rw [add, if_neg he, List.map_cons, List.nodup_cons, mem_keys_add, not_or]
      exact ⟨⟨he, h.1⟩, ih h.2⟩

/-- The origins of the references to columns of one name. -/
def origins (es : List (ColumnRef × ColumnRef)) (k : String) : List ColumnRef :=
  (es.filter (·.1.key == k)).map (·.2)

/-- What the map holds once the references `es` are added to it. -/
theorem lookup_foldl_add (es : List (ColumnRef × ColumnRef)) (m : References) (k : String) :
    (es.foldl (fun m (target, origin) => add target.key origin m) m).lookup k =
      if origins es k = [] then m.lookup k else some (m.under k ++ origins es k) := by
  induction es generalizing m with
  | nil => rfl
  | cons e es ih =>
    obtain ⟨target, origin⟩ := e
    rw [List.foldl_cons, ih, under, lookup_add]
    by_cases hk : k = target.key
    · have horigins : origins ((target, origin) :: es) k = origin :: origins es k := by
        simp [origins, hk]
      rw [horigins, if_pos hk, if_neg (List.cons_ne_nil _ _), hk, Option.getD_some]
      split
      · rename_i hnone
        rw [hnone]
      · rw [List.append_assoc]
        rfl
    · have horigins : origins ((target, origin) :: es) k = origins es k := by
        simp [origins, Ne.symm hk]
      rw [horigins, if_neg hk]
      rfl

theorem nodup_keys_foldl_add (es : List (ColumnRef × ColumnRef)) {m : References}
    (h : (m.map (·.1)).Nodup) :
    ((es.foldl (fun m (target, origin) => add target.key origin m) m).map (·.1)).Nodup := by
  induction es generalizing m with
  | nil => exact h
  | cons e es ih => exact ih (nodup_keys_add _ _ h)

theorem origins_edges (ss : List Snapshot) (k : String) :
    origins (edges ss) k = pointing ss (·.key == k) := by
  rw [origins, edges, pointing, List.filter_flatMap, List.map_flatMap]
  refine List.flatMap_congr fun s _ => ?_
  induction s.columns with
  | nil => rfl
  | cons c cs ih =>
    cases ht : c.reference with
    | none => simpa [ht] using ih
    | some t =>
      by_cases hk : t.key = k
      · simpa [ht, hk] using ih
      · simpa [ht, hk] using ih

theorem lookup_ofSnapshots (ss : List Snapshot) (k : String) :
    (ofSnapshots ss).lookup k =
      if pointing ss (·.key == k) = [] then none else some (pointing ss (·.key == k)) := by
  rw [ofSnapshots, lookup_foldl_add, origins_edges]
  rfl

theorem under_ofSnapshots (ss : List Snapshot) (k : String) :
    (ofSnapshots ss).under k = pointing ss (·.key == k) := by
  rw [under, lookup_ofSnapshots]
  split
  · rename_i hnone
    exact hnone.symm
  · rfl

/-! ### What the columns are told -/

/-- A snapshot whose columns are told what the map says of them. -/
def tell (m : References) (s : Snapshot) : Snapshot :=
  { s with columns := s.columns.map fun c => { c with referencedBy := m.under (s.refTo c).key } }

theorem attach_eq_map (m : References) (ss : List Snapshot) : m.attach ss = ss.map m.tell := rfl

theorem edges_attach (m : References) (ss : List Snapshot) : edges (m.attach ss) = edges ss := by
  rw [attach_eq_map, edges, List.flatMap_map]
  refine List.flatMap_congr fun s _ => ?_
  rw [tell, List.filterMap_map]
  rfl

theorem ofSnapshots_attach (m : References) (ss : List Snapshot) :
    ofSnapshots (m.attach ss) = ofSnapshots ss := by
  rw [ofSnapshots, edges_attach, ofSnapshots]

theorem attach_attach (m : References) (ss : List Snapshot) :
    m.attach (m.attach ss) = m.attach ss := by
  simp only [attach_eq_map, List.map_map, Function.comp_def, tell]
  rfl

theorem untold_attach (m : References) (ss : List Snapshot) :
    (m.attach ss).map (·.untold) = ss.map (·.untold) := by
  simp only [attach_eq_map, List.map_map, Function.comp_def, tell, Snapshot.untold]

/-- A column of the told snapshots is one of the columns before, and what it is told stands under
its name. -/
theorem of_mem_attach {m : References} {r : Snapshot} {f : ColumnInfo} (hr : r ∈ m.attach ss)
    (hf : f ∈ r.columns) :
    r.refTo f ∈ ends ss ∧ f.referencedBy = m.under (r.refTo f).key := by
  obtain ⟨s, hs, rfl⟩ := List.mem_map.1 hr
  obtain ⟨c, hc, rfl⟩ := List.mem_map.1 hf
  have hends : s.refTo c ∈ ends ss := refTo_mem_ends hs hc
  exact ⟨hends, rfl⟩

theorem exists_of_mem {m : References} {s : Snapshot} {c : ColumnInfo} (hs : s ∈ ss)
    (hc : c ∈ s.columns) : ∃ r ∈ m.attach ss, ∃ f ∈ r.columns, r.refTo f = s.refTo c :=
  ⟨m.tell s, List.mem_map_of_mem hs, _, List.mem_map_of_mem hc, rfl⟩

/-- A column is told of those that reference a column of its name. -/
theorem mem_referencedBy {r : Snapshot} {f : ColumnInfo} (hr : r ∈ (ofSnapshots ss).attach ss)
    (hf : f ∈ r.columns) {o : ColumnRef} :
    o ∈ f.referencedBy ↔ ∃ s ∈ ss, ∃ c ∈ s.columns, s.refTo c = o ∧
      ∃ t, c.reference = some t ∧ t.key = (r.refTo f).key := by
  rw [(of_mem_attach hr hf).2, under_ofSnapshots, mem_pointing]
  simp only [beq_iff_eq]

/-- Where names are unique, referencing a column of that name is referencing the column. -/
theorem pointing_key (keys : ∀ a ∈ ends ss, ∀ b ∈ ends ss, a.key = b.key → a = b) {t : ColumnRef}
    (ht : t ∈ ends ss) : pointing ss (·.key == t.key) = pointing ss (· == t) := by
  refine pointing_congr fun u hu => ?_
  rw [Bool.eq_iff_iff, beq_iff_eq, beq_iff_eq]
  exact ⟨keys u hu t ht, congrArg ColumnRef.key⟩

theorem exists_reference {rs : List ColumnRef} (h : rs ≠ []) (hrs : rs = pointing ss p) :
    ∃ t ∈ ends ss, p t = true := by
  obtain ⟨o, rest, rfl⟩ := List.exists_cons_of_ne_nil h
  have ho : o ∈ pointing ss p := by rw [← hrs]; exact List.mem_cons_self
  obtain ⟨s, hs, c, hc, -, t, ht, hp⟩ := mem_pointing.1 ho
  exact ⟨t, reference_mem_ends hs hc ht, hp⟩

/-- The columns of `told` are told just what the columns of `ss` reference, and the map holds the
same by the names of the columns. -/
structure Inverse (ss told : List Snapshot) (m : References) : Prop where
  mem_iff : ∀ r ∈ told, ∀ f ∈ r.columns, ∀ t c, ⟨t, c⟩ ∈ f.referencedBy ↔
    ∃ s ∈ ss, s.table = t ∧ ∃ i ∈ s.columns, i.name = c ∧ i.reference = some ⟨r.table, f.name⟩
  once : ∀ r ∈ told, ∀ f ∈ r.columns, f.referencedBy.Nodup
  ordered : ∀ r ∈ told, ∀ f ∈ r.columns, f.referencedBy.Sublist (columns ss)
  keys : (m.map (·.1)).Nodup
  entries : ∀ k rs, m.lookup k = some rs ↔
    rs ≠ [] ∧ ∃ t : ColumnRef, t.key = k ∧ rs = pointing ss (· == t)
  kept : told.map (·.untold) = ss.map (·.untold)
  again : ofSnapshots told = m ∧ (ofSnapshots told).attach told = told

/-- In tables with distinct names, each with distinct names of columns, where no two columns have the
same name `table.column`, each column is told of the columns that reference it: of all of them and of
no others, once each and in their order. Nothing else changes, and to tell them once more changes
nothing at all. -/
theorem attach_inverse (ss : List Snapshot) (tables : (ss.map (·.table)).Nodup)
    (names : ∀ s ∈ ss, (s.columns.map (·.name)).Nodup)
    (keys : ∀ a ∈ ends ss, ∀ b ∈ ends ss, a.key = b.key → a = b) :
    Inverse ss ((ofSnapshots ss).attach ss) (ofSnapshots ss) where
  mem_iff r hr f hf t c := by
    rw [mem_referencedBy hr hf]
    constructor
    · rintro ⟨s, hs, i, hi, ho, target, htarget, hkey⟩
      obtain rfl := keys _ (reference_mem_ends hs hi htarget) _ (of_mem_attach hr hf).1 hkey
      cases ho
      exact ⟨s, hs, rfl, i, hi, rfl, htarget⟩
    · rintro ⟨s, hs, rfl, i, hi, rfl, htarget⟩
      exact ⟨s, hs, i, hi, rfl, r.refTo f, htarget, rfl⟩
  once r hr f hf := by
    rw [(of_mem_attach hr hf).2, under_ofSnapshots]
    exact (nodup_columns tables names).sublist (pointing_sublist ss _)
  ordered r hr f hf := by
    rw [(of_mem_attach hr hf).2, under_ofSnapshots]
    exact pointing_sublist ss _
  keys := nodup_keys_foldl_add (edges ss) List.nodup_nil
  entries k rs := by
    rw [lookup_ofSnapshots]
    constructor
    · intro hlookup
      obtain ⟨hne, hrs⟩ := Option.ite_none_left_eq_some.1 hlookup
      obtain ⟨t, ht, hkey⟩ := exists_reference hne rfl
      obtain rfl := beq_iff_eq.1 hkey
      rw [Option.some.injEq, pointing_key keys ht] at hrs
      rw [pointing_key keys ht] at hne
      exact ⟨hrs ▸ hne, t, rfl, hrs.symm⟩
    · rintro ⟨hne, t, rfl, hrs⟩
      obtain ⟨u, hu, hut⟩ := exists_reference hne hrs
      obtain rfl := beq_iff_eq.1 hut
      rw [pointing_key keys hu, ← hrs, if_neg hne]
  kept := untold_attach _ ss
  again := by
    rw [ofSnapshots_attach]
    exact ⟨rfl, attach_attach _ ss⟩

/-- Staff with a superior, their teams, which are no table here, and tasks of two of the staff. -/
theorem attach_inverse_staff :
    let staff : Snapshot := ⟨"staff", [⟨"id", "int", true, none, [⟨"old", "id"⟩]⟩,
      ⟨"boss", "int", false, some ⟨"staff", "id"⟩, []⟩,
      ⟨"team", "int", false, some ⟨"teams", "id"⟩, []⟩], ⟨0, 0⟩, ⟨0, 0⟩⟩
    let tasks : Snapshot := ⟨"tasks", [⟨"owner", "int", false, some ⟨"staff", "id"⟩, []⟩,
      ⟨"helper", "int", false, some ⟨"staff", "id"⟩, []⟩], ⟨0, 0⟩, ⟨0, 0⟩⟩
    let m := ofSnapshots [staff, tasks]
    Inverse [staff, tasks] (m.attach [staff, tasks]) m ∧
      m = [("staff.id", [⟨"staff", "boss"⟩, ⟨"tasks", "owner"⟩, ⟨"tasks", "helper"⟩]),
        ("teams.id", [⟨"staff", "team"⟩])] := by
  intro staff tasks m
  exact ⟨attach_inverse [staff, tasks] (by decide) (by decide) (by decide), by decide⟩

end References

end QueryDesk
