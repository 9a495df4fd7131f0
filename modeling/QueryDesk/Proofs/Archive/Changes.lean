import QueryDesk.Proofs.Archive.Ledger

/-!
# Datasources written

A statement that writes to the row of a datasource changes one entry of the ledger.
-/

namespace QueryDesk

namespace Archive

variable {a b : Archive} {m : Ledger} {e : StoreEntry} {id : String}

/-! ### Rows of datasources -/

theorem hasId_iff {r : Row} : hasId id r = true ↔ r.cell "id" = .text id := beq_iff_eq

theorem cell_overwrite {columns : List String} {c : String} (h : columns.contains c = false)
    (r new : Row) : (r.overwrite columns new).cell c = r.cell c := by
  have hlookup : (r.overwrite columns new).lookup c = r.lookup c := by
    induction r with
    | nil => rfl
    | cons x r ih =>
      have hcons : Row.overwrite (x :: r) columns new =
          (x.1, if columns.contains x.1 then new.cell x.1 else x.2) ::
            Row.overwrite r columns new := rfl
      rw [hcons, List.lookup_cons, List.lookup_cons, ih]
      by_cases hc : c = x.1
      · rw [← hc, h]
        rfl
      · rw [beq_eq_false_iff_ne.2 hc]
  rw [Row.cell, hlookup, Row.cell]

/-- Overwriting the rows of a datasource is seen under its id only. -/
theorem find?_overwrite {columns : List String} (h : columns.contains "id" = false) (new : Row)
    (rows : List Row) (id other : String) :
    (rows.map fun r => if hasId id r then r.overwrite columns new else r).find? (hasId other) =
      if other = id then (rows.find? (hasId id)).map (·.overwrite columns new)
      else rows.find? (hasId other) := by
  have hkept : (hasId other ∘ fun r => if hasId id r then r.overwrite columns new else r) =
      hasId other := by
    funext r
    rw [Function.comp_apply]
    split
    · rw [hasId, cell_overwrite h, hasId]
    · rfl
  rw [List.find?_map, hkept]
  by_cases hother : other = id
  · subst hother
    rw [if_pos rfl]
    cases hr : rows.find? (hasId other) with
    | none => rfl
    | some r => rw [Option.map_some, Option.map_some, if_pos (List.find?_some hr)]
  · rw [if_neg hother]
    cases hr : rows.find? (hasId other) with
    | none => rfl
    | some r =>
      have hid : hasId id r = false := by
        have hcell := hasId_iff.1 (List.find?_some hr)
        rw [hasId, hcell, text_beq, decide_eq_false hother]
      rw [Option.map_some, hid]
      rfl

theorem map_hasId_of_none {f : Row → Row} {rows : List Row} (h : rows.find? (hasId id) = none) :
    (rows.map fun r => if hasId id r then f r else r) = rows := by
  rw [List.find?_eq_none] at h
  exact (List.map_congr_left fun r hr => if_neg (h r hr)).trans (List.map_id' rows)

/-- Rows that hold an entry under one id and what they held under all others. -/
theorem Represents.set (h : a.Represents m) (e : StoreEntry) (hid : e.datasource.id = id)
    (hdatasources : ∀ other, b.datasources.find? (hasId other) =
      if other = id then some (datasourceRow e.datasource) else a.datasources.find? (hasId other))
    (htables : ∀ other, List.Forall₂ (b.Holds other) (b.tables.filter (ownedBy other))
      (if other = id then e.snapshots else m.snapshotsOf other))
    (apart : (b.tables.map (·.cell "id")).Nodup)
    (tableIds : ∀ r ∈ b.tables, b.IsDrawn (r.cell "id"))
    (columnIds : ∀ r ∈ b.columns, b.IsDrawn (r.cell "id") ∧ b.IsDrawn (r.cell "table_id")) :
    b.Represents (m.set id e) where
  own other e' he' := by
    by_cases hother : other = id
    · subst hother
      rw [Ledger.set_self] at he'
      cases he'
      exact hid
    · rw [Ledger.set_of_ne hother] at he'
      exact h.own other e' he'
  datasources other := by
    rw [hdatasources]
    by_cases hother : other = id
    · subst hother
      rw [if_pos rfl, Ledger.set_self]
      rfl
    · rw [if_neg hother, Ledger.set_of_ne hother]
      exact h.datasources other
  tables other := by
    have hkept := htables other
    by_cases hother : other = id
    · subst hother
      rw [if_pos rfl] at hkept
      rw [Ledger.snapshotsOf_set_self]
      exact hkept
    · rw [if_neg hother] at hkept
      rw [Ledger.snapshotsOf_set_of_ne hother]
      exact hkept
  apart := apart
  tableIds := tableIds
  columnIds := columnIds

theorem Represents.setDatasource (h : a.Represents m) (e : StoreEntry)
    (hid : e.datasource.id = id) (hsnapshots : e.snapshots = m.snapshotsOf id) {rows : List Row}
    (hrows : ∀ other, rows.find? (hasId other) =
      if other = id then some (datasourceRow e.datasource) else a.datasources.find? (hasId other)) :
    Represents { a with datasources := rows } (m.set id e) := by
  refine h.set e hid hrows (fun other => ?_) h.apart h.tableIds h.columnIds
  split
  · rename_i hother
    rw [hother, hsnapshots]
    exact h.tables id
  · exact h.tables other

theorem Represents.overwrite (h : a.Represents m) (he : m id = some e) (e' : StoreEntry)
    (hid : e'.datasource.id = id) (hsnapshots : e'.snapshots = e.snapshots)
    {columns : List String} {new : Row} (hcolumns : columns.contains "id" = false)
    (hrow : (datasourceRow e.datasource).overwrite columns new = datasourceRow e'.datasource) :
    Represents
      { a with datasources :=
          a.datasources.map fun r => if hasId id r then r.overwrite columns new else r }
      (m.set id e') := by
  refine h.setDatasource e' hid (hsnapshots.trans (Ledger.snapshotsOf_of_some he).symm) fun other => ?_
  rw [find?_overwrite hcolumns, h.datasources id, he, Option.map_some, Option.map_some, hrow]

theorem count_eq_zero (rows : List Row) :
    (rows.filter (hasId id)).length = 0 ↔ rows.find? (hasId id) = none := by
  rw [List.length_eq_zero_iff, List.filter_eq_nil_iff, List.find?_eq_none]

theorem Represents.find?_of_none (h : a.Represents m) (hm : m id = none) :
    a.datasources.find? (hasId id) = none := by
  rw [h.datasources, hm]
  rfl

theorem Represents.setStatus (h : a.Represents m) (id : String) (status : InspectionStatus) :
    (a.setStatus id status).1 = (m.setStatus id status).1 ∧
      (a.setStatus id status).2.Represents (m.setStatus id status).2 := by
  cases hm : m id with
  | none =>
    have hfind := h.find?_of_none hm
    have ha : a.setStatus id status =
        (.error (.notFound ("Datasource " ++ id ++ " not found")), a) := by
      rw [Archive.setStatus, Row.updateWhere, map_hasId_of_none hfind]
      simp only [(count_eq_zero a.datasources).2 hfind, if_true]
    rw [ha, Ledger.setStatus, hm]
    exact ⟨rfl, h⟩
  | some e =>
    have hcount : (a.datasources.filter (hasId id)).length ≠ 0 := by
      rw [Ne, count_eq_zero, h.datasources, hm]
      exact Option.some_ne_none _
    rw [Archive.setStatus, Row.updateWhere, Ledger.setStatus, hm]
    simp only [hcount, if_false]
    exact ⟨trivial, h.overwrite hm { e with datasource := { e.datasource with status } }
      (h.own id e hm) rfl rfl (overwrite_status e.datasource status)⟩

theorem Represents.markInspected (h : a.Represents m) (id : String) (t : Instant) :
    (a.markInspected id t).Represents (m.markInspected id t) := by
  cases hm : m id with
  | none =>
    have ha : a.markInspected id t = a := by
      rw [Archive.markInspected, Row.updateWhere, map_hasId_of_none (h.find?_of_none hm)]
    rw [ha, Ledger.markInspected, hm]
    exact h
  | some e =>
    rw [Archive.markInspected, Row.updateWhere, Ledger.markInspected, hm]
    exact h.overwrite hm { e with datasource := { e.datasource with lastInspected := some t } }
      (h.own id e hm) rfl rfl (overwrite_lastInspected e.datasource t)

theorem any_select_id {rows : List Row} {r : Row}
    (h : ∀ x ∈ rows, x.cell "id" ≠ r.cell "id") :
    rows.any (fun x => x.select ["id"] == r.select ["id"]) = false := by
  rw [List.any_eq_false]
  intro x hx heq
  have hcell : x.cell "id" = r.cell "id" := by
    simpa [Row.select] using heq
  exact h x hx hcell

theorem insert_datasourceRow {rows : List Row} {d : Datasource}
    (h : rows.find? (hasId d.id) = none) :
    datasourceSchema.insert rows (datasourceRow d) = .ok (rows ++ [datasourceRow d]) := by
  have hrequired : datasourceSchema.required.find?
      (fun c => (datasourceRow d).cell c == .null) = none := rfl
  have hkey : rows.any (fun x => x.select ["id"] == (datasourceRow d).select ["id"]) = false := by
    apply any_select_id
    intro x hx hcell
    rw [cell_id_datasourceRow, ← hasId_iff] at hcell
    exact List.find?_eq_none.1 h x hx hcell
  have hkeys : datasourceSchema.keys.find?
      (fun key => rows.any fun x => x.select key == (datasourceRow d).select key) = none := by
    rw [datasourceSchema, List.find?_cons, hkey]
    rfl
  rw [TableSchema.insert, TableSchema.refusal?, hrequired, hkeys]
  rfl

theorem hasKey_datasourceRow (d : Datasource) (x : Row) :
    (x.cell "id" == (datasourceRow d).cell "id") = hasId d.id x := by
  rw [cell_id_datasourceRow, hasId]

theorem upsert_absent {rows : List Row} {d : Datasource} (h : rows.find? (hasId d.id) = none) :
    datasourceSchema.upsert "id" overwrittenColumns rows (datasourceRow d) =
      .ok (rows ++ [datasourceRow d]) := by
  have hany : rows.any (hasId d.id) = false := by
    rw [List.any_eq_false]
    exact List.find?_eq_none.1 h
  rw [TableSchema.upsert]
  simp only [hasKey_datasourceRow]
  rw [hany, insert_datasourceRow h]
  rfl

theorem upsert_present {rows : List Row} {d : Datasource} {r : Row}
    (h : rows.find? (hasId d.id) = some r) :
    datasourceSchema.upsert "id" overwrittenColumns rows (datasourceRow d) =
      .ok (rows.map fun r =>
        if hasId d.id r then r.overwrite overwrittenColumns (datasourceRow d) else r) := by
  have hany : rows.any (hasId d.id) = true := by
    rw [List.any_eq_true]
    exact ⟨r, List.mem_of_find?_eq_some h, List.find?_some h⟩
  rw [TableSchema.upsert]
  simp only [hasKey_datasourceRow]
  rw [hany, if_pos rfl]
  simp only [cell_id_datasourceRow, hasId_iff]

theorem Represents.save (h : a.Represents m) (d : Datasource) :
    (a.save d).1 = .ok () ∧ (a.save d).2.Represents (m.save d) := by
  cases hm : m d.id with
  | none =>
    have hfind := h.find?_of_none hm
    rw [Archive.save, upsert_absent hfind, Ledger.save, hm]
    refine ⟨rfl, h.setDatasource ⟨d, []⟩ rfl (Ledger.snapshotsOf_of_none hm).symm fun other => ?_⟩
    rw [List.find?_append, List.find?_singleton, hasId_datasourceRow]
    by_cases hother : other = d.id
    · subst hother
      rw [hfind, if_pos rfl, decide_eq_true rfl]
      rfl
    · rw [if_neg hother, decide_eq_false (Ne.symm hother)]
      cases a.datasources.find? (hasId other) <;> rfl
  | some e =>
    have hfind := h.datasources d.id
    rw [hm] at hfind
    -- What a row keeps when it is saved again is the instant of its creation.
    have hrow : (datasourceRow e.datasource).overwrite overwrittenColumns (datasourceRow d) =
        datasourceRow { d with createdAt := e.datasource.createdAt } := by
      rw [overwrite_datasourceRow, h.own d.id e hm]
    rw [Archive.save, upsert_present hfind, Ledger.save, hm]
    exact ⟨rfl, h.overwrite hm
      { e with datasource := { d with createdAt := e.datasource.createdAt } } rfl rfl rfl hrow⟩

end Archive

end QueryDesk
