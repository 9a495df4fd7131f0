import Mathlib.Data.List.Nodup
import QueryDesk.Proofs.Archive.Changes

/-!
# Snapshots replaced

The rows of a snapshot are taken in one after the other, under ids that nothing else has, so that
what is kept of other tables stays as it is. The ledger is followed through each table that is taken
in, up to the first that is refused.
-/

namespace QueryDesk

namespace Archive

variable {a b : Archive} {m : Ledger} {e : StoreEntry} {id key : String}

theorem rowId_inj {n k : Nat} : rowId n = rowId k ↔ n = k := by
  refine ⟨fun h => ?_, congrArg rowId⟩
  have hdigits : Nat.toDigits 10 n = Nat.toDigits 10 k := String.ofList_injective h
  calc
    n = Nat.ofDigitChars 10 (Nat.toDigits 10 n) 0 := Nat.ofDigitChars_ten_toDigits.symm
    _ = Nat.ofDigitChars 10 (Nat.toDigits 10 k) 0 := by rw [hdigits]
    _ = k := Nat.ofDigitChars_ten_toDigits

theorem IsDrawn.mono {x : Cell} (h : a.IsDrawn x) (hdrawn : a.drawn ≤ b.drawn) : b.IsDrawn x := by
  obtain ⟨n, hn, hx⟩ := h
  exact ⟨n, by omega, hx⟩

theorem IsDrawn.ne {x : Cell} (h : a.IsDrawn x) : x ≠ .text (rowId a.drawn) := by
  obtain ⟨n, hn, rfl⟩ := h
  rw [Ne, Cell.text.injEq, rowId_inj]
  omega

/-! ### Columns -/

theorem cell_table_of_isColumn {rows : List Row} {cs : List (ColumnInfo × Nat)}
    (h : List.Forall₂ (IsColumn key) rows cs) : ∀ r ∈ rows, r.cell "table_id" = .text key := by
  induction h with
  | nil => intro r hr; cases hr
  | cons hc _ ih =>
    obtain ⟨k, rfl⟩ := hc
    intro r hr
    rcases List.mem_cons.1 hr with rfl | hr
    · rfl
    · exact ih r hr

/-- The columns of a table are part of it, and of no other table. -/
theorem filter_isPartOf {rows : List Row} {cs : List (ColumnInfo × Nat)}
    (h : List.Forall₂ (IsColumn key) rows cs) (other : String) :
    rows.filter (isPartOf other) = if key = other then rows else [] := by
  have hpart : ∀ r ∈ rows, isPartOf other r = decide (key = other) := fun r hr => by
    rw [isPartOf, cell_table_of_isColumn h r hr, text_beq]
  split
  · next hkey =>
    rw [List.filter_eq_self]
    exact fun r hr => by rw [hpart r hr, decide_eq_true hkey]
  · next hkey =>
    rw [List.filter_eq_nil_iff]
    exact fun r hr => by simp [hpart r hr, hkey]

theorem insertColumn_eq (hids : ∀ r ∈ a.columns, a.IsDrawn (r.cell "id"))
    (htable : a.tables.any (hasId key) = true) (c : ColumnInfo × Nat) :
    insertColumn key a c = .ok { a with
      columns := a.columns ++ [columnRow (rowId a.drawn) key c.2 c.1], drawn := a.drawn + 1 } := by
  let row := columnRow (rowId a.drawn) key c.2 c.1
  have hrequired : columnSchema.required.find? (fun c => row.cell c == .null) = none := rfl
  have hkey : a.columns.any (fun x => x.select ["id"] == row.select ["id"]) = false :=
    any_select_id fun r hr => (hids r hr).ne
  have hkeys : columnSchema.keys.find?
      (fun key => a.columns.any fun x => x.select key == row.select key) = none := by
    rw [columnSchema, List.find?_cons, hkey]
    rfl
  have hinsert : columnSchema.insert a.columns row = .ok (a.columns ++ [row]) := by
    rw [TableSchema.insert, TableSchema.refusal?, hrequired, hkeys]
    rfl
  rw [insertColumn, hinsert, ok_bind, htable]
  rfl

/-- The columns of a table are taken in one after the other. -/
theorem insertColumns_eq (cs : List (ColumnInfo × Nat))
    (hids : ∀ r ∈ a.columns, a.IsDrawn (r.cell "id")) (htable : a.tables.any (hasId key) = true) :
    ∃ rows n, cs.foldlM (insertColumn key) a =
        .ok { a with columns := a.columns ++ rows, drawn := n } ∧
      a.drawn ≤ n ∧ List.Forall₂ (IsColumn key) rows cs ∧
      ∀ r ∈ rows, ∃ k < n, r.cell "id" = .text (rowId k) := by
  -- the archive is general, since each column is taken in by one with one row id less to draw
  induction cs generalizing a with
  | nil => exact ⟨[], a.drawn, by simp [pure, Except.pure], by omega, .nil, by simp⟩
  | cons c cs ih =>
    let row := columnRow (rowId a.drawn) key c.2 c.1
    let next : Archive := { a with columns := a.columns ++ [row], drawn := a.drawn + 1 }
    have hnext : ∀ r ∈ next.columns, next.IsDrawn (r.cell "id") := by
      intro r hr
      rcases List.mem_append.1 hr with hr | hr
      · exact (hids r hr).mono (Nat.le_succ a.drawn)
      · rw [List.mem_singleton.1 hr]
        exact ⟨a.drawn, Nat.lt_succ_self a.drawn, rfl⟩
    obtain ⟨rows, n, hrows, hn, hcolumns, hdrawn⟩ := ih hnext htable
    have hlt : a.drawn < n := hn
    refine ⟨row :: rows, n, ?_, by omega, .cons ⟨_, rfl⟩ hcolumns, fun r hr => ?_⟩
    · rw [List.foldlM_cons, insertColumn_eq hids htable, ok_bind, hrows]
      simp [next]
    · rcases List.mem_cons.1 hr with rfl | hr
      · exact ⟨a.drawn, hlt, rfl⟩
      · exact hdrawn r hr

/-! ### Tables -/

/-- Rows of other tables do not matter to what is kept of one. -/
theorem Holds.frame {r : Row} {y : Snapshot} (h : a.Holds id r y)
    (hcolumns : ∀ key, r.cell "id" = .text key →
      b.columns.filter (isPartOf key) = a.columns.filter (isPartOf key)) : b.Holds id r y := by
  obtain ⟨key, x, rfl, rfl, hkept⟩ := h
  refine ⟨key, x, rfl, rfl, ?_⟩
  rw [hcolumns key rfl]
  exact hkept

/-- A datasource keeps its snapshot when the columns of its tables stay as they are. -/
theorem Represents.tables_frame (h : a.Represents m) (other : String)
    (hcolumns : ∀ r ∈ a.tables.filter (ownedBy other), ∀ key, r.cell "id" = .text key →
      b.columns.filter (isPartOf key) = a.columns.filter (isPartOf key)) :
    List.Forall₂ (b.Holds other) (a.tables.filter (ownedBy other)) (m.snapshotsOf other) := by
  have hkept := (List.forall₂_and_left _ _).2 ⟨hcolumns, h.tables other⟩
  exact hkept.imp fun r y hr => hr.2.frame hr.1

theorem mem_name {rows : List Row} {ys : List Snapshot} (h : List.Forall₂ (a.Holds id) rows ys)
    (t : String) : (∃ r ∈ rows, r.cell "name" = .text t) ↔ t ∈ ys.map (·.table) := by
  induction h with
  | nil => simp
  | @cons r y rows ys hr _ ih =>
    obtain ⟨key, x, rfl, rfl, -⟩ := hr
    rw [List.map_cons, List.mem_cons, ← ih, eq_comm (a := t)]
    simp only [List.mem_cons, exists_eq_or_imp, cell_name_tableRow, Cell.text.injEq, Store.stored]

theorem Represents.setSnapshots (h : a.Represents m) (he : m id = some e) {ys : List Snapshot}
    (hdatasources : b.datasources = a.datasources)
    (htables : ∀ other, List.Forall₂ (b.Holds other) (b.tables.filter (ownedBy other))
      (if other = id then ys else m.snapshotsOf other))
    (apart : (b.tables.map (·.cell "id")).Nodup)
    (tableIds : ∀ r ∈ b.tables, b.IsDrawn (r.cell "id"))
    (columnIds : ∀ r ∈ b.columns, b.IsDrawn (r.cell "id") ∧ b.IsDrawn (r.cell "table_id")) :
    b.Represents (m.set id { e with snapshots := ys }) := by
  refine h.set { e with snapshots := ys } (h.own id e he) (fun other => ?_) htables apart tableIds
    columnIds
  rw [hdatasources]
  split
  · rename_i hother
    rw [hother, h.datasources, he]
    rfl
  · rfl

/-- A table of another datasource has its own id, so its columns are not among those deleted. -/
theorem Represents.columns_deleteTables (h : a.Represents m) {other : String} (hother : other ≠ id)
    {r : Row} (hr : r ∈ a.tables.filter (ownedBy other)) (hkey : r.cell "id" = .text key) :
    (a.deleteTables id).columns.filter (isPartOf key) = a.columns.filter (isPartOf key) := by
  obtain ⟨hrtables, howner⟩ := List.mem_filter.1 hr
  have hstays : ((a.tables.filter (ownedBy id)).map (·.cell "id")).contains (.text key) =
      false := by
    rw [← Bool.not_eq_true, List.contains_iff_mem, List.mem_map]
    rintro ⟨x, hx, hcell⟩
    obtain ⟨hxtables, hxowner⟩ := List.mem_filter.1 hx
    obtain rfl := List.inj_on_of_nodup_map h.apart hxtables hrtables (hcell.trans hkey.symm)
    exact hother (Cell.text.inj ((beq_iff_eq.1 howner).symm.trans (beq_iff_eq.1 hxowner)))
  rw [Archive.deleteTables, List.filter_filter]
  apply List.filter_congr
  intro c _
  by_cases hc : c.cell "table_id" = .text key
  · rw [hc, hstays, Bool.not_false, Bool.and_true]
  · have hpart : isPartOf key c = false := beq_eq_false_iff_ne.2 hc
    rw [hpart, Bool.false_and]

theorem tables_deleteTables (a : Archive) (id other : String) :
    (a.deleteTables id).tables.filter (ownedBy other) =
      if other = id then [] else a.tables.filter (ownedBy other) := by
  rw [Archive.deleteTables, List.filter_filter]
  split
  · next hother =>
    rw [hother, List.filter_eq_nil_iff]
    simp
  · next hother =>
    apply List.filter_congr
    intro r _
    cases ho : ownedBy other r with
    | false => rfl
    | true =>
      have hid : ownedBy id r = false := by
        rw [ownedBy, beq_iff_eq.1 ho, text_beq, decide_eq_false hother]
      rw [hid]
      rfl

/-- Deleting the tables of a datasource leaves the rows of all others. -/
theorem Represents.deleteTables (h : a.Represents m) (he : m id = some e) :
    (a.deleteTables id).Represents (m.set id { e with snapshots := [] }) := by
  refine h.setSnapshots he rfl (fun other => ?_) ?_ ?_ ?_
  · rw [tables_deleteTables]
    split
    · exact .nil
    · next hother =>
      exact h.tables_frame other fun r hr key hkey => h.columns_deleteTables hother hr hkey
  · exact h.apart.sublist (List.Sublist.map _ List.filter_sublist)
  · exact fun r hr => h.tableIds r (List.mem_filter.1 hr).1
  · exact fun r hr => h.columnIds r (List.mem_filter.1 hr).1

theorem Represents.deleteTables_of_none (h : a.Represents m) (hm : m id = none) :
    a.deleteTables id = a := by
  have hnone : a.tables.filter (ownedBy id) = [] := by
    have htables := h.tables id
    rw [Ledger.snapshotsOf_of_none hm] at htables
    exact List.forall₂_nil_right_iff.1 htables
  have htables : a.tables.filter (fun r => !ownedBy id r) = a.tables := by
    rw [List.filter_eq_self]
    intro r hr
    rw [List.filter_eq_nil_iff] at hnone
    simpa using hnone r hr
  rw [Archive.deleteTables, hnone, htables]
  simp

/-- A table is taken in unless a table of its datasource has its name. -/
theorem Represents.insert_tableRow (h : a.Represents m) (id : String) (x : Snapshot) :
    tableSchema.insert a.tables (tableRow (rowId a.drawn) id x) =
      if Text.lowercase x.table ∈ (m.snapshotsOf id).map (·.table) then .error Store.tableTwice
      else .ok (a.tables ++ [tableRow (rowId a.drawn) id x]) := by
  let row := tableRow (rowId a.drawn) id x
  have hrequired : tableSchema.required.find? (fun c => row.cell c == .null) = none := rfl
  have hkey : a.tables.any (fun r => r.select ["id"] == row.select ["id"]) = false :=
    any_select_id fun r hr => (h.tableIds r hr).ne
  have hname : a.tables.any
      (fun r => r.select ["datasource_id", "name"] == row.select ["datasource_id", "name"]) =
      decide (Text.lowercase x.table ∈ (m.snapshotsOf id).map (·.table)) := by
    rw [Bool.eq_iff_iff, decide_eq_true_iff, ← mem_name (h.tables id), List.any_eq_true]
    simp [Row.select, row, ownedBy, and_assoc]
  rw [TableSchema.insert, TableSchema.refusal?, hrequired]
  by_cases hmem : Text.lowercase x.table ∈ (m.snapshotsOf id).map (·.table)
  · have hkeys : tableSchema.keys.find?
        (fun key => a.tables.any fun r => r.select key == row.select key) =
        some ["datasource_id", "name"] := by
      rw [tableSchema, List.find?_cons, hkey, List.find?_cons, hname, decide_eq_true hmem]
    rw [hkeys, if_pos hmem]
    rfl
  · have hkeys : tableSchema.keys.find?
        (fun key => a.tables.any fun r => r.select key == row.select key) = none := by
      rw [tableSchema, List.find?_cons, hkey, List.find?_cons, hname, decide_eq_false hmem]
      rfl
    rw [hkeys, if_neg hmem]
    rfl

theorem Represents.any_hasId (h : a.Represents m) (id : String) :
    a.datasources.any (hasId id) = (m id).isSome := by
  have hfind := h.datasources id
  cases hm : m id with
  | none =>
    rw [hm] at hfind
    rw [Option.isSome_none, List.any_eq_false]
    exact List.find?_eq_none.1 hfind
  | some e =>
    rw [hm] at hfind
    rw [Option.isSome_some, List.any_eq_true]
    exact ⟨_, List.mem_of_find?_eq_some hfind, List.find?_some hfind⟩

theorem Represents.insertTable_of_none (h : a.Represents m) (hm : m id = none) (x : Snapshot) :
    insertTable id a x = .error noOwner := by
  have hinsert := h.insert_tableRow id x
  rw [Ledger.snapshotsOf_of_none hm, List.map_nil] at hinsert
  rw [insertTable, hinsert, if_neg List.not_mem_nil, ok_bind, h.any_hasId, hm]
  rfl

theorem Represents.insertTable_of_mem (h : a.Represents m) {x : Snapshot}
    (hx : Text.lowercase x.table ∈ (m.snapshotsOf id).map (·.table)) :
    insertTable id a x = .error Store.tableTwice := by
  rw [insertTable, h.insert_tableRow, if_pos hx]
  rfl

/-- Columns of a new table are part of that table only, and it had none before. -/
theorem Represents.columns_append (h : a.Represents m) {rows : List Row}
    {cs : List (ColumnInfo × Nat)} (hrows : List.Forall₂ (IsColumn (rowId a.drawn)) rows cs) :
    (a.columns ++ rows).filter (isPartOf (rowId a.drawn)) = rows ∧
      ∀ r ∈ a.tables, ∀ key, r.cell "id" = .text key →
        (a.columns ++ rows).filter (isPartOf key) = a.columns.filter (isPartOf key) := by
  constructor
  · have hnone : a.columns.filter (isPartOf (rowId a.drawn)) = [] := by
      rw [List.filter_eq_nil_iff]
      intro c hc hpart
      exact (h.columnIds c hc).2.ne (beq_iff_eq.1 hpart)
    rw [List.filter_append, hnone, filter_isPartOf hrows, if_pos rfl, List.nil_append]
  · intro r hr key hkey
    have hne : rowId a.drawn ≠ key := by
      rintro rfl
      exact (h.tableIds r hr).ne hkey
    rw [List.filter_append, filter_isPartOf hrows, if_neg hne, List.append_nil]

/-- A table with its columns is taken in behind the tables that are there. -/
theorem Represents.insertTable (h : a.Represents m) (he : m id = some e) {x : Snapshot}
    (hx : Text.lowercase x.table ∉ e.snapshots.map (·.table)) :
    ∃ b, Archive.insertTable id a x = .ok b ∧
      b.Represents (m.set id { e with snapshots := e.snapshots ++ [Store.stored x] }) := by
  have hsnapshots := Ledger.snapshotsOf_of_some he
  let row := tableRow (rowId a.drawn) id x
  let next : Archive := { a with tables := a.tables ++ [row], drawn := a.drawn + 1 }
  have hids : ∀ r ∈ next.columns, next.IsDrawn (r.cell "id") :=
    fun r hr => (h.columnIds r hr).1.mono (Nat.le_succ a.drawn)
  have htable : next.tables.any (hasId (rowId a.drawn)) = true := by
    rw [List.any_eq_true]
    exact ⟨row, List.mem_append_right a.tables (List.mem_singleton_self row), by simp [hasId, row]⟩
  obtain ⟨rows, n, hrows, hn, hcolumns, hdrawn⟩ :=
    insertColumns_eq x.columns.zipIdx hids htable
  have hlt : a.drawn < n := hn
  let b : Archive := { next with columns := a.columns ++ rows, drawn := n }
  have hb : Archive.insertTable id a x = .ok b := by
    rw [Archive.insertTable, h.insert_tableRow, hsnapshots, if_neg hx, ok_bind, h.any_hasId, he]
    exact hrows
  obtain ⟨hnew, hold⟩ := h.columns_append hcolumns
  have hrow : b.Holds id row (Store.stored x) := ⟨rowId a.drawn, x, rfl, rfl, hnew.symm ▸ hcolumns⟩
  refine ⟨b, hb, h.setSnapshots he rfl (fun other => ?_) ?_ ?_ ?_⟩
  · have hkept : List.Forall₂ (b.Holds other) (a.tables.filter (ownedBy other))
        (m.snapshotsOf other) :=
      h.tables_frame other fun r hr => hold r (List.mem_filter.1 hr).1
    rw [List.filter_append]
    split
    · next hother =>
      subst hother
      rw [← hsnapshots]
      have hown : [row].filter (ownedBy other) = [row] := by simp [row]
      rw [hown]
      exact List.rel_append hkept (.cons hrow .nil)
    · next hother =>
      have hown : [row].filter (ownedBy other) = [] := by simp [row, Ne.symm hother]
      rw [hown, List.append_nil]
      exact hkept
  · rw [List.map_append, List.nodup_append]
    refine ⟨h.apart, List.nodup_singleton _, ?_⟩
    rintro c hc _ hrow rfl
    obtain ⟨r, hr, rfl⟩ := List.mem_map.1 hc
    exact (h.tableIds r hr).ne (by simpa [row] using hrow)
  · intro r hr
    rcases List.mem_append.1 hr with hr | hr
    · exact (h.tableIds r hr).mono (Nat.le_of_lt hlt)
    · rw [List.mem_singleton.1 hr]
      exact ⟨a.drawn, hlt, rfl⟩
  · intro r hr
    rcases List.mem_append.1 hr with hr | hr
    · exact ⟨(h.columnIds r hr).1.mono (Nat.le_of_lt hlt),
        (h.columnIds r hr).2.mono (Nat.le_of_lt hlt)⟩
    · refine ⟨hdrawn r hr, ?_⟩
      rw [cell_table_of_isColumn hcolumns r hr]
      exact ⟨a.drawn, hlt, rfl⟩

/-- The tables of a snapshot are taken in one after the other, up to one whose name comes twice. -/
theorem Represents.insertTables (xs : List Snapshot) (h : a.Represents m) (he : m id = some e)
    (hdone : (e.snapshots.map (·.table)).Nodup) :
    ((e.snapshots.map (·.table) ++ Ledger.names xs).Nodup ∧
      ∃ b, xs.foldlM (Archive.insertTable id) a = .ok b ∧
        b.Represents (m.set id { e with snapshots := e.snapshots ++ xs.map Store.stored })) ∨
    (¬(e.snapshots.map (·.table) ++ Ledger.names xs).Nodup ∧
      xs.foldlM (Archive.insertTable id) a = .error Store.tableTwice) := by
  -- archive, ledger and entry go along: the entry holds the tables that have been taken in so far
  induction xs generalizing a m e with
  | nil =>
    have hset : m.set id e = m := by
      funext other
      by_cases hother : other = id
      · rw [hother, Ledger.set_self, he]
      · rw [Ledger.set_of_ne hother]
    refine .inl ⟨?_, a, rfl, ?_⟩
    · rw [Ledger.names, List.map_nil, List.append_nil]
      exact hdone
    · rw [List.map_nil, List.append_nil, hset]
      exact h
  | cons x xs ih =>
    rw [List.foldlM_cons]
    by_cases hx : Text.lowercase x.table ∈ e.snapshots.map (·.table)
    · refine .inr ⟨fun hnodup => ?_, ?_⟩
      · have hapart := (List.nodup_append.1 hnodup).2.2
        exact hapart _ hx _ List.mem_cons_self rfl
      · have hmem : Text.lowercase x.table ∈ (m.snapshotsOf id).map (·.table) := by
          rw [Ledger.snapshotsOf_of_some he]
          exact hx
        rw [h.insertTable_of_mem hmem]
        rfl
    · obtain ⟨b, hb, hrep⟩ := h.insertTable he hx
      rw [hb, ok_bind]
      have hdone' : ((e.snapshots ++ [Store.stored x]).map (·.table)).Nodup := by
        rw [List.map_append, List.nodup_append]
        refine ⟨hdone, List.nodup_singleton _, ?_⟩
        rintro t ht _ hsingle rfl
        rw [List.mem_singleton.1 hsingle] at ht
        exact hx ht
      have hrest := ih hrep Ledger.set_self hdone'
      have hnames : (e.snapshots ++ [Store.stored x]).map (·.table) ++ Ledger.names xs =
          e.snapshots.map (·.table) ++ Ledger.names (x :: xs) := by
        rw [List.map_append, List.append_assoc]
        rfl
      rw [hnames, Ledger.set_set] at hrest
      rw [List.map_cons, List.append_cons]
      exact hrest

/-- Replacing a snapshot replaces it in the ledger; a refusal leaves every row as it was. -/
theorem Represents.replace (h : a.Represents m) (id : String) (xs : List Snapshot) :
    (a.replace id xs).1 = (m.replace id xs).1 ∧
      (a.replace id xs).2.Represents (m.replace id xs).2 ∧
      ((m.replace id xs).1 ≠ .ok () → (a.replace id xs).2 = a) := by
  rw [Archive.replace, Ledger.replace]
  cases hm : m id with
  | none =>
    rw [h.deleteTables_of_none hm]
    cases xs with
    | nil => exact ⟨rfl, h, fun _ => rfl⟩
    | cons x xs =>
      rw [List.foldlM_cons, h.insertTable_of_none hm]
      exact ⟨rfl, h, fun _ => rfl⟩
  | some e =>
    -- the old snapshot is gone before the first table comes, and back if one of them is refused
    rcases (h.deleteTables hm).insertTables xs Ledger.set_self List.nodup_nil with
      ⟨hnodup, b, hb, hrep⟩ | ⟨hnodup, herror⟩
    · rw [hb]
      rw [Ledger.set_set] at hrep
      simp only [if_pos (show (Ledger.names xs).Nodup from hnodup)]
      exact ⟨trivial, hrep, fun hne => absurd rfl hne⟩
    · rw [herror]
      simp only [if_neg (show ¬(Ledger.names xs).Nodup from hnodup)]
      exact ⟨trivial, h, fun _ => trivial⟩

end Archive

end QueryDesk
