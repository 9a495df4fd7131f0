import QueryDesk.Proofs.Schema.Composition
import QueryDesk.Proofs.Schema.References

/-!
# Foreign keys

A catalog lists a reference for each foreign key that a column is part of. A column of a snapshot has
room for one of them and keeps the one that is listed last. The column where that one leads is told of
it; where only earlier ones lead, nothing is told.

Main statement: `Catalog.told_iff_last_reference`.
-/

namespace QueryDesk

/-- The column that a reference leads from, the table in lower case. -/
def CatalogReference.origin (r : CatalogReference) : ColumnRef :=
  ⟨Text.lowercase r.table, r.column⟩

namespace Catalog

variable {c : Catalog} {now : Instant}

/-- The catalog lists the table, given in lower case, and the column. -/
def HasColumn (c : Catalog) (column : ColumnRef) : Prop :=
  (∃ t ∈ c.tables, Text.lowercase t = column.table) ∧
    ∃ col ∈ c.columns, Text.lowercase col.table = column.table ∧ col.name = column.field

instance (c : Catalog) (column : ColumnRef) : Decidable (c.HasColumn column) :=
  inferInstanceAs (Decidable (_ ∧ _))

/-! ### Columns of composed snapshots -/

theorem mem_compose {s : Snapshot} :
    s ∈ c.compose now ↔ ∃ t ∈ c.tables, c.snapshotOf now t = s := by
  rw [compose_eq_map, List.mem_map]

theorem mem_columns_snapshotOf {t : String} {i : ColumnInfo} :
    i ∈ (c.snapshotOf now t).columns ↔
      ∃ col ∈ c.columns, Text.lowercase col.table = Text.lowercase t ∧
        c.info (Text.lowercase t) col = i := by
  simp [snapshotOf, (keysFirst_perm _).mem_iff, columnsOf_eq_map, rowsOf, and_assoc]

theorem hasColumn_iff {column : ColumnRef} :
    c.HasColumn column ↔
      ∃ s ∈ c.compose now, ∃ i ∈ s.columns, s.refTo i = column := by
  constructor
  · rintro ⟨⟨t, ht, htable⟩, col, hcol, hlower, hname⟩
    refine ⟨c.snapshotOf now t, mem_compose.2 ⟨t, ht, rfl⟩, c.info (Text.lowercase t) col,
      mem_columns_snapshotOf.2 ⟨col, hcol, hlower.trans htable.symm, rfl⟩, ?_⟩
    rw [Snapshot.refTo]
    exact congrArg₂ ColumnRef.mk htable hname
  · rintro ⟨s, hs, i, hi, rfl⟩
    obtain ⟨t, ht, rfl⟩ := mem_compose.1 hs
    obtain ⟨col, hcol, hlower, rfl⟩ := mem_columns_snapshotOf.1 hi
    exact ⟨⟨t, ht, rfl⟩, col, hcol, hlower, rfl⟩

theorem reference_eq {s : Snapshot} (hs : s ∈ c.compose now) {i : ColumnInfo} (hi : i ∈ s.columns) :
    i.reference = (c.lastReference? s.table i.name).map (·.target) := by
  obtain ⟨t, -, rfl⟩ := mem_compose.1 hs
  exact (c.composed_snapshotOf now t).reference i hi

theorem exists_lastReference {r : CatalogReference} (h : r ∈ c.references) :
    ∃ last, c.lastReference? r.origin.table r.origin.field = some last := by
  rw [lastReference?, ← Option.isSome_iff_exists, List.getLast?_isSome]
  have hmem : r ∈ c.references.filter (·.leadsFrom r.origin.table r.origin.field) :=
    List.mem_filter.2 ⟨h, by simp [CatalogReference.leadsFrom, CatalogReference.origin]⟩
  exact List.ne_nil_of_mem hmem

/-! ### Both ends -/

/-- A column is told of another one exactly if the last reference of that one leads to a column of
its name. -/
theorem mem_referencedBy {s : Snapshot} (hs : s ∈ c.snapshots now) {f : ColumnInfo}
    (hf : f ∈ s.columns) {origin : ColumnRef} :
    origin ∈ f.referencedBy ↔ c.HasColumn origin ∧
      ∃ last, c.lastReference? origin.table origin.field = some last ∧
        last.target.key = (s.refTo f).key := by
  rw [References.mem_referencedBy hs hf, hasColumn_iff]
  constructor
  · rintro ⟨t, ht, i, hi, rfl, target, htarget, hkey⟩
    rw [reference_eq ht hi] at htarget
    obtain ⟨last, hlast, rfl⟩ := Option.map_eq_some_iff.1 htarget
    exact ⟨⟨t, ht, i, hi, rfl⟩, last, hlast, hkey⟩
  · rintro ⟨⟨t, ht, i, hi, rfl⟩, last, hlast, hkey⟩
    refine ⟨t, ht, i, hi, rfl, last.target, ?_, hkey⟩
    rw [reference_eq ht hi]
    exact congrArg (Option.map _) hlast

/-- A reference between two columns of the catalog shows at the column it leads to exactly if the
last reference that leads from the same column leads to a column of the same name. So no column
loses its last reference. -/
theorem told_iff_last_reference (c : Catalog) (now : Instant) {r : CatalogReference}
    (listed : r ∈ c.references) (leaving : c.HasColumn r.origin) (arriving : c.HasColumn r.target) :
    ∃ last, c.lastReference? r.origin.table r.origin.field = some last ∧
      (∃ s ∈ c.snapshots now, ∃ f ∈ s.columns, s.refTo f = r.target) ∧
      ∀ s ∈ c.snapshots now, ∀ f ∈ s.columns, s.refTo f = r.target →
        (r.origin ∈ f.referencedBy ↔ last.target.key = r.target.key) := by
  obtain ⟨last, hlast⟩ := exists_lastReference listed
  refine ⟨last, hlast, ?_, fun s hs f hf hto => ?_⟩
  · obtain ⟨s, hs, i, hi, hto⟩ := hasColumn_iff.1 arriving
    rw [← hto]
    exact References.exists_of_mem hs hi
  · rw [mem_referencedBy hs hf, hto]
    constructor
    · rintro ⟨-, other, hother, hkey⟩
      rw [hlast, Option.some.injEq] at hother
      rw [hother, hkey]
    · exact fun hkey => ⟨leaving, last, hlast, hkey⟩

/-- Orders of users, whose users are members too. -/
def membership : Catalog where
  tables := ["Users", "Members", "Orders"]
  columns := [⟨"Users", "id", "int"⟩, ⟨"Members", "id", "int"⟩, ⟨"Orders", "user", "int"⟩]
  primaryKeys := [("Users", "id"), ("Members", "id")]
  references := [⟨"Orders", "user", "Users", "id"⟩, ⟨"Orders", "user", "Members", "id"⟩]

theorem told_iff_last_reference_membership :
    let r : CatalogReference := ⟨"Orders", "user", "Members", "id"⟩
    r ∈ membership.references ∧ membership.HasColumn r.origin ∧ membership.HasColumn r.target ∧
      ∃ s ∈ membership.snapshots ⟨0, 0⟩, ∃ f ∈ s.columns, s.refTo f = r.target ∧
        r.origin ∈ f.referencedBy := by
  intro r
  have listed : r ∈ membership.references := by decide
  have leaving : membership.HasColumn r.origin := by decide +kernel
  have arriving : membership.HasColumn r.target := by decide +kernel
  refine ⟨listed, leaving, arriving, ?_⟩
  obtain ⟨last, hlast, ⟨s, hs, f, hf, hto⟩, htold⟩ :=
    told_iff_last_reference membership ⟨0, 0⟩ listed leaving arriving
  have hr : membership.lastReference? r.origin.table r.origin.field = some r := by decide +kernel
  rw [hr, Option.some.injEq] at hlast
  exact ⟨s, hs, f, hf, hto, (htold s hs f hf hto).2 (by rw [hlast])⟩

/-- The column of the users is not told of the orders. -/
theorem first_reference_lost :
    let r : CatalogReference := ⟨"Orders", "user", "Users", "id"⟩
    (membership.tables.map Text.lowercase).Nodup ∧
      (∀ t ∈ membership.tables, ((membership.rowsOf (Text.lowercase t)).map (·.name)).Nodup) ∧
      r ∈ membership.references ∧ membership.HasColumn r.origin ∧ membership.HasColumn r.target ∧
      ∃ s ∈ membership.snapshots ⟨0, 0⟩, ∃ f ∈ s.columns, s.refTo f = r.target ∧
        r.origin ∉ f.referencedBy := by
  intro r
  have arriving : membership.HasColumn r.target := by decide +kernel
  refine ⟨by decide +kernel, by decide +kernel, by decide, by decide +kernel, arriving, ?_⟩
  obtain ⟨s, hs, i, hi, hto⟩ := hasColumn_iff.1 arriving
  obtain ⟨s', hs', f, hf, hto'⟩ := References.exists_of_mem hs hi
  refine ⟨s', hs', f, hf, hto'.trans hto, fun htold => ?_⟩
  obtain ⟨-, last, hlast, hkey⟩ := (mem_referencedBy hs' hf).1 htold
  have hsecond : membership.lastReference? r.origin.table r.origin.field =
      some ⟨"Orders", "user", "Members", "id"⟩ := by decide +kernel
  rw [hsecond, Option.some.injEq] at hlast
  rw [← hlast, hto', hto] at hkey
  revert hkey
  decide +kernel

end Catalog

end QueryDesk
