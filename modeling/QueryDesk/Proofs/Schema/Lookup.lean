import QueryDesk.Proofs.Schema.References
import QueryDesk.Proofs.Text.Case
import QueryDesk.Query.Plan

/-!
# The spelling of a table

Archived tables go by names in lower case, their columns by names as they are. A full name that is
not found as it is written is looked up in lower case, the name of its column with that of its table.
So a request may spell a table as it likes only where the name of the column is in lower case itself;
elsewhere nothing is found, or a column whose name differs in case.

Main statement: `Schema.lookup_spelled`.
-/

namespace QueryDesk

/-- Tables without points in their names are told apart by full names. -/
theorem ColumnRef.key_injective {a b : ColumnRef} (ha : '.' ∉ a.table.toList)
    (hb : '.' ∉ b.table.toList) (h : a.key = b.key) : a = b := by
  have hcut : Text.cutAt '.' a.key.toList = Text.cutAt '.' b.key.toList := by rw [h]
  rw [a.toList_key, b.toList_key, Text.cutAt_append ha, Text.cutAt_append hb, Option.some.injEq,
    Prod.mk.injEq, String.toList_inj, String.toList_inj] at hcut
  obtain ⟨atable, afield⟩ := a
  obtain ⟨rfl, rfl⟩ : atable = b.table ∧ afield = b.field := hcut
  rfl

namespace Schema

/-- Distinct tables with names in lower case and without points, each with distinct columns. -/
structure WellNamed (s : Schema) : Prop where
  tables : (s.tables.map (·.table)).Nodup
  lower : ∀ t ∈ s.tables, Text.lowercase t.table = t.table
  undotted : ∀ t ∈ s.tables, '.' ∉ t.table.toList
  columns : ∀ t ∈ s.tables, (t.columns.map (·.name)).Nodup

variable {s : Schema} {t : Snapshot} {c : ColumnInfo} {full spelling : String}

/-! ### Exact names -/

theorem mem_entries {e : String × ColumnInfo} :
    e ∈ s.entries ↔ ∃ t ∈ s.tables, e.2 ∈ t.columns ∧ (t.refTo e.2).key = e.1 := by
  simp only [entries, List.mem_flatMap, List.mem_map]
  constructor
  · rintro ⟨t, ht, c, hc, rfl⟩
    exact ⟨t, ht, hc, rfl⟩
  · rintro ⟨t, ht, hc, hkey⟩
    exact ⟨t, ht, e.2, hc, by rw [hkey]⟩

theorem keys_entries (s : Schema) :
    s.entries.map (·.1) = (References.columns s.tables).map (·.key) := by
  simp only [entries, References.columns, List.map_flatMap, List.map_map]
  rfl

namespace WellNamed

theorem nodup_keys (h : s.WellNamed) : (s.entries.map (·.1)).Nodup := by
  rw [keys_entries]
  refine List.Nodup.map_on (fun a ha b hb => ?_) (References.nodup_columns h.tables h.columns)
  obtain ⟨t, ht, hat⟩ := List.mem_flatMap.1 ha
  obtain ⟨u, hu, hbu⟩ := List.mem_flatMap.1 hb
  obtain ⟨c, -, rfl⟩ := List.mem_map.1 hat
  obtain ⟨d, -, rfl⟩ := List.mem_map.1 hbu
  exact ColumnRef.key_injective (h.undotted t ht) (h.undotted u hu)

/-- An exact name is the name of the column that it finds, and finds every column of that name. -/
theorem named?_eq_some_iff (h : s.WellNamed) :
    s.named? full = some c ↔ ∃ t ∈ s.tables, c ∈ t.columns ∧ (t.refTo c).key = full := by
  have hfound : ∀ {d}, s.named? full = some d → (full, d) ∈ s.entries := fun {d} hd => by
    obtain ⟨before, behind, hsplit, -⟩ := List.lookup_eq_some_iff.1 hd
    have hmem : (full, d) ∈ s.entries.reverse := by rw [hsplit]; simp
    exact List.mem_reverse.1 hmem
  refine ⟨fun hc => mem_entries.1 (hfound hc), fun hc => ?_⟩
  have hmem : (full, c) ∈ s.entries := mem_entries.2 hc
  cases hd : s.named? full with
  | none =>
    have hne := List.lookup_eq_none_iff.1 hd (full, c) (List.mem_reverse.2 hmem)
    simp at hne
  | some d =>
    have hsame := List.inj_on_of_nodup_map h.nodup_keys (hfound hd) hmem rfl
    rw [(Prod.mk.inj hsame).2]

/-! ### Other spellings of a table -/

/-- In another spelling of its table a column has no exact name. -/
theorem named?_spelled_eq_none (h : s.WellNamed) (ht : t ∈ s.tables)
    (hspelling : Text.lowercase spelling = t.table) (hne : spelling ≠ t.table) (field : String) :
    s.named? (ColumnRef.key ⟨spelling, field⟩) = none := by
  have hpoint : '.' ∉ spelling.toList := fun hmem => h.undotted t ht <| by
    have hlow : Text.IsLow '.' := Text.isLow_ascii (c := '.') (by decide)
    rw [← hspelling, Text.lowercase, String.toList_ofList]
    exact Text.mem_lowerFrom hlow [] hmem
  rw [Option.eq_none_iff_forall_ne_some]
  intro found hfound
  obtain ⟨u, hu, -, hkey⟩ := h.named?_eq_some_iff.1 hfound
  have hsame := ColumnRef.key_injective (h.undotted u hu) hpoint hkey
  have htable : u.table = spelling := congrArg ColumnRef.table hsame
  exact hne (by rw [← hspelling, ← htable, h.lower u hu])

/-- A full name finds what has that name exactly, in another spelling of the table what has its lower
case for a name. -/
theorem lookup?_spelled_iff (h : s.WellNamed) (ht : t ∈ s.tables) (hc : c ∈ t.columns)
    (hspelling : Text.lowercase spelling = t.table) {found : ColumnInfo} :
    s.lookup? (ColumnRef.key ⟨spelling, c.name⟩) = some found ↔
      ∃ u ∈ s.tables, found ∈ u.columns ∧ (u.refTo found).key =
        if spelling = t.table then ColumnRef.key ⟨spelling, c.name⟩
        else Text.lowercase (ColumnRef.key ⟨spelling, c.name⟩) := by
  rw [← h.named?_eq_some_iff, lookup?]
  split
  · rename_i hsame
    have hnamed : s.named? (ColumnRef.key ⟨spelling, c.name⟩) = some c :=
      h.named?_eq_some_iff.2 ⟨t, ht, hc, by rw [hsame, Snapshot.refTo]⟩
    rw [hnamed, Option.some_or]
  · rename_i hne
    rw [h.named?_spelled_eq_none ht hspelling hne, Option.none_or]

end WellNamed

/-- The lower case of a full name whose table is spelled without a capital sigma: that of the table, and
that of the column behind it. -/
theorem lowercase_key_eq_iff (hspelling : Text.lowercase spelling = t.table)
    (hsigma : 'Σ' ∉ spelling.toList) :
    Text.lowercase (ColumnRef.key ⟨spelling, c.name⟩) = (t.refTo c).key ↔
      Text.lowercase c.name = c.name := by
  have htable : Text.lowerFrom [] spelling.toList = t.table.toList := by
    rw [← hspelling, Text.lowercase, String.toList_ofList]
  have hpoint (before cs : List Char) :
      Text.lowerFrom before ('.' :: cs) = '.' :: Text.lowerFrom ('.' :: before) cs := rfl
  rw [← String.toList_inj, Text.lowercase, String.toList_ofList, ColumnRef.toList_key,
    ColumnRef.toList_key, Text.lowerFrom_append hsigma, hpoint, htable]
  rw [Snapshot.refTo, List.append_cancel_left_eq, List.cons.injEq, and_iff_right rfl,
    Text.lowerFrom_eq_self_iff, Text.lowercase_eq_self_iff]

/-! ### What a lookup decides -/

/-- Whatever is asked about a full name is answered by one column: its type, what a filter becomes,
whether a search goes through it, and what a result tells of it. -/
structure Answers (s : Schema) (full : String) (c : ColumnInfo) : Prop where
  found : s.lookup? full = some c
  declared : s.declared? full = some c.declared
  isText : s.isText full = ColumnKind.isText c.declared
  plain : ∀ f : ClientFilter, f.column = full → f.advanced = false →
    f.toFilter s = .ok
      { Filter.on full (if ColumnKind.isText c.declared then .like else .eq)
          [.literal (.text f.value)] with
        id := f.id
        function := f.function }
  advanced : ∀ f : ClientFilter, f.column = full → f.advanced = true →
    f.toFilter s = match Notation.read f.value (some c.declared) with
      | .ok r => .ok { r.toFilter full with id := f.id, function := f.function }
      | .error e => .error (f.unreadable e)
  searched : ∀ columns : List SelectedColumn, full ∈ SelectPlan.searchable columns s ↔
    (∃ k ∈ columns, k.function = none ∧ k.value = full) ∧ ColumnKind.isText c.declared = true
  enriched : ∀ (r : ResultColumn) (selected : List SelectedColumn), r.full = full →
    (∀ k ∈ selected, k.function = none ∨ k.resultAlias ≠ r.resultAlias) →
    r.enriched selected s =
      { r with
        declared := some c.declared
        reference := if c.isPrimary then some ⟨r.table, r.column⟩ else c.reference
        referencedBy := c.referencedBy }

theorem answers_of_lookup? (h : s.lookup? full = some c) : s.Answers full c := by
  have hdeclared : s.declared? full = some c.declared := by rw [declared?, h, Option.map_some]
  have htext : s.isText full = ColumnKind.isText c.declared := by
    rw [isText, hdeclared, Option.any_some]
  refine ⟨h, hdeclared, htext, fun f hf hplain => ?_, fun f hf hadvanced => ?_, fun columns => ?_,
    fun r selected hr hnone => ?_⟩
  · rw [ClientFilter.toFilter, hplain, hf, hdeclared, Operator.default, Option.any_some]
    rfl
  · rw [ClientFilter.toFilter, hf, hdeclared, if_pos hadvanced]
    cases Notation.read f.value (some c.declared) <;> rfl
  · simp only [SelectPlan.searchable, List.mem_map, List.mem_filter, Bool.and_eq_true,
      Option.isNone_iff_eq_none, ← htext]
    constructor
    · rintro ⟨k, ⟨hk, hfunction, hkey⟩, rfl⟩
      exact ⟨⟨k, hk, hfunction, rfl⟩, hkey⟩
    · rintro ⟨⟨k, hk, hfunction, rfl⟩, hkey⟩
      exact ⟨k, ⟨hk, hfunction, hkey⟩, rfl⟩
  · have hfind : selected.find? (fun k => k.function.isSome && k.resultAlias == r.resultAlias) =
        none := by
      refine List.find?_eq_none.2 fun k hk => ?_
      rcases hnone k hk with hfunction | halias
      · simp [hfunction]
      · simp [halias]
    rw [ResultColumn.enriched, hfind, hr, h]

/-- What comes of asking for a column `c` of `t` under some spelling of the table. -/
structure Spelled (s : Schema) (t : Snapshot) (c : ColumnInfo) (spelling asked : String) : Prop where
  found_iff : ∀ found, s.lookup? asked = some found ↔ ∃ u ∈ s.tables, found ∈ u.columns ∧
    (u.refTo found).key = if spelling = t.table then asked else Text.lowercase asked
  answers : spelling = t.table ∨ Text.lowercase asked = (t.refTo c).key → s.Answers asked c
  missed : spelling ≠ t.table → Text.lowercase asked ≠ (t.refTo c).key →
    ∀ found, s.lookup? asked = some found →
      ∃ u ∈ s.tables, found ∈ u.columns ∧ u.refTo found ≠ t.refTo c
  lower_iff : 'Σ' ∉ spelling.toList →
    (Text.lowercase asked = (t.refTo c).key ↔ Text.lowercase c.name = c.name)

/-- Found is the column whose full name was asked for, or is its lower case if the table is not
spelled in lower case. So the column itself answers to its own name, and to any other spelling of its
table if the whole name in lower case is its name; otherwise none answers, or another one. Unless a
spelling has a capital sigma, it is the columns in lower case that answer to it. -/
theorem lookup_spelled (h : s.WellNamed) (ht : t ∈ s.tables) (hc : c ∈ t.columns)
    (hspelling : Text.lowercase spelling = t.table) :
    s.Spelled t c spelling (ColumnRef.key ⟨spelling, c.name⟩) where
  found_iff _ := h.lookup?_spelled_iff ht hc hspelling
  answers hreached := by
    refine answers_of_lookup? ((h.lookup?_spelled_iff ht hc hspelling).2 ⟨t, ht, hc, ?_⟩)
    by_cases hsame : spelling = t.table
    · rw [if_pos hsame, hsame, Snapshot.refTo]
    · rw [if_neg hsame, hreached.resolve_left hsame]
  missed hne hother found hfound := by
    obtain ⟨u, hu, hmem, hkey⟩ := (h.lookup?_spelled_iff ht hc hspelling).1 hfound
    rw [if_neg hne] at hkey
    exact ⟨u, hu, hmem, fun hsame => hother (by rw [← hkey, hsame])⟩
  lower_iff := lowercase_key_eq_iff hspelling

/-- People, with two columns that differ in case. -/
def users : Snapshot where
  table := "users"
  columns := [⟨"id", "int", true, none, []⟩, ⟨"Name", "varchar", false, none, []⟩,
    ⟨"name", "int", false, none, []⟩, ⟨"Nick", "text", false, none, []⟩]
  createdAt := ⟨0, 0⟩
  updatedAt := ⟨0, 0⟩

/-- People, and roads under a name that ends in a final sigma. -/
def mixed : Schema := ⟨[users, ⟨"οδος", [⟨"id", "int", true, none, []⟩], ⟨0, 0⟩, ⟨0, 0⟩⟩]⟩

theorem wellNamed_mixed : mixed.WellNamed := by
  constructor <;> decide +kernel

theorem lookup_spelled_mixed :
    mixed.Spelled users ⟨"id", "int", true, none, []⟩ "Users" (ColumnRef.key ⟨"Users", "id"⟩) ∧
    mixed.Answers (ColumnRef.key ⟨"Users", "id"⟩) ⟨"id", "int", true, none, []⟩ := by
  have hid := lookup_spelled wellNamed_mixed
    (show users ∈ mixed.tables from List.mem_cons_self)
    (show ⟨"id", "int", true, none, []⟩ ∈ users.columns from List.mem_cons_self)
    (show Text.lowercase "Users" = users.table by decide +kernel)
  exact ⟨hid, hid.answers (.inr ((hid.lower_iff (by decide)).2 (by decide +kernel)))⟩

/-- Under another spelling of the table a column in mixed case is missed, or taken for one that differs
from it in case; so is a column in lower case, where the end of the table's name comes out another way
in front of the point. -/
theorem spelled_table_missed :
    mixed.WellNamed ∧
    Text.lowercase "Users" = "users" ∧ Text.lowercase "ΟΔΟΣ" = "οδος" ∧
    mixed.lookup? "users.Name" = some ⟨"Name", "varchar", false, none, []⟩ ∧
    mixed.lookup? "Users.Name" = some ⟨"name", "int", false, none, []⟩ ∧
    mixed.lookup? "users.Nick" = some ⟨"Nick", "text", false, none, []⟩ ∧
    mixed.lookup? "Users.Nick" = none ∧
    mixed.lookup? "οδος.id" = some ⟨"id", "int", true, none, []⟩ ∧
    mixed.lookup? "ΟΔΟΣ.id" = none :=
  ⟨wellNamed_mixed, by decide +kernel⟩

end Schema

end QueryDesk
