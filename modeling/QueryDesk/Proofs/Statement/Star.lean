import QueryDesk.Proofs.Statement.Scan
import QueryDesk.Statement.Expression

/-!
# Stars in a selection

A reference stands for all columns when it ends in a star outside quotes. Such is the bare star, and
any reference with a star behind its first point. Main statement: a bare star that is not counted has
no function; and of the entries of a selection that stand for all columns, those are well formed that
are a bare star or a count without DISTINCT. A star behind the name of a table gets an alias, or any
function, as if it were a column.
-/

namespace QueryDesk

namespace Dialect

/-- The text ends in a star that stands outside quotes. -/
def EndsInStar (d : Dialect) (t : String) : Prop :=
  ∃ segments u, d.scan t = some (segments ++ [.text u]) ∧ u.toList.getLast? = some '*'

/-- What a reference names last: what stands behind its first point, or all of it. -/
def lastName (reference : String) : String :=
  match Text.splitFirst '.' reference with
  | some (_, name) => name
  | none => reference

variable {d : Dialect}

/-! ### Where the scan of a reference ends -/

theorem quote_ne (d : Dialect) : d.quote ≠ '*' ∧ d.quote ≠ '.' := by
  cases d <;> decide

theorem foldl_table (d : Dialect) (table : String) : ∃ segments u,
    (d.identifier table ++ ".").toList.foldl (Scan.read d.quote) .start =
      ⟨segments, .outside u⟩ := by
  obtain ⟨hstar, hpoint⟩ := d.quote_ne
  rw [String.toList_append, List.foldl_append, Scan.start, identifier]
  split
  · next htable =>
    rw [htable, Scan.foldl_outside "" (by simpa using hstar),
      Scan.foldl_outside _ (by simpa using hpoint)]
    exact ⟨_, _, rfl⟩
  · rw [Scan.foldl_quoted, Scan.foldl_behind table (by simp) (by simpa using hpoint)]
    exact ⟨_, _, rfl⟩

/-- Where a scan stands outside quotes, the name that comes next ends in a star only if it is one. -/
theorem endsInStar_append_iff {t u : String} {segments : List Segment}
    (h : t.toList.foldl (Scan.read d.quote) .start = ⟨segments, .outside u⟩) (name : String) :
    d.EndsInStar (t ++ d.identifier name) ↔ name = "*" := by
  by_cases hname : name = "*"
  · have hscan : d.scan (t ++ "*") = some (segments ++ [.text (u ++ "*")]) := by
      rw [scan, String.toList_append, List.foldl_append, h,
        Scan.foldl_outside u (by simpa using d.quote_ne.1)]
      rfl
    rw [identifier, if_pos hname, hname]
    exact iff_of_true ⟨segments, u ++ "*", hscan, by simp⟩ rfl
  · have hscan : d.scan (t ++ d.quoted name) =
        some (segments ++ [.text u] ++ [.name name]) := by
      rw [scan, String.toList_append, List.foldl_append, h, Scan.foldl_quoted]
      rfl
    rw [identifier, if_neg hname]
    refine iff_of_false ?_ hname
    rintro ⟨before, v, hv, -⟩
    rw [hscan, Option.some.injEq] at hv
    have hlast := congrArg List.getLast? hv
    simp at hlast

theorem endsInStar_column_iff (d : Dialect) (reference : String) :
    d.EndsInStar (d.column reference) ↔ lastName reference = "*" := by
  rw [column, lastName]
  rcases Text.splitFirst '.' reference with - | ⟨table, name⟩
  · have h := endsInStar_append_iff (d := d) (t := "") rfl reference
    rwa [String.empty_append] at h
  · obtain ⟨segments, u, h⟩ := d.foldl_table table
    exact endsInStar_append_iff h name

theorem column_eq_cons (d : Dialect) (reference : String) :
    ∃ c rest, (d.column reference).toList = c :: rest ∧ (c = '*' ∨ c = d.quote) := by
  have hname : ∀ name : String,
      ∃ c rest, (d.identifier name).toList = c :: rest ∧ (c = '*' ∨ c = d.quote) := by
    intro name
    rw [identifier]
    split
    · next h =>
      rw [h]
      exact ⟨'*', [], by simp, .inl rfl⟩
    · exact ⟨d.quote, _, d.quoted_toList name, .inr rfl⟩
  rw [column]
  rcases Text.splitFirst '.' reference with - | ⟨table, name⟩
  · exact hname reference
  · obtain ⟨c, rest, htable, hc⟩ := hname table
    refine ⟨c, rest ++ ("." ++ d.identifier name).toList, ?_, hc⟩
    simp [htable]

end Dialect

namespace SelectedColumn

variable {d : Dialect} {c : SelectedColumn} {e : String}

/-! ### Entries -/

/-- Everything an entry can be, unless the name of its column is blank: the bare star, a plain
reference or a function of one under an alias; a bare star that has another function than COUNT is
refused. -/
theorem entry_cases (d : Dialect) {c : SelectedColumn} (h : Text.allBlank c.value = false) :
    (c.function = none ∧ c.value = "*" ∧ c.entry d = .ok (d.column c.value)) ∨
    (c.function = none ∧ c.value ≠ "*" ∧
      c.entry d = .ok (d.column c.value ++ " AS " ++ d.quoted c.resultAlias)) ∨
    (∃ f, c.function = some f ∧ (f = .count ∨ c.value ≠ "*") ∧ c.entry d =
      .ok (f.call d (d.column c.value) c.distinct ++ " AS " ++ d.quoted c.resultAlias)) ∨
    (∃ f, c.function = some f ∧ f ≠ .count ∧ c.value = "*" ∧
      c.entry d = .error .starWithoutCount) := by
  simp only [entry, expression, h, Bool.false_eq_true, if_false]
  rcases c.function with - | f
  · by_cases hv : c.value = "*"
    · exact .inl ⟨rfl, hv, by simp only [hv, Option.isNone_none, and_self, if_true]; rfl⟩
    · exact .inr (.inl ⟨rfl, hv, by simp only [hv, and_false, if_false]; rfl⟩)
  · by_cases hrefused : f ≠ .count ∧ c.value = "*"
    · refine .inr (.inr (.inr ⟨f, rfl, hrefused.1, hrefused.2, ?_⟩))
      simp only [if_pos hrefused]
      rfl
    · refine .inr (.inr (.inl ⟨f, rfl, ?_, ?_⟩))
      · rcases Decidable.not_and_iff_not_or_not.1 hrefused with hf | hv
        · exact .inl (Decidable.not_not.1 hf)
        · exact .inr hv
      · simp only [if_neg hrefused, Option.isNone_some, Bool.false_eq_true, false_and, if_false]
        rfl

theorem allBlank_of_star (h : d.EndsInStar (d.column c.value)) : Text.allBlank c.value = false := by
  have hmem : '*' ∈ c.value.toList := by
    have hlast := (d.endsInStar_column_iff c.value).1 h
    rw [Dialect.lastName] at hlast
    cases hcut : Text.splitFirst '.' c.value with
    | none =>
      rw [hcut] at hlast
      simp only at hlast
      simp [hlast]
    | some halves =>
      obtain ⟨⟨a, b⟩, hab, rfl⟩ := Option.map_eq_some_iff.1 hcut
      rw [hcut] at hlast
      have hb : b = ['*'] := by simpa using congrArg String.toList hlast
      rw [(Text.cutAt_eq_some hab).1, hb]
      simp
  rw [Text.allBlank, List.all_eq_false]
  exact ⟨'*', hmem, by decide⟩

/-! ### Well-formed entries -/

/-- An entry that stands for all columns is the reference as it is, or counts it without DISTINCT. -/
inductive StandsForAll (d : Dialect) (c : SelectedColumn) (e : String) : Prop
  | all (plain : c.function = none) (text : e = d.column c.value)
  | count (counted : c.function = some .count) (rest : String)
      (text : e = "COUNT(" ++ d.column c.value ++ ")" ++ rest)

theorem count_call (d : Dialect) (expression : String) :
    ColumnFunction.count.call d expression false = "COUNT(" ++ expression ++ ")" := by
  simp [ColumnFunction.call, ColumnFunction.name]

theorem count_distinct_ne (d : Dialect) (reference rest rest' : String) :
    ColumnFunction.count.call d (d.column reference) true ++ rest ≠
      "COUNT(" ++ d.column reference ++ ")" ++ rest' := by
  intro h
  obtain ⟨q, chars, hchars, hq⟩ := d.column_eq_cons reference
  have hlist := congrArg String.toList h
  simp [ColumnFunction.call, ColumnFunction.name, hchars] at hlist
  obtain ⟨rfl, -⟩ := hlist
  rcases hq with hq | hq
  · cases hq
  · cases d <;> cases hq

/-- Under an alias, a reference alone does not stand for all columns. -/
theorem not_standsForAll_aliased (hf : c.function = none) (name : String) :
    ¬StandsForAll d c (d.column c.value ++ " AS " ++ name) := by
  rintro (⟨-, htext⟩ | ⟨hcount, -⟩)
  · have hlength := congrArg String.length htext
    simp only [String.length_append] at hlength
    have has : " AS ".length = 4 := rfl
    omega
  · rw [hf] at hcount
    cases hcount

/-- A function of a reference stands for all columns only where it counts without DISTINCT. -/
theorem standsForAll_call_iff {f : ColumnFunction} (hf : c.function = some f) (name : String) :
    StandsForAll d c (f.call d (d.column c.value) c.distinct ++ " AS " ++ name) ↔
      f = .count ∧ c.distinct = false := by
  rw [String.append_assoc]
  constructor
  · rintro (⟨hplain, -⟩ | ⟨hcount, rest, htext⟩)
    · rw [hf] at hplain
      cases hplain
    · rw [hf, Option.some.injEq] at hcount
      refine ⟨hcount, Bool.eq_false_iff.2 fun hdistinct => ?_⟩
      rw [hcount, hdistinct] at htext
      exact count_distinct_ne d c.value _ rest htext
  · rintro ⟨hcount, hdistinct⟩
    refine .count (hf.trans (congrArg some hcount)) (" AS " ++ name) ?_
    rw [hcount, hdistinct, count_call]

/-- Of the columns whose reference stands for all, the bare stars with another function than COUNT are
refused, and no others. The entry of one that is not refused is well formed exactly if it is the bare
star without a function, or a count without DISTINCT. -/
theorem star_entry_iff (d : Dialect) (c : SelectedColumn)
    (star : d.EndsInStar (d.column c.value)) :
    ((∃ cause, c.entry d = .error cause) ↔
      c.value = "*" ∧ c.function ≠ none ∧ c.function ≠ some .count) ∧
    ∀ e, c.entry d = .ok e → (StandsForAll d c e ↔
      c.function = none ∧ c.value = "*" ∨ c.function = some .count ∧ c.distinct = false) := by
  have hblank := allBlank_of_star star
  rcases entry_cases d hblank with ⟨hf, hv, he⟩ | ⟨hf, hv, he⟩ | ⟨f, hf, hv, he⟩ |
    ⟨f, hf, hcount, hv, he⟩
  · refine ⟨by simp [he, hf], fun e h => ?_⟩
    rw [he, Except.ok.injEq] at h
    exact iff_of_true (.all hf h.symm) (.inl ⟨hf, hv⟩)
  · refine ⟨by simp [he, hf], fun e h => ?_⟩
    rw [he, Except.ok.injEq] at h
    rw [← h]
    exact iff_of_false (not_standsForAll_aliased hf _) (by simp [hf, hv])
  · refine ⟨?_, fun e h => ?_⟩
    · refine iff_of_false (by simp [he]) ?_
      rintro ⟨hstar, -, hcount⟩
      rcases hv with rfl | hv
      · exact hcount hf
      · exact hv hstar
    · rw [he, Except.ok.injEq] at h
      rw [← h, standsForAll_call_iff hf]
      simp [hf]
  · refine ⟨by simp [he, hf, hv, hcount], fun e h => ?_⟩
    rw [he] at h
    cases h

theorem star_entry_of_quoted_table :
    let c : SelectedColumn := ⟨"we\"ird.*", some .count, false⟩
    Dialect.postgres.EndsInStar (Dialect.postgres.column c.value) ∧
      c.entry .postgres = .ok "COUNT(\"we\"\"ird\".*) AS \"COUNT we\"\"ird.*\"" ∧
      StandsForAll .postgres c "COUNT(\"we\"\"ird\".*) AS \"COUNT we\"\"ird.*\"" := by
  have star := (Dialect.postgres.endsInStar_column_iff "we\"ird.*").2 (by decide)
  have hentry : (⟨"we\"ird.*", some .count, false⟩ : SelectedColumn).entry .postgres =
      .ok "COUNT(\"we\"\"ird\".*) AS \"COUNT we\"\"ird.*\"" := by decide
  have hiff := star_entry_iff .postgres ⟨"we\"ird.*", some .count, false⟩ star
  exact ⟨star, hentry, (hiff.2 _ hentry).2 (.inr ⟨rfl, rfl⟩)⟩

/-- A star behind the name of a table gets an alias, or is summed as if it were a column, and stars are
counted with DISTINCT. -/
theorem star_entries_malformed :
    (Dialect.mysql.EndsInStar (Dialect.mysql.column "users.*") ∧
      Dialect.mysql.EndsInStar (Dialect.mysql.column "*")) ∧
    ((⟨"users.*", none, false⟩ : SelectedColumn).entry .mysql = .ok "`users`.* AS `users.*`" ∧
      ¬StandsForAll .mysql ⟨"users.*", none, false⟩ "`users`.* AS `users.*`") ∧
    ((⟨"users.*", some .sum, false⟩ : SelectedColumn).entry .mysql =
        .ok "COALESCE(SUM(`users`.*), 0) AS `SUM users.*`" ∧
      ¬StandsForAll .mysql ⟨"users.*", some .sum, false⟩
        "COALESCE(SUM(`users`.*), 0) AS `SUM users.*`") ∧
    (⟨"*", some .count, true⟩ : SelectedColumn).entry .mysql =
        .ok "COUNT(DISTINCT *) AS `COUNT distinct *`" ∧
      ¬StandsForAll .mysql ⟨"*", some .count, true⟩ "COUNT(DISTINCT *) AS `COUNT distinct *`" := by
  refine ⟨⟨?_, ?_⟩, ⟨by decide, ?_⟩, ⟨by decide, ?_⟩, by decide, ?_⟩
  · exact (Dialect.mysql.endsInStar_column_iff "users.*").2 (by decide)
  · exact (Dialect.mysql.endsInStar_column_iff "*").2 (by decide)
  · rintro (⟨-, htext⟩ | ⟨hcount, -⟩)
    · exact absurd htext (by decide)
    · cases hcount
  · rintro (⟨hplain, -⟩ | ⟨hcount, -⟩)
    · cases hplain
    · cases hcount
  · rintro (⟨hplain, -⟩ | ⟨-, rest, htext⟩)
    · cases hplain
    · have hcall : ColumnFunction.count.call .mysql (Dialect.mysql.column "*") true ++
          " AS `COUNT distinct *`" = "COUNT(DISTINCT *) AS `COUNT distinct *`" := by decide
      exact count_distinct_ne .mysql "*" _ rest (hcall.trans htext)

end SelectedColumn

end QueryDesk
