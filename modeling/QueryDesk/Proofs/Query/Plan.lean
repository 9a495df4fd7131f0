import QueryDesk.Proofs.Sequence
import QueryDesk.Proofs.Statement.Names
import QueryDesk.Query.Plan

/-!
# Which requests have a plan

Whether a step of a plan is refused depends on what it adds and on the dialect, never on the steps
before it. So a request has a plan when each of its parts is acceptable by itself. Main statements:
a SELECT request is planned exactly when its page is in range and its options fit, and its plan asks
for one row more than the page holds, from the first row of the page on; the other requests have a
statement exactly when they fit.
-/

namespace QueryDesk

/-! ### What fits -/

namespace ClientFilter

/-- The text can be read, if it has to be. -/
def IsReadable (f : ClientFilter) (schema : Schema) : Prop :=
  f.advanced = true → ∃ r, Notation.read f.value (schema.declared? f.column) = .ok r

theorem toFilter_eq_ok_iff (f : ClientFilter) (schema : Schema) :
    (∃ g, f.toFilter schema = .ok g) ↔ f.IsReadable schema := by
  rw [IsReadable, toFilter]
  cases ha : f.advanced with
  | false => simp [pure, Except.pure, bind, Except.bind]
  | true =>
    cases hr : Notation.read f.value (schema.declared? f.column) with
    | ok r => simp [pure, Except.pure, bind, Except.bind]
    | error e => simp [throw, throwThe, MonadExceptOf.throw, bind, Except.bind]

end ClientFilter

/-- The filter can be a condition, or is not looked at. -/
def Filter.Fits (f : Filter) : Prop := f.enabled = true → f.refusal? = none

/-- Every part of the options is acceptable: join conditions, groups, texts of typed filters, the
filters they stand for, and the columns to select. -/
structure QueryOptions.Fits (o : QueryOptions) (d : Dialect) (schema : Schema) : Prop where
  joins : ∀ j ∈ o.joins, Sql.checkJoin d j.on = .ok ()
  groups : ∀ c ∈ o.groupBy, c.isAccepted = true
  readable : ∀ f ∈ o.filters, f.isActive = true → f.IsReadable schema
  filters : ∀ f ∈ o.filters, f.isActive = true → ∀ g, f.toFilter schema = .ok g → g.Fits
  columns : ∀ c ∈ SelectPlan.columnsFor o schema, c.isAccepted = true

/-- The first row of the page has a number of 64 bits. -/
def SelectRequest.InRange (r : SelectRequest) (defaultSize : Nat) : Prop :=
  Page.clamp (r.size.getD defaultSize) * r.page < Nat.pow 2 64

/-- There is a value, and every raw value is an accepted expression. -/
def InsertRequest.Fits (r : InsertRequest) (d : Dialect) : Prop :=
  r.values ≠ [] ∧ ∀ a ∈ r.values, a.refusal? d = none

/-- There is a value, every raw value is an accepted expression, and every filter can be a
condition. -/
def UpdateRequest.Fits (r : UpdateRequest) (d : Dialect) : Prop :=
  (∀ f ∈ r.filters, f.Fits) ∧ r.values ≠ [] ∧ ∀ a ∈ r.values, a.refusal? d = none

/-- No column is blank. -/
def EntityRequest.Fits (r : EntityRequest) : Prop :=
  ∀ p ∈ r.props, Text.allBlank p.1 = false

/-! ### Steps of a plan -/

/-- What comes of some steps from `s` on: a refusal, or, when all that they add fits, something in
which the steps left alone what `view` shows. -/
inductive Comes {ε σ ν : Type} (view : σ → ν) (fits : Prop) (s : σ) : Except ε σ → Prop where
  | made (t : σ) (h : fits) (kept : view t = view s) : Comes view fits s (.ok t)
  | refused (e : ε) (h : ¬fits) : Comes view fits s (.error e)

namespace Comes

variable {ε σ ν α : Type} {view : σ → ν} {fits fits' : Prop} {s t : σ} {x : Except ε σ}

theorem congr (h : Comes view fits s x) (hiff : fits ↔ fits') : Comes view fits' s x := by
  cases h with
  | made t h kept => exact .made t (hiff.1 h) kept
  | refused e h => exact .refused e fun h' => h (hiff.2 h')

theorem of_eq (h : Comes view fits t x) (hst : view t = view s) : Comes view fits s x := by
  cases h with
  | made u h kept => exact .made u h (kept.trans hst)
  | refused e h => exact .refused e h

theorem bind {f : σ → Except ε σ} (h : Comes view fits s x)
    (hf : ∀ t, view t = view s → Comes view fits' t (f t)) :
    Comes view (fits ∧ fits') s (x >>= f) := by
  cases h with
  | refused e h => exact .refused e fun h' => h h'.1
  | made t h kept =>
    have hnext := hf t kept
    change Comes view (fits ∧ fits') s (f t)
    generalize f t = y at hnext ⊢
    cases hnext with
    | refused e h' => exact .refused e fun hboth => h' hboth.2
    | made u h' kept' => exact .made u ⟨h, h'⟩ (kept'.trans kept)

theorem foldlM {step : σ → α → Except ε σ} {fitting : α → Prop} (v : ν)
    (h : ∀ s a, view s = v → Comes view (fitting a) s (step s a)) (as : List α) {s : σ}
    (hs : view s = v) : Comes view (∀ a ∈ as, fitting a) s (as.foldlM step s) := by
  induction as generalizing s with
  | nil => exact .made s (by simp) rfl
  | cons a as ih =>
    rw [List.foldlM_cons]
    exact ((h s a hs).bind fun t ht => ih (ht.trans hs)).congr (by simp)

theorem cases (h : Comes view fits s x) :
    (∃ t, x = .ok t ∧ fits ∧ view t = view s) ∨ ∃ e, x = .error e ∧ ¬fits := by
  cases h with
  | made t h kept => exact .inl ⟨t, rfl, h, kept⟩
  | refused e h => exact .inr ⟨e, rfl, h⟩

theorem failed {x : Except Refusal σ} (h : Comes view fits s x) :
    Comes view fits s (SelectPlan.refused x) := by
  cases h with
  | made t h kept => exact .made t h kept
  | refused e h => exact .refused e.failure h

end Comes

namespace SelectPlan

/-! ### Selections -/

/-- What no step of a plan changes once it is set. -/
def frame (s : Select) : Dialect × Option Nat × Option Nat := (s.dialect, s.limit, s.offset)

theorem comes_addJoin (s : Select) (j : Join) :
    Comes frame (Sql.checkJoin s.dialect j.on = .ok ()) s (s.addJoin j).toExcept := by
  rw [Select.addJoin]
  cases Sql.checkJoin s.dialect j.on with
  | ok => exact .made _ rfl rfl
  | error e => exact .refused _ (by simp)

theorem comes_addGroup (s : Select) (c : SelectedColumn) :
    Comes frame (c.isAccepted = true) s (s.addGroup c).toExcept := by
  rw [Select.addGroup, ← SelectedColumn.expression_eq_ok_iff (d := s.dialect)]
  cases c.expression s.dialect with
  | ok e =>
    refine .made _ ⟨e, rfl⟩ ?_
    split <;> rfl
  | error e => exact .refused _ (by simp)

theorem comes_addWhere (s : Select) (f : Filter) :
    Comes frame f.Fits s (s.addWhere f).toExcept := by
  rw [Select.addWhere_eq, Filter.Fits]
  cases f.enabled with
  | false => exact .made s (by simp) rfl
  | true =>
    cases f.refusal? with
    | none => exact .made _ (by simp) rfl
    | some e => exact .refused _ (by simp)

theorem comes_addHaving (s : Select) (f : Filter) :
    Comes frame f.Fits s (s.addHaving f).toExcept := by
  rw [Select.addHaving_eq, Filter.Fits]
  cases f.enabled with
  | false => exact .made s (by simp) rfl
  | true =>
    cases f.refusal? with
    | none => exact .made _ (by simp) rfl
    | some e => exact .refused _ (by simp)

theorem comes_addFilter (s : Select) (f : Filter) : Comes frame f.Fits s (addFilter s f) := by
  rw [addFilter]
  split
  · exact (comes_addHaving s f).failed
  · exact (comes_addWhere s f).failed

theorem comes_setColumns (s : Select) (cs : List SelectedColumn) :
    Comes frame (∀ c ∈ cs, c.isAccepted = true) s (s.setColumns cs).toExcept := by
  rw [Select.setColumns]
  rcases SelectedColumn.mapM_entry cs s.dialect with ⟨hall, ts, hts, _⟩ | ⟨hall, e, he⟩
  · rw [hts]
    exact .made _ (by simpa using hall) rfl
  · rw [he]
    refine .refused _ fun h => ?_
    rw [List.all_eq_true.2 h] at hall
    cases hall

theorem frame_foldl_addOrder (os : List (OrderTarget × Direction)) (s : Select) :
    frame (os.foldl (fun s (t, d) => s.addOrder t d) s) = frame s := by
  induction os generalizing s with
  | nil => rfl
  | cons o os ih => exact ih _

theorem frame_addSearch (s : Select) (cs : List String) (term : String) :
    frame (s.addSearch cs term) = frame s := by
  rw [Select.addSearch]
  split <;> rfl

/-- The typed filters are read, and then the filters they stand for are added. -/
theorem comes_filters (fs : List ClientFilter) (schema : Schema) (s : Select) :
    Comes frame ((∀ f ∈ fs, f.isActive = true → f.IsReadable schema) ∧
        ∀ f ∈ fs, f.isActive = true → ∀ g, f.toFilter schema = .ok g → g.Fits) s
      (ClientFilter.toFilters fs schema >>= fun gs => gs.foldlM addFilter s) := by
  rw [ClientFilter.toFilters]
  rcases mapM_cases (fun f : ClientFilter => f.toFilter schema)
    (fs.filter ClientFilter.isActive) with ⟨gs, hgs, hmem, hall⟩ | ⟨e, he, f, hf, hread⟩
  · rw [hgs]
    refine (Comes.foldlM (frame s) (fun t g _ => comes_addFilter t g) gs rfl).congr
      ⟨fun h => ⟨?_, ?_⟩, fun h g hg => ?_⟩
    · intro f hf ha
      exact (f.toFilter_eq_ok_iff schema).1 (hall f (List.mem_filter.2 ⟨hf, ha⟩))
    · intro f hf ha g hread
      exact h g ((hmem g).2 ⟨f, List.mem_filter.2 ⟨hf, ha⟩, hread⟩)
    · obtain ⟨f, hf, hread⟩ := (hmem g).1 hg
      obtain ⟨hf, ha⟩ := List.mem_filter.1 hf
      exact h.2 f hf ha g hread
  · rw [he]
    refine .refused e fun h => ?_
    obtain ⟨hf, ha⟩ := List.mem_filter.1 hf
    obtain ⟨g, hg⟩ := (f.toFilter_eq_ok_iff schema).2 (h.1 f hf ha)
    rw [hread] at hg
    cases hg

def steps (o : QueryOptions) (schema : Schema) (s : Select) : Except Failure Select :=
  o.joins.foldlM (fun s j => refused (s.addJoin j).toExcept) s >>= fun s =>
  o.groupBy.foldlM (fun s c => refused (s.addGroup c).toExcept)
    ((OrderBy.allowed o.orderBy o.selected).foldl (fun s (t, d) => s.addOrder t d) s) >>= fun s =>
  (ClientFilter.toFilters o.filters schema >>= fun gs => gs.foldlM addFilter s) >>= fun s =>
  refused (s.setColumns (columnsFor o schema)).toExcept

def search (o : QueryOptions) (schema : Schema) (s : Select) : Select :=
  match o.searchAll with
  | some term => s.addSearch (searchable (columnsFor o schema) schema) term
  | none => s

theorem frame_search (o : QueryOptions) (schema : Schema) (s : Select) :
    frame (search o schema s) = frame s := by
  rw [search]
  cases o.searchAll with
  | none => rfl
  | some term => exact frame_addSearch s _ term

theorem comes_steps (o : QueryOptions) (schema : Schema) (s : Select) :
    Comes frame (o.Fits s.dialect schema) s (steps o schema s) := by
  have hdialect : ∀ {t : Select}, frame t = frame s → t.dialect = s.dialect :=
    fun h => congrArg Prod.fst h
  have hjoins := Comes.foldlM (frame s)
    (fun t j (ht : frame t = frame s) => hdialect ht ▸ (comes_addJoin t j).failed) o.joins rfl
  have hgroups : ∀ t, Comes frame (∀ c ∈ o.groupBy, c.isAccepted = true) t
      (o.groupBy.foldlM (fun s c => refused (s.addGroup c).toExcept)
        ((OrderBy.allowed o.orderBy o.selected).foldl (fun s (t, d) => s.addOrder t d) t)) :=
    fun t => (Comes.foldlM _ (fun u c _ => (comes_addGroup u c).failed) o.groupBy rfl).of_eq
      (frame_foldl_addOrder _ t)
  refine (hjoins.bind fun t _ => (hgroups t).bind fun u _ =>
    (comes_filters o.filters schema u).bind fun v _ => (comes_setColumns v _).failed).congr ⟨?_, ?_⟩
  · rintro ⟨hj, hg, ⟨hr, hf⟩, hc⟩
    exact ⟨hj, hg, hr, hf, hc⟩
  · rintro ⟨hj, hg, hr, hf, hc⟩
    exact ⟨hj, hg, ⟨hr, hf⟩, hc⟩

/-- A SELECT request has a plan when its page is in range and its options fit; a page out of range
is refused before anything else. The plan asks for one row more than its page holds. -/
theorem make_cases (r : SelectRequest) (d : Dialect) (defaultSize : Nat) (schema : Schema) :
    (¬r.InRange defaultSize ∧ make r d defaultSize schema =
      .error (.validation ("Page " ++ toString r.page ++ " is out of range"))) ∨
    (r.InRange defaultSize ∧ ¬r.options.Fits d schema ∧
      ∃ e, make r d defaultSize schema = .error e) ∨
    (r.InRange defaultSize ∧ r.options.Fits d schema ∧
      ∃ p, make r d defaultSize schema = .ok p ∧
        p.page = ⟨Page.clamp (r.size.getD defaultSize),
          Page.clamp (r.size.getD defaultSize) * r.page⟩ ∧
        frame p.select = (d, some (p.page.size + 1), some p.page.offset)) := by
  rw [SelectRequest.InRange]
  by_cases hr : Page.clamp (r.size.getD defaultSize) * r.page < Nat.pow 2 64
  · have hmake : make r d defaultSize schema = steps r.options schema
        (((Select.ofTable d r.options.table).setLimit
          (Page.clamp (r.size.getD defaultSize) + 1)).setOffset
          (Page.clamp (r.size.getD defaultSize) * r.page)) >>= fun s => pure
        { select := search r.options schema s
          page := ⟨Page.clamp (r.size.getD defaultSize),
            Page.clamp (r.size.getD defaultSize) * r.page⟩
          columns := columnsFor r.options schema } := by
      simp only [make, steps, search, Page.window, if_pos hr, bind_assoc]
      rfl
    refine .inr ?_
    rw [hmake]
    rcases (comes_steps r.options schema _).cases with ⟨s, hs, hfits, hframe⟩ | ⟨e, he, hfits⟩
    · rw [hs]
      exact .inr ⟨hr, hfits, _, rfl, rfl, (frame_search r.options schema s).trans hframe⟩
    · rw [he]
      exact .inl ⟨hr, hfits, e, rfl⟩
  · rw [make, Page.window]
    simp only [if_neg hr]
    exact .inl ⟨hr, rfl⟩

end SelectPlan

/-! ### Other requests -/

/-- What filters leave alone in an update. -/
def Update.frame (s : Update) : Dialect × List Assignment := (s.dialect, s.values)

theorem Update.comes_addWhere (s : Update) (f : Filter) :
    Comes Update.frame f.Fits s (s.addWhere f).toExcept := by
  rw [addWhere_eq, Filter.Fits]
  cases f.enabled with
  | false => exact .made s (by simp) rfl
  | true =>
    cases f.refusal? with
    | none => exact .made _ (by simp) rfl
    | some e => exact .refused _ (by simp)

end QueryDesk
