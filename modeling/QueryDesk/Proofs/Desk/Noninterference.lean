import QueryDesk.Desk.Basic
import QueryDesk.Proofs.Statement.Skeleton

/-!
# Values never shape a statement

Two runs of a builder whose calls are the same but for their values are refused at the same calls and
end in statements with one text and equally many parameters. A request whose typed filters and search
are the same but for their values is planned by such runs. Main statement: the same holds for every
builder, and for two such requests the desk makes the same calls and comes to the same results, where
two executed queries may differ in the values of their parameters and in nothing else.
-/

namespace QueryDesk

/-! ### Requests without their values -/

/-- The same typed filter, or two that are not read in the filter notation and differ in texts that
are not empty. -/
structure ClientFilter.Alike (f g : ClientFilter) : Prop where
  rest : g = { f with value := g.value }
  value : f.value = g.value ∨ (f.advanced = false ∧ f.value ≠ "" ∧ g.value ≠ "")

/-- The same request but for the texts of typed filters that are not read in the filter notation,
and for a term to search for that is not blank. -/
structure SelectRequest.Alike (r r' : SelectRequest) : Prop where
  rest : r' = { r with options :=
    { r.options with filters := r'.options.filters, searchAll := r'.options.searchAll } }
  filters : List.Forall₂ ClientFilter.Alike r.options.filters r'.options.filters
  searchAll : r.options.searchAll = r'.options.searchAll ∨
    ∃ t t', r.options.searchAll = some t ∧ r'.options.searchAll = some t' ∧
      Text.allBlank t = false ∧ Text.allBlank t' = false

/-- The same query but for the values of its parameters. -/
structure Query.Alike (q q' : Query) : Prop where
  shape : q.statement.shape = q'.statement.shape
  kind : q.kind = q'.kind
  allowBulk : q.allowBulk = q'.allowBulk

/-- Two computations that make the same calls and come to the same result, whatever the replies are;
only queries may be executed that differ in the values of their parameters. -/
inductive SameCalls {α : Type} : DeskProgram α → DeskProgram α → Prop
  | done (a : α) : SameCalls (.done a) (.done a)
  | ask (c : DeskCall) {next next' : c.Reply → DeskProgram α}
      (h : ∀ r, SameCalls (next r) (next' r)) : SameCalls (.ask c next) (.ask c next')
  | execute (link : Nat) {q q' : Query} (hq : q.Alike q')
      {next next' : Except Failure Outcome → DeskProgram α}
      (h : ∀ r, SameCalls (next r) (next' r)) :
      SameCalls (.ask (.execute link q) next) (.ask (.execute link q') next')

/-- Both fail for the same reason, or both have results that are related. -/
inductive SameFailure {ε α : Type} (R : α → α → Prop) : Except ε α → Except ε α → Prop
  | error (e : ε) : SameFailure R (.error e) (.error e)
  | ok {a b : α} (h : R a b) : SameFailure R (.ok a) (.ok b)

namespace SameFailure

variable {ε α β : Type} {R : α → α → Prop} {S : β → β → Prop}

theorem refl (hR : ∀ a, R a a) (x : Except ε α) : SameFailure R x x := by
  cases x with
  | error e => exact .error e
  | ok a => exact .ok (hR a)

theorem bind {x y : Except ε α} (h : SameFailure R x y) {f g : α → Except ε β}
    (hf : ∀ {a b}, R a b → SameFailure S (f a) (g b)) : SameFailure S (x >>= f) (y >>= g) := by
  cases h with
  | error e => exact .error e
  | ok hab => exact hf hab

theorem mapM {γ : Type} {A : γ → γ → Prop} {f g : γ → Except ε α}
    (hf : ∀ {c d}, A c d → SameFailure R (f c) (g d)) {cs ds : List γ}
    (h : List.Forall₂ A cs ds) : SameFailure (List.Forall₂ R) (cs.mapM f) (ds.mapM g) := by
  induction h with
  | nil => exact .ok .nil
  | cons hcd _ ih =>
    simp only [List.mapM_cons]
    refine (hf hcd).bind fun hab => ih.bind fun has => ?_
    exact .ok (.cons hab has)

theorem foldlM {γ : Type} (R : α → α → Prop) (A : γ → γ → Prop) {f g : α → γ → Except ε α}
    (hf : ∀ a b c d, R a b → A c d → SameFailure R (f a c) (g b d)) {cs ds : List γ}
    (h : List.Forall₂ A cs ds) {a b : α} (hab : R a b) :
    SameFailure R (cs.foldlM f a) (ds.foldlM g b) := by
  induction h generalizing a b with
  | nil => exact .ok hab
  | cons hcd _ ih =>
    simp only [List.foldlM_cons]
    exact (hf _ _ _ _ hab hcd).bind fun hnext => ih hnext

end SameFailure

/-! ### Computations of the desk -/

namespace SameCalls

variable {α β : Type}

theorem refl (p : DeskProgram α) : SameCalls p p := by
  induction p with
  | done a => exact .done a
  | ask c next ih => exact .ask c ih

theorem andThen {p p' : DeskProgram α} (h : SameCalls p p') {f f' : α → DeskProgram β}
    (hf : ∀ a, SameCalls (f a) (f' a)) : SameCalls (p.andThen f) (p'.andThen f') := by
  induction h with
  | done a => exact hf a
  | ask c _ ih => exact .ask c ih
  | execute link hq _ ih => exact .execute link hq ih

theorem followedBy {p p' : DeskTask α} (h : SameCalls p p') {f f' : α → DeskTask β}
    (hf : ∀ a, SameCalls (f a) (f' a)) :
    SameCalls (DeskTask.followedBy p f) (DeskTask.followedBy p' f') := by
  refine h.andThen fun r => ?_
  cases r with
  | ok a => exact hf a
  | error e => exact .done _

theorem followedBy_ofExcept {R : α → α → Prop} {x x' : Except Failure α} (h : SameFailure R x x')
    {f f' : α → DeskTask β} (hf : ∀ {a b}, R a b → SameCalls (f a) (f' b)) :
    SameCalls (DeskTask.followedBy (DeskTask.ofExcept x) f)
      (DeskTask.followedBy (DeskTask.ofExcept x') f') := by
  cases h with
  | error e => exact .done _
  | ok hab => exact hf hab

theorem execute_query (d : Dialect) (c : ConnectionConfig) {q q' : Query} (h : q.Alike q') :
    SameCalls (Desk.execute d c q) (Desk.execute d c q') := by
  refine (refl (Scope.empty.acquire d c)).andThen fun reply => ?_
  rcases reply with ⟨e | link, scope⟩
  · exact refl _
  · exact .execute link h fun r => refl _

end SameCalls

/-! ### Plans -/

namespace ClientFilter.Alike

variable {f g : ClientFilter}

theorem isActive (h : f.Alike g) : f.isActive = g.isActive := by
  have hne : (f.value != "") = (g.value != "") := by
    rcases h.value with hv | ⟨-, hf, hg⟩
    · rw [hv]
    · rw [bne_iff_ne.2 hf, bne_iff_ne.2 hg]
  have he : g.enabled = f.enabled := by rw [h.rest]
  have hc : g.column = f.column := by rw [h.rest]
  rw [ClientFilter.isActive, ClientFilter.isActive, hne, he, hc]

/-- The filters that two typed filters stand for differ in their values only. -/
theorem toFilter (h : f.Alike g) (schema : Schema) :
    SameFailure Filter.Alike (f.toFilter schema) (g.toFilter schema) := by
  rcases h.value with hv | ⟨ha, -, -⟩
  · have hfg : g = f := by rw [h.rest, ← hv]
    rw [hfg]
    exact .refl .refl _
  · have hg : g.advanced = false := by rw [h.rest, ha]
    have hc : g.column = f.column := by rw [h.rest]
    have hfn : g.function = f.function := by rw [h.rest]
    simp only [ClientFilter.toFilter, ha, hg, Bool.false_eq_true, if_false]
    refine .ok ⟨hc.symm, ?_, .cons (.inr ⟨rfl, rfl⟩) .nil, rfl, hfn.symm⟩
    simp only [Filter.on, hc]

theorem toFilters {fs gs : List ClientFilter} (h : List.Forall₂ ClientFilter.Alike fs gs)
    (schema : Schema) :
    SameFailure (List.Forall₂ Filter.Alike) (ClientFilter.toFilters fs schema)
      (ClientFilter.toFilters gs schema) := by
  have hactive : List.Forall₂ ClientFilter.Alike (fs.filter ClientFilter.isActive)
      (gs.filter ClientFilter.isActive) := by
    induction h with
    | nil => exact .nil
    | @cons f g fs gs hfg _ ih =>
      simp only [List.filter_cons, hfg.isActive]
      split
      · exact .cons hfg ih
      · exact ih
  exact SameFailure.mapM (fun hfg => hfg.toFilter schema) hactive

end ClientFilter.Alike

namespace SelectPlan

/-- The same plan but for the slots and values of its selection. -/
structure Alike (p p' : SelectPlan) : Prop where
  skeleton : p.select.skeleton = p'.select.skeleton
  page : p.page = p'.page
  columns : p.columns = p'.columns

/-- Attempts that leave one skeleton and are refused for the same reason are as steps of a plan
refused for the same reason or leave one skeleton. -/
theorem refused_skeleton {a b : Attempt Select} (hs : a.left.skeleton = b.left.skeleton)
    (hr : a.refusal? = b.refusal?) :
    SameFailure (fun s t : Select => s.skeleton = t.skeleton) (refused a.toExcept)
      (refused b.toExcept) := by
  cases a with
  | done s =>
    cases b with
    | done t => exact .ok hs
    | refused e t => cases hr
  | refused e s =>
    cases b with
    | done t => cases hr
    | refused e' t =>
      cases hr
      exact .error _

theorem addFilter_skeleton {s t : Select} (h : s.skeleton = t.skeleton) {f g : Filter}
    (hf : f.Alike g) :
    SameFailure (fun s t : Select => s.skeleton = t.skeleton) (addFilter s f) (addFilter t g) := by
  have hagg : f.isAggregate = g.isAggregate := by
    simp only [Filter.isAggregate, hf.function]
  simp only [addFilter, hagg]
  cases g.isAggregate with
  | true =>
    obtain ⟨hs, hr⟩ := Select.addHaving_skeleton h hf
    exact refused_skeleton hs hr
  | false =>
    obtain ⟨hs, hr⟩ := Select.addWhere_skeleton h hf
    exact refused_skeleton hs hr

theorem search_skeleton {s t : Select} (h : s.skeleton = t.skeleton) (columns : List String)
    {o o' : Option String} (ho : o = o' ∨ ∃ u u', o = some u ∧ o' = some u' ∧
      Text.allBlank u = false ∧ Text.allBlank u' = false) :
    (match o with
      | some term => s.addSearch columns term
      | none => s).skeleton =
    (match o' with
      | some term => t.addSearch columns term
      | none => t).skeleton := by
  rcases ho with rfl | ⟨u, u', rfl, rfl, hu, hu'⟩
  · cases o with
    | none => exact h
    | some term => exact Select.addSearch_skeleton h columns rfl
  · exact Select.addSearch_skeleton h columns (hu.trans hu'.symm)

/-- Requests that are the same but for their values are planned alike. -/
theorem make_alike {r r' : SelectRequest} (h : r.Alike r') (d : Dialect) (defaultSize : Nat)
    (schema : Schema) :
    SameFailure Alike (make r d defaultSize schema) (make r' d defaultSize schema) := by
  obtain ⟨hrest, hfilters, hsearch⟩ := h
  obtain ⟨datasource, ⟨table, columns, joins, filters, orderBy, groupBy, aggregations, search⟩, page,
    size⟩ := r
  obtain ⟨datasource', options', page', size'⟩ := r'
  obtain ⟨rfl, hoptions, rfl, rfl⟩ := SelectRequest.mk.inj hrest
  rw [hoptions]
  have hsame : ∀ {α : Type} (x : Except Failure α), SameFailure Eq x x := fun x =>
    .refl (fun _ => rfl) x
  simp only [make]
  -- Up to the filters both plans are made by the same calls.
  refine (hsame _).bind fun hpage => ?_
  subst hpage
  refine (hsame _).bind fun hjoined => ?_
  subst hjoined
  refine (hsame _).bind fun hgrouped => ?_
  subst hgrouped
  refine (ClientFilter.Alike.toFilters hfilters schema).bind fun hfs => ?_
  refine (SameFailure.foldlM (fun s t : Select => s.skeleton = t.skeleton) Filter.Alike
    (fun _ _ _ _ h hf => addFilter_skeleton h hf) hfs rfl).bind fun {s t} hst => ?_
  have hcolumns := fun cs => Select.attempt_skeleton hst (.same (.columns cs))
  refine (refused_skeleton (hcolumns _).1 (hcolumns _).2).bind fun {s t} hst => ?_
  exact .ok ⟨search_skeleton hst _ hsearch, rfl, rfl⟩

theorem Alike.result {p p' : SelectPlan} (h : p.Alike p') (options options' : QueryOptions)
    (ht : options.tables = options'.tables) (schema : Schema) (outcome : Outcome) :
    p.result options schema outcome = p'.result options' schema outcome := by
  simp only [SelectPlan.result, h.page, h.columns, ht]

end SelectPlan

/-! ### Main statement -/

namespace SelectRequest.Alike

variable {r r' : SelectRequest}

theorem tables (h : r.Alike r') : r.options.tables = r'.options.tables := by
  rw [h.rest]
  rfl

theorem select (h : r.Alike r') (s : DeskSettings) :
    SameCalls (Desk.select s r) (Desk.select s r') := by
  have htable : r'.options.table = r.options.table := by rw [h.rest]
  have hdatasource : r'.datasource = r.datasource := by rw [h.rest]
  rw [Desk.select, Desk.select, htable, hdatasource, ← h.tables]
  split
  · exact .refl _
  · refine (SameCalls.refl _).followedBy fun (d, config) => ?_
    refine (SameCalls.refl _).followedBy fun tables => ?_
    refine SameCalls.followedBy_ofExcept (SelectPlan.make_alike h d.dialect s.pageSize ⟨tables⟩) ?_
    intro p p' hp
    have hquery : Query.Alike (.select p.select.statement) (.select p'.select.statement) :=
      ⟨Select.shape_eq_of_skeleton hp.skeleton, rfl, rfl⟩
    refine (SameCalls.execute_query _ _ hquery).followedBy fun outcome => ?_
    rw [hp.result _ _ h.tables]
    exact .refl _

end SelectRequest.Alike

/-- Values never shape a statement: two runs of calls on a selection, an insert or an update that are
the same but for their values are refused at the same calls and for the same reasons, and end in
statements with the same text and equally many parameters, or in no statement for the same reason.
And two requests that are the same but for their values make the desk do the same, except for the
values of parameters. -/
theorem text_independent_of_values :
    (∀ (d : Dialect) (table : String) (steps steps' : List Select.Step),
      List.Forall₂ Select.Step.Alike steps steps' →
      Attempt.refusals Select.attempt (.ofTable d table) steps =
        Attempt.refusals Select.attempt (.ofTable d table) steps' ∧
      (steps.foldl Select.after (.ofTable d table)).statement.shape =
        (steps'.foldl Select.after (.ofTable d table)).statement.shape) ∧
    (∀ (d : Dialect) (table : String) (rows rows' : List (List Assignment)),
      List.Forall₂ (List.Forall₂ Assignment.Alike) rows rows' →
      (rows.foldl Insert.setValues (.ofTable d table)).statement.map Statement.shape =
        (rows'.foldl Insert.setValues (.ofTable d table)).statement.map Statement.shape) ∧
    (∀ (d : Dialect) (table : String) (steps steps' : List Update.Step),
      List.Forall₂ Update.Step.Alike steps steps' →
      Attempt.refusals Update.attempt (.ofTable d table) steps =
        Attempt.refusals Update.attempt (.ofTable d table) steps' ∧
      (steps.foldl Update.after (.ofTable d table)).statement.map Statement.shape =
        (steps'.foldl Update.after (.ofTable d table)).statement.map Statement.shape) ∧
    (∀ (s : DeskSettings) (r r' : SelectRequest), r.Alike r' →
      SameCalls (Desk.select s r) (Desk.select s r')) := by
  refine ⟨?_, ?_, ?_, fun s r r' h => h.select s⟩
  · intro d table steps steps' h
    obtain ⟨hrun, hrefusals⟩ := Attempt.run_alike
      (fun s t : Select => s.skeleton = t.skeleton) Select.Step.Alike
      (fun _ _ _ _ hs ha => Select.attempt_skeleton hs ha) h rfl
    exact ⟨hrefusals, Select.shape_eq_of_skeleton hrun⟩
  · intro d table rows rows' h
    have hrun := Insert.Alike.run h (Insert.Alike.refl (.ofTable d table))
    exact hrun.shape
  · intro d table steps steps' h
    obtain ⟨hrun, hrefusals⟩ := Attempt.run_alike Update.Alike Update.Step.Alike
      (fun _ _ _ _ hs ha => hs.attempt ha) h (.refl (.ofTable d table))
    exact ⟨hrefusals, hrun.shape⟩

/-- A quote in a value changes nothing. -/
theorem text_independent_of_quote :
    (Select.after (.ofTable .mysql "users")
        (.condition (.on "name" .eq [.literal (.text "Ann")]))).statement.shape =
      (Select.after (.ofTable .mysql "users")
        (.condition (.on "name" .eq [.literal (.text "' OR '1' = '1")]))).statement.shape := by
  have halike : Select.Step.Alike (.condition (.on "name" .eq [.literal (.text "Ann")]))
      (.condition (.on "name" .eq [.literal (.text "' OR '1' = '1")])) :=
    .condition ⟨rfl, rfl, .cons (.inr ⟨rfl, rfl⟩) .nil, rfl, rfl⟩
  exact (text_independent_of_values.1 .mysql "users" _ _ (.cons halike .nil)).2

end QueryDesk
