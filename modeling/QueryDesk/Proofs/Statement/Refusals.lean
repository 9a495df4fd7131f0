import QueryDesk.Proofs.Statement.Names
import QueryDesk.Proofs.Statement.Parameters

/-!
# Calls that are refused

What is built by calls answers each of them: a step, or a request for the statement, either of which
may be refused. The invariant behind this module is that a refused step leaves the whole builder as it
was, what it has bound included, since every refusal comes before the first value is bound. Main
statement: a call that is refused, and a filter that is not enabled, leave no trace, whatever was
called before and whatever is called afterwards.
-/

namespace QueryDesk

/-! ### Calls and their replies -/

/-- Something that is built step by step, with filters among its steps. -/
structure Builder (σ Step : Type) where
  attempt : σ → Step → Attempt σ
  statement : σ → Except Refusal Statement
  filter? : Step → Option Filter

namespace Builder

variable {σ Step : Type}

/-- A call on a builder: a step, or making the statement. -/
inductive Call (Step : Type) where
  | step (st : Step)
  | build

/-- How a call is answered: why it is refused, or else with the statement if that was asked for. -/
abbrev Reply := Except Refusal (Option Statement)

variable (b : Builder σ Step)

/-- The reply to a call, and the builder behind it. -/
def answer (s : σ) : Call Step → Reply × σ
  | .step st =>
    match b.attempt s st with
    | .done t => (.ok none, t)
    | .refused e t => (.error e, t)
  | .build => ((b.statement s).map some, s)

def after (s : σ) (calls : List (Call Step)) : σ := calls.foldl (fun s c => (b.answer s c).2) s

def replies (s : σ) : List (Call Step) → List Reply
  | [] => []
  | c :: cs => (b.answer s c).1 :: replies (b.answer s c).2 cs

/-- The call is refused, or it is a filter that is not enabled. -/
def Idle (s : σ) (c : Call Step) : Prop :=
  (∃ e, (b.answer s c).1 = .error e) ∨
    ∃ st f, c = .step st ∧ b.filter? st = some f ∧ f.enabled = false

/-- A call between others leaves no trace: the builder behind it is the one in front of it, all other
replies are those that are given without it, and so is any statement made in the end. -/
structure NoTrace (s : σ) (before : List (Call Step)) (c : Call Step) (later : List (Call Step)) :
    Prop where
  kept : b.after s (before ++ [c]) = b.after s before
  replies : (b.replies s (before ++ c :: later)).eraseIdx before.length =
    b.replies s (before ++ later)
  statement : b.statement (b.after s (before ++ c :: later)) =
    b.statement (b.after s (before ++ later))

theorem answer_eq_error_iff (s : σ) (st : Step) (e : Refusal) :
    (b.answer s (.step st)).1 = .error e ↔ (b.attempt s st).refusal? = some e := by
  rw [answer]
  cases b.attempt s st <;> simp [Attempt.refusal?]

theorem replies_append (s : σ) (cs ds : List (Call Step)) :
    b.replies s (cs ++ ds) = b.replies s cs ++ b.replies (b.after s cs) ds := by
  induction cs generalizing s with
  | nil => rfl
  | cons c cs ih => exact congrArg (_ :: ·) (ih _)

theorem length_replies (s : σ) (cs : List (Call Step)) :
    (b.replies s cs).length = cs.length := by
  induction cs generalizing s with
  | nil => rfl
  | cons c cs ih => exact congrArg (· + 1) (ih _)

theorem after_append (s : σ) (cs ds : List (Call Step)) :
    b.after s (cs ++ ds) = b.after (b.after s cs) ds := List.foldl_append

theorem noTrace_of_kept {s : σ} {before : List (Call Step)} {c : Call Step}
    (h : (b.answer (b.after s before) c).2 = b.after s before) (later : List (Call Step)) :
    b.NoTrace s before c later := by
  have hafter : ∀ ds, b.after (b.after s before) (c :: ds) = b.after (b.after s before) ds :=
    fun ds => congrArg (b.after · ds) h
  refine ⟨?_, ?_, ?_⟩
  · rw [b.after_append, hafter]
    rfl
  · have hreplies : b.replies (b.after s before) (c :: later) =
        (b.answer (b.after s before) c).1 :: b.replies (b.after s before) later := by
      rw [Builder.replies, h]
    rw [b.replies_append, b.replies_append, hreplies,
      List.eraseIdx_append_of_length_le (Nat.le_of_eq (b.length_replies s before)),
      b.length_replies, Nat.sub_self, List.eraseIdx_cons_zero]
  · rw [b.after_append, b.after_append, hafter]

/-- A builder whose refused steps and filters that are not enabled leave it as it was. -/
structure Steady : Prop where
  refused : ∀ s st e t, b.attempt s st = .refused e t → t = s
  disabled : ∀ s st f, b.filter? st = some f → f.enabled = false → b.attempt s st = .done s

variable {b}

theorem Steady.answer (h : b.Steady) {s : σ} {c : Call Step} (hidle : b.Idle s c) :
    (b.answer s c).2 = s := by
  cases c with
  | build => rfl
  | step st =>
    rcases hidle with ⟨e, he⟩ | ⟨_, f, hst, hf, hdisabled⟩
    · rw [Builder.answer] at he ⊢
      cases ha : b.attempt s st with
      | done t =>
        rw [ha] at he
        cases he
      | refused e t => exact h.refused s st e t ha
    · cases hst
      rw [Builder.answer, h.disabled s st f hf hdisabled]

theorem Steady.noTrace (h : b.Steady) {s : σ} {before : List (Call Step)} {c : Call Step}
    (hidle : b.Idle (b.after s before) c) (later : List (Call Step)) :
    b.NoTrace s before c later :=
  b.noTrace_of_kept (h.answer hidle) later

end Builder

/-! ### Selections and updates -/

namespace Select

/-- A selection always has a statement. -/
def builder : Builder Select Step where
  attempt := attempt
  statement s := .ok s.statement
  filter?
    | .condition f => some f
    | .having f => some f
    | _ => none

theorem steady : builder.Steady where
  refused s st e t h := by
    change s.attempt st = .refused e t at h
    have hafter : s.after st = s := after_of_refused (by simp [h, Attempt.refusal?])
    rwa [after, h] at hafter
  disabled s st f hf hdisabled := by
    change s.attempt st = .done s
    cases st with
    | condition g =>
      cases hf
      rw [attempt, addWhere_eq, hdisabled]
      rfl
    | having g =>
      cases hf
      rw [attempt, addHaving_eq, hdisabled]
      rfl
    | columns | join | group | order | limit | offset | search => cases hf

/-- Columns are refused together as soon as one of them is, wherever it stands. -/
theorem columns_refused_iff (s : Select) (cs : List SelectedColumn) :
    (∃ e, (builder.answer s (.step (.columns cs))).1 = .error e) ↔
      ∃ c ∈ cs, ∃ e, c.entry s.dialect = .error e := by
  have hattempt : builder.attempt s (.columns cs) = s.setColumns cs := rfl
  simp only [builder.answer_eq_error_iff, hattempt, setColumns]
  rcases SelectedColumn.mapM_entry cs s.dialect with ⟨hall, ts, hts, -⟩ | ⟨hall, e, he⟩
  · rw [hts]
    refine iff_of_false (by simp [Attempt.refusal?]) ?_
    rintro ⟨c, hc, e, he⟩
    obtain ⟨t, ht⟩ := SelectedColumn.entry_eq_ok (d := s.dialect) (List.all_eq_true.1 hall c hc)
    rw [ht] at he
    cases he
  · rw [he]
    obtain ⟨c, hc, hrefused⟩ := List.all_eq_false.1 hall
    exact iff_of_true ⟨e, rfl⟩
      ⟨c, hc, SelectedColumn.entry_eq_error (Bool.eq_false_iff.2 hrefused)⟩

end Select

namespace Update

def builder : Builder Update Step where
  attempt := attempt
  statement := statement
  filter?
    | .condition f => some f
    | .values _ => none

theorem steady : builder.Steady where
  refused s st e t h := by
    change s.attempt st = .refused e t at h
    cases st with
    | values vs => cases h
    | condition f =>
      rw [attempt, addWhere_eq] at h
      split at h
      · cases hr : f.refusal? with
        | none =>
          rw [hr] at h
          cases h
        | some e' =>
          rw [hr] at h
          cases h
          rfl
      · cases h
  disabled s st f hf hdisabled := by
    change s.attempt st = .done s
    cases st with
    | values vs => cases hf
    | condition g =>
      cases hf
      rw [attempt, addWhere_eq, hdisabled]
      rfl

end Update

/-! ### Both -/

/-- A call on a selection or an update that is refused, and a filter that is not enabled, leave no
trace: neither in what is built so far, nor in any reply or statement that follows, whatever was called
before. Columns are refused whenever one of them is, at any place. -/
theorem idle_calls_without_trace :
    (∀ (s : Select) (before : List (Builder.Call Select.Step)) (c : Builder.Call Select.Step)
      (later : List (Builder.Call Select.Step)),
      Select.builder.Idle (Select.builder.after s before) c →
        Select.builder.NoTrace s before c later) ∧
    (∀ (s : Update) (before : List (Builder.Call Update.Step)) (c : Builder.Call Update.Step)
      (later : List (Builder.Call Update.Step)),
      Update.builder.Idle (Update.builder.after s before) c →
        Update.builder.NoTrace s before c later) ∧
    ∀ (s : Select) (cs : List SelectedColumn),
      (∃ e, (Select.builder.answer s (.step (.columns cs))).1 = .error e) ↔
        ∃ c ∈ cs, ∃ e, c.entry s.dialect = .error e :=
  ⟨fun _ _ _ later h => Select.steady.noTrace h later,
    fun _ _ _ later h => Update.steady.noTrace h later, Select.columns_refused_iff⟩

/-- Columns of which the second is refused come between two conditions, and an update is asked for its
statement before it assigns anything. -/
theorem idle_calls_without_trace_between :
    let f := Filter.on "users.id" .eq [.literal (.int 7)]
    let g := Filter.on "users.name" .contains [.literal (.text "ann")]
    let columns := [.plain "users.name", ⟨"*", some .sum, false⟩]
    (Select.builder.Idle (Select.builder.after (.ofTable .postgres "users") [.step (.condition f)])
        (.step (.columns columns)) ∧
      Select.builder.NoTrace (.ofTable .postgres "users") [.step (.condition f)]
        (.step (.columns columns)) [.step (.having g), .build]) ∧
    Update.builder.Idle (Update.builder.after (.ofTable .mysql "users") [.step (.condition f)])
        .build ∧
      Update.builder.NoTrace (.ofTable .mysql "users") [.step (.condition f)] .build
        [.step (.values [⟨"name", .text "Bob"⟩]), .build] := by
  intro f g columns
  have hselect : Select.builder.Idle
      (Select.builder.after (.ofTable .postgres "users") [.step (.condition f)])
      (.step (.columns columns)) := .inl ⟨.starWithoutCount, by decide +kernel⟩
  have hupdate : Update.builder.Idle
      (Update.builder.after (.ofTable .mysql "users") [.step (.condition f)]) .build :=
    .inl ⟨.nothingToUpdate, by decide +kernel⟩
  exact ⟨⟨hselect, idle_calls_without_trace.1 _ _ _ _ hselect⟩, hupdate,
    idle_calls_without_trace.2.1 _ _ _ _ hupdate⟩

end QueryDesk
