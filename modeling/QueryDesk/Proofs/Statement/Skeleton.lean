import Mathlib.Data.List.Forall2
import QueryDesk.Proofs.Statement.Binding

/-!
# Skeletons

What of a selection, an insert or an update is left without its values: the texts, with gaps where
values go. The text of a statement and the number of its parameters are read off the skeleton, and the
skeleton after a step depends on the skeleton before it and on the step without its values.
-/

namespace QueryDesk

/-! ### Pieces -/

namespace Piece

def skeleton : Piece → Piece
  | sql t => sql t
  | param _ => param 0

theorem textAfter_skeleton (d : Dialect) (n : Nat) (ps : List Piece) :
    textAfter d n (ps.map skeleton) = textAfter d n ps := by
  induction ps generalizing n with
  | nil => rfl
  | cons p ps ih => cases p <;> simp [skeleton, textAfter, ih]

theorem length_slots_skeleton (ps : List Piece) :
    (slots (ps.map skeleton)).length = (slots ps).length := by
  induction ps with
  | nil => rfl
  | cons p ps ih => cases p <;> simp [skeleton, slots, ih]

theorem between_map_skeleton (separator : String) (ps : List (List Piece)) :
    (between separator ps).map skeleton = between separator (ps.map (·.map skeleton)) := by
  induction ps with
  | nil => rfl
  | cons p ps ih =>
    cases ps with
    | nil => rfl
    | cons q qs =>
      simp only [between, List.map_append, List.map_cons, skeleton] at ih ⊢
      rw [ih]

theorem textAfter_eq_of_skeleton {d : Dialect} {n : Nat} {ps qs : List Piece}
    (h : ps.map skeleton = qs.map skeleton) : textAfter d n ps = textAfter d n qs := by
  rw [← textAfter_skeleton d n ps, h, textAfter_skeleton]

theorem length_slots_eq_of_skeleton {ps qs : List Piece}
    (h : ps.map skeleton = qs.map skeleton) : (slots ps).length = (slots qs).length := by
  rw [← length_slots_skeleton ps, h, length_slots_skeleton]

end Piece

/-- What a statement shows without its values: the text, and how many parameters there are. -/
def Statement.shape (s : Statement) : String × Nat := (s.sql, s.params.length)

theorem Piece.shape_statement {ps qs : List Piece} (h : ps.map skeleton = qs.map skeleton)
    (d : Dialect) (b c : Bindings) : (statement d b ps).shape = (statement d c qs).shape := by
  have ht : textAfter d 0 ps = textAfter d 0 qs := textAfter_eq_of_skeleton h
  have hl : (slots ps).length = (slots qs).length := length_slots_eq_of_skeleton h
  simp only [statement, Statement.shape, ht, List.length_map, hl]

/-! ### Steps without their values -/

/-- The same operand, or two values that stand for themselves. -/
def Operand.Alike (o p : Operand) : Prop := o = p ∨ (o.isColumn = false ∧ p.isColumn = false)

/-- The same filter but for its values. -/
structure Filter.Alike (f g : Filter) : Prop where
  column : f.column = g.column
  operator : f.operator = g.operator
  operands : List.Forall₂ Operand.Alike f.operands g.operands
  enabled : f.enabled = g.enabled
  function : f.function = g.function

/-- The same step but for the values of its filter, or two searches for terms that are not blank. -/
inductive Select.Step.Alike : Select.Step → Select.Step → Prop
  | same (st : Step) : Alike st st
  | condition {f g : Filter} (h : f.Alike g) : Alike (.condition f) (.condition g)
  | having {f g : Filter} (h : f.Alike g) : Alike (.having f) (.having g)
  | search (columns : List String) {t u : String} (ht : Text.allBlank t = false)
      (hu : Text.allBlank u = false) : Alike (.search columns t) (.search columns u)

/-- The same assignment, or two values for one column that are both bound. -/
structure Assignment.Alike (a b : Assignment) : Prop where
  column : a.column = b.column
  value : a.value = b.value ∨
    (a.value.rawExpression? = none ∧ b.value.rawExpression? = none)

/-- The same step but for the values. -/
inductive Update.Step.Alike : Update.Step → Update.Step → Prop
  | values {vs ws : List Assignment} (h : List.Forall₂ Assignment.Alike vs ws) :
      Alike (.values vs) (.values ws)
  | condition {f g : Filter} (h : f.Alike g) : Alike (.condition f) (.condition g)

theorem Operand.Alike.refl (o : Operand) : o.Alike o := .inl rfl

theorem Filter.Alike.refl (f : Filter) : f.Alike f :=
  ⟨rfl, rfl, List.forall₂_same.2 fun o _ => .refl o, rfl, rfl⟩

theorem map_eq_of_forall₂ {α β : Type} {R : α → α → Prop} {f : α → β} {as bs : List α}
    (h : List.Forall₂ R as bs) (hf : ∀ a b, R a b → f a = f b) : as.map f = bs.map f := by
  induction h with
  | nil => rfl
  | cons hab _ ih => rw [List.map_cons, List.map_cons, hf _ _ hab, ih]

/-! ### Filters -/

namespace Operand

theorem skeleton_placedAt (d : Dialect) (n : Nat) (o : Operand) :
    (o.placedAt d n).skeleton = o.placedAt d 0 := by
  cases h : o.reference? <;> simp only [placedAt, h, Piece.skeleton]

theorem skeleton_pieces (d : Dialect) (n : Nat) (os : List Operand) :
    (pieces d n os).map Piece.skeleton = os.map (placedAt d 0) := by
  rw [pieces, map_placed]
  exact placed_eq_map (skeleton_placedAt d) bound n os

namespace Alike

theorem placedAt {o p : Operand} (h : o.Alike p) (d : Dialect) (n : Nat) :
    o.placedAt d n = p.placedAt d n := by
  rcases h with rfl | ⟨ho, hp⟩
  · rfl
  · simp [Operand.placedAt, Operand.reference?, ho, hp]

theorem skeleton_pieces {os ps : List Operand} (h : List.Forall₂ Operand.Alike os ps) (d : Dialect)
    (n m : Nat) :
    (Operand.pieces d n os).map Piece.skeleton = (Operand.pieces d m ps).map Piece.skeleton := by
  rw [Operand.skeleton_pieces, Operand.skeleton_pieces]
  exact map_eq_of_forall₂ h fun _ _ ho => ho.placedAt d 0

theorem isEmpty_eq {os ps : List Operand} (h : List.Forall₂ Operand.Alike os ps) :
    os.isEmpty = ps.isEmpty := by
  cases h <;> rfl

end Alike

end Operand

namespace Filter.Alike

variable {f g : Filter}

theorem subject (h : f.Alike g) (d : Dialect) : f.subject d = g.subject d := by
  simp only [Filter.subject, h.function, h.column]

theorem refusal? (h : f.Alike g) : f.refusal? = g.refusal? := by
  simp only [Filter.refusal?, h.column, h.operator, Operand.Alike.isEmpty_eq h.operands]

theorem skeleton_pieces (h : f.Alike g) (d : Dialect) (n m : Nat) :
    (f.pieces d n).map Piece.skeleton = (g.pieces d m).map Piece.skeleton := by
  have hs := h.subject d
  have hop := h.operator
  have hos := Operand.Alike.skeleton_pieces h.operands d n m
  have ht : List.Forall₂ Operand.Alike (f.operands.take 1) (g.operands.take 1) :=
    List.forall₂_take 1 h.operands
  have hts := Operand.Alike.skeleton_pieces ht d n m
  have hlen := ht.length_eq
  have hsingle : ∀ ps : List Piece,
      (ps.map ([·])).map (·.map Piece.skeleton) = (ps.map Piece.skeleton).map ([·]) := by
    intro ps
    simp [List.map_map, Function.comp_def]
  cases ho : g.operator
  case isIn | notIn =>
    simp only [Filter.pieces, hop, ho, hs, List.map_cons, List.map_append,
      Piece.between_map_skeleton, hsingle, hos]
  case isNull | isNotNull => simp only [Filter.pieces, hop, ho, hs]
  case like | notLike | contains | notContains =>
    simp only [Filter.pieces, hop, ho, hs, List.map_cons, Piece.skeleton, List.map_const',
      List.map_replicate, hlen]
  all_goals simp only [Filter.pieces, hop, ho, hs, List.map_cons, hts]

end Filter.Alike

/-! ### Runs of calls -/

namespace Attempt

variable {σ τ : Type}

def refusal? : Attempt σ → Option Refusal
  | done _ => none
  | refused e _ => some e

/-- Which of some calls, one after the other, are refused, and why. -/
def refusals (attempt : σ → τ → Attempt σ) : σ → List τ → List (Option Refusal)
  | _, [] => []
  | s, c :: cs => (attempt s c).refusal? :: refusals attempt (attempt s c).left cs

/-- What two calls that are alike preserve, two runs of calls that are alike preserve. -/
theorem run_alike {attempt : σ → τ → Attempt σ} (R : σ → σ → Prop) (A : τ → τ → Prop)
    (hstep : ∀ s t c d, R s t → A c d →
      R (attempt s c).left (attempt t d).left ∧ (attempt s c).refusal? = (attempt t d).refusal?)
    {cs ds : List τ} (h : List.Forall₂ A cs ds) {s t : σ} (hs : R s t) :
    R (cs.foldl (fun s c => (attempt s c).left) s) (ds.foldl (fun s c => (attempt s c).left) t) ∧
      refusals attempt s cs = refusals attempt t ds := by
  induction h generalizing s t with
  | nil => exact ⟨hs, rfl⟩
  | @cons c d cs ds hc _ ih =>
    obtain ⟨hleft, hrefusal⟩ := hstep s t c d hs hc
    obtain ⟨hrun, hrefusals⟩ := ih hleft
    refine ⟨hrun, ?_⟩
    rw [refusals, refusals, hrefusal, hrefusals]

end Attempt

/-! ### Selections -/

namespace Select

def skeleton (s : Select) : Select :=
  { s with
    wheres := s.wheres.map (·.map Piece.skeleton)
    havings := s.havings.map (·.map Piece.skeleton)
    bindings := .none }

theorem conditions_skeleton (keyword : String) (cs : List (List Piece)) :
    (conditions keyword cs).map Piece.skeleton =
      conditions keyword (cs.map (·.map Piece.skeleton)) := by
  cases cs with
  | nil => rfl
  | cons c cs =>
    simp only [conditions, List.isEmpty_cons, Bool.false_eq_true, if_false, List.map_cons,
      Piece.between_map_skeleton, Piece.skeleton]

theorem clause_skeleton (keyword separator : String) (entries : List String) :
    (clause keyword separator entries).map Piece.skeleton = clause keyword separator entries := by
  cases entries <;> rfl

theorem pieces_skeleton (s : Select) : s.skeleton.pieces = s.pieces.map Piece.skeleton := by
  have hj : (s.joins.map fun j => Piece.sql (" " ++ j)).map Piece.skeleton =
      s.joins.map fun j => Piece.sql (" " ++ j) := by
    rw [List.map_map]
    rfl
  simp only [pieces, skeleton, List.map_cons, List.map_append, conditions_skeleton,
    clause_skeleton, hj]
  cases s.offset <;> rfl

theorem shape_eq_of_skeleton {s t : Select} (h : s.skeleton = t.skeleton) :
    s.statement.shape = t.statement.shape := by
  have hd : s.skeleton.dialect = t.skeleton.dialect := congrArg Select.dialect h
  have hp : s.pieces.map Piece.skeleton = t.pieces.map Piece.skeleton := by
    rw [← pieces_skeleton, h, pieces_skeleton]
  change (Piece.statement s.skeleton.dialect s.bindings s.pieces).shape = _
  rw [hd]
  exact Piece.shape_statement hp t.dialect s.bindings t.bindings

/-- Two selections with one skeleton are the same but for slots and values. -/
theorem exists_of_skeleton {s t : Select} (h : s.skeleton = t.skeleton) :
    ∃ wheres havings bindings, t = { s with wheres, havings, bindings } ∧
      s.wheres.map (·.map Piece.skeleton) = wheres.map (·.map Piece.skeleton) ∧
      s.havings.map (·.map Piece.skeleton) = havings.map (·.map Piece.skeleton) := by
  cases s
  cases t
  simp only [skeleton, Select.mk.injEq] at h
  obtain ⟨rfl, rfl, rfl, rfl, hw, hh, rfl, rfl, rfl, rfl, -⟩ := h
  exact ⟨_, _, _, rfl, hw, hh⟩

/-- Where a condition of one filter is added to some clause, it has the skeleton of a condition of
any filter that is the same but for its values. -/
theorem clause_skeleton_append {cs cs' : List (List Piece)}
    (h : cs.map (·.map Piece.skeleton) = cs'.map (·.map Piece.skeleton)) {f g : Filter}
    (hf : f.Alike g) (d : Dialect) (n m : Nat) :
    (cs ++ [f.pieces d n]).map (·.map Piece.skeleton) =
      (cs' ++ [g.pieces d m]).map (·.map Piece.skeleton) := by
  simp only [List.map_append, h, List.map_cons, List.map_nil, hf.skeleton_pieces d n m]

theorem addWhere_skeleton {s t : Select} (h : s.skeleton = t.skeleton) {f g : Filter}
    (hf : f.Alike g) :
    (s.addWhere f).left.skeleton = (t.addWhere g).left.skeleton ∧
      (s.addWhere f).refusal? = (t.addWhere g).refusal? := by
  obtain ⟨wheres, havings, bindings, rfl, hw, hh⟩ := exists_of_skeleton h
  simp only [addWhere_eq, hf.enabled, hf.refusal?]
  cases g.enabled with
  | false => exact ⟨h, rfl⟩
  | true =>
    cases g.refusal? with
    | some e => exact ⟨h, rfl⟩
    | none =>
      have hc := clause_skeleton_append hw hf s.dialect s.bindings.values.length
        bindings.values.length
      simp only [if_true, Attempt.left, Attempt.refusal?, skeleton, hc, hh, and_self]

theorem addHaving_skeleton {s t : Select} (h : s.skeleton = t.skeleton) {f g : Filter}
    (hf : f.Alike g) :
    (s.addHaving f).left.skeleton = (t.addHaving g).left.skeleton ∧
      (s.addHaving f).refusal? = (t.addHaving g).refusal? := by
  obtain ⟨wheres, havings, bindings, rfl, hw, hh⟩ := exists_of_skeleton h
  simp only [addHaving_eq, hf.enabled, hf.refusal?]
  cases g.enabled with
  | false => exact ⟨h, rfl⟩
  | true =>
    cases g.refusal? with
    | some e => exact ⟨h, rfl⟩
    | none =>
      have hc := clause_skeleton_append hh hf s.dialect s.bindings.values.length
        bindings.values.length
      simp only [if_true, Attempt.left, Attempt.refusal?, skeleton, hc, hw, and_self]

/-- The conditions of a search on some columns, whose pattern is in slot `n`. -/
def searchPieces (d : Dialect) (columns : List String) (n : Nat) : List Piece :=
  .sql "(" :: (Piece.between " OR " (columns.map fun c =>
    [Piece.sql ("LOWER(" ++ d.column c ++ ") LIKE "), Piece.param n]) ++ [.sql ")"])

theorem addSearch_eq (s : Select) (columns : List String) (term : String) :
    s.addSearch columns term =
      if Text.allBlank term = true ∨ columns = [] then s
      else { s with
        wheres := s.wheres ++ [searchPieces s.dialect columns s.bindings.values.length]
        bindings := ⟨s.bindings.values ++ [searchPattern (Text.trimmed term)]⟩ } := by
  simp only [addSearch, Text.trimmed_eq_empty_iff]
  rfl

theorem searchPieces_skeleton (d : Dialect) (columns : List String) (n : Nat) :
    (searchPieces d columns n).map Piece.skeleton = searchPieces d columns 0 := by
  simp [searchPieces, Piece.between_map_skeleton, Piece.skeleton, Function.comp_def]

theorem addSearch_skeleton {s t : Select} (h : s.skeleton = t.skeleton) (columns : List String)
    {term term' : String} (hb : Text.allBlank term = Text.allBlank term') :
    (s.addSearch columns term).skeleton = (t.addSearch columns term').skeleton := by
  obtain ⟨wheres, havings, bindings, rfl, hw, hh⟩ := exists_of_skeleton h
  simp only [addSearch_eq, hb]
  split
  · exact h
  · simp only [skeleton, List.map_append, hw, hh, List.map_cons, List.map_nil,
      searchPieces_skeleton]

/-- Steps that are the same but for their values lead from one skeleton to one skeleton, and are
refused for the same reason or both not refused. -/
theorem attempt_skeleton {s t : Select} (h : s.skeleton = t.skeleton) {st st' : Step}
    (ha : st.Alike st') :
    (s.attempt st).left.skeleton = (t.attempt st').left.skeleton ∧
      (s.attempt st).refusal? = (t.attempt st').refusal? := by
  cases ha with
  | condition hf => exact addWhere_skeleton h hf
  | having hf => exact addHaving_skeleton h hf
  | search columns ht hu =>
    simp only [attempt, Attempt.left, Attempt.refusal?, and_true]
    exact addSearch_skeleton h columns (ht.trans hu.symm)
  | same =>
    cases st with
    | condition f => exact addWhere_skeleton h (.refl f)
    | having f => exact addHaving_skeleton h (.refl f)
    | search columns term =>
      simp only [attempt, Attempt.left, Attempt.refusal?, and_true]
      exact addSearch_skeleton h columns rfl
    | columns cs =>
      obtain ⟨wheres, havings, bindings, rfl, hw, hh⟩ := exists_of_skeleton h
      simp only [attempt, setColumns]
      cases cs.mapM (·.entry s.dialect) <;>
        simp only [Attempt.left, Attempt.refusal?, skeleton, hw, hh, and_self]
    | join j =>
      obtain ⟨wheres, havings, bindings, rfl, hw, hh⟩ := exists_of_skeleton h
      simp only [attempt, addJoin]
      cases Sql.checkJoin s.dialect j.on <;>
        simp only [Attempt.left, Attempt.refusal?, skeleton, hw, hh, and_self]
    | group c =>
      obtain ⟨wheres, havings, bindings, rfl, hw, hh⟩ := exists_of_skeleton h
      simp only [attempt, addGroup]
      cases c.expression s.dialect with
      | error e => simp only [Attempt.left, Attempt.refusal?, skeleton, hw, hh, and_self]
      | ok e =>
        simp only [Attempt.left, Attempt.refusal?, and_true]
        split <;> simp only [skeleton, hw, hh]
    | order target direction =>
      obtain ⟨wheres, havings, bindings, rfl, hw, hh⟩ := exists_of_skeleton h
      simp only [attempt, addOrder, Attempt.left, Attempt.refusal?, skeleton, hw, hh, and_self]
    | limit n =>
      obtain ⟨wheres, havings, bindings, rfl, hw, hh⟩ := exists_of_skeleton h
      simp only [attempt, setLimit, Attempt.left, Attempt.refusal?, skeleton, hw, hh, and_self]
    | offset n =>
      obtain ⟨wheres, havings, bindings, rfl, hw, hh⟩ := exists_of_skeleton h
      simp only [attempt, setOffset, Attempt.left, Attempt.refusal?, skeleton, hw, hh, and_self]

end Select

/-! ### Assignments -/

namespace Assignment

theorem skeleton_placedAt (n : Nat) (a : Assignment) : (a.placedAt n).skeleton = a.placedAt 0 := by
  cases h : a.value.rawExpression? <;> simp only [placedAt, h, Piece.skeleton]

namespace Alike

variable {a b : Assignment}

theorem target (h : a.Alike b) (d : Dialect) : a.target d = b.target d := by
  simp only [Assignment.target, h.column]

theorem refusal? (h : a.Alike b) (d : Dialect) : a.refusal? d = b.refusal? d := by
  rcases h.value with hv | ⟨ha, hb⟩
  · simp only [Assignment.refusal?, hv]
  · simp only [Assignment.refusal?, ha, hb]

theorem placedAt (h : a.Alike b) (n : Nat) : a.placedAt n = b.placedAt n := by
  rcases h.value with hv | ⟨ha, hb⟩
  · simp only [Assignment.placedAt, hv]
  · simp only [Assignment.placedAt, ha, hb]

variable {as bs : List Assignment}

theorem isEmpty_eq (h : List.Forall₂ Assignment.Alike as bs) : as.isEmpty = bs.isEmpty := by
  cases h <;> rfl

theorem findSome?_refusal? (h : List.Forall₂ Assignment.Alike as bs) (d : Dialect) :
    as.findSome? (Assignment.refusal? d) = bs.findSome? (Assignment.refusal? d) := by
  induction h with
  | nil => rfl
  | cons hab _ ih => simp only [List.findSome?_cons, hab.refusal? d, ih]

end Alike

end Assignment

theorem Assignment.Alike.refl (a : Assignment) : a.Alike a := ⟨rfl, .inl rfl⟩

/-! ### Inserts and updates -/

/-- The same insert but for the values. -/
structure Insert.Alike (s t : Insert) : Prop where
  dialect : s.dialect = t.dialect
  table : s.table = t.table
  values : List.Forall₂ Assignment.Alike s.values t.values

namespace Insert.Alike

variable {s t : Insert}

theorem refl (s : Insert) : s.Alike s := ⟨rfl, rfl, List.forall₂_same.2 fun a _ => .refl a⟩

theorem skeleton_accepted (h : s.Alike t) :
    s.accepted.map Piece.skeleton = t.accepted.map Piece.skeleton := by
  have ht : s.values.map (·.target t.dialect) = t.values.map (·.target t.dialect) :=
    map_eq_of_forall₂ h.values fun _ _ hab => hab.target t.dialect
  have hp : s.values.map (fun a => [a.placedAt 0]) = t.values.map (fun a => [a.placedAt 0]) :=
    map_eq_of_forall₂ h.values fun a b hab => by rw [hab.placedAt 0]
  have hv : ∀ vs : List Assignment,
      ((placed Assignment.placedAt Assignment.bound 0 vs).map ([·])).map (·.map Piece.skeleton) =
        vs.map fun a => [a.placedAt 0] := by
    intro vs
    rw [map_placed, map_placed]
    exact placed_eq_map (fun n a => by simp [a.skeleton_placedAt n]) _ _ _
  simp only [accepted, List.map_cons, List.map_append, Piece.between_map_skeleton, hv, hp, ht,
    h.dialect, h.table]

theorem refusal? (h : s.Alike t) : s.refusal? = t.refusal? := by
  simp only [Insert.refusal?, Assignment.Alike.isEmpty_eq h.values,
    Assignment.Alike.findSome?_refusal? h.values, h.dialect]

theorem shape (h : s.Alike t) :
    s.statement.map Statement.shape = t.statement.map Statement.shape := by
  simp only [statement_eq, h.refusal?]
  cases t.refusal? with
  | some e => rfl
  | none =>
    have hs := Piece.shape_statement h.skeleton_accepted t.dialect
      ⟨s.values.flatMap Assignment.bound⟩ ⟨t.values.flatMap Assignment.bound⟩
    simp only [Except.map, h.dialect, hs]

theorem run {rows rows' : List (List Assignment)}
    (hr : List.Forall₂ (List.Forall₂ Assignment.Alike) rows rows') (h : s.Alike t) :
    (rows.foldl setValues s).Alike (rows'.foldl setValues t) := by
  induction hr generalizing s t with
  | nil => exact h
  | cons hv _ ih => exact ih ⟨h.dialect, h.table, hv⟩

end Insert.Alike

/-- The same update but for slots and values. -/
structure Update.Alike (s t : Update) : Prop where
  dialect : s.dialect = t.dialect
  table : s.table = t.table
  values : List.Forall₂ Assignment.Alike s.values t.values
  wheres : s.wheres.map (·.map Piece.skeleton) = t.wheres.map (·.map Piece.skeleton)

theorem Update.skeleton_assignmentAt (d : Dialect) (n : Nat) (a : Assignment) :
    (assignmentAt d n a).map Piece.skeleton = assignmentAt d 0 a := by
  rw [assignmentAt, List.map_cons, List.map_cons, a.skeleton_placedAt n]
  rfl

namespace Update.Alike

variable {s t : Update}

theorem refl (s : Update) : s.Alike s := ⟨rfl, rfl, List.forall₂_same.2 fun a _ => .refl a, rfl⟩

theorem skeleton_accepted (h : s.Alike t) :
    s.accepted.map Piece.skeleton = t.accepted.map Piece.skeleton := by
  have hv : ∀ (n : Nat) (vs : List Assignment) (d : Dialect),
      (placed (assignmentAt d) Assignment.bound n vs).map (·.map Piece.skeleton) =
        vs.map fun a => assignmentAt d 0 a := by
    intro n vs d
    rw [map_placed]
    exact placed_eq_map (skeleton_assignmentAt d) _ _ _
  have hp : s.values.map (assignmentAt t.dialect 0) = t.values.map (assignmentAt t.dialect 0) :=
    map_eq_of_forall₂ h.values fun a b hab => by
      rw [assignmentAt, assignmentAt, hab.placedAt 0, hab.target]
  have hw : (if s.wheres.isEmpty then [] else
        Piece.sql " WHERE " :: Piece.between " AND " s.wheres).map Piece.skeleton =
      (if t.wheres.isEmpty then [] else
        Piece.sql " WHERE " :: Piece.between " AND " t.wheres).map Piece.skeleton := by
    have hs := Select.conditions_skeleton " WHERE " s.wheres
    have ht := Select.conditions_skeleton " WHERE " t.wheres
    rw [Select.conditions] at hs ht
    rw [hs, ht, h.wheres]
  simp only [accepted, List.map_cons, List.map_append, Piece.between_map_skeleton, hv, hp, hw,
    h.dialect, h.table]

theorem refusal? (h : s.Alike t) : s.refusal? = t.refusal? := by
  simp only [Update.refusal?, Assignment.Alike.isEmpty_eq h.values,
    Assignment.Alike.findSome?_refusal? h.values, h.dialect]

theorem shape (h : s.Alike t) :
    s.statement.map Statement.shape = t.statement.map Statement.shape := by
  simp only [statement_eq, h.refusal?]
  cases t.refusal? with
  | some e => rfl
  | none =>
    have hs := Piece.shape_statement h.skeleton_accepted t.dialect
      ⟨s.bindings.values ++ s.values.flatMap Assignment.bound⟩
      ⟨t.bindings.values ++ t.values.flatMap Assignment.bound⟩
    simp only [Except.map, h.dialect, hs]

/-- Steps that are the same but for their values keep updates the same but for slots and values, and
are refused for the same reason or both not refused. -/
theorem attempt (h : s.Alike t) {st st' : Step} (ha : st.Alike st') :
    (s.attempt st).left.Alike (t.attempt st').left ∧
      (s.attempt st).refusal? = (t.attempt st').refusal? := by
  cases ha with
  | values hv => exact ⟨⟨h.dialect, h.table, hv, h.wheres⟩, rfl⟩
  | @condition f g hf =>
    simp only [Update.attempt, addWhere_eq, hf.enabled, hf.refusal?]
    cases g.enabled with
    | false => exact ⟨h, rfl⟩
    | true =>
      cases g.refusal? with
      | some e => exact ⟨h, rfl⟩
      | none =>
        refine ⟨⟨h.dialect, h.table, h.values, ?_⟩, rfl⟩
        rw [h.dialect]
        exact Select.clause_skeleton_append h.wheres hf t.dialect _ _

end Update.Alike

end QueryDesk
