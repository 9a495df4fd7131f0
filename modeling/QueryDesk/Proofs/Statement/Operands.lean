import QueryDesk.Proofs.Statement.Alignment

/-!
# Operands in the text

An operand that names a column is meant as that column: its quoted name stands in the text of the
condition and nothing is bound for it, while every other operand has a placeholder and a parameter of
its own. Comparisons and lists do so. The pattern operators look at the value alone: they bind it as
a pattern, also where it names a column.

Main statement: `Filter.operands_of_condition`.
-/

namespace QueryDesk

namespace Operand

/-- The operand in the text, with `n` placeholders in front of it. -/
def shown (d : Dialect) (n : Nat) (o : Operand) : String :=
  match o.reference? with
  | some name => d.column name
  | none => d.placeholder (n + 1)

def literals (os : List Operand) : List Value :=
  (os.filter fun o => o.reference?.isNone).map (·.value)

theorem flatMap_bound (os : List Operand) : os.flatMap bound = literals os := by
  induction os with
  | nil => rfl
  | cons o os ih =>
    rw [literals] at ih ⊢
    rw [List.flatMap_cons, ih, List.filter_cons, bound]
    cases o.reference? <;> rfl

theorem textAfter_placedAt (d : Dialect) (n slot : Nat) (o : Operand) :
    Piece.textAfter d n [o.placedAt d slot] = o.shown d n := by
  cases h : o.reference? <;> simp [placedAt, shown, h, Piece.textAfter]

end Operand

/-- Asks for what does not match. -/
def Operator.negates : Operator → Bool
  | notLike | notContains => true
  | _ => false

namespace Filter

def used (f : Filter) : List Operand :=
  if f.operator.isNullCheck then []
  else if f.operator.isList then f.operands
  else f.operands.take 1

/-- What stands in front of the operands of a comparison or of a list. -/
def opening (f : Filter) (d : Dialect) : String :=
  f.subject d ++ " " ++ f.operator.symbol ++
    if f.operator.isNullCheck then "" else if f.operator.isList then " (" else " "

def closing (f : Filter) : String := if f.operator.isList then ")" else ""

/-- The operands in the text, with `n` placeholders in front of them. -/
def shown (f : Filter) (d : Dialect) (n : Nat) : List String :=
  placed (Operand.shown d) Operand.bound n f.used

theorem bound_of_not_isPattern {f : Filter} (h : f.operator.isPattern = false) :
    f.bound = Operand.literals f.used := by
  rw [← Operand.flatMap_bound]
  cases ho : f.operator with
  | like | notLike | contains | notContains => rw [ho] at h; cases h
  | _ => simp [bound, used, ho, Operator.isNullCheck, Operator.isList]

theorem textAfter_operands (d : Dialect) (n : Nat) (os : List Operand) :
    Piece.textAfter d n (Piece.between ", " ((Operand.pieces d n os).map ([·]))) =
      Text.join ", " (placed (Operand.shown d) Operand.bound n os) := by
  have hlength : ∀ (n : Nat) (o : Operand),
      (Piece.slots [o.placedAt d n]).length = o.bound.length := by
    intro n o
    rw [Operand.slots_placedAt, List.length_range']
  have htext := Piece.textAfter_between_placed hlength ", " d n os
  simp only [Operand.textAfter_placedAt] at htext
  rw [Operand.pieces, map_placed, htext]

theorem textAfter_of_not_isPattern {f : Filter} (h : f.operator.isPattern = false) (d : Dialect)
    (n slot : Nat) :
    Piece.textAfter d n (f.pieces d slot) =
      f.opening d ++ Text.join ", " (f.shown d n) ++ f.closing := by
  rw [Update.textAfter_pieces, ← Update.textAfter_pieces d n n]
  have hone : Piece.between ", " ((Operand.pieces d n (f.operands.take 1)).map ([·])) =
      Operand.pieces d n (f.operands.take 1) := by
    cases f.operands <;> rfl
  have htext := textAfter_operands d n
  cases ho : f.operator with
  | like | notLike | contains | notContains => rw [ho] at h; cases h
  | isNull | isNotNull =>
    simp [pieces, opening, closing, shown, used, ho, Operator.isNullCheck, Operator.isList,
      Piece.textAfter, placed, Text.join]
  | isIn | notIn =>
    simp [pieces, opening, closing, shown, used, ho, Operator.isNullCheck, Operator.isList,
      Piece.textAfter, Piece.textAfter_append, htext, String.append_assoc]
  | _ =>
    rw [shown, used, ← htext]
    simp [pieces, opening, closing, ho, Operator.isNullCheck, Operator.isList, Piece.textAfter,
      hone, String.append_assoc]

/-- The operands of a condition with `n` placeholders in front of it, in its text and among the
values that come to be bound. -/
structure OperandsShown (f : Filter) (d : Dialect) (n : Nat) (text : String) (values : List Value)
    (shown : List String) : Prop where
  text : text = f.opening d ++ Text.join ", " shown ++ f.closing
  length : shown.length = f.used.length
  column : ∀ (i : Nat) (name : String), f.used[i]? = some ⟨.text name, true⟩ →
    shown[i]? = some (d.column name)
  literal : ∀ (i : Nat) (o : Operand), f.used[i]? = some o → o.reference? = none →
    shown[i]? = some (d.placeholder (n + (Operand.literals (f.used.take i)).length + 1))
  values : values = Operand.literals f.used

theorem operandsShown {f : Filter} (h : f.operator.isPattern = false) (d : Dialect) (n slot : Nat) :
    f.OperandsShown d n (Piece.textAfter d n (f.pieces d slot)) f.bound (f.shown d n) where
  text := textAfter_of_not_isPattern h d n slot
  length := length_placed n f.used
  column := by
    intro i name hi
    rw [shown, getElem?_placed hi, Operand.shown]
    rfl
  literal := by
    intro i o hi ho
    rw [shown, getElem?_placed hi, Operand.shown, ho, Operand.flatMap_bound]
  values := bound_of_not_isPattern h

theorem pattern_shown {f : Filter} (h : f.operator.isPattern = true) {o : Operand}
    (first : f.operands.head? = some o) (d : Dialect) (n slot : Nat) :
    Piece.textAfter d n (f.pieces d slot) = f.subject d ++ " " ++
        d.likeWord f.operator.negates ++ " " ++
        d.placeholder (n + 1) ∧
      f.bound = [f.pattern o.value] := by
  obtain ⟨os, hos⟩ := List.head?_eq_some_iff.mp first
  cases ho : f.operator with
  | like | notLike | contains | notContains =>
    simp [pieces, bound, ho, hos, Operator.negates, Piece.textAfter, String.append_assoc]
  | _ => rw [ho] at h; cases h

/-- What an accepted condition makes of its operands. Of a comparison, of a list and of a check for
null, those that name columns stand quoted in the text and bind nothing, and the others have each
their placeholder and their parameter. A pattern operator binds its first operand as a pattern, be it
the name of a column or not. Either way each bound value is named by one parameter, in the order of
the text. -/
theorem operands_of_condition (f : Filter) (d : Dialect) {b b' : Bindings} {ps : List Piece}
    (accepted : (f.condition d).outcome b = (.ok ps, b')) :
    ∃ values, b'.values = b.values ++ values ∧
      Piece.slots ps = List.range' b.values.length values.length ∧
      (f.operator.isPattern = false → ∀ n, ∃ shown,
        f.OperandsShown d n (Piece.textAfter d n ps) values shown) ∧
      (f.operator.isPattern = true → ∃ o, f.operands.head? = some o ∧
        values = [f.pattern o.value] ∧ ∀ n, Piece.textAfter d n ps = f.subject d ++ " " ++
          d.likeWord f.operator.negates ++ " " ++
          d.placeholder (n + 1)) := by
  have hcondition := f.condition_outcome d b
  cases hr : f.refusal? with
  | some e => rw [accepted, hr] at hcondition; cases hcondition
  | none =>
    rw [accepted, hr] at hcondition
    cases hcondition
    refine ⟨f.bound, rfl, f.slots_pieces d _, fun hp n => ⟨_, operandsShown hp d n _⟩, fun hp => ?_⟩
    have hne : f.operands ≠ [] := by
      intro hnil
      cases ho : f.operator with
      | like | notLike | contains | notContains =>
        simp only [refusal?, ho, hnil, List.isEmpty_nil, if_true] at hr
        split at hr <;> cases hr
      | _ => rw [ho] at hp; cases hp
    obtain ⟨o, os, ho⟩ := List.exists_cons_of_ne_nil hne
    have hfirst : f.operands.head? = some o := by rw [ho]; rfl
    exact ⟨o, hfirst, (pattern_shown hp hfirst d 0 0).2,
      fun n => (pattern_shown hp hfirst d n _).1⟩

/-- In a list of a value, a column and a value the column stands quoted between two placeholders. -/
theorem operands_of_condition_mixed :
    let f := Filter.on "t.a" .isIn [.literal (.int 1), ⟨.text "t.b", true⟩, .literal (.text "x")]
    ∃ ps, (f.condition .postgres).outcome ⟨[.null]⟩ = (.ok ps, ⟨[.null, .int 1, .text "x"]⟩) ∧
      ∃ shown, f.OperandsShown .postgres 1 "\"t\".\"a\" IN ($2, \"t\".\"b\", $3)"
        [.int 1, .text "x"] shown := by
  intro f
  have h : (f.condition .postgres).outcome ⟨[.null]⟩ =
      (.ok [.sql "\"t\".\"a\" IN (", .param 1, .sql ", ", .sql "\"t\".\"b\"", .sql ", ",
        .param 2, .sql ")"], ⟨[.null, .int 1, .text "x"]⟩) := by decide
  obtain ⟨values, hvalues, -, hshown, -⟩ := operands_of_condition f .postgres h
  obtain rfl : [.int 1, .text "x"] = values := by simpa using hvalues
  exact ⟨_, h, hshown rfl 1⟩

/-- Where a column is matched with the column `users.nick`, the name is bound as text. -/
theorem column_bound_as_pattern :
    ∃ ps b', ((Filter.on "users.name" .like [⟨.text "users.nick", true⟩]).condition
        .mysql).outcome .none = (.ok ps, b') ∧
      Text.includes (Piece.textAfter .mysql 0 ps) (Dialect.mysql.column "users.nick") = false ∧
      b'.values = [.text "users.nick"] :=
  ⟨[.sql "`users`.`name` LIKE ", .param 0], ⟨[.text "users.nick"]⟩, by decide, by decide, rfl⟩

end Filter

end QueryDesk
