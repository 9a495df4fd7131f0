import QueryDesk.Proofs.Statement.Operands
import QueryDesk.Proofs.Text.Like

/-!
# Texts that are looked for

To keep the rows that contain a text, a filter binds the text between two percent signs, and so does
a search with its term. What is bound is a pattern, and the text in it is read as one.

Main statement: `looked_for_iff_plain`.
-/

namespace QueryDesk

open Text

/-- How the test for a pattern, or the opposite test, looks for a text: as what it is exactly if no
character of it has a meaning of its own in a pattern, and else for what is like it. -/
structure LooksFor (negated : Bool) (pattern text : String) : Prop where
  plain : (∀ s, passes negated pattern s = true ↔ (Occurs text s ↔ negated = false)) ↔
    PatternMark.Plain text.toList
  parts : PatternMark.isClosed text.toList = true → ∀ s,
    like s pattern = true ↔ ∃ part, Occurs part s ∧ like part text = true

theorem looksFor_between_percents (negated : Bool) (text : String) :
    LooksFor negated ("%" ++ text ++ "%") text where
  plain := passes_iff_occurs_iff negated text
  parts h s := like_between_percents_iff h s

/-- The condition of a filter on what contains a text, or on what does not. -/
theorem Filter.outcome_contains (f : Filter) {o : Operand} (d : Dialect) (b : Bindings)
    (operator : f.operator = .contains ∨ f.operator = .notContains)
    (column : allBlank f.column = false) (operand : f.operands.head? = some o) :
    (f.condition d).outcome b =
      (.ok [.sql (f.subject d ++ " " ++ d.likeWord f.operator.negates ++ " "),
        .param b.values.length], ⟨b.values ++ [.text ("%" ++ o.value.display ++ "%")]⟩) := by
  obtain ⟨os, hos⟩ := List.head?_eq_some_iff.mp operand
  rw [condition_outcome]
  rcases operator with ho | ho <;>
    simp [refusal?, column, ho, hos, pieces, bound, pattern, Operator.negates]

theorem Select.addSearch_of_term (s : Select) {columns : List String} {term : String}
    (hterm : allBlank term = false) (hcolumns : columns ≠ []) :
    s.addSearch columns term =
      { s with
        wheres := s.wheres ++ [searchPieces s.dialect columns s.bindings.values.length]
        bindings := ⟨s.bindings.values ++
          [.text ("%" ++ lowercase (trimmed term) ++ "%")]⟩ } := by
  rw [addSearch_eq, if_neg (by simp [hterm, hcolumns])]
  rfl

/-- A filter on what contains a text binds a pattern, and so does a search, whose text is its term
trimmed and in lower case. Each finds that text just where it occurs, and the opposite filter just
where it does not, exactly if there is no percent sign, no underscore and no backslash in it. In
general they find the parts that are like the text, unless it ends with an open backslash. -/
theorem looked_for_iff_plain :
    (∀ (f : Filter) (d : Dialect) (b : Bindings) (o : Operand),
      f.operator = .contains ∨ f.operator = .notContains → allBlank f.column = false →
      f.operands.head? = some o → ∃ p,
        (f.condition d).outcome b =
          (.ok [.sql (f.subject d ++ " " ++ d.likeWord f.operator.negates ++ " "),
            .param b.values.length], ⟨b.values ++ [.text p]⟩) ∧
        LooksFor f.operator.negates p o.value.display) ∧
    ∀ (s : Select) (columns : List String) (term : String),
      allBlank term = false → columns ≠ [] → ∃ p,
        s.addSearch columns term =
          { s with
            wheres := s.wheres ++
              [Select.searchPieces s.dialect columns s.bindings.values.length]
            bindings := ⟨s.bindings.values ++ [.text p]⟩ } ∧
        LooksFor false p (lowercase (trimmed term)) := by
  constructor
  · intro f d b o operator column operand
    exact ⟨_, f.outcome_contains d b operator column operand, looksFor_between_percents _ _⟩
  · intro s columns term hterm hcolumns
    exact ⟨_, s.addSearch_of_term hterm hcolumns, looksFor_between_percents _ _⟩

theorem looked_for_iff_plain_ann :
    (∃ p, ((Filter.on "users.name" .notContains [.literal (.text "ann")]).condition
          .postgres).outcome .none =
        (.ok [.sql "\"users\".\"name\" NOT ILIKE ", .param 0], ⟨[.text p]⟩) ∧
      ∀ s, passes true p s = true ↔ ¬Occurs "ann" s) ∧
    ∃ p, ((Select.ofTable .mysql "users").addSearch ["name"] " Ann ").bindings = ⟨[.text p]⟩ ∧
      ∀ s, passes false p s = true ↔ Occurs "ann" s := by
  have hplain : PatternMark.Plain "ann".toList := by decide
  have hterm : lowercase (trimmed " Ann ") = "ann" := by decide +kernel
  obtain ⟨p, hcondition, hp⟩ := looked_for_iff_plain.1
    (Filter.on "users.name" .notContains [.literal (.text "ann")]) .postgres .none
    (.literal (.text "ann")) (.inr rfl) (by decide) rfl
  obtain ⟨q, hsearch, hq⟩ := looked_for_iff_plain.2 (.ofTable .mysql "users") ["name"] " Ann "
    (by decide) (by decide)
  rw [hterm] at hq
  refine ⟨⟨p, hcondition, fun s => ?_⟩, q, congrArg Select.bindings hsearch, fun s => ?_⟩
  · have hann : LooksFor true p "ann" := hp
    simpa using hann.plain.2 hplain s
  · simpa using hq.plain.2 hplain s

/-- A text with an underscore is found where it does not occur, by a filter and by a search. -/
theorem underscore_found_elsewhere :
    ((Filter.on "users.name" .contains [.literal (.text "a_b")]).condition .mysql).outcome .none =
        (.ok [.sql "`users`.`name` LIKE ", .param 0], ⟨[.text "%a_b%"]⟩) ∧
      ((Select.ofTable .mysql "users").addSearch ["name"] "A_B").bindings =
        ⟨[.text "%a_b%"]⟩ ∧
      like "axb" "%a_b%" = true ∧ ¬Occurs "a_b" "axb" :=
  ⟨by decide, by decide +kernel, by decide, by decide⟩

end QueryDesk
