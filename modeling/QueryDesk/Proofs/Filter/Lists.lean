import QueryDesk.Proofs.Filter.RoundTrip

/-!
# Typed lists

A list of literals in brackets behind `IN` or `NOT IN` is read as the values of its items, one for
each and in their order, whatever stands between the quotes of its texts and whatever blanks stand
around its items. The texts of a list and the text behind a comparison are taken out of their quotes
by different scans, which agree on every typed literal.

Main statement: `typed_list_read`.
-/

namespace QueryDesk.Notation

theorem read?_comparison {o : Operator} (ho : isComparison o = true) (i : ListItem) :
    read? (o.symbol ++ " " ++ String.ofList i.typed) =
      .ok (some ⟨o, [.literal i.literal.value]⟩) := by
  have htext : (o.symbol ++ " " ++ String.ofList i.typed).toList =
      (o.symbol.toList ++ ' ' :: (i.front ++ i.literal.typed)) ++ i.back := by
    simp [ListItem.typed]
  have hlast : ∀ c ∈ (i.front ++ i.literal.typed).getLast?, Text.isBlank c = false := by
    intro c hc
    rw [List.getLast?_append] at hc
    cases hl : i.literal.typed.getLast? with
    | none => exact absurd (List.getLast?_eq_none_iff.mp hl) i.literal.typed_ne_nil
    | some d => exact i.literal.not_isBlank_ends.2 c (by simpa [hl] using hc)
  have hne : i.front ++ i.literal.typed ≠ [] := by simp [i.literal.typed_ne_nil]
  have hfront := trim_symbol_append o hlast hne
  have hseen : ¬∀ c ∈ o.symbol.toList ++ ' ' :: (i.front ++ i.literal.typed),
      Text.isBlank c = true :=
    fun h => i.literal.exists_not_isBlank fun c hc => h c (by simp [hc])
  have hleft : Text.trimLeft (i.front ++ i.literal.typed) = i.literal.typed := by
    obtain ⟨c, r, hcr⟩ := List.exists_cons_of_ne_nil i.literal.typed_ne_nil
    have hc := i.literal.not_isBlank_ends.1
    rw [Text.trimLeft_blanks_append i.front_blank]
    rw [hcr] at hc ⊢
    exact Text.trimLeft_of_head (hc c rfl) r
  rw [read?, htext, Text.trim_append_blanks i.back_blank hseen, hfront, readBy_comparison ho,
    hleft, Tail.operands, i.literal.scalar_typed]
  rfl

theorem read?_items {o : Operator} (ho : o.isList = true) (items : List ListItem) :
    read? (o.symbol ++ " (" ++ ListItem.join items ++ ")") =
      .ok (some ⟨o, items.map fun i => .literal i.literal.value⟩) := by
  rw [read?_brackets ho, Tail.operands, list_items]
  simp [Except.map]

/-- A typed list is read as the values of its items, none lost, merged or cut, and each item alone
behind `=` as that same value. -/
theorem typed_list_read (items : List ListItem) :
    read? ("IN (" ++ ListItem.join items ++ ")") =
        .ok (some ⟨.isIn, items.map fun i => .literal i.literal.value⟩) ∧
      read? ("NOT IN (" ++ ListItem.join items ++ ")") =
        .ok (some ⟨.notIn, items.map fun i => .literal i.literal.value⟩) ∧
      ∀ i ∈ items, read? ("= " ++ String.ofList i.literal.typed) =
        .ok (some ⟨.eq, [.literal i.literal.value]⟩) := by
  have hin : Operator.isIn.symbol ++ " (" = "IN (" := by decide
  have hnotIn : Operator.notIn.symbol ++ " (" = "NOT IN (" := by decide
  have heq : Operator.eq.symbol ++ " " = "= " := by decide
  refine ⟨?_, ?_, fun i _ => ?_⟩
  · rw [← hin]
    exact read?_items rfl items
  · rw [← hnotIn]
    exact read?_items rfl items
  · have hbare : (ListItem.bare i.literal).typed = i.literal.typed := by
      simp [ListItem.bare, ListItem.typed]
    rw [← heq, ← hbare]
    exact read?_comparison rfl (.bare i.literal)

/-- `'a,)('"\n\\'` -/
def crowdedText : QuotedText where
  quote := '\''
  marks := [⟨'a', false⟩, ⟨',', false⟩, ⟨')', false⟩, ⟨'\'', true⟩, ⟨'"', false⟩, ⟨'\n', false⟩,
    ⟨'\\', true⟩]
  isQuote := by decide
  guarded := by decide

/-- The least integer, with zeros in front. -/
def leastNumeral : Numeral where
  sign := .minus
  digits := "009223372036854775808".toList
  value := Int64.minValue
  digits_ne_nil := by decide
  isDigit := by simp
  toInt_value := by decide

theorem typed_list_read_crowded :
    read? "NOT IN ( \t'a,)\\'\"\n\\\\'  ,-009223372036854775808)" =
      .ok (some ⟨.notIn,
        [.literal (.text "a,)'\"\n\\"), .literal (.int (-9223372036854775808))]⟩) := by
  have hfront : ∀ c ∈ [' ', '\t'], Text.isBlank c = true :=
    List.forall_mem_cons.2 ⟨rfl, List.forall_mem_singleton.2 rfl⟩
  have hback : ∀ c ∈ [' ', ' '], Text.isBlank c = true :=
    List.forall_mem_cons.2 ⟨rfl, List.forall_mem_singleton.2 rfl⟩
  exact (typed_list_read [⟨[' ', '\t'], .quoted crowdedText, [' ', ' '], hfront, hback⟩,
    .bare (.numeral leastNumeral)]).2.1

end QueryDesk.Notation
