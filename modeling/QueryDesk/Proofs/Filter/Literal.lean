import QueryDesk.Proofs.Filter.Typed
import QueryDesk.Proofs.Number.Digits

/-!
# Literals of the filter notation

A value as it is written is one of the ways to type it: an integer by its digits, a text between
double quotes with a backslash in front of each character that could end it. So what holds of
typed literals and of lists of them holds of written values.
-/

namespace QueryDesk

/-! ### Integers -/

namespace Number

/-- The characters of an integer: its digits, behind a minus if it is negative. -/
theorem toList_toString (i : Int) :
    (toString i).toList =
      if 0 ≤ i then Nat.toDigits 10 i.toNat else '-' :: Nat.toDigits 10 (-i).toNat := by
  rw [Int.toString_eq_repr, Int.repr_eq_if]
  split <;> simp

end Number

namespace Notation

theorem mem_numerals_of_mem_toString {i : Int} {c : Char} (h : c ∈ (toString i).toList) :
    c ∈ numerals := by
  rw [Number.toList_toString] at h
  split at h
  · exact mem_numerals_of_isDigit (Number.isDigit_of_mem h)
  · rcases List.mem_cons.mp h with rfl | h
    · decide
    · exact mem_numerals_of_isDigit (Number.isDigit_of_mem h)

def Sign.ofInt (i : Int) : Sign := if 0 ≤ i then none else minus

theorem Sign.apply_ofInt (i : Int) :
    i = (ofInt i).apply (Nat.ofDigitChars 10 (Nat.toDigits 10 i.natAbs) 0) := by
  rw [Nat.ofDigitChars_ten_toDigits, apply, ofInt]
  split
  next h => rw [if_neg (by decide)]; omega
  next h => rw [if_pos rfl]; omega

theorem toDigits_natAbs_ne_nil (i : Int) : Nat.toDigits 10 i.natAbs ≠ [] := Nat.toDigits_ne_nil

theorem isDigit_toDigits_natAbs (i : Int) : ∀ c ∈ Nat.toDigits 10 i.natAbs, c.isDigit = true :=
  fun _ => Number.isDigit_of_mem

theorem Sign.typed_ofInt (i : Int) :
    (ofInt i).typed ++ Nat.toDigits 10 i.natAbs = (toString i).toList := by
  simp only [Number.toList_toString, ofInt]
  split
  next h =>
    have habs : i.toNat = i.natAbs := by omega
    rw [habs]
    rfl
  next h =>
    have habs : (-i).toNat = i.natAbs := by omega
    rw [habs]
    rfl

/-- An integer as it is written: no plus and no zeros in front. -/
def Numeral.ofInt64 (n : Int64) : Numeral where
  sign := .ofInt n.toInt
  digits := Nat.toDigits 10 n.toInt.natAbs
  value := n
  digits_ne_nil := toDigits_natAbs_ne_nil n.toInt
  isDigit := isDigit_toDigits_natAbs n.toInt
  toInt_value := Sign.apply_ofInt n.toInt

theorem Numeral.typed_ofInt64 (n : Int64) : (ofInt64 n).typed = (toString n.toInt).toList :=
  Sign.typed_ofInt n.toInt

/-! ### Quoted texts -/

theorem toList_quote (s : String) : (quote s).toList = '"' :: (escape s.toList ++ ['"']) := by
  simp [quote]

def Mark.ofChar (c : Char) : Mark := ⟨c, decide (c = '\\' ∨ c = '"')⟩

theorem escape_eq_flatMap (cs : List Char) :
    escape cs = (cs.map Mark.ofChar).flatMap Mark.typed := by
  induction cs with
  | nil => rfl
  | cons c r ih =>
    rw [escape, ih, List.map_cons, List.flatMap_cons]
    split
    next h => rw [Mark.typed_escaped (decide_eq_true h)]; rfl
    next h => rw [Mark.typed_bare (decide_eq_false h)]; rfl

/-- A text as it is written: a backslash only where one is needed. -/
def QuotedText.ofString (s : String) : QuotedText where
  quote := '"'
  marks := s.toList.map Mark.ofChar
  isQuote := by decide
  guarded := by
    intro m hm
    obtain ⟨c, -, rfl⟩ := List.mem_map.mp hm
    exact decide_eq_true

theorem QuotedText.typed_ofString (s : String) : (ofString s).typed = (Notation.quote s).toList := by
  rw [toList_quote, escape_eq_flatMap]
  rfl

theorem QuotedText.text_ofString (s : String) : (ofString s).text = s := by
  have hchars : (fun c => (Mark.ofChar c).char) = id := rfl
  simp [text, ofString, Function.comp_def, hchars]

/-! ### One value -/

/-- Texts and integers. -/
inductive Plain : Value → Prop where
  | text (s : String) : Plain (.text s)
  | int (n : Int64) : Plain (.int n)

/-- A written value is typed in one of the ways its literals are. -/
theorem Plain.exists_typed {v : Value} (h : Plain v) :
    ∃ l : Literal, l.typed = (literal v).toList ∧ l.value = v := by
  cases h with
  | text s =>
    refine ⟨.quoted (.ofString s), QuotedText.typed_ofString s, ?_⟩
    rw [Literal.value, QuotedText.text_ofString]
  | int n => exact ⟨.numeral (.ofInt64 n), Numeral.typed_ofInt64 n, rfl⟩

theorem Plain.literal_ne_nil {v : Value} (h : Plain v) : (literal v).toList ≠ [] := by
  obtain ⟨l, hl, -⟩ := h.exists_typed
  exact hl ▸ l.typed_ne_nil

theorem Plain.not_isBlank_ends {v : Value} (h : Plain v) :
    (∀ c ∈ (literal v).toList.head?, Text.isBlank c = false) ∧
      ∀ c ∈ (literal v).toList.getLast?, Text.isBlank c = false := by
  obtain ⟨l, hl, -⟩ := h.exists_typed
  exact hl ▸ l.not_isBlank_ends

theorem Plain.trim_literal {v : Value} (h : Plain v) :
    Text.trim (literal v).toList = (literal v).toList :=
  Text.trim_of_ends h.not_isBlank_ends.1 h.not_isBlank_ends.2

theorem scalar_literal {v : Value} (h : Plain v) : scalar (literal v).toList = .ok v := by
  obtain ⟨l, hl, hv⟩ := h.exists_typed
  rw [← hl, l.scalar_typed, hv]

theorem scalar_quote (s : String) : scalar (quote s).toList = .ok (.text s) := by
  have h := scalar_literal (Plain.text s)
  rwa [literal] at h

/-! ### Lists -/

/-- Written values with `", "` between them are items of which each but the first has a blank in
front. The induction is over any blanks in front of the first. -/
theorem exists_items {v : Value} {vs : List Value} (h : ∀ u ∈ v :: vs, Plain u)
    {front : List Char} (blank : ∀ c ∈ front, Text.isBlank c = true) :
    ∃ i is, (ListItem.join (i :: is)).toList =
        front ++ (Text.join ", " ((v :: vs).map literal)).toList ∧
      (i :: is).map (·.literal.value) = v :: vs := by
  induction vs generalizing v front with
  | nil =>
    obtain ⟨l, hl, hv⟩ := (h v (by simp)).exists_typed
    refine ⟨⟨front, l, [], blank, by simp⟩, [], ?_, by simp [hv]⟩
    simp [ListItem.toList_join_singleton, ListItem.typed, hl, Text.join]
  | cons w vs ih =>
    obtain ⟨l, hl, hv⟩ := (h v (by simp)).exists_typed
    have hspace : ∀ c ∈ [' '], Text.isBlank c = true := by
      have h : Text.isBlank ' ' = true := rfl
      simp [h]
    have hrest : ∀ u ∈ w :: vs, Plain u := fun u hu => h u (by simp [hu])
    obtain ⟨j, is, htext, hvalues⟩ := ih hrest hspace
    refine ⟨⟨front, l, [], blank, by simp⟩, j :: is, ?_, ?_⟩
    · simp [ListItem.toList_join_cons, htext, ListItem.typed, hl, Text.join]
    · rw [List.map_cons, hvalues, hv]

theorem list_join {vs : List Value} (h : ∀ v ∈ vs, Plain v) :
    list (Text.join ", " (vs.map literal)).toList = .ok vs := by
  cases vs with
  | nil => rfl
  | cons v vs =>
    have hblank : ∀ c ∈ ([] : List Char), Text.isBlank c = true := by simp
    obtain ⟨i, is, htext, hvalues⟩ := exists_items h hblank
    rw [List.nil_append] at htext
    rw [← htext, list_items, hvalues]

end Notation

end QueryDesk
