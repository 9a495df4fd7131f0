import QueryDesk.Proofs.Filter.Literal

/-!
# Filters written and read again

A filter on texts and integers, written for a column of any declared type, reads for that type as
the same operator with the values the operator keeps. A written operator is recognised by the form
it was written in, since no earlier form fits its text. A value written bare has no operator that
could be recognised, and the default of its column is the operator it was written for.
-/

namespace QueryDesk

/-- A type of numbers is no type of texts, so the two defaults never meet. -/
theorem ColumnKind.isText_of_isNumber {declared : String} (h : isNumber declared = true) :
    isText declared = false := by
  have hapart : ∀ t ∈ numberTypes, t ∉ textTypes := by simp [numberTypes, textTypes]
  rw [isNumber, List.contains_iff_mem] at h
  rw [isText, List.contains_eq_mem, decide_eq_false (hapart _ h)]

namespace Notation

/-! ### Operators in front of an operand -/

theorem readBy_cons_of_match {f : Form} {cs body : List Char} (h : f.match? cs = some body)
    (fs : List Form) :
    readBy (f :: fs) cs = (f.tail.operands body).map fun vs => some ⟨f.operator, vs⟩ := by
  rw [readBy, h]

theorem readBy_null {o : Operator} (h : o.isNullCheck = true) :
    readBy forms o.symbol.toList = .ok (some ⟨o, []⟩) := by
  cases o with
  | isNull => rfl
  | isNotNull => rfl
  | _ => cases h

/-- What a form for lists leaves of a text that goes on with brackets. -/
theorem Form.match?_brackets {f : Form} (tail : f.tail = .list) {cs body : List Char}
    (words : afterWords? f.words cs = some (' ' :: '(' :: (body ++ [')']))) :
    f.match? cs = some body := by
  have hlast : (body ++ [')']).getLast? = some ')' := List.getLast?_concat
  have hbody : (body ++ [')']).dropLast = body := List.dropLast_concat
  have htrim : Text.trimLeft (' ' :: '(' :: (body ++ [')'])) = '(' :: (body ++ [')']) := rfl
  simp [Form.match?, words, tail, htrim, hlast, hbody]

theorem readBy_list {o : Operator} (h : o.isList = true) (body : List Char) :
    readBy forms (o.symbol.toList ++ ' ' :: '(' :: (body ++ [')'])) =
      (Tail.list.operands body).map fun vs => some ⟨o, vs⟩ := by
  cases o with
  | isIn =>
    have hmatch : Form.match? ⟨.isIn, ["in"], .list⟩
        (Operator.isIn.symbol.toList ++ ' ' :: '(' :: (body ++ [')'])) = some body :=
      Form.match?_brackets rfl rfl
    exact readBy_cons_of_match hmatch (forms.drop 6)
  | notIn =>
    have hmatch : Form.match? ⟨.notIn, ["not", "in"], .list⟩
        (Operator.notIn.symbol.toList ++ ' ' :: '(' :: (body ++ [')'])) = some body :=
      Form.match?_brackets rfl rfl
    exact readBy_cons_of_match hmatch (forms.drop 5)
  | _ => cases h

theorem readBy_pattern {o : Operator} (h : o.isPattern = true) (body : List Char) :
    readBy forms (o.symbol.toList ++ ' ' :: '"' :: body) =
      (Tail.quoted.operands ('"' :: body)).map fun vs => some ⟨o, vs⟩ := by
  cases o with
  | like => rfl
  | notLike => rfl
  | contains => rfl
  | notContains => rfl
  | _ => cases h

def isComparison (o : Operator) : Bool := !o.isNullCheck && !o.isList && !o.isPattern

theorem readBy_comparison {o : Operator} (h : isComparison o = true) (body : List Char) :
    readBy forms (o.symbol.toList ++ ' ' :: body) =
      (Tail.scalar.operands (Text.trimLeft body)).map fun vs => some ⟨o, vs⟩ := by
  cases o with
  | eq => rfl
  | differs => rfl
  | bangEq => rfl
  | gt => rfl
  | ge => rfl
  | lt => rfl
  | le => rfl
  | _ => cases h

/-! ### Values without operator -/

def Form.opening? (f : Form) : Option Char := f.words.head?.bind (·.toList.head?)

theorem Form.match?_eq_none {f : Form} {key : Char} (opening : f.opening? = some key) {c : Char}
    (h : sameLetter key c = false) (r : List Char) : f.match? (c :: r) = none := by
  obtain ⟨first, hfirst, hkey⟩ := Option.bind_eq_some_iff.mp opening
  obtain ⟨ws, hws⟩ := List.head?_eq_some_iff.mp hfirst
  obtain ⟨word, hword⟩ := List.head?_eq_some_iff.mp hkey
  have hnone : afterWord? first.toList (c :: r) = none := by
    rw [hword, afterWord?]
    simp [h]
  have hwords : afterWords? f.words (c :: r) = none := by
    rw [hws]
    cases ws with
    | nil => exact hnone
    | cons w ws => simp [afterWords?, hnone]
  simp [Form.match?, hwords]

def openings : List Char := ['n', 'l', 'c', 'i', '>', '<', '!', '=']

theorem opening_of_mem_forms : ∀ f ∈ forms, ∃ key ∈ openings, f.opening? = some key := by
  have h : forms.all (fun f => openings.any fun key => f.opening? == some key) = true := rfl
  simpa using h

theorem readBy_eq_none {fs : List Form} {cs : List Char} (h : ∀ f ∈ fs, f.match? cs = none) :
    readBy fs cs = .ok none := by
  induction fs with
  | nil => rfl
  | cons f fs ih =>
    have hf : f.match? cs = none := h f (by simp)
    rw [readBy, hf]
    exact ih fun g hg => h g (by simp [hg])

theorem readBy_forms_eq_none {c : Char} (h : ∀ key ∈ openings, sameLetter key c = false)
    (r : List Char) : readBy forms (c :: r) = .ok none := by
  apply readBy_eq_none
  intro f hf
  obtain ⟨key, hkey, hopening⟩ := opening_of_mem_forms f hf
  exact Form.match?_eq_none hopening (h key hkey) r

theorem not_opening_quote : ∀ key ∈ openings, sameLetter key '"' = false := by
  have h : openings.all (fun key => !sameLetter key '"') = true := rfl
  simpa using h

theorem not_opening_numeral :
    ∀ c ∈ numerals, ∀ key ∈ openings, sameLetter key c = false := by
  have h : numerals.all (fun c => openings.all fun key => !sameLetter key c) = true := rfl
  simpa using h

theorem read?_literal {v : Value} (h : Plain v) : read? (literal v) = .ok none := by
  rw [read?, h.trim_literal]
  cases h with
  | text s =>
    rw [literal, toList_quote]
    exact readBy_forms_eq_none not_opening_quote _
  | int n =>
    have hmem : ∀ c ∈ (literal (.int n)).toList, c ∈ numerals := fun c hc =>
      mem_numerals_of_mem_toString hc
    obtain ⟨c, r, hcr⟩ := List.exists_cons_of_ne_nil (Plain.int n).literal_ne_nil
    rw [hcr] at hmem ⊢
    exact readBy_forms_eq_none (not_opening_numeral c (hmem c (by simp))) r

/-! ### The round trip -/

theorem read_of_read? {text : String} {r : Reading} (h : read? text = .ok (some r))
    (declared : Option String) : read text declared = .ok r := by
  rw [read, h]
  rfl

theorem read_number {declared : String} (number : ColumnKind.isNumber declared = true) {v : Value}
    (h : Plain v) : read (literal v) (some declared) = .ok ⟨.eq, [.literal v]⟩ := by
  have hscalar : scalar (literal v).toList = .ok v := scalar_literal h
  have hnone := read?_literal h
  have hdefault : Operator.default (some declared) .contains = .eq := by
    simp [Operator.default, ColumnKind.isText_of_isNumber number]
  obtain ⟨c, r, hcr⟩ := List.exists_cons_of_ne_nil h.literal_ne_nil
  rw [hcr] at hscalar
  rw [read, hnone, h.trim_literal, hcr]
  simp [number, hscalar, hdefault, bind, Except.bind, pure, Except.pure]

/-- A text that stands for itself is the value of a column of texts. -/
theorem read_bare {declared s : String} (text : ColumnKind.isText declared = true)
    (h : standsBare s = true) :
    read s (some declared) = .ok ⟨.contains, [.literal (.text s)]⟩ := by
  have hnumber : ColumnKind.isNumber declared = false := by
    cases hn : ColumnKind.isNumber declared with
    | false => rfl
    | true => simp [ColumnKind.isText_of_isNumber hn] at text
  have hdefault : Operator.default (some declared) .contains = .contains := by
    simp [Operator.default, text]
  cases hs : s.toList with
  | nil => simp [standsBare, hs] at h
  | cons c r =>
    simp only [standsBare, hs, Bool.and_eq_true, beq_iff_eq, Bool.not_eq_true'] at h
    obtain ⟨⟨htrim, hquote⟩, hread⟩ := h
    have hnone : read? s = .ok none := by
      split at hread
      · assumption
      · cases hread
    have hbare : isQuoted (c :: r) = false := by simp [isQuoted, hquote]
    have hself : String.ofList (c :: r) = s := by rw [← hs, String.ofList_toList]
    rw [read, hnone, hs, htrim]
    simp [hnumber, hbare, hself, hdefault, bind, Except.bind, pure, Except.pure]

theorem read_null {o : Operator} (h : o.isNullCheck = true) (declared : Option String) :
    read o.symbol declared = .ok ⟨o, []⟩ := by
  have htrim : Text.trim o.symbol.toList = o.symbol.toList := by cases o <;> rfl
  apply read_of_read?
  rw [read?, htrim]
  exact readBy_null h

/-- A text that begins with an operator has no blanks to lose in front. -/
theorem trim_symbol_append (o : Operator) {body : List Char}
    (last : ∀ c ∈ body.getLast?, Text.isBlank c = false) (h : body ≠ []) :
    Text.trim (o.symbol.toList ++ ' ' :: body) = o.symbol.toList ++ ' ' :: body := by
  apply Text.trim_of_ends
  · cases o <;> simp [Operator.symbol] <;> decide
  · obtain ⟨c, r, rfl⟩ := List.exists_cons_of_ne_nil h
    intro d hd
    apply last d
    simpa [List.getLast?_append, List.getLast?_cons_cons] using hd

theorem read_comparison {o : Operator} (ho : isComparison o = true) {v : Value} (h : Plain v)
    (declared : Option String) :
    read (o.symbol ++ " " ++ literal v) declared = .ok ⟨o, [.literal v]⟩ := by
  have htext : (o.symbol ++ " " ++ literal v).toList =
      o.symbol.toList ++ ' ' :: (literal v).toList := by simp
  have hleft : Text.trimLeft (literal v).toList = (literal v).toList := by
    obtain ⟨c, r, hcr⟩ := List.exists_cons_of_ne_nil h.literal_ne_nil
    have hc := h.not_isBlank_ends.1
    rw [hcr] at hc ⊢
    exact Text.trimLeft_of_head (hc c rfl) r
  apply read_of_read?
  rw [read?, htext, trim_symbol_append o h.not_isBlank_ends.2 h.literal_ne_nil,
    readBy_comparison ho, hleft, Tail.operands, scalar_literal h]
  rfl

theorem read_pattern {o : Operator} (ho : o.isPattern = true) (s : String)
    (declared : Option String) :
    read (o.symbol ++ " " ++ quote s) declared = .ok ⟨o, [.literal (.text s)]⟩ := by
  have htext : (o.symbol ++ " " ++ quote s).toList =
      o.symbol.toList ++ ' ' :: (quote s).toList := by simp
  have hlast : ∀ c ∈ (quote s).toList.getLast?, Text.isBlank c = false :=
    (Plain.text s).not_isBlank_ends.2
  have hscalar := scalar_quote s
  apply read_of_read?
  rw [read?, htext, trim_symbol_append o hlast (Plain.text s).literal_ne_nil]
  rw [toList_quote] at hscalar ⊢
  rw [readBy_pattern ho, Tail.operands, hscalar]
  rfl

theorem read?_brackets {o : Operator} (ho : o.isList = true) (body : String) :
    read? (o.symbol ++ " (" ++ body ++ ")") =
      (Tail.list.operands body.toList).map fun vs => some ⟨o, vs⟩ := by
  have htext : (o.symbol ++ " (" ++ body ++ ")").toList =
      o.symbol.toList ++ ' ' :: '(' :: (body.toList ++ [')']) := by simp
  have hlast : ∀ c ∈ ('(' :: (body.toList ++ [')'])).getLast?, Text.isBlank c = false := by
    have hblank : Text.isBlank ')' = false := rfl
    rw [← List.cons_append, List.getLast?_concat]
    simp [hblank]
  rw [read?, htext, trim_symbol_append o hlast (by simp), readBy_list ho]

theorem read_list {o : Operator} (ho : o.isList = true) {vs : List Value}
    (h : ∀ v ∈ vs, Plain v) (declared : Option String) :
    read (o.symbol ++ " (" ++ Text.join ", " (vs.map literal) ++ ")") declared =
      .ok ⟨o, vs.map .literal⟩ := by
  apply read_of_read?
  rw [read?_brackets ho, Tail.operands, list_join h]
  rfl

/-- The operands of a filter that its text gives back: a comparison has one value, a pattern is a
text, a list is kept whole. -/
def kept (f : Filter) : List Operand :=
  if f.operator.isNullCheck then []
  else if f.operator.isList then f.operands
  else if f.operator.isPattern then
    (f.operands.take 1).map fun o => .literal (.text o.value.display)
  else f.operands.take 1

/-- The text of a comparison. The equality of a column of numbers is its bare value. -/
theorem write_comparison {f : Filter} (ho : isComparison f.operator = true) {o : Operand}
    {os : List Operand} (h : f.operands = o :: os) (declared : String) :
    write f declared =
      if f.operator = .eq ∧ ColumnKind.isNumber declared = true then literal o.value
      else f.operator.symbol ++ " " ++ literal o.value := by
  cases hf : f.operator with
  | eq =>
    by_cases hn : ColumnKind.isNumber declared = true
    · simp [write, hf, h, hn]
    · simp [write, hf, h, hn, Operator.symbol]
  | differs => simp [write, hf, h]
  | bangEq => simp [write, hf, h]
  | gt => simp [write, hf, h]
  | ge => simp [write, hf, h]
  | lt => simp [write, hf, h]
  | le => simp [write, hf, h]
  | _ => rw [hf] at ho; cases ho

/-- The text of a pattern. What a column of texts contains is written bare where it can be. -/
theorem write_pattern {f : Filter} (ho : f.operator.isPattern = true) {o : Operand}
    {os : List Operand} (h : f.operands = o :: os) (declared : String) :
    (∃ s, o.value = .text s ∧ f.operator = .contains ∧ ColumnKind.isText declared = true ∧
      standsBare s = true ∧ write f declared = s) ∨
    write f declared = f.operator.symbol ++ " " ++ quote o.value.display := by
  cases hf : f.operator with
  | contains =>
    by_cases ht : ColumnKind.isText declared = true
    · cases hv : o.value with
      | text s =>
        by_cases hb : standsBare s = true
        · exact .inl ⟨s, rfl, rfl, ht, hb, by simp [write, hf, h, ht, hv, hb]⟩
        · exact .inr (by simp [write, hf, h, ht, hv, hb, Operator.symbol, Value.display])
      | _ => exact .inr (by simp [write, hf, h, ht, hv, Operator.symbol])
    · exact .inr (by simp [write, hf, h, ht, Operator.symbol])
  | like => exact .inr (by simp [write, hf, h])
  | notLike => exact .inr (by simp [write, hf, h])
  | notContains => exact .inr (by simp [write, hf, h])
  | _ => rw [hf] at ho; cases ho

/-- The written filter reads as its operator with what the operator keeps, for the same declared
type, whatever the texts are made of. -/
theorem read_write (f : Filter) (declared : String)
    (literals : ∀ o ∈ f.operands, o.isColumn = false ∧ Plain o.value)
    (some_value : f.operator.isNullCheck = false → f.operator.isList = false → f.operands ≠ []) :
    read (write f declared) (some declared) = .ok ⟨f.operator, kept f⟩ := by
  have hself : ∀ o ∈ f.operands, Operand.literal o.value = o := by
    intro o ho
    obtain ⟨v, column⟩ := o
    have hcolumn : column = false := (literals _ ho).1
    rw [hcolumn, Operand.literal]
  by_cases hnull : f.operator.isNullCheck = true
  · have hwrite : write f declared = f.operator.symbol := by
      cases hf : f.operator with
      | isNull => simp [write, hf]
      | isNotNull => simp [write, hf]
      | _ => rw [hf] at hnull; cases hnull
    rw [hwrite, read_null hnull, kept, if_pos hnull]
  by_cases hlist : f.operator.isList = true
  · have hwrite : write f declared = f.operator.symbol ++ " (" ++
        Text.join ", " ((f.operands.map (·.value)).map literal) ++ ")" := by
      cases hf : f.operator with
      | isIn => simp [write, hf, Function.comp_def]
      | notIn => simp [write, hf, Function.comp_def]
      | _ => rw [hf] at hlist; cases hlist
    have hplain : ∀ v ∈ f.operands.map (·.value), Plain v := by
      intro v hv
      obtain ⟨o, ho, rfl⟩ := List.mem_map.mp hv
      exact (literals o ho).2
    have hback : (f.operands.map (·.value)).map Operand.literal = f.operands := by
      rw [List.map_map]
      exact (List.map_congr_left hself).trans (List.map_id' f.operands)
    rw [hwrite, read_list hlist hplain, kept, if_neg hnull, if_pos hlist, hback]
  have hne := some_value (by simpa using hnull) (by simpa using hlist)
  obtain ⟨o, os, ho⟩ := List.exists_cons_of_ne_nil hne
  have hmem : o ∈ f.operands := by simp [ho]
  have hplain := (literals o hmem).2
  by_cases hpattern : f.operator.isPattern = true
  · have hkept : kept f = [.literal (.text o.value.display)] := by
      simp [kept, hnull, hlist, hpattern, ho]
    rw [hkept]
    rcases write_pattern hpattern ho declared with ⟨s, hv, hf, ht, hb, hwrite⟩ | hwrite
    · rw [hwrite, read_bare ht hb, hf, hv, Value.display]
    · rw [hwrite, read_pattern hpattern]
  · have hcomparison : isComparison f.operator = true := by
      simp [isComparison, hnull, hlist, hpattern]
    have hkept : kept f = [.literal o.value] := by
      simp [kept, hnull, hlist, hpattern, ho, hself o hmem]
    rw [hkept, write_comparison hcomparison ho]
    split
    next h => rw [read_number h.2 hplain, h.1]
    next => rw [read_comparison hcomparison hplain]

/-- Quotes, backslashes, commas and brackets inside the texts of a list cut nothing. -/
theorem read_write_crowded_list :
    read (write (Filter.on "c" .notIn
        [.literal (.text "a\", '\\) OR (\n"), .literal (.int Int64.minValue), .literal (.text "")])
        "int") (some "int") =
      .ok ⟨.notIn, [.literal (.text "a\", '\\) OR (\n"), .literal (.int Int64.minValue),
        .literal (.text "")]⟩ := by
  refine read_write (Filter.on "c" .notIn _) "int" ?_ (by decide)
  intro o ho
  simp only [Filter.on, List.mem_cons, List.not_mem_nil, or_false] at ho
  rcases ho with rfl | rfl | rfl
  · exact ⟨rfl, .text _⟩
  · exact ⟨rfl, .int _⟩
  · exact ⟨rfl, .text _⟩

end Notation

end QueryDesk
