import Mathlib.Data.List.TakeWhile
import QueryDesk.Proofs.Filter.Precedence
import QueryDesk.Proofs.Number.Shortest
import QueryDesk.Proofs.Sequence

/-!
# Integers of any size

A typed integer of 64 bits is read as itself. A larger one is read as the binary64 number next to it,
up to the limit from which on that would be infinity, and from there on it is no number: alone it stays
a text, in a list it is rejected. What is shown for the value, and sent to a server, denotes an integer
again: the one that was typed if it has 64 bits, at most fifteen digits in front of its last zeros, or
no place among the numbers at all, and otherwise one that binary64 does not tell apart from it.

Main statement: `integer_read`.
-/

namespace QueryDesk

namespace Number

def integer? (cs : List Char) : Option Int :=
  let (minus, ds) := splitSign cs
  if allDigits ds then some (if minus then -(digitsValue ds : Int) else digitsValue ds) else none

theorem readInt64?_eq (cs : List Char) : readInt64? cs = (integer? cs).filter fun n =>
    decide (Int64.minValue.toInt ≤ n ∧ n ≤ Int64.maxValue.toInt) := by
  rw [readInt64?, integer?]
  dsimp only
  split
  · simp only [Option.filter_some, decide_eq_true_eq]
  · rfl

end Number

namespace Notation

/-- A decimal integer as it is typed; zeros may stand in front. -/
structure Integer where
  sign : Sign
  digits : List Char
  digits_ne_nil : digits ≠ []
  isDigit : ∀ c ∈ digits, c.isDigit = true

namespace Integer

def typed (i : Integer) : List Char := i.sign.typed ++ i.digits

def text (i : Integer) : String := String.ofList i.typed

def toInt (i : Integer) : Int := i.sign.apply (Number.digitsValue i.digits)

/-- The number that an integer is read as, if it is not too large to be read as one. -/
def number? (i : Integer) : Option Value :=
  if Int64.minValue.toInt ≤ i.toInt ∧ i.toInt ≤ Int64.maxValue.toInt then
    some (.int (Int64.ofInt i.toInt))
  else if i.toInt.natAbs < Binary64.limit then some (.float (Binary64.ofInt i.toInt))
  else none

/-- What an integer alone is read as. -/
def value (i : Integer) : Value := i.number?.getD (.text i.text)

theorem integer?_typed (i : Integer) : Number.integer? i.typed = some i.toInt := by
  rw [Number.integer?, typed, i.sign.splitSign_append i.isDigit]
  simp only [Number.allDigits_of i.digits_ne_nil i.isDigit, if_true, decide_eq_true_eq, toInt,
    Sign.apply]

theorem natAbs_toInt (i : Integer) : i.toInt.natAbs = Number.digitsValue i.digits := by
  rw [toInt, Sign.apply]
  split <;> omega

theorem not_opening_word : ∀ c ∈ numerals, c.toLower ≠ 'i' ∧ c.toLower ≠ 'n' := by
  have h : numerals.all (fun c => decide (c.toLower ≠ 'i' ∧ c.toLower ≠ 'n')) = true := by decide
  simpa only [List.all_eq_true, decide_eq_true_eq] using h

theorem word_ne (i : Integer) {c : Char} (hc : c = 'i' ∨ c = 'n') (r : List Char) :
    (String.ofList (i.digits.map Char.toLower) == String.ofList (c :: r)) = false := by
  rw [beq_eq_false_iff_ne]
  intro h
  obtain ⟨d, ds, hds⟩ := List.exists_cons_of_ne_nil i.digits_ne_nil
  have hnumeral := not_opening_word d (mem_numerals_of_isDigit (i.isDigit d (by simp [hds])))
  rw [hds, List.map_cons, String.ofList_inj, List.cons.injEq] at h
  rcases hc with rfl | rfl
  · exact hnumeral.1 h.1
  · exact hnumeral.2 h.1

theorem readBinary64?_typed (i : Integer) : Number.readBinary64? i.typed =
    some (Binary64.ofDecimal (decide (i.sign = .minus)) (Number.digitsValue i.digits) 0) := by
  have hinf : (String.ofList (i.digits.map Char.toLower) == "inf") = false := i.word_ne (.inl rfl) _
  have hinfinity : (String.ofList (i.digits.map Char.toLower) == "infinity") = false :=
    i.word_ne (.inl rfl) _
  have hnan : (String.ofList (i.digits.map Char.toLower) == "nan") = false := i.word_ne (.inr rfl) _
  have htake : i.digits.takeWhile Char.isDigit = i.digits := List.takeWhile_eq_self_iff.2 i.isDigit
  have hdrop : i.digits.dropWhile Char.isDigit = [] := List.dropWhile_eq_nil_iff.2 i.isDigit
  rw [Number.readBinary64?, typed, i.sign.splitSign_append i.isDigit]
  dsimp only
  rw [hinf, hinfinity, hnan, Number.readUnsigned?, htake, hdrop]
  simp [i.digits_ne_nil, Number.readExponent?]

/-- The sign of a number other than zero is a minus if it is typed as one. -/
theorem ofInt_toInt (i : Integer) (h : i.toInt ≠ 0) : Binary64.ofInt i.toInt =
    Binary64.ofRatio (decide (i.sign = .minus)) (Number.digitsValue i.digits) 1 := by
  have hsign : decide (i.toInt < 0) = decide (i.sign = .minus) := by
    rw [decide_eq_decide]
    rw [toInt, Sign.apply] at h ⊢
    split_ifs at h ⊢ with hminus
    · simp only [hminus, iff_true]
      omega
    · simp only [hminus, iff_false]
      omega
  rw [Binary64.ofInt, hsign, natAbs_toInt]

theorem fits_iff {n : Int} : (Int64.minValue.toInt ≤ n ∧ n ≤ Int64.maxValue.toInt) ↔
    -2 ^ 63 ≤ n ∧ n < 2 ^ 63 := by
  have hmin : Int64.minValue.toInt = -2 ^ 63 := by decide
  have hmax : Int64.maxValue.toInt = 2 ^ 63 - 1 := by decide
  rw [hmin, hmax]
  omega

theorem large_of_not_fits {n : Int} (h : ¬ (Int64.minValue.toInt ≤ n ∧ n ≤ Int64.maxValue.toInt)) :
    2 ^ 54 ≤ n.natAbs := by
  rw [fits_iff] at h
  omega

theorem lt_limit_of_fits {n : Int} (h : Int64.minValue.toInt ≤ n ∧ n ≤ Int64.maxValue.toInt) :
    n.natAbs < Binary64.limit := by
  rw [fits_iff] at h
  exact Nat.lt_of_le_of_lt (by omega) Binary64.lt_limit

theorem toInt_ofInt_of_fits {n : Int}
    (h : Int64.minValue.toInt ≤ n ∧ n ≤ Int64.maxValue.toInt) : (Int64.ofInt n).toInt = n := by
  rw [fits_iff] at h
  exact Int64.toInt_ofInt_of_le h.1 h.2

theorem ne_zero_of_large {n : Int} (h : 2 ^ 54 ≤ n.natAbs) : n ≠ 0 := by
  rintro rfl
  exact absurd h (by decide)

theorem number?_typed (i : Integer) : Notation.number? i.typed = i.number? := by
  rw [Notation.number?, Number.readInt64?_eq, integer?_typed, Option.filter_some, number?]
  simp only [decide_eq_true_eq]
  split_ifs with hfits hlimit
  · rfl
  all_goals
    have hlarge := large_of_not_fits hfits
    have hne := ne_zero_of_large hlarge
    have hread := i.readBinary64?_typed
    rw [natAbs_toInt] at hlarge hlimit
    rw [Binary64.ofDecimal_eq_ofRatio hlarge] at hread
    simp only [hread]
    rcases Binary64.rounds_or_infinity hlarge with ⟨hlt, m, q, hwhole, hrounds⟩ | ⟨hge, hover⟩
  · rw [i.ofInt_toInt hne, Binary64.ofRatio_of_rounds hwhole hrounds, Binary64.isFinite_whole hwhole,
      if_pos rfl]
  · exact absurd hlimit (Nat.not_lt.2 hge)
  · exact absurd hlt hlimit
  · rw [hover, Binary64.not_isFinite_infinity, if_neg Bool.false_ne_true]

/-! ### Where integers stand -/

theorem typed_ne_nil (i : Integer) : i.typed ≠ [] := by
  simp [typed, i.digits_ne_nil]

theorem exists_cons (i : Integer) : ∃ c r, i.typed = c :: r ∧ isQuote c = false ∧
    ∀ key ∈ openings, sameLetter key c = false := by
  obtain ⟨c, r, hcr⟩ := List.exists_cons_of_ne_nil i.typed_ne_nil
  have hmem : c ∈ i.sign.typed ++ i.digits := by
    rw [← typed, hcr]
    exact List.mem_cons_self
  refine ⟨c, r, hcr, Sign.not_isQuote i.isDigit hmem, ?_⟩
  rcases Sign.mem_append i.isDigit hmem with rfl | hc
  · have hplus : openings.all (fun key => !sameLetter key '+') = true := rfl
    simpa using hplus
  · exact not_opening_numeral c hc

theorem trim_typed (i : Integer) : Text.trim i.typed = i.typed :=
  Text.trim_of_ends (fun _ hc => Sign.not_isBlank i.isDigit (List.mem_of_mem_head? hc))
    fun _ hc => Sign.not_isBlank i.isDigit (List.mem_of_mem_getLast? hc)

theorem scalar_typed (i : Integer) : scalar i.typed = .ok i.value := by
  have htrim := i.trim_typed
  have hnumber := i.number?_typed
  obtain ⟨c, r, hcr, hquote, -⟩ := i.exists_cons
  rw [value, text]
  rw [hcr] at htrim hnumber ⊢
  rw [scalar, htrim]
  simp only [hquote, hnumber, Bool.false_eq_true, if_false]

/-- As an item of a list an integer is read if it is one of the numbers. -/
theorem item_typed (i : Integer) : item i.typed =
    if i.toInt.natAbs < Binary64.limit then .ok i.value else .error (.invalidLiteral i.text) := by
  have hquoted : isQuoted i.typed = false := by
    obtain ⟨c, r, hcr, hquote, -⟩ := i.exists_cons
    rw [hcr, isQuoted, hquote, Bool.false_and]
  rw [item, hquoted, if_neg Bool.false_ne_true, number?_typed, value, number?, text]
  split_ifs with hfits hlimit hlimit
  · rfl
  · exact absurd (lt_limit_of_fits hfits) hlimit
  · rfl
  · rfl

theorem toList_text (i : Integer) : i.text.toList = i.typed := String.toList_ofList

theorem read?_equals (i : Integer) :
    read? ("= " ++ i.text) = .ok (some ⟨.eq, [.literal i.value]⟩) := by
  obtain ⟨c, r, hcr, -, -⟩ := i.exists_cons
  have htext : ("= " ++ i.text).toList = Operator.eq.symbol.toList ++ ' ' :: i.typed := by
    rw [String.toList_append, toList_text]
    rfl
  have hlast : ∀ c ∈ i.typed.getLast?, Text.isBlank c = false := fun _ hc =>
    Sign.not_isBlank i.isDigit (List.mem_of_mem_getLast? hc)
  have hleft : Text.trimLeft i.typed = i.typed := by
    have hc : Text.isBlank c = false :=
      Sign.not_isBlank (s := i.sign) i.isDigit (by rw [← typed, hcr]; exact List.mem_cons_self)
    rw [hcr]
    exact Text.trimLeft_of_head hc r
  rw [read?, htext, trim_symbol_append .eq hlast (by simp [hcr]), readBy_comparison rfl, hleft,
    Tail.operands, scalar_typed]
  rfl

theorem read_bare (i : Integer) {declared : String} (number : ColumnKind.isNumber declared = true) :
    read i.text (some declared) = .ok ⟨.eq, [.literal i.value]⟩ := by
  have hscalar := i.scalar_typed
  have hdefault : Operator.default (some declared) .contains = .eq := by
    simp [Operator.default, ColumnKind.isText_of_isNumber number]
  obtain ⟨c, r, hcr, -, hopening⟩ := i.exists_cons
  have hnone : read? i.text = .ok none := by
    rw [read?, toList_text, trim_typed, hcr]
    exact readBy_forms_eq_none hopening r
  rw [hcr] at hscalar
  rw [read, hnone, toList_text, trim_typed, hcr]
  simp [number, hscalar, hdefault, bind, Except.bind, pure, Except.pure]

/-! ### What is shown -/

/-- An integer that is read as itself, or that is the only one of its number with so few digits. -/
def Exact (i : Integer) : Prop :=
  (Int64.minValue.toInt ≤ i.toInt ∧ i.toInt ≤ Int64.maxValue.toInt) ∨
    Binary64.limit ≤ i.toInt.natAbs ∨
      ∃ k, 10 ^ k ∣ i.toInt.natAbs ∧ i.toInt.natAbs < 10 ^ (k + 15)

theorem integer?_toString (n : Int) : Number.integer? (toString n).toList = some n := by
  have hwritten := integer?_typed
    ⟨.ofInt n, Nat.toDigits 10 n.natAbs, toDigits_natAbs_ne_nil n, isDigit_toDigits_natAbs n⟩
  rw [typed, Sign.typed_ofInt] at hwritten
  rw [hwritten]
  exact congrArg some (Sign.apply_ofInt n).symm

/-- What is shown has the sign that was typed, apart from a plus. -/
theorem exists_shownSign (s : Sign) : ∃ t : Sign, (t = .minus ↔ s = .minus) ∧
    t.typed = if decide (s = .minus) = true then ['-'] else [] := by
  by_cases hminus : s = .minus
  · exact ⟨.minus, by simp [hminus], by simp [hminus, Sign.typed]⟩
  · exact ⟨.none, by simp [hminus], by simp [hminus, Sign.typed]⟩

/-- The binary64 number next to an integer is shown as an integer that it is next to as well. -/
theorem exists_shown_float (i : Integer) (large : 2 ^ 54 ≤ i.toInt.natAbs)
    (below : i.toInt.natAbs < Binary64.limit) :
    ∃ n, Number.integer? (Binary64.ofInt i.toInt).text.toList = some n ∧
      Binary64.ofInt n = Binary64.ofInt i.toInt ∧
      ((∃ k, 10 ^ k ∣ i.toInt.natAbs ∧ i.toInt.natAbs < 10 ^ (k + 15)) → n = i.toInt) := by
  rw [i.ofInt_toInt (ne_zero_of_large large)]
  rcases Binary64.rounds_or_infinity large with ⟨-, m, q, hwhole, hrounds⟩ | ⟨hge, -⟩
  · rw [natAbs_toInt] at hrounds ⊢
    rw [Binary64.ofRatio_of_rounds hwhole hrounds]
    obtain ⟨ds, hne, hds, htext, hshown, hfifteen⟩ :=
      Binary64.text_of_rounds (decide (i.sign = .minus)) hwhole hrounds
    obtain ⟨s, hs, hsign⟩ := exists_shownSign i.sign
    have hread := integer?_typed ⟨s, ds, hne, hds⟩
    have hratio := ofInt_toInt ⟨s, ds, hne, hds⟩
    rw [typed, hsign, ← htext] at hread
    refine ⟨_, hread, ?_, fun hexact => by simp only [toInt, Sign.apply, hs, hfifteen hexact]⟩
    have hunit := hshown.unit_le hwhole
    have hpos := Nat.two_pow_pos q
    rw [hratio, decide_eq_decide.2 hs, Binary64.ofRatio_of_rounds hwhole hshown]
    rw [← Int.natAbs_ne_zero, natAbs_toInt]
    show Number.digitsValue ds ≠ 0
    omega
  · exact absurd below (Nat.not_lt.2 hge)

/-- The value of an integer is shown as an integer that is the same in binary64. -/
theorem exists_shown (i : Integer) : ∃ n, Number.integer? i.value.display.toList = some n ∧
    Binary64.ofInt n = Binary64.ofInt i.toInt ∧ (i.Exact → n = i.toInt) := by
  rw [value, number?]
  split_ifs with hfits hlimit
  · refine ⟨i.toInt, ?_, rfl, fun _ => rfl⟩
    rw [Option.getD_some, Value.display, toInt_ofInt_of_fits hfits, integer?_toString]
  · obtain ⟨n, hn, hsame, hfifteen⟩ := i.exists_shown_float (large_of_not_fits hfits) hlimit
    refine ⟨n, hn, hsame, ?_⟩
    rintro (hexact | hexact | hexact)
    · exact absurd hexact hfits
    · exact absurd hlimit (Nat.not_lt.2 hexact)
    · exact hfifteen hexact
  · refine ⟨i.toInt, ?_, rfl, fun _ => rfl⟩
    rw [Option.getD_none, Value.display, toList_text, integer?_typed]

end Integer

/-! ### Lists -/

theorem not_nested_of_list : ∀ f ∈ forms, f.tail = .list → ∀ p ∈ nested, p.2 ≠ f.operator := by
  have h : forms.all (fun f => decide (f.tail = .list → ∀ p ∈ nested, p.2 ≠ f.operator)) = true := by
    decide
  simpa only [List.all_eq_true, decide_eq_true_eq] using h

/-- A form of lists reads every text that it fits, in any letter case and with any blanks. -/
theorem read?_list {text : String} {f : Form} {body : List Char} (hf : f ∈ forms)
    (tail : f.tail = .list) (fits : f.match? (Text.trim text.toList) = some body) :
    read? text = (list body).map fun vs => some ⟨f.operator, vs.map .literal⟩ := by
  rw [read?, readBy_of_ordered (.refl _) ordered_forms hf fits
    fun g _ _ hpair => not_nested_of_list f hf tail _ hpair rfl, tail, Tail.operands]
  cases list body <;> rfl

/-- Every item of a list is read at its place, or the list is rejected for one of them. -/
theorem list_cases {body : List Char} {items : List (List Char)} {k : Nat} {t : List Char}
    (cut : splitItems none [] body = .ok items) (at_place : items[k]? = some t) (ne : t ≠ []) :
    (∃ vs v, list body = .ok vs ∧ item t = .ok v ∧ vs[k]? = some v) ∨
      ∃ u ∈ items, ∃ e, item u = .error e ∧ list body = .error e := by
  have hblank : ¬ body.all Text.isBlank = true := by
    intro hall
    have hscan := splitItems_blanks (List.all_eq_true.1 hall) [] []
    have htrim := Text.trim_blanks_append (List.all_eq_true.1 hall) []
    rw [List.append_nil, cut, List.append_nil, splitItems, List.reverse_reverse,
      if_neg (by simp)] at hscan
    rw [List.append_nil] at htrim
    rw [Except.ok.inj hscan, htrim] at at_place
    rcases k with - | k
    · exact ne (Option.some.inj at_place).symm
    · cases at_place
  rw [list, if_neg hblank, cut]
  rcases mapM_cases item items with ⟨vs, hvs, -⟩ | ⟨e, herr, u, hu, he⟩
  · obtain ⟨v, hk, hv⟩ := getElem?_of_mapM hvs at_place
    exact .inl ⟨vs, v, hvs, hv, hk⟩
  · exact .inr ⟨u, hu, e, he, herr⟩

/-- An integer is read alike behind an equals sign and alone on a column of numbers, and in a list the
same way or not at all. What its value is shown as is an integer: that one, if it has 64 bits or at most
fifteen digits or is beyond the limit, or else one that is the same number in binary64. -/
theorem integer_read (i : Integer) :
    read? ("= " ++ i.text) = .ok (some ⟨.eq, [.literal i.value]⟩) ∧
    (∀ declared, ColumnKind.isNumber declared = true →
      read i.text (some declared) = .ok ⟨.eq, [.literal i.value]⟩) ∧
    (∀ text, ∀ f ∈ forms, f.tail = .list → ∀ (body : List Char) (items : List (List Char)) (k : Nat),
      f.match? (Text.trim text.toList) = some body → splitItems none [] body = .ok items →
      items[k]? = some i.typed →
      (i.toInt.natAbs < Binary64.limit ∧ ∃ vs : List Operand,
        read? text = .ok (some ⟨f.operator, vs⟩) ∧ vs[k]? = some (.literal i.value)) ∨
      ∃ t ∈ items, ∃ e, item t = .error e ∧ read? text = .error e) ∧
    item i.typed = (if i.toInt.natAbs < Binary64.limit then .ok i.value
      else .error (.invalidLiteral i.text)) ∧
    ∃ n, Number.integer? i.value.display.toList = some n ∧
      Binary64.ofInt n = Binary64.ofInt i.toInt ∧ (i.Exact → n = i.toInt) := by
  refine ⟨i.read?_equals, fun _ => i.read_bare, fun text f hf tail body items k hfits cut hk => ?_,
    i.item_typed, i.exists_shown⟩
  have hread := read?_list hf tail hfits
  have hitem := i.item_typed
  rcases list_cases cut hk i.typed_ne_nil with ⟨vs, v, hvs, hv, hplace⟩ | ⟨t, ht, e, he, herr⟩
  · rw [hvs] at hread
    rw [hv] at hitem
    split_ifs at hitem with hlimit
    · refine .inl ⟨hlimit, _, hread, ?_⟩
      rw [List.getElem?_map, hplace, Except.ok.inj hitem]
      rfl
  · rw [herr] at hread
    exact .inr ⟨t, ht, e, he, hread⟩

/-- A number of 67 bits with two digits in front of its zeros. -/
def roundInteger : Integer where
  sign := .minus
  digits := "120000000000000000000".toList
  digits_ne_nil := by decide
  isDigit := by simp

theorem toInt_roundInteger : roundInteger.toInt = -120000000000000000000 := by decide

theorem integer_read_round :
    roundInteger.Exact ∧
    read? "= -120000000000000000000" = .ok (some ⟨.eq, [.literal roundInteger.value]⟩) ∧
    read "-120000000000000000000" (some "numeric") = .ok ⟨.eq, [.literal roundInteger.value]⟩ ∧
    (∃ vs : List Operand, read? "not  In( 'a,b' ,-120000000000000000000)" = .ok (some ⟨.notIn, vs⟩) ∧
      vs[1]? = some (.literal roundInteger.value)) ∧
    Number.integer? roundInteger.value.display.toList = some (-120000000000000000000) := by
  have htext : roundInteger.text = "-120000000000000000000" := by decide
  have hexact : roundInteger.Exact := by
    refine .inr (.inr ⟨19, ?_⟩)
    rw [toInt_roundInteger]
    decide
  have hnumber : ColumnKind.isNumber "numeric" = true := by decide
  obtain ⟨hequals, hbare, hlist, hitem, n, hshown, -, hsame⟩ := integer_read roundInteger
  rw [htext] at hequals hbare
  rw [hsame hexact, toInt_roundInteger] at hshown
  refine ⟨hexact, hequals, hbare "numeric" hnumber, ?_, hshown⟩
  have hfits : Form.match? ⟨.notIn, ["not", "in"], .list⟩
      (Text.trim "not  In( 'a,b' ,-120000000000000000000)".toList) =
        some " 'a,b' ,-120000000000000000000".toList := by decide +kernel
  have hcut : splitItems none [] " 'a,b' ,-120000000000000000000".toList =
      .ok ["'a,b'".toList, roundInteger.typed] := by decide +kernel
  rcases hlist _ _ (by simp [forms]) rfl _ _ 1 hfits hcut rfl with ⟨-, hvs⟩ | ⟨t, ht, e, he, -⟩
  · exact hvs
  · have hquoted : item "'a,b'".toList = .ok (.text "a,b") := rfl
    have hlimit : roundInteger.toInt.natAbs < Binary64.limit := by
      rw [toInt_roundInteger, Binary64.limit]
      decide +kernel
    rw [if_pos hlimit] at hitem
    rcases List.mem_pair.1 ht with rfl | rfl
    · rw [hquoted] at he
      cases he
    · rw [hitem] at he
      cases he

/-- The least positive integer that has more than 64 bits. -/
def tooLarge : Integer where
  sign := .none
  digits := "9223372036854775808".toList
  digits_ne_nil := by decide
  isDigit := by simp

theorem value_tooLarge : tooLarge.value = .float ⟨0x43e0000000000000⟩ := by
  have hint : tooLarge.toInt = 9223372036854775808 := by decide
  have hover : ¬ (Int64.minValue.toInt ≤ 9223372036854775808 ∧
      9223372036854775808 ≤ Int64.maxValue.toInt) := by decide
  have hlimit : (9223372036854775808 : Int).natAbs < Binary64.limit := by
    rw [Binary64.limit]
    decide +kernel
  have hfloat : Binary64.ofInt 9223372036854775808 = ⟨0x43e0000000000000⟩ := by decide +kernel
  rw [Integer.value, Integer.number?, hint, if_neg hover, if_pos hlimit, hfloat]
  rfl

/-- Wherever it stands, `2^63` is read as a value that is shown as another integer. -/
theorem shown_rounded : ∃ v : Value,
    read? "= 9223372036854775808" = .ok (some ⟨.eq, [.literal v]⟩) ∧
    read? "IN (9223372036854775808)" = .ok (some ⟨.isIn, [.literal v]⟩) ∧
    read "9223372036854775808" (some "bigint") = .ok ⟨.eq, [.literal v]⟩ ∧
    Number.integer? v.display.toList = some 9223372036854776000 ∧
    Number.integer? "9223372036854775808".toList = some 9223372036854775808 := by
  have htext : tooLarge.text = "9223372036854775808" := by decide
  have hequals := tooLarge.read?_equals
  have hbare := tooLarge.read_bare (show ColumnKind.isNumber "bigint" = true by decide)
  have hfits : Form.match? ⟨.isIn, ["in"], .list⟩ (Text.trim "IN (9223372036854775808)".toList) =
      some tooLarge.typed := by decide +kernel
  have hread := read?_list (by simp [forms]) rfl hfits
  have hlist : list tooLarge.typed = .ok [.float ⟨0x43e0000000000000⟩] := by decide +kernel
  rw [hlist] at hread
  rw [htext, value_tooLarge] at hequals hbare
  exact ⟨_, hequals, hread, hbare, by decide +kernel, by decide +kernel⟩

end Notation

end QueryDesk
