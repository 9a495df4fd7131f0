import QueryDesk.Filter.Notation
import QueryDesk.Proofs.Number.Digits

/-!
# Literals as they are typed

What people may type for a text or an integer: a text between quotes of either kind, whose
backslashes and own quotes carry a backslash and whose other characters may carry one, or a decimal
integer with an optional sign. A structure holds what is typed together with what makes it well
formed, so its reading needs no further condition. Every literal reads as its value wherever it
stands, and the scan of a list leaves it whole: inside the quotes no character closes but the last.
-/

namespace QueryDesk

/-! ### Trimming -/

namespace Text

theorem trim_of_ends {cs : List Char} (first : ∀ c ∈ cs.head?, isBlank c = false)
    (last : ∀ c ∈ cs.getLast?, isBlank c = false) : trim cs = cs := by
  have hleft : trimLeft cs = cs := by
    cases cs with
    | nil => rfl
    | cons c r => exact trimLeft_of_head (first c rfl) r
  rw [trim, hleft]
  rcases List.eq_nil_or_concat cs with rfl | ⟨r, c, rfl⟩
  · rfl
  · rw [List.concat_eq_append] at last ⊢
    exact trimRight_append_of_last (last c (by simp)) r

theorem trimLeft_blanks_append {front : List Char} (h : ∀ c ∈ front, isBlank c = true)
    (cs : List Char) : trimLeft (front ++ cs) = trimLeft cs := by
  induction front with
  | nil => rfl
  | cons c r ih =>
    have hc : isBlank c = true := h c (by simp)
    have hr : ∀ d ∈ r, isBlank d = true := fun d hd => h d (by simp [hd])
    rw [List.cons_append, trimLeft_blank hc, ih hr]

theorem trim_blanks_append {front : List Char} (h : ∀ c ∈ front, isBlank c = true)
    (cs : List Char) : trim (front ++ cs) = trim cs := by
  rw [trim, trim, trimLeft_blanks_append h]

theorem trimRight_append_blanks {back : List Char} (h : ∀ c ∈ back, isBlank c = true)
    (cs : List Char) : trimRight (cs ++ back) = trimRight cs := by
  have hback : ∀ c ∈ back.reverse, isBlank c = true := by simpa using h
  have hleft := trimLeft_blanks_append hback cs.reverse
  rw [trimLeft, trimLeft] at hleft
  rw [trimRight, trimRight, List.reverse_append, hleft]

theorem trim_append_blanks {back : List Char} (h : ∀ c ∈ back, isBlank c = true)
    {cs : List Char} (hcs : ¬∀ c ∈ cs, isBlank c = true) : trim (cs ++ back) = trim cs := by
  have hleft : trimLeft (cs ++ back) = trimLeft cs ++ back := by
    induction cs with
    | nil => exact absurd (by simp) hcs
    | cons c r ih =>
      cases hc : isBlank c with
      | false => rw [List.cons_append, trimLeft_of_head hc, trimLeft_of_head hc, List.cons_append]
      | true =>
        have hr : ¬∀ d ∈ r, isBlank d = true := fun hr => hcs (by simpa [hc] using hr)
        rw [List.cons_append, trimLeft_blank hc, trimLeft_blank hc, ih hr]
  rw [trim, hleft, trimRight_append_blanks h, trim]

end Text

/-! ### Digits -/

namespace Number

theorem splitSign_digits {cs : List Char} (h : ∀ c ∈ cs, c.isDigit = true) :
    splitSign cs = (false, cs) := by
  unfold splitSign
  split
  · exact absurd (h '-' (by simp)) (by decide)
  · exact absurd (h '+' (by simp)) (by decide)
  · rfl

end Number

namespace Notation

def numerals : List Char := ['-', '0', '1', '2', '3', '4', '5', '6', '7', '8', '9']

theorem mem_numerals_of_isDigit {c : Char} (h : c.isDigit = true) : c ∈ numerals := by
  have hc : c = Char.ofNat c.toNat := (Char.ofNat_toNat c).symm
  have hlow : 48 ≤ c.toNat := by
    simp only [Char.isDigit, Bool.and_eq_true, decide_eq_true_eq] at h
    exact h.1
  have hhigh : c.toNat ≤ 57 := by
    simp only [Char.isDigit, Bool.and_eq_true, decide_eq_true_eq] at h
    exact h.2
  have hall : ∀ n, 48 ≤ n → n ≤ 57 → Char.ofNat n ∈ numerals := by
    intro n hn hn'
    have : n = 48 ∨ n = 49 ∨ n = 50 ∨ n = 51 ∨ n = 52 ∨ n = 53 ∨ n = 54 ∨ n = 55 ∨ n = 56 ∨
        n = 57 := by omega
    rcases this with rfl | rfl | rfl | rfl | rfl | rfl | rfl | rfl | rfl | rfl <;> decide
  rw [hc]
  exact hall c.toNat hlow hhigh

theorem not_isBlank_numeral : ∀ c ∈ numerals, Text.isBlank c = false := by
  have h : numerals.all (fun c => !Text.isBlank c) = true := rfl
  simpa using h

theorem not_isQuote_numeral : ∀ c ∈ numerals, isQuote c = false := by
  have h : numerals.all (fun c => !isQuote c) = true := rfl
  simpa using h

theorem ne_comma_numeral : ∀ c ∈ numerals, c ≠ ',' := by
  simp [numerals]

theorem ne_backslash_of_isQuote {q : Char} (h : isQuote q = true) : q ≠ '\\' := by
  rintro rfl
  revert h
  decide

theorem not_isBlank_of_isQuote {q : Char} (h : isQuote q = true) : Text.isBlank q = false := by
  simp only [isQuote, Bool.or_eq_true, beq_iff_eq] at h
  rcases h with rfl | rfl <;> rfl

/-! ### Texts between quotes -/

/-- A character between quotes, with a backslash in front of it or without. -/
structure Mark where
  char : Char
  escaped : Bool
deriving DecidableEq

namespace Mark

def typed (m : Mark) : List Char := if m.escaped then ['\\', m.char] else [m.char]

/-- A backslash and the quote `q` carry a backslash. -/
def Guarded (q : Char) (m : Mark) : Prop := m.char = '\\' ∨ m.char = q → m.escaped = true

instance (q : Char) (m : Mark) : Decidable (m.Guarded q) :=
  inferInstanceAs (Decidable (_ → _))

theorem typed_escaped {m : Mark} (h : m.escaped = true) : m.typed = ['\\', m.char] := if_pos h

theorem typed_bare {m : Mark} (h : m.escaped = false) : m.typed = [m.char] := by
  rw [typed, h]
  rfl

theorem Guarded.ne_of_bare {q : Char} {m : Mark} (h : m.Guarded q) (bare : m.escaped = false) :
    m.char ≠ '\\' ∧ m.char ≠ q := by
  constructor <;> intro hm <;> have := h (by simp [hm]) <;> simp [bare] at this

end Mark

theorem unquote_plain {q c : Char} (h : c ≠ '\\') {r : List Char} (hr : r ≠ []) :
    unquote q (c :: r) = (unquote q r).map (c :: ·) := by
  cases r with
  | nil => exact absurd rfl hr
  | cons d r => rw [unquote.eq_5] <;> simp [h]

theorem unescape_plain {c : Char} (h : c ≠ '\\') (r : List Char) :
    unescape (c :: r) = c :: unescape r := by
  rw [unescape.eq_4] <;> simp [h]

theorem unquote_marks {q : Char} (hq : q ≠ '\\') {ms : List Mark} (h : ∀ m ∈ ms, m.Guarded q) :
    unquote q (ms.flatMap Mark.typed ++ [q]) = .ok (ms.map (·.char)) := by
  induction ms with
  | nil =>
    rw [List.flatMap_nil, List.nil_append, unquote.eq_4 _ _ hq, if_pos rfl]
    rfl
  | cons m ms ih =>
    have hms := ih fun k hk => h k (by simp [hk])
    rw [List.flatMap_cons, List.append_assoc]
    cases he : m.escaped with
    | true =>
      rw [Mark.typed_escaped he, List.cons_append, List.singleton_append, unquote, hms]
      rfl
    | false =>
      obtain ⟨hc, -⟩ := (h m (by simp)).ne_of_bare he
      rw [Mark.typed_bare he, List.singleton_append, unquote_plain hc (by simp), hms]
      rfl

theorem unescape_marks {q : Char} {ms : List Mark} (h : ∀ m ∈ ms, m.Guarded q) :
    unescape (ms.flatMap Mark.typed) = ms.map (·.char) := by
  induction ms with
  | nil => rfl
  | cons m ms ih =>
    have hms := ih fun k hk => h k (by simp [hk])
    rw [List.flatMap_cons, List.map_cons]
    cases he : m.escaped with
    | true => rw [Mark.typed_escaped he, List.cons_append, List.singleton_append, unescape, hms]
    | false =>
      obtain ⟨hc, -⟩ := (h m (by simp)).ne_of_bare he
      rw [Mark.typed_bare he, List.singleton_append, unescape_plain hc, hms]

/-- Inside a quote the scan comes to the quote behind the marks, whatever the marks are. -/
theorem splitItems_marks {q : Char} (hq : q ≠ '\\') {ms : List Mark}
    (h : ∀ m ∈ ms, m.Guarded q) (item rest : List Char) :
    splitItems (some q) item (ms.flatMap Mark.typed ++ q :: rest) =
      splitItems none (q :: ((ms.flatMap Mark.typed).reverse ++ item)) rest := by
  induction ms generalizing item with
  | nil =>
    rw [List.flatMap_nil, List.nil_append, splitItems.eq_def]
    simp [hq]
  | cons m ms ih =>
    have hms := ih fun k hk => h k (by simp [hk])
    rw [List.flatMap_cons, List.append_assoc]
    cases he : m.escaped with
    | true =>
      rw [Mark.typed_escaped he, List.cons_append, List.singleton_append, splitItems]
      simp [hms]
    | false =>
      obtain ⟨hc, hd⟩ := (h m (by simp)).ne_of_bare he
      rw [Mark.typed_bare he, List.singleton_append, splitItems.eq_def]
      simp [hc, hd, hms]

structure QuotedText where
  quote : Char
  marks : List Mark
  isQuote : isQuote quote = true
  guarded : ∀ m ∈ marks, m.Guarded quote

namespace QuotedText

def inner (t : QuotedText) : List Char := t.marks.flatMap Mark.typed

def typed (t : QuotedText) : List Char := t.quote :: (t.inner ++ [t.quote])

def text (t : QuotedText) : String := String.ofList (t.marks.map (·.char))

theorem isQuoted_typed (t : QuotedText) : isQuoted t.typed = true := by
  simp [typed, isQuoted, t.isQuote]

theorem unquote_typed (t : QuotedText) :
    unquote t.quote (t.inner ++ [t.quote]) = .ok (t.marks.map (·.char)) :=
  unquote_marks (ne_backslash_of_isQuote t.isQuote) t.guarded

theorem splitItems_typed (t : QuotedText) (item rest : List Char) :
    splitItems none item (t.typed ++ rest) = splitItems none (t.typed.reverse ++ item) rest := by
  have hinner := splitItems_marks (ne_backslash_of_isQuote t.isQuote) t.guarded
    (t.quote :: item) rest
  rw [typed, List.cons_append, List.append_assoc, List.singleton_append, splitItems]
  simp [t.isQuote, inner, hinner]

end QuotedText

/-! ### Integers -/

/-- What stands in front of the digits of an integer. -/
inductive Sign where
  | none
  | plus
  | minus
deriving DecidableEq

def Sign.typed : Sign → List Char
  | none => []
  | plus => ['+']
  | minus => ['-']

def Sign.apply (s : Sign) (n : Nat) : Int := if s = minus then -n else n

section Signed

variable {s : Sign} {ds : List Char} {c : Char} (digits : ∀ c ∈ ds, c.isDigit = true)
include digits

theorem Sign.mem_append (h : c ∈ s.typed ++ ds) : c = '+' ∨ c ∈ numerals := by
  rcases List.mem_append.mp h with hs | hd
  · cases s with
    | none => cases hs
    | plus => exact .inl (by simpa [Sign.typed] using hs)
    | minus =>
      have hc : c = '-' := by simpa [Sign.typed] using hs
      exact .inr (by simp [hc, numerals])
  · exact .inr (mem_numerals_of_isDigit (digits c hd))

theorem Sign.not_isBlank (h : c ∈ s.typed ++ ds) : Text.isBlank c = false := by
  rcases mem_append digits h with rfl | hc
  · rfl
  · exact not_isBlank_numeral c hc

theorem Sign.not_isQuote (h : c ∈ s.typed ++ ds) : isQuote c = false := by
  rcases mem_append digits h with rfl | hc
  · rfl
  · exact not_isQuote_numeral c hc

theorem Sign.ne_comma (h : c ∈ s.typed ++ ds) : c ≠ ',' := by
  rcases mem_append digits h with rfl | hc
  · decide
  · exact ne_comma_numeral c hc

theorem Sign.splitSign_append (s : Sign) :
    Number.splitSign (s.typed ++ ds) = (decide (s = .minus), ds) := by
  cases s with
  | none => exact Number.splitSign_digits digits
  | plus => rfl
  | minus => rfl

end Signed

/-- A decimal integer of 64 bits; zeros may stand in front. -/
structure Numeral where
  sign : Sign
  digits : List Char
  value : Int64
  digits_ne_nil : digits ≠ []
  isDigit : ∀ c ∈ digits, c.isDigit = true
  toInt_value : value.toInt = sign.apply (Nat.ofDigitChars 10 digits 0)

namespace Numeral

def typed (n : Numeral) : List Char := n.sign.typed ++ n.digits

theorem typed_ne_nil (n : Numeral) : n.typed ≠ [] := by
  simp [typed, n.digits_ne_nil]

theorem not_isBlank {n : Numeral} {c : Char} (h : c ∈ n.typed) : Text.isBlank c = false :=
  Sign.not_isBlank n.isDigit h

theorem not_isQuote {n : Numeral} {c : Char} (h : c ∈ n.typed) : Notation.isQuote c = false :=
  Sign.not_isQuote n.isDigit h

theorem ne_comma {n : Numeral} {c : Char} (h : c ∈ n.typed) : c ≠ ',' := Sign.ne_comma n.isDigit h

theorem splitSign_typed (n : Numeral) :
    Number.splitSign n.typed = (decide (n.sign = .minus), n.digits) :=
  n.sign.splitSign_append n.isDigit

theorem readInt64?_typed (n : Numeral) : Number.readInt64? n.typed = some n.value.toInt := by
  have hdigits := Number.allDigits_of n.digits_ne_nil n.isDigit
  have hvalue : (if decide (n.sign = .minus) = true then -(Number.digitsValue n.digits : Int)
      else Number.digitsValue n.digits) = n.value.toInt := by
    have h : Number.digitsValue n.digits = Nat.ofDigitChars 10 n.digits 0 := rfl
    rw [n.toInt_value, Sign.apply, h]
    simp only [decide_eq_true_eq]
  simp only [Number.readInt64?, splitSign_typed, hdigits, if_true, hvalue]
  rw [if_pos ⟨Int64.minValue_le_toInt n.value, Int64.toInt_le n.value⟩]

theorem number?_typed (n : Numeral) : number? n.typed = some (.int n.value) := by
  rw [number?, readInt64?_typed]
  simp

end Numeral

theorem splitItems_outside {cs : List Char} (hq : ∀ c ∈ cs, isQuote c = false)
    (hc : ∀ c ∈ cs, c ≠ ',') (item rest : List Char) :
    splitItems none item (cs ++ rest) = splitItems none (cs.reverse ++ item) rest := by
  induction cs generalizing item with
  | nil => rfl
  | cons c r ih =>
    have hq' : ∀ d ∈ r, isQuote d = false := fun d hd => hq d (by simp [hd])
    have hc' : ∀ d ∈ r, d ≠ ',' := fun d hd => hc d (by simp [hd])
    rw [List.cons_append, splitItems]
    simp [hq c (by simp), hc c (by simp), ih hq' hc']

/-! ### Literals -/

inductive Literal where
  | quoted (t : QuotedText)
  | numeral (n : Numeral)

namespace Literal

def typed : Literal → List Char
  | quoted t => t.typed
  | numeral n => n.typed

def value : Literal → Value
  | quoted t => .text t.text
  | numeral n => .int n.value

theorem typed_ne_nil (l : Literal) : l.typed ≠ [] := by
  cases l with
  | quoted t => simp [typed, QuotedText.typed]
  | numeral n => exact n.typed_ne_nil

theorem not_isBlank_ends (l : Literal) :
    (∀ c ∈ l.typed.head?, Text.isBlank c = false) ∧
      ∀ c ∈ l.typed.getLast?, Text.isBlank c = false := by
  cases l with
  | quoted t =>
    have hq : Text.isBlank t.quote = false := not_isBlank_of_isQuote t.isQuote
    have hlast : (typed (.quoted t)).getLast? = some t.quote := by
      rw [typed, QuotedText.typed, ← List.cons_append]
      exact List.getLast?_concat
    rw [hlast, typed, QuotedText.typed]
    simp [hq]
  | numeral n =>
    exact ⟨fun c hc => Numeral.not_isBlank (List.mem_of_mem_head? hc),
      fun c hc => Numeral.not_isBlank (List.mem_of_mem_getLast? hc)⟩

theorem trim_typed (l : Literal) : Text.trim l.typed = l.typed :=
  Text.trim_of_ends l.not_isBlank_ends.1 l.not_isBlank_ends.2

theorem exists_not_isBlank (l : Literal) : ¬∀ c ∈ l.typed, Text.isBlank c = true := by
  intro h
  obtain ⟨c, r, hcr⟩ := List.exists_cons_of_ne_nil l.typed_ne_nil
  have hfirst := l.not_isBlank_ends.1
  rw [hcr] at h hfirst
  exact absurd (h c (by simp)) (by simp [hfirst c rfl])

/-- As one value a literal is read as what it stands for. -/
theorem scalar_typed (l : Literal) : scalar l.typed = .ok l.value := by
  have htrim := l.trim_typed
  cases l with
  | quoted t =>
    rw [typed, QuotedText.typed] at htrim ⊢
    simp [scalar, htrim, t.isQuote, t.unquote_typed, Except.map, value, QuotedText.text]
  | numeral n =>
    have hnumber := n.number?_typed
    obtain ⟨c, r, hcr⟩ := List.exists_cons_of_ne_nil n.typed_ne_nil
    have hc : isQuote c = false := Numeral.not_isQuote (n := n) (by simp [hcr])
    rw [hcr] at hnumber
    rw [typed, hcr] at htrim ⊢
    simp [scalar, htrim, hc, hnumber, value]

/-- As an item of a list a literal is read as what it stands for. -/
theorem item_typed (l : Literal) : item l.typed = .ok l.value := by
  cases l with
  | quoted t =>
    have hinner : unescape t.inner = t.marks.map (·.char) := unescape_marks t.guarded
    have hquoted : isQuoted (typed (.quoted t)) = true := t.isQuoted_typed
    rw [item, if_pos hquoted, typed, QuotedText.typed]
    simp [hinner, value, QuotedText.text]
  | numeral n =>
    have hquoted : isQuoted (typed (.numeral n)) = false := by
      obtain ⟨c, r, hcr⟩ := List.exists_cons_of_ne_nil n.typed_ne_nil
      have hc : isQuote c = false := Numeral.not_isQuote (n := n) (by simp [hcr])
      simp [typed, hcr, isQuoted, hc]
    have hnumber : number? (typed (.numeral n)) = some (.int n.value) := n.number?_typed
    simp [item, hquoted, hnumber, value]

/-- The scan of a list takes a literal whole into the current item. -/
theorem splitItems_typed (l : Literal) (item rest : List Char) :
    splitItems none item (l.typed ++ rest) = splitItems none (l.typed.reverse ++ item) rest := by
  cases l with
  | quoted t => exact t.splitItems_typed item rest
  | numeral n =>
    exact splitItems_outside (fun _ => Numeral.not_isQuote) (fun _ => Numeral.ne_comma) item rest

end Literal

/-! ### Items of a list -/

structure ListItem where
  front : List Char
  literal : Literal
  back : List Char
  front_blank : ∀ c ∈ front, Text.isBlank c = true
  back_blank : ∀ c ∈ back, Text.isBlank c = true

theorem splitItems_blanks {cs : List Char} (h : ∀ c ∈ cs, Text.isBlank c = true)
    (item rest : List Char) :
    splitItems none item (cs ++ rest) = splitItems none (cs.reverse ++ item) rest := by
  apply splitItems_outside
  · intro c hc
    have hblank := h c hc
    cases hq : isQuote c with
    | false => rfl
    | true => simp [not_isBlank_of_isQuote hq] at hblank
  · rintro c hc rfl
    have hblank := h _ hc
    revert hblank
    decide

namespace ListItem

def bare (l : Literal) : ListItem := ⟨[], l, [], by simp, by simp⟩

def typed (i : ListItem) : List Char := i.front ++ (i.literal.typed ++ i.back)

theorem trim_typed (i : ListItem) : Text.trim i.typed = i.literal.typed := by
  rw [typed, Text.trim_blanks_append i.front_blank,
    Text.trim_append_blanks i.back_blank i.literal.exists_not_isBlank, i.literal.trim_typed]

theorem splitItems_typed (i : ListItem) (item rest : List Char) :
    splitItems none item (i.typed ++ rest) = splitItems none (i.typed.reverse ++ item) rest := by
  simp only [typed, List.append_assoc, List.reverse_append]
  rw [splitItems_blanks i.front_blank, i.literal.splitItems_typed, splitItems_blanks i.back_blank]

def join (is : List ListItem) : String := Text.join "," (is.map fun i => String.ofList i.typed)

theorem toList_join_singleton (i : ListItem) : (join [i]).toList = i.typed := by
  simp [join, Text.join]

theorem toList_join_cons (i j : ListItem) (is : List ListItem) :
    (join (i :: j :: is)).toList = i.typed ++ ',' :: (join (j :: is)).toList := by
  simp [join, Text.join]

end ListItem

theorem splitItems_items {is : List ListItem} (h : is ≠ []) :
    splitItems none [] (ListItem.join is).toList = .ok (is.map (·.literal.typed)) := by
  induction is with
  | nil => exact absurd rfl h
  | cons i is ih =>
    cases is with
    | nil =>
      have hsplit := i.splitItems_typed [] []
      rw [List.append_nil, List.append_nil] at hsplit
      simp [ListItem.toList_join_singleton, hsplit, splitItems, i.trim_typed]
    | cons j is =>
      have hrest := ih (by simp)
      have hq : isQuote ',' = false := by decide
      rw [ListItem.toList_join_cons, i.splitItems_typed, List.append_nil, splitItems, hrest]
      simp [hq, i.trim_typed, Except.map]

theorem mapM_item (is : List ListItem) :
    (is.map (·.literal.typed)).mapM item = .ok (is.map (·.literal.value)) := by
  induction is with
  | nil => rfl
  | cons i is ih =>
    rw [List.map_cons, List.mapM_cons, i.literal.item_typed, ih]
    rfl

/-- A list is read as the values of its items, in their order. -/
theorem list_items (is : List ListItem) :
    list (ListItem.join is).toList = .ok (is.map (·.literal.value)) := by
  cases is with
  | nil => rfl
  | cons i is =>
    have hsplit := splitItems_items (List.cons_ne_nil i is)
    have hblank : ¬(ListItem.join (i :: is)).toList.all Text.isBlank = true := by
      intro hall
      apply i.literal.exists_not_isBlank
      intro c hc
      apply List.all_eq_true.mp hall c
      cases is with
      | nil => simp [ListItem.toList_join_singleton, ListItem.typed, hc]
      | cons j is => simp [ListItem.toList_join_cons, ListItem.typed, hc]
    rw [list, if_neg hblank, hsplit]
    exact mapM_item (i :: is)

end Notation

end QueryDesk
