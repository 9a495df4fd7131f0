import Mathlib.Data.List.TakeWhile
import QueryDesk.Proofs.Sql.Server

/-!
# Boundaries of tokens

Where the tokens of a dialect meet, the server may read across: a name may go on, two characters may
make a comment, a letter may belong to the quotes that follow. `Rests` says that this happens at a
place of doubt only. It is kept by every character that belongs to no name, and names and operators
are read over as they stand.
-/

namespace QueryDesk.Sql.Server

/-! ### Characters -/

/-- What holds of the ASCII characters one by one holds of a character among them. -/
theorem of_ascii {P : Char → Prop} (h : ∀ n, n < 128 → P (.ofNat n)) {c : Char}
    (hc : c.toNat < 128) : P c :=
  c.ofNat_toNat ▸ h c.toNat hc

/-- What a character of a name is not. -/
structure Letter (d : Dialect) (c : Char) : Prop where
  mark : isMark d c = false
  separates : separates c = false
  control : isControl c = false
  other : c ∉ ['*', '-', '/', '#', '?', '.', '\\']

theorem letter {d : Dialect} {c : Char} (h : insideName d c = true) : Letter d c := by
  by_cases hc : c.toNat < 128
  · have hall : ∀ n, n < 128 → insideName d (Char.ofNat n) = true →
        isMark d (Char.ofNat n) = false ∧ separates (Char.ofNat n) = false ∧
        isControl (Char.ofNat n) = false ∧
        Char.ofNat n ∉ ['*', '-', '/', '#', '?', '.', '\\'] := by
      cases d <;> decide +kernel
    obtain ⟨hm, hs, hk, hother⟩ := of_ascii
      (P := fun c => insideName d c = true → isMark d c = false ∧ separates c = false ∧
        isControl c = false ∧ c ∉ ['*', '-', '/', '#', '?', '.', '\\']) hall hc h
    exact ⟨hm, hs, hk, hother⟩
  · have hne : ∀ x : Char, x.toNat < 128 → c ≠ x := by
      rintro x hx rfl
      exact hc hx
    have hmark : isMark d c = false := by
      simp [isMark, hne '\'' (by decide), hne '"' (by decide), hne '`' (by decide)]
    have hseparates : separates c = false := by
      have hlarge : ¬c.toNat ≤ 13 := by omega
      simp [separates, hne ',' (by decide), hne '(' (by decide), hne ')' (by decide),
        hne ' ' (by decide), hlarge]
    have hcontrol : isControl c = false := by
      have hlarge : ¬c.toNat ≤ 32 ∧ ¬c.toNat = 127 := by omega
      simp [isControl, hlarge]
    refine ⟨hmark, hseparates, hcontrol, ?_⟩
    intro hmem
    have hsmall : ['*', '-', '/', '#', '?', '.', '\\'].all (fun x => x.toNat < 128) = true := by
      decide
    have hlt := List.all_eq_true.1 hsmall c hmem
    exact hc (of_decide_eq_true hlt)

/-- A character of operators in a dialect, comments and parameters aside. -/
def isOperator (d : Dialect) (c : Char) : Bool :=
  isSign c && !isMark d c && !insideName d c && (d == .postgres || (c != '#' && c != '?'))

theorem isOperator_of_insideOperator {d : Dialect} {c : Char} (h : insideOperator d c = true) :
    isOperator d c = true := by
  cases d with
  | mysql => cases h
  | postgres =>
    have hall : "+-*/<>=~!@#%^&|`?".toList.all (isOperator .postgres) = true := by decide
    rw [insideOperator, Bool.and_eq_true, List.contains_iff_mem] at h
    exact List.all_eq_true.1 hall c h.2

structure Operator (d : Dialect) (c : Char) : Prop where
  sign : isSign c = true
  mark : isMark d c = false
  name : insideName d c = false
  silent : d = .mysql → c ≠ '#' ∧ c ≠ '?'
  separates : separates c = false

theorem operator {d : Dialect} {c : Char} (h : isOperator d c = true) : Operator d c := by
  have hseparates : "+-*/<>=~!@#%^&|`?".toList.all (!separates ·) = true := by decide
  simp only [isOperator, Bool.and_eq_true, Bool.not_eq_true', Bool.or_eq_true, beq_iff_eq,
    bne_iff_ne] at h
  obtain ⟨⟨⟨hs, hm⟩, hn⟩, hsilent⟩ := h
  refine ⟨hs, hm, hn, ?_, ?_⟩
  · rintro rfl
    simpa using hsilent
  · rw [isSign, insideOperator, Bool.and_eq_true, List.contains_iff_mem] at hs
    have hc := List.all_eq_true.1 hseparates c hs.2
    rwa [Bool.not_eq_true'] at hc

/-! ### Boundaries of tokens -/

/-- A character that opens no comment together with what follows it. -/
structure Alone (d : Dialect) (c : Char) (rest : List Char) : Prop where
  block : c = '/' → rest.head? ≠ some '*'
  line : d = .postgres → c = '-' → rest.head? ≠ some '-'
  dash : d = .mysql → c = '-' → ∀ x r, rest = '-' :: x :: r → Text.isBlank x = false

theorem Alone.of_ne {d : Dialect} {c : Char} {rest : List Char} (h : c ≠ '/' ∧ c ≠ '-') :
    Alone d c rest where
  block hc := absurd hc h.1
  line _ hc := absurd hc h.2
  dash _ hc := absurd hc h.2

/-- What is known between two tokens: whatever the second begins with, it does not join what was
read of the first, unless there is a place of doubt where they meet. -/
structure Rests (d : Dialect) (behind rest : List Char) : Prop where
  word : ∀ c r, rest = c :: r → insideName d c = true →
    wordBehind d behind = [] ∨ numeric d behind = true
  literal : d = .postgres → rest.head? = some '\'' →
    wordBehind d behind = ['e'] ∨ wordBehind d behind = ['E'] → numeric d behind = true
  block : behind.head? = some '/' → rest.head? = some '*' → behind.tail.head?.any isSign = true
  line : d = .postgres → behind.head? = some '-' → rest.head? = some '-' →
    behind.tail.head?.any isSign = true
  dash : d = .mysql → behind.head? = some '-' →
    ∀ x r, rest = '-' :: x :: r → Text.isBlank x = false
  dashes : d = .mysql → behind.take 2 = ['-', '-'] →
    ∀ x r, rest = x :: r → Text.isBlank x = false

/-- Where the server may stand between two tokens. -/
inductive Ready (d : Dialect) : Mode → List Char → Prop
  | outside {behind rest : List Char} (h : Rests d behind rest) : Ready d (.outside behind) rest
  | shut {q : Quoting} {rest : List Char} (h : rest.head? ≠ some q.mark) : Ready d (.shut q) rest
  | line : Ready d .line []

theorem Rests.nil (d : Dialect) (rest : List Char) : Rests d [] rest where
  word _ _ _ _ := .inl rfl
  literal _ _ h := by rcases h with h | h <;> cases h
  block h := by cases h
  line _ h := by cases h
  dash _ h := by cases h
  dashes _ h := by cases h

section

variable {d : Dialect} {b r : List Char} {c : Char}

theorem wordBehind_cons_of_not (h : insideName d c = false) : wordBehind d (c :: b) = [] := by
  have hne : ¬insideName d c = true := by simp [h]
  rw [wordBehind, List.takeWhile_cons_of_neg hne, List.reverse_nil]

theorem Rests.push (h : Rests d b (c :: r)) (hn : insideName d c = false)
    (hc : Alone d c r ∨ b.head?.any isSign = true ∧ (d = .mysql → c ≠ '-')) :
    Rests d (push b c) r := by
  rw [Server.push]
  split
  · exact .nil d r
  · have hword := wordBehind_cons_of_not (b := b) hn
    refine ⟨fun _ _ _ _ => .inl hword, fun _ _ he => ?_, fun hb hr => ?_, fun hd hb hr => ?_,
      fun hd hb x r' hr => ?_, fun hd hb x r' hr => ?_⟩
    · rw [hword] at he
      rcases he with he | he <;> cases he
    · rcases hc with hc | hc
      · exact absurd hr (hc.block (Option.some.inj hb))
      · exact hc.1
    · rcases hc with hc | hc
      · exact absurd hr (hc.line hd (Option.some.inj hb))
      · exact hc.1
    · rcases hc with hc | hc
      · exact hc.dash hd (Option.some.inj hb) x r' hr
      · exact absurd (Option.some.inj hb) (hc.2 hd)
    · rcases b with - | ⟨b₀, b⟩
      · cases hb
      · obtain ⟨rfl, rfl⟩ : c = '-' ∧ b₀ = '-' := by simpa using hb
        exact h.dash hd rfl x r' (by rw [hr])

end

/-! ### Single characters -/

section

variable {d : Dialect} {b r : List Char} {c : Char}

theorem next_plain (h : Rests d b (c :: r)) (hm : isMark d c = false) (hn : insideName d c = false)
    (hs : d = .mysql → c ≠ '#') (hd : doubt d (.outside b) c = false) :
    next d (.outside b) c = .outside (push b c) := by
  simp only [doubt, doubtOutside, Bool.or_eq_false_iff, Bool.and_eq_false_iff] at hd
  obtain ⟨⟨⟨-, hblock⟩, -⟩, hother⟩ := hd
  have hstar : (c == '*' && b.head? == some '/') = false := by
    rw [Bool.and_eq_false_iff]
    rcases hblock with hblock | hblock
    · exact hblock
    · by_contra hcon
      simp only [not_or, Bool.not_eq_false, beq_iff_eq] at hcon
      have hsign := h.block hcon.2 (by rw [hcon.1]; rfl)
      rw [hsign] at hblock
      cases hblock
  simp only [next, nextOutside, hm, hstar, Bool.false_eq_true, if_false]
  cases d with
  | mysql =>
    simp only [Bool.or_eq_false_iff, Bool.and_eq_false_iff] at hother
    have hdash : (isControl c && b.take 2 == ['-', '-']) = false := by
      by_contra hcon
      simp only [Bool.not_eq_false, Bool.and_eq_true, beq_iff_eq] at hcon
      have hblank := h.dashes rfl hcon.2 c r rfl
      simp [hcon.1, hcon.2, hblank] at hother
    simp [hs rfl, hdash]
  | postgres =>
    simp only [Bool.or_eq_false_iff, Bool.and_eq_false_iff] at hother
    have hdash : (c == '-' && b.head? == some '-') = false := by
      rw [Bool.and_eq_false_iff]
      rcases hother.1 with hline | hline
      · exact hline
      · by_contra hcon
        simp only [not_or, Bool.not_eq_false, beq_iff_eq] at hcon
        have hsign := h.line rfl hcon.2 (by rw [hcon.1]; rfl)
        rw [hsign] at hline
        cases hline
    have hdollar : (c == '$') = false := by
      by_contra hcon
      simp only [Bool.not_eq_false, beq_iff_eq] at hcon
      subst hcon
      cases hn
    simp [hdash, hdollar]

theorem mark_plain (hn : insideName d c = false) (hs : d = .mysql → c ≠ '?') :
    mark d (.outside b) c = [] := by
  cases d with
  | mysql => simp [mark, markOutside, hs rfl]
  | postgres =>
    have hdigit : c.isDigit = false := by
      by_contra hcon
      simp only [Bool.not_eq_false] at hcon
      simp [insideName, hcon] at hn
    simp [mark, markOutside, hdigit]

end

/-! ### Words and operators -/

section

variable {d : Dialect} {b u rest : List Char}

theorem wordBehind_append (h : ∀ c ∈ u, insideName d c = true) :
    wordBehind d (u.reverse ++ b) = wordBehind d b ++ u := by
  have hr : ∀ c ∈ u.reverse, insideName d c = true := fun c hc => h c (List.mem_reverse.1 hc)
  rw [wordBehind, List.takeWhile_append_of_pos hr, List.reverse_append, List.reverse_reverse,
    wordBehind]

/-- A name is read over, one that begins with a dollar sign in Postgres aside. -/
theorem after_name (h : ∀ c ∈ u, insideName d c = true)
    (hw : d = .postgres → (wordBehind d b ++ u).head? ≠ some '$') :
    after d (.outside b) u = .outside (u.reverse ++ b) ∧ marks d (.outside b) u = [] := by
  -- The word behind grows by each letter, so what it begins with is fixed by the first one.
  induction u generalizing b with
  | nil => exact ⟨rfl, rfl⟩
  | cons c u ih =>
    have hc := h c List.mem_cons_self
    obtain ⟨hm, hs, hk, hother⟩ := letter hc
    simp only [List.mem_cons, List.not_mem_nil, or_false, not_or] at hother
    have hpush : push b c = c :: b := by simp [push, hs]
    have hnext : next d (.outside b) c = .outside (c :: b) ∧ mark d (.outside b) c = [] := by
      simp only [next, mark, nextOutside, markOutside, hm, hpush, hother, hk, beq_iff_eq,
        Bool.false_eq_true, if_false, Bool.false_and, Bool.and_eq_true, false_and]
      cases d with
      | mysql => exact ⟨rfl, rfl⟩
      | postgres =>
        have hhead := hw rfl
        have hdigit : (wordBehind .postgres b).head? ≠ some '$' := by
          intro he
          rw [List.head?_append_of_ne_nil _ (by rintro hnil; rw [hnil] at he; cases he)] at hhead
          exact hhead he
        simp only [openedTag_eq_none hdigit, paramDigit_eq_nil c hdigit, ite_self, and_self]
    have hstep : wordBehind d (c :: b) = wordBehind d b ++ [c] :=
      wordBehind_append (u := [c]) (by simpa using hc)
    have hrest := ih (b := c :: b) (fun x hx => h x (List.mem_cons_of_mem c hx)) fun hd => by
      rw [hstep, List.append_assoc]
      exact hw hd
    rw [after_cons, marks_cons, hnext.1, hnext.2, hrest.1, hrest.2, List.reverse_cons,
      List.append_assoc]
    exact ⟨rfl, rfl⟩

/-- Operator characters are read over, where the first of them opens no comment. -/
theorem after_operator (hu : ∀ c ∈ u, isOperator d c = true) (h : Rests d b (u ++ rest))
    (hc : ∀ c r, u ++ rest = c :: r →
      Alone d c r ∨ b.head?.any isSign = true ∧ (d = .mysql → '-' ∉ u))
    (hlater : d = .mysql → '-' ∉ u.tail) (hd : doubtful d (.outside b) u = false) :
    after d (.outside b) u = .outside (u.reverse ++ b) ∧ Rests d (u.reverse ++ b) rest ∧
      marks d (.outside b) u = [] := by
  -- Behind the first sign the link is that a sign stands in front.
  induction u generalizing b with
  | nil => exact ⟨rfl, h, rfl⟩
  | cons c u ih =>
    obtain ⟨hsign, hm, hn, hsilent, hs⟩ := operator (hu c List.mem_cons_self)
    rw [doubtful_cons, Bool.or_eq_false_iff] at hd
    have hnext := next_plain h hm hn (fun hd => (hsilent hd).1) hd.1
    have hpush : push b c = c :: b := by simp [push, hs]
    have hlink := hc c (u ++ rest) rfl
    have hrests := Rests.push h hn (hlink.imp_right fun hl =>
      ⟨hl.1, fun hd he => hl.2 hd (he ▸ List.mem_cons_self)⟩)
    rw [hpush] at hnext hrests
    rw [hnext] at hd
    have hrest := ih (fun x hx => hu x (List.mem_cons_of_mem c hx)) hrests
      (fun x r _ => .inr ⟨hsign, hlater⟩)
      (fun hd hmem => hlater hd (List.mem_of_mem_tail hmem)) hd.2
    rw [after_cons, marks_cons, hnext, mark_plain hn fun hd => (hsilent hd).2, hrest.1, hrest.2.2,
      List.reverse_cons, List.append_assoc]
    exact ⟨rfl, hrest.2.1, rfl⟩

end

end QueryDesk.Sql.Server
