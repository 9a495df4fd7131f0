import Mathlib.Control.Monad.Basic
import QueryDesk.Http.Service
import QueryDesk.Proofs.Filter.RoundTrip
import QueryDesk.Proofs.Sequence

/-!
# Canonical texts of filters

What can be read from a filter text has one of four shapes, by the kind of its operator, whatever
the text looked like. A reading of these shapes that has no decimals is written as a text that reads
back as the same operator with the same values. Main statement: the canonical text that is given out
for a filter text reads as that text does, and is its own canonical text.
-/

namespace QueryDesk

namespace Notation

/-! ### What can be read -/

/-- A text or a number. -/
inductive Scalar : Value → Prop where
  | plain {v : Value} (h : Plain v) : Scalar v
  | float (x : Binary64) : Scalar (.float x)

theorem Scalar.text (s : String) : Scalar (.text s) := .plain (.text s)

theorem Scalar.plain_of_ne_float {v : Value} (h : Scalar v) (hx : ∀ x, v ≠ .float x) : Plain v := by
  cases h with
  | plain h => exact h
  | float x => exact absurd rfl (hx x)

theorem scalar_of_number? {cs : List Char} {v : Value} (h : number? cs = some v) : Scalar v := by
  unfold number? at h
  split at h
  · cases h
    exact .plain (.int _)
  · split at h
    · split at h
      · cases h
        exact .float _
      · cases h
    · cases h

theorem exists_of_map_ok {ε α β : Type} {x : Except ε α} {f : α → β} {b : β}
    (h : x.map f = .ok b) : ∃ a, x = .ok a ∧ b = f a := by
  cases x with
  | error e => cases h
  | ok a =>
    cases h
    exact ⟨a, rfl, rfl⟩

theorem scalar_of_scalar {cs : List Char} {v : Value} (h : scalar cs = .ok v) : Scalar v := by
  unfold scalar at h
  split at h
  · cases h
  · split at h
    · obtain ⟨s, -, rfl⟩ := exists_of_map_ok h
      exact .text _
    · cases h
      cases hn : number? _ with
      | none => exact .text _
      | some w => exact scalar_of_number? hn

theorem text_of_scalar_quote {c : Char} (hc : isQuote c = true) {r : List Char} {v : Value}
    (h : scalar (c :: r) = .ok v) : ∃ s, v = .text s := by
  have hblank : Text.isBlank c = false := by
    rw [isQuote, Bool.or_eq_true, beq_iff_eq, beq_iff_eq] at hc
    rcases hc with rfl | rfl <;> rfl
  obtain ⟨front, back, hsplit, hfront, -⟩ := Text.trim_split (c :: r)
  have hnil : front = [] := by
    cases front with
    | nil => rfl
    | cons d ds =>
      have hd : Text.isBlank d = true := hfront d (by simp)
      rw [← (List.cons.inj hsplit).1, hblank] at hd
      cases hd
  rw [hnil, List.nil_append] at hsplit
  cases ht : Text.trim (c :: r) with
  | nil => simp [scalar, ht] at h
  | cons d ds =>
    rw [ht, List.cons_append] at hsplit
    obtain ⟨rfl, -⟩ := List.cons.inj hsplit
    simp only [scalar, ht, hc, if_true] at h
    obtain ⟨s, -, rfl⟩ := exists_of_map_ok h
    exact ⟨_, rfl⟩

theorem scalar_of_item {cs : List Char} {v : Value} (h : item cs = .ok v) : Scalar v := by
  unfold item at h
  split at h
  · cases h
    exact .text _
  · split at h
    · cases h
      exact scalar_of_number? ‹_›
    · cases h

theorem scalar_of_mapM_item {css : List (List Char)} {vs : List Value}
    (h : css.mapM item = .ok vs) : ∀ v ∈ vs, Scalar v := by
  intro v hv
  obtain ⟨cs, -, hcs⟩ := exists_of_mem_mapM h hv
  exact scalar_of_item hcs

theorem scalar_of_list {cs : List Char} {vs : List Value} (h : list cs = .ok vs) :
    ∀ v ∈ vs, Scalar v := by
  unfold list at h
  split at h
  · cases h
    simp
  · cases hs : splitItems none [] cs with
    | error e => rw [hs] at h; cases h
    | ok items =>
      rw [hs] at h
      exact scalar_of_mapM_item h

/-- What can be read: an operator with the operands that its kind has. -/
inductive Regular : Reading → Prop where
  | null {o : Operator} (kind : o.isNullCheck = true) : Regular ⟨o, []⟩
  | list {o : Operator} (kind : o.isList = true) {vs : List Value} (scalars : ∀ v ∈ vs, Scalar v) :
      Regular ⟨o, vs.map .literal⟩
  | pattern {o : Operator} (kind : o.isPattern = true) (s : String) :
      Regular ⟨o, [.literal (.text s)]⟩
  | comparison {o : Operator} (kind : isComparison o = true) {v : Value} (scalar : Scalar v) :
      Regular ⟨o, [.literal v]⟩

/-- The kind of operator that stands in front of such operands. -/
def Tail.fits : Tail → Operator → Bool
  | nothing => Operator.isNullCheck
  | scalar => isComparison
  | quoted => Operator.isPattern
  | list => Operator.isList

theorem tail_fits : ∀ f ∈ forms, f.tail.fits f.operator = true := by
  have h : forms.all (fun f => f.tail.fits f.operator) = true := rfl
  simpa using h

/-- Behind an operator for patterns a form leaves nothing but what begins with a quote. -/
theorem Form.quote_of_match? {f : Form} (tail : f.tail = .quoted) {cs body : List Char}
    (h : f.match? cs = some body) : ∃ c r, body = c :: r ∧ isQuote c = true := by
  cases hw : afterWords? f.words cs with
  | none => simp [Form.match?, hw] at h
  | some rest =>
    cases ht : Text.trimLeft rest with
    | nil => simp [Form.match?, hw, tail, ht] at h
    | cons c r =>
      simp only [Form.match?, hw, tail, ht, bind, Option.bind] at h
      split at h
      · cases h
        exact ⟨c, r, rfl, ‹_›⟩
      · cases h

theorem Form.regular {f : Form} (fits : f.tail.fits f.operator = true) {cs body : List Char}
    (hm : f.match? cs = some body) {operands : List Operand}
    (h : f.tail.operands body = .ok operands) : Regular ⟨f.operator, operands⟩ := by
  cases ht : f.tail with
  | nothing =>
    rw [ht] at fits h
    cases h
    exact .null fits
  | scalar =>
    rw [ht] at fits h
    obtain ⟨v, hv, rfl⟩ := exists_of_map_ok h
    exact .comparison fits (scalar_of_scalar hv)
  | quoted =>
    obtain ⟨c, r, rfl, hc⟩ := Form.quote_of_match? ht hm
    rw [ht] at fits h
    obtain ⟨v, hv, rfl⟩ := exists_of_map_ok h
    obtain ⟨s, rfl⟩ := text_of_scalar_quote hc hv
    exact .pattern fits s
  | list =>
    rw [ht] at fits h
    obtain ⟨vs, hvs, rfl⟩ := exists_of_map_ok h
    exact .list fits (scalar_of_list hvs)

theorem regular_of_readBy {fs : List Form} (fits : ∀ f ∈ fs, f.tail.fits f.operator = true)
    {cs : List Char} {r : Reading} (h : readBy fs cs = .ok (some r)) : Regular r := by
  induction fs with
  | nil => cases h
  | cons f fs ih =>
    rw [readBy] at h
    cases hm : f.match? cs with
    | none =>
      rw [hm] at h
      exact ih (fun g hg => fits g (by simp [hg])) h
    | some body =>
      rw [hm] at h
      obtain ⟨operands, ho, hr⟩ := exists_of_map_ok h
      cases hr
      exact Form.regular (fits f (by simp)) hm ho

theorem default_of_number {declared : Option String}
    (number : declared.any ColumnKind.isNumber = true) :
    Operator.default declared .contains = .eq := by
  cases declared with
  | none => rfl
  | some t =>
    rw [Option.any_some] at number
    simp [Operator.default, ColumnKind.isText_of_isNumber number]

/-- A text without operator takes the default of its column, which for numbers is a comparison. -/
theorem regular_default {declared : Option String} {v : Value} (scalar : Scalar v)
    (texts : declared.any ColumnKind.isNumber = false → ∃ s, v = .text s) :
    Regular ⟨Operator.default declared .contains, [.literal v]⟩ := by
  cases hn : declared.any ColumnKind.isNumber with
  | true =>
    rw [default_of_number hn]
    exact .comparison rfl scalar
  | false =>
    obtain ⟨s, rfl⟩ := texts hn
    by_cases ht : declared.any ColumnKind.isText = true
    · rw [Operator.default, if_pos ht]
      exact .pattern rfl s
    · rw [Operator.default, if_neg ht]
      exact .comparison rfl scalar

theorem regular_of_read {text : String} {declared : Option String} {r : Reading}
    (h : read text declared = .ok r) : Regular r := by
  unfold read at h
  cases hr : read? text with
  | error e => rw [hr] at h; cases h
  | ok found =>
    rw [hr] at h
    cases found with
    | some r' =>
      cases h
      exact regular_of_readBy tail_fits hr
    | none =>
      cases ht : Text.trim text.toList with
      | nil => simp [ht, bind, Except.bind] at h
      | cons c cs =>
        simp only [ht, bind, Except.bind, pure, Except.pure] at h
        by_cases hn : declared.any ColumnKind.isNumber = true
        · rw [if_pos hn] at h
          cases hv : scalar (c :: cs) with
          | error e => rw [hv] at h; cases h
          | ok v =>
            rw [hv] at h
            cases h
            exact regular_default (scalar_of_scalar hv) fun hf =>
              absurd (hn.symm.trans hf) (by simp)
        · rw [if_neg hn] at h
          by_cases hq : isQuoted (c :: cs) = true
          · rw [if_pos hq] at h
            cases hu : unquote c cs with
            | error e => rw [hu] at h; cases h
            | ok s =>
              rw [hu] at h
              cases h
              exact regular_default (.text _) fun _ => ⟨_, rfl⟩
          · rw [if_neg hq] at h
            cases h
            exact regular_default (.text _) fun _ => ⟨_, rfl⟩

/-! ### What is written for it -/

/-- A column without a type is treated like one of an empty type. -/
theorem read_getD (text : String) (declared : Option String) :
    read text (some (declared.getD "")) = read text declared := by
  cases declared with
  | none =>
    have hnumber : ColumnKind.isNumber "" = false := by decide
    have htext : ColumnKind.isText "" = false := by decide
    simp [read, Operator.default, hnumber, htext]
  | some t => rfl

/-- What can be read is read again from its own text, as long as it has no decimals. -/
theorem Regular.reads_back {r : Reading} (h : Regular r)
    (noFloat : ∀ o ∈ r.operands, ∀ x, o.value ≠ .float x) (column declared : String) :
    read (write (r.toFilter column) declared) (some declared) = .ok r := by
  cases h with
  | @null o kind =>
    have hwrite : write (Reading.toFilter ⟨o, []⟩ column) declared = o.symbol := by
      cases o with
      | isNull => rfl
      | isNotNull => rfl
      | _ => cases kind
    rw [hwrite, read_null kind]
  | @list o kind vs scalars =>
    have hplain : ∀ v ∈ vs, Plain v := fun v hv =>
      (scalars v hv).plain_of_ne_float (noFloat _ (List.mem_map_of_mem hv))
    have hwrite : write (Reading.toFilter ⟨o, vs.map .literal⟩ column) declared =
        o.symbol ++ " (" ++ Text.join ", " (vs.map literal) ++ ")" := by
      cases o with
      | isIn => simp [write, Reading.toFilter, Filter.on, Operand.literal, Function.comp_def]
      | notIn => simp [write, Reading.toFilter, Filter.on, Operand.literal, Function.comp_def]
      | _ => cases kind
    rw [hwrite, read_list kind hplain]
  | @pattern o kind s =>
    have hvalue : (Operand.literal (.text s)).value.display = s := rfl
    rcases write_pattern (f := Reading.toFilter ⟨o, [.literal (.text s)]⟩ column) kind rfl declared
      with ⟨t, ht, ho, htext, hbare, hwrite⟩ | hwrite
    · cases ht
      cases ho
      rw [hwrite, read_bare htext hbare]
    · rw [hwrite, hvalue]
      exact read_pattern kind s _
  | @comparison o kind v scalar =>
    have hplain : Plain v := scalar.plain_of_ne_float (noFloat (.literal v) (by simp))
    rw [write_comparison (f := Reading.toFilter ⟨o, [.literal v]⟩ column) kind rfl declared]
    split
    next h =>
      have ho : o = .eq := h.1
      rw [ho]
      exact read_number h.2 hplain
    next => exact read_comparison kind hplain _

end Notation

namespace Http.FilterQuestion

open Notation

/-- A text that can be read without a decimal in it is answered with a canonical text: read for the
same type of column it has the same operator and the same values, and it is answered with itself. -/
theorem canonical_text (text : String) (declared : Option String) (r : Reading)
    (parsed : read text declared = .ok r)
    (noFloat : ∀ o ∈ r.operands, ∀ x, o.value ≠ .float x) :
    ∃ c, answer ⟨text, declared⟩ =
        .ok (.obj (r.members ++ [("label", .str r.operator.label), ("text", .str c)])) ∧
      read c declared = .ok r ∧
      answer ⟨c, declared⟩ =
        .ok (.obj (r.members ++ [("label", .str r.operator.label), ("text", .str c)])) := by
  have hback := (regular_of_read parsed).reads_back noFloat "" (declared.getD "")
  rw [read_getD] at hback
  refine ⟨write (r.toFilter "") (declared.getD ""), ?_, hback, ?_⟩
  · simp only [answer, parsed]
  · simp only [answer, hback]

/-- Quoted pieces side by side are one text, whose inner quotes stay. -/
theorem canonical_text_pieces :
    ∃ c, answer ⟨" nOt  iN ( 'a' 'b',-7 )", none⟩ =
        .ok (.obj (Reading.members ⟨.notIn, [.literal (.text "a' 'b"), .literal (.int (-7))]⟩ ++
          [("label", .str "not in list"), ("text", .str c)])) ∧
      read c none = .ok ⟨.notIn, [.literal (.text "a' 'b"), .literal (.int (-7))]⟩ ∧
      answer ⟨c, none⟩ =
        .ok (.obj (Reading.members ⟨.notIn, [.literal (.text "a' 'b"), .literal (.int (-7))]⟩ ++
          [("label", .str "not in list"), ("text", .str c)])) :=
  canonical_text " nOt  iN ( 'a' 'b',-7 )" none
    ⟨.notIn, [.literal (.text "a' 'b"), .literal (.int (-7))]⟩ (by decide +kernel)
    (by simp [Operand.literal])

end Http.FilterQuestion

end QueryDesk
