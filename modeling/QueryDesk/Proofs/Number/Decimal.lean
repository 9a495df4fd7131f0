import Mathlib.Data.Rat.Floor
import QueryDesk.Proofs.Number.Digits

/-!
# Decimal numbers

What the number of some digits becomes when more digits are put behind them or some are cut off at the
end. A decimal number is a sign, digits in front of a point and digits behind it; as a fraction it is
the number of all its digits, divided by ten for each place behind the point.
-/

namespace QueryDesk

namespace Number

/-! ### Digits behind each other -/

theorem head?_toDigits {n : Nat} (h : n ≠ 0) : (Nat.toDigits 10 n).head? ≠ some '0' := by
  induction n using Nat.strongRecOn with
  | _ n ih =>
    rw [Nat.toDigits_eq_if (by omega)]
    split
    next hlt =>
      have hall : ∀ k < 10, k ≠ 0 → Nat.digitChar k ≠ '0' := by decide
      simpa using hall n hlt h
    next hge =>
      rw [List.head?_append_of_ne_nil _ Nat.toDigits_ne_nil]
      exact ih (n / 10) (by omega) (by omega)

theorem digitsValue_append (a b : List Char) :
    digitsValue (a ++ b) = 10 ^ b.length * digitsValue a + digitsValue b := by
  have h : ∀ cs, digitsValue cs = Nat.ofDigitChars 10 cs 0 := fun _ => rfl
  rw [h, Nat.ofDigitChars_append, Nat.ofDigitChars_eq_ofDigitChars_zero]
  rfl

theorem digitsValue_lt {cs : List Char} (h : ∀ c ∈ cs, c.isDigit = true) :
    digitsValue cs < 10 ^ cs.length := by
  induction cs with
  | nil => decide
  | cons c cs ih =>
    have hrest := ih fun d hd => h d (List.mem_cons_of_mem c hd)
    have hdigit : digitsValue [c] ≤ 9 := by
      have hc := h c List.mem_cons_self
      have hval : c.toNat ≤ 57 := by
        simp only [Char.isDigit, Bool.and_eq_true, decide_eq_true_eq] at hc
        exact hc.2
      simp only [digitsValue, List.foldl_cons, List.foldl_nil]
      omega
    calc digitsValue ([c] ++ cs)
        = 10 ^ cs.length * digitsValue [c] + digitsValue cs := digitsValue_append [c] cs
      _ < 10 ^ cs.length * digitsValue [c] + 10 ^ cs.length := by omega
      _ = 10 ^ cs.length * (digitsValue [c] + 1) := by rw [Nat.mul_succ]
      _ ≤ 10 ^ cs.length * 10 := Nat.mul_le_mul_left _ (by omega)
      _ = 10 ^ (c :: cs).length := by rw [List.length_cons, pow_succ]

theorem digitsValue_take {cs : List Char} (h : ∀ c ∈ cs, c.isDigit = true) (k : Nat) :
    digitsValue (cs.take k) = digitsValue cs / 10 ^ (cs.length - k) := by
  have hlt := digitsValue_lt fun c (hc : c ∈ cs.drop k) => h c (List.mem_of_mem_drop hc)
  have hsplit := digitsValue_append (cs.take k) (cs.drop k)
  rw [List.take_append_drop] at hsplit
  rw [List.length_drop] at hlt hsplit
  rw [hsplit, Nat.mul_add_div (by positivity), Nat.div_eq_of_lt hlt, Nat.add_zero]

end Number

/-! ### Decimal numbers -/

/-- A decimal number as it is written: with at least one digit in front of the point. -/
structure Decimal where
  negative : Bool
  whole : List Char
  fraction : List Char
  whole_ne_nil : whole ≠ []
  isDigit : ∀ c ∈ whole ++ fraction, c.isDigit = true

namespace Decimal

/-- The text of a number; the point stands only between digits. -/
def text (t : Decimal) : String :=
  (if t.negative then "-" else "") ++ String.ofList t.whole
    ++ if t.fraction = [] then "" else "." ++ String.ofList t.fraction

def magnitude (t : Decimal) : Rat :=
  Number.digitsValue (t.whole ++ t.fraction) / 10 ^ t.fraction.length

theorem toList_text (t : Decimal) : t.text.toList = (if t.negative then ['-'] else []) ++
    (t.whole ++ if t.fraction = [] then [] else '.' :: t.fraction) := by
  have hsign : (if t.negative then "-" else "").toList = if t.negative then ['-'] else [] := by
    split <;> rfl
  have hplaces : (if t.fraction = [] then "" else "." ++ String.ofList t.fraction).toList =
      if t.fraction = [] then [] else '.' :: t.fraction := by
    split
    · rfl
    · simp
  rw [text, String.toList_append, String.toList_append, hsign, hplaces, String.toList_ofList,
    List.append_assoc]

/-- A number is written in digits, with at most a minus and a point between them. -/
theorem of_mem_text {t : Decimal} {c : Char} (h : c ∈ t.text.toList) :
    c.isDigit = true ∨ c = '-' ∨ c = '.' := by
  rw [toList_text, List.mem_append, List.mem_append] at h
  rcases h with h | h | h
  · split at h
    · exact .inr (.inl (List.mem_singleton.1 h))
    · cases h
  · exact .inl (t.isDigit c (List.mem_append_left _ h))
  · split at h
    · cases h
    · rcases List.mem_cons.1 h with h | h
      · exact .inr (.inr h)
      · exact .inl (t.isDigit c (List.mem_append_right _ h))

end Decimal

end QueryDesk
