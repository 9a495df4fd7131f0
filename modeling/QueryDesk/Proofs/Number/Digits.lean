import QueryDesk.Number.Reading

/-!
# Digits of numbers

The digits of a natural number read back as the number, also when they are filled up in front to a
width.
-/

namespace QueryDesk.Number

/-! ### Digits of a number -/

theorem digitsValue_toDigits (n : Nat) : digitsValue (Nat.toDigits 10 n) = n := by
  have h : digitsValue (Nat.toDigits 10 n) = Nat.ofDigitChars 10 (Nat.toDigits 10 n) 0 := rfl
  rw [h, Nat.ofDigitChars_ten_toDigits]

theorem isDigit_of_mem {n : Nat} {c : Char} (h : c ∈ Nat.toDigits 10 n) : c.isDigit = true :=
  Nat.isDigit_of_mem_toDigits (by decide) (by decide) h

theorem allDigits_of {ds : List Char} (ne : ds ≠ []) (digits : ∀ c ∈ ds, c.isDigit = true) :
    allDigits ds = true := by
  have hall : ds.all Char.isDigit = true := List.all_eq_true.mpr digits
  simp [allDigits, ne, hall]

/-! ### Numbers of a fixed width -/

theorem toList_padded (w n : Nat) : (padded w n).toList =
    List.replicate (w - (Nat.toDigits 10 n).length) '0' ++ Nat.toDigits 10 n := by
  have htext : (toString n).toList = Nat.toDigits 10 n := by simp
  rw [padded, htext, String.toList_ofList]

theorem le_length_padded (w n : Nat) : w ≤ (padded w n).toList.length := by
  rw [toList_padded, List.length_append, List.length_replicate]
  omega

theorem length_padded {w n : Nat} (hw : 0 < w) (h : n < Nat.pow 10 w) :
    (padded w n).toList.length = w := by
  have hle : (Nat.toDigits 10 n).length ≤ w := (Nat.length_toDigits_le_iff (by omega) hw).2 h
  rw [toList_padded, List.length_append, List.length_replicate]
  omega

theorem isDigit_padded {w n : Nat} : ∀ c ∈ (padded w n).toList, c.isDigit = true := by
  intro c hc
  rw [toList_padded] at hc
  rcases List.mem_append.1 hc with hzero | hdigit
  · rw [List.eq_of_mem_replicate hzero]
    rfl
  · exact isDigit_of_mem hdigit

theorem digitsValue_padded (w n : Nat) : digitsValue (padded w n).toList = n := by
  have hzeros : ∀ (k : Nat) (cs : List Char),
      digitsValue (List.replicate k '0' ++ cs) = digitsValue cs := by
    intro k cs
    induction k with
    | zero => rfl
    | succ k ih => exact ih
  rw [toList_padded, hzeros, digitsValue_toDigits]

end QueryDesk.Number
