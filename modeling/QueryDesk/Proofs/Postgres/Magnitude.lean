import Mathlib.Algebra.BigOperators.Fin
import Mathlib.Algebra.Order.Field.Power
import Mathlib.Algebra.Order.Floor.Semifield
import Mathlib.Data.List.GetD
import Mathlib.Data.Rat.Floor
import Mathlib.Tactic.FieldSimp
import Mathlib.Tactic.Linarith
import Mathlib.Tactic.Positivity
import QueryDesk.Postgres.Numeric
import QueryDesk.Proofs.Number.Decimal

/-!
# What exact numbers count

A value counts its groups in powers of 10000, and its text counts digits in powers of ten. Walking
through the positions, four digits for each, the number of the digits so far and what the groups behind
them count always make up the value; what is behind never counts as much as one unit of the last
position. So the digits that are shown are those of the value, cut off.
-/

namespace QueryDesk.Postgres

open Number (digitsValue)

/-! ### What a value counts -/

namespace Numeric

/-- What the groups of a value count together. -/
def magnitude (n : Numeric) : Rat :=
  ∑ i : Fin n.groups.length, (n.groups.get i : Rat) * 10000 ^ (n.weight - (i : Int))

/-- What some groups count when the first one counts units. -/
def weighted : List Nat → Rat
  | [] => 0
  | g :: gs => g + weighted gs / 10000

theorem magnitude_eq (n : Numeric) : n.magnitude = 10000 ^ n.weight * weighted n.groups := by
  obtain ⟨negative, weight, scale, groups⟩ := n
  simp only [magnitude]
  induction groups generalizing weight with
  | nil => simp [weighted]
  | cons g gs ih =>
    have hnext := ih (weight - 1)
    rw [zpow_sub_one₀ (by norm_num)] at hnext
    have hrest : ∀ i : Fin gs.length, ((g :: gs).get i.succ : Rat) *
        10000 ^ (weight - ((i.succ : Fin (gs.length + 1)) : Int)) =
        (gs.get i : Rat) * 10000 ^ (weight - 1 - (i : Int)) := fun i => by
      rw [List.get_cons_succ', Fin.val_succ, Nat.cast_succ, sub_add_eq_sub_sub_swap]
    refine (Fin.sum_univ_succ fun i : Fin (gs.length + 1) =>
      ((g :: gs).get i : Rat) * 10000 ^ (weight - (i : Int))).trans ?_
    simp only [hrest, hnext, weighted, List.get_cons_zero, Fin.val_zero, Nat.cast_zero, sub_zero]
    ring

theorem weighted_nonneg (gs : List Nat) : 0 ≤ weighted gs := by
  induction gs with
  | nil => exact le_rfl
  | cons g gs ih =>
    rw [weighted]
    positivity

/-- Groups never count as much as one unit in front of them. -/
theorem weighted_lt {gs : List Nat} (h : ∀ g ∈ gs, g < 10000) : weighted gs < 10000 := by
  induction gs with
  | nil => norm_num [weighted]
  | cons g gs ih =>
    have hrest := ih fun x hx => h x (List.mem_cons_of_mem g hx)
    have hg : (g : Rat) + 1 ≤ 10000 := by
      have hlt := h g List.mem_cons_self
      exact_mod_cast hlt
    rw [weighted]
    linarith

theorem weighted_drop (gs : List Nat) (k : Nat) :
    weighted (gs.drop k) = gs.getD k 0 + weighted (gs.drop (k + 1)) / 10000 := by
  by_cases hk : k < gs.length
  · rw [List.drop_eq_getElem_cons hk, weighted, List.getD_eq_getElem _ _ hk]
  · rw [List.drop_eq_nil_of_le (by omega), List.drop_eq_nil_of_le (by omega),
      List.getD_eq_default _ _ (by omega)]
    norm_num [weighted]

/-- What the groups from a position on count when the one at the position counts units. -/
def behind (n : Numeric) (position : Int) : Rat :=
  10000 ^ min position 0 * weighted (n.groups.drop position.toNat)

theorem behind_eq (n : Numeric) (position : Int) :
    n.behind position = n.groupAt position + n.behind (position + 1) / 10000 := by
  rw [behind, behind, groupAt]
  by_cases hp : 0 ≤ position
  · rw [if_pos hp, min_eq_right hp, min_eq_right (by omega), weighted_drop,
      show (position + 1).toNat = position.toNat + 1 by omega]
    ring
  · rw [if_neg hp, min_eq_left (by omega), min_eq_left (by omega),
      show (position + 1).toNat = position.toNat by omega, zpow_add_one₀ (by norm_num)]
    push_cast
    ring

theorem behind_nonneg (n : Numeric) (position : Int) : 0 ≤ n.behind position :=
  mul_nonneg (by positivity) (weighted_nonneg _)

theorem behind_lt {n : Numeric} (h : ∀ g ∈ n.groups, g < 10000) (position : Int) :
    n.behind position < 10000 := by
  have hgroups : weighted (n.groups.drop position.toNat) < 10000 :=
    weighted_lt fun g hg => h g (List.mem_of_mem_drop hg)
  have hpower : (10000 : Rat) ^ min position 0 ≤ 1 :=
    zpow_le_one_of_nonpos₀ (by norm_num) (min_le_right _ _)
  have hle : n.behind position ≤ 1 * weighted (n.groups.drop position.toNat) :=
    mul_le_mul_of_nonneg_right hpower (weighted_nonneg _)
  linarith

/-! ### Walking through the positions -/

/-- The number of some groups behind a number. -/
def appended (v : Nat) (gs : List Nat) : Nat := gs.foldl (fun v g => 10000 * v + g) v

/-- The number up to a position and what is behind it make up the value. -/
theorem appended_groupsFrom (n : Numeric) (v : Nat) (position : Int) (count : Nat) :
    (appended v (n.groupsFrom position count) : Rat) + n.behind (position + count) / 10000 =
      10000 ^ count * (v + n.behind position / 10000) := by
  induction count generalizing v position with
  | zero => simp [groupsFrom, appended]
  | succ count ih =>
    have hnext := ih (10000 * v + n.groupAt position) (position + 1)
    rw [show position + 1 + (count : Int) = position + (count + 1 : Nat) by push_cast; ring]
      at hnext
    rw [groupsFrom, appended, List.foldl_cons, ← appended, hnext, n.behind_eq position]
    push_cast
    ring

theorem digits_cons (g : Nat) (gs : List Nat) :
    digits (g :: gs) = (Number.padded 4 g).toList ++ digits gs := by
  simp [digits]

theorem digitsValue_append_digits {gs : List Nat} (h : ∀ g ∈ gs, g < 10000) (cs : List Char) :
    digitsValue (cs ++ digits gs) = appended (digitsValue cs) gs := by
  induction gs generalizing cs with
  | nil => simp [digits, appended]
  | cons g gs ih =>
    have hg : (Number.padded 4 g).toList.length = 4 :=
      Number.length_padded (by decide) (h g List.mem_cons_self)
    have hvalue : digitsValue (cs ++ (Number.padded 4 g).toList) = 10000 * digitsValue cs + g := by
      rw [Number.digitsValue_append, hg, Number.digitsValue_padded]
      rfl
    rw [digits_cons, ← List.append_assoc, ih fun x hx => h x (List.mem_cons_of_mem g hx), hvalue]
    rfl

theorem groupAt_lt {n : Numeric} (h : ∀ g ∈ n.groups, g < 10000) (position : Int) :
    n.groupAt position < 10000 := by
  rw [groupAt]
  split
  · by_cases hp : position.toNat < n.groups.length
    · rw [List.getD_eq_getElem _ _ hp]
      exact h _ (List.getElem_mem hp)
    · rw [List.getD_eq_default _ _ (by omega)]
      decide
  · decide

theorem groupsFrom_lt {n : Numeric} (h : ∀ g ∈ n.groups, g < 10000) (position : Int)
    (count : Nat) : ∀ g ∈ n.groupsFrom position count, g < 10000 := by
  induction count generalizing position with
  | zero => simp [groupsFrom]
  | succ count ih =>
    rw [groupsFrom, List.forall_mem_cons]
    exact ⟨groupAt_lt h position, ih (position + 1)⟩

theorem length_groupsFrom (n : Numeric) (position : Int) (count : Nat) :
    (n.groupsFrom position count).length = count := by
  induction count generalizing position with
  | zero => rfl
  | succ count ih => rw [groupsFrom, List.length_cons, ih]

theorem le_length_digits (gs : List Nat) : 4 * gs.length ≤ (digits gs).length := by
  induction gs with
  | nil => exact Nat.zero_le _
  | cons g gs ih =>
    have hg := Number.le_length_padded 4 g
    rw [digits_cons, List.length_append, List.length_cons]
    omega

theorem length_digits {gs : List Nat} (h : ∀ g ∈ gs, g < 10000) :
    (digits gs).length = 4 * gs.length := by
  induction gs with
  | nil => rfl
  | cons g gs ih =>
    have hg : (Number.padded 4 g).toList.length = 4 :=
      Number.length_padded (by decide) (h g List.mem_cons_self)
    rw [digits_cons, List.length_append, ih fun x hx => h x (List.mem_cons_of_mem g hx), hg,
      List.length_cons]
    omega

theorem isDigit_digits (gs : List Nat) : ∀ c ∈ digits gs, c.isDigit = true := by
  intro c hc
  obtain ⟨g, -, hc⟩ := List.mem_flatMap.1 hc
  exact Number.isDigit_padded c hc

/-! ### The text as a decimal number -/

theorem toList_wholeText (n : Numeric) : n.wholeText.toList =
    if n.weight < 0 then ['0']
    else Nat.toDigits 10 (n.groupAt 0) ++ digits (n.groupsFrom 1 n.weight.toNat) := by
  rw [wholeText]
  split
  · rfl
  · simp

theorem toList_fractionText (n : Numeric) : n.fractionText.toList =
    (digits (n.groupsFrom (n.weight + 1) ((n.scale + 3) / 4))).take n.scale := by
  rw [fractionText, String.toList_ofList]

theorem length_fractionText (n : Numeric) : n.fractionText.toList.length = n.scale := by
  have hdigits := le_length_digits (n.groupsFrom (n.weight + 1) ((n.scale + 3) / 4))
  rw [length_groupsFrom] at hdigits
  rw [toList_fractionText, List.length_take]
  omega

theorem isDigit_wholeText (n : Numeric) : ∀ c ∈ n.wholeText.toList, c.isDigit = true := by
  rw [toList_wholeText]
  split
  · simp
  · intro c hc
    rcases List.mem_append.1 hc with hc | hc
    · exact Number.isDigit_of_mem hc
    · exact isDigit_digits _ c hc

def decimal (n : Numeric) : Decimal where
  negative := n.negative
  whole := n.wholeText.toList
  fraction := n.fractionText.toList
  whole_ne_nil := by
    rw [toList_wholeText]
    split
    · decide
    · exact List.append_ne_nil_of_left_ne_nil Nat.toDigits_ne_nil _
  isDigit := by
    intro c hc
    rcases List.mem_append.1 hc with hc | hc
    · exact n.isDigit_wholeText c hc
    · rw [toList_fractionText] at hc
      exact isDigit_digits _ c (List.mem_of_mem_take hc)

theorem text_decimal (n : Numeric) : n.decimal.text = n.text := by
  have hnone : n.fractionText.toList = [] ↔ n.scale = 0 := by
    rw [← List.length_eq_zero_iff, length_fractionText]
  simp only [Decimal.text, text, decimal, String.ofList_toList]
  congr 1
  exact if_congr hnone rfl rfl

/-- The whole digits make up the value but for what is behind the point. -/
theorem digitsValue_wholeText {n : Numeric} (h : ∀ g ∈ n.groups, g < 10000) :
    (digitsValue n.wholeText.toList : Rat) + n.behind (n.weight + 1) / 10000 = n.magnitude := by
  rw [toList_wholeText, magnitude_eq]
  split
  next hneg =>
    have hzero : digitsValue ['0'] = 0 := rfl
    rw [hzero, behind, min_eq_left (by omega), show (n.weight + 1).toNat = 0 by omega,
      List.drop_zero, zpow_add_one₀ (by norm_num)]
    push_cast
    ring
  next hpos =>
    have hwhole := n.appended_groupsFrom (n.groupAt 0) 1 n.weight.toNat
    have hfirst := n.behind_eq 0
    have hall : n.behind 0 = weighted n.groups := by simp [behind]
    rw [show (1 : Int) + n.weight.toNat = n.weight + 1 by omega] at hwhole
    rw [zero_add, hall] at hfirst
    rw [digitsValue_append_digits (groupsFrom_lt h 1 _), Number.digitsValue_toDigits, hwhole,
      ← hfirst, ← zpow_natCast, show (n.weight.toNat : Int) = n.weight by omega]

/-- The digits that are shown are those of the value, cut off behind the decimal places. -/
theorem digitsValue_decimal {n : Numeric} (h : ∀ g ∈ n.groups, g < 10000) :
    digitsValue (n.decimal.whole ++ n.decimal.fraction) = ⌊n.magnitude * 10 ^ n.scale⌋₊ := by
  set count := (n.scale + 3) / 4 with hcount
  set places := digits (n.groupsFrom (n.weight + 1) count) with hplaces
  have hlength : places.length = 4 * count := by
    rw [hplaces, length_digits (groupsFrom_lt h _ _), length_groupsFrom]
  have hdigits : ∀ c ∈ n.wholeText.toList ++ places, c.isDigit = true := by
    intro c hc
    rcases List.mem_append.1 hc with hc | hc
    · exact n.isDigit_wholeText c hc
    · exact isDigit_digits _ c hc
  have hshown : n.decimal.whole ++ n.decimal.fraction =
      (n.wholeText.toList ++ places).take (n.wholeText.toList.length + n.scale) := by
    rw [List.take_length_add_append]
    exact congrArg _ (n.toList_fractionText)
  -- all digits of the last group are counted first, and then those too many are divided off
  have hall : digitsValue (n.wholeText.toList ++ places) = ⌊n.magnitude * 10 ^ (4 * count)⌋₊ := by
    have hwalk := n.appended_groupsFrom (digitsValue n.wholeText.toList) (n.weight + 1) count
    rw [digitsValue_wholeText h, ← digitsValue_append_digits (groupsFrom_lt h _ _)] at hwalk
    have hnonneg := n.behind_nonneg (n.weight + 1 + count)
    have hlt := behind_lt h (n.weight + 1 + count)
    rw [show n.magnitude * (10 : Rat) ^ (4 * count) = 10000 ^ count * n.magnitude by
      rw [pow_mul, mul_comm]; norm_num, ← hwalk]
    refine ((Nat.floor_eq_iff (by positivity)).2 ⟨?_, ?_⟩).symm <;> linarith
  rw [hshown, Number.digitsValue_take hdigits, hall, List.length_append, hlength,
    show n.wholeText.toList.length + 4 * count - (n.wholeText.toList.length + n.scale) =
      4 * count - n.scale by omega, ← Nat.floor_div_natCast]
  congr 1
  rw [show 4 * count = n.scale + (4 * count - n.scale) by omega, pow_add,
    show n.scale + (4 * count - n.scale) - n.scale = 4 * count - n.scale by omega]
  push_cast
  field_simp

/-- A value below one has one zero in front of the point, and one whose first group counts has no
zero in front. -/
theorem head?_wholeText {n : Numeric} (h : n.weight < 0 ∨ n.groupAt 0 ≠ 0) :
    n.decimal.whole = ['0'] ∨ n.decimal.whole.head? ≠ some '0' := by
  change n.wholeText.toList = ['0'] ∨ n.wholeText.toList.head? ≠ some '0'
  rw [toList_wholeText]
  split
  next => exact .inl rfl
  next hpos =>
    have hfirst := Number.head?_toDigits (h.resolve_left hpos)
    rw [List.head?_append_of_ne_nil _ Nat.toDigits_ne_nil]
    exact .inr hfirst

end Numeric

end QueryDesk.Postgres
