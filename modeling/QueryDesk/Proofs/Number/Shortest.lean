import QueryDesk.Proofs.Number.Rounding

/-!
# Shortest texts of whole numbers

A whole binary64 number from `2^54` on is shown in digits without a point. What is shown is rounded
to the number again, and it lies on every decimal grid on which some number does that is rounded to
it: the search goes from the coarsest grid to finer ones, and on each the two neighbours of the
number stand for all others, since what is rounded to a number is an interval around it. Seventeen
digits are fine enough for a hit, and fifteen so coarse that there is at most one.

Main statement: `text_of_rounds`.
-/

namespace QueryDesk.Binary64

variable {negative : Bool} {m q k c t n : Nat}

/-! ### The decimal exponent -/

/-- A guess from the binary exponent is right or too small by one. -/
theorem guess_bounds : ∀ q < 972, 10 ^ ((52 + q) * 30103 / 100000) ≤ 2 ^ (52 + q) ∧
    2 ^ (53 + q) ≤ 10 ^ ((52 + q) * 30103 / 100000 + 2) := by
  decide +kernel

theorem log2_mantissa (h : IsWhole m q) : m.log2 = 52 := by
  have hle := h.le
  exact (Nat.log2_eq_iff (by omega)).2 ⟨hle, h.lt⟩

theorem decimalExponent_whole (negative : Bool) (h : IsWhole m q) :
    ∃ t : Nat, (whole negative m q).decimalExponent = t ∧ 16 ≤ t ∧
      10 ^ t ≤ m * 2 ^ q ∧ m * 2 ^ q < 10 ^ (t + 1) := by
  have htwo := h.two_le
  have htop := h.le_top
  obtain ⟨hlow, hhigh⟩ := guess_bounds q (by omega)
  have hge : 2 ^ (52 + q) ≤ m * 2 ^ q := by
    rw [pow_add]
    exact Nat.mul_le_mul_right _ h.le
  have hlt : m * 2 ^ q < 2 ^ (53 + q) := by
    rw [pow_add]
    exact Nat.mul_lt_mul_of_pos_right h.lt (Nat.two_pow_pos q)
  have hguess : ((52 : Nat) + (q : Int)) * 30103 / 100000 =
      (((52 + q) * 30103 / 100000 : Nat) : Int) := by omega
  have hsixteen : 16 ≤ (52 + q) * 30103 / 100000 := by omega
  generalize (52 + q) * 30103 / 100000 = g at *
  have hunits : inUnits m 1 (-(q : Int)) = (m * 2 ^ q, 1) := by
    rw [inUnits, if_neg (by omega), neg_neg, Int.toNat_natCast, Nat.pow_eq]
  have habove : ((g : Int) + 1).toNat = g + 1 := by omega
  have heq : (whole negative m q).decimalExponent =
      if 10 ^ (g + 1) ≤ m * 2 ^ q then (g : Int) + 1 else g := by
    rw [decimalExponent, mantissa_whole h, scale_whole h, log2_mantissa h, hguess]
    dsimp only
    rw [hunits]
    dsimp only
    have habove0 : (0 : Int) ≤ g + 1 := by omega
    simp only [habove0, if_true, habove, one_mul, Nat.pow_eq]
  rw [heq]
  split_ifs with hreached
  · exact ⟨g + 1, by push_cast; rfl, by omega, hreached, hlt.trans_le hhigh⟩
  · exact ⟨g, rfl, hsixteen, by omega, by omega⟩

/-! ### Grids -/

theorem bracket_whole (h : IsWhole m q) :
    (whole negative m q).bracket = ⟨lowQuarters m, 4 * m, 4 * m + 2, m % 2 == 0⟩ := by
  have hle := h.le
  have hpower : (decide (m - 2 ^ 52 = 0) && decide (1 < q + 1075)) = decide (m = 2 ^ 52) := by
    rw [Bool.eq_iff_iff, Bool.and_eq_true, decide_eq_true_eq, decide_eq_true_eq, decide_eq_true_eq]
    omega
  rw [bracket, mantissa_whole h, fraction_whole h, exponentField_whole h, hpower]
  simp only [decide_eq_true_eq, lowQuarters]

theorem rounds_iff {p : Nat} (h : 2 ^ q = 4 * 2 ^ p) : Rounds m q n ↔
    lowQuarters m * 2 ^ p ≤ n ∧ n ≤ (4 * m + 2) * 2 ^ p ∧
      (lowQuarters m * 2 ^ p = n ∨ n = (4 * m + 2) * 2 ^ p → m % 2 = 0) := by
  have hquarters : ∀ a, a * 2 ^ q = 4 * (a * 2 ^ p) := fun a => by rw [h]; ring
  constructor
  · rintro ⟨hlow, hhigh, htie⟩
    rw [hquarters] at hlow hhigh htie
    rw [hquarters] at htie
    exact ⟨by omega, by omega, fun h => htie (by omega)⟩
  · rintro ⟨hlow, hhigh, htie⟩
    exact ⟨by rw [hquarters]; omega, by rw [hquarters]; omega, fun h => htie (by
      rw [hquarters, hquarters] at h
      omega)⟩

/-- What lies between a number that is rounded and what it is rounded to is rounded alike. -/
theorem Rounds.between {a : Nat} (h : Rounds m q n) (hm : 0 < m)
    (hbetween : n ≤ a ∧ a ≤ m * 2 ^ q ∨ m * 2 ^ q ≤ a ∧ a ≤ n) : Rounds m q a := by
  have hpos := Nat.two_pow_pos q
  have hhigh : (4 * m + 2) * 2 ^ q = 4 * (m * 2 ^ q) + 2 * 2 ^ q := by ring
  have hlow : lowQuarters m * 2 ^ q < 4 * (m * 2 ^ q) := by
    rw [← Nat.mul_assoc]
    exact Nat.mul_lt_mul_of_pos_right (lowQuarters_lt hm) hpos
  have hlow' := h.low
  have hhigh' := h.high
  have htie := h.tie
  rcases hbetween with ⟨hle, hge⟩ | ⟨hle, hge⟩
  · exact ⟨by omega, by omega, fun h => htie (by omega)⟩
  · exact ⟨by omega, by omega, fun h => htie (by omega)⟩

/-- A decimal of a grid is a hit if it is rounded to the number, and one of the two neighbours is
taken. -/
theorem gridHit?_whole (h : IsWhole m q) (k : Nat) :
    (∀ c, (whole negative m q).gridHit? k = some c → Rounds m q (c * 10 ^ k)) ∧
    ((whole negative m q).gridHit? k = none → ¬ Rounds m q (m * 2 ^ q / 10 ^ k * 10 ^ k) ∧
      ¬ Rounds m q ((m * 2 ^ q / 10 ^ k + 1) * 10 ^ k)) := by
  obtain ⟨p, rfl⟩ : ∃ p, q = p + 2 := ⟨q - 2, by have := h.two_le; omega⟩
  have hscale : ((p + 2 : Nat) : Int) - 2 = p := by omega
  have hneg : (-(p : Int)).toNat = 0 := by omega
  have hk : (-(k : Int)).toNat = 0 := by omega
  have hfour : (2 : Nat) ^ (p + 2) = 4 * 2 ^ p := by rw [pow_add]; ring
  have hmid : m * 2 ^ (p + 2) = 4 * m * 2 ^ p := by rw [hfour]; ring
  have hinside : ∀ c, (if (m % 2 == 0) = true then
        decide (lowQuarters m * 2 ^ p ≤ c * 10 ^ k) && decide (c * 10 ^ k ≤ (4 * m + 2) * 2 ^ p)
      else decide (lowQuarters m * 2 ^ p < c * 10 ^ k) && decide (c * 10 ^ k < (4 * m + 2) * 2 ^ p)) =
        true ↔ Rounds m (p + 2) (c * 10 ^ k) := fun c => by
    rw [rounds_iff hfour]
    split_ifs with heven
    · simp [beq_iff_eq.1 heven]
    · have hodd : m % 2 ≠ 0 := fun hm => heven (beq_iff_eq.2 hm)
      simp only [Bool.and_eq_true, decide_eq_true_eq]
      omega
  rw [gridHit?, scale_whole h, bracket_whole h, hscale, hneg, hk]
  simp only [Int.toNat_natCast, Nat.pow_eq, pow_zero, mul_one, ← hmid]
  constructor
  · intro c hc
    split at hc
    next hlow hhigh =>
      split at hc <;> cases hc
      · exact (hinside _).1 hlow
      · exact (hinside _).1 hhigh
    next hlow _ =>
      cases hc
      exact (hinside _).1 hlow
    next _ hhigh =>
      cases hc
      exact (hinside _).1 hhigh
    next => cases hc
  · intro hnone
    split at hnone
    next => split at hnone <;> cases hnone
    next => cases hnone
    next => cases hnone
    next hlow hhigh =>
      exact ⟨fun hr => Bool.false_ne_true (hlow.symm.trans ((hinside _).2 hr)),
        fun hr => Bool.false_ne_true (hhigh.symm.trans ((hinside _).2 hr))⟩

/-- The step of a grid of seventeen digits is less than the unit of the last place, and less than half
of it at a power of two, so one of the neighbours on it is a hit. -/
theorem exists_gridHit (h : IsWhole m q) (fine : 10 ^ 16 * 10 ^ k ≤ m * 2 ^ q) :
    ((whole negative m q).gridHit? k).isSome = true := by
  by_contra hnone
  obtain ⟨hbelow, habove⟩ := (gridHit?_whole h k).2 (Option.not_isSome_iff_eq_none.1 hnone)
  have hle := h.le
  have hstep : m * 2 ^ q < 2 ^ 53 * 2 ^ q := Nat.mul_lt_mul_of_pos_right h.lt (Nat.two_pow_pos q)
  have hsplit := Nat.div_add_mod' (m * 2 ^ q) (10 ^ k)
  have hmod := Nat.mod_lt (m * 2 ^ q) (show 0 < 10 ^ k by positivity)
  have hnext : (m * 2 ^ q / 10 ^ k + 1) * 10 ^ k = m * 2 ^ q / 10 ^ k * 10 ^ k + 10 ^ k :=
    Nat.succ_mul _ _
  have hhigh : (4 * m + 2) * 2 ^ q = 4 * (m * 2 ^ q) + 2 * 2 ^ q := by ring
  obtain ⟨u, hu, hlow, hunit⟩ : ∃ u, 0 < u ∧ lowQuarters m * 2 ^ q = 4 * (m * 2 ^ q) - u ∧
      2 * 10 ^ k < u ∧ u ≤ 2 * 2 ^ q := by
    by_cases hpower : m = 2 ^ 52
    · subst hpower
      refine ⟨2 ^ q, Nat.two_pow_pos q, ?_, by omega, by omega⟩
      rw [lowQuarters, if_pos rfl, Nat.sub_mul, Nat.mul_assoc, Nat.one_mul]
    · refine ⟨2 * 2 ^ q, by omega, ?_, by omega, le_rfl⟩
      rw [lowQuarters, if_neg hpower, Nat.sub_mul, Nat.mul_assoc]
  rcases Nat.le_total (2 * (m * 2 ^ q % 10 ^ k)) (10 ^ k) with hnear | hnear
  · exact hbelow ⟨by omega, by omega, fun h => by omega⟩
  · exact habove ⟨by omega, by omega, fun h => by omega⟩

/-! ### The search -/

theorem searchGrids_eq (x : Binary64) (top : Int) (left : Nat)
    (hit : ∃ j < left, (x.gridHit? (top - (16 - (j : Int)))).isSome = true) :
    ∃ j < left, ∃ c, x.gridHit? (top - (16 - (j : Int))) = some c ∧
      x.searchGrids top left = (c, top - (16 - (j : Int))) ∧
      ∀ i < left, j < i → x.gridHit? (top - (16 - (i : Int))) = none := by
  induction left with
  | zero => obtain ⟨j, hj, -⟩ := hit; omega
  | succ left ih =>
    rw [searchGrids]
    cases hx : x.gridHit? (top - (16 - (left : Int))) with
    | some c => exact ⟨left, by omega, c, hx, rfl, fun i hi hlt => by omega⟩
    | none =>
      obtain ⟨j, hj, hsome⟩ := hit
      have hne : j ≠ left := by
        rintro rfl
        rw [hx] at hsome
        cases hsome
      obtain ⟨j', hj', c, hc, hsearch, hfirst⟩ := ih ⟨j, by omega, hsome⟩
      refine ⟨j', by omega, c, hc, hsearch, fun i hi hlt => ?_⟩
      rcases Nat.lt_or_eq_of_le (Nat.le_of_lt_succ hi) with hi' | rfl
      · exact hfirst i hi' hlt
      · exact hx

theorem stripZeros_eq (fuel c : Nat) (k : Int) : ∃ e : Nat,
    (stripZeros fuel (c, k)).2 = k + e ∧ c = (stripZeros fuel (c, k)).1 * 10 ^ e := by
  induction fuel generalizing c k with
  | zero => exact ⟨0, by simp [stripZeros], by simp [stripZeros]⟩
  | succ fuel ih =>
    rw [stripZeros]
    split
    next h =>
      rw [Bool.and_eq_true, decide_eq_true_eq] at h
      have hten := h.1
      obtain ⟨e, hexp, hdigits⟩ := ih (c / 10) (k + 1)
      refine ⟨e + 1, by rw [hexp]; push_cast; ring, ?_⟩
      calc c = c / 10 * 10 := by omega
        _ = (stripZeros fuel (c / 10, k + 1)).1 * 10 ^ e * 10 := by rw [← hdigits]
        _ = (stripZeros fuel (c / 10, k + 1)).1 * 10 ^ (e + 1) := by rw [pow_succ, Nat.mul_assoc]
    next => exact ⟨0, by simp, by simp⟩

/-- A whole number is shown by the hit of the coarsest grid that has one. -/
theorem shortest_whole (negative : Bool) (h : IsWhole m q) : ∃ c k t : Nat,
    (whole negative m q).shortest = stripZeros 20 (c, k) ∧ Rounds m q (c * 10 ^ k) ∧
      10 ^ t ≤ m * 2 ^ q ∧ m * 2 ^ q < 10 ^ (t + 1) ∧ t ≤ k + 16 ∧
      ∀ i ≤ t, k < i → ¬ Rounds m q (m * 2 ^ q / 10 ^ i * 10 ^ i) ∧
        ¬ Rounds m q ((m * 2 ^ q / 10 ^ i + 1) * 10 ^ i) := by
  obtain ⟨t, htop, hsixteen, hlow, hhigh⟩ := decimalExponent_whole negative h
  have hgrid : ∀ j : Nat, (t : Int) - (16 - (j : Int)) = ((t - 16 + j : Nat) : Int) := by
    intro j
    omega
  have hfine : 10 ^ 16 * 10 ^ (t - 16) ≤ m * 2 ^ q := by
    rw [← pow_add, show 16 + (t - 16) = t by omega]
    exact hlow
  have hlast : ((whole negative m q).gridHit? (t - (16 - ((0 : Nat) : Int)))).isSome = true := by
    rw [hgrid, Nat.add_zero]
    exact exists_gridHit h hfine
  obtain ⟨j, hj, c, hc, hsearch, hfirst⟩ :=
    searchGrids_eq (whole negative m q) t 17 ⟨0, by omega, hlast⟩
  refine ⟨c, t - 16 + j, t, ?_, ?_, hlow, hhigh, by omega, fun i hi hlt => ?_⟩
  · rw [shortest, isZero_whole h, htop, hsearch, hgrid]
    rfl
  · rw [hgrid] at hc
    exact (gridHit?_whole h _).1 c hc
  · have hnone := hfirst (i + 16 - t) (by omega) (by omega)
    rw [hgrid, show t - 16 + (i + 16 - t) = i by omega] at hnone
    exact (gridHit?_whole h i).2 hnone

/-! ### The text -/

theorem toList_positional (c k : Nat) :
    (positional c k).toList = Nat.toDigits 10 c ++ List.replicate k '0' := by
  rw [positional, if_pos (Int.natCast_nonneg k), Int.toNat_natCast, String.toList_ofList]
  simp

theorem digitsValue_zeros (k : Nat) : Number.digitsValue (List.replicate k '0') = 0 := by
  induction k with
  | zero => rfl
  | succ k ih => exact ih

theorem digitsValue_positional (c k : Nat) :
    Number.digitsValue (positional c k).toList = c * 10 ^ k := by
  rw [toList_positional, Number.digitsValue_append, Number.digitsValue_toDigits, digitsValue_zeros,
    List.length_replicate, Nat.add_zero, Nat.mul_comm]

theorem isDigit_positional {c k : Nat} : ∀ d ∈ (positional c k).toList, d.isDigit = true := by
  intro d hd
  rw [toList_positional, List.mem_append] at hd
  rcases hd with hd | hd
  · exact Number.isDigit_of_mem hd
  · rw [List.eq_of_mem_replicate hd]
    rfl

/-- A whole number is shown in digits, of a number that is rounded to it and lies on every grid of at
least as many digits as needed that such a number lies on. -/
theorem text_whole (negative : Bool) (h : IsWhole m q) : ∃ ds : List Char, ds ≠ [] ∧
    (∀ d ∈ ds, d.isDigit = true) ∧
    (whole negative m q).text.toList = (if negative then ['-'] else []) ++ ds ∧
    Rounds m q (Number.digitsValue ds) ∧
    ∃ t, 10 ^ t ≤ m * 2 ^ q ∧ m * 2 ^ q < 10 ^ (t + 1) ∧
      ∀ j ≤ t, (∃ n, 10 ^ j ∣ n ∧ Rounds m q n) → 10 ^ j ∣ Number.digitsValue ds := by
  obtain ⟨c, k, t, hshortest, hrounds, hlow, hhigh, -, hfirst⟩ := shortest_whole negative h
  obtain ⟨e, hexp, hdigits⟩ := stripZeros_eq 20 c k
  have hsame : (stripZeros 20 (c, (k : Int))).1 * 10 ^ (k + e) = c * 10 ^ k := by
    rw [pow_add, Nat.mul_comm (10 ^ k), ← Nat.mul_assoc, ← hdigits]
  have hvalue := digitsValue_positional (stripZeros 20 (c, (k : Int))).1 (k + e)
  rw [hsame] at hvalue
  refine ⟨(positional (stripZeros 20 (c, (k : Int))).1 ((k + e : Nat) : Int)).toList, ?_,
    isDigit_positional, ?_, by rwa [hvalue], t, hlow, hhigh, fun j hj hn => ?_⟩
  · rw [toList_positional]
    exact List.append_ne_nil_of_left_ne_nil Nat.toDigits_ne_nil _
  · rw [text, isNaN_whole h, isFinite_whole h, negative_whole h, hshortest]
    dsimp only
    rw [if_neg Bool.false_ne_true, if_neg (by decide), hexp, String.toList_append, ← Nat.cast_add]
    cases negative <;> rfl
  · obtain ⟨n, ⟨a, rfl⟩, hn⟩ := hn
    rw [hvalue]
    by_contra hndvd
    have hkj : k < j := by
      by_contra hle
      exact hndvd (Dvd.dvd.mul_left (Nat.pow_dvd_pow 10 (Nat.not_lt.1 hle)) c)
    obtain ⟨hbelow, habove⟩ := hfirst j hj hkj
    have hsplit := Nat.div_add_mod' (m * 2 ^ q) (10 ^ j)
    have hmod := Nat.mod_lt (m * 2 ^ q) (show 0 < 10 ^ j by positivity)
    have hle := h.le
    rcases Nat.lt_or_ge (m * 2 ^ q / 10 ^ j) a with hlt | hge
    · refine habove (hn.between (by omega) (.inr ⟨?_, ?_⟩))
      · rw [Nat.succ_mul]; omega
      · rw [Nat.mul_comm (10 ^ j)]
        exact Nat.mul_le_mul_right _ hlt
    · refine hbelow (hn.between (by omega) (.inl ⟨?_, by omega⟩))
      rw [Nat.mul_comm (10 ^ j)]
      exact Nat.mul_le_mul_right _ hge

/-! ### Fifteen digits -/

/-- The digits of a number, without the zeros it ends in, that fill a grid of fifteen digits. -/
theorem exists_fifteen {j : Nat} (large : 10 ^ 15 ≤ n) (dvd : 10 ^ j ∣ n) (lt : n < 10 ^ (j + 15)) :
    ∃ i, 10 ^ i ∣ n ∧ 10 ^ (i + 14) ≤ n ∧ n < 10 ^ (i + 15) := by
  induction j with
  | zero => omega
  | succ j ih =>
    by_cases hlow : 10 ^ (j + 1 + 14) ≤ n
    · exact ⟨j + 1, dvd, hlow, lt⟩
    · exact ih ((Nat.pow_dvd_pow 10 (Nat.le_succ j)).trans dvd) (Nat.not_le.1 hlow)

/-- What is rounded to one number is at most a unit of the last place apart. -/
theorem Rounds.le_add {a : Nat} (h : IsWhole m q) (hn : Rounds m q n) (ha : Rounds m q a) :
    n ≤ a + 2 ^ q := by
  have hlow := ha.low
  have hhigh := hn.high
  have hle := h.le
  have hunit : (4 * m + 2) * 2 ^ q = (4 * m - 2) * 2 ^ q + 4 * 2 ^ q := by
    rw [← Nat.add_mul]
    congr 1
    omega
  have hmul := Nat.mul_le_mul_right (2 ^ q) (le_lowQuarters m)
  omega

theorem Rounds.unit_le (h : IsWhole m q) (hn : Rounds m q n) : (2 ^ 52 - 1) * 2 ^ q ≤ n := by
  have hlow := hn.low
  have hle := h.le
  have hquarters : 4 * (2 ^ 52 - 1) ≤ lowQuarters m := le_trans (by omega) (le_lowQuarters m)
  have hmul := Nat.mul_le_mul_right (2 ^ q) hquarters
  rw [Nat.mul_assoc] at hmul
  omega

theorem rounds_self (h : IsWhole m q) : Rounds m q (m * 2 ^ q) := by
  have hle := h.le
  have hpos := Nat.two_pow_pos q
  have hlow : lowQuarters m * 2 ^ q < 4 * m * 2 ^ q :=
    Nat.mul_lt_mul_of_pos_right (lowQuarters_lt (by omega)) hpos
  have hhigh : 4 * m * 2 ^ q < (4 * m + 2) * 2 ^ q := Nat.mul_lt_mul_of_pos_right (by omega) hpos
  rw [Nat.mul_assoc] at hlow hhigh
  exact ⟨hlow.le, hhigh.le, fun h => by omega⟩

/-- Of the numbers that are rounded to one whole number at most one has fifteen digits, and if there is
one it is the one that is shown. -/
theorem text_of_rounds (negative : Bool) (h : IsWhole m q) (hn : Rounds m q n) :
    ∃ ds : List Char, ds ≠ [] ∧ (∀ d ∈ ds, d.isDigit = true) ∧
    (whole negative m q).text.toList = (if negative then ['-'] else []) ++ ds ∧
    Rounds m q (Number.digitsValue ds) ∧
    ((∃ j, 10 ^ j ∣ n ∧ n < 10 ^ (j + 15)) → Number.digitsValue ds = n) := by
  obtain ⟨ds, hne, hds, htext, hrounds, t, -, hhigh, hgrid⟩ := text_whole negative h
  refine ⟨ds, hne, hds, htext, hrounds, fun ⟨j, hdvd, hlt⟩ => ?_⟩
  have hunit := hn.unit_le h
  have hfour : 2 ^ 2 ≤ 2 ^ q := Nat.pow_le_pow_right (by decide) h.two_le
  obtain ⟨i, hi, hlow, hlt⟩ := exists_fifteen (by omega) hdvd hlt
  -- The step of this grid is more than a unit of the last place.
  have hstep : 2 ^ q < 10 ^ i := by
    rw [pow_add] at hlt
    omega
  have htop : i ≤ t := by
    have hself := hn.le_add h (rounds_self h)
    have hbelow : 10 ^ i < 10 ^ (t + 1) := by
      rw [pow_add] at hlow
      omega
    exact Nat.le_of_lt_succ ((Nat.pow_lt_pow_iff_right (by decide)).1 hbelow)
  have hshown := hgrid i htop ⟨n, hi, hn⟩
  have hle := hrounds.le_add h hn
  have hge := hn.le_add h hrounds
  obtain ⟨a, ha⟩ := hshown
  obtain ⟨b, rfl⟩ := hi
  rw [ha] at hle hge ⊢
  have heq : a = b := by
    rcases Nat.lt_trichotomy a b with hab | hab | hab
    · have := Nat.mul_le_mul_left (10 ^ i) (Nat.succ_le_of_lt hab)
      rw [Nat.mul_succ] at this
      omega
    · exact hab
    · have := Nat.mul_le_mul_left (10 ^ i) (Nat.succ_le_of_lt hab)
      rw [Nat.mul_succ] at this
      omega
  rw [heq]

end QueryDesk.Binary64
