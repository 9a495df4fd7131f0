import QueryDesk.Proofs.Number.Decimal
import QueryDesk.Number.Shortest

/-!
# Rounding of large integers

The integers that are rounded to one binary64 number are the ones of an interval around it: half a
unit of the last place to either side, a quarter of one below a power of two, with the ends if the
mantissa is even. From `2^54` on every integer below the limit lies in the interval of a number with
a mantissa of 53 bits, and every integer from the limit on is rounded to infinity.

Main statements: `ofRatio_of_rounds`, `rounds_or_infinity`.
-/

namespace QueryDesk.Binary64

variable {negative : Bool} {e f m q n : Nat}

/-! ### Fields -/

theorem toNat_pack (he : e < 2048) (hf : f < 2 ^ 52) :
    (pack negative e f).bits.toNat = (if negative then 2 ^ 63 else 0) + e * 2 ^ 52 + f := by
  have hbound : (if negative then Nat.pow 2 63 else 0) + e * Nat.pow 2 52 + f < 2 ^ 64 := by
    simp only [Nat.pow_eq]
    split <;> omega
  rw [pack, UInt64.toNat_ofNat', Nat.mod_eq_of_lt hbound]
  rfl

theorem negative_pack (he : e < 2048) (hf : f < 2 ^ 52) :
    (pack negative e f).negative = negative := by
  rw [Binary64.negative, toNat_pack he hf, Nat.pow_eq]
  cases negative <;> simp <;> omega

theorem exponentField_pack (he : e < 2048) (hf : f < 2 ^ 52) :
    (pack negative e f).exponentField = e := by
  rw [exponentField, toNat_pack he hf, Nat.pow_eq]
  split <;> omega

theorem fraction_pack (he : e < 2048) (hf : f < 2 ^ 52) : (pack negative e f).fraction = f := by
  rw [fraction, toNat_pack he hf, Nat.pow_eq]
  split <;> omega

/-! ### Whole numbers -/

/-- The whole number `±m · 2^q`, with a mantissa of 53 bits. -/
def whole (negative : Bool) (m q : Nat) : Binary64 := pack negative (q + 1075) (m - 2 ^ 52)

/-- The mantissas and exponents of whole numbers from `2^54` on. -/
structure IsWhole (m q : Nat) : Prop where
  le : 2 ^ 52 ≤ m
  lt : m < 2 ^ 53
  two_le : 2 ≤ q
  le_top : q ≤ 971

section Parts

variable (h : IsWhole m q)
include h

theorem IsWhole.exponent_lt : q + 1075 < 2048 := by
  have := h.le_top
  omega

theorem IsWhole.fraction_lt : m - 2 ^ 52 < 2 ^ 52 := by
  have := h.lt
  omega

theorem negative_whole : (whole negative m q).negative = negative :=
  negative_pack h.exponent_lt h.fraction_lt

theorem exponentField_whole : (whole negative m q).exponentField = q + 1075 :=
  exponentField_pack h.exponent_lt h.fraction_lt

theorem fraction_whole : (whole negative m q).fraction = m - 2 ^ 52 :=
  fraction_pack h.exponent_lt h.fraction_lt

theorem mantissa_whole : (whole negative m q).mantissa = m := by
  have hle := h.le
  rw [mantissa, exponentField_whole h, fraction_whole h, if_neg (by omega), Nat.pow_eq]
  omega

theorem scale_whole : (whole negative m q).scale = q := by
  rw [scale, exponentField_whole h, if_neg (by omega)]
  omega

theorem isFinite_whole : (whole negative m q).isFinite = true := by
  have htop := h.le_top
  rw [isFinite, exponentField_whole h, bne_iff_ne]
  omega

theorem isNaN_whole : (whole negative m q).isNaN = false := by
  have htop := h.le_top
  rw [isNaN, exponentField_whole h, Bool.and_eq_false_iff]
  exact .inl (beq_eq_false_iff_ne.2 (by omega))

theorem isZero_whole : (whole negative m q).isZero = false := by
  rw [isZero, exponentField_whole h, Bool.and_eq_false_iff]
  exact .inl (beq_eq_false_iff_ne.2 (by omega))

end Parts

/-! ### Rounding -/

/-- The natural number that a quotient is rounded to is at most half a unit away, and even if it is half
a unit away. -/
structure Near (num den r : Nat) : Prop where
  low : 2 * (r * den) ≤ 2 * num + den
  high : 2 * num ≤ 2 * (r * den) + den
  tie : 2 * (r * den) = 2 * num + den ∨ 2 * num = 2 * (r * den) + den → r % 2 = 0

theorem near_roundHalfEven (num : Nat) {den : Nat} (hden : 0 < den) :
    Near num den (roundHalfEven num den) := by
  have hsplit := Nat.div_add_mod' num den
  have hmod := Nat.mod_lt num hden
  have hnext : (num / den + 1) * den = num / den * den + den := Nat.succ_mul _ _
  unfold roundHalfEven
  dsimp only
  split_ifs with hbelow habove
  · constructor <;> omega
  · constructor <;> omega
  · -- Half a unit is left, and the even neighbour is taken.
    rcases Nat.mod_two_eq_zero_or_one (num / den) with heven | hodd
    · rw [heven, Nat.add_zero]
      constructor <;> omega
    · rw [hodd]
      constructor <;> omega

theorem Near.unique {num den r s : Nat} (hden : 0 < den) (hr : Near num den r)
    (hs : Near num den s) : r = s := by
  have hstep : ∀ {a b : Nat}, a < b → a * den + den ≤ b * den := fun {a b} hab => by
    rw [← Nat.succ_mul]
    exact Nat.mul_le_mul_right den hab
  have hlt : ∀ {a b : Nat}, Near num den a → Near num den b → ¬ a < b := fun {a b} ha hb hab => by
    have hone := hstep hab
    have hbetween := hb.low
    have hbelow := ha.high
    -- Both are half a unit away, so they are neighbours and both even.
    have heq : b * den = a * den + den := by omega
    have hnext : b = a + 1 := by
      rw [← Nat.succ_mul] at heq
      exact Nat.eq_of_mul_eq_mul_right hden heq
    have ha' := ha.tie (by omega)
    have hb' := hb.tie (by omega)
    omega
  exact Nat.le_antisymm (Nat.not_lt.1 (hlt hs hr)) (Nat.not_lt.1 (hlt hr hs))

theorem Near.roundHalfEven {num den r : Nat} (hden : 0 < den) (h : Near num den r) :
    roundHalfEven num den = r :=
  (near_roundHalfEven num hden).unique hden h

/-- A number between two powers of two is rounded to 53 bits. -/
theorem ofRatio_between (negative : Bool) (low : 2 ^ (52 + q) ≤ n) (high : n < 2 ^ (53 + q)) :
    ofRatio negative n 1 =
      if roundHalfEven n (2 ^ q) = 2 ^ 53 then
        if 971 < q + 1 then infinity negative else whole negative (2 ^ 52) (q + 1)
      else if 971 < q then infinity negative else whole negative (roundHalfEven n (2 ^ q)) q := by
  have hpos : 0 < 2 ^ q := Nat.two_pow_pos q
  have hn : n ≠ 0 := by
    have := Nat.two_pow_pos (52 + q)
    omega
  have hlog : n.log2 = 52 + q := by
    refine (Nat.log2_eq_iff hn).2 ⟨low, ?_⟩
    rwa [show 52 + q + 1 = 53 + q by omega]
  have hlead : leadingExponent n 1 = 52 + q := by
    have hnat : ((52 + q : Nat) : Int).toNat = 52 + q := Int.toNat_natCast _
    have hlog1 : Nat.log2 1 = 0 := by decide
    simp only [leadingExponent, hlog, hlog1, Nat.cast_zero, sub_zero, inUnits, Nat.cast_nonneg,
      if_true, hnat, one_mul, Nat.pow_eq]
    rw [if_neg (by omega)]
    push_cast
    ring
  have hunits : max (leadingExponent n 1 - 52) (-1074) = (q : Int) := by
    rw [hlead]
    omega
  have hge : 2 ^ 52 ≤ roundHalfEven n (2 ^ q) := by
    have hnear := (near_roundHalfEven n hpos).high
    have hsplit : 2 ^ (52 + q) = 2 ^ 52 * 2 ^ q := pow_add 2 52 q
    by_contra hlt
    have hle : (roundHalfEven n (2 ^ q) + 1) * 2 ^ q ≤ 2 ^ 52 * 2 ^ q :=
      Nat.mul_le_mul_right _ (by omega)
    rw [Nat.succ_mul] at hle
    omega
  simp only [ofRatio, if_neg hn, hunits, inUnits, Nat.cast_nonneg, if_true, Int.toNat_natCast, one_mul,
    Nat.pow_eq, if_neg (Nat.not_lt.2 hge), whole]
  have hexp : ∀ k : Nat, ((k : Int) + 1075).toNat = k + 1075 := fun k => by omega
  have hcarry : (q : Int) + 1 = ((q + 1 : Nat) : Int) := by omega
  have hover : ∀ k : Nat, (971 : Int) < k ↔ 971 < k := fun k => by omega
  by_cases h : roundHalfEven n (2 ^ q) = 2 ^ 53
  · simp only [if_pos h, hcarry, hexp, hover]
  · simp only [if_neg h, hexp, hover]

/-- The least number of quarters of a unit that may be rounded to `m` units: below a power of two the
next number is half as far away. -/
def lowQuarters (m : Nat) : Nat := if m = 2 ^ 52 then 4 * m - 1 else 4 * m - 2

theorem le_lowQuarters (m : Nat) : 4 * m - 2 ≤ lowQuarters m := by
  rw [lowQuarters]
  split_ifs <;> omega

theorem lowQuarters_lt (h : 0 < m) : lowQuarters m < 4 * m := by
  rw [lowQuarters]
  split_ifs <;> omega

/-- A natural number that is rounded to `m · 2^q`. -/
structure Rounds (m q n : Nat) : Prop where
  low : lowQuarters m * 2 ^ q ≤ 4 * n
  high : 4 * n ≤ (4 * m + 2) * 2 ^ q
  tie : lowQuarters m * 2 ^ q = 4 * n ∨ 4 * n = (4 * m + 2) * 2 ^ q → m % 2 = 0

/-- In its own binade a number is rounded to the nearest mantissa. -/
theorem Rounds.near (hr : Rounds m q n) (hle : 2 ^ 52 ≤ m) (hn : 2 ^ 52 * 2 ^ q ≤ n) :
    Near n (2 ^ q) m := by
  have hlow := hr.low
  have hhigh := hr.high
  have htie := hr.tie
  have hpos := Nat.two_pow_pos q
  rw [Nat.add_mul, Nat.mul_assoc] at hhigh htie
  by_cases hpower : m = 2 ^ 52
  · subst hpower
    constructor <;> omega
  · rw [lowQuarters, if_neg hpower, Nat.sub_mul, Nat.mul_assoc] at hlow htie
    have hm : 2 * 2 ^ q ≤ m * 2 ^ q := Nat.mul_le_mul_right _ (by omega)
    constructor <;> omega

/-- Below its own binade a number is rounded to a power of two. -/
theorem Rounds.near_below (hr : Rounds m (q + 1) n) (hle : 2 ^ 52 ≤ m)
    (hn : n < 2 ^ 52 * 2 ^ (q + 1)) :
    m = 2 ^ 52 ∧ 2 ^ 52 * 2 ^ q ≤ n ∧ Near n (2 ^ q) (2 ^ 53) := by
  have hlow := hr.low
  have hpos := Nat.two_pow_pos q
  rw [pow_succ] at hlow hn
  have hm : m = 2 ^ 52 := by
    by_contra hpower
    rw [lowQuarters, if_neg hpower] at hlow
    have hnext : (4 * 2 ^ 52 + 2) * (2 ^ q * 2) ≤ (4 * m - 2) * (2 ^ q * 2) :=
      Nat.mul_le_mul_right _ (by omega)
    omega
  subst hm
  rw [lowQuarters, if_pos rfl] at hlow
  refine ⟨rfl, by omega, ?_⟩
  constructor <;> omega

theorem ofRatio_of_rounds (h : IsWhole m q) (hr : Rounds m q n) :
    ofRatio negative n 1 = whole negative m q := by
  have htop := h.le_top
  have hlt := h.lt
  by_cases hbinade : 2 ^ 52 * 2 ^ q ≤ n
  · have hhigh := hr.high
    have hlast : (4 * m + 2) * 2 ^ q < 4 * 2 ^ 53 * 2 ^ q :=
      Nat.mul_lt_mul_of_pos_right (by omega) (Nat.two_pow_pos _)
    rw [ofRatio_between _ (by rwa [pow_add]) (by rw [pow_add]; omega),
      (hr.near h.le hbinade).roundHalfEven (Nat.two_pow_pos _), if_neg (by omega), if_neg (by omega)]
  · obtain ⟨p, rfl⟩ : ∃ p, q = p + 1 := ⟨q - 1, by have := h.two_le; omega⟩
    obtain ⟨rfl, hlow, hnear⟩ := hr.near_below h.le (Nat.not_le.1 hbinade)
    rw [ofRatio_between _ (by rwa [pow_add]) (by rw [pow_add]; rw [pow_succ] at hbinade; omega),
      hnear.roundHalfEven (Nat.two_pow_pos _), if_pos rfl, if_neg (by omega)]

/-- The least number that is rounded to infinity. -/
def limit : Nat := 2 ^ 1024 - 2 ^ 970

theorem limit_eq : limit = (2 ^ 54 - 1) * 2 ^ 970 := by
  rw [limit, show (1024 : Nat) = 54 + 970 from rfl, pow_add, Nat.sub_mul, Nat.one_mul]

section Binade

variable (low : 2 ^ 52 * 2 ^ q ≤ n) (high : n < 2 ^ 53 * 2 ^ q)
include low high

/-- A number of its own binade is rounded to a mantissa of 53 bits, or to the next power of two. -/
theorem roundHalfEven_bounds :
    2 ^ 52 ≤ roundHalfEven n (2 ^ q) ∧ roundHalfEven n (2 ^ q) ≤ 2 ^ 53 := by
  have hpos := Nat.two_pow_pos q
  obtain ⟨hlow, hhigh, -⟩ := near_roundHalfEven n hpos
  constructor
  · by_contra hlt
    have hstep : (roundHalfEven n (2 ^ q) + 1) * 2 ^ q ≤ 2 ^ 52 * 2 ^ q :=
      Nat.mul_le_mul_right _ (by omega)
    rw [Nat.succ_mul] at hstep
    omega
  · by_contra hgt
    have hstep : (2 ^ 53 + 1) * 2 ^ q ≤ roundHalfEven n (2 ^ q) * 2 ^ q :=
      Nat.mul_le_mul_right _ (by omega)
    omega

theorem rounds_of_lt (hr : roundHalfEven n (2 ^ q) < 2 ^ 53) :
    Rounds (roundHalfEven n (2 ^ q)) q n := by
  have hpos := Nat.two_pow_pos q
  have hle := (roundHalfEven_bounds low high).1
  obtain ⟨hlow, hhigh, htie⟩ := near_roundHalfEven n hpos
  set r := roundHalfEven n (2 ^ q)
  have hquarters : (4 * r + 2) * 2 ^ q = 4 * (r * 2 ^ q) + 2 * 2 ^ q := by
    rw [Nat.add_mul, Nat.mul_assoc]
  by_cases hpower : r = 2 ^ 52
  · have hlowest : lowQuarters r = 4 * 2 ^ 52 - 1 := by rw [lowQuarters, if_pos hpower, hpower]
    rw [hpower] at hhigh hquarters
    exact ⟨by rw [hlowest]; omega, by rw [hpower]; omega, fun _ => by omega⟩
  · have hm : 2 * 2 ^ q ≤ r * 2 ^ q := Nat.mul_le_mul_right _ (by omega)
    have hlowest : lowQuarters r * 2 ^ q = 4 * (r * 2 ^ q) - 2 * 2 ^ q := by
      rw [lowQuarters, if_neg hpower, Nat.sub_mul, Nat.mul_assoc]
    exact ⟨by omega, by omega, fun h => htie (by omega)⟩

omit low in
theorem rounds_of_eq (hr : roundHalfEven n (2 ^ q) = 2 ^ 53) : Rounds (2 ^ 52) (q + 1) n := by
  have hlow := (near_roundHalfEven n (Nat.two_pow_pos q)).low
  have hnext : (2 : Nat) ^ (q + 1) = 2 * 2 ^ q := pow_succ' 2 q
  have hlowest : lowQuarters (2 ^ 52) = 4 * 2 ^ 52 - 1 := if_pos rfl
  rw [hr] at hlow
  exact ⟨by rw [hlowest, hnext]; omega, by rw [hnext]; omega, fun _ => by decide⟩

end Binade

/-! ### The limit -/

/-- The middle between the last number and the limit would go to the even side, which is the limit. -/
theorem lt_limit_of_near {k r : Nat} (hq : q ≤ k + 1) (hr : r < 2 ^ 53) (near : Near n (2 ^ q) r) :
    n < (2 ^ 54 - 1) * 2 ^ k := by
  obtain ⟨-, hhigh, htie⟩ := near
  have hmant : r * 2 ^ q ≤ (2 ^ 53 - 1) * 2 ^ q := Nat.mul_le_mul_right _ (by omega)
  have hpow := Nat.pow_le_pow_right (show 0 < 2 by decide) hq
  rw [pow_succ'] at hpow
  by_contra hle
  have hmax : r * 2 ^ q = (2 ^ 53 - 1) * 2 ^ q := by omega
  have hodd : r = 2 ^ 53 - 1 := Nat.eq_of_mul_eq_mul_right (Nat.two_pow_pos q) hmax
  have heven := htie (by omega)
  omega

theorem lt_limit_of_lt {k : Nat} (hq : q ≤ k) (high : n < 2 ^ 53 * 2 ^ q) :
    n < (2 ^ 54 - 1) * 2 ^ k := by
  have hpow := Nat.pow_le_pow_right (show 0 < 2 by decide) hq
  have hpos := Nat.two_pow_pos q
  omega

theorem limit_le_of_le {k : Nat} (hq : k + 1 < q) (low : 2 ^ 52 * 2 ^ q ≤ n) :
    (2 ^ 54 - 1) * 2 ^ k ≤ n := by
  have hpow := Nat.pow_le_pow_right (show 0 < 2 by decide) (Nat.succ_le_of_lt hq)
  rw [Nat.succ_eq_add_one, pow_succ', pow_succ'] at hpow
  omega

theorem limit_le_of_near {k : Nat} (near : Near n (2 ^ (k + 1)) (2 ^ 53)) :
    (2 ^ 54 - 1) * 2 ^ k ≤ n := by
  have hlow := near.low
  rw [pow_succ'] at hlow
  omega

/-- Every number from `2^54` on is rounded to a whole number, or to infinity from the limit on. -/
theorem rounds_or_infinity (h : 2 ^ 54 ≤ n) :
    (n < limit ∧ ∃ m q, IsWhole m q ∧ Rounds m q n) ∨
      (limit ≤ n ∧ ∀ negative, ofRatio negative n 1 = infinity negative) := by
  have hn : n ≠ 0 := by omega
  have hlog := (Nat.le_log2 hn).2 h
  obtain ⟨q, hq⟩ : ∃ q, n.log2 = 52 + q := ⟨n.log2 - 52, by omega⟩
  obtain ⟨hlow, hhigh⟩ := (Nat.log2_eq_iff hn).1 hq
  have hratio := fun negative => ofRatio_between negative hlow
    (show n < 2 ^ (53 + q) by rwa [show 53 + q = 52 + q + 1 by omega])
  rw [pow_add] at hlow
  rw [show 52 + q + 1 = 53 + q by omega, pow_add] at hhigh
  obtain ⟨hge, hle⟩ := roundHalfEven_bounds hlow hhigh
  have hnear := near_roundHalfEven n (Nat.two_pow_pos q)
  rw [limit_eq]
  obtain ⟨k, hk⟩ : ∃ k, k = 970 := ⟨_, rfl⟩
  rw [← hk]
  rcases Nat.lt_or_ge (k + 1) q with hover | htop
  · refine .inr ⟨limit_le_of_le hover hlow, fun negative => ?_⟩
    rw [hratio, if_pos (show 971 < q + 1 by omega), if_pos (show 971 < q by omega), ite_self]
  rcases Nat.lt_or_eq_of_le hle with hlt | heq
  · exact .inl ⟨lt_limit_of_near htop hlt hnear, _, q, ⟨hge, hlt, by omega, by omega⟩,
      rounds_of_lt hlow hhigh hlt⟩
  rcases Nat.lt_or_eq_of_le htop with hlt | rfl
  · exact .inl ⟨lt_limit_of_lt (by omega) hhigh, _, _, ⟨le_rfl, by decide, by omega, by omega⟩,
      rounds_of_eq hhigh heq⟩
  · refine .inr ⟨limit_le_of_near (heq ▸ hnear), fun negative => ?_⟩
    rw [hratio, if_pos heq, if_pos (by omega)]

theorem limit_lt : limit < 10 ^ 400 := by
  rw [limit]
  decide +kernel

theorem lt_limit : 2 ^ 63 < limit := by
  rw [limit]
  decide +kernel

/-- The digits of a number whose size is out of range are rounded to infinity as well. -/
theorem ofDecimal_eq_ofRatio (h : 2 ^ 54 ≤ n) : ofDecimal negative n 0 = ofRatio negative n 1 := by
  have hn : n ≠ 0 := by omega
  have hsize : ((toString n).length : Int) = (Nat.toDigits 10 n).length := by
    have htext : (toString n).toList = Nat.toDigits 10 n := by simp
    rw [← String.length_toList, htext]
  rw [ofDecimal, if_neg hn, hsize, if_pos le_rfl, zero_add]
  split_ifs with hlong hshort
  · have hten : 10 ^ 400 ≤ n := by
      by_contra hlt
      have hlen := (Nat.length_toDigits_le_iff (by decide) (by decide)).2 (Nat.not_le.1 hlt)
      omega
    have hlimit : ¬ n < limit := Nat.not_lt.2 (limit_lt.le.trans hten)
    rcases rounds_or_infinity h with ⟨hlt, -⟩ | ⟨-, hover⟩
    · exact absurd hlt hlimit
    · exact (hover negative).symm
  · omega
  · rw [Int.toNat_zero, Nat.pow_eq, pow_zero, Nat.mul_one]

theorem not_isFinite_infinity (negative : Bool) : (infinity negative).isFinite = false := by
  cases negative <;> decide

end QueryDesk.Binary64
