import Mathlib.Algebra.Order.Field.Power
import Mathlib.Data.Int.Log
import Mathlib.Data.Rat.Floor
import Mathlib.Tactic.FieldSimp
import Mathlib.Tactic.NormNum
import TableSource.Number.Binary64

/-!
# Rounding depends on the value alone

A quotient is rounded to the nearest binary64 number by integer arithmetic on its two parts, and a
decimal by a quotient of powers of ten.  Neither depends on more than the rational number that the
parts stand for: equal quotients and equal decimals are rounded to the same number.  A number that
is itself given as a quotient, or as a decimal, is rounded to itself.
-/

namespace TableSource.Binary64

/-! ## Powers with a sign in the exponent -/

/-- A power is the quotient of the powers that stand for it in integer arithmetic. -/
theorem zpow_eq_div (base : ℕ) (positive : 0 < base) (exponent : ℤ) :
    (base : ℚ) ^ exponent =
      ((base ^ exponent.toNat : ℕ) : ℚ) / ((base ^ (-exponent).toNat : ℕ) : ℚ) := by
  have nonzero : (base : ℚ) ≠ 0 := by
    exact_mod_cast positive.ne'
  have split : exponent = (exponent.toNat : ℤ) - ((-exponent).toNat : ℤ) := by omega
  conv_lhs => rw [split, zpow_sub₀ nonzero, zpow_natCast, zpow_natCast]
  push_cast
  rfl

/-- The logarithm is the one exponent of a power around the value. -/
theorem log_eq_of_between
    {base : ℕ} (large : 1 < base) {value : ℚ} {exponent : ℤ}
    (least : (base : ℚ) ^ exponent ≤ value) (below : value < (base : ℚ) ^ (exponent + 1)) :
    Int.log base value = exponent := by
  have positive : (0 : ℚ) < base := by
    exact_mod_cast Nat.zero_lt_of_lt large
  have valuePositive : 0 < value := lt_of_lt_of_le (zpow_pos positive _) least
  have low := (Int.zpow_le_iff_le_log large valuePositive).mp least
  have high := (Int.lt_zpow_iff_log_lt large valuePositive).mp below
  omega

/-! ## The nearest integer -/

theorem nearest_mul_right
    {factor : ℕ} (positive : 0 < factor) (num den : ℕ) :
    nearest (num * factor) (den * factor) = nearest num den := by
  have rest : 2 * (num % den * factor) = 2 * (num % den) * factor := (Nat.mul_assoc _ _ _).symm
  simp only [nearest, Nat.mul_div_mul_right _ _ positive, Nat.mul_mod_mul_right, rest,
    Nat.mul_lt_mul_right positive]

theorem nearest_congr
    {num den otherNum otherDen : ℕ} (positive : 0 < den) (otherPositive : 0 < otherDen)
    (same : num * otherDen = otherNum * den) :
    nearest num den = nearest otherNum otherDen := by
  rw [← nearest_mul_right otherPositive num den, ← nearest_mul_right positive otherNum otherDen,
    same, Nat.mul_comm den]

theorem nearest_one (num : ℕ) :
    nearest num 1 = num := by
  simp [nearest, Nat.mod_one]

/-! ## The leading bit -/

/-- Parts that are scaled to integers compare like the quotient and the power. -/
theorem scaled_le_iff
    {base : ℕ} (positive : 0 < base) (exponent : ℤ) (num : ℕ) {den : ℕ} (denPositive : 0 < den) :
    den * base ^ exponent.toNat ≤ num * base ^ (-exponent).toNat ↔
      (base : ℚ) ^ exponent ≤ (num : ℚ) / den := by
  have up : (0 : ℚ) < ((base ^ (-exponent).toNat : ℕ) : ℚ) := by
    exact_mod_cast Nat.pow_pos positive
  have down : (0 : ℚ) < (den : ℚ) := by
    exact_mod_cast denPositive
  rw [zpow_eq_div base positive, div_le_div_iff₀ up down, mul_comm]
  norm_cast

theorem zpow_log2_le {number : ℕ} (positive : 0 < number) :
    (2 : ℚ) ^ (Nat.log2 number : ℤ) ≤ number := by
  rw [zpow_natCast]
  exact_mod_cast Nat.log2_self_le positive.ne'

theorem lt_zpow_log2 (number : ℕ) :
    (number : ℚ) < 2 ^ ((Nat.log2 number : ℤ) + 1) := by
  exact_mod_cast Nat.lt_log2_self (n := number)

theorem leadingBit_eq_log
    {num den : ℕ} (numPositive : 0 < num) (denPositive : 0 < den) :
    leadingBit num den = Int.log 2 ((num : ℚ) / den) := by
  have two : (2 : ℚ) ≠ 0 := by norm_num
  have down : (0 : ℚ) < (den : ℚ) := by
    exact_mod_cast denPositive
  have denLow := zpow_log2_le denPositive
  have denHigh := lt_zpow_log2 den
  -- the two logarithms leave the quotient between two neighbouring powers around the guess
  have aboveGuess : (num : ℚ) / den < 2 ^ ((Nat.log2 num : ℤ) - Nat.log2 den + 1) := by
    rw [div_lt_iff₀ down]
    calc (num : ℚ) < 2 ^ ((Nat.log2 num : ℤ) + 1) := lt_zpow_log2 num
      _ = 2 ^ ((Nat.log2 num : ℤ) - Nat.log2 den + 1) * 2 ^ (Nat.log2 den : ℤ) := by
          rw [← zpow_add₀ two]
          congr 1
          omega
      _ ≤ 2 ^ ((Nat.log2 num : ℤ) - Nat.log2 den + 1) * den := by
          gcongr
  have belowGuess : (2 : ℚ) ^ ((Nat.log2 num : ℤ) - Nat.log2 den - 1) ≤ (num : ℚ) / den := by
    rw [le_div_iff₀ down]
    calc (2 : ℚ) ^ ((Nat.log2 num : ℤ) - Nat.log2 den - 1) * den
        ≤ 2 ^ ((Nat.log2 num : ℤ) - Nat.log2 den - 1) * 2 ^ ((Nat.log2 den : ℤ) + 1) := by
          gcongr
      _ = 2 ^ (Nat.log2 num : ℤ) := by
          rw [← zpow_add₀ two]
          congr 1
          omega
      _ ≤ num := zpow_log2_le numPositive
  have guess := scaled_le_iff (by decide : 0 < 2) ((Nat.log2 num : ℤ) - Nat.log2 den) num
    denPositive
  show (if den * 2 ^ _ ≤ num * 2 ^ _ then _ else _) = _
  split
  · next reached =>
      exact (log_eq_of_between (by decide) (guess.mp reached) aboveGuess).symm
  · next missed =>
      have below := lt_of_not_ge fun reached => missed (guess.mpr reached)
      refine (log_eq_of_between (by decide) belowGuess ?_).symm
      rw [Int.sub_add_cancel]
      exact below

/-! ## Quotients -/

theorem leadingBit_congr
    {num den otherNum otherDen : ℕ} (numPositive : 0 < num) (otherNumPositive : 0 < otherNum)
    (positive : 0 < den) (otherPositive : 0 < otherDen)
    (same : num * otherDen = otherNum * den) :
    leadingBit num den = leadingBit otherNum otherDen := by
  have value : (num : ℚ) / den = (otherNum : ℚ) / otherDen := by
    have down : (den : ℚ) ≠ 0 := by exact_mod_cast positive.ne'
    have otherDown : (otherDen : ℚ) ≠ 0 := by exact_mod_cast otherPositive.ne'
    rw [div_eq_div_iff down otherDown]
    exact_mod_cast same
  rw [leadingBit_eq_log numPositive positive, leadingBit_eq_log otherNumPositive otherPositive,
    value]

/-- Equal quotients are rounded to the same number. -/
theorem ofRatio?_congr
    (negative : Bool) {num den otherNum otherDen : ℕ}
    (positive : 0 < den) (otherPositive : 0 < otherDen)
    (same : num * otherDen = otherNum * den) :
    ofRatio? negative num den = ofRatio? negative otherNum otherDen := by
  by_cases zero : num = 0
  · have otherZero : otherNum = 0 := by
      rw [zero, Nat.zero_mul] at same
      exact (Nat.mul_eq_zero.mp same.symm).resolve_right positive.ne'
    rw [zero, otherZero]
    rfl
  · have otherNonzero : otherNum ≠ 0 := by
      rintro rfl
      rw [Nat.zero_mul] at same
      exact (Nat.mul_ne_zero zero otherPositive.ne') same
    have place : lastPlace num den = lastPlace otherNum otherDen := by
      rw [lastPlace, lastPlace, leadingBit_congr (Nat.pos_of_ne_zero zero)
        (Nat.pos_of_ne_zero otherNonzero) positive otherPositive same]
    have mantissa (place : ℤ) :
        nearest (num * Nat.pow 2 (-place).toNat) (den * Nat.pow 2 place.toNat) =
          nearest (otherNum * Nat.pow 2 (-place).toNat) (otherDen * Nat.pow 2 place.toNat) := by
      have downPositive : 0 < Nat.pow 2 place.toNat := Nat.pow_pos (by decide)
      refine nearest_congr (Nat.mul_pos positive downPositive)
        (Nat.mul_pos otherPositive downPositive) ?_
      rw [Nat.mul_mul_mul_comm, same, Nat.mul_mul_mul_comm]
    simp only [ofRatio?, if_neg zero, if_neg otherNonzero, place, mantissa]

/-! ## Decimals -/

/-- The number of digits before the point is the logarithm of the value. -/
theorem decimalLength_add
    {coefficient : ℕ} (nonzero : coefficient ≠ 0) (scale : ℤ) :
    (decimalLength coefficient : ℤ) + scale =
      Int.log 10 ((coefficient : ℚ) * (10 : ℚ) ^ scale) + 1 := by
  have ten : (10 : ℚ) ≠ 0 := by norm_num
  have power : (0 : ℚ) < 10 ^ scale := zpow_pos (by norm_num) _
  have positive : 0 < decimalLength coefficient := Nat.length_toDigits_pos
  have below : coefficient < 10 ^ decimalLength coefficient :=
    (Nat.length_toDigits_le_iff (by decide) positive).mp le_rfl
  have least : 10 ^ (decimalLength coefficient - 1) ≤ coefficient := by
    by_cases single : decimalLength coefficient = 1
    · rw [single]
      exact Nat.one_le_iff_ne_zero.mpr nonzero
    · by_contra less
      have few := (Nat.length_toDigits_le_iff (n := coefficient) (by decide) (by omega)).mpr
        (Nat.lt_of_not_le less)
      rw [← decimalLength] at few
      omega
  suffices log : Int.log 10 ((coefficient : ℚ) * (10 : ℚ) ^ scale) =
      (decimalLength coefficient : ℤ) - 1 + scale by omega
  apply log_eq_of_between (by decide)
  · push_cast
    rw [zpow_add₀ ten]
    gcongr
    calc (10 : ℚ) ^ ((decimalLength coefficient : ℤ) - 1)
        = ((10 ^ (decimalLength coefficient - 1) : ℕ) : ℚ) := by
          rw [← Nat.cast_pred positive, zpow_natCast]
          norm_cast
      _ ≤ coefficient := by
          exact_mod_cast least
  · push_cast
    rw [add_right_comm, zpow_add₀ ten, Int.sub_add_cancel, zpow_natCast]
    gcongr
    exact_mod_cast below

/-- Equal decimals are rounded to the same number. -/
theorem ofScaled?_congr
    (negative : Bool) {coefficient other : ℕ} {scale otherScale : ℤ}
    (same : (coefficient : ℚ) * (10 : ℚ) ^ scale = (other : ℚ) * (10 : ℚ) ^ otherScale) :
    ofScaled? negative coefficient scale = ofScaled? negative other otherScale := by
  have power (exponent : ℤ) : (10 : ℚ) ^ exponent ≠ 0 := zpow_ne_zero _ (by norm_num)
  by_cases zero : coefficient = 0
  · have otherZero : other = 0 := by
      rw [zero, Nat.cast_zero, zero_mul, eq_comm, mul_eq_zero] at same
      exact_mod_cast same.resolve_right (power _)
    rw [zero, otherZero]
    rfl
  · have otherNonzero : other ≠ 0 := by
      rintro rfl
      rw [Nat.cast_zero, zero_mul, mul_eq_zero] at same
      exact zero (by exact_mod_cast same.resolve_right (power _))
    have size := decimalLength_add zero scale
    rw [same, ← decimalLength_add otherNonzero otherScale] at size
    have parts :
        coefficient * Nat.pow 10 scale.toNat * Nat.pow 10 (-otherScale).toNat =
          other * Nat.pow 10 otherScale.toNat * Nat.pow 10 (-scale).toNat := by
      have left := zpow_eq_div 10 (by decide) scale
      have right := zpow_eq_div 10 (by decide) otherScale
      push_cast at left right
      have down (exponent : ℕ) : (10 : ℚ) ^ exponent ≠ 0 := pow_ne_zero _ (by norm_num)
      rw [left, right, ← mul_div_assoc, ← mul_div_assoc, div_eq_div_iff (down _) (down _)] at same
      exact_mod_cast same
    have positive (exponent : ℕ) : 0 < Nat.pow 10 exponent := Nat.pow_pos (by decide)
    simp only [ofScaled?, if_neg zero, if_neg otherNonzero, size]
    rw [ofRatio?_congr negative (positive _) (positive _) parts]

/-! ## Numbers as quotients -/

/-- The number that is zero is the zero of its sign. -/
theorem eq_signedZero (x : Binary64)
    (zero : x.mantissa = 0) :
    x = signedZero x.negative := by
  rcases x with ⟨negative, mantissa, exponent, normal⟩
  subst zero
  have least : exponent = -1074 := normal.2.2.2.resolve_left (by decide)
  subst least
  rfl

theorem denominator_pos (x : Binary64) :
    0 < x.denominator :=
  Nat.pow_pos (by decide)

/-- The magnitude of a number. -/
theorem numerator_div_denominator (x : Binary64) :
    (x.numerator : ℚ) / x.denominator = x.mantissa * (2 : ℚ) ^ x.exponent := by
  have power := zpow_eq_div 2 (by decide) x.exponent
  push_cast at power
  rw [power, ← mul_div_assoc, numerator, denominator]
  norm_cast

theorem lastPlace_parts (x : Binary64)
    (nonzero : x.mantissa ≠ 0) :
    lastPlace x.numerator x.denominator = x.exponent := by
  rcases x.normal with ⟨few, least, -, many⟩
  have numeratorPositive : 0 < x.numerator :=
    Nat.mul_pos (Nat.pos_of_ne_zero nonzero) (Nat.pow_pos (by decide))
  have positive : (0 : ℚ) < x.mantissa * (2 : ℚ) ^ x.exponent := by
    have mantissa : (0 : ℚ) < x.mantissa := by exact_mod_cast Nat.pos_of_ne_zero nonzero
    positivity
  have below : Int.log 2 ((x.mantissa : ℚ) * 2 ^ x.exponent) < 53 + x.exponent := by
    apply (Int.lt_zpow_iff_log_lt (by decide) positive).mp
    push_cast
    rw [zpow_add₀ (by norm_num)]
    gcongr
    exact_mod_cast few
  rw [lastPlace, leadingBit_eq_log numeratorPositive x.denominator_pos, numerator_div_denominator]
  rcases many with full | low
  · have reached : 52 + x.exponent ≤ Int.log 2 ((x.mantissa : ℚ) * 2 ^ x.exponent) := by
      apply (Int.zpow_le_iff_le_log (by decide) positive).mp
      push_cast
      rw [zpow_add₀ (by norm_num)]
      gcongr
      exact_mod_cast full
    omega
  · omega

/-- A number is the one nearest to any quotient that is its magnitude. -/
theorem ofRatio?_magnitude (x : Binary64)
    {num den : ℕ} (positive : 0 < den)
    (same : num * x.denominator = x.numerator * den) :
    ofRatio? x.negative num den = some x := by
  rw [ofRatio?_congr x.negative positive x.denominator_pos same]
  by_cases zero : x.mantissa = 0
  · rw [ofRatio?, if_pos (by rw [numerator, zero, Nat.zero_mul]), ← x.eq_signedZero zero]
  · have numeratorNonzero : x.numerator ≠ 0 :=
      Nat.mul_ne_zero zero (Nat.pow_pos (by decide : 0 < 2)).ne'
    have scale : 0 < Nat.pow 2 x.exponent.toNat * Nat.pow 2 (-x.exponent).toNat :=
      Nat.mul_pos (Nat.pow_pos (by decide)) (Nat.pow_pos (by decide))
    have mantissa : nearest (x.numerator * Nat.pow 2 (-x.exponent).toNat)
        (x.denominator * Nat.pow 2 x.exponent.toNat) = x.mantissa := by
      rw [← nearest_one x.mantissa, ← nearest_mul_right scale x.mantissa 1, Nat.one_mul,
        numerator, denominator, Nat.mul_assoc, Nat.mul_comm (Nat.pow 2 (-x.exponent).toNat)]
    have few : x.mantissa ≠ Nat.pow 2 53 := x.normal.1.ne
    simp only [ofRatio?, if_neg numeratorNonzero, x.lastPlace_parts zero, mantissa, if_neg few,
      ofFields?, dif_pos x.normal]

/-- A magnitude other than zero is within the bounds that decimals are cut off at. -/
theorem log_magnitude (x : Binary64)
    (nonzero : x.mantissa ≠ 0) :
    -324 ≤ Int.log 10 ((x.mantissa : ℚ) * (2 : ℚ) ^ x.exponent) ∧
      Int.log 10 ((x.mantissa : ℚ) * (2 : ℚ) ^ x.exponent) < 309 := by
  rcases x.normal with ⟨few, least, most, -⟩
  have one : (1 : ℚ) ≤ x.mantissa := by exact_mod_cast Nat.pos_of_ne_zero nonzero
  have positive : (0 : ℚ) < x.mantissa * (2 : ℚ) ^ x.exponent := by positivity
  constructor
  · apply (Int.zpow_le_iff_le_log (by decide) positive).mp
    have powers : 2 ^ 1074 ≤ 10 ^ 324 := by decide +kernel
    calc ((10 : ℕ) : ℚ) ^ (-324 : ℤ) ≤ 2 ^ (-1074 : ℤ) := by
          rw [zpow_neg, zpow_neg]
          exact inv_anti₀ (by positivity) (by exact_mod_cast powers)
      _ ≤ 2 ^ x.exponent := zpow_le_zpow_right₀ (by norm_num) least
      _ ≤ x.mantissa * (2 : ℚ) ^ x.exponent := le_mul_of_one_le_left (by positivity) one
  · apply (Int.lt_zpow_iff_log_lt (by decide) positive).mp
    have powers : 2 ^ 53 * 2 ^ 971 < 10 ^ 309 := by decide +kernel
    have mantissa : (x.mantissa : ℚ) < 2 ^ 53 := by exact_mod_cast few
    calc (x.mantissa : ℚ) * (2 : ℚ) ^ x.exponent < 2 ^ 53 * 2 ^ (971 : ℤ) := by
          have power : (2 : ℚ) ^ x.exponent ≤ 2 ^ (971 : ℤ) :=
            zpow_le_zpow_right₀ (by norm_num) most
          exact mul_lt_mul mantissa power (by positivity) (by positivity)
      _ < ((10 : ℕ) : ℚ) ^ (309 : ℤ) := by
          exact_mod_cast powers

/-- The exact decimal of a number is rounded to the number. -/
theorem ofScaled?_exact (x : Binary64)
    (nonzero : x.mantissa ≠ 0) :
    ofScaled? x.negative (x.numerator * Nat.pow 5 (-x.exponent).toNat)
      (-((-x.exponent).toNat : ℤ)) = some x := by
  have coefficientNonzero : x.numerator * Nat.pow 5 (-x.exponent).toNat ≠ 0 :=
    Nat.mul_ne_zero (Nat.mul_ne_zero nonzero (Nat.pow_pos (by decide : 0 < 2)).ne')
      (Nat.pow_pos (by decide : 0 < 5)).ne'
  have tens : 10 ^ (-x.exponent).toNat = 5 ^ (-x.exponent).toNat * x.denominator := by
    rw [denominator, show 10 = 5 * 2 from rfl, Nat.mul_pow]
    rfl
  have value : ((x.numerator * Nat.pow 5 (-x.exponent).toNat : ℕ) : ℚ) *
      (10 : ℚ) ^ (-((-x.exponent).toNat : ℤ)) = x.mantissa * (2 : ℚ) ^ x.exponent := by
    have denominator : (x.denominator : ℚ) ≠ 0 := by exact_mod_cast x.denominator_pos.ne'
    have fives : (5 : ℚ) ^ (-x.exponent).toNat ≠ 0 := pow_ne_zero _ (by norm_num)
    rw [← numerator_div_denominator, zpow_neg, zpow_natCast, ← div_eq_mul_inv]
    rw [show (10 : ℚ) ^ (-x.exponent).toNat = 5 ^ (-x.exponent).toNat * x.denominator by
      exact_mod_cast tens]
    rw [Nat.cast_mul, show ((Nat.pow 5 (-x.exponent).toNat : ℕ) : ℚ) = 5 ^ (-x.exponent).toNat by
      exact_mod_cast rfl]
    field_simp
  have size := decimalLength_add coefficientNonzero (-((-x.exponent).toNat : ℤ))
  rw [value] at size
  rcases x.log_magnitude nonzero with ⟨low, high⟩
  rw [ofScaled?, if_neg coefficientNonzero]
  dsimp only
  rw [size, if_neg (by omega), if_neg (by omega)]
  have noTens : (-((-x.exponent).toNat : ℤ)).toNat = 0 := by omega
  apply x.ofRatio?_magnitude (Nat.pow_pos (by decide))
  rw [noTens, Int.neg_neg, Int.toNat_natCast]
  calc x.numerator * Nat.pow 5 (-x.exponent).toNat * Nat.pow 10 0 * x.denominator
      = x.numerator * (5 ^ (-x.exponent).toNat * x.denominator) := by
        simp only [Nat.pow_eq, Nat.pow_zero, Nat.mul_one, Nat.mul_assoc]
    _ = x.numerator * Nat.pow 10 (-x.exponent).toNat := by
        rw [← tens]
        rfl

end TableSource.Binary64
