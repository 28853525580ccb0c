import TableSource.Proofs.Number.IntegerText

/-!
# Epoch milliseconds

A whole number of milliseconds is divided by a thousand before it is taken apart, and the quotient
is a binary64 number.  The instant that is read is the one that is meant exactly when that number
of seconds is at most half a microsecond off, which it always is up to `2 ^ 33` seconds to either
side of 1970, and for every eighth of a second.  Beyond that the last microseconds may be lost, by
fifteen of them at most.
-/

namespace TableSource

namespace Binary64

/-! ## The parts of a number -/

theorem magnitude_eq (x : Binary64) :
    (x.numerator : ℚ) / x.denominator = x.magnitude :=
  x.numerator_div_denominator

theorem magnitude_eq_parts (x : Binary64) :
    x.magnitude = x.wholePart + (x.fractionNumerator : ℚ) / x.denominator := by
  have down : (x.denominator : ℚ) ≠ 0 := by
    exact_mod_cast x.denominator_pos.ne'
  have parts := Nat.div_add_mod' x.numerator x.denominator
  rw [← magnitude_eq, div_eq_iff down, add_mul, div_mul_cancel₀ _ down]
  exact_mod_cast parts.symm

theorem wholePart_eq
    {x : Binary64} {whole : ℕ}
    (least : (whole : ℚ) ≤ x.magnitude) (most : x.magnitude < whole + 1) :
    x.wholePart = whole := by
  have up : (0 : ℚ) < x.denominator := by
    exact_mod_cast x.denominator_pos
  rw [← magnitude_eq] at least most
  rw [le_div_iff₀ up] at least
  rw [div_lt_iff₀ up] at most
  apply Nat.div_eq_of_lt_le
  · exact_mod_cast least
  · exact_mod_cast most

end Binary64

open Binary64

namespace Epoch

/-! ## Seconds -/

/-- The number of milliseconds from 1970 to the end of the calendar. -/
def millisAhead : ℕ := 253402300800000

section Seconds

variable {size : ℕ}

/-- Seconds are rounded by half of the last place that numbers below a power of two have. -/
theorem abs_seconds_sub_le
    {exponent : ℤ} (least : -1074 ≤ exponent)
    (below : (size : ℚ) < 1000 * 2 ^ (exponent + 53)) :
    |(size : ℚ) / 1000 - rounded size 1000| ≤ 2 ^ exponent / 2 := by
  apply abs_sub_rounded_le_of_lt (by decide) least
  rw [div_lt_iff₀ (by norm_num), mul_comm]
  exact below

theorem abs_seconds_sub_le_ahead
    (small : size < millisAhead) :
    |(size : ℚ) / 1000 - rounded size 1000| ≤ 1 / 2 ^ 16 := by
  have few : (size : ℚ) < 253402300800000 := by exact_mod_cast small
  have near : |(size : ℚ) / 1000 - rounded size 1000| ≤ 2 ^ (-15 : ℤ) / 2 := by
    apply abs_seconds_sub_le (by decide)
    apply few.trans
    norm_num
  refine near.trans ?_
  norm_num

theorem abs_seconds_sub_le_recent
    (recent : size < 1000 * 2 ^ 33) :
    |(size : ℚ) / 1000 - rounded size 1000| ≤ 1 / 2 ^ 21 := by
  have few : (size : ℚ) < 1000 * 2 ^ 33 := by exact_mod_cast recent
  have near : |(size : ℚ) / 1000 - rounded size 1000| ≤ 2 ^ (-20 : ℤ) / 2 := by
    apply abs_seconds_sub_le (by decide)
    exact few
  refine near.trans ?_
  norm_num

/-- Eighths of a second are numbers. -/
theorem rounded_seconds_of_eighths
    (small : size < millisAhead) (eighths : 125 ∣ size) :
    rounded size 1000 = (size : ℚ) / 1000 := by
  rcases eighths with ⟨count, rfl⟩
  apply rounded_eq_of_bits (by decide)
  · show count < 2 ^ 53
    rw [millisAhead] at small
    omega
  · show -1074 ≤ -3
    decide
  · push_cast
    norm_num
    ring

/-- No number of seconds on the calendar is too large. -/
theorem exists_seconds
    (negative : Bool) (small : size < millisAhead) :
    ∃ seconds, ofRatio? negative size 1000 = some seconds ∧ seconds.negative = negative ∧
      seconds.magnitude = rounded size 1000 := by
  rcases ofRatio?_spec negative size (by decide : 0 < 1000) with found | ⟨-, large⟩
  · exact found
  · exfalso
    have near := (abs_le.mp (abs_seconds_sub_le_ahead small)).1
    have few : (size : ℚ) < 253402300800000 := by exact_mod_cast small
    have top : (2 : ℚ) ^ (48 : ℤ) ≤ 2 ^ (1024 : ℤ) := zpow_le_zpow_right₀ one_le_two (by decide)
    have reached := top.trans large
    norm_num at near reached
    linarith only [near, few, reached]

theorem seconds_eq (size : ℕ) :
    (size : ℚ) / 1000 = (size / 1000 : ℕ) + ((size % 1000 : ℕ) : ℚ) / 1000 := by
  have parts := Nat.div_add_mod' size 1000
  rw [div_eq_iff (by norm_num), add_mul, div_mul_cancel₀ _ (by norm_num)]
  exact_mod_cast parts.symm

/-- The whole seconds are those that are meant. -/
theorem wholePart_seconds
    {seconds : Binary64}
    (small : size < millisAhead) (value : seconds.magnitude = rounded size 1000) :
    seconds.wholePart = size / 1000 := by
  have parts := seconds_eq size
  by_cases even : size % 1000 = 0
  · have eighths : 125 ∣ size := by omega
    rw [even, Nat.cast_zero, zero_div, add_zero] at parts
    apply wholePart_eq <;> rw [value, rounded_seconds_of_eighths small eighths, parts]
    exact lt_add_one _
  · have near := abs_le.mp (abs_seconds_sub_le_ahead small)
    have least : (1 : ℚ) ≤ (size % 1000 : ℕ) := by
      exact_mod_cast Nat.one_le_iff_ne_zero.mpr even
    have most : ((size % 1000 : ℕ) : ℚ) ≤ 999 := by
      exact_mod_cast Nat.lt_succ_iff.mp (Nat.mod_lt size (by decide : 0 < 1000))
    norm_num at near
    apply wholePart_eq <;> rw [value] <;> linarith

end Seconds

/-! ## Microseconds -/

section Micros

variable {size : ℕ} {seconds : Binary64}

/-- What the fraction of the seconds is multiplied to, before it is rounded. -/
theorem fraction_eq
    (small : size < millisAhead) (value : seconds.magnitude = rounded size 1000) :
    ((seconds.fractionNumerator * 1000000 : ℕ) : ℚ) / seconds.denominator =
      (1000 * (size % 1000) : ℕ) + (rounded size 1000 - (size : ℚ) / 1000) * 1000000 := by
  have parts := seconds.magnitude_eq_parts
  rw [value, wholePart_seconds small value] at parts
  have meant := seconds_eq size
  push_cast
  rw [mul_div_right_comm]
  linarith

theorem fraction_lt (seconds : Binary64) :
    ((seconds.fractionNumerator * 1000000 : ℕ) : ℚ) / seconds.denominator <
      2 ^ ((-33 : ℤ) + 53) := by
  have up : (0 : ℚ) < seconds.denominator := by
    exact_mod_cast seconds.denominator_pos
  have below : (seconds.fractionNumerator : ℚ) < seconds.denominator := by
    exact_mod_cast Nat.mod_lt seconds.numerator seconds.denominator_pos
  rw [div_lt_iff₀ up]
  push_cast
  linarith

theorem abs_fraction_sub_le (seconds : Binary64) :
    |((seconds.fractionNumerator * 1000000 : ℕ) : ℚ) / seconds.denominator -
        rounded (seconds.fractionNumerator * 1000000) seconds.denominator| ≤ 1 / 2 ^ 34 := by
  have near := abs_sub_rounded_le_of_lt seconds.denominator_pos (by decide) (fraction_lt seconds)
  refine near.trans ?_
  norm_num

/-- From `2 ^ 32` seconds on the fraction has so few bits that its microseconds are exact. -/
theorem rounded_fraction_of_late
    (late : 2 ^ 32 ≤ seconds.magnitude) :
    rounded (seconds.fractionNumerator * 1000000) seconds.denominator =
      ((seconds.fractionNumerator * 1000000 : ℕ) : ℚ) / seconds.denominator := by
  have coarse : -20 ≤ seconds.exponent := by
    have few : (seconds.mantissa : ℚ) < 2 ^ (53 : ℤ) := by
      exact_mod_cast seconds.normal.1
    have below : (2 : ℚ) ^ (32 : ℤ) < 2 ^ (53 + seconds.exponent) := by
      rw [zpow_add₀ two_ne_zero]
      exact (late.trans_eq' (by norm_cast)).trans_lt (mul_lt_mul_of_pos_right few (two_zpow_pos _))
    have less := (zpow_lt_zpow_iff_right₀ one_lt_two).mp below
    omega
  have denominator : seconds.denominator = 2 ^ (-seconds.exponent).toNat := rfl
  have most : seconds.denominator ≤ 2 ^ 20 := by
    rw [denominator]
    exact Nat.pow_le_pow_right two_pos (by omega)
  have below : seconds.fractionNumerator < seconds.denominator :=
    Nat.mod_lt seconds.numerator seconds.denominator_pos
  have few : seconds.fractionNumerator * 1000000 < 2 ^ 53 := by
    omega
  have bits : ((seconds.fractionNumerator * 1000000 : ℕ) : ℚ) / seconds.denominator =
      (seconds.fractionNumerator * 1000000 : ℕ) * 2 ^ (-((-seconds.exponent).toNat : ℤ)) := by
    rw [denominator, zpow_neg, zpow_natCast, div_eq_mul_inv]
    norm_cast
  exact rounded_eq_of_bits seconds.denominator_pos few (by omega) bits

/-- The definition as an equation between functions: at a number of seconds the kernel would
compute the product with a million before it unfolds the definition. -/
theorem fractionMicros_def :
    fractionMicros = fun seconds =>
      match ofRatio? false (seconds.fractionNumerator * 1000000) seconds.denominator with
      | some micros => nearest micros.numerator micros.denominator
      | none => 0 :=
  rfl

/-- The microseconds are rounded to the nearest integer, after they were rounded to a number. -/
theorem fractionMicros_eq (seconds : Binary64) :
    ∃ micros : Binary64,
      micros.magnitude =
        rounded (seconds.fractionNumerator * 1000000) seconds.denominator ∧
      fractionMicros seconds = nearest micros.numerator micros.denominator := by
  rcases ofRatio?_spec false (seconds.fractionNumerator * 1000000) seconds.denominator_pos with
    ⟨micros, found, -, value⟩ | ⟨-, large⟩
  · refine ⟨micros, value, ?_⟩
    rw [fractionMicros_def]
    simp only [found]
  · -- a fraction has less than a million microseconds
    have near := (abs_le.mp (abs_fraction_sub_le seconds)).1
    have below := fraction_lt seconds
    have top : (2 : ℚ) ^ (21 : ℤ) ≤ 2 ^ (1024 : ℤ) := zpow_le_zpow_right₀ one_le_two (by decide)
    have reached := top.trans large
    norm_num at below reached near
    linarith only [below, reached, near]

/-- The microseconds are those that are meant exactly when the seconds are at most half a
microsecond off. -/
theorem fractionMicros_eq_iff
    (small : size < millisAhead) (value : seconds.magnitude = rounded size 1000) :
    fractionMicros seconds = 1000 * (size % 1000) ↔
      |rounded size 1000 - (size : ℚ) / 1000| ≤ 1 / 2000000 := by
  rcases fractionMicros_eq seconds with ⟨micros, same, made⟩
  have even : 1000 * (size % 1000) % 2 = 0 := by omega
  have fraction := fraction_eq small value
  rw [made, nearest_eq_iff_of_even micros.denominator_pos even, magnitude_eq, same]
  by_cases recent : size < 1000 * 2 ^ 33
  · -- the two roundings together lose less than half a microsecond
    have near := abs_le.mp (abs_seconds_sub_le_recent recent)
    have again := abs_le.mp (abs_fraction_sub_le seconds)
    apply iff_of_true <;> rw [abs_le] <;> constructor <;> linarith
  · have late : 2 ^ 32 ≤ seconds.magnitude := by
      have near := abs_le.mp (abs_seconds_sub_le_ahead small)
      have reached : (1000 * 2 ^ 33 : ℚ) ≤ size := by
        exact_mod_cast Nat.le_of_not_lt recent
      rw [value]
      linarith
    rw [rounded_fraction_of_late late, fraction, add_sub_cancel_left, abs_mul,
      abs_of_pos (by norm_num : (0 : ℚ) < 1000000), ← le_div_iff₀ (by norm_num)]
    norm_num

theorem abs_fractionMicros_sub_le
    (small : size < millisAhead) (value : seconds.magnitude = rounded size 1000) :
    |(fractionMicros seconds : ℤ) - (1000 * (size % 1000) : ℕ)| ≤ 15 := by
  rcases fractionMicros_eq seconds with ⟨micros, same, made⟩
  have fraction := fraction_eq small value
  have near := abs_le.mp (abs_seconds_sub_le_ahead small)
  have again := abs_le.mp (abs_fraction_sub_le seconds)
  have last := abs_le.mp (abs_sub_nearest_le micros.numerator micros.denominator_pos)
  rw [magnitude_eq, same, ← made] at last
  have close : |((fractionMicros seconds : ℤ) : ℚ) - ((1000 * (size % 1000) : ℕ) : ℤ)| < 16 := by
    rw [Int.cast_natCast, Int.cast_natCast, abs_lt]
    constructor <;> linarith
  exact Int.lt_add_one_iff.mp (by exact_mod_cast close)

end Micros

/-! ## Milliseconds -/

section Millis

variable {n : ℤ}

/-- An integer with few enough bits is a number. -/
theorem exists_ofInt?
    (few : n.natAbs ≤ 2 ^ 53) :
    ∃ x, ofInt? n = some x ∧ x.negative = decide (n < 0) ∧ x.magnitude = n.natAbs := by
  have whole : (n.natAbs : ℚ) / (1 : ℕ) = n.natAbs := by
    simp
  have exact : rounded n.natAbs 1 = n.natAbs := by
    rw [← whole]
    rcases few.lt_or_eq with fewer | most
    · exact rounded_eq_of_bits one_pos fewer (by decide : -1074 ≤ (0 : ℤ)) (by simp)
    · -- one bit more than the mantissa has, but the last one is zero
      apply rounded_eq_of_bits one_pos (by decide : 1 < 2 ^ 53) (by decide : -1074 ≤ (53 : ℤ))
      rw [whole, most]
      norm_num
  rcases ofRatio?_spec (decide (n < 0)) n.natAbs one_pos with ⟨x, found, sign, value⟩ | ⟨-, large⟩
  · exact ⟨x, found, sign, value.trans exact⟩
  · exfalso
    rw [exact] at large
    have small : (n.natAbs : ℚ) ≤ 2 ^ (53 : ℤ) := by
      exact_mod_cast few
    have top : (2 : ℚ) ^ (53 : ℤ) < 2 ^ (1024 : ℤ) := zpow_lt_zpow_right₀ one_lt_two (by decide)
    exact (small.trans_lt (top.trans_le large)).false

/-- So only its thousandth is rounded. -/
theorem bind_divNat?_ofInt?
    (few : n.natAbs < 2 ^ 53) :
    (ofInt? n).bind (fun x => x.divNat? 1000) = ofRatio? (decide (n < 0)) n.natAbs 1000 := by
  rcases exists_ofInt? few.le with ⟨x, found, sign, value⟩
  have up : (x.denominator : ℚ) ≠ 0 := by
    exact_mod_cast x.denominator_pos.ne'
  rw [← magnitude_eq, div_eq_iff up] at value
  have parts : x.numerator = n.natAbs * x.denominator := by
    exact_mod_cast value
  rw [found, Option.bind_some, divNat?, sign]
  apply ofRatio?_congr _ (Nat.mul_pos x.denominator_pos (by decide)) (by decide)
  rw [parts, Nat.mul_assoc]

/-- The thousandth of an integer, as a quotient of its magnitude. -/
theorem ofRat?_thousandth (n : ℤ) :
    ofRat? ((n : ℚ) / 1000) = ofRatio? (decide (n < 0)) n.natAbs 1000 := by
  have sign : ((n : ℚ) / 1000 < 0) ↔ n < 0 := by
    rw [div_neg_iff]
    norm_num
  have parts : ((n : ℚ) / 1000).num * 1000 = n * ((n : ℚ) / 1000).den := by
    have lowest := Rat.num_div_den ((n : ℚ) / 1000)
    have down : (((n : ℚ) / 1000).den : ℚ) ≠ 0 := by
      exact_mod_cast ((n : ℚ) / 1000).den_pos.ne'
    rw [div_eq_div_iff down (by norm_num)] at lowest
    exact_mod_cast lowest
  rw [ofRat?]
  simp only [sign]
  apply ofRatio?_congr _ ((n : ℚ) / 1000).den_pos (by decide)
  have sizes := congrArg Int.natAbs parts
  rwa [Int.natAbs_mul, Int.natAbs_mul, Int.natAbs_natCast] at sizes

section Signed

variable {seconds : Binary64}

/-- With the same sign, values are as far apart as their magnitudes. -/
theorem abs_toRat_sub
    (sign : seconds.negative = decide (n < 0)) :
    |seconds.toRat - (n : ℚ) / 1000| = |seconds.magnitude - (n.natAbs : ℚ) / 1000| := by
  rw [toRat, magnitude_eq, sign]
  by_cases below : n < 0
  · have value : (n : ℚ) = -(n.natAbs : ℚ) := by
      rw [Nat.cast_natAbs, abs_of_neg below, Int.cast_neg, neg_neg]
    rw [if_pos (decide_eq_true below), value, neg_div, neg_sub_neg, abs_sub_comm]
  · have value : (n : ℚ) = (n.natAbs : ℚ) := by
      rw [Nat.cast_natAbs, abs_of_nonneg (not_lt.mp below)]
    rw [if_neg (by simpa using below), value]

/-- The microseconds of the seconds are off by what their fraction is off. -/
theorem abs_microsOfSeconds_sub
    (sign : seconds.negative = decide (n < 0)) (small : n.natAbs < millisAhead)
    (value : seconds.magnitude = rounded n.natAbs 1000) :
    |microsOfSeconds seconds - 1000 * n| =
      |(fractionMicros seconds : ℤ) - (1000 * (n.natAbs % 1000) : ℕ)| := by
  rw [microsOfSeconds, wholePart_seconds small value, sign]
  by_cases below : n < 0
  · simp only [below, decide_true, if_true]
    rw [← abs_neg]
    congr 1
    omega
  · simp only [below, decide_false, Bool.false_eq_true, if_false]
    congr 1
    omega

/-- The microseconds of the seconds are those of the milliseconds exactly when the seconds are at
most half a microsecond off. -/
theorem microsOfSeconds_eq_iff
    (sign : seconds.negative = decide (n < 0)) (small : n.natAbs < millisAhead)
    (value : seconds.magnitude = rounded n.natAbs 1000) :
    microsOfSeconds seconds = 1000 * n ↔
      |seconds.toRat - (n : ℚ) / 1000| ≤ 1 / 2000000 := by
  rw [abs_toRat_sub sign, value, ← fractionMicros_eq_iff small value, ← sub_eq_zero,
    ← abs_eq_zero, abs_microsOfSeconds_sub sign small value, abs_eq_zero, sub_eq_zero,
    Nat.cast_inj]

/-- They are exact up to `2 ^ 33` seconds to either side of 1970 and for eighths of a second. -/
theorem microsOfSeconds_eq
    (sign : seconds.negative = decide (n < 0)) (small : n.natAbs < millisAhead)
    (value : seconds.magnitude = rounded n.natAbs 1000)
    (plain : n.natAbs ≤ 1000 * 2 ^ 33 ∨ 125 ∣ n) :
    microsOfSeconds seconds = 1000 * n := by
  rw [microsOfSeconds_eq_iff sign small value, abs_toRat_sub sign, value]
  by_cases recent : n.natAbs < 1000 * 2 ^ 33
  · rw [abs_sub_comm]
    refine (abs_seconds_sub_le_recent recent).trans ?_
    norm_num
  · have eighths : 125 ∣ n.natAbs := by omega
    rw [rounded_seconds_of_eighths small eighths, sub_self, abs_zero]
    norm_num

end Signed

end Millis

end Epoch

/-! ## Instants -/

theorem Instant.exists_ofMicros?
    {micros : ℤ} (begun : 0 ≤ micros) (ended : micros < microLimit) :
    ∃ t, Instant.ofMicros? micros = some t ∧ (t.micros : ℤ) = micros := by
  have inRange : 0 ≤ micros ∧ micros.toNat < microLimit := ⟨begun, by omega⟩
  exact ⟨⟨micros.toNat, inRange.2⟩, dif_pos inRange, Int.toNat_of_nonneg begun⟩

theorem Instant.eq_iff_micros {t other : Instant} :
    t = other ↔ t.micros = other.micros := by
  rcases t with ⟨micros, inRange⟩
  rcases other with ⟨otherMicros, otherInRange⟩
  exact Instant.mk.injEq .. ▸ Iff.rfl

namespace Cell

open Epoch

theorem instant?_int (n : ℤ) :
    instant? (.int n) =
      ((ofInt? n).bind fun x => x.divNat? 1000).bind fun seconds =>
        Instant.ofMicros? ((Instant.epochMicros : ℤ) + microsOfSeconds seconds) := by
  rw [Option.bind_assoc]
  rfl

/-- The text of an integer is read like the integer, if that has a number. -/
theorem instant?_toString_of_ofInt?
    {n : ℤ} {x : Binary64} (found : ofInt? n = some x) :
    instant? (.text (toString n)) = instant? (.int n) := by
  show instantOfText? (toString n) = (ofInt? n).bind Epoch.instant?
  rw [instantOfText?, Numeral.trimChars_toString, String.ofList_toList]
  simp only [Numeral.finite?_toString, found, Option.bind_some]

/-- The text of a whole number of milliseconds is read like the number. -/
theorem instant?_toString
    {n : ℤ} (few : n.natAbs < 2 ^ 53) :
    instant? (.text (toString n)) = instant? (.int n) := by
  rcases exists_ofInt? few.le with ⟨x, found, -, -⟩
  exact instant?_toString_of_ofInt? found

/-- A whole number of milliseconds from 1970 to an instant is read as an instant, and so is its
text.  It is the same instant exactly when the number of seconds nearest to the milliseconds is at
most half a microsecond off, as it is for `2 ^ 33` seconds to either side of 1970 and for every
eighth of a second; and it is never off by more than fifteen microseconds. -/
theorem epoch_millis_are_read
    {n : ℤ} {meant : Instant}
    (since : (meant.micros : ℤ) = Instant.epochMicros + 1000 * n) :
    (meant.microsecond : ℤ) = 1000 * (n % 1000) ∧
    ∃ (found : Instant) (seconds : Binary64),
      read? .date (.int n) = .ok (some (.instant found)) ∧
      read? .date (.text (toString n)) = .ok (some (.instant found)) ∧
      Binary64.ofRat? ((n : ℚ) / 1000) = some seconds ∧
      (found = meant ↔ |seconds.toRat - (n : ℚ) / 1000| ≤ 1 / 2000000) ∧
      (n.natAbs ≤ 1000 * 2 ^ 33 ∨ 125 ∣ n → found = meant) ∧
      |(found.micros : ℤ) - meant.micros| ≤ 15 := by
  have inRange := meant.inRange
  simp only [microLimit, microsPerDay, Calendar.dayCount] at inRange
  simp only [Instant.epochMicros, microsPerDay] at since
  have small : n.natAbs < millisAhead := by
    rw [millisAhead]
    omega
  have few : n.natAbs < 2 ^ 53 := by
    rw [millisAhead] at small
    omega
  rcases exists_seconds (decide (n < 0)) small with ⟨seconds, rounds, sign, value⟩
  have close : |microsOfSeconds seconds - 1000 * n| ≤ 15 := by
    rw [abs_microsOfSeconds_sub sign small value]
    exact abs_fractionMicros_sub_le small value
  have plain := microsOfSeconds_eq sign small value
  obtain ⟨found, read, micros⟩ : ∃ found,
      Instant.ofMicros? ((Instant.epochMicros : ℤ) + microsOfSeconds seconds) = some found ∧
        (found.micros : ℤ) = Instant.epochMicros + microsOfSeconds seconds := by
    rw [abs_le] at close
    apply Instant.exists_ofMicros? <;>
      simp only [Instant.epochMicros, microLimit, microsPerDay, Calendar.dayCount] <;> omega
  have readInt : instant? (.int n) = some found := by
    rw [instant?_int, bind_divNat?_ofInt? few, rounds, Option.bind_some, read]
  have same : found = meant ↔ microsOfSeconds seconds = 1000 * n := by
    rw [Instant.eq_iff_micros, ← Int.natCast_inj, micros, since]
    exact add_right_inj _
  refine ⟨?field, found, seconds, ?number, ?text, ?nearest, ?exact, ?plain, ?close⟩
  case field =>
    simp only [Instant.microsecond, Instant.timeOfDay, microsPerDay]
    omega
  case number =>
    rw [read?, readInt]
    rfl
  case text =>
    rw [read?, instant?_toString few, readInt]
    rfl
  case nearest =>
    rw [ofRat?_thousandth, rounds]
  case exact =>
    rw [same, microsOfSeconds_eq_iff sign small value]
  case plain =>
    rwa [same]
  case close =>
    rw [micros, since]
    simpa [Instant.epochMicros, microsPerDay] using close

/-- An eighth of a second before the end of the calendar. -/
def lastEighth : Instant :=
  ⟨Instant.epochMicros + 253402300799875000, by decide⟩

theorem epoch_millis_are_read_last_eighth :
    (lastEighth.micros : ℤ) = Instant.epochMicros + 1000 * 253402300799875 ∧
      read? .date (.int 253402300799875) = .ok (some (.instant lastEighth)) ∧
      read? .date (.text "253402300799875") = .ok (some (.instant lastEighth)) := by
  have since : (lastEighth.micros : ℤ) = Instant.epochMicros + 1000 * 253402300799875 := by
    decide
  rcases epoch_millis_are_read since with ⟨-, found, _, number, text, -, -, plain, -⟩
  have same : found = lastEighth := plain (.inr (by decide))
  have digits : toString (253402300799875 : ℤ) = "253402300799875" := rfl
  rw [same] at number
  rw [same, digits] at text
  exact ⟨since, number, text⟩

/-- The first whole number of milliseconds after 1970 that is not read as the instant that it means:
a microsecond is missing. -/
theorem epoch_millis_lose_a_microsecond :
    ∃ found meant : Instant,
      (meant.micros : ℤ) = Instant.epochMicros + 1000 * 8589934592001 ∧
      found.micros + 1 = meant.micros ∧
      read? .date (.int 8589934592001) = .ok (some (.instant found)) ∧
      read? .date (.text "8589934592001") = .ok (some (.instant found)) := by
  refine ⟨⟨Instant.epochMicros + 8589934592000999, by decide⟩,
    ⟨Instant.epochMicros + 8589934592001000, by decide⟩, by decide, by decide, ?_, ?_⟩
  · decide +kernel
  · decide +kernel

end Cell

end TableSource
