import Mathlib.Tactic.Linarith
import Mathlib.Tactic.Positivity
import TableSource.Number.Decimal
import TableSource.Proofs.Number.Rounding

/-!
# How far rounding moves a value

A quotient is rounded to a multiple of its last place, and by half a unit of that place at most.
Whether the multiple is a number, and whether it is zero, is decided by the quotient alone: values
from half a place below the largest power of two are too large, and values up to half of the least
number vanish.  A quotient that is a multiple of its last place already is not moved at all.
-/

namespace TableSource.Binary64

/-! ## The nearest integer -/

/-- The nearest integer is less than half a unit away, or half a unit away and even. -/
theorem nearest_spec
    (num : ℕ) {den : ℕ} (positive : 0 < den) :
    |(num : ℚ) / den - nearest num den| < 1 / 2 ∨
      |(num : ℚ) / den - nearest num den| = 1 / 2 ∧ nearest num den % 2 = 0 := by
  have down : (0 : ℚ) < den := by
    exact_mod_cast positive
  have split : (num : ℚ) / den = (num / den : ℕ) + (num % den : ℕ) / den := by
    rw [eq_comm, ← mul_left_inj' down.ne', add_mul, div_mul_cancel₀ _ down.ne',
      div_mul_cancel₀ _ down.ne']
    exact_mod_cast Nat.div_add_mod' num den
  have least : (0 : ℚ) ≤ (num % den : ℕ) / den := by
    positivity
  have most : ((num % den : ℕ) : ℚ) / den < 1 := by
    rw [div_lt_one down]
    exact_mod_cast Nat.mod_lt num positive
  rw [nearest]
  split_ifs with below above
  · left
    have small : ((num % den : ℕ) : ℚ) / den < 1 / 2 := by
      rw [div_lt_div_iff₀ down two_pos]
      exact_mod_cast (by omega : num % den * 2 < 1 * den)
    rw [split, add_sub_cancel_left, abs_of_nonneg least]
    exact small
  · left
    have large : 1 / 2 < ((num % den : ℕ) : ℚ) / den := by
      rw [div_lt_div_iff₀ two_pos down]
      exact_mod_cast (by omega : 1 * den < num % den * 2)
    rw [split, Nat.cast_add, add_sub_add_left_eq_sub, Nat.cast_one, abs_lt]
    constructor <;> linarith
  · right
    have half : ((num % den : ℕ) : ℚ) / den = 1 / 2 := by
      rw [div_eq_div_iff down.ne' two_ne_zero]
      exact_mod_cast (by omega : num % den * 2 = 1 * den)
    rw [split, half]
    rcases Nat.mod_two_eq_zero_or_one (num / den) with even | odd
    · refine ⟨?_, by omega⟩
      rw [even, Nat.add_zero, add_sub_cancel_left]
      exact abs_of_pos one_half_pos
    · refine ⟨?_, by omega⟩
      rw [odd, Nat.cast_add, add_sub_add_left_eq_sub, Nat.cast_one]
      norm_num

theorem abs_sub_nearest_le
    (num : ℕ) {den : ℕ} (positive : 0 < den) :
    |(num : ℚ) / den - nearest num den| ≤ 1 / 2 := by
  rcases nearest_spec num positive with less | ⟨half, -⟩
  · exact less.le
  · exact half.le

/-- Two integers that near a value, one of them within less than half a unit, are the same. -/
theorem eq_of_near
    {value : ℚ} {whole other : ℕ}
    (near : |value - whole| < 1 / 2) (alsoNear : |value - other| ≤ 1 / 2) :
    whole = other := by
  rw [abs_lt] at near
  rw [abs_le] at alsoNear
  have upper : (whole : ℚ) < other + 1 := by linarith
  have lower : (other : ℚ) < whole + 1 := by linarith
  apply Nat.le_antisymm
  · exact Nat.lt_succ_iff.mp (by exact_mod_cast upper)
  · exact Nat.lt_succ_iff.mp (by exact_mod_cast lower)

theorem nearest_eq_of_lt
    {num den whole : ℕ} (positive : 0 < den)
    (near : |(num : ℚ) / den - whole| < 1 / 2) :
    nearest num den = whole :=
  (eq_of_near near (abs_sub_nearest_le num positive)).symm

/-- An even integer is the nearest one exactly when it is at most half a unit away. -/
theorem nearest_eq_iff_of_even
    {num den whole : ℕ} (positive : 0 < den) (even : whole % 2 = 0) :
    nearest num den = whole ↔ |(num : ℚ) / den - whole| ≤ 1 / 2 := by
  constructor
  · rintro rfl
    exact abs_sub_nearest_le num positive
  · intro near
    rcases nearest_spec num positive with less | ⟨half, alsoEven⟩
    · exact eq_of_near less near
    · rw [abs_le] at near
      have far := abs_le.mp half.le
      have upper : (nearest num den : ℚ) ≤ whole + 1 := by linarith
      have lower : (whole : ℚ) ≤ nearest num den + 1 := by linarith
      have next : nearest num den ≤ whole + 1 := by exact_mod_cast upper
      have previous : whole ≤ nearest num den + 1 := by exact_mod_cast lower
      -- neighbours are not both even
      omega

/-! ## The last place -/

/-- The mantissa of the number nearest to a quotient, which is one too large where rounding carries
into the next power of two. -/
def carriedMantissa (num den : ℕ) : ℕ :=
  nearest (num * Nat.pow 2 (-lastPlace num den).toNat) (den * Nat.pow 2 (lastPlace num den).toNat)

/-- The value that a quotient is rounded to, where numbers may be of any size. -/
def rounded (num den : ℕ) : ℚ :=
  carriedMantissa num den * (2 : ℚ) ^ lastPlace num den

theorem rounded_zero (den : ℕ) :
    rounded 0 den = 0 := by
  have none : carriedMantissa 0 den = 0 := by
    rw [carriedMantissa, Nat.zero_mul]
    simp [nearest]
  rw [rounded, none, Nat.cast_zero, zero_mul]

theorem two_zpow_pos (exponent : ℤ) :
    (0 : ℚ) < 2 ^ exponent :=
  zpow_pos two_pos exponent

theorem scaled_eq (num den : ℕ) (exponent : ℤ) :
    ((num * Nat.pow 2 (-exponent).toNat : ℕ) : ℚ) / ((den * Nat.pow 2 exponent.toNat : ℕ) : ℚ) =
      (num : ℚ) / den / 2 ^ exponent := by
  have power := zpow_eq_div 2 two_pos exponent
  push_cast at power
  rw [power, div_div_div_eq]
  norm_cast

section LastPlace

variable {num den : ℕ}

theorem least_le_lastPlace (num den : ℕ) :
    -1074 ≤ lastPlace num den :=
  le_max_right _ _

theorem lt_zpow_lastPlace
    (numPositive : 0 < num) (positive : 0 < den) :
    (num : ℚ) / den < 2 ^ (lastPlace num den + 53) := by
  have below := Int.lt_zpow_succ_log_self (b := 2) one_lt_two ((num : ℚ) / den)
  rw [← leadingBit_eq_log numPositive positive] at below
  apply below.trans_le
  apply zpow_le_zpow_right₀ one_le_two
  have reached : leadingBit num den - 52 ≤ lastPlace num den := le_max_left _ _
  omega

theorem zpow_lastPlace_le
    (numPositive : 0 < num) (positive : 0 < den) (above : lastPlace num den ≠ -1074) :
    (2 : ℚ) ^ (lastPlace num den + 52) ≤ (num : ℚ) / den := by
  have quotient : (0 : ℚ) < (num : ℚ) / den := by
    positivity
  have reached := Int.zpow_log_le_self (b := 2) one_lt_two quotient
  rw [← leadingBit_eq_log numPositive positive] at reached
  have place : lastPlace num den + 52 = leadingBit num den := by
    simp only [lastPlace] at above ⊢
    omega
  rw [place]
  exact reached

theorem scaled_pos
    (positive : 0 < den) (exponent : ℤ) :
    0 < den * Nat.pow 2 exponent.toNat :=
  Nat.mul_pos positive (Nat.pow_pos two_pos)

theorem abs_sub_carriedMantissa_le
    (num : ℕ) (positive : 0 < den) :
    |(num : ℚ) / den / 2 ^ lastPlace num den - carriedMantissa num den| ≤ 1 / 2 := by
  rw [← scaled_eq]
  exact abs_sub_nearest_le _ (scaled_pos positive _)

theorem carriedMantissa_eq_of_lt
    {whole : ℕ} (positive : 0 < den)
    (near : |(num : ℚ) / den / 2 ^ lastPlace num den - whole| < 1 / 2) :
    carriedMantissa num den = whole := by
  rw [← scaled_eq] at near
  exact nearest_eq_of_lt (scaled_pos positive _) near

theorem carriedMantissa_eq_iff_of_even
    {whole : ℕ} (positive : 0 < den) (even : whole % 2 = 0) :
    carriedMantissa num den = whole ↔
      |(num : ℚ) / den / 2 ^ lastPlace num den - whole| ≤ 1 / 2 := by
  rw [← scaled_eq]
  exact nearest_eq_iff_of_even (scaled_pos positive _) even

/-- A quotient is rounded by half a unit of its last place at most. -/
theorem abs_sub_rounded_le
    (num : ℕ) (positive : 0 < den) :
    |(num : ℚ) / den - rounded num den| ≤ 2 ^ lastPlace num den / 2 := by
  have power := two_zpow_pos (lastPlace num den)
  have near := abs_sub_carriedMantissa_le num positive
  calc |(num : ℚ) / den - rounded num den|
      = |((num : ℚ) / den / 2 ^ lastPlace num den - carriedMantissa num den) *
          2 ^ lastPlace num den| := by
        rw [sub_mul, div_mul_cancel₀ _ power.ne', rounded]
    _ = |(num : ℚ) / den / 2 ^ lastPlace num den - carriedMantissa num den| *
          2 ^ lastPlace num den := by
        rw [abs_mul, abs_of_pos power]
    _ ≤ 1 / 2 * 2 ^ lastPlace num den := mul_le_mul_of_nonneg_right near power.le
    _ = 2 ^ lastPlace num den / 2 := by
        ring

theorem carriedMantissa_le
    (numPositive : 0 < num) (positive : 0 < den) :
    carriedMantissa num den ≤ 2 ^ 53 := by
  have power := two_zpow_pos (lastPlace num den)
  have near := abs_le.mp (abs_sub_carriedMantissa_le num positive)
  have below : (num : ℚ) / den / 2 ^ lastPlace num den < 2 ^ 53 := by
    rw [div_lt_iff₀ power, ← zpow_natCast, ← zpow_add₀ two_ne_zero, add_comm]
    exact lt_zpow_lastPlace numPositive positive
  have bound : (carriedMantissa num den : ℚ) < 2 ^ 53 + 1 := by linarith
  exact Nat.lt_succ_iff.mp (by exact_mod_cast bound)

theorem le_carriedMantissa
    (numPositive : 0 < num) (positive : 0 < den) (above : lastPlace num den ≠ -1074) :
    2 ^ 52 ≤ carriedMantissa num den := by
  have power := two_zpow_pos (lastPlace num den)
  have near := abs_le.mp (abs_sub_carriedMantissa_le num positive)
  have reached : (2 : ℚ) ^ 52 ≤ (num : ℚ) / den / 2 ^ lastPlace num den := by
    rw [le_div_iff₀ power, ← zpow_natCast, ← zpow_add₀ two_ne_zero, add_comm]
    exact zpow_lastPlace_le numPositive positive above
  have bound : (2 : ℚ) ^ 52 < carriedMantissa num den + 1 := by linarith
  exact Nat.lt_succ_iff.mp (by exact_mod_cast bound)

end LastPlace

/-! ## Numbers and values that are too large -/

/-- The exact magnitude of a number. -/
def magnitude (x : Binary64) : ℚ :=
  x.mantissa * (2 : ℚ) ^ x.exponent

theorem magnitude_lt (x : Binary64) :
    x.magnitude < 2 ^ (1024 : ℤ) := by
  rcases x.normal with ⟨few, -, most, -⟩
  have mantissa : (x.mantissa : ℚ) < 2 ^ (53 : ℤ) := by
    exact_mod_cast few
  calc x.magnitude < 2 ^ (53 : ℤ) * 2 ^ x.exponent :=
        mul_lt_mul_of_pos_right mantissa (two_zpow_pos _)
    _ ≤ 2 ^ (53 : ℤ) * 2 ^ (971 : ℤ) :=
        mul_le_mul_of_nonneg_left (zpow_le_zpow_right₀ one_le_two most) (two_zpow_pos _).le
    _ = 2 ^ (1024 : ℤ) := by
        rw [← zpow_add₀ two_ne_zero]
        rfl

theorem ofRatio?_of_pos
    (negative : Bool) {num : ℕ} (numPositive : 0 < num) (den : ℕ) :
    ofRatio? negative num den =
      if carriedMantissa num den = Nat.pow 2 53 then
        ofFields? negative (Nat.pow 2 52) (lastPlace num den + 1)
      else ofFields? negative (carriedMantissa num den) (lastPlace num den) := by
  rw [ofRatio?, if_neg numPositive.ne']
  rfl

/-- Fields of full length are those of a number, unless their value is too large. -/
theorem ofFields?_spec
    (negative : Bool) {mantissa : ℕ} {exponent : ℤ}
    (few : mantissa < 2 ^ 53) (least : -1074 ≤ exponent)
    (full : 2 ^ 52 ≤ mantissa ∨ exponent = -1074) :
    (∃ x, ofFields? negative mantissa exponent = some x ∧ x.negative = negative ∧
      x.magnitude = mantissa * 2 ^ exponent) ∨
    (ofFields? negative mantissa exponent = none ∧
      2 ^ (1024 : ℤ) ≤ (mantissa : ℚ) * 2 ^ exponent) := by
  rw [ofFields?]
  split_ifs with normal
  · exact .inl ⟨_, rfl, rfl, rfl⟩
  · right
    refine ⟨rfl, ?_⟩
    have large : 972 ≤ exponent := by
      by_contra small
      exact normal ⟨few, least, by omega, full⟩
    have long : (2 : ℚ) ^ (52 : ℤ) ≤ mantissa := by
      have long := full.resolve_right (by omega)
      exact_mod_cast long
    calc (2 : ℚ) ^ (1024 : ℤ) = 2 ^ (52 : ℤ) * 2 ^ (972 : ℤ) := by
          rw [← zpow_add₀ two_ne_zero]
          rfl
      _ ≤ 2 ^ (52 : ℤ) * 2 ^ exponent :=
          mul_le_mul_of_nonneg_left (zpow_le_zpow_right₀ one_le_two large) (two_zpow_pos _).le
      _ ≤ mantissa * 2 ^ exponent := mul_le_mul_of_nonneg_right long (two_zpow_pos _).le

/-- A quotient is rounded to a number, unless the value that it is rounded to is too large. -/
theorem ofRatio?_spec
    (negative : Bool) (num : ℕ) {den : ℕ} (positive : 0 < den) :
    (∃ x, ofRatio? negative num den = some x ∧ x.negative = negative ∧
      x.magnitude = rounded num den) ∨
    (ofRatio? negative num den = none ∧ 2 ^ (1024 : ℤ) ≤ rounded num den) := by
  rcases Nat.eq_zero_or_pos num with rfl | numPositive
  · left
    refine ⟨signedZero negative, rfl, rfl, ?_⟩
    rw [rounded_zero, magnitude, signedZero, Nat.cast_zero, zero_mul]
  · have least := least_le_lastPlace num den
    have most := carriedMantissa_le numPositive positive
    rw [ofRatio?_of_pos negative numPositive]
    split_ifs with carried
    · have value : rounded num den = ((Nat.pow 2 52 : ℕ) : ℚ) * 2 ^ (lastPlace num den + 1) := by
        rw [rounded, carried, zpow_add₀ two_ne_zero]
        norm_num
        ring
      rw [value]
      exact ofFields?_spec negative (by decide) (by omega) (.inl le_rfl)
    · have full : 2 ^ 52 ≤ carriedMantissa num den ∨ lastPlace num den = -1074 := by
        rw [or_iff_not_imp_right]
        exact le_carriedMantissa numPositive positive
      exact ofFields?_spec negative (most.lt_of_ne carried) least full

theorem ofRatio?_eq_none_iff
    {negative : Bool} {num den : ℕ} (positive : 0 < den) :
    ofRatio? negative num den = none ↔ 2 ^ (1024 : ℤ) ≤ rounded num den := by
  rcases ofRatio?_spec negative num positive with ⟨x, found, -, value⟩ | ⟨absent, large⟩
  · rw [found, ← value]
    exact iff_of_false (Option.some_ne_none x) x.magnitude_lt.not_ge
  · exact iff_of_true absent large

section Bounds

variable {num den : ℕ}

/-- A last place is known from a power of two that is not reached. -/
theorem lastPlace_le
    (numPositive : 0 < num) (positive : 0 < den) {exponent : ℤ} (least : -1074 ≤ exponent)
    (below : (num : ℚ) / den < 2 ^ (exponent + 53)) :
    lastPlace num den ≤ exponent := by
  by_cases lowest : lastPlace num den = -1074
  · exact lowest.le.trans least
  · have reached := zpow_lastPlace_le numPositive positive lowest
    have less := (zpow_lt_zpow_iff_right₀ one_lt_two).mp (reached.trans_lt below)
    omega

theorem le_lastPlace
    (numPositive : 0 < num) (positive : 0 < den) {exponent : ℤ}
    (reached : 2 ^ (exponent + 52) ≤ (num : ℚ) / den) :
    exponent ≤ lastPlace num den := by
  have below := lt_zpow_lastPlace numPositive positive
  have less := (zpow_lt_zpow_iff_right₀ one_lt_two).mp (reached.trans_lt below)
  omega

/-- Below a power of two, rounding moves a quotient by no more than the place of the power
allows. -/
theorem abs_sub_rounded_le_of_lt
    (positive : 0 < den) {exponent : ℤ} (least : -1074 ≤ exponent)
    (below : (num : ℚ) / den < 2 ^ (exponent + 53)) :
    |(num : ℚ) / den - rounded num den| ≤ 2 ^ exponent / 2 := by
  rcases Nat.eq_zero_or_pos num with rfl | numPositive
  · rw [rounded_zero, Nat.cast_zero, zero_div, sub_zero, abs_zero]
    exact (half_pos (two_zpow_pos exponent)).le
  · refine (abs_sub_rounded_le num positive).trans ?_
    have place := lastPlace_le numPositive positive least below
    gcongr
    exact one_le_two

/-- Half a place below the power of two that no number reaches, values become too large. -/
theorem le_rounded_iff
    (numPositive : 0 < num) (positive : 0 < den) :
    2 ^ (1024 : ℤ) ≤ rounded num den ↔
      (2 : ℚ) ^ (1024 : ℤ) - 2 ^ (970 : ℤ) ≤ (num : ℚ) / den := by
  have half : (2 : ℚ) ^ (971 : ℤ) / 2 = 2 ^ (970 : ℤ) := by
    rw [div_eq_iff two_ne_zero, ← zpow_add_one₀ two_ne_zero]
    rfl
  have top : (2 : ℚ) ^ (1024 : ℤ) = 2 ^ (53 : ℤ) * 2 ^ (971 : ℤ) := by
    rw [← zpow_add₀ two_ne_zero]
    rfl
  constructor
  · intro large
    by_contra! below
    have place : lastPlace num den ≤ 971 :=
      lastPlace_le numPositive positive (by decide)
        (below.trans (sub_lt_self _ (two_zpow_pos 970)))
    have near := (abs_le.mp (abs_sub_rounded_le num positive)).1
    apply large.not_gt
    calc rounded num den ≤ (num : ℚ) / den + 2 ^ lastPlace num den / 2 := by
          linarith
      _ ≤ (num : ℚ) / den + 2 ^ (971 : ℤ) / 2 := by
          gcongr
          exact one_le_two
      _ = (num : ℚ) / den + 2 ^ (970 : ℤ) := by
          rw [half]
      _ < 2 ^ (1024 : ℤ) := lt_sub_iff_add_lt.mp below
  · intro reached
    have place : 971 ≤ lastPlace num den := by
      apply le_lastPlace numPositive positive
      apply le_trans _ reached
      rw [le_sub_iff_add_le]
      calc (2 : ℚ) ^ ((971 : ℤ) + 52) + 2 ^ (970 : ℤ)
          ≤ 2 ^ ((971 : ℤ) + 52) + 2 ^ ((971 : ℤ) + 52) := by
            apply add_le_add le_rfl
            exact zpow_le_zpow_right₀ one_le_two (by decide)
        _ = 2 ^ (1024 : ℤ) := by
            rw [← two_mul, ← zpow_one_add₀ two_ne_zero]
            rfl
    have whole : ((2 ^ 53 : ℕ) : ℚ) = 2 ^ (53 : ℤ) := by
      norm_cast
    by_cases exact : lastPlace num den = 971
    · have below := lt_zpow_lastPlace numPositive positive
      have above : (2 : ℚ) ^ (53 : ℤ) - 1 / 2 ≤ (num : ℚ) / den / 2 ^ (971 : ℤ) := by
        rw [le_div_iff₀ (two_zpow_pos 971), sub_mul, ← top, one_div_mul_eq_div, half]
        exact reached
      have less : (num : ℚ) / den / 2 ^ (971 : ℤ) < 2 ^ (53 : ℤ) := by
        rw [div_lt_iff₀ (two_zpow_pos 971), ← zpow_add₀ two_ne_zero, add_comm, ← exact]
        exact below
      have full : carriedMantissa num den = 2 ^ 53 := by
        rw [carriedMantissa_eq_iff_of_even positive (by decide), exact, whole, abs_le]
        constructor <;> linarith
      rw [rounded, full, exact, top, whole]
    · have long := le_carriedMantissa numPositive positive (by omega)
      calc (2 : ℚ) ^ (1024 : ℤ) = 2 ^ (52 : ℤ) * 2 ^ (972 : ℤ) := by
            rw [← zpow_add₀ two_ne_zero]
            rfl
        _ ≤ carriedMantissa num den * 2 ^ lastPlace num den := by
            apply mul_le_mul
            · exact_mod_cast long
            · exact zpow_le_zpow_right₀ one_le_two (by omega)
            · exact (two_zpow_pos _).le
            · exact Nat.cast_nonneg _

/-- Up to half of the least number, values vanish. -/
theorem rounded_eq_zero_iff
    (numPositive : 0 < num) (positive : 0 < den) :
    rounded num den = 0 ↔ (num : ℚ) / den ≤ 2 ^ (-1075 : ℤ) := by
  have half : (2 : ℚ) ^ (-1075 : ℤ) = 1 / 2 * 2 ^ (-1074 : ℤ) := by
    rw [one_div, ← zpow_neg_one, ← zpow_add₀ two_ne_zero]
    rfl
  have vanishes : rounded num den = 0 ↔ carriedMantissa num den = 0 := by
    rw [rounded, mul_eq_zero_iff_right (two_zpow_pos _).ne', Nat.cast_eq_zero]
  have quotient : (0 : ℚ) ≤ (num : ℚ) / den := by
    positivity
  rw [vanishes, carriedMantissa_eq_iff_of_even positive rfl, Nat.cast_zero, sub_zero,
    abs_of_nonneg (div_nonneg quotient (two_zpow_pos _).le), div_le_iff₀ (two_zpow_pos _), half]
  by_cases lowest : lastPlace num den = -1074
  · rw [lowest]
  · -- above the lowest place the mantissa is long, and the quotient is far above the bound
    have least := least_le_lastPlace num den
    have reached := zpow_lastPlace_le numPositive positive lowest
    apply iff_of_false
    · apply not_le_of_gt
      apply lt_of_lt_of_le _ reached
      rw [zpow_add₀ two_ne_zero, mul_comm]
      exact mul_lt_mul_of_pos_left (by norm_num) (two_zpow_pos _)
    · apply not_le_of_gt
      apply lt_of_lt_of_le _ reached
      rw [← half]
      exact zpow_lt_zpow_right₀ one_lt_two (by omega)

/-- A value with few enough bits is not moved by rounding. -/
theorem rounded_eq_of_bits
    {mantissa : ℕ} {exponent : ℤ}
    (positive : 0 < den) (few : mantissa < 2 ^ 53) (least : -1074 ≤ exponent)
    (value : (num : ℚ) / den = mantissa * 2 ^ exponent) :
    rounded num den = (num : ℚ) / den := by
  rcases Nat.eq_zero_or_pos num with rfl | numPositive
  · rw [rounded_zero, Nat.cast_zero, zero_div]
  · have place : lastPlace num den ≤ exponent := by
      apply lastPlace_le numPositive positive least
      rw [value, add_comm, zpow_add₀ two_ne_zero]
      apply mul_lt_mul_of_pos_right _ (two_zpow_pos _)
      exact_mod_cast few
    have shift : (2 : ℚ) ^ exponent =
        ((2 ^ (exponent - lastPlace num den).toNat : ℕ) : ℚ) * 2 ^ lastPlace num den := by
      rw [Nat.cast_pow, Nat.cast_ofNat, ← zpow_natCast, ← zpow_add₀ two_ne_zero]
      congr 1
      omega
    have multiple : (num : ℚ) / den =
        ((mantissa * 2 ^ (exponent - lastPlace num den).toNat : ℕ) : ℚ) *
          2 ^ lastPlace num den := by
      rw [value, shift, Nat.cast_mul, mul_assoc]
    have exact : carriedMantissa num den = mantissa * 2 ^ (exponent - lastPlace num den).toNat := by
      apply carriedMantissa_eq_of_lt positive
      rw [multiple, mul_div_cancel_right₀ _ (two_zpow_pos _).ne', sub_self, abs_zero]
      exact one_half_pos
    rw [rounded, exact, ← multiple]

end Bounds

/-- Decimals above the bound for them are too large as quotients too. -/
theorem le_of_decimalLength
    {coefficient : ℕ} {scale : ℤ} (nonzero : coefficient ≠ 0)
    (long : 311 < (decimalLength coefficient : ℤ) + scale) :
    2 ^ (1024 : ℤ) ≤ (coefficient : ℚ) * 10 ^ scale := by
  have size := decimalLength_add nonzero scale
  have positive : (0 : ℚ) < (coefficient : ℚ) * 10 ^ scale := by
    have some : (0 : ℚ) < coefficient := by
      exact_mod_cast Nat.pos_of_ne_zero nonzero
    positivity
  have reached : ((10 : ℕ) : ℚ) ^ (311 : ℤ) ≤ (coefficient : ℚ) * 10 ^ scale :=
    (Int.zpow_le_iff_le_log (by decide) positive).mpr (by omega)
  have powers : 2 ^ 1024 ≤ 10 ^ 311 := by decide +kernel
  refine le_trans ?_ reached
  exact_mod_cast powers

/-- An integer is rounded like the decimal that it is. -/
theorem ofScaled?_whole (negative : Bool) (coefficient : ℕ) :
    ofScaled? negative coefficient 0 = ofRatio? negative coefficient 1 := by
  by_cases zero : coefficient = 0
  · rw [zero]
    rfl
  · rw [ofScaled?, if_neg zero]
    dsimp only
    split_ifs with long short
    · have large := le_of_decimalLength zero long
      rw [zpow_zero, mul_one, ← div_one (coefficient : ℚ), ← Nat.cast_one] at large
      rw [eq_comm, ofRatio?_eq_none_iff one_pos, le_rounded_iff (Nat.pos_of_ne_zero zero) one_pos]
      exact (sub_lt_self _ (two_zpow_pos 970)).le.trans large
    · omega
    · have unscaled : coefficient * Nat.pow 10 (0 : ℤ).toNat = coefficient := Nat.mul_one _
      rw [unscaled]
      rfl

/-! ## Numbers other than zero -/

theorem isZero_iff (x : Binary64) :
    x.isZero = true ↔ x.magnitude = 0 := by
  rw [isZero, beq_iff_eq, magnitude, mul_eq_zero_iff_right (two_zpow_pos _).ne', Nat.cast_eq_zero]

/-- Whether a result of rounding is a number other than zero. -/
def isNonzero (found : Option Binary64) : Bool :=
  found.any fun x => !x.isZero

/-- The magnitudes that are rounded to numbers other than zero. -/
def Kept (value : ℚ) : Prop :=
  2 ^ (-1075 : ℤ) < value ∧ value < 2 ^ (1024 : ℤ) - 2 ^ (970 : ℤ)

theorem not_kept_of_le
    {value : ℚ} (small : value ≤ 2 ^ (-1075 : ℤ)) :
    ¬ Kept value :=
  fun kept => small.not_gt kept.1

theorem not_kept_of_ge
    {value : ℚ} (large : 2 ^ (1024 : ℤ) ≤ value) :
    ¬ Kept value := by
  intro kept
  exact (large.trans_lt (kept.2.trans (sub_lt_self _ (two_zpow_pos 970)))).false

/-- A quotient is rounded to a number other than zero exactly when it is neither too small nor too
large. -/
theorem isNonzero_ofRatio?
    (negative : Bool) (num : ℕ) {den : ℕ} (positive : 0 < den) :
    isNonzero (ofRatio? negative num den) = true ↔ Kept ((num : ℚ) / den) := by
  rcases Nat.eq_zero_or_pos num with rfl | numPositive
  · apply iff_of_false
    · simp [ofRatio?, isNonzero, isZero, signedZero]
    · rw [Nat.cast_zero, zero_div]
      exact not_kept_of_le (two_zpow_pos _).le
  · rw [Kept, ← not_le, ← rounded_eq_zero_iff numPositive positive, ← not_le,
      ← le_rounded_iff numPositive positive]
    rcases ofRatio?_spec negative num positive with ⟨x, found, -, value⟩ | ⟨absent, large⟩
    · have fits := x.magnitude_lt.not_ge
      rw [value] at fits
      simp only [found, isNonzero, Option.any_some, Bool.not_eq_true', Bool.eq_false_iff, ne_eq,
        isZero_iff, value, fits, not_false_eq_true, and_true]
    · simp only [absent, isNonzero, Option.any_none, large, not_true_eq_false, and_false,
        Bool.false_eq_true]

/-- The same holds of decimals: the two shortcuts for extreme ones decide nothing else. -/
theorem isNonzero_ofScaled?
    (negative : Bool) (coefficient : ℕ) (scale : ℤ) :
    isNonzero (ofScaled? negative coefficient scale) = true ↔
      Kept ((coefficient : ℚ) * 10 ^ scale) := by
  by_cases zero : coefficient = 0
  · apply iff_of_false
    · simp [ofScaled?, zero, isNonzero, isZero, signedZero]
    · rw [zero, Nat.cast_zero, zero_mul]
      exact not_kept_of_le (two_zpow_pos _).le
  · have size := decimalLength_add zero scale
    have positive : (0 : ℚ) < (coefficient : ℚ) * 10 ^ scale := by
      have some : (0 : ℚ) < coefficient := by
        exact_mod_cast Nat.pos_of_ne_zero zero
      positivity
    rw [ofScaled?, if_neg zero]
    dsimp only
    split_ifs with long short
    · apply iff_of_false
      · simp [isNonzero]
      · exact not_kept_of_ge (le_of_decimalLength zero long)
    · apply iff_of_false
      · simp [isNonzero, isZero, signedZero]
      · apply not_kept_of_le
        have below : (coefficient : ℚ) * 10 ^ scale < ((10 : ℕ) : ℚ) ^ (-327 : ℤ) :=
          (Int.lt_zpow_iff_log_lt (by decide) positive).mpr (by omega)
        have powers : 2 ^ 1075 ≤ 10 ^ 327 := by decide +kernel
        refine below.le.trans ?_
        rw [zpow_neg, zpow_neg]
        apply inv_anti₀ (two_zpow_pos 1075)
        exact_mod_cast powers
    · have quotient : ((coefficient * Nat.pow 10 scale.toNat : ℕ) : ℚ) /
          (Nat.pow 10 (-scale).toNat : ℕ) = coefficient * 10 ^ scale := by
        have power := zpow_eq_div 10 (by decide) scale
        push_cast at power
        rw [power, ← mul_div_assoc]
        norm_cast
      rw [← quotient]
      exact isNonzero_ofRatio? negative _ (Nat.pow_pos (by decide))

end TableSource.Binary64
