import TableSource.Proofs.Filter.FixedPoint
import TableSource.Proofs.Number.Precision

/-!
# The truth of numbers

A number is true when it is not zero, and this is decided on the binary64 number nearest to it.  So
an integer or a decimal other than zero is false in two cases, and in no others: its magnitude is
too large for a binary64 number, or so small that it is rounded to zero.  Integers know the first
case only.  Whether a value is read, coerced or compared with in a filter makes no difference.
-/

namespace TableSource

namespace Binary64

instance (value : ℚ) : Decidable (Kept value) :=
  inferInstanceAs (Decidable (_ ∧ _))

/-- Integers other than zero are not too small. -/
theorem kept_natCast_iff (size : ℕ) :
    Kept (size : ℚ) ↔ size ≠ 0 ∧ size < 2 ^ 1024 - 2 ^ 970 := by
  have bound : ((2 ^ 1024 - 2 ^ 970 : ℕ) : ℚ) = 2 ^ (1024 : ℤ) - 2 ^ (970 : ℤ) := by
    have shorter : 970 ≤ 1024 := by decide
    rw [Nat.cast_sub (pow_le_pow_right₀ one_le_two shorter), Nat.cast_pow, Nat.cast_pow,
      Nat.cast_ofNat, zpow_ofNat, zpow_ofNat]
  have least : (2 : ℚ) ^ (-1075 : ℤ) < 1 := zpow_lt_one_of_neg₀ one_lt_two (by decide)
  rw [Kept, ← bound, Nat.cast_lt]
  apply and_congr_left'
  constructor
  · rintro above rfl
    exact (above.trans (two_zpow_pos _)).ne rfl
  · intro nonzero
    apply least.trans_le
    exact_mod_cast Nat.one_le_iff_ne_zero.mpr nonzero

end Binary64

namespace Cell

open Binary64

/-! ## The number that decides -/

theorem truthOfNumber_eq (value : Raw) :
    truthOfNumber value = isNonzero (number? value) := by
  rw [truthOfNumber, isNonzero]
  cases number? value <;> rfl

theorem truthOfNumber_int (n : Int) :
    truthOfNumber (.int n) = decide (n ≠ 0 ∧ n.natAbs < 2 ^ 1024 - 2 ^ 970) := by
  have kept := isNonzero_ofRatio? (decide (n < 0)) n.natAbs one_pos
  rw [Nat.cast_one, div_one, kept_natCast_iff, Int.natAbs_ne_zero] at kept
  rw [truthOfNumber_eq, Bool.eq_iff_iff, decide_eq_true_iff]
  exact kept

theorem truthOfNumber_decimal (negative : Bool) (coefficient : Nat) (exponent : Int) :
    truthOfNumber (.decimal (.finite negative coefficient exponent)) =
      decide (coefficient ≠ 0 ∧ Kept ((coefficient : ℚ) * 10 ^ exponent)) := by
  have nonzero (kept : Kept ((coefficient : ℚ) * 10 ^ exponent)) : coefficient ≠ 0 := by
    rintro rfl
    rw [Nat.cast_zero, zero_mul] at kept
    exact not_kept_of_le (two_zpow_pos _).le kept
  rw [truthOfNumber_eq, Bool.eq_iff_iff, decide_eq_true_iff, and_iff_right_of_imp nonzero]
  exact isNonzero_ofScaled? negative coefficient exponent

/-! ## All ways to ask -/

/-- A value is read, coerced and compared with as one truth value: in a filter, in every leaf that
asks whether a feature that holds truth values is equal to it. -/
structure StandsForTruth (value : Raw) (truth : Bool) : Prop where
  read : read? .logic value = .ok (some (.truth truth))
  coerced : coerce .logic value = .ok (.truth truth)
  compared : ∀ (schema : Schema) (entries : List (Raw × Raw)) (depth index : Int)
    (feature : Feature), schema.get? index = some feature → feature.type = .logic →
    Raw.valueUnder entries "feature" = .int index →
    Raw.valueUnder entries "op" = .text Filter.Comparison.equal.word →
    Raw.valueUnder entries "value" = value →
    Filter.accept schema (.mapping entries) depth =
      .ok (some (.leaf index (.compare .equal (.truth truth))))

theorem standsForTruth_of_truth?
    {value : Raw} {truth : Bool}
    (read : truth? value = some truth) :
    StandsForTruth value truth := by
  have readCell : read? .logic value = .ok (some (.truth truth)) := by
    rw [read?, read]
    rfl
  refine ⟨readCell, ?coerced, ?compared⟩
  case coerced =>
    rw [coerce, readCell]
    rfl
  case compared =>
    intro schema entries depth index feature found logical named asked held
    have noConnective : Filter.connectiveOf? (Raw.valueUnder entries "op") = none := by
      rw [asked]
      exact Filter.connectiveOf?_word (.compare .equal)
    rw [Filter.accept, Filter.acceptWithin_leaf schema _ entries noConnective]
    have allowed : feature.type.allows (.compare .equal) = true := by
      rw [logical]
      rfl
    apply Filter.acceptLeaf_of_named found allowed named asked
    rw [held, logical, Filter.readTest, Filter.readScalar, readCell]
    rfl

/-- Integers of any size and decimals are true exactly when they are other than zero, except those
too large or too small for a binary64 number, which are false. -/
theorem truth_of_exact_numbers
    (n : Int) (negative : Bool) (coefficient : Nat) (exponent : Int) :
    StandsForTruth (.int n) (decide (n ≠ 0 ∧ n.natAbs < 2 ^ 1024 - 2 ^ 970)) ∧
    StandsForTruth (.decimal (.finite negative coefficient exponent))
      (decide (coefficient ≠ 0 ∧ Kept ((coefficient : ℚ) * 10 ^ exponent))) := by
  constructor
  · apply standsForTruth_of_truth?
    rw [truth?, truthOfNumber_int]
  · apply standsForTruth_of_truth?
    rw [truth?, truthOfNumber_decimal]

/-- Ten to the four hundredth power and its inverse, which are not zero, are false. -/
theorem extreme_numbers_are_false :
    coerce .logic (.int (10 ^ 400)) = .ok (.truth false) ∧
      coerce .logic (.decimal (.finite false 1 (-400))) = .ok (.truth false) := by
  decide +kernel

end Cell

end TableSource
