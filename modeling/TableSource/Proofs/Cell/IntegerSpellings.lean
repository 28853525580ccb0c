import TableSource.Cell.Reading
import TableSource.Proofs.Raw.JsonTokens
import TableSource.Proofs.Time.DigitClocks
import TableSource.Proofs.Time.EpochMillis
import TableSource.Proofs.Time.Offsets

/-!
# Integers, their texts and their numbers

An integer may be given as itself, by its decimal text, and up to `2 ^ 53` by its number.  All of
these are read alike, with one exception: a text is tried as an ISO text when it has no number.  So
the text of an integer that is too large for a number is read as a clock, from its first digits,
where the integer itself is no instant.
-/

namespace TableSource

namespace Binary64

variable {n : ℤ}

/-! ## Numbers of integers -/

/-- The least integer that is too large has more than a thousand bits. -/
theorem zpow_le_leastOverflow :
    (2 : ℚ) ^ (1023 : ℤ) ≤ 2 ^ (1024 : ℤ) - 2 ^ (970 : ℤ) := by
  have double : (2 : ℚ) ^ (1024 : ℤ) = 2 ^ (1023 : ℤ) * 2 := zpow_add_one₀ two_ne_zero 1023
  have less : (2 : ℚ) ^ (970 : ℤ) ≤ 2 ^ (1023 : ℤ) := zpow_le_zpow_right₀ one_le_two (by decide)
  rw [double, mul_two, le_sub_iff_add_le]
  exact add_le_add_right less _

/-- The integers without a number are the ones that are too large to either side. -/
theorem ofInt?_eq_none_iff :
    ofInt? n = none ↔ (2 : ℚ) ^ (1024 : ℤ) - 2 ^ (970 : ℤ) ≤ n.natAbs := by
  rw [ofInt?, ofRatio?_eq_none_iff one_pos]
  rcases Nat.eq_zero_or_pos n.natAbs with zero | positive
  · rw [zero, rounded_zero, Nat.cast_zero]
    exact iff_of_false (two_zpow_pos _).not_ge
      ((two_zpow_pos _).trans_le zpow_le_leastOverflow).not_ge
  · rw [le_rounded_iff positive one_pos, Nat.cast_one, div_one]

/-- The number of an integer, taken apart. -/
theorem parts_of_magnitude
    {x : Binary64} (sign : x.negative = decide (n < 0)) (value : x.magnitude = n.natAbs) :
    x.isWhole = true ∧ x.truncate = n ∧ x.toRat = n := by
  have up : (x.denominator : ℚ) ≠ 0 := by
    exact_mod_cast x.denominator_pos.ne'
  have whole : x.wholePart = n.natAbs :=
    wholePart_eq value.ge (value.trans_lt (lt_add_one _))
  refine ⟨?_, ?_, ?_⟩
  · rw [← magnitude_eq, div_eq_iff up] at value
    have parts : x.numerator = n.natAbs * x.denominator := by
      exact_mod_cast value
    rw [isWhole, beq_iff_eq, fractionNumerator, parts, Nat.mul_mod_left]
  · rw [truncate, sign, whole]
    simp only [decide_eq_true_eq]
    split <;> omega
  · rw [toRat, magnitude_eq, value, sign, Nat.cast_natAbs, Int.cast_abs]
    simp only [decide_eq_true_eq]
    split
    · next negative =>
        rw [abs_of_neg (by exact_mod_cast negative), neg_neg]
    · next positive =>
        rw [abs_of_nonneg (by exact_mod_cast not_lt.mp positive)]

end Binary64

open Text Numeral Binary64

/-! ## Texts without a number -/

/-- No date starts with a minus. -/
theorem IsoText.readingOfChars?_minus (cs : List Char) :
    readingOfChars? ('-' :: cs) = none := by
  have mark : isAsciiDigit '-' = false := rfl
  have noYear (place : ℕ) : day? (('-' :: cs).take place) = none := by
    cases place with
    | zero =>
        rfl
    | succ place =>
        simp [day?, digits?, mark]
  rw [readingOfChars?]
  simp only [noYear, ite_self]

namespace Cell

variable {n : ℤ}

theorem withOffset_toString (n : ℤ) :
    withOffset (toString n).toList = (toString n).toList := by
  have areDigits := (digitsValue_toDigits n.natAbs).1
  have nonempty : Nat.toDigits 10 n.natAbs ≠ [] := Nat.toDigits_ne_nil
  have member := List.getLast_mem nonempty
  have ends : (toString n).toList.getLast? =
      some (digitChar (asciiDigitValue ((Nat.toDigits 10 n.natAbs).getLast nonempty))) := by
    rw [← eq_digitChar (areDigits _ member), toList_toString]
    split
    · rw [List.getLast?_cons, List.getLast?_eq_some_getLast nonempty]
      rfl
    · exact List.getLast?_eq_some_getLast nonempty
  exact withOffset_of_digit ends

theorem toList_toString_of_nonneg
    (positive : 0 ≤ n) :
    (toString n).toList = Nat.toDigits 10 n.natAbs := by
  rw [toList_toString, decide_eq_false positive.not_gt]
  rfl

theorem instant?_int_of_none
    (absent : ofInt? n = none) :
    instant? (.int n) = none := by
  rw [instant?, absent]
  rfl

/-- Without a number, the text of an integer is an ISO text or nothing. -/
theorem instant?_toString_of_none
    (absent : ofInt? n = none) :
    instant? (.text (toString n)) =
      (IsoText.readingOfChars? (toString n).toList).bind Reading.instant? := by
  show instantOfText? (toString n) = _
  rw [instantOfText?, trimChars_toString, String.ofList_toList]
  simp only [finite?_toString, absent, withOffset_toString]

/-- An integer without a number has more digits than a clock. -/
theorem length_toDigits_of_none
    (absent : ofInt? n = none) :
    21 ≤ (Nat.toDigits 10 n.natAbs).length := by
  have large : ((10 ^ 20 : ℕ) : ℚ) ≤ n.natAbs := by
    have least : ((10 ^ 20 : ℕ) : ℚ) ≤ 2 ^ (67 : ℤ) := by
      norm_num
    have more : (2 : ℚ) ^ (67 : ℤ) ≤ 2 ^ (1023 : ℤ) := zpow_le_zpow_right₀ one_le_two (by decide)
    exact (least.trans (more.trans zpow_le_leastOverflow)).trans (ofInt?_eq_none_iff.mp absent)
  apply Nat.lt_of_not_le
  rw [Nat.length_toDigits_le_iff (by decide) (by decide), Nat.not_lt]
  exact_mod_cast large

/-- The text of an integer that is too large is read as a clock. -/
theorem instant?_toString_of_large
    (large : (2 : ℚ) ^ (1024 : ℤ) - 2 ^ (970 : ℤ) ≤ n) :
    instant? (.int n) = none ∧
      instant? (.text (toString n)) = clockOfDigits? (toString n).toList := by
  have above : (0 : ℚ) < n := (two_zpow_pos _).trans_le (zpow_le_leastOverflow.trans large)
  have positive : 0 < n := by
    exact_mod_cast above
  have size : (n.natAbs : ℚ) = n := by
    rw [Nat.cast_natAbs, abs_of_pos positive]
  have absent : ofInt? n = none := by
    rw [ofInt?_eq_none_iff, size]
    exact large
  have written := toList_toString_of_nonneg positive.le
  refine ⟨instant?_int_of_none absent, ?_⟩
  rw [instant?_toString_of_none absent, written]
  exact IsoText.readingOfChars?_digits (digitsValue_toDigits _).1 (length_toDigits_of_none absent)

/-- Every other integer and its text are read as the same instant, or as none. -/
theorem instant?_toString_of_small
    (small : n < (2 : ℚ) ^ (1024 : ℤ) - 2 ^ (970 : ℤ)) :
    instant? (.text (toString n)) = instant? (.int n) := by
  cases found : ofInt? n with
  | some x =>
      exact instant?_toString_of_ofInt? found
  | none =>
      have negative : n < 0 := by
        by_contra positive
        have large := ofInt?_eq_none_iff.mp found
        rw [Nat.cast_natAbs, abs_of_nonneg (not_lt.mp positive)] at large
        exact small.not_ge large
      rw [instant?_int_of_none found, instant?_toString_of_none found, toList_toString,
        if_pos (decide_eq_true negative), IsoText.readingOfChars?_minus]
      rfl

/-! ## Reading by type -/

/-- The bound is a variable here, so that its power is not computed. -/
theorem isOverlong_of_decimalLength
    (few : decimalLength n.natAbs ≤ maxDigits) :
    isOverlong n = false := by
  have below : ∀ bound, 0 < bound → decimalLength n.natAbs ≤ bound →
      ¬ Nat.pow 10 bound ≤ n.natAbs := fun _ positive few =>
    Nat.not_le_of_lt ((Nat.length_toDigits_le_iff (by decide) positive).mp few)
  delta isOverlong
  exact decide_eq_false (below maxDigits (by decide) few)

/-- An integer with a text has that text for the types that take texts. -/
theorem text?_int
    (short : isOverlong n = false) :
    text? (.int n) = .ok (some (toString n)) := by
  rw [text?, wholeText?, short]
  rfl

/-- The number of an integer is read like the integer. -/
theorem read?_float
    {x : Binary64} (short : isOverlong n = false) (found : ofInt? n = some x)
    (sign : x.negative = decide (n < 0)) (value : x.magnitude = n.natAbs) :
    ∀ type, read? type (.float (.finite x)) = read? type (.int n) := by
  rcases parts_of_magnitude sign value with ⟨whole, truncated, -⟩
  have sameNumber : number? (.float (.finite x)) = number? (.int n) := found.symm
  have sameInstant : instant? (.float (.finite x)) = instant? (.int n) := by
    rw [instant?, instant?, found]
    rfl
  have sameTruth : truth? (.float (.finite x)) = truth? (.int n) := by
    rw [truth?, truth?, truthOfNumber, truthOfNumber, sameNumber]
  have sameText : text? (.float (.finite x)) = text? (.int n) := by
    rw [text?_int short, text?, if_pos whole, truncated]
  intro type
  cases type <;> simp only [read?, sameNumber, sameInstant, sameTruth, sameText]

/-- An integer of at most 4300 digits and its text are read alike as numbers and as texts.  They
are read alike as instants, too, unless the integer is too large for a number: then it is no
instant, and its text is read as the clock that the first digits write.  Up to `2 ^ 53` an integer
has a number, which is the integer and is read alike. -/
theorem integers_are_read
    {n : ℤ} (short : Binary64.decimalLength n.natAbs ≤ 4300) :
    (∀ type ∈ [FeatureType.numeric, .nominal, .text],
      read? type (.text (toString n)) = read? type (.int n)) ∧
    (n < (2 : ℚ) ^ (1024 : ℤ) - 2 ^ (970 : ℤ) →
      read? .date (.text (toString n)) = read? .date (.int n)) ∧
    ((2 : ℚ) ^ (1024 : ℤ) - 2 ^ (970 : ℤ) ≤ n →
      read? .date (.int n) = .ok none ∧
      read? .date (.text (toString n)) =
        .ok ((clockOfDigits? (toString n).toList).map .instant)) ∧
    (n.natAbs ≤ 2 ^ 53 →
      ∃ x, Binary64.ofInt? n = some x ∧ x.toRat = n ∧
        ∀ type ∈ [FeatureType.numeric, .date, .nominal, .text],
          read? type (.float (.finite x)) = read? type (.int n) ∧
          read? type (.float (.finite x)) = read? type (.text (toString n))) := by
  have written := isOverlong_of_decimalLength short
  have sameNumber : number? (.text (toString n)) = number? (.int n) := finite?_toString n
  have sameText : text? (.text (toString n)) = text? (.int n) := (text?_int written).symm
  have sameDate (small : n < (2 : ℚ) ^ (1024 : ℤ) - 2 ^ (970 : ℤ)) :
      read? .date (.text (toString n)) = read? .date (.int n) := by
    rw [read?, read?, instant?_toString_of_small small]
  have sameOthers : ∀ type ∈ [FeatureType.numeric, .nominal, .text],
      read? type (.text (toString n)) = read? type (.int n) := by
    simp only [List.forall_mem_cons, read?, sameNumber, sameText, List.not_mem_nil, false_implies,
      implies_true, and_self]
  refine ⟨sameOthers, sameDate, ?large, ?exact⟩
  case large =>
    intro large
    rcases instant?_toString_of_large large with ⟨noInstant, clock⟩
    rw [read?, read?, noInstant, clock]
    exact ⟨rfl, rfl⟩
  case exact =>
    intro few
    rcases Epoch.exists_ofInt? few with ⟨x, found, sign, value⟩
    have small : n < (2 : ℚ) ^ (1024 : ℤ) - 2 ^ (970 : ℤ) := by
      have most : (n : ℚ) ≤ 2 ^ (53 : ℤ) := by
        have bound : n ≤ 2 ^ 53 := by omega
        exact_mod_cast bound
      have less : (2 : ℚ) ^ (53 : ℤ) < 2 ^ (1023 : ℤ) := zpow_lt_zpow_right₀ one_lt_two (by decide)
      exact most.trans_lt (less.trans_le zpow_le_leastOverflow)
    have sameAsInt := read?_float written found sign value
    refine ⟨x, found, (parts_of_magnitude sign value).2.2, fun type member => ?_⟩
    refine ⟨sameAsInt type, (sameAsInt type).trans ?_⟩
    rcases List.mem_cons.mp member with rfl | later
    · exact (sameOthers _ (by decide)).symm
    · rcases List.mem_cons.mp later with rfl | texts
      · exact (sameDate small).symm
      · exact (sameOthers _ (List.mem_cons_of_mem _ texts)).symm

/-- The last integer up to which every one has a number. -/
theorem integers_are_read_last_exact :
    ∃ x, Binary64.ofInt? 9007199254740992 = some x ∧
      ∀ type ∈ [FeatureType.numeric, .date, .nominal, .text],
        read? type (.float (.finite x)) = read? type (.int 9007199254740992) ∧
        read? type (.float (.finite x)) = read? type (.text "9007199254740992") := by
  rcases integers_are_read (n := 9007199254740992) (by decide) with ⟨-, -, -, exact⟩
  rcases exact (by decide) with ⟨x, found, -, same⟩
  exact ⟨x, found, same⟩

/-- An integer with 309 digits, of which the first fifteen are those of a noon. -/
def noonOverflow : ℕ :=
  202001010120000 * 10 ^ 294

def newYearsNoon : Instant :=
  ⟨737424 * microsPerDay + 12 * 3600 * 1000000, by decide⟩

theorem large_noonOverflow :
    (2 : ℚ) ^ (1024 : ℤ) - 2 ^ (970 : ℤ) ≤ ((noonOverflow : ℤ) : ℚ) := by
  have bits : 2 ^ 1024 ≤ noonOverflow := by
    decide +kernel
  calc (2 : ℚ) ^ (1024 : ℤ) - 2 ^ (970 : ℤ)
      ≤ 2 ^ (1024 : ℤ) := sub_le_self _ (two_zpow_pos _).le
    _ = ((2 ^ 1024 : ℕ) : ℚ) := by
        rw [Nat.cast_pow, Nat.cast_ofNat, ← zpow_natCast]
        rfl
    _ ≤ (noonOverflow : ℚ) := Nat.cast_le.mpr bits
    _ = ((noonOverflow : ℤ) : ℚ) := (Int.cast_natCast _).symm

/-- The text of a large integer is read as noon, where the integer is no instant. -/
theorem large_integer_is_read_as_noon :
    decimalLength (noonOverflow : ℤ).natAbs = 309 ∧
      read? .date (.int noonOverflow) = .ok none ∧
      read? .date (.text (toString (noonOverflow : ℤ))) = .ok (some (.instant newYearsNoon)) := by
  have digits : decimalLength noonOverflow = 309 := by
    decide +kernel
  have clock : clockOfDigits? (Nat.toDigits 10 noonOverflow) = some newYearsNoon := by
    decide +kernel
  have written := toList_toString_of_nonneg (Int.natCast_nonneg noonOverflow)
  rcases instant?_toString_of_large large_noonOverflow with ⟨noInstant, read⟩
  rw [written, Int.natAbs_natCast, clock] at read
  rw [Int.natAbs_natCast, read?, read?, noInstant, read]
  exact ⟨digits, rfl, rfl⟩

end Cell

end TableSource
