import Mathlib.Data.List.TakeWhile
import TableSource.Proofs.Number.FloatText
import TableSource.Proofs.Number.Precision
import TableSource.Proofs.Time.InstantText

/-!
# The text of an integer is read as the integer

An integer is written with its sign and its decimal digits, without blanks or underscores, a point
or an exponent.  Read as a decimal numeral such a text has the integer as its coefficient, so its
nearest number is that of the integer, and both are missing for the same integers.
-/

namespace TableSource

namespace Text

theorem eq_digitChar
    {c : Char} (isDigit : isAsciiDigit c = true) :
    c = digitChar (asciiDigitValue c) := by
  have value : asciiDigitValue c = c.toNat - 48 := if_pos isDigit
  simp only [isAsciiDigit, Bool.and_eq_true, decide_eq_true_eq] at isDigit
  rw [digitChar, value, Nat.mod_eq_of_lt (by omega), Nat.add_sub_cancel' isDigit.1,
    Char.ofNat_toNat]

end Text

namespace Numeral

open Text

/-! ## Digits -/

section Digits

variable {digits : List Char}

theorem asciiDigits_digits
    (areDigits : ∀ c ∈ digits, isAsciiDigit c = true) :
    asciiDigits digits = digits := by
  induction digits with
  | nil =>
      rfl
  | cons c rest induction =>
      rw [List.forall_mem_cons] at areDigits
      rw [eq_digitChar areDigits.1, asciiDigits_cons_digitChar, induction areDigits.2]

theorem dropUnderscores?_digits
    (afterDigit : Bool) (areDigits : ∀ c ∈ digits, isAsciiDigit c = true) :
    dropUnderscores? afterDigit digits = some digits := by
  induction digits generalizing afterDigit with
  | nil =>
      rfl
  | cons c rest induction =>
      rw [List.forall_mem_cons] at areDigits
      rw [eq_digitChar areDigits.1, dropUnderscores?_cons_digitChar, induction true areDigits.2]
      rfl

/-- Digits alone are a whole number. -/
theorem unsigned?_digits
    (negative : Bool) (nonempty : digits ≠ [])
    (areDigits : ∀ c ∈ digits, isAsciiDigit c = true) :
    unsigned? negative digits =
      some { negative, coefficient := digitsValue digits, scale := 0 } := by
  have whole : digits.takeWhile isAsciiDigit = digits := List.takeWhile_eq_self_iff.mpr areDigits
  have behind : digits.dropWhile isAsciiDigit = [] := List.dropWhile_eq_nil_iff.mpr areDigits
  simp [unsigned?, whole, behind, nonempty, exponent?, digitsValue]

theorem isBlank_of_digit
    {c : Char} (isDigit : isAsciiDigit c = true) :
    isBlank c = false := by
  rw [eq_digitChar isDigit]
  exact isBlank_digitChar _

end Digits

/-! ## Integers -/

theorem toList_toString (n : ℤ) :
    (toString n).toList =
      if decide (n < 0) then '-' :: Nat.toDigits 10 n.natAbs
      else Nat.toDigits 10 n.natAbs := by
  cases n with
  | ofNat n =>
      simp [toString, Int.repr, Nat.repr]
  | negSucc n =>
      simp [toString, Int.repr, Nat.repr]

theorem trimChars_toString (n : ℤ) :
    trimChars (toString n).toList = (toString n).toList := by
  apply trimChars_eq_self
  have areDigits := (digitsValue_toDigits n.natAbs).1
  rw [toList_toString]
  split
  · rw [List.forall_mem_cons]
    exact ⟨rfl, fun c member => isBlank_of_digit (areDigits c member)⟩
  · exact fun c member => isBlank_of_digit (areDigits c member)

theorem dropUnderscores?_signed
    {digits : List Char} (negative : Bool) (areDigits : ∀ c ∈ digits, isAsciiDigit c = true) :
    dropUnderscores? false (asciiDigits (if negative then '-' :: digits else digits)) =
      some (if negative then '-' :: digits else digits) := by
  have hyphen : asciiDigits ('-' :: digits) = '-' :: asciiDigits digits := rfl
  cases negative with
  | false =>
      simp only [Bool.false_eq_true, if_false, asciiDigits_digits areDigits,
        dropUnderscores?_digits false areDigits]
  | true =>
      rw [if_pos rfl, hyphen, asciiDigits_digits areDigits, dropUnderscores?, if_neg (by decide),
        dropUnderscores?_digits _ areDigits]
      rfl

theorem splitSign_signed
    {digits : List Char} (negative : Bool) (nonempty : digits ≠ [])
    (areDigits : ∀ c ∈ digits, isAsciiDigit c = true) :
    splitSign (if negative then '-' :: digits else digits) = (negative, digits) := by
  cases negative with
  | true =>
      rfl
  | false =>
      cases digits with
      | nil =>
          exact absurd rfl nonempty
      | cons c rest =>
          rw [eq_digitChar (areDigits c List.mem_cons_self)]
          exact splitSign_digitChar _ _

/-- The text of an integer is a numeral with the integer as its coefficient. -/
theorem scientificOfChars?_toString (n : ℤ) :
    scientificOfChars? (toString n).toList =
      some { negative := decide (n < 0), coefficient := n.natAbs, scale := 0 } := by
  rcases digitsValue_toDigits n.natAbs with ⟨areDigits, value⟩
  have nonempty : Nat.toDigits 10 n.natAbs ≠ [] := Nat.toDigits_ne_nil
  rw [scientificOfChars?, trimChars_toString, toList_toString, dropUnderscores?_signed _ areDigits]
  dsimp only
  rw [splitSign_signed _ nonempty areDigits]
  dsimp only
  rw [unsigned?_digits _ nonempty areDigits, value]

/-- An integer and its text have the same nearest number, if any. -/
theorem finite?_toString (n : ℤ) :
    finite? (toString n) = Binary64.ofInt? n := by
  rw [finite?, scientificOfChars?_toString]
  exact Binary64.ofScaled?_whole _ _

end Numeral

end TableSource
