import TableSource.Number.Shortest
import TableSource.Proofs.Number.Rounding
import TableSource.Proofs.Raw.Decoded

/-!
# The text of a number means the number

The coefficient and the power of ten that a number is written with are rounded to the number: each
attempt at a short text is checked, and where all attempts fail the exact decimal is taken.  The
text itself shows this decimal in one of five forms, whose parts are a whole part, a fraction and an
exponent.  So the decimal that the parts stand for is rounded to the number, whatever the form.
-/

namespace TableSource

/-! ## Runs of digits -/

namespace Numeral

open Text

/-- The natural number that a run of ASCII digits writes. -/
def digitsValue (digits : List Char) : ℕ :=
  ofDigits (digits.map asciiDigitValue)

theorem foldl_digits (total : ℕ) (digits : List Char) :
    (digits.map asciiDigitValue).foldl (fun total digit => 10 * total + digit) total =
      total * 10 ^ digits.length + digitsValue digits := by
  induction digits generalizing total with
  | nil =>
      simp [digitsValue, ofDigits]
  | cons c rest induction =>
      have value : digitsValue (c :: rest) =
          asciiDigitValue c * 10 ^ rest.length + digitsValue rest :=
        (induction (10 * 0 + asciiDigitValue c)).trans (by rw [Nat.mul_zero, Nat.zero_add])
      rw [List.map_cons, List.foldl_cons, induction, value, List.length_cons, pow_succ]
      ring

theorem digitsValue_append (digits more : List Char) :
    digitsValue (digits ++ more) =
      digitsValue digits * 10 ^ more.length + digitsValue more := by
  rw [← foldl_digits, digitsValue, digitsValue, ofDigits, ofDigits, List.map_append,
    List.foldl_append]

theorem digitsValue_zeros (count : ℕ) :
    digitsValue (List.replicate count '0') = 0 := by
  induction count with
  | zero =>
      rfl
  | succ count induction =>
      rw [List.replicate_succ', digitsValue_append, induction]
      rfl

theorem isAsciiDigit_natDigitChar
    {digit : ℕ} (small : digit < 10) :
    isAsciiDigit digit.digitChar = true ∧ digitsValue [digit.digitChar] = digit := by
  have each : ∀ digit < 10,
      isAsciiDigit digit.digitChar = true ∧ digitsValue [digit.digitChar] = digit := by
    decide
  exact each digit small

theorem digitsValue_toDigits (number : ℕ) :
    (∀ c ∈ Nat.toDigits 10 number, isAsciiDigit c = true) ∧
      digitsValue (Nat.toDigits 10 number) = number := by
  induction number using Nat.strongRecOn with
  | _ number induction =>
      by_cases small : number < 10
      · rw [Nat.toDigits_of_lt_base small]
        rcases isAsciiDigit_natDigitChar small with ⟨isDigit, value⟩
        exact ⟨by simpa using isDigit, value⟩
      · rcases induction (number / 10) (by omega) with ⟨areDigits, value⟩
        rcases isAsciiDigit_natDigitChar (Nat.mod_lt number (by decide : 0 < 10)) with
          ⟨isDigit, last⟩
        rw [Nat.toDigits_of_base_le (by decide) (Nat.le_of_not_lt small)]
        constructor
        · simpa [or_imp, forall_and] using ⟨areDigits, isDigit⟩
        · rw [digitsValue_append, value, last, List.length_singleton]
          omega

theorem digitsValue_lt (digits : List Char) :
    digitsValue digits < 10 ^ digits.length := by
  have each : ∀ digit ∈ digits.map asciiDigitValue, digit < 10 := by
    intro digit member
    rcases List.mem_map.mp member with ⟨c, -, rfl⟩
    exact Json.asciiDigitValue_lt c
  rw [← List.length_map asciiDigitValue]
  exact ofDigits_lt each

/-- Only zero is written with a zero in front. -/
theorem head_toDigits
    {number : ℕ} (positive : 0 < number) {first : Char} {rest : List Char}
    (written : Nat.toDigits 10 number = first :: rest) :
    first ≠ '0' := by
  rintro rfl
  have value : digitsValue rest = number := by
    have whole := (digitsValue_toDigits number).2
    rw [written, ← List.singleton_append, digitsValue_append] at whole
    simpa [digitsValue, ofDigits, asciiDigitValue] using whole
  have below := digitsValue_lt rest
  rw [value] at below
  cases rest with
  | nil =>
      exact absurd value positive.ne
  | cons second others =>
      have short := (Nat.length_toDigits_le_iff (by decide) (Nat.succ_pos _)).mpr below
      rw [written, List.length_cons] at short
      exact Nat.not_succ_le_self _ short

/-- Digits without a zero in front. -/
structure Significant (digits : List Char) : Prop where
  areDigits : ∀ c ∈ digits, isAsciiDigit c = true
  leads : ∃ first rest, digits = first :: rest ∧ first ≠ '0'

/-! ## The parts of a numeral -/

/-- A numeral in the form in which numbers are written. -/
structure Parts where
  whole : List Char
  fraction : List Char
  exponent : Option ℤ

namespace Parts

/-- A fraction behind its point; there is no point without a fraction. -/
def pointed : List Char → List Char
  | [] => []
  | digits => '.' :: digits

/-- An exponent behind its mark. -/
def marked : Option ℤ → List Char
  | none => []
  | some exponent => 'e' :: Binary64.exponentText exponent

def chars (parts : Parts) : List Char :=
  parts.whole ++ pointed parts.fraction ++ marked parts.exponent

theorem chars_plain
    {whole fraction : List Char} (nonempty : fraction ≠ []) :
    chars { whole, fraction, exponent := none } = whole ++ '.' :: fraction := by
  cases fraction with
  | nil =>
      exact absurd rfl nonempty
  | cons first rest =>
      exact List.append_nil _

def coefficient (parts : Parts) : ℕ :=
  digitsValue (parts.whole ++ parts.fraction)

def scale (parts : Parts) : ℤ :=
  parts.exponent.getD 0 - parts.fraction.length

/-- The parts of a number that is no integer: digits all over, no zero too many in front, and a
fraction or an exponent. -/
structure WellFormed (parts : Parts) : Prop where
  leads : parts.whole = ['0'] ∨ Significant parts.whole
  areDigits : ∀ c ∈ parts.fraction, isAsciiDigit c = true
  fractional : parts.fraction ≠ [] ∨ parts.exponent ≠ none

end Parts

end Numeral

namespace Binary64

open Numeral

/-! ## The form of a text -/

theorem isAsciiDigit_of_mem_zeros
    {count : ℕ} {c : Char}
    (member : c ∈ List.replicate count '0') :
    Text.isAsciiDigit c = true := by
  rw [List.eq_of_mem_replicate member]
  rfl

theorem zeros_behind (digits : List Char) :
    ∃ zeros, digits =
      (digits.reverse.dropWhile (· == '0')).reverse ++ List.replicate zeros '0' := by
  have all : (digits.reverse.takeWhile (· == '0')).reverse =
      List.replicate (digits.reverse.takeWhile (· == '0')).length '0' := by
    refine List.eq_replicate_iff.mpr ⟨List.length_reverse, fun c member => ?_⟩
    have each := List.all_takeWhile (p := (· == '0')) (l := digits.reverse)
    simpa using List.all_eq_true.mp each c (List.mem_reverse.mp member)
  refine ⟨(digits.reverse.takeWhile (· == '0')).length, ?_⟩
  rw [← all, ← List.reverse_append, List.takeWhile_append_dropWhile, List.reverse_reverse]

/-- The trailing zeros of a coefficient are taken into the power of ten. -/
theorem digitsAndPoint_spec
    {coefficient : ℕ} (nonzero : coefficient ≠ 0) (scale : ℤ) :
    Significant (digitsAndPoint coefficient scale).1 ∧
      (coefficient : ℚ) * (10 : ℚ) ^ scale =
        (digitsValue (digitsAndPoint coefficient scale).1 : ℚ) *
          (10 : ℚ) ^ ((digitsAndPoint coefficient scale).2 -
            (digitsAndPoint coefficient scale).1.length) := by
  rcases digitsValue_toDigits coefficient with ⟨areDigits, value⟩
  rcases zeros_behind (Nat.toDigits 10 coefficient) with ⟨zeros, split⟩
  generalize keptEq : ((Nat.toDigits 10 coefficient).reverse.dropWhile (· == '0')).reverse = kept
    at split
  rw [split, digitsValue_append, digitsValue_zeros, List.length_replicate, Nat.add_zero] at value
  have keptNonempty : kept ≠ [] := by
    rintro rfl
    rw [show digitsValue [] = 0 from rfl, Nat.zero_mul] at value
    exact nonzero value.symm
  have form : digitsAndPoint coefficient scale =
      (kept, ((kept.length + zeros : ℕ) : ℤ) + scale) := by
    simp only [digitsAndPoint, keptEq, List.isEmpty_iff, keptNonempty, if_false]
    rw [split, List.length_append, List.length_replicate]
  rw [form]
  refine ⟨⟨fun c member => areDigits c ?_, ?_⟩, ?_⟩
  · rw [split]
    exact List.mem_append_left _ member
  · cases kept with
    | nil =>
        exact absurd rfl keptNonempty
    | cons first rest =>
        exact ⟨first, rest, rfl, head_toDigits (Nat.pos_of_ne_zero nonzero) split⟩
  · have point : ((kept.length + zeros : ℕ) : ℤ) + scale - kept.length = zeros + scale := by
      push_cast
      omega
    rw [point, zpow_add₀ (by norm_num), zpow_natCast, ← mul_assoc]
    congr 1
    exact_mod_cast value.symm

/-- A text whose parts stand for digits with a point. -/
def Shows (chars digits : List Char) (point : ℤ) : Prop :=
  ∃ parts : Parts, chars = parts.chars ∧ parts.WellFormed ∧
    (parts.coefficient : ℚ) * (10 : ℚ) ^ parts.scale =
      (digitsValue digits : ℚ) * (10 : ℚ) ^ (point - digits.length)

section Forms

variable {digits : List Char} {point : ℤ}

theorem shows_zeros_before
    (significant : Significant digits) (small : point ≤ 0) :
    Shows ('0' :: '.' :: (List.replicate (-point).toNat '0' ++ digits)) digits point := by
  rcases significant.leads with ⟨first, rest, split, -⟩
  have nonempty : List.replicate (-point).toNat '0' ++ digits ≠ [] := by
    simp [split]
  have value : digitsValue (['0'] ++ (List.replicate (-point).toNat '0' ++ digits)) =
      digitsValue digits := by
    rw [← List.append_assoc, digitsValue_append, ← List.replicate_one,
      List.replicate_append_replicate, digitsValue_zeros, Nat.zero_mul, Nat.zero_add]
  have scale : (0 : ℤ) - ((List.replicate (-point).toNat '0' ++ digits).length : ℕ) =
      point - digits.length := by
    simp
    omega
  refine ⟨{ whole := ['0'], fraction := List.replicate (-point).toNat '0' ++ digits
            exponent := none }, ?_, ⟨.inl rfl, ?_, .inl nonempty⟩, ?_⟩
  · rw [Parts.chars_plain nonempty]
    rfl
  · intro c member
    rcases List.mem_append.mp member with zero | digit
    · exact isAsciiDigit_of_mem_zeros zero
    · exact significant.areDigits c digit
  · simp only [Parts.coefficient, Parts.scale, Option.getD_none, scale, value]

theorem shows_zeros_behind
    (significant : Significant digits) (large : (digits.length : ℤ) ≤ point) :
    Shows (digits ++ List.replicate (point.toNat - digits.length) '0' ++ ['.', '0']) digits point := by
  rcases significant.leads with ⟨first, rest, split, nonzero⟩
  have power : point - digits.length =
      ((point.toNat - digits.length + 1 : ℕ) : ℤ) + -1 := by
    omega
  refine ⟨{ whole := digits ++ List.replicate (point.toNat - digits.length) '0'
            fraction := ['0'], exponent := none },
    (Parts.chars_plain (by simp)).symm, ⟨.inr ⟨?_, ?_⟩, ?_, .inl (by simp)⟩, ?_⟩
  · intro c member
    rcases List.mem_append.mp member with digit | zero
    · exact significant.areDigits c digit
    · exact isAsciiDigit_of_mem_zeros zero
  · exact ⟨first, _, by rw [split, List.cons_append], nonzero⟩
  · simp [Text.isAsciiDigit]
  · rw [power, zpow_add₀ (by norm_num), zpow_natCast, ← mul_assoc]
    simp only [Parts.coefficient, Parts.scale, Option.getD_none]
    congr 1
    rw [List.append_assoc, ← List.replicate_one, List.replicate_append_replicate,
      digitsValue_append, digitsValue_zeros, List.length_replicate]
    push_cast
    ring

theorem shows_point_between
    (significant : Significant digits) (positive : 0 < point)
    (inside : point < (digits.length : ℤ)) :
    Shows (digits.take point.toNat ++ '.' :: digits.drop point.toNat) digits point := by
  rcases significant.leads with ⟨first, rest, split, nonzero⟩
  have nonempty : digits.drop point.toNat ≠ [] := by
    rw [ne_eq, List.drop_eq_nil_iff]
    omega
  have scale : (0 : ℤ) - ((digits.drop point.toNat).length : ℕ) = point - digits.length := by
    rw [List.length_drop]
    omega
  refine ⟨{ whole := digits.take point.toNat, fraction := digits.drop point.toNat
            exponent := none },
    (Parts.chars_plain nonempty).symm, ⟨.inr ⟨?_, ?_⟩, ?_, .inl nonempty⟩, ?_⟩
  · exact fun c member => significant.areDigits c (List.mem_of_mem_take member)
  · refine ⟨first, rest.take (point.toNat - 1), ?_, nonzero⟩
    rw [split, List.take_cons (by omega)]
  · exact fun c member => significant.areDigits c (List.mem_of_mem_drop member)
  · simp only [Parts.coefficient, Parts.scale, Option.getD_none, scale, List.take_append_drop]

theorem shows_one_digit
    {digit : Char} (significant : Significant [digit]) :
    Shows (digit :: 'e' :: exponentText (point - 1)) [digit] point := by
  refine ⟨{ whole := [digit], fraction := [], exponent := some (point - 1) }, rfl,
    ⟨.inr significant, by simp, .inr (by simp)⟩, ?_⟩
  simp [Parts.coefficient, Parts.scale]

theorem shows_more_digits
    {first second : Char} {others : List Char}
    (significant : Significant (first :: second :: others)) :
    Shows (first :: '.' :: (second :: others ++ 'e' :: exponentText (point - 1)))
      (first :: second :: others) point := by
  rcases significant.leads with ⟨_, _, ⟨⟩, nonzero⟩
  have scale : point - 1 - ((second :: others).length : ℤ) =
      point - ((first :: second :: others).length : ℤ) := by
    simp
    omega
  refine ⟨{ whole := [first], fraction := second :: others, exponent := some (point - 1) },
    rfl, ⟨.inr ⟨?_, first, [], rfl, nonzero⟩, ?_, .inl (by simp)⟩, ?_⟩
  · intro c member
    rw [List.mem_singleton.mp member]
    exact significant.areDigits first (by simp)
  · exact fun c member => significant.areDigits c (List.mem_cons_of_mem _ member)
  · simp only [Parts.coefficient, Parts.scale, Option.getD_some, scale]
    rfl

/-- Whatever form is chosen for them, digits with a point stand for the same number. -/
theorem shows_placePoint
    (significant : Significant digits) (point : ℤ) :
    Shows (placePoint digits point) digits point := by
  rw [placePoint.eq_def]
  split
  · split
    · next small =>
        exact shows_zeros_before significant small
    · next positive =>
        split
        · next large =>
            exact shows_zeros_behind significant large
        · next inside =>
            exact shows_point_between significant (by omega) (by omega)
  · rcases significant.leads with ⟨first, rest, rfl, -⟩
    cases rest with
    | nil =>
        exact shows_one_digit significant
    | cons second others =>
        exact shows_more_digits significant

end Forms

/-! ## The number of a text -/

theorem ofScaled?_coefficientAt
    {x : Binary64} {scale : ℤ} {coefficient : ℕ}
    (found : coefficientAt? x scale = some coefficient) :
    ofScaled? x.negative coefficient scale = some x := by
  have checked : readsBack x coefficient scale = true := by
    simp only [coefficientAt?] at found
    split_ifs at found <;> cases found <;> assumption
  exact beq_iff_eq.mp checked

theorem ofScaled?_shortestFrom (x : Binary64)
    (nonzero : x.mantissa ≠ 0) (place : ℤ) (lengths : List ℕ) :
    ofScaled? x.negative (shortestFrom x place lengths).1 (shortestFrom x place lengths).2 =
      some x := by
  induction lengths with
  | nil =>
      exact x.ofScaled?_exact nonzero
  | cons digits more induction =>
      simp only [shortestFrom]
      split
      · next coefficient found =>
          exact ofScaled?_coefficientAt found
      · exact induction

/-- The text of a number consists of its sign and of parts that are rounded to the number. -/
theorem textChars_eq_parts (x : Binary64) :
    ∃ parts : Parts, parts.WellFormed ∧
      x.textChars = (if x.negative then '-' :: parts.chars else parts.chars) ∧
      ofScaled? x.negative parts.coefficient parts.scale = some x := by
  by_cases zero : x.isZero = true
  · refine ⟨{ whole := ['0'], fraction := ['0'], exponent := none },
      ⟨.inl rfl, by simp [Text.isAsciiDigit], .inl (by simp)⟩, ?_, ?_⟩
    · rw [textChars, if_pos zero]
      rfl
    · rw [x.eq_signedZero (beq_iff_eq.mp zero)]
      rfl
  · have nonzero : x.mantissa ≠ 0 := fun same => zero (beq_iff_eq.mpr same)
    have reads := x.ofScaled?_shortestFrom nonzero (pointPlace x.numerator x.denominator)
      (List.range' 1 17)
    have written : x.shortest = shortestFrom x (pointPlace x.numerator x.denominator)
        (List.range' 1 17) := by
      rw [shortest, if_neg zero]
    rw [← written] at reads
    have coefficient : x.shortest.1 ≠ 0 := by
      intro none
      rw [none, ofScaled?, if_pos rfl] at reads
      rw [← Option.some.inj reads] at nonzero
      exact nonzero rfl
    rcases digitsAndPoint_spec coefficient x.shortest.2 with ⟨significant, value⟩
    rcases shows_placePoint significant (digitsAndPoint x.shortest.1 x.shortest.2).2 with
      ⟨parts, chars, wellFormed, same⟩
    refine ⟨parts, wellFormed, ?_, ?_⟩
    · simp only [textChars, if_neg zero, chars]
    · rw [ofScaled?_congr x.negative (same.trans value.symm), reads]

end Binary64

end TableSource
