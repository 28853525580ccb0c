/-!
# Finite binary64 numbers

A finite binary64 number is kept in its one normal form, a sign and an integer mantissa times a
power of two, so two numbers are the same exactly when their fields are.  Everything that produces
a number goes through one rounding of an exact quotient to the nearest number, a tie going to the
even mantissa.  Decimal texts, integers, decimals and quotients of numbers are all read this way,
and no machine arithmetic is involved.
-/

namespace TableSource

/-- The range of fields that a normal form has: the mantissa has 53 bits unless the exponent is
the least one. -/
def Binary64.Normal (mantissa : Nat) (exponent : Int) : Prop :=
  mantissa < Nat.pow 2 53 ∧ -1074 ≤ exponent ∧ exponent ≤ 971 ∧
    (Nat.pow 2 52 ≤ mantissa ∨ exponent = -1074)

instance (mantissa : Nat) (exponent : Int) : Decidable (Binary64.Normal mantissa exponent) :=
  inferInstanceAs (Decidable (_ ∧ _ ∧ _ ∧ _))

/-- A finite binary64 number, the mantissa times two to the exponent with a sign. -/
structure Binary64 where
  negative : Bool
  mantissa : Nat
  exponent : Int
  normal : Binary64.Normal mantissa exponent
  deriving DecidableEq, Repr

namespace Binary64

/-! ## Exact values -/

/-- The numerator of the magnitude over `denominator`. -/
def numerator (x : Binary64) : Nat :=
  x.mantissa * Nat.pow 2 x.exponent.toNat

/-- The power of two that the magnitude is a fraction of. -/
def denominator (x : Binary64) : Nat :=
  Nat.pow 2 (-x.exponent).toNat

/-- The exact value. -/
def toRat (x : Binary64) : Rat :=
  let magnitude : Rat := (x.numerator : Rat) / (x.denominator : Rat)
  if x.negative then -magnitude else magnitude

/-- The zero of a given sign. -/
def signedZero (negative : Bool) : Binary64 :=
  ⟨negative, 0, -1074, by decide⟩

def zero : Binary64 :=
  signedZero false

/-- Whether the value is zero, of either sign. -/
def isZero (x : Binary64) : Bool :=
  x.mantissa == 0

instance : Inhabited Binary64 := ⟨zero⟩

/-! ## Rounding -/

/-- The integer nearest to a quotient, a tie going to the even one. -/
def nearest (num den : Nat) : Nat :=
  let quotient := num / den
  let rest := 2 * (num % den)
  if rest < den then quotient
  else if den < rest then quotient + 1
  else quotient + quotient % 2

/-- The exponent of the leading bit of a positive quotient. -/
def leadingBit (num den : Nat) : Int :=
  let guess : Int := (Nat.log2 num : Int) - (Nat.log2 den : Int)
  if den * Nat.pow 2 guess.toNat ≤ num * Nat.pow 2 (-guess).toNat then guess else guess - 1

/-- The exponent of the last place that a number near the quotient has. -/
def lastPlace (num den : Nat) : Int :=
  max (leadingBit num den - 52) (-1074)

/-- A number from its fields, if they are in normal form. -/
def ofFields? (negative : Bool) (mantissa : Nat) (exponent : Int) : Option Binary64 :=
  if normal : Normal mantissa exponent then some ⟨negative, mantissa, exponent, normal⟩ else none

/-- The number nearest to a quotient; there is none when it is too large.  A quotient that is too
small becomes the zero of its sign. -/
def ofRatio? (negative : Bool) (num den : Nat) : Option Binary64 :=
  if num = 0 then some (signedZero negative)
  else
    let place := lastPlace num den
    let mantissa := nearest (num * Nat.pow 2 (-place).toNat) (den * Nat.pow 2 place.toNat)
    if mantissa = Nat.pow 2 53 then ofFields? negative (Nat.pow 2 52) (place + 1)
    else ofFields? negative mantissa place

/-- The number nearest to an integer. -/
def ofInt? (n : Int) : Option Binary64 :=
  ofRatio? (decide (n < 0)) n.natAbs 1

/-- The number nearest to a rational number. -/
def ofRat? (q : Rat) : Option Binary64 :=
  ofRatio? (decide (q < 0)) q.num.natAbs q.den

/-- How many decimal digits a natural number has; zero has one. -/
def decimalLength (n : Nat) : Nat :=
  (Nat.toDigits 10 n).length

/-- The number nearest to a coefficient times a power of ten.  Values above `10 ^ 310` are too
large and those below `10 ^ -326` vanish, whatever their digits, which keeps the powers small. -/
def ofScaled? (negative : Bool) (coefficient : Nat) (scale : Int) : Option Binary64 :=
  if coefficient = 0 then some (signedZero negative)
  else
    let size := (decimalLength coefficient : Int) + scale
    if 311 < size then none
    else if size < -326 then some (signedZero negative)
    else ofRatio? negative (coefficient * Nat.pow 10 scale.toNat) (Nat.pow 10 (-scale).toNat)

/-! ## Arithmetic -/

/-- The quotient by a positive integer, rounded. -/
def divNat? (x : Binary64) (divisor : Nat) : Option Binary64 :=
  ofRatio? x.negative x.numerator (x.denominator * divisor)

/-- The magnitude without its fraction. -/
def wholePart (x : Binary64) : Nat :=
  x.numerator / x.denominator

/-- The numerator over `denominator` of the fraction of the magnitude. -/
def fractionNumerator (x : Binary64) : Nat :=
  x.numerator % x.denominator

/-- Whether the value has no fraction. -/
def isWhole (x : Binary64) : Bool :=
  x.fractionNumerator == 0

/-- The value without its fraction, as an integer. -/
def truncate (x : Binary64) : Int :=
  if x.negative then -(x.wholePart : Int) else (x.wholePart : Int)

/-- Numerical order; the two zeros are equal in it. -/
def le (x y : Binary64) : Bool :=
  decide (x.toRat ≤ y.toRat)

/-- Numerical equality; the two zeros are equal in it. -/
def same (x y : Binary64) : Bool :=
  decide (x.toRat = y.toRat)

end Binary64

/-- A floating-point value as a caller may hand it in: a finite number, an infinity, or no number
at all. -/
inductive Floating where
  | finite (x : Binary64)
  | infinite (negative : Bool)
  | nan
  deriving DecidableEq, Repr, Inhabited

/-- The finite number that a floating-point value holds. -/
def Floating.finite? : Floating → Option Binary64
  | .finite x => some x
  | _ => none

end TableSource
