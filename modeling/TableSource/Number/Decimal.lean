import TableSource.Number.Numeral

/-!
# Decimals

Exact decimal numbers as a database column of unlimited precision returns them: a signed
coefficient with a power of ten, an infinity, or a mark for "not a number" that may carry a
payload.  A decimal keeps the power of ten it was written with, which its text shows.
-/

namespace TableSource

inductive Decimal where
  | finite (negative : Bool) (coefficient : Nat) (exponent : Int)
  | infinite (negative : Bool)
  | nan (negative : Bool) (signalling : Bool) (payload : Nat)
  deriving DecidableEq, Repr

namespace Decimal

def finite? : Decimal → Option Binary64
  | .finite negative coefficient exponent => Binary64.ofScaled? negative coefficient exponent
  | _ => none

/-- Whether a decimal has no fraction that would be lost in an integer, and that integer; a
fraction is dropped. -/
def truncate? : Decimal → Option Int
  | .finite negative coefficient exponent =>
    some (Numeral.signed negative
      (if 0 ≤ exponent then coefficient * Nat.pow 10 exponent.toNat
       else if (Binary64.decimalLength coefficient : Int) + exponent ≤ 0 then 0
       else coefficient / Nat.pow 10 (-exponent).toNat))
  | _ => none

/-- Whether a decimal is an ordinary number equal to one. -/
def isOne : Decimal → Bool
  | .finite false coefficient exponent =>
    if 0 ≤ exponent then coefficient == 1 && exponent == 0
    else (Binary64.decimalLength coefficient : Int) + exponent == 1 &&
      coefficient == Nat.pow 10 (-exponent).toNat
  | _ => false

def isZero : Decimal → Bool
  | .finite _ coefficient _ => coefficient == 0
  | _ => false

/-! ## Text -/

def signText (negative : Bool) : List Char :=
  if negative then ['-'] else []

/-- The exponent after the digits, with its sign. -/
def exponentText (exponent : Int) : List Char :=
  if exponent = 0 then []
  else 'E' :: (if exponent < 0 then '-' else '+') :: Nat.toDigits 10 exponent.natAbs

/-- The text of a decimal: positional while the exponent is not positive and at most six zeros
follow the point, otherwise with one digit before the point and an exponent. -/
def textChars : Decimal → List Char
  | .infinite negative => signText negative ++ "Infinity".toList
  | .nan negative signalling payload =>
    signText negative ++ (if signalling then "sNaN" else "NaN").toList ++
      (if payload = 0 then [] else Nat.toDigits 10 payload)
  | .finite negative coefficient exponent =>
    let digits := Nat.toDigits 10 coefficient
    let point := exponent + (digits.length : Int)
    let place := if exponent ≤ 0 ∧ -6 < point then point else 1
    let body :=
      if place ≤ 0 then '0' :: '.' :: (List.replicate (-place).toNat '0' ++ digits)
      else if (digits.length : Int) ≤ place then
        digits ++ List.replicate (place.toNat - digits.length) '0'
      else digits.take place.toNat ++ '.' :: digits.drop place.toNat
    signText negative ++ body ++ exponentText (point - place)

def text (d : Decimal) : String :=
  String.ofList d.textChars

/-- The payload after a mark for "not a number". -/
def payload? (cs : List Char) : Option Nat :=
  if cs.all Text.isAsciiDigit then some (Numeral.ofDigits (cs.map Text.asciiDigitValue)) else none

def ofText? (text : String) : Option Decimal :=
  let plain := Numeral.asciiDigits ((Text.trimChars text.toList).filter (· != '_'))
  let (negative, body) := Numeral.splitSign plain
  let lowered := body.map Char.toLower
  if lowered = "inf".toList ∨ lowered = "infinity".toList then some (.infinite negative)
  else if "snan".toList.isPrefixOf lowered then
    (payload? (lowered.drop 4)).map fun payload => .nan negative true payload
  else if "nan".toList.isPrefixOf lowered then
    (payload? (lowered.drop 3)).map fun payload => .nan negative false payload
  else
    (Numeral.unsigned? negative body).map fun numeral =>
      .finite numeral.negative numeral.coefficient numeral.scale

end Decimal

end TableSource
