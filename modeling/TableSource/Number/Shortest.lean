import TableSource.Number.Binary64

/-!
# Shortest decimal text of a number

A number is written with the fewest significant digits that read back as the same number, and
among texts of that length with the nearest one.  Where no text of at most seventeen digits reads
back, the exact decimal expansion would be written; it always does.  Exponents from `-5` to `15`
are written positionally, with a point and at least one decimal; others with a sign and at least
two digits after `e`.
-/

namespace TableSource.Binary64

/-- The decimal exponent just above a positive quotient: the least power of ten that exceeds it. -/
def pointPlace (num den : Nat) : Int :=
  let guess : Int := (leadingBit num den * 1233) / 4096 + 1
  if den * Nat.pow 10 guess.toNat ≤ num * Nat.pow 10 (-guess).toNat then guess + 1
  else if num * Nat.pow 10 (1 - guess).toNat < den * Nat.pow 10 (guess - 1).toNat then guess - 1
  else guess

/-- Whether a coefficient times a power of ten reads as the magnitude of a number. -/
def readsBack (x : Binary64) (coefficient : Nat) (scale : Int) : Bool :=
  ofScaled? x.negative coefficient scale == some x

/-- The nearest coefficient at a power of ten that reads back, if either neighbour does. -/
def coefficientAt? (x : Binary64) (scale : Int) : Option Nat :=
  let num := x.numerator * Nat.pow 10 (-scale).toNat
  let den := x.denominator * Nat.pow 10 scale.toNat
  let near := nearest num den
  let floor := num / den
  let far := if near = floor then floor + 1 else floor
  if readsBack x near scale then some near
  else if readsBack x far scale then some far
  else none

/-- The first coefficient and power of ten that read back, trying the given numbers of digits. -/
def shortestFrom (x : Binary64) (place : Int) : List Nat → Nat × Int
  | [] => (x.numerator * Nat.pow 5 (-x.exponent).toNat, -((-x.exponent).toNat : Int))
  | digits :: more =>
    let scale := place - (digits : Int)
    match coefficientAt? x scale with
    | some coefficient => (coefficient, scale)
    | none => shortestFrom x place more

/-- The shortest coefficient and power of ten for the magnitude of a number. -/
def shortest (x : Binary64) : Nat × Int :=
  if x.isZero then (0, 0)
  else shortestFrom x (pointPlace x.numerator x.denominator) (List.range' 1 17)

/-- The decimal digits of a coefficient without its trailing zeros, and the place of the decimal
point before which they stand. -/
def digitsAndPoint (coefficient : Nat) (scale : Int) : List Char × Int :=
  let digits := Nat.toDigits 10 coefficient
  let kept := (digits.reverse.dropWhile (· == '0')).reverse
  (if kept.isEmpty then ['0'] else kept, (digits.length : Int) + scale)

/-- An exponent with its sign and at least two digits. -/
def exponentText (exponent : Int) : List Char :=
  let digits := Nat.toDigits 10 exponent.natAbs
  (if exponent < 0 then '-' else '+') :: (if digits.length < 2 then '0' :: digits else digits)

/-- Digits with a decimal point before the given place, positional for places from `-3` to `16`. -/
def placePoint (digits : List Char) (point : Int) : List Char :=
  if -4 < point ∧ point ≤ 16 then
    if point ≤ 0 then '0' :: '.' :: (List.replicate (-point).toNat '0' ++ digits)
    else if (digits.length : Int) ≤ point then
      digits ++ List.replicate (point.toNat - digits.length) '0' ++ ['.', '0']
    else digits.take point.toNat ++ '.' :: digits.drop point.toNat
  else
    match digits with
    | [] => []
    | [digit] => digit :: 'e' :: exponentText (point - 1)
    | digit :: more => digit :: '.' :: (more ++ 'e' :: exponentText (point - 1))

/-- The characters of the shortest text of a number. -/
def textChars (x : Binary64) : List Char :=
  let written := x.shortest
  let placed :=
    if x.isZero then ['0', '.', '0']
    else
      let form := digitsAndPoint written.1 written.2
      placePoint form.1 form.2
  if x.negative then '-' :: placed else placed

def text (x : Binary64) : String :=
  String.ofList x.textChars

end TableSource.Binary64

namespace TableSource.Floating

def text : Floating → String
  | .finite x => x.text
  | .infinite true => "-inf"
  | .infinite false => "inf"
  | .nan => "nan"

end TableSource.Floating
