import TableSource.Number.Binary64
import TableSource.Text.Blank
import TableSource.Text.Digit

/-!
# Reading and writing numerals

Whole numbers and decimal fractions as people spell them: blanks around, a sign, digits of any
script, and single underscores between digits.  A whole number is read and written with at most
4300 digits, leading zeros included; a longer one has no text form.  Around a whole number the
information separators of ASCII do not count as blanks.
-/

namespace TableSource.Numeral

open Text

/-! ## Whole numbers -/

/-- The largest number of digits of a whole number in a text. -/
def maxDigits : Nat := 4300

/-- A leading sign and what follows it; a numeral without one is positive. -/
def splitSign : List Char → Bool × List Char
  | '-' :: rest => (true, rest)
  | '+' :: rest => (false, rest)
  | cs => (false, cs)

/-- The values of a run of digits in which single underscores may stand between digits. -/
def digitValues? : List Char → Option (List Nat)
  | [] => none
  | [c] => (digitValue? c).map fun value => [value]
  | c :: '_' :: rest =>
    match digitValue? c, digitValues? rest with
    | some value, some values => some (value :: values)
    | _, _ => none
  | c :: rest =>
    match digitValue? c, digitValues? rest with
    | some value, some values => some (value :: values)
    | _, _ => none

/-- The natural number that decimal digits write, the most significant first. -/
def ofDigits (digits : List Nat) : Nat :=
  digits.foldl (fun total digit => 10 * total + digit) 0

def signed (negative : Bool) (magnitude : Nat) : Int :=
  if negative then -(magnitude : Int) else (magnitude : Int)

/-- The whole number that a list of characters spells. -/
def wholeOfChars? (cs : List Char) : Option Int :=
  let (negative, body) := splitSign (dropEnds (fun c => isBlank c && !isSeparator c) cs)
  match digitValues? body with
  | none => none
  | some digits =>
    if maxDigits < digits.length then none else some (signed negative (ofDigits digits))

def whole? (text : String) : Option Int :=
  wholeOfChars? text.toList

/-- Whether an integer has more digits than a text may hold. -/
@[irreducible]
def isOverlong (n : Int) : Bool :=
  Nat.pow 10 maxDigits ≤ n.natAbs

/-- The decimal text of an integer, which one with too many digits does not have. -/
def wholeText? (n : Int) : Option String :=
  if isOverlong n then none else some (toString n)

/-! ## Decimal fractions -/

/-- A decimal numeral: a signed coefficient times a power of ten. -/
structure Scientific where
  negative : Bool
  coefficient : Nat
  scale : Int
  deriving DecidableEq, Repr

/-- Writes digits of every script as ASCII digits. -/
def asciiDigits (cs : List Char) : List Char :=
  cs.map fun c =>
    match digitValue? c with
    | some value => digitChar value
    | none => c

def startsWithDigit : List Char → Bool
  | c :: _ => isAsciiDigit c
  | [] => false

/-- Takes out the underscores that stand between digits; there is no result when one stands
anywhere else.  The flag says whether a digit has just been read. -/
def dropUnderscores? : Bool → List Char → Option (List Char)
  | _, [] => some []
  | afterDigit, c :: rest =>
    if c = '_' then
      if afterDigit && startsWithDigit rest then dropUnderscores? false rest else none
    else (dropUnderscores? (isAsciiDigit c) rest).map (c :: ·)

/-- The exponent at the end of a numeral, zero where there is none. -/
def exponent? : List Char → Option Int
  | [] => some 0
  | c :: rest =>
    if c = 'e' ∨ c = 'E' then
      let (negative, digits) := splitSign rest
      if digits.isEmpty || !digits.all isAsciiDigit then none
      else some (signed negative (ofDigits (digits.map asciiDigitValue)))
    else none

/-- Reads an unsigned numeral of ASCII characters with an optional point and exponent. -/
def unsigned? (negative : Bool) (cs : List Char) : Option Scientific :=
  let whole := cs.takeWhile isAsciiDigit
  let afterWhole := cs.dropWhile isAsciiDigit
  let (fraction, rest) :=
    match afterWhole with
    | '.' :: more => (more.takeWhile isAsciiDigit, more.dropWhile isAsciiDigit)
    | _ => ([], afterWhole)
  if whole.isEmpty && fraction.isEmpty then none
  else
    (exponent? rest).map fun exponent =>
      { negative
        coefficient := ofDigits ((whole ++ fraction).map asciiDigitValue)
        scale := exponent - (fraction.length : Int) }

/-- The decimal numeral that a list of characters spells. -/
def scientificOfChars? (cs : List Char) : Option Scientific :=
  match dropUnderscores? false (asciiDigits (trimChars cs)) with
  | none => none
  | some plain =>
    let (negative, body) := splitSign plain
    unsigned? negative body

/-- The finite number nearest to the decimal numeral that a text spells. -/
def finite? (text : String) : Option Binary64 :=
  (scientificOfChars? text.toList).bind fun numeral =>
    Binary64.ofScaled? numeral.negative numeral.coefficient numeral.scale

/-- The floating-point value that a decimal numeral stands for, an infinity when it is too large. -/
def Scientific.toFloating (numeral : Scientific) : Floating :=
  match Binary64.ofScaled? numeral.negative numeral.coefficient numeral.scale with
  | some x => .finite x
  | none => .infinite numeral.negative

end TableSource.Numeral
