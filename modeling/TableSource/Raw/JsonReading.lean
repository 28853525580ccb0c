import TableSource.Number.Numeral
import TableSource.Raw.Basic
import TableSource.Raw.Encoding

/-!
# Reading JSON

A JSON text is read by the grammar of RFC 8259 with three additions: the words for infinities and
"not a number", the bound on the digits of an integer, and the bound on the nesting of containers.
A later member of an object replaces an earlier one with the same name.
-/

namespace TableSource.Json

/-- The nesting of arrays and objects that is read. -/
def maxNesting : Nat := 900

/-- Whether a character is white space between the tokens of a JSON text. -/
def isSpace (c : Char) : Bool :=
  c == ' ' || c == '\t' || c == '\n' || c == '\r'

/-- Passes over white space. -/
def skip (cs : List Char) : List Char :=
  cs.dropWhile isSpace

/-! ## Strings -/

/-- The value of a hexadecimal digit. -/
def hexValue? (c : Char) : Option Nat :=
  if '0' ≤ c ∧ c ≤ '9' then some (c.toNat - 48)
  else if 'a' ≤ c ∧ c ≤ 'f' then some (c.toNat - 87)
  else if 'A' ≤ c ∧ c ≤ 'F' then some (c.toNat - 55)
  else none

/-- The value of four hexadecimal digits. -/
def hexUnit? (a b c d : Char) : Option Nat := do
  let a ← hexValue? a
  let b ← hexValue? b
  let c ← hexValue? c
  let d ← hexValue? d
  return ((a * 16 + b) * 16 + c) * 16 + d

/-- The code of a character after a backslash. -/
def escapeCode? (c : Char) : Option Nat :=
  if c = '"' ∨ c = '\\' ∨ c = '/' then some c.toNat
  else if c = 'b' then some 8
  else if c = 'f' then some 12
  else if c = 'n' then some 10
  else if c = 'r' then some 13
  else if c = 't' then some 9
  else none

/-- The codes of a string up to its closing quotation mark, and what follows the mark. -/
def stringCodes? : List Char → Option (List Nat × List Char)
  | [] => none
  | '"' :: rest => some ([], rest)
  | '\\' :: 'u' :: a :: b :: c :: d :: rest =>
    match hexUnit? a b c d, stringCodes? rest with
    | some unit, some (codes, after) => some (unit :: codes, after)
    | _, _ => none
  | '\\' :: c :: rest =>
    match escapeCode? c, stringCodes? rest with
    | some code, some (codes, after) => some (code :: codes, after)
    | _, _ => none
  | c :: rest =>
    if c.toNat < 0x20 then none
    else
      match stringCodes? rest with
      | some (codes, after) => some (c.toNat :: codes, after)
      | none => none

/-- The text of a string, read from behind its opening quotation mark.  A surrogate without its
partner stands for no character and becomes the replacement character. -/
def string? (cs : List Char) : Option (String × List Char) :=
  (stringCodes? cs).map fun (codes, rest) =>
    let chars := (Encoding.joinSurrogates codes).map fun code =>
      (Encoding.charOfCode? code).getD (Char.ofNat 0xFFFD)
    (String.ofList chars, rest)

/-! ## Numbers -/

/-- The digits of the whole part: a lone zero, or digits that do not start with zero. -/
def wholeDigits (cs : List Char) : List Char × List Char :=
  match cs with
  | '0' :: rest => (['0'], rest)
  | _ => (cs.takeWhile Text.isAsciiDigit, cs.dropWhile Text.isAsciiDigit)

/-- The digits after a point; a point that no digit follows does not belong to the number. -/
def fractionDigits (cs : List Char) : List Char × List Char :=
  match cs with
  | '.' :: rest =>
    if Numeral.startsWithDigit rest then
      (rest.takeWhile Text.isAsciiDigit, rest.dropWhile Text.isAsciiDigit)
    else ([], cs)
  | _ => ([], cs)

/-- The exponent; a mark that no digits follow does not belong to the number. -/
def exponentPart (cs : List Char) : Option Int × List Char :=
  match cs with
  | c :: rest =>
    if c = 'e' ∨ c = 'E' then
      let (negative, body) := Numeral.splitSign rest
      if Numeral.startsWithDigit body then
        let digits := (body.takeWhile Text.isAsciiDigit).map Text.asciiDigitValue
        (some (Numeral.signed negative (Numeral.ofDigits digits)),
          body.dropWhile Text.isAsciiDigit)
      else (none, cs)
    else (none, cs)
  | [] => (none, [])

/-- Reads a number: an integer when it has neither a point nor an exponent. -/
def number? (negative : Bool) (cs : List Char) : Option (Raw × List Char) :=
  let (whole, afterWhole) := wholeDigits cs
  let (fraction, afterFraction) := fractionDigits afterWhole
  let (exponent, rest) := exponentPart afterFraction
  if whole.isEmpty then none
  else if fraction.isEmpty && exponent.isNone then
    if Numeral.maxDigits < whole.length then none
    else
      some (.int (Numeral.signed negative (Numeral.ofDigits (whole.map Text.asciiDigitValue))),
        rest)
  else
    let numeral : Numeral.Scientific :=
      { negative
        coefficient := Numeral.ofDigits ((whole ++ fraction).map Text.asciiDigitValue)
        scale := exponent.getD 0 - (fraction.length : Int) }
    some (.float numeral.toFloating, rest)

/-! ## Values -/

/-- What follows a word at the beginning of a list of characters. -/
def word? (word : String) (cs : List Char) : Option (List Char) :=
  let chars := word.toList
  if chars.isPrefixOf cs then some (cs.drop chars.length) else none

/-- Reads a value that is neither an array nor an object. -/
def scalar? (cs : List Char) : Option (Raw × List Char) :=
  match cs with
  | '"' :: rest => (string? rest).map fun (text, after) => (.text text, after)
  | '-' :: rest =>
    match word? "Infinity" rest with
    | some after => some (.float (.infinite true), after)
    | none => number? true rest
  | 'n' :: _ => (word? "null" cs).map fun after => (.null, after)
  | 't' :: _ => (word? "true" cs).map fun after => (.bool true, after)
  | 'f' :: _ => (word? "false" cs).map fun after => (.bool false, after)
  | 'N' :: _ => (word? "NaN" cs).map fun after => (.float .nan, after)
  | 'I' :: _ => (word? "Infinity" cs).map fun after => (.float (.infinite false), after)
  | _ => number? false cs

/-- Reads the items of an array up to its closing bracket, with a bound on their number. -/
def items? (value? : List Char → Option (Raw × List Char)) :
    Nat → List Char → Option (List Raw × List Char)
  | 0, _ => none
  | bound + 1, cs =>
    match value? (skip cs) with
    | none => none
    | some (item, afterItem) =>
      match skip afterItem with
      | ',' :: rest => (items? value? bound rest).map fun (items, after) => (item :: items, after)
      | ']' :: rest => some ([item], rest)
      | _ => none

/-- Reads the members of an object up to its closing brace, with a bound on their number. -/
def members? (value? : List Char → Option (Raw × List Char)) :
    Nat → List Char → Option (List (Raw × Raw) × List Char)
  | 0, _ => none
  | bound + 1, cs =>
    match skip cs with
    | '"' :: afterQuote =>
      match string? afterQuote with
      | none => none
      | some (name, afterName) =>
        match skip afterName with
        | ':' :: afterColon =>
          match value? (skip afterColon) with
          | none => none
          | some (member, afterMember) =>
            match skip afterMember with
            | ',' :: rest =>
              (members? value? bound rest).map fun (members, after) =>
                ((.text name, member) :: members, after)
            | '\x7d' :: rest => some ([(.text name, member)], rest)
            | _ => none
        | _ => none
    | _ => none

/-- Puts a member among earlier ones: in the place of one with the same name, or else at the
end. -/
def putMember (members : List (Raw × Raw)) (member : Raw × Raw) : List (Raw × Raw) :=
  if members.any (·.1 == member.1) then
    members.map fun earlier => if earlier.1 == member.1 then member else earlier
  else members ++ [member]

/-- Reads a value, with bounds on the number of items and on the nesting. -/
def value? (bound : Nat) : Nat → List Char → Option (Raw × List Char)
  | 0, cs => scalar? cs
  | depth + 1, cs =>
    match cs with
    | '[' :: rest =>
      match skip rest with
      | ']' :: after => some (.list [], after)
      | inside => (items? (value? bound depth) bound inside).map fun (items, after) =>
          (.list items, after)
    | '\x7b' :: rest =>
      match skip rest with
      | '\x7d' :: after => some (.mapping [], after)
      | inside => (members? (value? bound depth) bound inside).map fun (members, after) =>
          (.mapping (members.foldl putMember []), after)
    | _ => scalar? cs

/-- The value that a list of characters writes. -/
def ofChars? (cs : List Char) : Option Raw :=
  match value? (cs.length + 1) maxNesting (skip cs) with
  | some (value, rest) => if (skip rest).isEmpty then some value else none
  | none => none

def ofText? (text : String) : Option Raw :=
  ofChars? text.toList

/-- The value that the bytes of a message write. -/
def ofBytes? (bytes : List UInt8) : Option Raw :=
  (Encoding.decode? bytes).bind ofChars?

end TableSource.Json
