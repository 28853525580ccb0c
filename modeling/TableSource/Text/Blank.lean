/-!
# Blank characters

The white space that is dropped around a value before it is read: the Unicode spaces and line
ends and the four information separators of ASCII.  The zero-width no-break space is not blank.
-/

namespace TableSource.Text

/-- Whether a character is dropped from the ends of a text. -/
def isBlank (c : Char) : Bool :=
  let code := c.toNat
  (9 ≤ code && code ≤ 13) || (0x1C ≤ code && code ≤ 0x20) || code == 0x85 || code == 0xA0 ||
    code == 0x1680 || (0x2000 ≤ code && code ≤ 0x200A) || code == 0x2028 || code == 0x2029 ||
    code == 0x202F || code == 0x205F || code == 0x3000

/-- Whether a character is one of the four information separators of ASCII. -/
def isSeparator (c : Char) : Bool :=
  0x1C ≤ c.toNat && c.toNat ≤ 0x1F

/-- A list of characters without those at its two ends that satisfy a condition. -/
def dropEnds (condition : Char → Bool) (cs : List Char) : List Char :=
  ((cs.dropWhile condition).reverse.dropWhile condition).reverse

/-- A list of characters without the blanks at its two ends. -/
def trimChars (cs : List Char) : List Char :=
  dropEnds isBlank cs

/-- A text without the blanks at its two ends. -/
def trim (text : String) : String :=
  String.ofList (trimChars text.toList)

/-- The parts of a list between the places where a separator stands. -/
def splitChars (separator : Char) : List Char → List (List Char)
  | [] => [[]]
  | c :: rest =>
    if c = separator then [] :: splitChars separator rest
    else
      match splitChars separator rest with
      | [] => [[c]]
      | part :: parts => (c :: part) :: parts

/-- The parts of a text between the places where a separator stands. -/
def split (separator : Char) (text : String) : List String :=
  (splitChars separator text.toList).map String.ofList

end TableSource.Text
