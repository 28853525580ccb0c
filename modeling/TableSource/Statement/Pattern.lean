/-!
# Patterns

In a pattern the percent sign stands for any characters, the underscore for one character, and the
backslash for the next character itself.  Escaping these three makes a text stand for itself.
-/

namespace TableSource.Pattern

/-- The characters that do not stand for themselves. -/
def isSpecial (c : Char) : Bool :=
  c == '\\' || c == '%' || c == '_'

/-- A text with a backslash before every special character. -/
def escapeChars (cs : List Char) : List Char :=
  cs.flatMap fun c => if isSpecial c then ['\\', c] else [c]

/-- The pattern that only the text itself matches. -/
def escape (text : String) : String :=
  String.ofList (escapeChars text.toList)

def containing (part : String) : String :=
  "%" ++ escape part ++ "%"

def startingWith (start : String) : String :=
  escape start ++ "%"

end TableSource.Pattern
