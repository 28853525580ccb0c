import TableSource.Number.Numeral

/-!
# The environment

Settings are read from named variables.  Two files can add variables: one of the mode that the
program runs in, and then one of every mode.  They only add what is missing, so a variable that is
set keeps its value, and the file of the mode goes before the other.
-/

namespace TableSource

/-- Named variables; the first of a name counts. -/
abbrev Environment := List (String × String)

/-- The files with variables, each with its name and its text. -/
abbrev EnvironmentFiles := List (String × String)

namespace Environment

/-! ## Variables -/

def get? (environment : Environment) (name : String) : Option String :=
  (environment.find? fun entry => entry.1 == name).map (·.2)

/-- The value of a variable, or another one where it is not set. -/
def getD (environment : Environment) (name fallback : String) : String :=
  (environment.get? name).getD fallback

/-- The whole number that a variable spells, or another one where it spells none. -/
def integer (environment : Environment) (name : String) (fallback : Int) : Int :=
  (Numeral.whole? (environment.getD name "")).getD fallback

/-- Sets a variable, unless it is set. -/
def add (environment : Environment) (entry : String × String) : Environment :=
  if (environment.get? entry.1).isSome then environment else environment ++ [entry]

/-! ## Files -/

/-- The variable that a line of a file sets; blank lines and comments set none. -/
def ofLine? (line : String) : Option (String × String) :=
  let cs := Text.trimChars line.toList
  if cs.head? == some '#' || !cs.contains '=' then none
  else
    let name := cs.takeWhile (· != '=')
    let value := (cs.dropWhile (· != '=')).drop 1
    some (Text.trim (String.ofList name), Text.trim (String.ofList value))

/-- The variables that a file sets, the last one of a name first. -/
def ofFile (text : String) : Environment :=
  ((Text.split '\n' text).filterMap ofLine?).reverse

/-- Adds the variables of a file that are missing. -/
def addFile (environment : Environment) (files : EnvironmentFiles) (name : String) : Environment :=
  match files.find? fun file => file.1 == name with
  | some file => (ofFile file.2).foldl add environment
  | none => environment

/-- The mode of an environment where none is asked for. -/
def defaultMode : String := "development"

/-- The mode that is asked for, or else that of the environment. -/
def mode (environment : Environment) (asked : Option String) : String :=
  match asked with
  | some mode => if mode.isEmpty then environment.getD "APP_ENV" defaultMode else mode
  | none => environment.getD "APP_ENV" defaultMode

/-- Adds what is missing from the files of a mode, and gives the mode. -/
def load (environment : Environment) (files : EnvironmentFiles) (asked : Option String) :
    String × Environment :=
  let mode := environment.mode asked
  (mode, (environment.addFile files (".env." ++ mode)).addFile files ".env")

end Environment

end TableSource
