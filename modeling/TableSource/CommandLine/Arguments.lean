import TableSource.Number.Numeral

/-!
# Command line arguments

Options are switches, or take one value, which follows as the next argument or after an equals
sign.  Long options may be shortened as long as only one fits, and one-letter switches may share an
argument.  An argument that looks like an option is none if it is a negative number or holds a
space.  Two hyphens after an equals sign stand for no value.  Everything that is left over is a
mistake, which is reported when all options were read.
-/

namespace TableSource.CommandLine

/-! ## Options -/

/-- The options. -/
inductive Flag where
  | help
  | version
  | host
  | tcpPort
  | environment
  | createTemplate
  deriving DecidableEq, Repr

def Flag.takesValue : Flag → Bool
  | .host | .tcpPort | .environment => true
  | .help | .version | .createTemplate => false

def spellings : List (String × Flag) :=
  [("-h", .help), ("--help", .help), ("--version", .version), ("-v", .version), ("--host", .host),
    ("--port", .tcpPort), ("--env", .environment), ("--create-env", .createTemplate)]

/-- What the options ask for. -/
structure Options where
  version : Bool := false
  host : Option String := none
  tcpPort : Option Int := none
  environment : Option String := none
  createTemplate : Bool := false
  deriving DecidableEq, Repr, Inhabited

/-- What a list of arguments comes to. -/
inductive Reading where
  | options (options : Options)
  | help
  /-- The arguments are no correct use of the program. -/
  | misuse
  deriving DecidableEq, Repr

/-! ## Single arguments -/

/-- What an argument is by itself. -/
inductive Argument where
  /-- A value, or something left over. -/
  | plain
  /-- Two hyphens, after which every argument is plain. -/
  | hyphens
  /-- An option that does not exist. -/
  | unknown
  /-- Several options fit. -/
  | ambiguous
  /-- An option, whether it has one letter, and the value that stands in the same argument. -/
  | option (flag : Flag) (short : Bool) (value : Option (List Char))
  deriving DecidableEq, Repr

/-- Whether characters are decimal digits of any script. -/
def areDigits (cs : List Char) : Bool :=
  cs.all fun c => (Text.digitValue? c).isSome

/-- Whether an argument is a negative number, with or without a point. -/
def isNegativeNumber (cs : List Char) : Bool :=
  match cs with
  | '-' :: rest =>
    let body := if rest.getLast? == some '\n' then rest.dropLast else rest
    let whole := body.takeWhile (· != '.')
    match body.dropWhile (· != '.') with
    | [] => !whole.isEmpty && areDigits whole
    | _ :: fraction => areDigits whole && !fraction.isEmpty && areDigits fraction
  | _ => false

def exactly? (cs : List Char) : Option Flag :=
  (spellings.find? fun entry => entry.1.toList == cs).map (·.2)

/-- Whether a spelling has one letter. -/
def isShort (cs : List Char) : Bool :=
  cs.length == 2

/-- The part before the first equals sign, and the part after it if there is one. -/
def splitValue (cs : List Char) : List Char × Option (List Char) :=
  match cs.dropWhile (· != '=') with
  | [] => (cs, none)
  | _ :: value => (cs.takeWhile (· != '='), some value)

/-- The options that an argument could be a shortened or joined spelling of. -/
def candidates (cs : List Char) : List Argument :=
  match cs with
  | '-' :: '-' :: _ =>
    let (start, value) := splitValue cs
    (spellings.filter fun entry => start.isPrefixOf entry.1.toList).map fun entry =>
      .option entry.2 (isShort entry.1.toList) value
  | _ =>
    (spellings.filter fun entry => entry.1.toList == cs.take 2).map fun entry =>
      .option entry.2 true (some (cs.drop 2))

/-- What an argument that is no exact spelling is. -/
def inexact (cs : List Char) : Argument :=
  match candidates cs with
  | [] => if isNegativeNumber cs || cs.contains ' ' then .plain else .unknown
  | [argument] => argument
  | _ => .ambiguous

/-- What an argument is by itself. -/
def classify (cs : List Char) : Argument :=
  match cs with
  | ['-', '-'] => .hyphens
  | '-' :: _ :: _ =>
    match exactly? cs with
    | some flag => .option flag (isShort cs) none
    | none =>
      match splitValue cs with
      | (start, some value) =>
        match exactly? start with
        | some flag => .option flag (isShort start) (some value)
        | none => inexact cs
      | (_, none) => inexact cs
  | _ => .plain

/-- Arguments with what each is; behind two hyphens every argument is plain. -/
def classifyAll : List (List Char) → List (List Char × Argument)
  | [] => []
  | cs :: rest =>
    match classify cs with
    | .hyphens => (cs, .hyphens) :: rest.map fun value => (value, .plain)
    | argument => (cs, argument) :: classifyAll rest

/-! ## All arguments -/

/-- The options with the value of an option taken back. -/
def clearValue (options : Options) : Flag → Options
  | .host => { options with host := none }
  | .tcpPort => { options with tcpPort := none }
  | .environment => { options with environment := none }
  | _ => options

def setValue (options : Options) (flag : Flag) (value : List Char) : Option Options :=
  match flag with
  | .host => some { options with host := some (String.ofList value) }
  | .environment => some { options with environment := some (String.ofList value) }
  | .tcpPort =>
    (Numeral.wholeOfChars? value).map fun number => { options with tcpPort := some number }
  | _ => none

def setSwitch (options : Options) : Flag → Options
  | .version => { options with version := true }
  | .createTemplate => { options with createTemplate := true }
  | _ => options

/-- The switches that share an argument, from the letters behind the hyphen.  Nothing may follow
them; there is no result when a letter is no switch. -/
def switches? : List Char → Option (List Flag)
  | [] => some []
  | letter :: rest =>
    match exactly? ['-', letter], switches? rest with
    | some flag, some flags => some (flag :: flags)
    | _, _ => none

/-- Sets switches in order, up to one that asks for help. -/
def setSwitches (options : Options) : List Flag → Reading
  | [] => .options options
  | .help :: _ => .help
  | flag :: rest => setSwitches (setSwitch options flag) rest

/-- The switches of an option that takes no value, with what stands behind it in the argument. -/
def switchesOf? (flag : Flag) (short : Bool) : Option (List Char) → Option (List Flag)
  | none => some [flag]
  | some letters =>
    if short && !letters.isEmpty then (switches? letters).map (flag :: ·) else none

/-- Reads classified arguments one by one; the flag says whether something was left over. -/
def readAll (options : Options) (leftOver : Bool) : List (List Char × Argument) → Reading
  | [] => if leftOver then .misuse else .options options
  | (_, .option flag short value) :: rest =>
    if flag.takesValue then
      match value, rest with
      | some value, rest =>
        if value = ['-', '-'] then readAll (clearValue options flag) leftOver rest
        else
          match setValue options flag value with
          | some next => readAll next leftOver rest
          | none => .misuse
      | none, (value, .plain) :: later =>
        match setValue options flag value with
        | some next => readAll next leftOver later
        | none => .misuse
      | none, _ => .misuse
    else
      match switchesOf? flag short value with
      | none => .misuse
      | some flags =>
        match setSwitches options flags with
        | .options next => readAll next leftOver rest
        | other => other
  | (_, _) :: rest => readAll options true rest

/-- Reads the arguments of a command line. -/
def read (arguments : List String) : Reading :=
  let classified := classifyAll (arguments.map String.toList)
  if classified.any fun entry => entry.2 == .ambiguous then .misuse else readAll {} false classified

end TableSource.CommandLine
