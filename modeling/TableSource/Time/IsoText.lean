import TableSource.Time.Instant

/-!
# Reading ISO 8601 texts

A text holds a date and, after one separating character of any kind, a time of day with an
optional offset.  A date is written as year, month and day, or as year, week and day of the week;
hyphens and colons may be left out.  Seconds and minutes may be left out too, and decimals of the
second beyond the sixth are dropped.

Three freedoms of this reader go beyond the standard.  The decimals may follow the seconds without
a point.  Where an offset follows, one more character after a complete field of the time is passed
over, and so is whatever follows six decimals.  A text whose time ends in a null character is read
as though it ended before it.
-/

namespace TableSource.IsoText

open Text

/-! ## Digits -/

/-- Reads a fixed number of ASCII digits. -/
def digits? : Nat → List Char → Option (Nat × List Char)
  | count, cs =>
    let field := cs.take count
    if field.length = count ∧ field.all isAsciiDigit then
      some (field.foldl (fun total c => 10 * total + asciiDigitValue c) 0, cs.drop count)
    else none

/-! ## Dates -/

/-- Where the date ends in a text with a week, and the separator stands. -/
def weekEnd (cs : List Char) : Nat :=
  let digitsAfter := ((cs.drop 7).takeWhile isAsciiDigit).length
  if digitsAfter < 2 then 7 + digitsAfter
  else if digitsAfter % 2 = 1 then 7
  else 8

/-- Where the date ends and the separator stands.  A week without a day can be followed by a hyphen
as separator, which is assumed when a digit follows the character after it. -/
def dateEnd (cs : List Char) : Nat :=
  if cs.length = 7 then 7
  else if cs[4]? = some '-' then
    if cs[5]? = some 'W' then
      if cs[8]? = some '-' then
        if (cs[10]?).any isAsciiDigit then 8 else 10
      else 8
    else 10
  else if cs[4]? = some 'W' then weekEnd cs
  else 8

/-- Reads the hyphen that a date with hyphens has at this place. -/
def hyphen? (hyphens : Bool) (cs : List Char) : Option (List Char) :=
  if hyphens then
    match cs with
    | '-' :: rest => some rest
    | _ => none
  else some cs

/-- The day that the characters of a date name. -/
def day? (cs : List Char) : Option Nat :=
  match digits? 4 cs with
  | none => none
  | some (year, afterYear) =>
    let hyphens := afterYear.head? == some '-'
    let rest := if hyphens then afterYear.tail else afterYear
    match rest with
    | 'W' :: afterMark =>
      match digits? 2 afterMark with
      | none => none
      | some (week, afterWeek) =>
        if afterWeek.isEmpty then Calendar.dayOfWeek? year week 1
        else
          match (hyphen? hyphens afterWeek).bind (digits? 1) with
          | none => none
          | some (day, _) => Calendar.dayOfWeek? year week day
    | _ =>
      match digits? 2 rest with
      | none => none
      | some (month, afterMonth) =>
        match (hyphen? hyphens afterMonth).bind (digits? 2) with
        | none => none
        | some (day, _) =>
          let date : CivilDate := { year, month, day }
          if Calendar.isDate date then some (Calendar.dayNumber date) else none

/-! ## Times of day -/

/-- The fields of a time of day or of an offset, and whether something was left unread. -/
structure Fields where
  hour : Nat
  minute : Nat
  second : Nat
  micros : Nat
  leftover : Bool
  deriving DecidableEq, Repr

/-- Reads the decimals of a second: up to six digits, which all that is left must be when it is
shorter, and then any number of digits more. -/
def fraction? (hour minute second : Nat) (cs : List Char) : Option Fields :=
  let count := min 6 cs.length
  match digits? count cs with
  | none => none
  | some (value, rest) =>
    some
      { hour, minute, second
        micros := value * Nat.pow 10 (6 - count)
        leftover := (rest.dropWhile isAsciiDigit).head?.any (· != '\x00') }

/-- What may follow a complete field: nothing, one character that is passed over, or more. -/
inductive Following where
  | stop (leftover : Bool)
  | more (c : Char) (rest : List Char)

/-- How a time continues after a complete field. -/
def following : List Char → Following
  | [] => .stop false
  | [c] => .stop (c != '\x00')
  | c :: rest => .more c rest

/-- Reads the seconds and what follows them. -/
def seconds? (colons : Bool) (hour minute : Nat) (cs : List Char) : Option Fields :=
  match digits? 2 cs with
  | none => none
  | some (second, rest) =>
    match following rest with
    | .stop leftover => some { hour, minute, second, micros := 0, leftover }
    | .more c tail =>
      if (colons && c == ':') || c == '.' || c == ',' then fraction? hour minute second tail
      else if colons then none
      else fraction? hour minute second rest

/-- Reads the minutes and what follows them. -/
def minutes? (colons : Bool) (hour : Nat) (cs : List Char) : Option Fields :=
  match digits? 2 cs with
  | none => none
  | some (minute, rest) =>
    match following rest with
    | .stop leftover => some { hour, minute, second := 0, micros := 0, leftover }
    | .more c tail =>
      if colons && c == ':' then seconds? colons hour minute tail
      else if c == '.' || c == ',' then fraction? hour minute 0 tail
      else if colons then none
      else seconds? colons hour minute rest

/-- Reads the hours and what follows them; a colon after the hours means colons throughout. -/
def fields? (cs : List Char) : Option Fields :=
  match digits? 2 cs with
  | none => none
  | some (hour, rest) =>
    match following rest with
    | .stop leftover => some { hour, minute := 0, second := 0, micros := 0, leftover }
    | .more c tail =>
      if c == ':' then minutes? true hour tail
      else if c == '.' || c == ',' then fraction? hour 0 0 tail
      else minutes? false hour rest

def beginsOffset (c : Char) : Bool :=
  c == '+' || c == '-' || c == 'Z'

/-- The microseconds of an offset of less than a day to either side.  An offset of less than one
second counts as none. -/
def offset? (cs : List Char) : Option Int :=
  match cs with
  | ['Z'] | 'Z' :: '\x00' :: _ => some 0
  | sign :: rest =>
    if sign = 'Z' then none
    else
      match fields? rest with
      | none => none
      | some fields =>
        let seconds := (fields.hour * 60 + fields.minute) * 60 + fields.second
        let size := if seconds = 0 then 0 else seconds * 1000000 + fields.micros
        if fields.leftover || microsPerDay ≤ size then none
        else some (if sign = '-' then -(size : Int) else (size : Int))
  | [] => none

/-- The reading of a clock on a day, from the characters after the separator. -/
def timeOn? (day : Nat) (cs : List Char) : Option Reading :=
  let clock := cs.takeWhile (fun c => !beginsOffset c)
  let zone := cs.dropWhile (fun c => !beginsOffset c)
  match fields? clock with
  | none => none
  | some fields =>
    let shown? :=
      Instant.ofFields? (Calendar.dateOf day) fields.hour fields.minute fields.second fields.micros
    if zone.isEmpty then
      if fields.leftover then none
      else shown?.map fun shown => { shown, offset := none }
    else
      match offset? zone, shown? with
      | some offset, some shown => some { shown, offset := some offset }
      | _, _ => none

/-- The clock reading that a list of characters writes. -/
def readingOfChars? (cs : List Char) : Option Reading :=
  if cs.length < 7 then none
  else
    let place := dateEnd cs
    match day? (cs.take place) with
    | none => none
    | some day =>
      match cs.drop place with
      | [] => (Instant.midnight? day).map fun shown => { shown, offset := none }
      | _ :: rest => timeOn? day rest

/-- The clock reading that a text writes. -/
def reading? (text : String) : Option Reading :=
  readingOfChars? text.toList

end TableSource.IsoText
