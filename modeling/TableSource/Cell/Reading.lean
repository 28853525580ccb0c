import TableSource.Cell.Basic
import TableSource.Raw.JsonText
import TableSource.Time.Epoch
import TableSource.Time.IsoText

/-!
# Reading untrusted values

Each feature type has a reader from untrusted values to cells.  Numbers are read from texts and all
kinds of numbers; truth values from numbers and from words; instants from epoch milliseconds, ISO
texts, dates and clock readings; texts from everything but null.  A value that a reader refuses is
replaced by the default of the type when a cell is needed whatever the value is.
-/

namespace TableSource.Cell

/-! ## Numbers -/

/-- The finite number that a value stands for. -/
def number? : Raw → Option Binary64
  | .bool value => Binary64.ofInt? value.toNat
  | .int value => Binary64.ofInt? value
  | .float value => value.finite?
  | .decimal value => value.finite?
  | .text value => Numeral.finite? value
  | _ => none

/-! ## Truth values -/

/-- The words for "true", in lower case. -/
def trueWords : List String :=
  ["true", "1", "yes", "y", "on"]

/-- The words for "false", in lower case. -/
def falseWords : List String :=
  ["false", "0", "no", "n", "off", ""]

/-- The truth value of a number: whether it is a finite number other than zero. -/
def truthOfNumber (value : Raw) : Bool :=
  match number? value with
  | some x => !x.isZero
  | none => false

/-- The truth value that a word in any case stands for. -/
def truthOfWord? (word : String) : Option Bool :=
  let plain := Text.lower (Text.trim word)
  if plain ∈ trueWords then some true
  else if plain ∈ falseWords then some false
  else none

def truth? : Raw → Option Bool
  | .bool value => some value
  | .int value => some (truthOfNumber (.int value))
  | .float value => some (truthOfNumber (.float value))
  | .decimal value => some (truthOfNumber (.decimal value))
  | .text value => truthOfWord? value
  | _ => none

/-! ## Instants -/

/-- An ISO text in which a final letter for the universal clock is written as an offset. -/
def withOffset (cs : List Char) : List Char :=
  match cs.getLast? with
  | some 'Z' | some 'z' => cs.dropLast ++ "+00:00".toList
  | _ => cs

/-- The instant that a text stands for: epoch milliseconds where it spells a number, and otherwise
an ISO text. -/
def instantOfText? (value : String) : Option Instant :=
  let plain := Text.trimChars value.toList
  match Numeral.finite? (String.ofList plain) with
  | some millis => Epoch.instant? millis
  | none => (IsoText.readingOfChars? (withOffset plain)).bind Reading.instant?

def instant? : Raw → Option Instant
  | .reading value => value.instant?
  | .date value => Instant.ofFields? value 0 0 0 0
  | .int value => (Binary64.ofInt? value).bind Epoch.instant?
  | .float value => value.finite?.bind Epoch.instant?
  | .text value => instantOfText? value
  | _ => none

/-! ## Texts -/

/-- The text of a value, where a failure to write it as JSON is settled: a key of the wrong kind
gives the literal text instead, and everything else no text. -/
def textOfJson? (value : Raw) : Except TextFailure (Option String) :=
  match value.json .spaced with
  | .ok written => .ok (some written)
  | .error .keyKind | .error .valueKind => value.literal.map some
  | .error _ => .ok none

def text? : Raw → Except TextFailure (Option String)
  | .null => .ok none
  | .text value => .ok (some value)
  | .bool value => .ok (some (if value then "true" else "false"))
  | .int value => .ok (Numeral.wholeText? value)
  | .float (.finite value) =>
    .ok (some (if value.isWhole then toString value.truncate else value.text))
  | .float value => .ok (some value.text)
  | .decimal value => .ok (some value.text)
  | .reading value => .ok (value.instant?.map Instant.wire)
  | value => textOfJson? value

/-! ## Reading by type -/

/-- The cell that a value is read as for a type, if it is valid for the type. -/
def read? (type : FeatureType) (value : Raw) : Except TextFailure (Option Cell) :=
  match type with
  | .numeric => .ok ((number? value).map .number)
  | .logic => .ok ((truth? value).map .truth)
  | .date => .ok ((instant? value).map .instant)
  | .nominal | .text => (text? value).map (·.map .text)

/-- The cell of a type that a value becomes, the default where it is not valid. -/
def coerce (type : FeatureType) (value : Raw) : Except TextFailure Cell :=
  (read? type value).map (·.getD (default type))

end TableSource.Cell
