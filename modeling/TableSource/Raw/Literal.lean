import TableSource.Number.Shortest
import TableSource.Raw.Basic
import TableSource.Text.Printable

/-!
# Literal texts of values

The text in which messages and nested texts show a value: words for the constants, quoted texts
and bytes, brackets for the containers, and a constructor with its arguments for dates, decimals
and typed filter nodes.  An integer of too many digits has no text, and neither has a value that
is nested too deeply.
-/

namespace TableSource

/-- Why a value has no text form, or not the form that something is read from. -/
inductive TextFailure where
  /-- An integer has more digits than a text may hold. -/
  | overlongInteger
  /-- Containers are nested too deeply. -/
  | tooDeep
  /-- A key of a mapping is of a kind that a message cannot hold. -/
  | keyKind
  /-- A value is of a kind that a message cannot hold. -/
  | valueKind
  /-- A floating-point value is not finite where a message needs a number. -/
  | notFinite
  /-- A local clock shows no time of the calendar at a moment that is looked up. -/
  | offCalendar (side : CalendarSide)
  /-- The instant of a clock reading leaves the calendar. -/
  | outsideCalendar
  /-- A child of a typed group, of the kind that is named, is no typed node. -/
  | notNode (kind : String)
  /-- A value of the kind that is named has no items. -/
  | notIterable (kind : String)
  deriving DecidableEq, Repr

/-- The report of a failure. -/
def TextFailure.message : TextFailure → String
  | .overlongInteger =>
    "Exceeds the limit (4300 digits) for integer string conversion; " ++
      "use sys.set_int_max_str_digits() to increase the limit"
  | .tooDeep => "maximum recursion depth exceeded"
  | .keyKind => "keys must be str, int, float, bool or None"
  | .valueKind => "Object is not JSON serializable"
  | .notFinite => "Out of range float values are not JSON compliant"
  | .offCalendar side => "year " ++ toString side.year ++ " is out of range"
  | .outsideCalendar => "date value out of range"
  | .notNode kind => "'" ++ kind ++ "' object has no attribute 'to_dict'"
  | .notIterable kind => "'" ++ kind ++ "' object is not iterable"

namespace Raw

/-- The name that reports have for the kind of a value. -/
def kind : Raw → String
  | .null => "NoneType"
  | .bool _ => "bool"
  | .int _ => "int"
  | .float _ => "float"
  | .decimal _ => "decimal.Decimal"
  | .date _ => "datetime.date"
  | .reading _ => "datetime.datetime"
  | .text _ => "str"
  | .bytes _ => "bytes"
  | .list _ => "list"
  | .tuple _ => "tuple"
  | .mapping _ => "dict"
  | .leaf _ _ _ => "FilterLeaf"
  | .group _ _ => "FilterGroup"

/-- The nesting of containers that texts are written for. -/
def maxNesting : Nat := 900

/-- The text of an integer, unless it has too many digits. -/
def integerText (n : Int) : Except TextFailure String :=
  match Numeral.wholeText? n with
  | some digits => .ok digits
  | none => .error .overlongInteger

/-! ## Quoted texts -/

/-- A number in lower-case hexadecimal digits, padded to a width. -/
def hexDigits (width value : Nat) : List Char :=
  let digits := Nat.toDigits 16 value
  List.replicate (width - digits.length) '0' ++ digits

/-- The quotation mark of a text: the single one, unless only it occurs inside. -/
def quoteFor (hasSingle hasDouble : Bool) : Char :=
  if hasSingle && !hasDouble then '"' else '\''

def quotedChar (quote c : Char) : List Char :=
  if c = quote ∨ c = '\\' then ['\\', c]
  else if c = '\n' then ['\\', 'n']
  else if c = '\r' then ['\\', 'r']
  else if c = '\t' then ['\\', 't']
  else if Text.isPrintable c then [c]
  else if c.toNat < 0x100 then '\\' :: 'x' :: hexDigits 2 c.toNat
  else if c.toNat < 0x10000 then '\\' :: 'u' :: hexDigits 4 c.toNat
  else '\\' :: 'U' :: hexDigits 8 c.toNat

/-- A text in quotation marks. -/
def quoted (value : String) : String :=
  let cs := value.toList
  let quote := quoteFor (cs.contains '\'') (cs.contains '"')
  String.ofList (quote :: (cs.flatMap (quotedChar quote) ++ [quote]))

def quotedByte (quote : Char) (byte : UInt8) : List Char :=
  let c := Char.ofNat byte.toNat
  if c = quote ∨ c = '\\' then ['\\', c]
  else if c = '\n' then ['\\', 'n']
  else if c = '\r' then ['\\', 'r']
  else if c = '\t' then ['\\', 't']
  else if 0x20 ≤ byte.toNat ∧ byte.toNat < 0x7F then [c]
  else '\\' :: 'x' :: hexDigits 2 byte.toNat

/-- Bytes in quotation marks after a `b`. -/
def quotedBytes (value : List UInt8) : String :=
  let quote := quoteFor (value.contains 39) (value.contains 34)
  String.ofList ('b' :: quote :: (value.flatMap (quotedByte quote) ++ [quote]))

/-! ## Dates -/

/-- The date as a constructor with its fields. -/
def dateLiteral (value : CivilDate) : String :=
  "datetime.date(" ++ toString value.year ++ ", " ++ toString value.month ++ ", " ++
    toString value.day ++ ")"

/-- The offset of a clock as a constructor with its fields, whole days going to the past. -/
def offsetLiteral (offset : Int) : String :=
  if offset = 0 then "datetime.timezone.utc"
  else
    let perDay : Int := microsPerDay
    let days := offset / perDay
    let seconds := offset % perDay / 1000000
    let micros := offset % 1000000
    let fields :=
      (if days = 0 then [] else ["days=" ++ toString days]) ++
      (if seconds = 0 then [] else ["seconds=" ++ toString seconds]) ++
      (if micros = 0 then [] else ["microseconds=" ++ toString micros])
    "datetime.timezone(datetime.timedelta(" ++ String.intercalate ", " fields ++ "))"

/-- A clock reading as a constructor with its fields; trailing zero seconds are left out. -/
def readingLiteral (value : Reading) : String :=
  let t := value.shown
  let onDay := t.date
  let small :=
    if t.microsecond ≠ 0 then [t.second, t.microsecond]
    else if t.second ≠ 0 then [t.second]
    else []
  let fields := ([onDay.year, onDay.month, onDay.day, t.hour, t.minute] ++ small).map toString
  let fold := if value.fold then ["fold=1"] else []
  let offset :=
    match value.offset with
    | none => []
    | some offset => ["tzinfo=" ++ offsetLiteral offset]
  "datetime.datetime(" ++ String.intercalate ", " (fields ++ fold ++ offset) ++ ")"

/-! ## Values -/

/-- The literal text of a value, with a bound on the nesting of containers. -/
def literalWithin : Nat → Raw → Except TextFailure String
  | _, .null => .ok "None"
  | _, .bool value => .ok (if value then "True" else "False")
  | _, .int value => integerText value
  | _, .float value => .ok value.text
  | _, .decimal value => .ok ("Decimal('" ++ value.text ++ "')")
  | _, .date value => .ok (dateLiteral value)
  | _, .reading value => .ok (readingLiteral value)
  | _, .text value => .ok (quoted value)
  | _, .bytes value => .ok (quotedBytes value)
  | 0, _ => .error .tooDeep
  | depth + 1, .list items => do
    let texts ← items.mapM (literalWithin depth)
    return "[" ++ String.intercalate ", " texts ++ "]"
  | depth + 1, .tuple items => do
    let texts ← items.mapM (literalWithin depth)
    return "(" ++ String.intercalate ", " texts ++ (if items.length = 1 then ",)" else ")")
  | depth + 1, .mapping entries => do
    let texts ← entries.mapM fun entry => do
      let key ← literalWithin depth entry.1
      let value ← literalWithin depth entry.2
      return key ++ ": " ++ value
    return "\x7b" ++ String.intercalate ", " texts ++ "\x7d"
  | depth + 1, .leaf feature operator value => do
    let featureText ← literalWithin depth feature
    let operatorText ← literalWithin depth operator
    let valueText ← literalWithin depth value
    return "FilterLeaf(feature=" ++ featureText ++ ", op=" ++ operatorText ++ ", value=" ++
      valueText ++ ")"
  | depth + 1, .group operator children => do
    let texts ← children.mapM (literalWithin depth)
    return "FilterGroup(op=" ++ quoted operator ++ ", children=(" ++
      String.intercalate ", " texts ++ (if children.length = 1 then ",))" else "))")

def literal (value : Raw) : Except TextFailure String :=
  literalWithin maxNesting value

/-- The text that a value is shown as on its own: texts, dates and decimals without quotation. -/
def shown : Raw → Except TextFailure String
  | .text value => .ok value
  | .decimal value => .ok value.text
  | .date value => .ok (String.ofList (Instant.dateChars value))
  | .reading value => .ok (String.ofList (value.chars ' '))
  | value => literal value

end Raw

end TableSource
