import TableSource.Raw.Literal

/-!
# JSON texts of values

A value is written as JSON with a choice of separators, of whether characters beyond ASCII are
escaped, and of what becomes of values that JSON has no form for.  Fixed sequences are written as
arrays; keys that are numbers, constants or null become texts.
-/

namespace TableSource

/-- The choices in writing JSON. -/
structure JsonStyle where
  /-- What stands between two items. -/
  itemSeparator : String
  /-- What stands between a key and its value. -/
  keySeparator : String
  /-- Whether characters beyond ASCII are escaped. -/
  asciiOnly : Bool
  /-- Whether infinities and "not a number" are written as words. -/
  allowNotFinite : Bool
  /-- Whether a value without a JSON form is written as the text it is shown as. -/
  showOthers : Bool

namespace JsonStyle

/-- Blanks after the separators, ASCII only, and a text for every value. -/
def spaced : JsonStyle :=
  { itemSeparator := ", ", keySeparator := ": ", asciiOnly := true, allowNotFinite := true
    showOthers := true }

/-- No blanks, all characters as they are, and only values that JSON has a form for. -/
def compact : JsonStyle :=
  { itemSeparator := ",", keySeparator := ":", asciiOnly := false, allowNotFinite := false
    showOthers := false }

end JsonStyle

namespace Raw

/-! ## Strings -/

/-- The escape of a code unit of sixteen bits. -/
def unitEscape (unit : Nat) : List Char :=
  '\\' :: 'u' :: hexDigits 4 unit

/-- The escape of a character, as a surrogate pair beyond the first plane. -/
def codeEscape (code : Nat) : List Char :=
  if code < 0x10000 then unitEscape code
  else
    unitEscape (0xD800 + (code - 0x10000) / 0x400) ++ unitEscape (0xDC00 + (code - 0x10000) % 0x400)

/-- One character of a JSON string. -/
def jsonChar (asciiOnly : Bool) (c : Char) : List Char :=
  if c = '"' then ['\\', '"']
  else if c = '\\' then ['\\', '\\']
  else if c = '\n' then ['\\', 'n']
  else if c = '\r' then ['\\', 'r']
  else if c = '\t' then ['\\', 't']
  else if c.toNat = 8 then ['\\', 'b']
  else if c.toNat = 12 then ['\\', 'f']
  else if c.toNat < 0x20 then unitEscape c.toNat
  else if asciiOnly ∧ 0x7F ≤ c.toNat then codeEscape c.toNat
  else [c]

def jsonString (asciiOnly : Bool) (value : String) : String :=
  String.ofList ('"' :: (value.toList.flatMap (jsonChar asciiOnly) ++ ['"']))

/-! ## Values -/

def jsonFloat (style : JsonStyle) : Floating → Except TextFailure String
  | .finite x => .ok x.text
  | .infinite negative =>
    if style.allowNotFinite then .ok (if negative then "-Infinity" else "Infinity")
    else .error .notFinite
  | .nan => if style.allowNotFinite then .ok "NaN" else .error .notFinite

def jsonKey (style : JsonStyle) : Raw → Except TextFailure String
  | .text value => .ok value
  | .float value => jsonFloat style value
  | .bool value => .ok (if value then "true" else "false")
  | .null => .ok "null"
  | .int value => integerText value
  | _ => .error .keyKind

/-- The JSON text of a value, with a bound on the nesting of containers. -/
def jsonWithin (style : JsonStyle) : Nat → Raw → Except TextFailure String
  | _, .null => .ok "null"
  | _, .bool value => .ok (if value then "true" else "false")
  | _, .int value => integerText value
  | _, .float value => jsonFloat style value
  | _, .text value => .ok (jsonString style.asciiOnly value)
  | 0, _ => .error .tooDeep
  | depth + 1, .list items | depth + 1, .tuple items => do
    let texts ← items.mapM (jsonWithin style depth)
    return "[" ++ String.intercalate style.itemSeparator texts ++ "]"
  | depth + 1, .mapping entries => do
    let texts ← entries.mapM fun entry => do
      let key ← jsonKey style entry.1
      let value ← jsonWithin style depth entry.2
      return jsonString style.asciiOnly key ++ style.keySeparator ++ value
    return "\x7b" ++ String.intercalate style.itemSeparator texts ++ "\x7d"
  | _ + 1, value =>
    if style.showOthers then do
      let words ← value.shown
      return jsonString style.asciiOnly words
    else .error .valueKind

def json (style : JsonStyle) (value : Raw) : Except TextFailure String :=
  jsonWithin style maxNesting value

end Raw

end TableSource
