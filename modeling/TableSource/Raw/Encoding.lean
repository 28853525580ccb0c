/-!
# Decoding the bytes of a message

The bytes of a JSON message are text in UTF-8, UTF-16 or UTF-32.  A byte order mark tells the form;
without one, the places of the null bytes among the first four tell it, since a message begins with
two ASCII characters.
-/

namespace TableSource.Encoding

/-- The forms that a message can have. -/
inductive Form where
  | utf8
  | utf16 (bigEndian : Bool)
  | utf32 (bigEndian : Bool)
  deriving DecidableEq, Repr

/-- The form of a message and the number of bytes of its byte order mark. -/
def formOf (bytes : List UInt8) : Form × Nat :=
  if bytes.take 4 = [0, 0, 0xFE, 0xFF] then (.utf32 true, 4)
  else if bytes.take 4 = [0xFF, 0xFE, 0, 0] then (.utf32 false, 4)
  else if bytes.take 2 = [0xFE, 0xFF] then (.utf16 true, 2)
  else if bytes.take 2 = [0xFF, 0xFE] then (.utf16 false, 2)
  else if bytes.take 3 = [0xEF, 0xBB, 0xBF] then (.utf8, 3)
  else
    match bytes with
    | a :: b :: c :: d :: _ =>
      if a = 0 then (if b = 0 then .utf32 true else .utf16 true, 0)
      else if b = 0 then (if c = 0 ∧ d = 0 then .utf32 false else .utf16 false, 0)
      else (.utf8, 0)
    | [a, b] => if a = 0 then (.utf16 true, 0) else if b = 0 then (.utf16 false, 0) else (.utf8, 0)
    | _ => (.utf8, 0)

/-- The character with a code, unless the code is that of a surrogate or too large. -/
def charOfCode? (code : Nat) : Option Char :=
  if valid : code.isValidChar then some (Char.ofNatAux code valid) else none

/-- The units of two bytes, if the number of bytes is even. -/
def units16? (bigEndian : Bool) : List UInt8 → Option (List Nat)
  | [] => some []
  | a :: b :: rest =>
    (units16? bigEndian rest).map fun units =>
      (if bigEndian then a.toNat * 256 + b.toNat else b.toNat * 256 + a.toNat) :: units
  | _ => none

/-- The units of four bytes, if the number of bytes is a multiple of four. -/
def units32? (bigEndian : Bool) : List UInt8 → Option (List Nat)
  | [] => some []
  | a :: b :: c :: d :: rest =>
    (units32? bigEndian rest).map fun units =>
      (if bigEndian then ((a.toNat * 256 + b.toNat) * 256 + c.toNat) * 256 + d.toNat
       else ((d.toNat * 256 + c.toNat) * 256 + b.toNat) * 256 + a.toNat) :: units
  | _ => none

/-- Whether a unit is the first of a surrogate pair. -/
def isHighSurrogate (unit : Nat) : Bool :=
  0xD800 ≤ unit && unit < 0xDC00

/-- Whether a unit is the second of a surrogate pair. -/
def isLowSurrogate (unit : Nat) : Bool :=
  0xDC00 ≤ unit && unit < 0xE000

def pairCode (high low : Nat) : Nat :=
  0x10000 + (high - 0xD800) * 0x400 + (low - 0xDC00)

/-- Joins surrogate pairs to the characters they stand for. -/
def joinSurrogates : List Nat → List Nat
  | [] => []
  | [unit] => [unit]
  | high :: low :: rest =>
    if isHighSurrogate high && isLowSurrogate low then pairCode high low :: joinSurrogates rest
    else high :: joinSurrogates (low :: rest)

def charsOfCodes? (codes : List Nat) : Option (List Char) :=
  codes.mapM charOfCode?

/-- The characters of a message. -/
def decode? (bytes : List UInt8) : Option (List Char) :=
  let form := formOf bytes
  let body := bytes.drop form.2
  match form.1 with
  | .utf8 => (String.fromUTF8? ⟨⟨body⟩⟩).map String.toList
  | .utf16 bigEndian => (units16? bigEndian body).bind fun units =>
      charsOfCodes? (joinSurrogates units)
  | .utf32 bigEndian => (units32? bigEndian body).bind charsOfCodes?

end TableSource.Encoding
