import TableSource.Raw.Literal

/-!
# Keys

A key is configured by the environment of the program, which may hold bytes that are no text.  It
hands each of them out as a surrogate, a code point that stands for no character, so a key is a
sequence of code points.  Surrogates have no bytes of their own: a key that holds one cannot be
encoded.
-/

namespace TableSource

/-- A code point of a key. -/
inductive CodePoint where
  | char (c : Char)
  /-- A surrogate, by its distance from the first one. -/
  | surrogate (distance : Fin 0x800)
  deriving DecidableEq, Repr

namespace CodePoint

def isSurrogate : CodePoint → Bool
  | .char _ => false
  | .surrogate _ => true

def char? : CodePoint → Option Char
  | .char c => some c
  | .surrogate _ => none

end CodePoint

/-- A run of surrogates, which keeps a key from being encoded. -/
structure SurrogateRun where
  /-- How many code points stand before the run. -/
  place : Nat
  first : Fin 0x800
  length : Nat
  deriving DecidableEq, Repr

/-- The report of a run of surrogates. -/
def SurrogateRun.message (run : SurrogateRun) : String :=
  let subject :=
    if run.length = 1 then
      " '\\u" ++ String.ofList (Raw.hexDigits 4 (0xD800 + run.first)) ++ "' in position " ++
        toString run.place
    else "s in position " ++ toString run.place ++ "-" ++ toString (run.place + run.length - 1)
  "'utf-8' codec can't encode character" ++ subject ++ ": surrogates not allowed"

structure Key where
  points : List CodePoint
  deriving DecidableEq, Repr, Inhabited

namespace Key

def ofText (text : String) : Key :=
  { points := text.toList.map .char }

instance : Coe String Key :=
  ⟨ofText⟩

def isEmpty (key : Key) : Bool :=
  key.points.isEmpty

/-- The first run of surrogates among code points that stand behind a number of others. -/
def firstRun? (place : Nat) : List CodePoint → Option SurrogateRun
  | [] => none
  | .char _ :: rest => firstRun? (place + 1) rest
  | .surrogate first :: rest =>
    some { place, first, length := (rest.takeWhile CodePoint.isSurrogate).length + 1 }

/-- The characters of a key as a text. -/
def text (key : Key) : String :=
  String.ofList (key.points.filterMap CodePoint.char?)

/-- The bytes of a key, unless it holds a surrogate. -/
def utf8 (key : Key) : Except SurrogateRun ByteArray :=
  match firstRun? 0 key.points with
  | some run => .error run
  | none => .ok key.text.toUTF8

end Key

end TableSource
