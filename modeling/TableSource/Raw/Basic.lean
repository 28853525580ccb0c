import TableSource.Number.Decimal
import TableSource.Time.Instant

/-!
# Untrusted values

A raw value is anything a caller, a decoded message or a database row may hold: the values of a
JSON message, and besides them decimals, dates, clock readings, bytes, fixed sequences and mappings
with keys of any kind.  Two more forms are filter nodes that were typed before; they take part in
filters like the mappings that they stand for.
-/

namespace TableSource

/-- An untrusted value. -/
inductive Raw where
  | null
  | bool (value : Bool)
  | int (value : Int)
  | float (value : Floating)
  | decimal (value : Decimal)
  | date (value : CivilDate)
  | reading (value : Reading)
  | text (value : String)
  | bytes (value : List UInt8)
  | list (items : List Raw)
  | tuple (items : List Raw)
  | mapping (entries : List (Raw × Raw))
  | leaf (feature operator value : Raw)
  | group (operator : String) (children : List Raw)
  deriving Repr, Inhabited

namespace Raw

/-! ## Equality -/

mutual

/-- Whether two values are of one form and hold the same. -/
def same : Raw → Raw → Bool
  | .null, .null => true
  | .bool x, .bool y => x == y
  | .int x, .int y => x == y
  | .float x, .float y => x == y
  | .decimal x, .decimal y => x == y
  | .date x, .date y => x == y
  | .reading x, .reading y => x == y
  | .text x, .text y => x == y
  | .bytes x, .bytes y => x == y
  | .list xs, .list ys | .tuple xs, .tuple ys => sameItems xs ys
  | .mapping xs, .mapping ys => sameEntries xs ys
  | .leaf feature operator value, .leaf otherFeature otherOperator otherValue =>
    same feature otherFeature && same operator otherOperator && same value otherValue
  | .group operator children, .group otherOperator others =>
    operator == otherOperator && sameItems children others
  | _, _ => false

def sameItems : List Raw → List Raw → Bool
  | [], [] => true
  | x :: xs, y :: ys => same x y && sameItems xs ys
  | _, _ => false

def sameEntries : List (Raw × Raw) → List (Raw × Raw) → Bool
  | [], [] => true
  | (key, value) :: xs, (otherKey, otherValue) :: ys =>
    same key otherKey && same value otherValue && sameEntries xs ys
  | _, _ => false

end

mutual

theorem same_iff (x y : Raw) : same x y = true ↔ x = y := by
  cases x <;> cases y <;> simp [same, sameItems_iff, sameEntries_iff, same_iff, and_assoc]

theorem sameItems_iff (xs ys : List Raw) : sameItems xs ys = true ↔ xs = ys := by
  cases xs <;> cases ys <;> simp [sameItems, sameItems_iff, same_iff]

theorem sameEntries_iff (xs ys : List (Raw × Raw)) : sameEntries xs ys = true ↔ xs = ys := by
  rcases xs with _ | ⟨⟨key, value⟩, xs⟩ <;> rcases ys with _ | ⟨⟨otherKey, otherValue⟩, ys⟩ <;>
    simp [sameEntries, sameEntries_iff, same_iff]

end

instance : DecidableEq Raw :=
  fun x y => decidable_of_iff _ (same_iff x y)

/-! ## Sequences and mappings -/

/-- The items of a list or a fixed sequence. -/
def items? : Raw → Option (List Raw)
  | .list items | .tuple items => some items
  | _ => none

/-- Whether a value is a list, a fixed sequence or a mapping. -/
def isContainer : Raw → Bool
  | .list _ | .tuple _ | .mapping _ => true
  | _ => false

/-- The value under a text key, null where there is none. -/
def valueUnder (entries : List (Raw × Raw)) (name : String) : Raw :=
  match entries.find? fun entry => match entry.1 with | .text key => key == name | _ => false with
  | some entry => entry.2
  | none => .null

/-- A decimal number in the form that drops the trailing zeros of its coefficient. -/
def normalDecimal (negative : Bool) (coefficient : Nat) (scale : Int) : Bool × Nat × Int :=
  if coefficient = 0 then (false, 0, 0)
  else
    let digits := Nat.toDigits 10 coefficient
    let zeros := (digits.reverse.takeWhile (· == '0')).length
    (negative, coefficient / Nat.pow 10 zeros, scale + zeros)

/-- The number that a value is equal to as the key of a mapping. -/
def keyNumber? : Raw → Option (Bool × Nat × Int)
  | .bool value => some (normalDecimal false value.toNat 0)
  | .int value => some (normalDecimal (decide (value < 0)) value.natAbs 0)
  | .float (.finite x) =>
    some (normalDecimal x.negative (x.numerator * Nat.pow 5 (-x.exponent).toNat)
      (-((-x.exponent).toNat : Int)))
  | .decimal (.finite negative coefficient exponent) =>
    some (normalDecimal negative coefficient exponent)
  | _ => none

/-- Whether two values are one key of a mapping.  Numbers are the same key when they are equal,
whatever their kinds, and nothing else is the same key as a number; clock readings are when they
are of one moment.  The first argument bounds the nesting of fixed sequences that are compared by
their items. -/
def sameKey : Nat → Raw → Raw → Bool
  | depth, x, y =>
    match keyNumber? x, keyNumber? y with
    | some a, some b => a == b
    | some _, none | none, some _ => false
    | none, none =>
      match depth, x, y with
      | depth + 1, .tuple xs, .tuple ys =>
        xs.length == ys.length && (xs.zip ys).all fun pair => sameKey depth pair.1 pair.2
      | _, .float .nan, .float .nan => false
      | _, .reading x, .reading y => x.sameMoment y
      | _, x, y => x == y

/-- Puts a value under a key: in the place of an entry with the same key, or else at the end. -/
def putEntry (entries : List (Raw × Raw)) (key value : Raw) : List (Raw × Raw) :=
  match entries with
  | [] => [(key, value)]
  | entry :: rest =>
    if sameKey 16 entry.1 key then (entry.1, value) :: rest else entry :: putEntry rest key value

/-- The mapping that holds pairs of a key and a value, a later value replacing an earlier one. -/
def ofPairs (pairs : List (Raw × Raw)) : Raw :=
  .mapping (pairs.foldl (fun entries pair => putEntry entries pair.1 pair.2) [])

/-- The mapping with text keys that are known to differ. -/
def record (fields : List (String × Raw)) : Raw :=
  .mapping (fields.map fun field => (.text field.1, field.2))

/-! ## Numbers in a database answer -/

/-- Whether a value counts as absent: null, false, zero, or nothing in it. -/
def isEmptyValue : Raw → Bool
  | .null => true
  | .bool value => !value
  | .int value => value == 0
  | .float (.finite x) => x.isZero
  | .decimal d => d.isZero
  | .text value => value.isEmpty
  | .bytes value => value.isEmpty
  | .list items | .tuple items => items.isEmpty
  | .mapping entries => entries.isEmpty
  | _ => false

def isOne : Raw → Bool
  | .bool value => value
  | .int value => value == 1
  | .float (.finite x) => x.toRat == 1
  | .decimal d => d.isOne
  | _ => false

end Raw

end TableSource
