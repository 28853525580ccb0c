import TableSource.Cell.Reading
import TableSource.Filter.Record
import TableSource.Raw.JsonReading

/-!
# Admitting filters

An untrusted value becomes a filter by dropping everything in it that is not valid: leaves that
name no feature, or no operator of the feature's type, or hold a value that cannot be read; groups
nested too deeply; and groups that have lost all their children.  What is left are trees of cells.

A dropped leaf is reported with the literal text of what is wrong in it.  A value without a literal
text, such as an integer of too many digits, makes the report fail, and the failure is the result.
So does a typed node that has no mapping to be examined as.
-/

namespace TableSource.Filter

/-! ## Limits -/

/-- The depth of the deepest groups that are admitted, the root having depth zero. -/
def maxDepth : Int := 10

/-- The largest number of values that one leaf may list. -/
def maxListed : Nat := 1000

/-- How many levels of groups may stand at a depth and below it. -/
def levelsAt (depth : Int) : Nat :=
  (maxDepth + 1 - depth).toNat

/-! ## Leaves -/

/-- Drops a leaf with a report that shows a value. -/
def refuse {β : Type} (value : Raw) : Except TextFailure (Option β) :=
  value.literal.map fun _ => none

/-- Reads a value that a feature of a type is compared with.  Texts are not compared with
containers. -/
def readScalar (type : FeatureType) (value : Raw) : Except TextFailure (Option Cell) :=
  if (type == .nominal || type == .text) && value.isContainer then .ok none
  else do
    match ← Cell.read? type value with
    | some cell => return some cell
    | none => refuse value

/-- Reads values up to the first that cannot be read. -/
def readScalars (type : FeatureType) : List Raw → Except TextFailure (Option (List Cell))
  | [] => .ok (some [])
  | value :: rest => do
    match ← readScalar type value with
    | none => return none
    | some cell =>
      match ← readScalars type rest with
      | none => return none
      | some cells => return some (cell :: cells)

/-- Reads a text that is looked for inside values; it may not be empty. -/
def readPart (value : Raw) : Except TextFailure (Option String) :=
  if value.isContainer then .ok none
  else do
    match ← Cell.text? value with
    | some part => return if part.isEmpty then none else some part
    | none => return none

/-- Reads the value of a leaf with a given operator. -/
def readTest (type : FeatureType) (operator : Operator) (value : Raw) :
    Except TextFailure (Option (Test Cell)) :=
  match operator with
  | .compare comparison => do
    match ← readScalar type value with
    | some cell => return some (.compare comparison cell)
    | none => return none
  | .between =>
    match value.items? with
    | some [low, high] => do
      match ← readScalar type low with
      | none => return none
      | some lowCell =>
        match ← readScalar type high with
        | none => return none
        | some highCell => return some (.between lowCell highCell)
    | _ => .ok none
  | .among =>
    match value.items? with
    | some items =>
      if items.isEmpty || maxListed < items.length then .ok none
      else do
        match ← readScalars type items with
        | some cells => return some (.among cells)
        | none => return none
    | none => .ok none
  | .contains => return (← readPart value).map .contains
  | .startsWith => return (← readPart value).map .startsWith

/-- The operator that a value names, if features of a type can be tested by it. -/
def operatorFor? (type : FeatureType) : Raw → Option Operator
  | .text name => (Operator.ofWord? name).filter type.allows
  | _ => none

def acceptLeaf (schema : Schema) (entries : List (Raw × Raw)) :
    Except TextFailure (Option (Node Cell)) :=
  match schema.lookup? (Raw.valueUnder entries "feature") with
  | none => refuse (Raw.valueUnder entries "feature")
  | some feature =>
    match operatorFor? feature.type (Raw.valueUnder entries "op") with
    | none => refuse (Raw.valueUnder entries "op")
    | some operator => do
      match ← readTest feature.type operator (Raw.valueUnder entries "value") with
      | some test => return some (.leaf feature.index test)
      | none => return none

/-! ## Trees -/

def connectiveOf? : Raw → Option Connective
  | .text word => Connective.named? word
  | _ => none

/-- Collects what is left of values by an admission. -/
def collect (accept : Raw → Except TextFailure (Option (Node Cell))) :
    List Raw → Except TextFailure (List (Node Cell))
  | [] => .ok []
  | value :: rest => do
    match ← accept value with
    | some node => return node :: (← collect accept rest)
    | none => collect accept rest

/-- A group of the children that are left; without any there is no group. -/
def groupOf (connective : Connective) (children : List (Node Cell)) : Option (Node Cell) :=
  if children.isEmpty then none else some (.group connective children)

/-- What is left of a value where a number of levels of groups may stand. -/
def acceptWithin (schema : Schema) : (levels : Nat) → Raw → Except TextFailure (Option (Node Cell))
  | levels, value => do
    match ← recordOf value with
    | .mapping entries =>
      match connectiveOf? (Raw.valueUnder entries "op") with
      | none => acceptLeaf schema entries
      | some connective =>
        match levels with
        | 0 => return none
        | below + 1 =>
          match (Raw.valueUnder entries "children").items? with
          | none => return none
          | some children =>
            return groupOf connective (← collect (acceptWithin schema below) children)
    | _ => return none

/-- What is left of a value that stands at a depth. -/
def accept (schema : Schema) (value : Raw) (depth : Int) : Except TextFailure (Option (Node Cell)) :=
  acceptWithin schema (levelsAt depth) value

/-- The filter of a request: a JSON text or message, a value, or none.  A text that is no JSON is
no filter. -/
def ofRequest (schema : Schema) : Raw → Except TextFailure (Option (Node Cell))
  | .text written =>
    match Json.ofText? written with
    | some value => accept schema value 0
    | none => .ok none
  | .bytes message =>
    match Json.ofBytes? message with
    | some value => accept schema value 0
    | none => .ok none
  | value => accept schema value 0

end TableSource.Filter
