import TableSource.Filter.Basic
import TableSource.Raw.Wire

/-!
# Filters as values

A filter is written as nested mappings, a leaf with its feature, operator and value, a group with
its operator and children.  The same tree is also a typed value, which keeps instants and the
fixed sequences of values as they are; as a mapping, instants are texts and sequences are lists.
Reading a typed value takes it as it is, without asking whether it is valid.  It has no mapping
when an instant in it cannot be sent, or when a child of a group in it is not typed.
-/

namespace TableSource.Filter

/-! ## From trees to values -/

namespace Test

/-- The name of the operator of a test. -/
def word {α : Type} : Test α → String
  | .compare comparison _ => (Operator.compare comparison).word
  | .between _ _ => Operator.between.word
  | .among _ => Operator.among.word
  | .contains _ => Operator.contains.word
  | .startsWith _ => Operator.startsWith.word
  | .unknown name => name

/-- The value of a test of cells, as it is sent. -/
def wire : Test Cell → Raw
  | .compare _ value => value.wire
  | .between low high => .list [low.wire, high.wire]
  | .among values => .list (values.map Cell.wire)
  | .contains part => .text part
  | .startsWith start => .text start
  | .unknown _ => .null

/-- The value of a test of cells, in typed form. -/
def toRaw : Test Cell → Raw
  | .compare _ value => value.toRaw
  | .between low high => .tuple [low.toRaw, high.toRaw]
  | .among values => .tuple (values.map Cell.toRaw)
  | .contains part => .text part
  | .startsWith start => .text start
  | .unknown _ => .null

end Test

def leafRecord (feature operator value : Raw) : Raw :=
  Raw.record [("feature", feature), ("op", operator), ("value", value)]

/-- The mapping of a group, whose operator is written in lower case. -/
def groupRecord (operator : String) (children : List Raw) : Raw :=
  Raw.record [("op", .text (Text.lower operator)), ("children", .list children)]

namespace Node

mutual

/-- A filter as nested mappings. -/
def record : Node Cell → Raw
  | .leaf feature test => leafRecord (.int feature) (.text test.word) test.wire
  | .group connective children => groupRecord connective.word (records children)

/-- Filters as nested mappings. -/
def records : List (Node Cell) → List Raw
  | [] => []
  | node :: rest => record node :: records rest

end

mutual

/-- A filter as a typed value. -/
def toRaw : Node Cell → Raw
  | .leaf feature test => .leaf (.int feature) (.text test.word) test.toRaw
  | .group connective children => .group connective.word (toRaws children)

/-- Filters as typed values. -/
def toRaws : List (Node Cell) → List Raw
  | [] => []
  | node :: rest => toRaw node :: toRaws rest

end

end Node

/-! ## From typed values to mappings -/

/-- The value of a typed leaf as it is sent, a fixed sequence as a list. -/
def wireOfValue : Raw → Except TextFailure Raw
  | .tuple items => (items.mapM Raw.wire).map .list
  | value => value.wire

/-- Whether a value is a node that was typed before. -/
def isTyped : Raw → Bool
  | .leaf _ _ _ | .group _ _ => true
  | _ => false

mutual

/-- A typed filter as nested mappings; every other value as it is. -/
def recordOf : Raw → Except TextFailure Raw
  | .leaf feature operator value => (wireOfValue value).map (leafRecord feature operator)
  | .group operator children => (recordsOf children).map (groupRecord operator)
  | value => .ok value

/-- The children of a typed group as nested mappings.  They must be typed like the group: there is
no mapping for anything else among them, not even for a mapping. -/
def recordsOf : List Raw → Except TextFailure (List Raw)
  | [] => .ok []
  | value :: rest =>
    if isTyped value then
      match recordOf value with
      | .error failure => .error failure
      | .ok first => (recordsOf rest).map (first :: ·)
    else .error (.notNode value.kind)

end

/-! ## From typed values to trees -/

/-- The test of a typed leaf, with the value as it is. -/
def testOf? (operator value : Raw) : Option (Test Raw) :=
  let name := operator.shown.toOption.getD ""
  match Operator.ofWord? name, value with
  | none, _ => some (.unknown name)
  | some (.compare comparison), value => some (.compare comparison value)
  | some .between, .tuple [low, high] | some .between, .list [low, high] =>
    some (.between low high)
  | some .among, .tuple values | some .among, .list values => some (.among values)
  | some .contains, .text part => some (.contains part)
  | some .startsWith, .text start => some (.startsWith start)
  | _, _ => none

mutual

/-- The tree of a typed value, without any check. -/
def nodeOf? : Raw → Option (Node Raw)
  | .leaf (.int feature) operator value => (testOf? operator value).map (.leaf feature)
  | .group operator children => (nodesOf? children).map (.group (Connective.ofWord operator))
  | _ => none

/-- The trees of typed values. -/
def nodesOf? : List Raw → Option (List (Node Raw))
  | [] => some []
  | value :: rest =>
    match nodeOf? value, nodesOf? rest with
    | some node, some nodes => some (node :: nodes)
    | _, _ => none

end

end TableSource.Filter
