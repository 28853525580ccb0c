import TableSource.Proofs.Filter.WellFormed
import TableSource.Statement.Query

/-!
# Texts of statements and shapes of filters

The text of a statement and the number of its parameters can be read off its blank form, in which
nothing is left of the values at the places.  The blank form of a condition can in turn be made
from the shape of its filter, which keeps the nesting, the connectives, the features, the operators
and the number of listed values, and nothing else.

So two statements whose filters have one shape have the same text, whatever the values are.
-/

namespace TableSource

open Filter

/-! ## Blank forms -/

namespace Piece

/-- A piece without the value at its place. -/
def blank {α : Type} : Piece α → Piece Unit
  | .words fixed => .words fixed
  | .name quoted => .name quoted
  | .place _ => .place (.value ())

variable {α : Type}

@[simp]
theorem blank_words (fixed : String) : (.words fixed : Piece α).blank = .words fixed := rfl

@[simp]
theorem blank_name (quoted : String) : (.name quoted : Piece α).blank = .name quoted := rfl

@[simp]
theorem blank_place (bound : Bound α) : (place bound).blank = .place (.value ()) := rfl

theorem appendTo_blank
    (state : String × Nat) (piece : Piece α) :
    appendTo state piece.blank = appendTo state piece := by
  cases piece <;> rfl

@[simp]
theorem text_blank
    (before : Nat) (pieces : List (Piece α)) :
    text before (pieces.map blank) = text before pieces := by
  simp [text, List.foldl_map, appendTo_blank]

@[simp]
theorem length_bounds_blank (pieces : List (Piece α)) :
    (bounds (pieces.map blank)).length = (bounds pieces).length := by
  induction pieces with
  | nil =>
      rfl
  | cons piece rest induction =>
      cases piece with
      | words fixed =>
          exact induction
      | name quoted =>
          exact induction
      | place bound =>
          exact congrArg (· + 1) induction

@[simp]
theorem separate_blank
    (separator : String) (parts : List (List (Piece α))) :
    (separate separator parts).map blank = separate separator (parts.map (List.map blank)) := by
  cases parts with
  | nil =>
      rfl
  | cons part rest =>
      simp [separate, List.map_flatMap, List.flatMap_map]

@[simp]
theorem listNames_blank (names : List String) :
    (listNames names : List (Piece α)).map blank = listNames names := by
  simp [listNames, Function.comp_def]

/-- Of a list of places only their number is left. -/
theorem listPlaces_blank (bounds : List (Bound α)) :
    (listPlaces bounds).map blank = listPlaces (bounds.map fun _ => .value ()) := by
  simp [listPlaces, Function.comp_def]

end Piece

/-- The pieces of a result without the values at their places. -/
def blankResult {α : Type}
    (result : Except StatementError (List (Piece α))) :
    Except StatementError (List (Piece Unit)) :=
  result.map (List.map Piece.blank)

/-! ## Shapes -/

/-- The shape of a test: its operator, and how many values it lists. -/
@[simp]
def Filter.Test.shape {α : Type} : Test α → Test Unit
  | .compare comparison _ => .compare comparison ()
  | .between _ _ => .between () ()
  | .among values => .among (values.map fun _ => ())
  | .contains _ => .contains ""
  | .startsWith _ => .startsWith ""
  | .unknown name => .unknown name

namespace Filter.Node

mutual

/-- The shape of a filter: all of it except what its leaves compare with. -/
def shape {α : Type} : Node α → Node Unit
  | .leaf feature test => .leaf feature test.shape
  | .group connective children => .group connective (shapes children)

/-- The shapes of filters. -/
def shapes {α : Type} : List (Node α) → List (Node Unit)
  | [] => []
  | node :: rest => shape node :: shapes rest

end

end Filter.Node

/-! ## Conditions -/

theorem Filter.Test.condition_shape {α : Type}
    (column : String) (test : Test α) :
    blankResult (test.shape.condition column) = blankResult (test.condition column) := by
  cases test with
  | compare =>
      rfl
  | between =>
      rfl
  | among values =>
      simp [Test.condition, blankResult, Except.map, Piece.listPlaces_blank, Function.comp_def]
  | contains part =>
      simp [Test.condition, blankResult, Except.map]
  | startsWith start =>
      simp [Test.condition, blankResult, Except.map]
  | unknown name =>
      rfl

namespace Filter.Node

variable {α : Type}

/-- A group is made of its parts before as well as after their values are dropped. -/
theorem blankResult_group
    (separator : String)
    (parts : Except StatementError (List (List (Piece α)))) :
    blankResult (parts.map fun parts =>
        [.words "("] ++ Piece.separate separator parts ++ [.words ")"]) =
      (parts.map (List.map (List.map Piece.blank))).map fun parts =>
        [.words "("] ++ Piece.separate separator parts ++ [.words ")"] := by
  cases parts with
  | error failure =>
      rfl
  | ok parts =>
      simp [blankResult, Except.map]

theorem conditions_cons
    (schema : Schema) (node : Node α) (rest : List (Node α)) :
    conditions schema (node :: rest) =
      (condition schema node).bind fun first => (conditions schema rest).map (first :: ·) := by
  rw [conditions]
  cases condition schema node <;> rfl

/-- The same for the parts themselves. -/
theorem blank_cons
    (first : Except StatementError (List (Piece α)))
    (others : Except StatementError (List (List (Piece α)))) :
    (first.bind fun first => others.map (first :: ·)).map (List.map (List.map Piece.blank)) =
      (blankResult first).bind fun first =>
        (others.map (List.map (List.map Piece.blank))).map (first :: ·) := by
  cases first with
  | error failure =>
      rfl
  | ok first =>
      cases others <;> rfl

mutual

/-- The blank form of a condition is made from the shape of its filter. -/
theorem condition_shape
    (schema : Schema) (node : Node α) :
    blankResult (node.shape.condition schema) = blankResult (node.condition schema) := by
  cases node with
  | leaf index test =>
      simp only [shape, condition]
      cases schema.get? index with
      | none =>
          rfl
      | some feature =>
          exact Test.condition_shape feature.name test
  | group connective children =>
      simp only [shape, condition]
      rw [blankResult_group, blankResult_group, conditions_shapes]

theorem conditions_shapes
    (schema : Schema) (nodes : List (Node α)) :
    (conditions schema (shapes nodes)).map (List.map (List.map Piece.blank)) =
      (conditions schema nodes).map (List.map (List.map Piece.blank)) := by
  cases nodes with
  | nil =>
      rfl
  | cons node rest =>
      rw [shapes, conditions_cons, conditions_cons, blank_cons, blank_cons, condition_shape,
        conditions_shapes]

end

theorem conditionOf_shape
    (schema : Schema) (tree : Option (Node α)) :
    blankResult (conditionOf schema (tree.map shape)) = blankResult (conditionOf schema tree) := by
  cases tree with
  | none =>
      rfl
  | some node =>
      exact condition_shape schema node

/-- The conditions of filters of one shape differ at most in the values at their places. -/
theorem conditionOf_of_same_shape
    {schema : Schema} {left right : Option (Node α)}
    (same : left.map shape = right.map shape) :
    blankResult (conditionOf schema left) = blankResult (conditionOf schema right) := by
  rw [← conditionOf_shape, same, conditionOf_shape]

end Filter.Node

end TableSource
