import TableSource.Filter.Basic
import TableSource.Statement.Basic
import TableSource.Statement.Pattern

/-!
# Conditions

A filter tree becomes a condition: a leaf a comparison of its column with placeholders, a group its
conditions in parentheses with the connective between them.  Texts inside values are looked for by
patterns that ignore case.
-/

namespace TableSource

/-- Why there is no statement. -/
inductive StatementError where
  /-- A leaf tests a feature that the schema does not have. -/
  | unknownFeature (index : Int)
  /-- A leaf has an operator that does not exist. -/
  | unsupportedOperator (name : String)
  /-- The distinct values of a feature are asked for that is not nominal. -/
  | notNominal (name : String)
  deriving DecidableEq, Repr

/-- The report of a statement that cannot be made. -/
def StatementError.message : StatementError → String
  | .unknownFeature index => "Unknown feature " ++ toString index
  | .unsupportedOperator name => "Unsupported operator '" ++ name ++ "'"
  | .notNominal name => "Feature '" ++ name ++ "' is not nominal"

namespace Filter

def Comparison.sign : Comparison → String
  | .equal => "="
  | .unequal => "<>"
  | .greater => ">"
  | .atLeast => ">="
  | .less => "<"
  | .atMost => "<="

def Test.condition {α : Type} (column : String) :
    Test α → Except StatementError (List (Piece α))
  | .compare comparison value =>
    .ok [.name column, .words (" " ++ comparison.sign ++ " "), .place (.value value)]
  | .between low high =>
    .ok [.name column, .words " BETWEEN ", .place (.value low), .words " AND ",
      .place (.value high)]
  | .among values =>
    .ok ([.name column, .words " IN ("] ++ Piece.listPlaces (values.map .value) ++ [.words ")"])
  | .contains part =>
    .ok [.name column, .words " ILIKE ", .place (.pattern (Pattern.containing part))]
  | .startsWith start =>
    .ok [.name column, .words " ILIKE ", .place (.pattern (Pattern.startingWith start))]
  | .unknown name => .error (.unsupportedOperator name)

namespace Node

mutual

/-- The condition of a filter tree. -/
def condition {α : Type} (schema : Schema) : Node α → Except StatementError (List (Piece α))
  | .leaf index test =>
    match schema.get? index with
    | some feature => test.condition feature.name
    | none => .error (.unknownFeature index)
  | .group connective children =>
    (conditions schema children).map fun parts =>
      [.words "("] ++ Piece.separate (" " ++ connective.word ++ " ") parts ++ [.words ")"]

/-- The conditions of filter trees. -/
def conditions {α : Type} (schema : Schema) :
    List (Node α) → Except StatementError (List (List (Piece α)))
  | [] => .ok []
  | node :: rest =>
    match condition schema node with
    | .error error => .error error
    | .ok first => (conditions schema rest).map (first :: ·)

end

/-- The condition of a filter; without a filter it is empty. -/
def conditionOf {α : Type} (schema : Schema) :
    Option (Node α) → Except StatementError (List (Piece α))
  | none => .ok []
  | some node => node.condition schema

end Node

end Filter

end TableSource
