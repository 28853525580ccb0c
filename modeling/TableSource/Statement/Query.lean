import TableSource.Statement.Condition

/-!
# The statements of a table source

Rows are inserted with one group of placeholders each; matching rows are counted, selected and
looked up for the distinct values of a nominal column.  A clause that has no content is left out:
the condition without a filter, the order without a column, a limit or an offset that is not
positive.
-/

namespace TableSource

/-- The part of the matching rows that a selection gives, and their order. -/
structure Page where
  order : Option Feature
  descending : Bool
  skip : Option Int
  limit : Option Int
  deriving Repr, Inhabited

/-- Whether a text asks for descending order; every other text means ascending order. -/
def Page.isDescending (direction : String) : Bool :=
  Text.lower direction == "desc"

namespace Statement

open Filter

/-- The largest number of distinct values that are looked up. -/
def maxDistinct : Nat := 128

/-- A clause that starts with fixed words, left out when nothing follows them. -/
def clause {α : Type} (words : String) (content : List (Piece α)) : List (Piece α) :=
  if content.isEmpty then [] else .words words :: content

def insertedRow {α : Type} (row : List α) : List (Piece α) :=
  [.words "("] ++ Piece.listPlaces (row.map .value) ++ [.words ")"]

/-- Inserts rows into a table, naming every column of a schema. -/
def insert {α : Type} (schema : Schema) (table : String) (rows : List (List α)) : Statement α :=
  { pieces :=
      [.words "INSERT INTO ", .name table, .words " ("] ++ Piece.listNames schema.names ++
        [.words ") VALUES "] ++ Piece.separate ", " (rows.map insertedRow) }

/-- Counts the rows of a table that match a filter. -/
def count {α : Type} (schema : Schema) (table : String) (tree : Option (Node α)) :
    Except StatementError (Statement α) :=
  (Node.conditionOf schema tree).map fun condition =>
    { pieces :=
        [.words "SELECT COUNT(*) AS total FROM ", .name table] ++ clause " WHERE " condition }

/-- The clause that orders rows by a column. -/
def orderClause {α : Type} (page : Page) : List (Piece α) :=
  match page.order with
  | some feature =>
    [.words " ORDER BY ", .name feature.name, .words (if page.descending then " DESC" else " ASC")]
  | none => []

/-- A clause with a number of rows, left out unless the number is positive. -/
def rowsClause {α : Type} (words : String) : Option Int → List (Piece α)
  | some rows => if 0 < rows then [.words words, .place (.count rows)] else []
  | none => []

/-- Selects columns of the rows of a table that match a filter. -/
def select {α : Type} (schema : Schema) (table : String) (tree : Option (Node α))
    (features : List Feature) (page : Page) : Except StatementError (Statement α) :=
  (Node.conditionOf schema tree).map fun condition =>
    { pieces :=
        [.words "SELECT "] ++ Piece.listNames (features.map (·.name)) ++
          [.words " FROM ", .name table] ++ clause " WHERE " condition ++ orderClause page ++
          rowsClause " LIMIT " page.limit ++ rowsClause " OFFSET " page.skip }

/-- The condition that a column starts with a text, empty for the empty text. -/
def startCondition {α : Type} (column start : String) : List (List (Piece α)) :=
  if start.isEmpty then []
  else [[.name column, .words " ILIKE ", .place (.pattern (Pattern.startingWith start))]]

/-- Looks up the distinct values of a nominal column in the rows that match a filter, if a text is
given only those that start with it. -/
def distinct {α : Type} (schema : Schema) (table : String) (tree : Option (Node α))
    (feature : Feature) (start : String) : Except StatementError (Statement α) :=
  if feature.type ≠ .nominal then .error (.notNominal feature.name)
  else
    (Node.conditionOf schema tree).map fun condition =>
      let filtered := if condition.isEmpty then [] else [condition]
      let conditions := filtered ++ startCondition feature.name start
      { pieces :=
          [.words "SELECT DISTINCT ", .name feature.name, .words " FROM ", .name table] ++
            clause " WHERE " (Piece.separate " AND " conditions) ++
            [.words " ORDER BY ", .name feature.name,
              .words (" LIMIT " ++ toString maxDistinct)] }

end Statement

end TableSource
