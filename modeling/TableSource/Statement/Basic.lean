/-!
# Statements

A statement is a sequence of pieces: fixed words, quoted names, and the places of values.  Its text
shows every value as a numbered placeholder and never as what it is, and its parameters are the
values in the order of their places.  So neither of the two can depend on the other: the text is
made from the words, the names and the number of values alone.
-/

namespace TableSource

/-- What is bound to a placeholder. -/
inductive Bound (α : Type) where
  | value (value : α)
  | pattern (pattern : String)
  | count (rows : Int)
  deriving BEq, Repr, Inhabited

namespace Bound

/-- The binding with its value replaced. -/
def map {α β : Type} (f : α → β) : Bound α → Bound β
  | .value given => .value (f given)
  | .pattern written => .pattern written
  | .count rows => .count rows

end Bound

inductive Piece (α : Type) where
  /-- Fixed words, operators and punctuation. -/
  | words (text : String)
  /-- The name of a table or a column. -/
  | name (name : String)
  | place (bound : Bound α)
  deriving BEq, Repr, Inhabited

/-- A name in double quotation marks, which are doubled inside. -/
def quoteName (name : String) : String :=
  String.ofList ('"' :: (name.toList.flatMap fun c => if c = '"' then ['"', '"'] else [c]) ++ ['"'])

namespace Piece

def map {α β : Type} (f : α → β) : Piece α → Piece β
  | .words fixed => .words fixed
  | .name quoted => .name quoted
  | .place bound => .place (bound.map f)

def bound? {α : Type} : Piece α → Option (Bound α)
  | .place bound => some bound
  | _ => none

/-- Puts the text of a piece behind a text; the number is that of the placeholders so far. -/
def appendTo {α : Type} (state : String × Nat) : Piece α → String × Nat
  | .words fixed => (state.1 ++ fixed, state.2)
  | .name quoted => (state.1 ++ quoteName quoted, state.2)
  | .place _ => (state.1 ++ "$" ++ toString (state.2 + 1), state.2 + 1)

/-- The text of pieces, with placeholders numbered from the one after `before`. -/
def text {α : Type} (before : Nat) (pieces : List (Piece α)) : String :=
  (pieces.foldl appendTo ("", before)).1

/-- What is bound in pieces, in order. -/
def bounds {α : Type} (pieces : List (Piece α)) : List (Bound α) :=
  pieces.filterMap bound?

/-- Parts with a separator between each two. -/
def separate {α : Type} (separator : String) : List (List (Piece α)) → List (Piece α)
  | [] => []
  | part :: parts => part ++ parts.flatMap fun next => .words separator :: next

/-- Names with commas between them. -/
def listNames {α : Type} (names : List String) : List (Piece α) :=
  separate ", " (names.map fun name => [.name name])

/-- The places of values with commas between them. -/
def listPlaces {α : Type} (bounds : List (Bound α)) : List (Piece α) :=
  separate ", " (bounds.map fun bound => [.place bound])

end Piece

structure Statement (α : Type) where
  pieces : List (Piece α)
  deriving BEq, Repr, Inhabited

namespace Statement

def sql {α : Type} (statement : Statement α) : String :=
  Piece.text 0 statement.pieces

def params {α : Type} (statement : Statement α) : List (Bound α) :=
  Piece.bounds statement.pieces

def map {α β : Type} (f : α → β) (statement : Statement α) : Statement β :=
  { pieces := statement.pieces.map (Piece.map f) }

end Statement

end TableSource
