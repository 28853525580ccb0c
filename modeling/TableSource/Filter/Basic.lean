import TableSource.Cell.Basic

/-!
# Filter trees

A filter is a tree of groups, which join their children by "and" or "or", over leaves, which test
one feature each.  The values that leaves compare with are of any type here: cells in an admitted
filter, and untrusted values in one that somebody put together by hand.
-/

namespace TableSource

namespace Filter

/-! ## Operators -/

/-- The six comparisons with one value. -/
inductive Comparison where
  | equal
  | unequal
  | greater
  | atLeast
  | less
  | atMost
  deriving DecidableEq, Repr, Inhabited

/-- The name of a comparison in a filter. -/
def Comparison.word : Comparison → String
  | .equal => "eq"
  | .unequal => "neq"
  | .greater => "gt"
  | .atLeast => "gte"
  | .less => "lt"
  | .atMost => "lte"

inductive Operator where
  | compare (comparison : Comparison)
  | between
  | among
  | contains
  | startsWith
  deriving DecidableEq, Repr, Inhabited

namespace Operator

/-- The name of an operator in a filter. -/
def word : Operator → String
  | .compare comparison => comparison.word
  | .between => "between"
  | .among => "in"
  | .contains => "contains"
  | .startsWith => "startsWith"

def all : List Operator :=
  [.compare .equal, .compare .unequal, .compare .greater, .compare .atLeast, .compare .less,
    .compare .atMost, .between, .among, .contains, .startsWith]

def ofWord? (name : String) : Option Operator :=
  all.find? fun operator => operator.word == name

end Operator

end Filter

/-- Whether features of a type can be tested by an operator: numbers and dates by their order,
texts by equality and by their parts, and truth values by equality alone. -/
def FeatureType.allows : FeatureType → Filter.Operator → Bool
  | .numeric, operator | .date, operator =>
    match operator with
    | .compare _ | .between => true
    | _ => false
  | .logic, operator => operator == .compare .equal
  | .nominal, operator | .text, operator =>
    match operator with
    | .compare .equal | .compare .unequal | .among | .contains | .startsWith => true
    | _ => false

namespace Filter

/-! ## Trees -/

/-- What a leaf asks of the value of its feature. -/
inductive Test (α : Type) where
  | compare (comparison : Comparison) (value : α)
  | between (low high : α)
  | among (values : List α)
  | contains (part : String)
  | startsWith (start : String)
  /-- A test by a name that is no operator. -/
  | unknown (name : String)
  deriving BEq, Repr, Inhabited

/-- How a group joins its children. -/
inductive Connective where
  | all
  | any
  /-- A word that is neither "and" nor "or", in a tree that nobody has admitted. -/
  | other (word : String)
  deriving DecidableEq, Repr, Inhabited

/-- A filter tree whose leaves compare with values of a type. -/
inductive Node (α : Type) where
  | leaf (feature : Int) (test : Test α)
  | group (connective : Connective) (children : List (Node α))
  deriving BEq, Repr, Inhabited

namespace Connective

/-- The word of a connective between conditions. -/
def word : Connective → String
  | .all => "AND"
  | .any => "OR"
  | .other word => word

def ofWord (word : String) : Connective :=
  if word = "AND" then .all else if word = "OR" then .any else .other word

def named? (word : String) : Option Connective :=
  let upper := Text.asciiUpper word
  if upper = "AND" then some .all else if upper = "OR" then some .any else none

end Connective

end Filter

end TableSource
