import TableSource.Raw.Basic
import TableSource.Schema.Basic

/-!
# Canonical values

A cell is a value in the one form that its column's type prescribes: a finite number, a truth
value, an instant, or a text.  Cells are sent as JSON values, an instant as its text.
-/

namespace TableSource

/-- A value in canonical form. -/
inductive Cell where
  | number (value : Binary64)
  | truth (value : Bool)
  | instant (value : Instant)
  | text (value : String)
  deriving DecidableEq, Repr, Inhabited

namespace Cell

/-- Whether a cell has the form that a type prescribes. -/
def hasType : FeatureType → Cell → Bool
  | .numeric, .number _ => true
  | .logic, .truth _ => true
  | .date, .instant _ => true
  | .nominal, .text _ => true
  | .text, .text _ => true
  | _, _ => false

/-- The cell that takes the place of a value that cannot be read. -/
def default : FeatureType → Cell
  | .numeric => .number .zero
  | .logic => .truth false
  | .date => .instant .epoch
  | .nominal => .text ""
  | .text => .text ""

/-- A cell as an untrusted value again; an instant is a clock reading without an offset from the
universal clock. -/
def toRaw : Cell → Raw
  | .number value => .float (.finite value)
  | .truth value => .bool value
  | .instant value => .reading { shown := value, offset := some 0 }
  | .text value => .text value

/-- A cell as it is sent in a message; an instant is a text. -/
def wire : Cell → Raw
  | .number value => .float (.finite value)
  | .truth value => .bool value
  | .instant value => .text value.wire
  | .text value => .text value

theorem hasType_default (type : FeatureType) : (default type).hasType type = true := by
  cases type <;> rfl

end Cell

/-- The cells of an instance, one for each feature. -/
abbrev Row := List Cell

end TableSource
