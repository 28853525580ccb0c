import TableSource.Cell.Reading

/-!
# Instances

An instance is a row with one cell for each feature of a schema, in order.  It is built from any
value: the fields of a mapping by the names of the features, and defaults for all that is missing.
-/

namespace TableSource.Row

/-- The entries of a mapping; another value has none. -/
def entriesOf : Raw → List (Raw × Raw)
  | .mapping entries => entries
  | _ => []

/-- The instance that a value becomes. -/
def coerce (schema : Schema) (value : Raw) : Except TextFailure Row :=
  schema.features.mapM fun feature =>
    Cell.coerce feature.type (Raw.valueUnder (entriesOf value) feature.name)

/-- The instances that a list of values becomes; a value that is no list holds none. -/
def coerceAll (schema : Schema) : Raw → Except TextFailure (List Row)
  | .list values => values.mapM (coerce schema)
  | _ => .ok []

/-- A row as it is sent in a message. -/
def wire (row : Row) : List Raw :=
  row.map Cell.wire

end TableSource.Row
