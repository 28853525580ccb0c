import TableSource.Raw.Literal
import TableSource.Schema.Basic

/-!
# Projections

A projection chooses columns by a comma-separated text of feature indexes, or by a sequence whose
items are read by the text they are shown as.  Entries that are not the index of a feature are
dropped; repeated entries stay.
-/

namespace TableSource.Schema

/-- The feature index that an entry of a projection spells. -/
def entryIndex? (schema : Schema) (entry : String) : Option Int :=
  (Numeral.whole? (Text.trim entry)).filter fun index => (schema.get? index).isSome

/-- The feature indexes that entries spell. -/
def indexesOf (schema : Schema) (entries : List String) : List Int :=
  entries.filterMap schema.entryIndex?

/-- The feature indexes that a comma-separated text spells. -/
def projectionOfText (schema : Schema) (projection : String) : List Int :=
  schema.indexesOf (Text.split ',' projection)

/-- The texts that values are shown as.  A value with an integer that has no text is left out; one
that is nested too deeply fails. -/
def shownTexts : List Raw → Except TextFailure (List String)
  | [] => .ok []
  | item :: rest =>
    match item.shown with
    | .ok text => (shownTexts rest).map (text :: ·)
    | .error .overlongInteger => shownTexts rest
    | .error failure => .error failure

/-- The feature indexes that a projection of any form spells, of a mapping its keys.  What counts as
absent spells none. -/
def projection (schema : Schema) (value : Raw) : Except TextFailure (List Int) :=
  if value.isEmptyValue then .ok []
  else
    match value with
    | .text entries => .ok (schema.projectionOfText entries)
    | .list items | .tuple items => (shownTexts items).map schema.indexesOf
    | .mapping entries => (shownTexts (entries.map (·.1))).map schema.indexesOf
    | .bytes values => .ok (schema.indexesOf (values.map fun value => toString value.toNat))
    | other => .error (.notIterable other.kind)

/-- The features with given indexes, in the order of the indexes; all features when no index is
that of a feature. -/
def select (schema : Schema) (indexes : List Int) : List Feature :=
  let chosen := indexes.filterMap schema.get?
  if chosen.isEmpty then schema.features else chosen

end TableSource.Schema
