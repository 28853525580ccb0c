import Mathlib.Data.List.Forall2
import TableSource.Cell.Row
import TableSource.Proofs.Filter.FixedPoint
import TableSource.Proofs.Raw.Decoded

/-!
# Instances survive being sent

Every value that a JSON text holds becomes an instance, with one cell of the right type for each
feature.  An instance is sent as texts, truth values and finite numbers, and these under the names
of the features become the same instance again: what is read back from a message is what was stored.
-/

namespace TableSource

/-! ## Cells -/

namespace Cell

/-- The text of a value that was decoded is found without a failure. -/
theorem text?_of_decoded
    {value : Raw}
    (decoded : value.Decoded) :
    ∃ text, text? value = .ok text := by
  cases value with
  | float value =>
      cases value <;> exact ⟨_, rfl⟩
  | list _ | mapping _ =>
      -- only a failure to write a container as JSON could be left over, and there is none
      rcases decoded.exists_json with ⟨written, made⟩
      rw [text?, textOfJson?, made]
      · exact ⟨_, rfl⟩
      all_goals simp
  | bytes _ | tuple _ | date _ | leaf _ _ _ | group _ _ =>
      cases decoded
  | _ =>
      exact ⟨_, rfl⟩

theorem read?_of_decoded
    {value : Raw} (type : FeatureType)
    (decoded : value.Decoded) :
    ∃ cell, read? type value = .ok cell := by
  rcases text?_of_decoded decoded with ⟨text, made⟩
  cases type with
  | nominal =>
      exact ⟨_, congrArg (Except.map _) made⟩
  | text =>
      exact ⟨_, congrArg (Except.map _) made⟩
  | _ =>
      exact ⟨_, rfl⟩

theorem coerce_of_decoded
    {value : Raw} (type : FeatureType)
    (decoded : value.Decoded) :
    ∃ cell, coerce type value = .ok cell := by
  rcases read?_of_decoded type decoded with ⟨cell, made⟩
  exact ⟨_, congrArg (Except.map _) made⟩

theorem coerce_null (type : FeatureType) :
    coerce type .null = .ok (default type) := by
  cases type <;> rfl

theorem coerce_of_read?
    {type : FeatureType} {value : Raw} {cell : Cell}
    (read : read? type value = .ok (some cell)) :
    coerce type value = .ok cell :=
  congrArg (Except.map _) read

/-- What a value becomes has the form that the type prescribes. -/
theorem hasType_of_coerce
    {type : FeatureType} {value : Raw} {cell : Cell}
    (coerced : coerce type value = .ok cell) :
    cell.hasType type = true := by
  rcases map_eq_ok_iff.mp coerced with ⟨found, read, rfl⟩
  cases found with
  | none =>
      exact hasType_default type
  | some cell =>
      exact hasType_of_read? read

/-- A cell is read back as an untrusted value. -/
theorem read?_toRaw
    {type : FeatureType} {cell : Cell}
    (typed : cell.hasType type = true) :
    read? type cell.toRaw = .ok (some cell) := by
  cases cell with
  | instant value =>
      cases type with
      | date =>
          show Except.ok ((Reading.instant? { shown := value, offset := some 0 }).map Cell.instant) = _
          rw [Reading.instant?_of_offset_zero]
          rfl
      | _ =>
          cases typed
  | _ =>
      exact read?_wire typed

end Cell

/-! ## Mappings -/

namespace Raw

/-- Whether a value is a text, a truth value or a finite number. -/
def isPlain : Raw → Bool
  | .text _ | .bool _ | .float (.finite _) => true
  | _ => false

theorem isPlain_wire (cell : Cell) :
    cell.wire.isPlain = true := by
  cases cell <;> rfl

theorem valueUnder_cons_self
    {entries : List (Raw × Raw)} {name : String} {value : Raw} :
    valueUnder ((.text name, value) :: entries) name = value := by
  simp [valueUnder]

theorem valueUnder_cons_of_ne
    {entries : List (Raw × Raw)} {key name : String} {value : Raw}
    (different : key ≠ name) :
    valueUnder ((.text key, value) :: entries) name = valueUnder entries name := by
  simp [valueUnder, different]

end Raw

/-! ## Instances -/

namespace Row

theorem entriesOf_record (fields : List (String × Raw)) :
    entriesOf (Raw.record fields) = fields.map fun field => (.text field.1, field.2) := rfl

/-- Different names find the values that were put under them, each its own. -/
theorem valueUnder_zip
    {features : List Feature} {values : List Raw}
    (distinct : (Schema.namesOf features).Nodup) (complete : features.length = values.length) :
    List.Forall₂
      (fun feature value =>
        Raw.valueUnder (entriesOf (Raw.record ((Schema.namesOf features).zip values)))
          feature.name = value)
      features values := by
  induction features generalizing values with
  | nil =>
      cases List.length_eq_zero_iff.mp complete.symm
      exact .nil
  | cons feature rest induction =>
      cases values with
      | nil =>
          cases complete
      | cons value others =>
          rw [Schema.namesOf, List.map_cons, List.nodup_cons] at distinct
          refine .cons Raw.valueUnder_cons_self ?_
          have apart : ∀ other ∈ rest, feature.name ≠ other.name := by
            intro other member same
            exact distinct.1 (same ▸ List.mem_map_of_mem member)
          have both := (List.forall₂_and_left _ _).mpr
            ⟨apart, induction distinct.2 (Nat.succ.inj complete)⟩
          exact both.imp fun _ _ found => (Raw.valueUnder_cons_of_ne found.1).trans found.2

theorem coerce_eq_ok_iff
    {schema : Schema} {value : Raw} {row : Row} :
    coerce schema value = .ok row ↔
      List.Forall₂
        (fun feature cell =>
          Cell.coerce feature.type (Raw.valueUnder (entriesOf value) feature.name) = .ok cell)
        schema.features row :=
  mapM_eq_ok_iff

/-- An instance has a cell of its type for each feature. -/
theorem hasType_of_coerce
    {schema : Schema} {value : Raw} {row : Row}
    (coerced : coerce schema value = .ok row) :
    List.Forall₂ (fun feature cell => cell.hasType feature.type = true) schema.features row :=
  (coerce_eq_ok_iff.mp coerced).imp fun _ _ made => Cell.hasType_of_coerce made

/-- The cells of an instance that are sent under the names of their features are the instance. -/
theorem coerce_wire
    {schema : Schema} {row : Row}
    (typed : List.Forall₂ (fun feature cell => cell.hasType feature.type = true)
      schema.features row) :
    coerce schema (Raw.record (schema.names.zip row.wire)) = .ok row := by
  have found := valueUnder_zip schema.distinct
    (show schema.features.length = (row.map Cell.wire).length by
      rw [List.length_map]
      exact typed.length_eq)
  rw [List.forall₂_map_right_iff] at found
  rw [coerce_eq_ok_iff]
  refine List.Forall₂.mp ?_ found typed
  intro feature cell present cellTyped
  apply Cell.coerce_of_read?
  rw [Schema.names, wire, present]
  exact Cell.read?_wire cellTyped

/-- The entry of a value that was decoded is decoded, whatever its name. -/
theorem decoded_valueUnder
    {value : Raw}
    (decoded : value.Decoded) (name : String) :
    (Raw.valueUnder (entriesOf value) name).Decoded := by
  cases value with
  | mapping entries =>
      exact decoded.valueUnder name
  | _ =>
      exact .null

theorem coerce_of_decoded
    {schema : Schema} {value : Raw}
    (decoded : value.Decoded) :
    ∃ row, coerce schema value = .ok row :=
  exists_ok_of_mapM fun feature _ =>
    Cell.coerce_of_decoded feature.type (decoded_valueUnder decoded feature.name)

/-- A decoded value becomes an instance whose cells are canonical: they have the types of their
features, are what they become themselves, and are sent as plain values from which the same
instance is built.  So is every other instance with cells of the right types, whichever they are. -/
theorem coerce_round_trips
    {schema : Schema} {value : Raw}
    (decoded : value.Decoded) :
    (∃ row, coerce schema value = .ok row ∧
      List.Forall₂
        (fun feature cell =>
          Cell.coerce feature.type (Raw.valueUnder (entriesOf value) feature.name) = .ok cell ∧
            cell.hasType feature.type = true ∧
            Cell.coerce feature.type cell.toRaw = .ok cell)
        schema.features row ∧
      (∀ sent ∈ row.wire, sent.isPlain = true) ∧
      coerce schema (Raw.record (schema.names.zip row.wire)) = .ok row) ∧
    ∀ row : Row,
      List.Forall₂ (fun feature cell => cell.hasType feature.type = true) schema.features row →
      coerce schema (Raw.record (schema.names.zip row.wire)) = .ok row := by
  refine ⟨?_, fun row typed => coerce_wire typed⟩
  have ⟨row, coerced⟩ : ∃ row, coerce schema value = .ok row := coerce_of_decoded decoded
  refine ⟨row, coerced, ?cells, ?sent, coerce_wire (hasType_of_coerce coerced)⟩
  case cells =>
    apply (coerce_eq_ok_iff.mp coerced).imp
    intro feature cell made
    have typed := Cell.hasType_of_coerce made
    exact ⟨made, typed, Cell.coerce_of_read? (Cell.read?_toRaw typed)⟩
  case sent =>
    intro sent member
    rcases List.mem_map.mp member with ⟨cell, -, rfl⟩
    exact Raw.isPlain_wire cell

/-- The schema of observations, with a column of each type. -/
def observations : Schema where
  features :=
    [⟨0, "size", .numeric⟩, ⟨1, "seen", .date⟩, ⟨2, "sure", .logic⟩, ⟨3, "kind", .nominal⟩,
      ⟨4, "note", .text⟩]
  inOrder := by
    repeat rw [Schema.inOrder_cons]
    simp [Schema.InOrder]
  distinct := by
    decide

/-- An observation without a kind, in spellings that are not canonical. -/
def observationText : String :=
  "\x7b\"note\": [1, true], \"size\": \" +2_5e-1 \", \"sure\": \"Yes\", " ++
    "\"seen\": \"2024-02-29 01:30:00.5+02:00\"\x7d"

/-- The size two and a half, and half past eleven in the evening of the day before. -/
def observation : Row :=
  [.number ⟨false, 5 * Nat.pow 2 50, -51, by decide⟩, .instant ⟨63844759800500000, by decide⟩,
    .truth true, .text "", .text "[1, true]"]

theorem coerce_round_trips_observation :
    ∃ value, Json.ofText? observationText = some value ∧ value.Decoded ∧
      coerce observations value = .ok observation ∧
      coerce observations (Raw.record (observations.names.zip observation.wire)) =
        .ok observation := by
  have made : ((Json.ofText? observationText).bind fun value =>
      (coerce observations value).toOption) = some observation := by
    decide +kernel
  rcases Option.bind_eq_some_iff.mp made with ⟨value, read, same⟩
  have decoded := Json.decoded_of_ofText? read
  rcases (coerce_round_trips decoded).1 with ⟨row, coerced, -, -, again⟩
  rw [coerced] at same
  cases same
  exact ⟨value, read, decoded, coerced, again⟩

end Row

end TableSource
