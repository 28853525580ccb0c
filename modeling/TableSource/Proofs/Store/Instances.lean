import TableSource.Proofs.Cell.RoundTrip
import TableSource.Store.Reading

/-!
# Rows become instances

A column of the database holds null, truth values, numbers, dates, clock readings and texts.  Each
of these becomes a cell of whatever type the column's feature has, so nothing in a row keeps it from
being read, as long as it has the columns that a projection asks for.  A reader that always goes on
therefore meets every instance of a cursor before the cursor ends or fails.

A projection that is given as a text names features by their indexes, and the features are read in
the order of the text.
-/

namespace TableSource

/-! ## Columns -/

/-- Whether a value is of a kind that the columns of a database hold. -/
def Raw.isColumnValue : Raw → Bool
  | .null | .bool _ | .int _ | .float _ | .decimal _ | .date _ | .reading _ | .text _ => true
  | _ => false

namespace Cell

variable {value : Raw}

theorem text?_of_isColumnValue
    (held : value.isColumnValue = true) :
    ∃ text, text? value = .ok text := by
  cases value with
  | bytes | list | tuple | mapping | leaf | group =>
      cases held
  | float value =>
      cases value <;> exact ⟨_, rfl⟩
  | _ =>
      exact ⟨_, rfl⟩

theorem coerce_of_isColumnValue
    (type : FeatureType) (held : value.isColumnValue = true) :
    ∃ cell, coerce type value = .ok cell := by
  have reads : ∃ found, read? type value = .ok found := by
    cases type with
    | nominal | text =>
        rcases text?_of_isColumnValue held with ⟨text, made⟩
        exact ⟨_, by rw [read?, made]; rfl⟩
    | _ =>
        exact ⟨_, rfl⟩
  rcases reads with ⟨found, made⟩
  exact ⟨_, by rw [coerce, made]; rfl⟩

end Cell

/-! ## Rows -/

namespace Store

/-- A row has a value in the column of each feature. -/
def Presents (features : List Feature) (record : Record) : Prop :=
  ∀ feature ∈ features, ∃ value,
    column record feature.name = .ok value ∧ value.isColumnValue = true

/-- A row is read as an instance: for each feature, in order, the value in its column becomes the
cell, which has the type of the feature. -/
def ReadAs (features : List Feature) (record : Record) (row : Row) : Prop :=
  List.Forall₂
    (fun feature cell => ∃ value, column record feature.name = .ok value ∧
      Cell.coerce feature.type value = .ok cell ∧ cell.hasType feature.type = true)
    features row

variable {features : List Feature} {record : Record} {row : Row}

theorem instanceOf_eq_ok_iff :
    instanceOf features record = .ok row ↔ ReadAs features record row := by
  rw [instanceOf, mapM_eq_ok_iff]
  have same (feature : Feature) (cell : Cell) :
      (do
        let value ← column record feature.name
        (Cell.coerce feature.type value).mapError Failure.text) = .ok cell ↔
      ∃ value, column record feature.name = .ok value ∧
        Cell.coerce feature.type value = .ok cell ∧ cell.hasType feature.type = true := by
    rw [bind_eq_ok_iff]
    constructor
    · rintro ⟨value, found, coerced⟩
      cases made : Cell.coerce feature.type value with
      | error failure =>
          rw [made] at coerced
          cases coerced
      | ok other =>
          rw [made] at coerced
          cases coerced
          exact ⟨value, found, made, Cell.hasType_of_coerce made⟩
    · rintro ⟨value, found, coerced, -⟩
      exact ⟨value, found, by rw [coerced]; rfl⟩
  simp only [same]
  rfl

/-- Every row with the columns of the features is read. -/
theorem exists_readAs
    (presents : Presents features record) :
    ∃ row, ReadAs features record row := by
  have reads : ∃ row, instanceOf features record = .ok row := by
    apply exists_ok_of_mapM
    intro feature member
    rcases presents feature member with ⟨value, found, held⟩
    rcases Cell.coerce_of_isColumnValue feature.type held with ⟨cell, coerced⟩
    exact ⟨cell, by rw [found]; simp [bind, Except.bind, coerced, Except.mapError]⟩
  simpa only [instanceOf_eq_ok_iff] using reads

theorem exists_readAs_all
    {records : List Record} (present : ∀ record ∈ records, Presents features record) :
    ∃ rows, List.Forall₂ (ReadAs features) records rows := by
  have reads : ∃ rows, records.mapM (instanceOf features) = .ok rows := by
    apply exists_ok_of_mapM
    intro record member
    rcases exists_readAs (present record member) with ⟨row, readAs⟩
    exact ⟨row, instanceOf_eq_ok_iff.mpr readAs⟩
  simpa only [mapM_eq_ok_iff, instanceOf_eq_ok_iff] using reads

/-! ## Reading -/

/-- A selection whose filter has a condition has a statement. -/
theorem exists_selectStatement
    {store : Store} {selection : Selection} {condition : List (Piece Cell)}
    (made : Filter.Node.conditionOf store.schema selection.filter = .ok condition) :
    ∃ statement, store.selectStatement selection = .ok statement := by
  rw [selectStatement, Statement.select, made]
  exact ⟨_, rfl⟩

/-- A reader that adds something for each instance, up to a number of them, has added it for all
instances when the cursor ends or fails. -/
theorem consume_adding
    {β : Type} {add : Row → β} {step : List β → Row → Step (List β)} {bound : ℕ}
    {records : List Record} {rows : List Row}
    (each : List.Forall₂ (ReadAs features) records rows)
    (adds : ∀ added row, added.length < bound → step added row = .more (add row :: added))
    {added : List β} (within : added.length + rows.length ≤ bound) (fault : Option Fault) :
    consume (onInstance features step) added records fault =
      ((rows.map add).reverse ++ added, .ofFault fault) := by
  induction each generalizing added with
  | nil =>
      cases fault <;> rfl
  | @cons record row records rows readAs each induction =>
      rw [List.length_cons] at within
      have made := instanceOf_eq_ok_iff.mpr readAs
      have next : step added row = .more (add row :: added) := adds added row (by omega)
      have later : (add row :: added).length + rows.length ≤ bound := by
        rw [List.length_cons]
        omega
      simp only [consume, onInstance, made, next, induction later]
      simp

end Store

/-! ## Projections -/

namespace Schema

/-- The features whose indexes the entries of a comma-separated text spell, in the order of the
text; an entry that spells no index of a feature is passed over. -/
def spelledFeatures (schema : Schema) (projection : String) : List Feature :=
  (Text.split ',' projection).filterMap fun entry =>
    (Numeral.whole? (Text.trim entry)).bind schema.get?

/-- The features of a projection; without any all features. -/
def projectedFeatures (schema : Schema) (projection : String) : List Feature :=
  if schema.spelledFeatures projection = [] then schema.features
  else schema.spelledFeatures projection

/-- Looking up only the indexes that belong to features loses none of them. -/
theorem bind_get?_filter (schema : Schema) (index? : Option Int) :
    (index?.filter fun index => (schema.get? index).isSome).bind schema.get? =
      index?.bind schema.get? := by
  cases index? with
  | none =>
      rfl
  | some index =>
      cases found : schema.get? index with
      | none =>
          simp [Option.filter, found]
      | some feature =>
          simp [Option.filter, found]

/-- The indexes of a projection are those of the features that its text spells. -/
theorem select_projectionOfText (schema : Schema) (projection : String) :
    schema.select (schema.projectionOfText projection) = schema.projectedFeatures projection := by
  have spelled : (schema.projectionOfText projection).filterMap schema.get? =
      schema.spelledFeatures projection := by
    simp only [projectionOfText, indexesOf, List.filterMap_filterMap, spelledFeatures, entryIndex?,
      bind_get?_filter]
  rw [select, spelled, projectedFeatures]
  simp only [List.isEmpty_iff]

/-- Every projected feature is one of the schema's. -/
theorem mem_of_mem_projectedFeatures
    {schema : Schema} {projection : String} {feature : Feature}
    (member : feature ∈ schema.projectedFeatures projection) :
    feature ∈ schema.features := by
  rw [projectedFeatures] at member
  split at member
  · exact member
  · rcases List.mem_filterMap.mp member with ⟨entry, -, spells⟩
    rcases Option.bind_eq_some_iff.mp spells with ⟨index, -, found⟩
    exact mem_of_get? found

/-- The index of a feature is its place. -/
theorem index_bounds
    {schema : Schema} {feature : Feature}
    (member : feature ∈ schema.features) :
    0 ≤ feature.index ∧ feature.index < schema.size := by
  rcases List.mem_iff_getElem?.mp member with ⟨place, found⟩
  have isPlace := schema.inOrder place feature found
  have inside : place < schema.features.length := (List.getElem?_eq_some_iff.mp found).1
  rw [size]
  omega

end Schema

end TableSource
