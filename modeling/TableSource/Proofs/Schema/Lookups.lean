import Mathlib.Data.List.Nodup
import TableSource.Proofs.Schema.Numbering

/-!
# Looking up features

A feature of a schema is found by its index and by its name, and these identify the same feature:
looking up the name of what an index gives, or the index of what a name gives, gives it again.  Only
an integer from zero to below the number of features is an index.  The features, their names and
their descriptions are listed in the order of the indexes.
-/

namespace TableSource

namespace Schema

variable {schema : Schema} {index : Int} {feature : Feature}

/-! ## Features by index -/

theorem get?_place (schema : Schema) (place : Nat) :
    schema.get? place = schema.features[place]? := by
  rw [get?, if_pos (Int.natCast_nonneg place), Int.toNat_natCast]

theorem get?_eq_some_iff :
    schema.get? index = some feature ↔
      ∃ place : Nat, index = place ∧ schema.features[place]? = some feature := by
  constructor
  · intro found
    rw [get?] at found
    split at found
    · next positive =>
        exact ⟨index.toNat, (Int.toNat_of_nonneg positive).symm, found⟩
    · cases found
  · rintro ⟨place, rfl, found⟩
    exact (get?_place schema place).trans found

/-- A feature is found under its own index. -/
theorem index_of_get?
    (found : schema.get? index = some feature) :
    feature.index = index := by
  rcases get?_eq_some_iff.mp found with ⟨place, rfl, found⟩
  rw [schema.inOrder place feature found, Nat.zero_add]

theorem mem_of_get?
    (found : schema.get? index = some feature) :
    feature ∈ schema.features := by
  rcases get?_eq_some_iff.mp found with ⟨place, -, found⟩
  exact List.mem_of_getElem? found

theorem get?_of_mem
    (member : feature ∈ schema.features) :
    schema.get? feature.index = some feature := by
  rcases List.mem_iff_getElem?.mp member with ⟨place, found⟩
  rw [schema.inOrder place feature found, Nat.zero_add, get?_place, found]

theorem name_mem
    (member : feature ∈ schema.features) :
    feature.name ∈ schema.names :=
  List.mem_map_of_mem member

theorem lookup?_eq_some_iff {value : Raw} :
    schema.lookup? value = some feature ↔
      ∃ place : Nat, value = .int place ∧ schema.features[place]? = some feature := by
  cases value with
  | int index =>
      have looked : schema.lookup? (.int index) = schema.get? index := rfl
      simp only [looked, get?_eq_some_iff, Raw.int.injEq]
  | _ =>
      refine iff_of_false nofun ?_
      rintro ⟨place, other, -⟩
      cases other

theorem get?_of_lookup?
    {value : Raw}
    (found : schema.lookup? value = some feature) :
    schema.get? feature.index = some feature := by
  rcases lookup?_eq_some_iff.mp found with ⟨place, -, found⟩
  exact get?_of_mem (List.mem_of_getElem? found)

theorem isSome_lookup?_iff {value : Raw} :
    (schema.lookup? value).isSome = true ↔
      ∃ index : Int, value = .int index ∧ 0 ≤ index ∧ index < schema.features.length := by
  rw [Option.isSome_iff_exists]
  constructor
  · rintro ⟨feature, found⟩
    rcases lookup?_eq_some_iff.mp found with ⟨place, rfl, found⟩
    have within := (List.getElem?_eq_some_iff.mp found).1
    exact ⟨place, rfl, by omega, by omega⟩
  · rintro ⟨index, rfl, positive, small⟩
    have within : index.toNat < schema.features.length := by omega
    have placed : Raw.int index = .int (index.toNat : Int) := by
      rw [Int.toNat_of_nonneg positive]
    exact ⟨schema.features[index.toNat], lookup?_eq_some_iff.mpr
      ⟨index.toNat, placed, List.getElem?_eq_getElem within⟩⟩

/-- A truth value is no index, although it counts as a number elsewhere. -/
example : schema.lookup? (.bool true) = none :=
  rfl

/-! ## Features by name -/

/-- A feature is found by its own name, as no other one has it. -/
theorem byName?_eq_some_iff {name : String} :
    schema.byName? name = some feature ↔ feature ∈ schema.features ∧ feature.name = name := by
  constructor
  · intro found
    exact ⟨List.mem_of_find?_eq_some found, by simpa using List.find?_some found⟩
  · rintro ⟨member, rfl⟩
    cases first : schema.byName? feature.name with
    | none =>
        have differs := List.find?_eq_none.mp first feature member
        exact absurd (beq_self_eq_true _) differs
    | some other =>
        have sameName : other.name = feature.name := by
          simpa using List.find?_some first
        rw [List.inj_on_of_nodup_map schema.distinct (List.mem_of_find?_eq_some first) member
          sameName]

theorem byName?_of_get?
    (found : schema.get? index = some feature) :
    schema.byName? feature.name = some feature :=
  byName?_eq_some_iff.mpr ⟨mem_of_get? found, rfl⟩

/-! ## The catalog of features -/

theorem getElem?_describe (schema : Schema) (place : Nat) :
    schema.describe[place]? =
      (schema.lookup? (.int place)).map fun feature =>
        Raw.record [("index", .int place), ("name", .text feature.name),
          ("type", .text feature.type.name)] := by
  have looked : schema.lookup? (.int place) = schema.features[place]? := get?_place schema place
  rw [describe, List.getElem?_map, looked]
  cases found : schema.features[place]? with
  | none =>
      rfl
  | some feature =>
      rw [Option.map_some, Option.map_some, Feature.describe, schema.inOrder place feature found,
        Nat.zero_add]

/-- A schema catalogs features: it finds them by their places and by their names, the one is the
inverse of the other, and what it lists is in the order of the places. -/
structure Catalogs (schema : Schema) (features : List Feature) : Prop where
  listed : schema.features = features
  lookup_iff : ∀ value feature, schema.lookup? value = some feature ↔
    ∃ place : Nat, value = .int place ∧ features[place]? = some feature
  /-- Nothing but an integer below the number of features is an index. -/
  known_iff : ∀ value, (schema.lookup? value).isSome = true ↔
    ∃ index : Int, value = .int index ∧ 0 ≤ index ∧ index < features.length
  byName_iff : ∀ name feature, schema.byName? name = some feature ↔
    feature ∈ features ∧ feature.name = name
  byName_of_lookup : ∀ value feature, schema.lookup? value = some feature →
    schema.byName? feature.name = some feature
  lookup_of_byName : ∀ name feature, schema.byName? name = some feature →
    schema.lookup? (.int feature.index) = some feature
  iterated : ∀ place : Nat, schema.features[place]? = schema.lookup? (.int place)
  named : ∀ place : Nat, schema.names[place]? =
    (schema.lookup? (.int place)).map fun feature => feature.name
  described : ∀ place : Nat, schema.describe[place]? =
    (schema.lookup? (.int place)).map fun feature =>
      Raw.record [("index", .int place), ("name", .text feature.name),
        ("type", .text feature.type.name)]

theorem catalogs (schema : Schema) : schema.Catalogs schema.features where
  listed := rfl
  lookup_iff _ _ := lookup?_eq_some_iff
  known_iff _ := isSome_lookup?_iff
  byName_iff _ _ := byName?_eq_some_iff
  byName_of_lookup _ _ found := byName?_of_get? (get?_of_lookup? found)
  lookup_of_byName _ _ found := get?_of_mem (byName?_eq_some_iff.mp found).1
  iterated place := (get?_place schema place).symm
  named place := by
    rw [names, namesOf, List.getElem?_map, ← get?_place]
    rfl
  described := getElem?_describe schema

/-- Features make a schema exactly when each has its place as its index and their names differ, and
names make one with whatever types exactly when they differ; otherwise the first fault is reported.
The schema finds the features by their indexes and by their names, which identify the same one. -/
theorem indexes_and_names_agree
    (features : List Feature) (names : List String) (types : List (Option String)) :
    ((∃ schema, ofFeatures features = .ok schema) ↔
      InOrder 0 features ∧ (namesOf features).Nodup) ∧
    (¬ (InOrder 0 features ∧ (namesOf features).Nodup) →
      ∃ error, ofFeatures features = .error error ∧ Faulty features error) ∧
    ((∃ schema, ofLists names types = .ok schema) ↔ names.Nodup) ∧
    (¬ names.Nodup →
      ∃ before name after, names = before ++ name :: after ∧ before.Nodup ∧ name ∈ before ∧
        ofLists names types = .error (.duplicated name)) ∧
    ∀ schema, ofFeatures features = .ok schema → schema.Catalogs features := by
  refine ⟨exists_ofFeatures_iff features, exists_faulty, exists_ofLists_iff names types,
    exists_repeated types, ?_⟩
  intro schema made
  rw [← (ofFeatures_eq_ok_iff.mp made).2.2]
  exact schema.catalogs

/-- Features of three types, in order. -/
def measurements : List Feature :=
  [⟨0, "size", .numeric⟩, ⟨1, "kind", .nominal⟩, ⟨2, "noted", .date⟩]

theorem indexes_and_names_agree_for_measurements :
    InOrder 0 measurements ∧ (namesOf measurements).Nodup ∧
    (∃ schema, ofFeatures measurements = .ok schema ∧ schema.Catalogs measurements) ∧
    ¬ InOrder 0 measurements.reverse ∧
    (∃ error, ofFeatures measurements.reverse = .error error ∧
      Faulty measurements.reverse error) ∧
    ¬ ["size", "kind", "size"].Nodup ∧
    ∃ before name after, ["size", "kind", "size"] = before ++ name :: after ∧ before.Nodup ∧
      name ∈ before ∧
      ofLists ["size", "kind", "size"] [some "numeric"] = .error (.duplicated name) := by
  have ordered : InOrder 0 measurements := by
    simp only [measurements, inOrder_cons]
    exact ⟨rfl, rfl, rfl, nofun⟩
  have distinct : (namesOf measurements).Nodup := by
    decide
  have moved : ¬ InOrder 0 measurements.reverse := by
    intro sound
    have first := sound 0 ⟨2, "noted", .date⟩ rfl
    contradiction
  have repeated : ¬ ["size", "kind", "size"].Nodup := by
    decide
  have inOrder := indexes_and_names_agree measurements ["size", "kind", "size"] [some "numeric"]
  have reversed := indexes_and_names_agree measurements.reverse [] []
  rcases inOrder.1.mpr ⟨ordered, distinct⟩ with ⟨schema, made⟩
  exact ⟨ordered, distinct, ⟨schema, made, inOrder.2.2.2.2 schema made⟩, moved,
    reversed.2.1 fun sound => moved sound.1, repeated, inOrder.2.2.2.1 repeated⟩

end Schema

end TableSource
