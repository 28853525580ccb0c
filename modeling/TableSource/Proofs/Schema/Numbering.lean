import TableSource.Schema.Basic

/-!
# Schemas from features, and from names and types

Features are a schema when they are numbered by their places and have different names.  Otherwise
the first feature at fault is reported: the features before it are a schema, and its index is not
its place, or else its name is that of one of them.

Names and types that are put together to features are numbered by their places, so only a repeated
name can keep them from being a schema.  The feature at a place has the name at that place, and the
type that is named there.
-/

namespace TableSource

namespace Schema

/-! ## Numbered features -/

theorem getElem?_numberFeatures
    (start place : Nat) (names : List String) (types : List (Option String)) :
    (numberFeatures start names types)[place]? =
      names[place]?.map fun name =>
        { index := ((start + place : Nat) : Int), name
          type := FeatureType.ofName? (types[place]?).join } := by
  induction names generalizing start place types with
  | nil =>
      rfl
  | cons name rest induction =>
      cases place with
      | zero =>
          rw [numberFeatures, List.head?_eq_getElem?]
          rfl
      | succ place =>
          have moved : start + 1 + place = start + (place + 1) := by omega
          rw [numberFeatures, List.getElem?_cons_succ, List.getElem?_cons_succ, induction, moved,
            List.getElem?_tail]

theorem namesOf_numberFeatures
    (start : Nat) (names : List String) (types : List (Option String)) :
    namesOf (numberFeatures start names types) = names := by
  induction names generalizing start types with
  | nil =>
      rfl
  | cons name rest induction =>
      exact congrArg (name :: ·) (induction (start + 1) types.tail)

theorem inOrder_numberFeatures
    (start : Nat) (names : List String) (types : List (Option String)) :
    InOrder start (numberFeatures start names types) := by
  intro place feature found
  rw [getElem?_numberFeatures] at found
  rcases Option.map_eq_some_iff.mp found with ⟨name, -, rfl⟩
  rfl

/-! ## Schemas -/

/-- Features are a schema exactly when they are in order and have different names. -/
theorem ofFeatures_eq_ok_iff
    {features : List Feature} {schema : Schema} :
    ofFeatures features = .ok schema ↔
      InOrder 0 features ∧ (namesOf features).Nodup ∧ schema.features = features := by
  constructor
  · intro made
    rw [ofFeatures] at made
    split at made
    · cases made
    · next faultless =>
        have sound := (firstFault?_eq_none_iff ∅ 0 features).mp faultless
        cases made
        exact ⟨sound.1, sound.2.1, rfl⟩
  · rintro ⟨ordered, distinct, rfl⟩
    have faultless : firstFault? ∅ 0 schema.features = none :=
      (firstFault?_eq_none_iff ∅ 0 schema.features).mpr ⟨ordered, distinct, by simp⟩
    rw [ofFeatures]
    split
    · next fault =>
        rw [faultless] at fault
        cases fault
    · rfl

theorem exists_ofFeatures
    {features : List Feature}
    (ordered : InOrder 0 features) (distinct : (namesOf features).Nodup) :
    ∃ schema, ofFeatures features = .ok schema ∧ schema.features = features :=
  ⟨⟨features, ordered, distinct⟩, ofFeatures_eq_ok_iff.mpr ⟨ordered, distinct, rfl⟩, rfl⟩

theorem exists_ofFeatures_iff (features : List Feature) :
    (∃ schema, ofFeatures features = .ok schema) ↔
      InOrder 0 features ∧ (namesOf features).Nodup := by
  constructor
  · rintro ⟨schema, made⟩
    rcases ofFeatures_eq_ok_iff.mp made with ⟨ordered, distinct, -⟩
    exact ⟨ordered, distinct⟩
  · rintro ⟨ordered, distinct⟩
    rcases exists_ofFeatures ordered distinct with ⟨schema, made, -⟩
    exact ⟨schema, made⟩

/-- Different names make a schema with whatever types. -/
theorem exists_ofLists
    {names : List String} (types : List (Option String))
    (distinct : names.Nodup) :
    ∃ schema, ofLists names types = .ok schema ∧
      schema.features = numberFeatures 0 names types :=
  exists_ofFeatures (inOrder_numberFeatures 0 names types)
    ((namesOf_numberFeatures 0 names types).symm ▸ distinct)

theorem exists_ofLists_iff (names : List String) (types : List (Option String)) :
    (∃ schema, ofLists names types = .ok schema) ↔ names.Nodup := by
  rw [ofLists, exists_ofFeatures_iff, namesOf_numberFeatures]
  exact and_iff_right (inOrder_numberFeatures 0 names types)

/-! ## Faults -/

/-- What is at fault in a list of features.  It is about the first feature that is no continuation
of those before it. -/
inductive Faulty (features : List Feature) : SchemaError → Prop where
  | misplaced {before after : List Feature} {feature : Feature}
      (parted : features = before ++ feature :: after)
      (ordered : InOrder 0 before)
      (distinct : (namesOf before).Nodup)
      (moved : feature.index ≠ before.length) :
      Faulty features (.misplaced feature.name feature.index before.length)
  | duplicated {before after : List Feature} {feature : Feature}
      (parted : features = before ++ feature :: after)
      (ordered : InOrder 0 before)
      (distinct : (namesOf before).Nodup)
      (placed : feature.index = before.length)
      (taken : feature.name ∈ namesOf before) :
      Faulty features (.duplicated feature.name)

/-- The walk comes to the feature at fault with the names of those before it. -/
theorem exists_of_firstFault?
    {seen : Std.HashSet String} {start : Nat} {features : List Feature} {error : SchemaError}
    (fault : firstFault? seen start features = some error) :
    ∃ before feature after, features = before ++ feature :: after ∧
      firstFault? seen start before = none ∧
      (feature.index ≠ ((start + before.length : Nat) : Int) ∧
          error = .misplaced feature.name feature.index (start + before.length) ∨
        feature.index = ((start + before.length : Nat) : Int) ∧
          (feature.name ∈ seen ∨ feature.name ∈ namesOf before) ∧
          error = .duplicated feature.name) := by
  induction features generalizing seen start with
  | nil =>
      cases fault
  | cons feature rest induction =>
      rw [firstFault?] at fault
      split at fault
      · next moved =>
          cases fault
          exact ⟨[], feature, rest, rfl, rfl, .inl ⟨moved, rfl⟩⟩
      · next placed =>
          split at fault
          · next taken =>
              cases fault
              have here : feature.index = (start : Int) := Decidable.not_not.mp placed
              exact ⟨[], feature, rest, rfl, rfl, .inr ⟨here, .inl taken, rfl⟩⟩
          · next free =>
              rcases induction fault with ⟨before, other, after, parted, faultless, found⟩
              have place : start + 1 + before.length = start + (feature :: before).length := by
                rw [List.length_cons]
                omega
              have known : other.name ∈ seen.insert feature.name ∨ other.name ∈ namesOf before ↔
                  other.name ∈ seen ∨ other.name ∈ namesOf (feature :: before) := by
                rw [Std.HashSet.mem_insert, beq_iff_eq, or_assoc, or_left_comm, eq_comm, namesOf,
                  namesOf, List.map_cons, List.mem_cons]
              rw [place, known] at found
              refine ⟨feature :: before, other, after, congrArg (feature :: ·) parted, ?_, found⟩
              rw [firstFault?, if_neg placed, if_neg free, faultless]

theorem faulty_of_ofFeatures
    {features : List Feature} {error : SchemaError}
    (refused : ofFeatures features = .error error) :
    Faulty features error := by
  rw [ofFeatures] at refused
  split at refused
  · next fault =>
      cases refused
      rcases exists_of_firstFault? fault with ⟨before, feature, after, parted, faultless, found⟩
      rcases (firstFault?_eq_none_iff ∅ 0 before).mp faultless with ⟨ordered, distinct, -⟩
      rw [Nat.zero_add] at found
      rcases found with ⟨moved, rfl⟩ | ⟨placed, taken, rfl⟩
      · exact .misplaced parted ordered distinct moved
      · exact .duplicated parted ordered distinct placed
          (taken.resolve_left Std.HashSet.not_mem_empty)
  · cases refused

theorem exists_faulty
    {features : List Feature}
    (unsound : ¬ (InOrder 0 features ∧ (namesOf features).Nodup)) :
    ∃ error, ofFeatures features = .error error ∧ Faulty features error := by
  cases result : ofFeatures features with
  | ok schema =>
      exact absurd ((exists_ofFeatures_iff features).mp ⟨schema, result⟩) unsound
  | error error =>
      exact ⟨error, rfl, faulty_of_ofFeatures result⟩

/-- Names that do not differ are refused for the first one that is repeated. -/
theorem exists_repeated
    {names : List String} (types : List (Option String))
    (repeated : ¬ names.Nodup) :
    ∃ before name after, names = before ++ name :: after ∧ before.Nodup ∧ name ∈ before ∧
      ofLists names types = .error (.duplicated name) := by
  have unsound : ¬ (InOrder 0 (numberFeatures 0 names types) ∧
      (namesOf (numberFeatures 0 names types)).Nodup) := by
    rw [namesOf_numberFeatures]
    exact fun sound => repeated sound.2
  rcases exists_faulty unsound with ⟨error, refused, faulty⟩
  cases faulty with
  | @misplaced before after feature parted _ _ moved =>
      have placed := inOrder_numberFeatures 0 names types before.length feature (by simp [parted])
      omega
  | @duplicated before after feature parted _ distinct _ taken =>
      refine ⟨namesOf before, feature.name, namesOf after, ?_, distinct, taken, refused⟩
      rw [← namesOf_numberFeatures 0 names types, parted, namesOf, List.map_append, List.map_cons]
      rfl

end Schema

end TableSource
