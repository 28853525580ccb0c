import Std.Data.HashSet.Lemmas
import TableSource.Raw.Basic
import TableSource.Text.Lowercase
import TableSource.Text.Blank

/-!
# Feature schemas

A schema is the ordered list of typed columns that a table exposes.  Its features are numbered by
their places and have different names, so an index and a name identify the same feature.  A list
of features is accepted as a schema exactly when this holds; otherwise the first feature at fault
is reported, a wrong index before a repeated name.
-/

namespace TableSource

/-! ## Features -/

inductive FeatureType where
  | nominal
  | numeric
  | date
  | logic
  | text
  deriving DecidableEq, Repr, Inhabited

namespace FeatureType

def name : FeatureType → String
  | .nominal => "nominal"
  | .numeric => "numeric"
  | .date => "date"
  | .logic => "logic"
  | .text => "text"

def all : List FeatureType :=
  [.nominal, .numeric, .date, .logic, .text]

/-- The type that a text names, in any case and with blanks around; a text that names none stands
for the text type. -/
def ofName (word : String) : FeatureType :=
  let plain := Text.lower (Text.trim word)
  (all.find? fun type => type.name == plain).getD .text

/-- The type that an optional text names; a missing one stands for the text type. -/
def ofName? (word : Option String) : FeatureType :=
  ofName (word.getD "")

end FeatureType

/-- A named, typed column. -/
structure Feature where
  index : Int
  name : String
  type : FeatureType
  deriving DecidableEq, Repr, Inhabited

/-- The description of a feature: its index, its name and the name of its type. -/
def Feature.describe (feature : Feature) : Raw :=
  Raw.record [("index", .int feature.index), ("name", .text feature.name),
    ("type", .text feature.type.name)]

/-! ## Schemas -/

/-- Why a list of features is no schema. -/
inductive SchemaError where
  /-- The index of a feature differs from its place. -/
  | misplaced (name : String) (index : Int) (expected : Nat)
  /-- Two features have one name. -/
  | duplicated (name : String)
  deriving DecidableEq, Repr

/-- The report of a faulty list of features. -/
def SchemaError.message : SchemaError → String
  | .misplaced name index expected =>
    "Feature '" ++ name ++ "' has index " ++ toString index ++ ", expected " ++ toString expected
  | .duplicated name => "Duplicated feature name '" ++ name ++ "'"

namespace Schema

/-- Features are in order when each has its place, counted from a start, as its index. -/
def InOrder (start : Nat) (features : List Feature) : Prop :=
  ∀ place feature, features[place]? = some feature → feature.index = ((start + place : Nat) : Int)

def namesOf (features : List Feature) : List String :=
  features.map (·.name)

/-- The first fault in a list of features whose first place is `start`, when the names in `seen`
are taken. -/
def firstFault? (seen : Std.HashSet String) (start : Nat) : List Feature → Option SchemaError
  | [] => none
  | feature :: rest =>
    if feature.index ≠ (start : Int) then some (.misplaced feature.name feature.index start)
    else if feature.name ∈ seen then some (.duplicated feature.name)
    else firstFault? (seen.insert feature.name) (start + 1) rest

theorem inOrder_cons
    (start : Nat)
    (feature : Feature)
    (rest : List Feature) :
    InOrder start (feature :: rest) ↔ feature.index = (start : Int) ∧ InOrder (start + 1) rest := by
  constructor
  · intro ordered
    refine ⟨by simpa using ordered 0 feature rfl, fun place other found => ?_⟩
    have shifted := ordered (place + 1) other (by simpa using found)
    omega
  · rintro ⟨first, ordered⟩ place other found
    cases place with
    | zero =>
      simp only [List.getElem?_cons_zero, Option.some.injEq] at found
      subst found
      simpa using first
    | succ place =>
      have shifted := ordered place other (by simpa using found)
      omega

/-- There is no fault exactly when the indexes are the places and the names are new and differ. -/
theorem firstFault?_eq_none_iff
    (seen : Std.HashSet String)
    (start : Nat)
    (features : List Feature) :
    firstFault? seen start features = none ↔
      InOrder start features ∧ (namesOf features).Nodup ∧
        ∀ name ∈ namesOf features, name ∉ seen := by
  induction features generalizing seen start with
  | nil => simp [firstFault?, InOrder, namesOf]
  | cons feature rest ih =>
    rw [inOrder_cons]
    unfold firstFault?
    split
    · rename_i wrong
      simp only [reduceCtorEq, false_iff]
      rintro ⟨⟨right, _⟩, _⟩
      exact wrong right
    · rename_i right
      simp only [ne_eq, Decidable.not_not] at right
      split
      · rename_i taken
        simp only [reduceCtorEq, false_iff]
        rintro ⟨_, _, fresh⟩
        exact fresh feature.name (by simp [namesOf]) taken
      · rename_i free
        rw [ih]
        simp only [namesOf, List.map_cons, List.nodup_cons, List.mem_cons, Std.HashSet.mem_insert,
          beq_iff_eq, not_or]
        constructor
        · rintro ⟨ordered, distinct, fresh⟩
          refine ⟨⟨right, ordered⟩, ⟨fun inside => (fresh _ inside).1 rfl, distinct⟩, ?_⟩
          rintro name (rfl | inside)
          · exact free
          · exact (fresh name inside).2
        · rintro ⟨⟨_, ordered⟩, ⟨notInside, distinct⟩, fresh⟩
          refine ⟨ordered, distinct, fun name inside => ⟨?_, fresh name (.inr inside)⟩⟩
          rintro rfl
          exact notInside inside

end Schema

/-- Features that are numbered by their places and have different names. -/
structure Schema where
  features : List Feature
  inOrder : Schema.InOrder 0 features
  distinct : (Schema.namesOf features).Nodup

namespace Schema

def ofFeatures (features : List Feature) : Except SchemaError Schema :=
  match fault : firstFault? ∅ 0 features with
  | some error => .error error
  | none =>
    have sound := (firstFault?_eq_none_iff ∅ 0 features).1 fault
    .ok ⟨features, sound.1, sound.2.1⟩

/-- Features with given names and types in order; where there is no type left, it is missing. -/
def numberFeatures (start : Nat) : List String → List (Option String) → List Feature
  | [], _ => []
  | name :: names, types =>
    { index := start, name, type := FeatureType.ofName? types.head?.join } ::
      numberFeatures (start + 1) names types.tail

/-- The schema with given names and types; a missing type is the text type. -/
def ofLists (names : List String) (types : List (Option String)) : Except SchemaError Schema :=
  ofFeatures (numberFeatures 0 names types)

def size (schema : Schema) : Nat :=
  schema.features.length

/-- The names of the features, in order. -/
def names (schema : Schema) : List String :=
  namesOf schema.features

def get? (schema : Schema) (index : Int) : Option Feature :=
  if 0 ≤ index then schema.features[index.toNat]? else none

/-- The feature that a value is the index of; only an integer can be one. -/
def lookup? (schema : Schema) : Raw → Option Feature
  | .int index => schema.get? index
  | _ => none

def byName? (schema : Schema) (name : String) : Option Feature :=
  schema.features.find? fun feature => feature.name == name

/-- The descriptions of the features, in order. -/
def describe (schema : Schema) : List Raw :=
  schema.features.map Feature.describe

end Schema

end TableSource
