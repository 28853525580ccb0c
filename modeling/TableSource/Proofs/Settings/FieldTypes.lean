import TableSource.Proofs.Schema.Numbering
import TableSource.Proofs.Text.Trimming
import TableSource.Settings.Configuration

/-!
# The types of configured fields

The fields of a source and their types are two lists of the environment.  The blank entries of each
list are dropped by themselves, and what is left is joined by place.  So a field has the type that
is named by the entry at its place among the entries that are not blank, and a blank entry in front
of another one moves the types behind it to earlier fields.  Where no such blank entry stands, a
field has the type that is named by the entry at its own place.
-/

namespace TableSource

/-! ## The type that an entry stands for -/

namespace FeatureType

/-- A type is meant by an entry of a list of types when the entry names it, in any case and with
blanks around.  The text type is also meant by an entry that names no type, and by none at all. -/
inductive MeantBy : Option String → FeatureType → Prop where
  | named {entry : String} {type : FeatureType}
      (spelled : Text.lower (Text.trim entry) = type.name) : MeantBy (some entry) type
  | unknown {entry : String}
      (other : ∀ type : FeatureType, Text.lower (Text.trim entry) ≠ type.name) :
      MeantBy (some entry) .text
  | missing : MeantBy none .text

theorem ofName_of_spelled
    {entry : String} {type : FeatureType}
    (spelled : Text.lower (Text.trim entry) = type.name) :
    ofName entry = type := by
  rw [ofName, spelled]
  cases type <;> rfl

theorem ofName_of_other
    {entry : String}
    (other : ∀ type : FeatureType, Text.lower (Text.trim entry) ≠ type.name) :
    ofName entry = .text := by
  have none : (all.find? fun type => type.name == Text.lower (Text.trim entry)) = none := by
    rw [List.find?_eq_none]
    intro type _ found
    exact other type (beq_iff_eq.mp found).symm
  rw [ofName, none]
  rfl

/-- Every entry means one type, the one that is read from it. -/
theorem meantBy_iff {entry : Option String} {type : FeatureType} :
    MeantBy entry type ↔ ofName? entry = type := by
  constructor
  · intro meant
    cases meant with
    | named spelled =>
        exact ofName_of_spelled spelled
    | unknown other =>
        exact ofName_of_other other
    | missing =>
        decide
  · rintro rfl
    cases entry with
    | none =>
        exact .missing
    | some entry =>
        by_cases spelled : ∃ type : FeatureType, Text.lower (Text.trim entry) = type.name
        · rcases spelled with ⟨type, spelled⟩
          have read : ofName? (some entry) = type := ofName_of_spelled spelled
          rw [read]
          exact .named spelled
        · have other := not_exists.mp spelled
          have read : ofName? (some entry) = .text := ofName_of_other other
          rw [read]
          exact .unknown other

instance (entry : Option String) (type : FeatureType) : Decidable (MeantBy entry type) :=
  decidable_of_iff _ meantBy_iff.symm

theorem ofName?_trim (entry : Option String) :
    ofName? (entry.map Text.trim) = ofName? entry := by
  cases entry with
  | none =>
      rfl
  | some entry =>
      show ofName (Text.trim entry) = ofName entry
      rw [ofName, ofName, Text.trim_trim]

/-- A blank entry means the same as a missing one. -/
theorem ofName?_of_blank
    {entry : String}
    (blank : Text.trim entry = "") :
    ofName? (some entry) = .text := by
  rw [← ofName?_trim, Option.map_some, blank]
  decide

end FeatureType

/-! ## Lists of the environment -/

/-- The entries of a comma-separated list that a variable holds, blank ones included. -/
def Environment.entries (environment : Environment) (name : String) : List String :=
  Text.split ',' (environment.getD name "")

/-- The entries that are not blank. -/
def filledEntries (entries : List String) : List String :=
  entries.filter fun entry => !(Text.trim entry).isEmpty

/-- Up to a place, a blank entry is only followed by blank ones. -/
def Unbroken (entries : List String) (place : Nat) : Prop :=
  ∀ earlier ≤ place, ∀ entry ∈ entries[earlier]?, Text.trim entry = "" →
    ∀ later ∈ entries.drop earlier, Text.trim later = ""

instance (entries : List String) (place : Nat) : Decidable (Unbroken entries place) :=
  inferInstanceAs (Decidable (∀ earlier ≤ place, ∀ entry ∈ entries[earlier]?,
    Text.trim entry = "" → ∀ later ∈ entries.drop earlier, Text.trim later = ""))

theorem Unbroken.tail
    {entry : String} {rest : List String} {place : Nat}
    (unbroken : Unbroken (entry :: rest) (place + 1)) :
    Unbroken rest place :=
  fun earlier most => unbroken (earlier + 1) (Nat.succ_le_succ most)

theorem listed_getD (environment : Environment) (name : String) :
    listed (environment.getD name "") =
      (filledEntries (environment.entries name)).map Text.trim := by
  rw [listed, List.filter_map]
  rfl

/-- In an unbroken list an entry that is not blank keeps its place. -/
theorem getElem?_filledEntries
    {entries : List String} {place : Nat}
    (unbroken : Unbroken entries place) :
    (filledEntries entries)[place]? =
      entries[place]?.filter fun entry => !(Text.trim entry).isEmpty := by
  induction entries generalizing place with
  | nil =>
      rfl
  | cons entry rest induction =>
      by_cases blank : Text.trim entry = ""
      · have each := unbroken 0 (Nat.zero_le place) entry rfl blank
        have nothing : filledEntries (entry :: rest) = [] := by
          rw [filledEntries, List.filter_eq_nil_iff]
          intro later member
          simp [each later member]
        rw [nothing, List.getElem?_nil, eq_comm, Option.filter_eq_none_iff]
        intro later found
        simp [each later (List.mem_of_getElem? found)]
      · have kept : filledEntries (entry :: rest) = entry :: filledEntries rest := by
          simp [filledEntries, blank]
        rw [kept]
        cases place with
        | zero =>
            simp [Option.filter, blank]
        | succ place =>
            exact induction unbroken.tail

/-! ## The schema of a source -/

namespace Environment

variable {environment : Environment}

/-- The types as they are handed on are read like the entries that they come from. -/
theorem ofName?_filledEntries (entries : List String) (place : Nat) :
    FeatureType.ofName?
        ((filledEntries entries).map fun entry => some (Text.trim entry))[place]?.join =
      FeatureType.ofName? (filledEntries entries)[place]? := by
  have joined (entry : Option String) :
      (entry.map fun entry => some (Text.trim entry)).join = entry.map Text.trim := by
    cases entry <;> rfl
  rw [List.getElem?_map, joined, FeatureType.ofName?_trim]

theorem ofName?_of_unbroken
    {entries : List String} {place : Nat}
    (unbroken : Unbroken entries place) :
    FeatureType.ofName? (filledEntries entries)[place]? =
      FeatureType.ofName? entries[place]? := by
  rw [getElem?_filledEntries unbroken]
  cases entries[place]? with
  | none =>
      rfl
  | some entry =>
      by_cases blank : Text.trim entry = ""
      · rw [FeatureType.ofName?_of_blank blank, Option.filter_some, if_neg (by simp [blank])]
        decide
      · rw [Option.filter_some, if_pos (by simp [blank])]

theorem exists_schema
    (filled : ∀ entry ∈ environment.entries "SOURCE_FIELDS", Text.trim entry ≠ "")
    (distinct : ((environment.entries "SOURCE_FIELDS").map Text.trim).Nodup) :
    ∃ schema, (SourceSettings.ofEnvironment environment).schema = .ok schema ∧
      schema.features =
        Schema.numberFeatures 0 ((environment.entries "SOURCE_FIELDS").map Text.trim)
          ((filledEntries (environment.entries "SOURCE_FIELDS_TYPES")).map
            fun entry => some (Text.trim entry)) := by
  have all : filledEntries (environment.entries "SOURCE_FIELDS") =
      environment.entries "SOURCE_FIELDS" := by
    rw [filledEntries, List.filter_eq_self]
    intro entry member
    simp [filled entry member]
  rw [SourceSettings.schema]
  simp only [SourceSettings.ofEnvironment, listed_getD, all, List.map_map]
  exact Schema.exists_ofLists _ distinct

/-- Fields that are not blank and differ are a schema in their order.  A field has the type that is
meant by the entry at its place among the types that are not blank, and that is the entry at its own
place where the types up to there are unbroken. -/
theorem types_of_fields
    (filled : ∀ entry ∈ environment.entries "SOURCE_FIELDS", Text.trim entry ≠ "")
    (distinct : ((environment.entries "SOURCE_FIELDS").map Text.trim).Nodup) :
    ∃ schema, (SourceSettings.ofEnvironment environment).schema = .ok schema ∧
      schema.names = (environment.entries "SOURCE_FIELDS").map Text.trim ∧
      ∀ place feature, schema.features[place]? = some feature →
        FeatureType.MeantBy
          (filledEntries (environment.entries "SOURCE_FIELDS_TYPES"))[place]? feature.type ∧
        (Unbroken (environment.entries "SOURCE_FIELDS_TYPES") place →
          FeatureType.MeantBy
            (environment.entries "SOURCE_FIELDS_TYPES")[place]? feature.type) := by
  rcases exists_schema filled distinct with ⟨schema, made, features⟩
  refine ⟨schema, made, ?names, ?types⟩
  case names =>
    rw [Schema.names, features, Schema.namesOf_numberFeatures]
  case types =>
    intro place feature found
    rw [features, Schema.getElem?_numberFeatures] at found
    rcases Option.map_eq_some_iff.mp found with ⟨name, -, rfl⟩
    simp only [ofName?_filledEntries, FeatureType.meantBy_iff]
    exact ⟨trivial, fun unbroken => (ofName?_of_unbroken unbroken).symm⟩

/-! ## A blank entry in front of others -/

/-- Types of which the second and the third are blank, in the way that settings are written. -/
def loggedThings : Environment :=
  [("SOURCE_FIELDS", " size,kind , noted"), ("SOURCE_FIELDS_TYPES", " Numeric ,, ")]

theorem types_of_fields_loggedThings :
    (∀ entry ∈ loggedThings.entries "SOURCE_FIELDS", Text.trim entry ≠ "") ∧
    ((loggedThings.entries "SOURCE_FIELDS").map Text.trim).Nodup ∧
    (∀ place < 3, Unbroken (loggedThings.entries "SOURCE_FIELDS_TYPES") place) ∧
    ∃ schema, (SourceSettings.ofEnvironment loggedThings).schema = .ok schema ∧
      schema.names = ["size", "kind", "noted"] ∧
      ∀ place < 3, ∀ feature, schema.features[place]? = some feature →
        FeatureType.MeantBy
          (loggedThings.entries "SOURCE_FIELDS_TYPES")[place]? feature.type := by
  have filled : ∀ entry ∈ loggedThings.entries "SOURCE_FIELDS", Text.trim entry ≠ "" := by
    decide +kernel
  have distinct : ((loggedThings.entries "SOURCE_FIELDS").map Text.trim).Nodup := by
    decide +kernel
  have unbroken : ∀ place < 3, Unbroken (loggedThings.entries "SOURCE_FIELDS_TYPES") place := by
    decide +kernel
  have spelled : (loggedThings.entries "SOURCE_FIELDS").map Text.trim =
      ["size", "kind", "noted"] := by
    decide +kernel
  rcases types_of_fields filled distinct with ⟨schema, made, names, types⟩
  refine ⟨filled, distinct, unbroken, schema, made, names.trans spelled, ?_⟩
  intro place most feature found
  exact (types place feature found).2 (unbroken place most)

/-- Two fields, of which the first has a blank entry as its type. -/
def halfTyped : Environment :=
  [("SOURCE_FIELDS", "a,b"), ("SOURCE_FIELDS_TYPES", ",numeric")]

/-- A blank entry in front of another one gives its field the type that the next field should have. -/
theorem blank_entry_moves_types :
    (∀ entry ∈ halfTyped.entries "SOURCE_FIELDS", Text.trim entry ≠ "") ∧
    ((halfTyped.entries "SOURCE_FIELDS").map Text.trim).Nodup ∧
    ∃ schema, (SourceSettings.ofEnvironment halfTyped).schema = .ok schema ∧
      schema.features = [⟨0, "a", .numeric⟩, ⟨1, "b", .text⟩] ∧
      ¬ FeatureType.MeantBy (halfTyped.entries "SOURCE_FIELDS_TYPES")[0]? .numeric ∧
      ¬ FeatureType.MeantBy (halfTyped.entries "SOURCE_FIELDS_TYPES")[1]? .text := by
  have filled : ∀ entry ∈ halfTyped.entries "SOURCE_FIELDS", Text.trim entry ≠ "" := by
    decide +kernel
  have distinct : ((halfTyped.entries "SOURCE_FIELDS").map Text.trim).Nodup := by
    decide +kernel
  rcases exists_schema filled distinct with ⟨schema, made, features⟩
  refine ⟨filled, distinct, schema, made, features.trans ?_, ?_, ?_⟩
  all_goals decide +kernel

end Environment

end TableSource
