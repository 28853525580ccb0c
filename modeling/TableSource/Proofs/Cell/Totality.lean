import TableSource.Proofs.Cell.RoundTrip
import TableSource.Proofs.Raw.Texts

/-!
# Values that become cells

Every value becomes a cell of whatever type, with one exception.  A text is written for a mapping
with a key that JSON has no form for by showing the whole value, and that fails on an overlong
integer.  Overlong integers alone and keys of any kind alone do no harm, and for the types that are
no texts there is no exception.
-/

namespace TableSource

namespace Cell

/-! ## Texts -/

variable {depth : Nat} {value : Raw} {failure : TextFailure}

theorem textOfJson?_eq_error_iff
    (nests : value.nestsWithin depth = true) (few : depth < Raw.maxNesting) :
    textOfJson? value = .error failure ↔
      failure = .overlongInteger ∧ value.json .spaced = .error .keyKind ∧ value.HoldsOverlong := by
  have shown : value.literal = .error failure ↔
      failure = .overlongInteger ∧ value.HoldsOverlong :=
    Raw.literal_eq_error_iff (Raw.nestsWithin_mono nests (Nat.le_of_lt few))
  rw [textOfJson?]
  cases written : value.json .spaced with
  | ok text =>
      simp
  | error cause =>
      cases Raw.unwritable_of_json nests few written with
      | overlong held =>
          simp
      | foreignKey held =>
          simp only [map_eq_error_iff, shown, true_and]

/-- The values that are not written as JSON have no keys. -/
theorem text?_eq_error_iff
    (nests : value.nestsWithin depth = true) (few : depth < Raw.maxNesting) :
    text? value = .error failure ↔
      failure = .overlongInteger ∧ value.json .spaced = .error .keyKind ∧ value.HoldsOverlong := by
  have keyless (single : value.isCompound = false) : value.json .spaced ≠ .error .keyKind := by
    intro written
    cases Raw.unwritable_of_json nests few written with
    | foreignKey held =>
        rw [held.isCompound] at single
        cases single
  cases value with
  | bytes _ | date _ | list _ | tuple _ | mapping _ | leaf _ _ _ | group _ _ =>
      rw [← textOfJson?_eq_error_iff nests few, text?]
      all_goals simp
  | float number =>
      have made : ∃ text, text? (.float number) = .ok text := by
        cases number <;> exact ⟨_, rfl⟩
      rcases made with ⟨text, made⟩
      rw [made]
      exact iff_of_false (fun failed => by cases failed) fun both => keyless rfl both.2.1
  | _ =>
      exact iff_of_false (fun failed => by cases failed) fun both => keyless rfl both.2.1

/-! ## Cells -/

/-- What keeps a value from becoming a cell. -/
theorem read?_eq_error_iff
    {type : FeatureType}
    (nests : value.nestsWithin depth = true) (few : depth < Raw.maxNesting) :
    read? type value = .error failure ↔
      (type = .nominal ∨ type = .text) ∧ failure = .overlongInteger ∧
        value.json .spaced = .error .keyKind ∧ value.HoldsOverlong := by
  cases type with
  | nominal | text =>
      rw [read?, map_eq_error_iff, text?_eq_error_iff nests few]
      simp
  | _ =>
      simp [read?]

theorem coerce_eq_error_iff
    {type : FeatureType} :
    coerce type value = .error failure ↔ read? type value = .error failure :=
  map_eq_error_iff

/-- A mapping that starts with a key that JSON has no form for is shown, so an overlong integer
anywhere in it keeps it from becoming a text. -/
theorem coerce_eq_error_of_foreign_key
    {type : FeatureType} {key held : Raw} {rest : List (Raw × Raw)}
    (textual : type = .nominal ∨ type = .text)
    (nests : (Raw.mapping ((key, held) :: rest)).nestsWithin depth = true)
    (few : depth < Raw.maxNesting)
    (foreign : key.isJsonKey = false)
    (overlong : (Raw.mapping ((key, held) :: rest)).HoldsOverlong) :
    coerce type (.mapping ((key, held) :: rest)) = .error .overlongInteger := by
  have keyless : (Raw.mapping ((key, held) :: rest)).json .spaced = .error .keyKind := by
    have failedKey := Raw.jsonKey_eq_error_of_foreign foreign
    rw [Raw.json, Raw.maxNesting, Raw.jsonWithin, List.mapM_cons, failedKey]
    rfl
  exact coerce_eq_error_iff.mpr
    ((read?_eq_error_iff nests few).mpr ⟨textual, rfl, keyless, overlong⟩)

/-- A value that is not nested too deeply is read or refused, and becomes a cell of the type that is
asked for, unless a text is asked for and the value holds both a key that JSON has no form for and
an overlong integer. -/
theorem coerce_total_but_for_foreign_keys
    (type : FeatureType)
    (nests : value.nestsWithin 300 = true) :
    (∃ read, read? type value = .ok read ∧
      coerce type value = .ok (read.getD (default type)) ∧
      (read.getD (default type)).hasType type = true) ∨
    ((type = .nominal ∨ type = .text) ∧ value.HoldsForeignKey ∧ value.HoldsOverlong ∧
      read? type value = .error .overlongInteger ∧
      coerce type value = .error .overlongInteger) := by
  have few : 300 < Raw.maxNesting := by decide
  cases made : read? type value with
  | ok read =>
      have coerced : coerce type value = .ok (read.getD (default type)) := by
        rw [coerce, made]
        rfl
      exact .inl ⟨read, rfl, coerced, hasType_of_coerce coerced⟩
  | error failure =>
      rcases (read?_eq_error_iff nests few).mp made with ⟨textual, rfl, keyless, overlong⟩
      cases Raw.unwritable_of_json nests few keyless with
      | foreignKey foreign =>
          exact .inr ⟨textual, foreign, overlong, rfl, coerce_eq_error_iff.mpr made⟩

/-- A value of many kinds, with a key that JSON has no form for. -/
def motley : Raw :=
  .mapping
    [(.tuple [.int 1, .text "b"],
      .list [.decimal (.nan false true 0), .bytes [107],
        .reading { shown := .epoch, offset := none }, .float .nan])]

theorem coerce_total_motley :
    motley.nestsWithin 300 = true ∧
      ∃ cell, coerce .text motley = .ok cell ∧ cell.hasType .text = true := by
  have nests : motley.nestsWithin 300 = true := by
    decide
  refine ⟨nests, ?_⟩
  rcases coerce_total_but_for_foreign_keys .text nests with
    ⟨read, -, coerced, typed⟩ | ⟨-, -, -, -, failed⟩
  · exact ⟨_, coerced, typed⟩
  · have kept : (coerce .text motley).toOption.isSome = true := by
      decide +kernel
    rw [failed] at kept
    cases kept

/-- The smallest integer without a text, under a key of bytes, which becomes no text. -/
theorem coerce_fails_on_overlong_under_bytes :
    (Raw.mapping [(.bytes [107], .int Numeral.leastOverlong)]).nestsWithin 300 = true ∧
      coerce .text (.mapping [(.bytes [107], .int Numeral.leastOverlong)]) =
        .error .overlongInteger := by
  have nests : (Raw.mapping [(.bytes [107], .int Numeral.leastOverlong)]).nestsWithin 300 = true :=
    rfl
  have overlong : (Raw.mapping [(.bytes [107], .int Numeral.leastOverlong)]).HoldsOverlong :=
    ⟨Numeral.leastOverlong, .within (by simp [Raw.components]) .itself,
      Numeral.isOverlong_leastOverlong⟩
  refine ⟨nests, ?_⟩
  exact coerce_eq_error_of_foreign_key (.inr rfl) nests (by decide) rfl overlong

end Cell

end TableSource
