import TableSource.Proofs.Filter.WellFormed
import TableSource.Proofs.Number.WholeText
import TableSource.Proofs.Raw.Texts
import TableSource.Schema.Projection

/-!
# Resolved projections

A projection is resolved to the indexes of features that its entries spell.  These indexes are a
normal form: as a list, or as a text of decimal numerals with commas between them, they resolve to
themselves.  The entries of a text are resolved one by one, so texts that are joined by a comma
resolve to their indexes one after the other.

A text always resolves.  What keeps another value from it is an item that is nested too deeply to
be shown, or that it has no items at all.
-/

namespace TableSource

namespace Text

/-! ## Parts -/

theorem splitChars_ne_nil (separator : Char) (cs : List Char) :
    splitChars separator cs ≠ [] := by
  fun_cases splitChars separator cs <;> exact List.cons_ne_nil _ _

theorem splitChars_append (separator : Char) (cs others : List Char) :
    splitChars separator (cs ++ separator :: others) =
      splitChars separator cs ++ splitChars separator others := by
  induction cs with
  | nil =>
      have first : splitChars separator (separator :: others) =
          [] :: splitChars separator others := if_pos rfl
      rw [List.nil_append, first]
      rfl
  | cons c rest induction =>
      rw [List.cons_append, splitChars, splitChars, induction]
      split
      · rfl
      · cases parts : splitChars separator rest with
        | nil =>
            exact absurd parts (splitChars_ne_nil separator rest)
        | cons part parts =>
            rfl

/-- Without the separator there is one part. -/
theorem splitChars_eq_singleton
    {separator : Char} {cs : List Char}
    (absent : separator ∉ cs) :
    splitChars separator cs = [cs] := by
  induction cs with
  | nil =>
      rfl
  | cons c rest induction =>
      rw [List.mem_cons, not_or] at absent
      rw [splitChars, if_neg (Ne.symm absent.1), induction absent.2]

theorem split_append (separator : Char) (text other : String) :
    split separator (text ++ String.singleton separator ++ other) =
      split separator text ++ split separator other := by
  simp only [split, String.toList_append, String.toList_singleton, List.append_assoc,
    List.singleton_append, splitChars_append, List.map_append]

end Text

namespace Schema

variable {schema : Schema}

/-! ## Entries -/

/-- An index that a numeral spells and that belongs to a feature. -/
def Resolved (schema : Schema) (index : ℤ) : Prop :=
  (schema.get? index).isSome = true ∧ Numeral.isOverlong index = false

theorem resolved_of_entryIndex?
    {entry : String} {index : ℤ}
    (spelled : schema.entryIndex? entry = some index) :
    schema.Resolved index := by
  rcases Option.filter_eq_some_iff.mp spelled with ⟨read, found⟩
  exact ⟨found, Numeral.isOverlong_of_whole? read⟩

theorem entryIndex?_toString
    {index : ℤ} (resolved : schema.Resolved index) :
    schema.entryIndex? (toString index) = some index := by
  have trimmed : Text.trim (toString index) = toString index := by
    rw [Text.trim, Numeral.trimChars_toString, String.ofList_toList]
  rw [entryIndex?, trimmed, Numeral.whole?_toString resolved.2, Option.filter_some,
    if_pos resolved.1]

/-- A text spells an index that belongs to a feature. -/
def Names (schema : Schema) (entry : String) (index : ℤ) : Prop :=
  (schema.get? index).isSome = true ∧ Numeral.Spells (Text.trim entry).toList index

theorem entryIndex?_eq_some_iff
    {entry : String} {index : ℤ} :
    schema.entryIndex? entry = some index ↔ schema.Names entry index := by
  rw [entryIndex?, Option.filter_eq_some_iff, Numeral.whole?_eq_some_iff]
  exact and_comm

theorem mem_indexesOf_iff
    {entries : List String} {index : ℤ} :
    index ∈ schema.indexesOf entries ↔ ∃ entry ∈ entries, schema.Names entry index := by
  simp only [indexesOf, List.mem_filterMap, entryIndex?_eq_some_iff]

theorem resolved_of_mem_indexesOf
    {entries : List String} {index : ℤ}
    (member : index ∈ schema.indexesOf entries) :
    schema.Resolved index := by
  rcases List.mem_filterMap.mp member with ⟨entry, -, spelled⟩
  exact resolved_of_entryIndex? spelled

/-! ## Projections of any form -/

theorem projection_text (text : String) :
    schema.projection (.text text) = .ok (schema.projectionOfText text) := by
  rw [projection]
  split
  case isTrue empty =>
    have none : text = "" := String.isEmpty_iff.mp empty
    rw [none]
    rfl
  case isFalse =>
    rfl

theorem projection_list (items : List Raw) :
    schema.projection (.list items) = (shownTexts items).map schema.indexesOf := by
  cases items <;> rfl

/-- Whatever its form, a projection gives the indexes of some entries. -/
theorem exists_indexesOf_of_projection
    {value : Raw} {indexes : List ℤ}
    (made : schema.projection value = .ok indexes) :
    ∃ entries, schema.indexesOf entries = indexes := by
  unfold projection at made
  split at made
  case isTrue =>
    cases made
    exact ⟨[], rfl⟩
  case isFalse =>
    cases value with
    | text | bytes =>
        cases made
        exact ⟨_, rfl⟩
    | list | tuple | mapping =>
        rcases map_eq_ok_iff.mp made with ⟨entries, -, given⟩
        exact ⟨entries, given⟩
    | _ =>
        cases made

theorem resolved_of_mem_projection
    {value : Raw} {indexes : List ℤ}
    (made : schema.projection value = .ok indexes) :
    ∀ index ∈ indexes, schema.Resolved index := by
  rcases exists_indexesOf_of_projection made with ⟨entries, rfl⟩
  exact fun index member => resolved_of_mem_indexesOf member

theorem mem_shownTexts_iff
    {items : List Raw} {texts : List String} {text : String}
    (made : shownTexts items = .ok texts) :
    text ∈ texts ↔ ∃ item ∈ items, item.shown = .ok text := by
  induction items generalizing texts with
  | nil =>
      cases made
      simp
  | cons item rest induction =>
      rw [shownTexts] at made
      split at made
      case h_1 first shown =>
        rcases map_eq_ok_iff.mp made with ⟨others, madeOthers, rfl⟩
        simp [induction madeOthers, shown, eq_comm]
      case h_2 overlong =>
        simp [induction made, overlong]
      case h_3 =>
        cases made

/-- Only a value that is nested too deeply keeps the others from being shown. -/
theorem exists_shownTexts
    {items : List Raw}
    (nest : ∀ item ∈ items, item.nestsWithin Raw.maxNesting = true) :
    ∃ texts, shownTexts items = .ok texts := by
  induction items with
  | nil =>
      exact ⟨[], rfl⟩
  | cons item rest induction =>
      rw [List.forall_mem_cons] at nest
      rcases induction nest.2 with ⟨others, madeOthers⟩
      rw [shownTexts, madeOthers]
      cases shown : item.shown with
      | ok text =>
          exact ⟨text :: others, rfl⟩
      | error failure =>
          rw [(Raw.holdsOverlong_of_shown nest.1 shown).1]
          exact ⟨others, rfl⟩

/-- Only features of the schema are selected. -/
theorem mem_of_mem_select
    {indexes : List ℤ} {feature : Feature}
    (member : feature ∈ schema.select indexes) :
    feature ∈ schema.features := by
  rw [select] at member
  split at member
  · exact member
  · rcases List.mem_filterMap.mp member with ⟨index, -, found⟩
    exact mem_of_get? found

/-! ## Resolving again -/

section Again

variable {indexes : List ℤ}

theorem indexesOf_toString
    (resolved : ∀ index ∈ indexes, schema.Resolved index) :
    schema.indexesOf (indexes.map toString) = indexes := by
  induction indexes with
  | nil =>
      rfl
  | cons index rest induction =>
      rw [List.forall_mem_cons] at resolved
      rw [List.map_cons, indexesOf,
        List.filterMap_cons_some (entryIndex?_toString resolved.1)]
      exact congrArg (index :: ·) (induction resolved.2)

/-- An index is shown as its decimal text. -/
theorem shownTexts_int
    (resolved : ∀ index ∈ indexes, schema.Resolved index) :
    shownTexts (indexes.map .int) = .ok (indexes.map toString) := by
  induction indexes with
  | nil =>
      rfl
  | cons index rest induction =>
      rw [List.forall_mem_cons] at resolved
      have literal (depth : ℕ) :
          Raw.literalWithin depth (.int index) = .ok (toString index) := by
        rw [Raw.literalWithin, Raw.integerText_of_short resolved.1.2]
      have shown : (Raw.int index).shown = .ok (toString index) := literal Raw.maxNesting
      rw [List.map_cons, shownTexts, shown, induction resolved.2]
      rfl

theorem projection_list_of_resolved
    (resolved : ∀ index ∈ indexes, schema.Resolved index) :
    schema.projection (.list (indexes.map .int)) = .ok indexes := by
  rw [projection_list, shownTexts_int resolved, Except.map, indexesOf_toString resolved]

theorem projectionOfText_append (text other : String) :
    schema.projectionOfText (text ++ "," ++ other) =
      schema.projectionOfText text ++ schema.projectionOfText other := by
  have comma : "," = String.singleton ',' := rfl
  rw [projectionOfText, comma, Text.split_append, indexesOf, List.filterMap_append]
  rfl

theorem projectionOfText_toString
    {index : ℤ} (resolved : schema.Resolved index) :
    schema.projectionOfText (toString index) = [index] := by
  have absent : ',' ∉ (toString index).toList := by
    have areDigits := (Numeral.digitsValue_toDigits index.natAbs).1
    rw [Numeral.toList_toString]
    have noDigit : ',' ∉ Nat.toDigits 10 index.natAbs := fun member =>
      Bool.false_ne_true (areDigits ',' member)
    split
    · rw [List.mem_cons, not_or]
      exact ⟨by decide, noDigit⟩
    · exact noDigit
  have again := indexesOf_toString (List.forall_mem_singleton.mpr resolved)
  rw [List.map_singleton] at again
  rw [projectionOfText, Text.split, Text.splitChars_eq_singleton absent, List.map_singleton,
    String.ofList_toList, again]

/-- The numerals of a text are resolved one after the other. -/
theorem projectionOfText_intercalate
    (resolved : ∀ index ∈ indexes, schema.Resolved index) :
    schema.projectionOfText (",".intercalate (indexes.map toString)) = indexes := by
  induction indexes with
  | nil =>
      rfl
  | cons index rest induction =>
      rw [List.forall_mem_cons] at resolved
      cases rest with
      | nil =>
          exact projectionOfText_toString resolved.1
      | cons second others =>
          rw [List.map_cons, List.map_cons, String.intercalate_cons_cons,
            projectionOfText_append, projectionOfText_toString resolved.1, ← List.map_cons,
            induction resolved.2]
          rfl

/-- The features of resolved indexes, one for each. -/
theorem select_of_resolved
    (resolved : ∀ index ∈ indexes, schema.Resolved index) :
    (schema.select indexes).map some =
      if indexes = [] then schema.features.map some else indexes.map schema.get? := by
  have chosen : (indexes.filterMap schema.get?).map some = indexes.map schema.get? := by
    induction indexes with
    | nil =>
        rfl
    | cons index rest induction =>
        rw [List.forall_mem_cons] at resolved
        rcases Option.isSome_iff_exists.mp resolved.1.1 with ⟨feature, found⟩
        rw [List.filterMap_cons_some found, List.map_cons, List.map_cons, induction resolved.2,
          found]
  have empty : indexes.filterMap schema.get? = [] ↔ indexes = [] := by
    rw [← List.map_eq_nil_iff, chosen, List.map_eq_nil_iff]
  rw [select]
  simp only [List.isEmpty_iff, empty]
  split
  · rfl
  · exact chosen

end Again

/-- A text always resolves, and so does a list of values that are not nested too deeply; the
indexes are the ones that belong to features and that the parts of the text, or the texts of the
values, spell.  Texts that are joined by a comma resolve to their indexes one after the other.
Resolving the indexes of any projection again, as a list or as a text, changes nothing, and they
select their features in their order. -/
theorem projection_resolves (schema : Schema) :
    (∀ text, schema.projection (.text text) = .ok (schema.projectionOfText text) ∧
      ∀ index, index ∈ schema.projectionOfText text ↔
        ∃ entry ∈ Text.split ',' text, schema.Names entry index) ∧
    (∀ text other, schema.projectionOfText (text ++ "," ++ other) =
      schema.projectionOfText text ++ schema.projectionOfText other) ∧
    (∀ items, (∀ item ∈ items, item.nestsWithin Raw.maxNesting = true) →
      ∃ indexes, schema.projection (.list items) = .ok indexes) ∧
    (∀ items indexes, schema.projection (.list items) = .ok indexes → ∀ index,
      (index ∈ indexes ↔
        ∃ item ∈ items, ∃ entry, item.shown = .ok entry ∧ schema.Names entry index)) ∧
    ∀ value indexes, schema.projection value = .ok indexes →
      (∀ index ∈ indexes, (schema.get? index).isSome = true) ∧
      schema.projection (.list (indexes.map .int)) = .ok indexes ∧
      schema.projection (.text (",".intercalate (indexes.map toString))) = .ok indexes ∧
      (schema.select indexes).map some =
        if indexes = [] then schema.features.map some else indexes.map schema.get? := by
  refine ⟨fun text => ⟨projection_text text, fun index => mem_indexesOf_iff⟩,
    projectionOfText_append, ?succeeds, ?spelled, ?again⟩
  case succeeds =>
    intro items nest
    rcases exists_shownTexts nest with ⟨texts, made⟩
    rw [projection_list, made]
    exact ⟨_, rfl⟩
  case spelled =>
    intro items indexes made index
    rw [projection_list] at made
    rcases map_eq_ok_iff.mp made with ⟨texts, shown, rfl⟩
    rw [mem_indexesOf_iff]
    constructor
    · rintro ⟨entry, member, named⟩
      rcases (mem_shownTexts_iff shown).mp member with ⟨item, inside, isShown⟩
      exact ⟨item, inside, entry, isShown, named⟩
    · rintro ⟨item, inside, entry, isShown, named⟩
      exact ⟨entry, (mem_shownTexts_iff shown).mpr ⟨item, inside, isShown⟩, named⟩
  case again =>
    intro value indexes made
    have resolved := resolved_of_mem_projection made
    refine ⟨fun index member => (resolved index member).1, projection_list_of_resolved resolved, ?_,
      select_of_resolved resolved⟩
    rw [projection_text, projectionOfText_intercalate resolved]

/-- The schema of two lengths. -/
def lengths : Schema where
  features := [⟨0, "width", .numeric⟩, ⟨1, "height", .numeric⟩]
  inOrder := by
    repeat rw [inOrder_cons]
    simp [InOrder]
  distinct := by
    simp [namesOf]

theorem projection_resolves_again :
    let items : List Raw := [.text " +1 ", .null, .list [.int 0], .text "0_0", .int 2, .int 1]
    (∀ item ∈ items, item.nestsWithin Raw.maxNesting = true) ∧
      lengths.projection (.list items) = .ok [1, 0, 1] ∧
      lengths.projection (.list [.int 1, .int 0, .int 1]) = .ok [1, 0, 1] ∧
      lengths.projection (.text "1,0,1") = .ok [1, 0, 1] := by
  intro items
  have nest : ∀ item ∈ items, item.nestsWithin Raw.maxNesting = true := by
    decide
  have read : (lengths.projection (.list items)).toOption = some [1, 0, 1] := by
    decide +kernel
  rcases projection_resolves lengths with ⟨-, -, succeeds, -, again⟩
  rcases succeeds items nest with ⟨indexes, made⟩
  rw [made] at read
  cases read
  rcases again (.list items) [1, 0, 1] made with ⟨-, asList, asText, -⟩
  exact ⟨nest, made, asList, asText⟩

end Schema

end TableSource
