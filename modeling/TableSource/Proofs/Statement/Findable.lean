import TableSource.Proofs.Cell.RoundTrip
import TableSource.Proofs.Statement.ReadBack

/-!
# What is stored can be found again

A value that is stored under the name of a feature becomes a cell of a row.  The same value in a
leaf of a filter is read as the same cell, so the condition of the leaf, which is compared with the
cell in the row, says of the row what equality says: it is equal, and neither less nor greater.

The database compares cells of one type by their values.  Texts are searched up to an equality of
characters, of which nothing is used but that each character equals itself.
-/

namespace TableSource

open Filter Sql Piece

/-! ## Comparing cells -/

/-- Whether a comparison holds of two values in an order. -/
def Filter.Comparison.holds : Comparison → Ordering → Bool
  | .equal, order => order == .eq
  | .unequal, order => order != .eq
  | .greater, order => order == .gt
  | .atLeast, order => order != .lt
  | .less, order => order == .lt
  | .atMost, order => order != .gt

/-- The order of two cells of one form: numbers by their exact values, so that the two zeros are
equal, instants by time, and texts by their characters. -/
def Cell.order? : Cell → Cell → Option Ordering
  | .number x, .number y => some (compareOfLessAndEq x.toRat y.toRat)
  | .truth x, .truth y => some (compareOfLessAndEq x y)
  | .instant x, .instant y => some (compareOfLessAndEq x.micros y.micros)
  | .text x, .text y => some (compareOfLessAndEq x y)
  | _, _ => none

theorem Cell.order?_self (cell : Cell) :
    cell.order? cell = some .eq := by
  cases cell with
  | number value =>
      simp [order?, compareOfLessAndEq]
  | truth value =>
      simp [order?, compareOfLessAndEq]
  | instant value =>
      simp [order?, compareOfLessAndEq]
  | text value =>
      simp [order?, compareOfLessAndEq]

/-- The comparison of cells by their values, with an equality of characters. -/
def Dialect.canonical (same : Char → Char → Bool) : Dialect where
  compare comparison value other :=
    (Cell.ofRaw? value).bind fun value =>
      (Cell.ofRaw? other).bind fun other => (value.order? other).map comparison.holds
  same := same

theorem Dialect.compared_self
    {same : Char → Char → Bool} (comparison : Comparison) (cell : Cell) :
    (canonical same).compared comparison (some cell.toRaw) (some cell.toRaw) =
      some (comparison.holds .eq) := by
  have read : Cell.ofRaw? cell.toRaw = some cell := Cell.ofRaw?_eq_some_iff.mpr rfl
  simp [compared, canonical, read, cell.order?_self]

/-! ## Storing -/

namespace Row

/-- At the place of a feature, an instance has what the value under its name becomes. -/
theorem valueAt_of_coerce
    {schema : Schema} {feature : Feature} {value : Raw} {row : Row}
    (coerced : coerce schema value = .ok row) (member : feature ∈ schema.features) :
    ∃ cell, Cell.coerce feature.type (Raw.valueUnder (entriesOf value) feature.name) = .ok cell ∧
      valueAt (row.map Cell.toRaw) feature.index = some cell.toRaw := by
  have found := Schema.get?_of_mem member
  rw [Schema.get?] at found
  split at found
  · next positive =>
      rcases List.getElem?_eq_some_iff.mp found with ⟨bound, placed⟩
      have cells := coerce_eq_ok_iff.mp coerced
      have rowBound : feature.index.toNat < row.length := cells.length_eq ▸ bound
      have made := cells.get bound rowBound
      rw [List.get_eq_getElem, placed] at made
      refine ⟨row[feature.index.toNat], made, ?_⟩
      rw [valueAt, if_pos positive, List.getElem?_map, List.getElem?_eq_getElem rowBound]
      rfl
  · cases found

/-- A value alone becomes an instance with its cell at the place of the feature. -/
theorem coerce_single
    {schema : Schema} {feature : Feature} {value : Raw} {cell : Cell}
    (member : feature ∈ schema.features) (coerced : Cell.coerce feature.type value = .ok cell) :
    ∃ row, coerce schema (Raw.record [(feature.name, value)]) = .ok row ∧
      valueAt (row.map Cell.toRaw) feature.index = some cell.toRaw := by
  have each : ∀ other ∈ schema.features, ∃ made,
      Cell.coerce other.type (Raw.valueUnder [(.text feature.name, value)] other.name) =
        .ok made := by
    intro other otherMember
    by_cases sameName : feature.name = other.name
    · have unique : feature = other :=
        List.inj_on_of_nodup_map schema.distinct member otherMember sameName
      rw [← unique, Raw.valueUnder_cons_self]
      exact ⟨cell, coerced⟩
    · rw [Raw.valueUnder_cons_of_ne sameName]
      exact ⟨_, Cell.coerce_null other.type⟩
  have ⟨row, made⟩ : ∃ row, coerce schema (Raw.record [(feature.name, value)]) = .ok row :=
    exists_ok_of_mapM each
  rcases valueAt_of_coerce made member with ⟨other, otherCoerced, placed⟩
  rw [entriesOf_record, List.map_singleton, Raw.valueUnder_cons_self, coerced] at otherCoerced
  cases otherCoerced
  exact ⟨row, made, placed⟩

end Row

/-! ## Asking -/

namespace Filter

/-- What can be asked of a value where the value itself, or a cell that was read from it, is
stored, with the answer that is due. -/
inductive Asks (type : FeatureType) (value : Raw) (cell : Cell) : Operator → Raw → Bool → Prop where
  | weakly {comparison : Comparison}
      (weak : comparison = .equal ∨ comparison = .atLeast ∨ comparison = .atMost) :
      Asks type value cell (.compare comparison) value true
  | strictly {comparison : Comparison}
      (strict : comparison = .unequal ∨ comparison = .greater ∨ comparison = .less) :
      Asks type value cell (.compare comparison) value false
  | between :
      Asks type value cell .between (.list [value, value]) true
  | among {items : List Raw}
      (member : value ∈ items)
      (few : items.length ≤ maxListed)
      (valid : ∀ item ∈ items, item.isContainer = false ∧
        ∃ cell, Cell.read? type item = .ok (some cell)) :
      Asks type value cell .among (.list items) true
  | contains
      (filled : cell ≠ .text "") :
      Asks type value cell .contains value true
  | startsWith
      (filled : cell ≠ .text "") :
      Asks type value cell .startsWith value true

/-- Valid values are read together, each as its own cell. -/
theorem readScalars_of_each
    {type : FeatureType} {values : List Raw}
    (valid : ∀ value ∈ values, value.isContainer = false ∧
      ∃ cell, Cell.read? type value = .ok (some cell)) :
    ∃ cells, readScalars type values = .ok (some cells) ∧
      ∀ value ∈ values, ∀ cell, Cell.read? type value = .ok (some cell) → cell ∈ cells := by
  induction values with
  | nil =>
      exact ⟨[], rfl, by simp⟩
  | cons value rest induction =>
      rw [List.forall_mem_cons] at valid
      rcases valid.1 with ⟨scalar, first, read⟩
      rcases induction valid.2 with ⟨others, readOthers, kept⟩
      refine ⟨first :: others, ?_, ?_⟩
      · rw [readScalars, readScalar_of_read? scalar read, readOthers]
        rfl
      · rw [List.forall_mem_cons]
        constructor
        · intro cell other
          rw [read] at other
          cases other
          exact List.mem_cons_self
        · intro later member cell other
          exact List.mem_cons_of_mem _ (kept later member cell other)

/-- The value of a feature that is searched by its parts is read as a text. -/
theorem readPart_of_read?
    {type : FeatureType} {value : Raw} {cell : Cell}
    (searched : type.allows .contains = true ∨ type.allows .startsWith = true)
    (scalar : value.isContainer = false) (read : Cell.read? type value = .ok (some cell))
    (filled : cell ≠ .text "") :
    ∃ part, cell = .text part ∧ readPart value = .ok (some part) := by
  cases type with
  | nominal | text =>
      rcases map_eq_ok_iff.mp read with ⟨text, made, written⟩
      rcases Option.map_eq_some_iff.mp written with ⟨part, rfl, rfl⟩
      exact ⟨part, rfl, readPart_of_text? scalar made (by simpa using filled)⟩
  | numeric | date | logic =>
      rcases searched with never | never <;> cases never

/-- What is asked of a stored value is read as a test with the answer that is due. -/
theorem readTest_of_asks
    {type : FeatureType} {value asked : Raw} {cell : Cell} {operator : Operator} {expected : Bool}
    {same : Char → Char → Bool}
    (scalar : value.isContainer = false) (read : Cell.read? type value = .ok (some cell))
    (reflexive : ∀ c, same c c = true) (allowed : type.allows operator = true)
    (asks : Asks type value cell operator asked expected) :
    ∃ test, readTest type operator asked = .ok (some test) ∧
      test.truth (Dialect.canonical same) (some cell.toRaw) = some expected := by
  have readValue := readScalar_of_read? scalar read
  have compared : ∀ comparison, readTest type (.compare comparison) value =
      .ok (some (.compare comparison cell)) := by
    intro comparison
    rw [readTest, readValue]
    rfl
  cases asks with
  | @weakly comparison weak =>
      refine ⟨.compare comparison cell, compared comparison, ?_⟩
      rw [Test.truth, Dialect.compared_self]
      rcases weak with rfl | rfl | rfl <;> rfl
  | @strictly comparison strict =>
      refine ⟨.compare comparison cell, compared comparison, ?_⟩
      rw [Test.truth, Dialect.compared_self]
      rcases strict with rfl | rfl | rfl <;> rfl
  | between =>
      refine ⟨.between cell cell, ?_, ?_⟩
      · simp only [readTest, Raw.items?, readValue]
        rfl
      · rw [Test.truth, Dialect.compared_self, Dialect.compared_self]
        rfl
  | @among items member few valid =>
      rcases readScalars_of_each valid with ⟨cells, readItems, kept⟩
      refine ⟨.among cells, ?_, ?_⟩
      · have sized : (items.isEmpty || decide (maxListed < items.length)) = false := by
          rw [Bool.or_eq_false_iff, List.isEmpty_eq_false_iff_exists_mem, decide_eq_false_iff_not]
          exact ⟨⟨value, member⟩, Nat.not_lt.mpr few⟩
        simp only [readTest, Raw.items?, sized, readItems]
        rfl
      · rw [Test.truth]
        apply Truth.any_of_mem
        rw [List.mem_map]
        exact ⟨cell, kept value member cell read, Dialect.compared_self .equal cell⟩
  | contains filled =>
      rcases readPart_of_read? (.inl allowed) scalar read filled with ⟨part, rfl, readText⟩
      refine ⟨.contains part, ?_, ?_⟩
      · rw [readTest, readText]
        rfl
      · exact congrArg some (Pattern.occursIn_self reflexive part.toList)
  | startsWith filled =>
      rcases readPart_of_read? (.inr allowed) scalar read filled with ⟨start, rfl, readText⟩
      refine ⟨.startsWith start, ?_, ?_⟩
      · rw [readTest, readText]
        rfl
      · exact congrArg some (Pattern.beginsWith_self reflexive start.toList)

/-- A leaf whose value is read for an operator of its feature is kept, wherever it stands. -/
theorem accept_leafRecord
    {schema : Schema} {feature : Feature} {operator : Operator} {asked : Raw} {test : Test Cell}
    (member : feature ∈ schema.features) (allowed : feature.type.allows operator = true)
    (read : readTest feature.type operator asked = .ok (some test)) (depth : Int) :
    accept schema (leafRecord (.int feature.index) (.text operator.word) asked) depth =
      .ok (some (.leaf feature.index test)) := by
  rw [accept, leafRecord_eq, acceptWithin_leaf]
  · exact acceptLeaf_of_readTest (Schema.get?_of_mem member) allowed read
  · exact connectiveOf?_word operator

end Filter

/-! ## Finding -/

namespace Filter.Node

/-- The condition of a well-formed filter has one derivation, which says what the filter says. -/
theorem exists_derivation
    {schema : Schema} {depth : Int} {node : Node Cell}
    (wellFormed : WellFormed schema depth node) :
    ∃ pieces, node.condition schema = .ok pieces ∧
      ∃ condition : Disjunction,
        (∀ other : Disjunction, lex? (text 0 pieces) = some other.tokens ↔ other = condition) ∧
        ∀ (dialect : Dialect) (row : List Raw),
          condition.truth schema (params pieces) dialect row = node.truth dialect row := by
  rcases condition_of_wellFormed wellFormed with ⟨pieces, made⟩
  have readable := readable_condition wellFormed made
  rcases readable.read 0 with ⟨primary, reads⟩
  have supplied : Supplied (params pieces) 0 pieces := List.prefix_rfl
  let condition : Disjunction := .single (.single primary)
  have recovered : condition.node? schema (params pieces) = some node.plain :=
    reads.node _ supplied
  refine ⟨pieces, made, condition, ?_, ?_⟩
  · intro other
    rw [lex?_text readable.apart, ← reads.tokens, Option.some.injEq, eq_comm]
    exact @Disjunction.tokens_inj other condition
  · intro dialect row
    rw [Disjunction.truth_of_node? dialect row recovered]
    exact truth_plain wellFormed dialect row

/-- A value that is valid for a feature is stored so that the conditions of the leaves that hold it
find the row, or miss it, as is due. -/
theorem stored_value_is_found
    {schema : Schema} {feature : Feature} {value : Raw} {cell : Cell} {same : Char → Char → Bool}
    (member : feature ∈ schema.features) (scalar : value.isContainer = false)
    (read : Cell.read? feature.type value = .ok (some cell))
    (reflexive : ∀ c, same c c = true) :
    ∃ row, Row.coerce schema (Raw.record [(feature.name, value)]) = .ok row ∧
      ∀ (operator : Operator) (asked : Raw) (expected : Bool) (depth : Int),
        feature.type.allows operator = true →
        Asks feature.type value cell operator asked expected →
        ∃ test pieces,
          accept schema (leafRecord (.int feature.index) (.text operator.word) asked) depth =
            .ok (some (.leaf feature.index test)) ∧
          (Node.leaf feature.index test).condition schema = .ok pieces ∧
          ∃ condition : Disjunction,
            (∀ other : Disjunction,
              lex? (text 0 pieces) = some other.tokens ↔ other = condition) ∧
            condition.truth schema (params pieces) (Dialect.canonical same)
              (row.map Cell.toRaw) = some expected := by
  rcases Row.coerce_single member (Cell.coerce_of_read? read) with ⟨row, coerced, placed⟩
  refine ⟨row, coerced, ?_⟩
  intro operator asked expected depth allowed asks
  rcases readTest_of_asks scalar read reflexive allowed asks with ⟨test, readTest, answered⟩
  have kept := accept_leafRecord member allowed readTest depth
  rcases exists_derivation (wellFormed_of_acceptWithin rfl kept) with ⟨pieces, made, condition, unique, agrees⟩
  refine ⟨test, pieces, kept, made, condition, unique, ?_⟩
  rw [agrees, Node.truth, placed]
  exact answered

/-- A kind that looks like a pattern, among others and alone. -/
theorem stored_value_is_found_discount :
    let same := fun c d : Char => c.toLower == d.toLower
    let kind : Raw := .text "100%_\\"
    ∃ row, Row.coerce datedThings (Raw.record [("kind", kind)]) = .ok row ∧
      ∀ asked ∈
        [(Operator.among, Raw.list [.int 7, kind], true), (.startsWith, kind, true),
          (.compare .unequal, kind, false)],
        ∃ test pieces,
          accept datedThings (leafRecord (.int 1) (.text asked.1.word) asked.2.1) 0 =
            .ok (some (.leaf 1 test)) ∧
          (Node.leaf 1 test).condition datedThings = .ok pieces ∧
          ∃ condition : Disjunction,
            (∀ other : Disjunction,
              lex? (text 0 pieces) = some other.tokens ↔ other = condition) ∧
            condition.truth datedThings (params pieces) (Dialect.canonical same)
              (row.map Cell.toRaw) = some asked.2.2 := by
  intro same kind
  have member : (⟨1, "kind", .nominal⟩ : Feature) ∈ datedThings.features := by decide
  have read : Cell.read? .nominal kind = .ok (some (.text "100%_\\")) := rfl
  have reflexive : ∀ c, same c c = true := fun c => beq_self_eq_true c.toLower
  have filled : Cell.text "100%_\\" ≠ .text "" := by decide
  have valid : ∀ item ∈ [Raw.int 7, kind], item.isContainer = false ∧
      ∃ cell, Cell.read? .nominal item = .ok (some cell) := by
    rw [List.forall_mem_cons, List.forall_mem_singleton]
    exact ⟨⟨rfl, .text "7", by decide +kernel⟩, rfl, _, read⟩
  rcases stored_value_is_found member rfl read reflexive with ⟨row, coerced, found⟩
  refine ⟨row, coerced, ?_⟩
  rw [List.forall_mem_cons, List.forall_mem_cons, List.forall_mem_singleton]
  exact ⟨found .among _ true 0 rfl (.among (by simp) (by decide) valid),
    found .startsWith _ true 0 rfl (.startsWith filled),
    found (.compare .unequal) _ false 0 rfl (.strictly (.inl rfl))⟩

end Filter.Node

end TableSource
