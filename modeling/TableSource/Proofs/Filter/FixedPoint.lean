import TableSource.Proofs.Filter.WellFormed
import TableSource.Proofs.Time.InstantText

/-!
# Well-formed filters are fixed points of admission

A well-formed filter is admitted as it is, whether it stands as a typed value or as nested
mappings.  Admission turns a typed value into the mappings first, so one statement for mappings is
enough: what a cell is sent as is read as the cell, the value of a test as the test, a leaf as the
leaf, and a group as the group.
-/

namespace TableSource

/-! ## Cells -/

/-- A cell is read back from what it is sent as. -/
theorem Cell.read?_wire
    {type : FeatureType} {cell : Cell}
    (typed : cell.hasType type = true) :
    Cell.read? type cell.wire = .ok (some cell) := by
  cases cell with
  | number value =>
      cases type with
      | numeric =>
          rfl
      | _ =>
          cases typed
  | truth value =>
      cases type with
      | logic =>
          rfl
      | _ =>
          cases typed
  | instant value =>
      cases type with
      | date =>
          show Except.ok ((instantOfText? value.wire).map Cell.instant) = _
          rw [instantOfText?_wire]
          rfl
      | _ =>
          cases typed
  | text value =>
      cases type with
      | nominal =>
          rfl
      | text =>
          rfl
      | _ =>
          cases typed

theorem Cell.isContainer_wire (cell : Cell) :
    cell.wire.isContainer = false := by
  cases cell <;> rfl

namespace Filter

theorem readScalar_of_read?
    {type : FeatureType} {value : Raw} {cell : Cell}
    (scalar : value.isContainer = false) (read : Cell.read? type value = .ok (some cell)) :
    readScalar type value = .ok (some cell) := by
  rw [readScalar, scalar, Bool.and_false, read]
  rfl

theorem readScalar_wire
    {type : FeatureType} {cell : Cell}
    (typed : cell.hasType type = true) :
    readScalar type cell.wire = .ok (some cell) :=
  readScalar_of_read? cell.isContainer_wire (Cell.read?_wire typed)

theorem readScalars_wire
    {type : FeatureType} {cells : List Cell}
    (typed : ∀ cell ∈ cells, cell.hasType type = true) :
    readScalars type (cells.map Cell.wire) = .ok (some cells) := by
  induction cells with
  | nil =>
      rfl
  | cons cell rest induction =>
      rw [List.forall_mem_cons] at typed
      rw [List.map_cons, readScalars, readScalar_wire typed.1, induction typed.2]
      rfl

theorem readPart_of_text?
    {value : Raw} {part : String}
    (scalar : value.isContainer = false) (read : Cell.text? value = .ok (some part))
    (filled : part ≠ "") :
    readPart value = .ok (some part) := by
  have nonempty : part.isEmpty = false := by
    rw [← Bool.not_eq_true, String.isEmpty_iff]
    exact filled
  rw [readPart, scalar, read]
  show Except.ok (if part.isEmpty then none else some part) = _
  rw [nonempty]
  rfl

theorem readPart_text
    {part : String}
    (filled : part ≠ "") :
    readPart (.text part) = .ok (some part) :=
  readPart_of_text? rfl rfl filled

/-! ## Leaves -/

@[simp]
theorem Operator.ofWord?_word (operator : Operator) :
    ofWord? operator.word = some operator := by
  cases operator with
  | compare comparison =>
      cases comparison <;> decide
  | _ =>
      decide

/-- No operator of a leaf has the word of a connective. -/
theorem connectiveOf?_word (operator : Operator) :
    connectiveOf? (.text operator.word) = none := by
  cases operator with
  | compare comparison =>
      cases comparison <;> decide
  | _ =>
      decide

theorem operatorFor?_word
    {type : FeatureType} {operator : Operator}
    (allowed : type.allows operator = true) :
    operatorFor? type (.text operator.word) = some operator := by
  simp [operatorFor?, allowed]

/-- A test that fits a type has an operator of the type, and is read back from its value. -/
theorem readTest_wire
    {type : FeatureType} {test : Test Cell}
    (fits : test.Fits type) :
    ∃ operator, test.word = operator.word ∧ type.allows operator = true ∧
      readTest type operator test.wire = .ok (some test) := by
  cases test with
  | compare comparison value =>
      refine ⟨.compare comparison, rfl, fits.1, ?_⟩
      rw [readTest, Test.wire, readScalar_wire fits.2]
      rfl
  | between low high =>
      rcases fits with ⟨allowed, lowTyped, highTyped⟩
      refine ⟨.between, rfl, allowed, ?_⟩
      simp only [readTest, Test.wire, Raw.items?, readScalar_wire lowTyped,
        readScalar_wire highTyped]
      rfl
  | among values =>
      rcases fits with ⟨allowed, filled, bounded, typed⟩
      refine ⟨.among, rfl, allowed, ?_⟩
      have sized : ((values.map Cell.wire).isEmpty ||
          decide (maxListed < (values.map Cell.wire).length)) = false := by
        simp only [Bool.or_eq_false_iff, decide_eq_false_iff_not, List.length_map, Nat.not_lt]
        refine ⟨?_, bounded⟩
        rw [List.isEmpty_map, List.isEmpty_eq_false_iff_exists_mem]
        exact List.exists_mem_of_length_pos filled
      simp only [readTest, Test.wire, Raw.items?, sized, readScalars_wire typed]
      rfl
  | contains part =>
      refine ⟨.contains, rfl, fits.1, ?_⟩
      rw [readTest, Test.wire, readPart_text fits.2]
      rfl
  | startsWith start =>
      refine ⟨.startsWith, rfl, fits.1, ?_⟩
      rw [readTest, Test.wire, readPart_text fits.2]
      rfl
  | unknown name =>
      exact fits.elim

theorem leafRecord_eq (feature operator value : Raw) :
    leafRecord feature operator value =
      .mapping [(.text "feature", feature), (.text "op", operator), (.text "value", value)] := rfl

/-- A leaf whose value is read for an operator of its feature is admitted. -/
theorem acceptLeaf_of_named
    {schema : Schema} {entries : List (Raw × Raw)} {index : Int} {feature : Feature}
    {operator : Operator} {test : Test Cell}
    (found : schema.get? index = some feature) (allowed : feature.type.allows operator = true)
    (named : Raw.valueUnder entries "feature" = .int index)
    (asked : Raw.valueUnder entries "op" = .text operator.word)
    (read : readTest feature.type operator (Raw.valueUnder entries "value") = .ok (some test)) :
    acceptLeaf schema entries = .ok (some (.leaf index test)) := by
  have known : schema.lookup? (.int index) = some feature := found
  have sameIndex := Schema.index_of_get? found
  simp only [acceptLeaf, named, asked, known, operatorFor?_word allowed, read, sameIndex]
  rfl

theorem acceptLeaf_of_readTest
    {schema : Schema} {index : Int} {feature : Feature} {operator : Operator} {asked : Raw}
    {test : Test Cell}
    (found : schema.get? index = some feature) (allowed : feature.type.allows operator = true)
    (read : readTest feature.type operator asked = .ok (some test)) :
    acceptLeaf schema
        [(.text "feature", .int index), (.text "op", .text operator.word), (.text "value", asked)] =
      .ok (some (.leaf index test)) := by
  apply acceptLeaf_of_named found allowed rfl rfl
  exact read

theorem acceptLeaf_record
    {schema : Schema} {index : Int} {feature : Feature} {test : Test Cell}
    (found : schema.get? index = some feature)
    (fits : test.Fits feature.type) :
    acceptLeaf schema
        [(.text "feature", .int index), (.text "op", .text test.word), (.text "value", test.wire)] =
      .ok (some (.leaf index test)) := by
  rcases readTest_wire fits with ⟨operator, named, allowed, read⟩
  rw [named]
  exact acceptLeaf_of_readTest found allowed read

/-! ## Trees -/

theorem collect_eq
    {accept : Raw → Except TextFailure (Option (Node Cell))} {nodes : List (Node Cell)}
    (each : ∀ node ∈ nodes, accept node.record = .ok (some node)) :
    collect accept (Node.records nodes) = .ok nodes := by
  induction nodes with
  | nil =>
      rfl
  | cons node rest induction =>
      rw [List.forall_mem_cons] at each
      rw [Node.records, collect, each.1, induction each.2]
      rfl

theorem connectiveOf?_lower_word
    {connective : Connective}
    (known : connective = .all ∨ connective = .any) :
    connectiveOf? (.text (Text.lower connective.word)) = some connective := by
  rcases known with rfl | rfl
  · decide
  · decide

theorem groupRecord_eq (word : String) (children : List Raw) :
    groupRecord word children =
      .mapping [(.text "op", .text (Text.lower word)), (.text "children", .list children)] := rfl

/-- A mapping without a connective is admitted like a leaf, at whatever depth it stands. -/
theorem acceptWithin_leaf
    (schema : Schema) (levels : Nat) (entries : List (Raw × Raw))
    (noConnective : connectiveOf? (Raw.valueUnder entries "op") = none) :
    acceptWithin schema levels (.mapping entries) = acceptLeaf schema entries := by
  rw [acceptWithin]
  simp only [recordOf, bind, Except.bind, noConnective]

/-- A mapping with a connective and children is admitted as what is left of the children. -/
theorem acceptWithin_group
    {connective : Connective} {children : List Raw}
    (schema : Schema) (below : Nat) (entries : List (Raw × Raw))
    (named : connectiveOf? (Raw.valueUnder entries "op") = some connective)
    (listed : (Raw.valueUnder entries "children").items? = some children) :
    acceptWithin schema (below + 1) (.mapping entries) =
      (collect (acceptWithin schema below) children).map (groupOf connective) := by
  rw [acceptWithin]
  simp only [recordOf, bind, Except.bind, named, listed]
  cases collect (acceptWithin schema below) children <;> rfl

/-- The mappings of a well-formed filter are admitted as the filter. -/
theorem acceptWithin_record
    {schema : Schema} {depth : Int} {node : Node Cell}
    (wellFormed : WellFormed schema depth node) :
    acceptWithin schema (levelsAt depth) node.record = .ok (some node) := by
  induction wellFormed with
  | leaf found fits =>
      rcases readTest_wire fits with ⟨operator, named, -, -⟩
      have noConnective := connectiveOf?_word operator
      rw [← named] at noConnective
      rw [Node.record, leafRecord_eq, acceptWithin_leaf]
      · exact acceptLeaf_record found fits
      · exact noConnective
  | @group depth connective children known within nonempty _ induction =>
      -- the depth bound leaves a level for this group and the rest for its children
      have levels : levelsAt depth = levelsAt (depth + 1) + 1 := by
        simp only [levelsAt]
        omega
      have kept : children.isEmpty = false := by
        rw [← Bool.not_eq_true, List.isEmpty_iff]
        exact nonempty
      have group : groupOf connective children = some (.group connective children) := by
        rw [groupOf, kept]
        rfl
      have left := collect_eq induction
      rw [Node.record, levels, groupRecord_eq, acceptWithin_group]
      · rw [left, ← group]
        rfl
      · exact connectiveOf?_lower_word known
      · rfl

/-! ## Typed values -/

/-- A typed value is admitted like the mappings that it stands for. -/
theorem acceptWithin_of_recordOf
    {value other : Raw} (schema : Schema) (levels : Nat)
    (same : recordOf value = recordOf other) :
    acceptWithin schema levels value = acceptWithin schema levels other := by
  cases levels with
  | zero =>
      rw [acceptWithin, acceptWithin, same]
  | succ below =>
      rw [acceptWithin, acceptWithin, same]

/-- A reading that knows its offset is sent as its instant. -/
theorem wireOfReading_of_instant?
    {reading : Reading} {instant : Instant}
    (known : reading.offset.isSome = true) (found : reading.instant? = some instant) :
    Raw.wireOfReading reading = .ok (.text instant.wire) := by
  rcases Option.isSome_iff_exists.mp known with ⟨offset, given⟩
  rw [Reading.instant?, given] at found
  rw [Raw.wireOfReading, Reading.sentOffset, given]
  simp only [Except.mapError, bind, Except.bind, found]
  rfl

theorem wire_toRaw (cell : Cell) :
    Raw.wire cell.toRaw = .ok cell.wire := by
  cases cell with
  | instant value =>
      exact wireOfReading_of_instant? rfl (Reading.instant?_of_offset_zero value)
  | _ =>
      rfl

theorem mapM_wire_toRaw (cells : List Cell) :
    (cells.map Cell.toRaw).mapM Raw.wire = .ok (cells.map Cell.wire) := by
  induction cells with
  | nil =>
      rfl
  | cons cell rest induction =>
      rw [List.map_cons, List.mapM_cons, wire_toRaw, induction]
      rfl

theorem wireOfValue_toRaw (test : Test Cell) :
    wireOfValue test.toRaw = .ok test.wire := by
  cases test with
  | compare comparison value =>
      show wireOfValue value.toRaw = .ok value.wire
      cases value with
      | instant value =>
          exact wire_toRaw (.instant value)
      | _ =>
          rfl
  | between low high =>
      exact congrArg (Except.map Raw.list) (mapM_wire_toRaw [low, high])
  | among values =>
      exact congrArg (Except.map Raw.list) (mapM_wire_toRaw values)
  | _ =>
      rfl

theorem isTyped_toRaw (node : Node Cell) : isTyped node.toRaw = true := by
  cases node <;> rfl

mutual

/-- A filter as a typed value stands for its nested mappings. -/
theorem recordOf_toRaw (node : Node Cell) :
    recordOf node.toRaw = .ok node.record := by
  cases node with
  | leaf feature test =>
      rw [Node.toRaw, recordOf, wireOfValue_toRaw]
      rfl
  | group connective children =>
      rw [Node.toRaw, recordOf, recordsOf_toRaws]
      rfl

theorem recordsOf_toRaws (nodes : List (Node Cell)) :
    recordsOf (Node.toRaws nodes) = .ok (Node.records nodes) := by
  cases nodes with
  | nil =>
      rfl
  | cons node rest =>
      rw [Node.toRaws, recordsOf, if_pos (isTyped_toRaw node), recordOf_toRaw, recordsOf_toRaws]
      rfl

end

theorem recordOf_record (node : Node Cell) :
    recordOf node.record = .ok node.record := by
  cases node with
  | leaf feature test =>
      rfl
  | group connective children =>
      rfl

/-! ## The fixed point -/

theorem accept_record
    {schema : Schema} {depth : Int} {node : Node Cell}
    (wellFormed : WellFormed schema depth node) :
    accept schema node.record depth = .ok (some node) :=
  acceptWithin_record wellFormed

theorem accept_toRaw
    {schema : Schema} {depth : Int} {node : Node Cell}
    (wellFormed : WellFormed schema depth node) :
    accept schema node.toRaw depth = .ok (some node) := by
  rw [← accept_record wellFormed]
  apply acceptWithin_of_recordOf
  rw [recordOf_toRaw, recordOf_record]

theorem accept_null (schema : Schema) (depth : Int) :
    accept schema .null depth = .ok none := by
  rw [accept, acceptWithin]
  rfl

/-- A well-formed filter is admitted as it is in both of its forms.  So what is left of any value
is admitted again as it is, where nothing that is left stands as null. -/
theorem accept_fixes_wellFormed (schema : Schema) (depth : Int) :
    (∀ node, WellFormed schema depth node →
      accept schema node.toRaw depth = .ok (some node) ∧
        accept schema node.record depth = .ok (some node)) ∧
    ∀ value tree, accept schema value depth = .ok tree →
      accept schema (tree.elim .null Node.toRaw) depth = .ok tree ∧
        accept schema (tree.elim .null Node.record) depth = .ok tree := by
  constructor
  · intro node wellFormed
    exact ⟨accept_toRaw wellFormed, accept_record wellFormed⟩
  · intro value tree accepted
    cases tree with
    | none =>
        exact ⟨accept_null schema depth, accept_null schema depth⟩
    | some node =>
        have wellFormed := wellFormed_of_acceptWithin rfl accepted
        exact ⟨accept_toRaw wellFormed, accept_record wellFormed⟩

/-- The schema of dated things, with a date and a kind. -/
def datedThings : Schema where
  features := [⟨0, "since", .date⟩, ⟨1, "kind", .nominal⟩]
  inOrder := by
    rw [Schema.inOrder_cons, Schema.inOrder_cons]
    simp [Schema.InOrder]
  distinct := by
    decide

/-- Things that are there since 1970, or that are of one of two kinds. -/
def datedFilter : Node Cell :=
  .group .any
    [.leaf 0 (.compare .atLeast (.instant .epoch)), .leaf 1 (.among [.text "old", .text "new"])]

theorem accept_fixes_datedFilter :
    WellFormed datedThings 10 datedFilter ∧
      accept datedThings datedFilter.toRaw 10 = .ok (some datedFilter) ∧
      accept datedThings ((some datedFilter).elim .null Node.record) 10 =
        .ok (some datedFilter) := by
  have date : WellFormed datedThings 11 (.leaf 0 (.compare .atLeast (.instant .epoch))) :=
    .leaf rfl ⟨rfl, rfl⟩
  have kind : WellFormed datedThings 11 (.leaf 1 (.among [.text "old", .text "new"])) :=
    .leaf rfl ⟨rfl, by decide, by decide, by decide⟩
  have wellFormed : WellFormed datedThings 10 datedFilter := by
    apply WellFormed.group (.inr rfl) (by decide) (by simp)
    rw [List.forall_mem_cons, List.forall_mem_singleton]
    exact ⟨date, kind⟩
  have typed := ((accept_fixes_wellFormed datedThings 10).1 datedFilter wellFormed).1
  exact ⟨wellFormed, typed, ((accept_fixes_wellFormed datedThings 10).2 _ _ typed).2⟩

end Filter

end TableSource
