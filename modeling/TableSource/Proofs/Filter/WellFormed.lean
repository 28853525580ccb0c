import TableSource.Filter.Admission
import TableSource.Proofs.Schema.Lookups
import TableSource.Proofs.Succeeds

/-!
# Well-formed filters

An admitted filter can be compiled without any further check: its groups are joined by "and" or
"or", have children, and are not nested too deeply; each leaf tests an existing feature by an
operator of the feature's type, with values in the canonical form of that type.

Admission reads a value in five steps, a cell, several cells, a test, a leaf and a tree.  There is
one statement for each of them about everything that it lets through.
-/

namespace TableSource

namespace Filter

/-! ## The predicate -/

/-- A test that features of a type can be subjected to, with canonical values. -/
def Test.Fits (type : FeatureType) : Test Cell → Prop
  | .compare comparison value =>
    type.allows (.compare comparison) ∧ value.hasType type
  | .between low high =>
    type.allows .between ∧ low.hasType type ∧ high.hasType type
  | .among values =>
    type.allows .among ∧ 1 ≤ values.length ∧ values.length ≤ maxListed ∧
      ∀ value ∈ values, value.hasType type
  | .contains part => type.allows .contains ∧ part ≠ ""
  | .startsWith start => type.allows .startsWith ∧ start ≠ ""
  | .unknown _ => False

/-- A filter that is well formed where it stands at a depth. -/
inductive WellFormed (schema : Schema) : Int → Node Cell → Prop where
  | leaf {depth index : Int} {feature : Feature} {test : Test Cell}
      (found : schema.get? index = some feature)
      (fits : test.Fits feature.type) :
      WellFormed schema depth (.leaf index test)
  | group {depth : Int} {connective : Connective} {children : List (Node Cell)}
      (known : connective = .all ∨ connective = .any)
      (within : depth ≤ maxDepth)
      (nonempty : children ≠ [])
      (below : ∀ child ∈ children, WellFormed schema (depth + 1) child) :
      WellFormed schema depth (.group connective children)

end Filter

/-! ## Cells -/

theorem Cell.hasType_of_read?
    {type : FeatureType} {value : Raw} {cell : Cell}
    (read : Cell.read? type value = .ok (some cell)) :
    cell.hasType type = true := by
  cases type with
  | numeric =>
      rcases Option.map_eq_some_iff.mp (Except.ok.inj read) with ⟨number, -, rfl⟩
      rfl
  | logic =>
      rcases Option.map_eq_some_iff.mp (Except.ok.inj read) with ⟨truth, -, rfl⟩
      rfl
  | date =>
      rcases Option.map_eq_some_iff.mp (Except.ok.inj read) with ⟨instant, -, rfl⟩
      rfl
  | nominal =>
      rcases map_eq_ok_iff.mp read with ⟨text, -, same⟩
      rcases Option.map_eq_some_iff.mp same with ⟨written, -, rfl⟩
      rfl
  | text =>
      rcases map_eq_ok_iff.mp read with ⟨text, -, same⟩
      rcases Option.map_eq_some_iff.mp same with ⟨written, -, rfl⟩
      rfl

namespace Filter

theorem refuse_ne_some
    {β : Type} {value : Raw} {result : β} :
    refuse value ≠ .ok (some result) := by
  simp [refuse]

theorem hasType_of_readScalar
    {type : FeatureType} {value : Raw} {cell : Cell}
    (read : readScalar type value = .ok (some cell)) :
    cell.hasType type = true := by
  rw [readScalar] at read
  split at read
  · cases read
  · rcases exists_some_of_bind read refuse_ne_some with ⟨other, readCell, same⟩
    cases pure_eq_ok_iff.mp same
    exact Cell.hasType_of_read? readCell

/-- Either all values are read, each to a cell of the type, or none is. -/
theorem hasType_of_readScalars
    {type : FeatureType} {values : List Raw} {cells : List Cell}
    (read : readScalars type values = .ok (some cells)) :
    cells.length = values.length ∧ ∀ cell ∈ cells, cell.hasType type = true := by
  induction values generalizing cells with
  | nil =>
      cases read
      exact ⟨rfl, by simp⟩
  | cons value rest induction =>
      rw [readScalars] at read
      rcases exists_some_of_bind read pure_none_ne_some with ⟨cell, readFirst, same⟩
      rcases exists_some_of_bind same pure_none_ne_some with ⟨others, readOthers, same⟩
      cases pure_eq_ok_iff.mp same
      rcases induction readOthers with ⟨length, typed⟩
      refine ⟨by simp [length], ?_⟩
      rw [List.forall_mem_cons]
      exact ⟨hasType_of_readScalar readFirst, typed⟩

theorem nonempty_of_readPart
    {value : Raw} {part : String}
    (read : readPart value = .ok (some part)) :
    part ≠ "" := by
  rw [readPart] at read
  split at read
  · cases read
  · rcases exists_some_of_bind read pure_none_ne_some with ⟨text, -, same⟩
    have chosen := pure_eq_ok_iff.mp same
    split at chosen
    · cases chosen
    · next filled =>
        cases chosen
        simpa using filled

/-! ## Leaves -/

/-- A value that is read for an operator of the type gives a test that fits the type. -/
theorem fits_of_readTest
    {type : FeatureType} {operator : Operator} {value : Raw} {test : Test Cell}
    (allowed : type.allows operator = true)
    (read : readTest type operator value = .ok (some test)) :
    test.Fits type := by
  cases operator with
  | compare comparison =>
      rcases exists_some_of_bind read pure_none_ne_some with ⟨cell, readCell, same⟩
      cases pure_eq_ok_iff.mp same
      exact ⟨allowed, hasType_of_readScalar readCell⟩
  | between =>
      simp only [readTest] at read
      split at read
      · rcases exists_some_of_bind read pure_none_ne_some with ⟨low, readLow, same⟩
        rcases exists_some_of_bind same pure_none_ne_some with ⟨high, readHigh, same⟩
        cases pure_eq_ok_iff.mp same
        exact ⟨allowed, hasType_of_readScalar readLow, hasType_of_readScalar readHigh⟩
      · cases read
  | among =>
      simp only [readTest] at read
      split at read
      · next items _ =>
          split at read
          · cases read
          · next sized =>
              rcases exists_some_of_bind read pure_none_ne_some with ⟨cells, readCells, same⟩
              cases pure_eq_ok_iff.mp same
              rcases hasType_of_readScalars readCells with ⟨length, typed⟩
              simp only [Bool.or_eq_true, List.isEmpty_iff, decide_eq_true_eq, not_or,
                Nat.not_lt] at sized
              have filled := List.length_pos_iff.mpr sized.1
              exact ⟨allowed, by omega, by omega, typed⟩
      · cases read
  | contains =>
      rcases bind_eq_ok_iff.mp read with ⟨found, readPart, same⟩
      rcases Option.map_eq_some_iff.mp (pure_eq_ok_iff.mp same) with ⟨part, rfl, rfl⟩
      exact ⟨allowed, nonempty_of_readPart readPart⟩
  | startsWith =>
      rcases bind_eq_ok_iff.mp read with ⟨found, readPart, same⟩
      rcases Option.map_eq_some_iff.mp (pure_eq_ok_iff.mp same) with ⟨start, rfl, rfl⟩
      exact ⟨allowed, nonempty_of_readPart readPart⟩

theorem allows_of_operatorFor?
    {type : FeatureType} {value : Raw} {operator : Operator}
    (named : operatorFor? type value = some operator) :
    type.allows operator = true := by
  cases value with
  | text name =>
      exact (Option.filter_eq_some_iff.mp named).2
  | _ =>
      cases named

/-- A leaf that is admitted names a feature and an operator of its type, and its value is read. -/
theorem exists_of_acceptLeaf
    {schema : Schema} {entries : List (Raw × Raw)} {node : Node Cell}
    (accepted : acceptLeaf schema entries = .ok (some node)) :
    ∃ feature operator test,
      schema.lookup? (Raw.valueUnder entries "feature") = some feature ∧
      operatorFor? feature.type (Raw.valueUnder entries "op") = some operator ∧
      readTest feature.type operator (Raw.valueUnder entries "value") = .ok (some test) ∧
      node = .leaf feature.index test := by
  rw [acceptLeaf] at accepted
  split at accepted
  · exact absurd accepted refuse_ne_some
  · next feature found =>
      split at accepted
      · exact absurd accepted refuse_ne_some
      · next operator named =>
          rcases exists_some_of_bind accepted pure_none_ne_some with ⟨test, read, same⟩
          cases pure_eq_ok_iff.mp same
          exact ⟨feature, operator, test, found, named, read, rfl⟩

theorem wellFormed_of_acceptLeaf
    {schema : Schema} {entries : List (Raw × Raw)} {node : Node Cell} (depth : Int)
    (accepted : acceptLeaf schema entries = .ok (some node)) :
    WellFormed schema depth node := by
  rcases exists_of_acceptLeaf accepted with ⟨feature, operator, test, found, named, read, rfl⟩
  apply WellFormed.leaf (Schema.get?_of_lookup? found)
  exact fits_of_readTest (allows_of_operatorFor? named) read

/-! ## Trees -/

theorem mem_of_collect
    {accept : Raw → Except TextFailure (Option (Node Cell))}
    {values : List Raw} {nodes : List (Node Cell)}
    (collected : collect accept values = .ok nodes) :
    ∀ node ∈ nodes, ∃ value ∈ values, accept value = .ok (some node) := by
  induction values generalizing nodes with
  | nil =>
      cases collected
      simp
  | cons value rest induction =>
      rw [collect] at collected
      rcases bind_eq_ok_iff.mp collected with ⟨first, acceptedFirst, same⟩
      cases first with
      | none =>
          intro node member
          rcases induction same node member with ⟨other, inside, accepted⟩
          exact ⟨other, List.mem_cons_of_mem _ inside, accepted⟩
      | some kept =>
          rcases bind_eq_ok_iff.mp same with ⟨others, collectedOthers, same⟩
          cases pure_eq_ok_iff.mp same
          intro node member
          rcases List.mem_cons.mp member with rfl | member
          · exact ⟨value, List.mem_cons_self, acceptedFirst⟩
          · rcases induction collectedOthers node member with ⟨other, inside, accepted⟩
            exact ⟨other, List.mem_cons_of_mem _ inside, accepted⟩

theorem connective_of_connectiveOf?
    {value : Raw} {connective : Connective}
    (named : connectiveOf? value = some connective) :
    connective = .all ∨ connective = .any := by
  cases value with
  | text word =>
      simp only [connectiveOf?, Connective.named?] at named
      split at named
      · exact .inl (Option.some.inj named).symm
      · split at named
        · exact .inr (Option.some.inj named).symm
        · cases named
  | _ =>
      cases named

theorem wellFormed_of_groupOf
    {schema : Schema} {depth : Int} {connective : Connective}
    {children : List (Node Cell)} {node : Node Cell}
    (known : connective = .all ∨ connective = .any)
    (within : depth ≤ maxDepth)
    (below : ∀ child ∈ children, WellFormed schema (depth + 1) child)
    (grouped : groupOf connective children = some node) :
    WellFormed schema depth node := by
  rw [groupOf] at grouped
  split at grouped
  · cases grouped
  · next filled =>
      cases grouped
      exact .group known within (by simpa using filled) below

/-- What is left where as many levels of groups may stand as at a depth is well formed there. -/
theorem wellFormed_of_acceptWithin
    {schema : Schema} {levels : Nat} {value : Raw} {node : Node Cell} {depth : Int}
    (enough : levels = levelsAt depth)
    (accepted : acceptWithin schema levels value = .ok (some node)) :
    WellFormed schema depth node := by
  induction levels generalizing value node depth with
  | zero =>
      rw [acceptWithin] at accepted
      rcases bind_eq_ok_iff.mp accepted with ⟨record, -, same⟩
      split at same
      · split at same
        · exact wellFormed_of_acceptLeaf depth same
        · cases pure_eq_ok_iff.mp same
      · cases pure_eq_ok_iff.mp same
  | succ below induction =>
      rw [acceptWithin] at accepted
      rcases bind_eq_ok_iff.mp accepted with ⟨record, -, same⟩
      split at same
      · split at same
        · exact wellFormed_of_acceptLeaf depth same
        · next connective named =>
            simp only at same
            split at same
            · cases pure_eq_ok_iff.mp same
            · rcases bind_eq_ok_iff.mp same with ⟨nodes, collected, same⟩
              -- one level less is left for the children, which stand one deeper
              have fewer : below = levelsAt (depth + 1) ∧ depth ≤ maxDepth := by
                simp only [levelsAt] at enough ⊢
                omega
              apply wellFormed_of_groupOf (connective_of_connectiveOf? named) fewer.2 _
                (pure_eq_ok_iff.mp same)
              intro child member
              rcases mem_of_collect collected child member with ⟨value, -, acceptedChild⟩
              exact induction fewer.1 acceptedChild
      · cases pure_eq_ok_iff.mp same

/-- Whatever is left of an untrusted value is well formed at the depth where the value stands. -/
theorem accept_wellFormed
    {schema : Schema} {value : Raw} {depth : Int} {node : Node Cell}
    (accepted : accept schema value depth = .ok (some node)) :
    WellFormed schema depth node :=
  wellFormed_of_acceptWithin rfl accepted

/-- The schema of measured things, with a size and a kind. -/
def measuredThings : Schema where
  features := [⟨0, "size", .numeric⟩, ⟨1, "kind", .nominal⟩]
  inOrder := by
    rw [Schema.inOrder_cons, Schema.inOrder_cons]
    simp [Schema.InOrder]
  distinct := by
    decide

/-- A group with a typed leaf, a leaf with a list, and a leaf that has no such operator. -/
def mixedFilter : Raw :=
  Raw.record
    [("op", .text "Or"),
      ("children", .tuple
        [.leaf (.int 0) (.text "gte") (.text " 2.50 "),
          Raw.record [("feature", .int 1), ("op", .text "in"), ("value", .list [.int 7])],
          Raw.record [("feature", .int 1), ("op", .text "gt"), ("value", .text "a")]])]

theorem accept_wellFormed_mixedFilter :
    ∃ node, accept measuredThings mixedFilter 10 = .ok (some node) ∧
      WellFormed measuredThings 10 node := by
  have kept : (accept measuredThings mixedFilter 10).toOption.join.isSome = true := by
    decide +kernel
  cases accepted : accept measuredThings mixedFilter 10 with
  | error failure =>
      rw [accepted] at kept
      cases kept
  | ok left =>
      cases left with
      | none =>
          rw [accepted] at kept
          cases kept
      | some node =>
          exact ⟨node, rfl, accept_wellFormed accepted⟩

end Filter

end TableSource
