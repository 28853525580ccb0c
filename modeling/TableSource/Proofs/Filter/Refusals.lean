import TableSource.Proofs.Cell.Totality
import TableSource.Proofs.Filter.FixedPoint
import TableSource.Proofs.Time.LocalZones

/-!
# What keeps an untrusted value from being sanitized

Whatever is not valid in a value is dropped, with three exceptions.  The report of a dropped leaf
shows what is wrong in it, and an overlong integer cannot be shown.  A typed node is taken for the
mapping that it stands for before anything in it is examined: a clock reading without an instant
that can be sent has no place in a mapping, and neither has a child of a typed group that is not
typed itself.  Nothing else makes admission fail.
-/

namespace TableSource

/-! ## Values that are sent -/

namespace Raw

/-- A value is sent as a text or as it is. -/
theorem wire_cases
    {value sent : Raw}
    (made : value.wire = .ok sent) :
    sent = value ∨ ∃ words, sent = .text words := by
  cases value with
  | reading reading =>
      rw [wire, wireOfReading] at made
      rcases bind_eq_ok_iff.mp made with ⟨offset, -, shifted⟩
      split at shifted
      · cases shifted
        exact .inr ⟨_, rfl⟩
      · cases shifted
  | _ =>
      cases made
      exact .inl rfl

theorem reading_of_wire_error
    {value : Raw} {failure : TextFailure}
    (failed : value.wire = .error failure) :
    ∃ reading, value = .reading reading ∧ reading.Unsendable failure := by
  cases value with
  | reading reading =>
      exact ⟨reading, rfl, Reading.unsendable_of_wireOfReading failed⟩
  | _ =>
      cases failed

/-- What is under a name in a mapping is a component of it, or null. -/
theorem valueUnder_cases (entries : List (Raw × Raw)) (name : String) :
    valueUnder entries name ∈ (mapping entries).components ∨ valueUnder entries name = .null := by
  rw [valueUnder]
  split
  · next entry found =>
      exact .inl (List.mem_flatMap.mpr ⟨entry, List.mem_of_find?_eq_some found, by simp⟩)
  · exact .inr rfl

theorem mem_components_of_items?
    {value item : Raw} {items : List Raw}
    (listed : value.items? = some items) (member : item ∈ items) :
    item ∈ value.components := by
  cases value with
  | list _ | tuple _ =>
      cases listed
      exact member
  | _ =>
      cases listed

end Raw

namespace Filter

/-! ## Leaves -/

section Leaves

variable {depth : Nat} {value : Raw} {failure : TextFailure}

/-- The report of a dropped leaf fails on an overlong integer in what it shows, and on nothing
else. -/
theorem refuse_eq_error_iff
    {β : Type}
    (nests : value.nestsWithin depth = true) (few : depth < Raw.maxNesting) :
    (refuse value : Except TextFailure (Option β)) = .error failure ↔
      failure = .overlongInteger ∧ value.HoldsOverlong := by
  rw [refuse, map_eq_error_iff,
    Raw.literal_eq_error_iff (Raw.nestsWithin_mono nests (Nat.le_of_lt few))]

theorem overlong_of_readScalar
    {type : FeatureType}
    (nests : value.nestsWithin depth = true) (few : depth < Raw.maxNesting)
    (failed : readScalar type value = .error failure) :
    failure = .overlongInteger ∧ value.HoldsOverlong := by
  rw [readScalar] at failed
  split at failed
  · cases failed
  · rcases bind_eq_error_iff.mp failed with failedRead | ⟨read, -, failedRest⟩
    · rcases (Cell.read?_eq_error_iff nests few).mp failedRead with ⟨-, same, -, held⟩
      exact ⟨same, held⟩
    · cases read with
      | some cell =>
          cases failedRest
      | none =>
          exact (refuse_eq_error_iff nests few).mp failedRest

theorem overlong_of_readScalar_inside
    {type : FeatureType} {item : Raw}
    (nests : value.nestsWithin depth = true) (few : depth < Raw.maxNesting)
    (member : item ∈ value.components)
    (failed : readScalar type item = .error failure) :
    failure = .overlongInteger ∧ value.HoldsOverlong := by
  rcases overlong_of_readScalar (Raw.nestsWithin_of_component nests member) few failed with
    ⟨same, held⟩
  exact ⟨same, held.of_component member⟩

theorem overlong_of_readScalars
    {type : FeatureType} {values : List Raw}
    (nests : ∀ value ∈ values, value.nestsWithin depth = true) (few : depth < Raw.maxNesting)
    (failed : readScalars type values = .error failure) :
    failure = .overlongInteger ∧ ∃ value ∈ values, value.HoldsOverlong := by
  induction values with
  | nil =>
      cases failed
  | cons value rest induction =>
      rw [List.forall_mem_cons] at nests
      rw [readScalars] at failed
      rcases bind_eq_error_iff.mp failed with failedFirst | ⟨first, -, failedRest⟩
      · rcases overlong_of_readScalar nests.1 few failedFirst with ⟨same, held⟩
        exact ⟨same, value, List.mem_cons_self, held⟩
      · cases first with
        | none =>
            cases failedRest
        | some cell =>
            have failedOthers := error_of_bind_ok failedRest fun others => by
              cases others <;> exact ⟨_, rfl⟩
            rcases induction nests.2 failedOthers with ⟨same, other, member, held⟩
            exact ⟨same, other, List.mem_cons_of_mem _ member, held⟩

theorem overlong_of_readPart
    (nests : value.nestsWithin depth = true) (few : depth < Raw.maxNesting)
    (failed : readPart value = .error failure) :
    failure = .overlongInteger ∧ value.HoldsOverlong := by
  rw [readPart] at failed
  split at failed
  · cases failed
  · have failedText := error_of_bind_ok failed fun read => by
      cases read <;> exact ⟨_, rfl⟩
    rcases (Cell.text?_eq_error_iff nests few).mp failedText with ⟨same, -, held⟩
    exact ⟨same, held⟩

/-- Reading the value of a leaf fails on an overlong integer in the value, and on nothing else. -/
theorem overlong_of_readTest
    {type : FeatureType} {operator : Operator}
    (nests : value.nestsWithin depth = true) (few : depth < Raw.maxNesting)
    (failed : readTest type operator value = .error failure) :
    failure = .overlongInteger ∧ value.HoldsOverlong := by
  cases operator with
  | compare comparison =>
      have failedScalar := error_of_bind_ok failed fun read => by
        cases read <;> exact ⟨_, rfl⟩
      exact overlong_of_readScalar nests few failedScalar
  | between =>
      simp only [readTest] at failed
      split at failed
      · next low high listed =>
          have lowInside : low ∈ value.components :=
            Raw.mem_components_of_items? listed (by simp)
          have highInside : high ∈ value.components :=
            Raw.mem_components_of_items? listed (by simp)
          rcases bind_eq_error_iff.mp failed with failedLow | ⟨lowCell, -, failedRest⟩
          · exact overlong_of_readScalar_inside nests few lowInside failedLow
          · cases lowCell with
            | none =>
                cases failedRest
            | some _ =>
                have failedHigh := error_of_bind_ok failedRest fun read => by
                  cases read <;> exact ⟨_, rfl⟩
                exact overlong_of_readScalar_inside nests few highInside failedHigh
      · cases failed
  | among =>
      simp only [readTest] at failed
      split at failed
      · next items listed =>
          split at failed
          · cases failed
          · have failedScalars := error_of_bind_ok failed fun read => by
              cases read <;> exact ⟨_, rfl⟩
            have each : ∀ item ∈ items, item.nestsWithin depth = true := by
              intro item member
              exact Raw.nestsWithin_of_component nests (Raw.mem_components_of_items? listed member)
            rcases overlong_of_readScalars each few failedScalars with ⟨same, item, member, held⟩
            exact ⟨same, held.of_component (Raw.mem_components_of_items? listed member)⟩
      · cases failed
  | contains | startsWith =>
      exact overlong_of_readPart nests few (error_of_bind_ok failed fun read => ⟨_, rfl⟩)

variable {schema : Schema} {entries : List (Raw × Raw)}

/-- A leaf is examined under three names, and admission fails on an overlong integer under one of
them. -/
theorem overlong_of_acceptLeaf
    (nests : (Raw.mapping entries).nestsWithin depth = true) (few : depth < Raw.maxNesting)
    (failed : acceptLeaf schema entries = .error failure) :
    failure = .overlongInteger ∧
      ∃ name ∈ ["feature", "op", "value"], (Raw.valueUnder entries name).HoldsOverlong := by
  have shallow (name : String) : (Raw.valueUnder entries name).nestsWithin depth = true := by
    rcases Raw.valueUnder_cases entries name with inside | absent
    · exact Raw.nestsWithin_of_component nests inside
    · rw [absent]
      exact Raw.nestsWithin_of_not_isCompound depth rfl
  rw [acceptLeaf] at failed
  split at failed
  · rcases (refuse_eq_error_iff (shallow "feature") few).mp failed with ⟨same, held⟩
    exact ⟨same, "feature", by simp, held⟩
  · split at failed
    · rcases (refuse_eq_error_iff (shallow "op") few).mp failed with ⟨same, held⟩
      exact ⟨same, "op", by simp, held⟩
    · have failedTest := error_of_bind_ok failed fun read => by
        cases read <;> exact ⟨_, rfl⟩
      rcases overlong_of_readTest (shallow "value") few failedTest with ⟨same, held⟩
      exact ⟨same, "value", by simp, held⟩

end Leaves

/-! ## Faults -/

/-- What is examined in a leaf: its feature, its operator and its value. -/
def examined : Raw → List Raw
  | .mapping entries =>
    match connectiveOf? (Raw.valueUnder entries "op") with
    | none => ["feature", "op", "value"].map (Raw.valueUnder entries)
    | some _ => []
  | .leaf feature operator value => [feature, operator, value]
  | _ => []

/-- The clock readings in the value of a typed leaf, which are sent. -/
def readingsIn : Raw → List Reading
  | .reading reading => [reading]
  | .tuple items => items.filterMap fun item => match item with
    | .reading reading => some reading
    | _ => none
  | _ => []

/-- What keeps an untrusted value from being sanitized, with the failure that it causes. -/
inductive Fault (value : Raw) : TextFailure → Prop where
  /-- An overlong integer in what is examined in a leaf. -/
  | overlong {leaf asked : Raw}
      (inside : Raw.Part leaf value) (under : asked ∈ examined leaf) (held : asked.HoldsOverlong) :
      Fault value .overlongInteger
  /-- A clock reading without an instant that can be sent, in a typed leaf. -/
  | unsendable {feature operator asked : Raw} {reading : Reading} {failure : TextFailure}
      (inside : Raw.Part (.leaf feature operator asked) value) (under : reading ∈ readingsIn asked)
      (unsent : reading.Unsendable failure) :
      Fault value failure
  /-- A child of a typed group that is no typed node. -/
  | untyped {operator : String} {children : List Raw} {child : Raw}
      (inside : Raw.Part (.group operator children) value) (member : child ∈ children)
      (raw : isTyped child = false) :
      Fault value (.notNode child.kind)

variable {schema : Schema} {depth : Nat} {value : Raw} {failure : TextFailure}

theorem Fault.of_part
    {part whole : Raw}
    (fault : Fault part failure) (inside : Raw.Part part whole) :
    Fault whole failure := by
  cases fault with
  | overlong deeper under held =>
      exact .overlong (deeper.trans inside) under held
  | unsendable deeper under unsent =>
      exact .unsendable (deeper.trans inside) under unsent
  | untyped deeper member raw =>
      exact .untyped (deeper.trans inside) member raw

/-! ## The mappings that typed values stand for -/

theorem unsendable_of_wireOfValue
    {asked : Raw}
    (failed : wireOfValue asked = .error failure) :
    ∃ reading ∈ readingsIn asked, reading.Unsendable failure := by
  cases asked with
  | tuple items =>
      rw [wireOfValue, map_eq_error_iff] at failed
      rcases exists_error_of_mapM failed with ⟨item, member, failedItem⟩
      rcases Raw.reading_of_wire_error failedItem with ⟨reading, rfl, unsent⟩
      exact ⟨reading, List.mem_filterMap.mpr ⟨_, member, rfl⟩, unsent⟩
  | reading reading =>
      exact ⟨reading, List.mem_singleton_self reading, Reading.unsendable_of_wireOfReading failed⟩
  | _ =>
      cases failed

mutual

theorem fault_of_recordOf
    (value : Raw) (failed : recordOf value = .error failure) :
    Fault value failure := by
  cases value with
  | leaf feature operator asked =>
      rw [recordOf, map_eq_error_iff] at failed
      rcases unsendable_of_wireOfValue failed with ⟨reading, under, unsent⟩
      exact .unsendable .itself under unsent
  | group operator children =>
      rw [recordOf, map_eq_error_iff] at failed
      rcases fault_of_recordsOf children failed with ⟨child, member, ⟨raw, rfl⟩ | fault⟩
      · exact .untyped .itself member raw
      · have inChildren : Raw.Part child (.tuple children) := .within member .itself
        exact fault.of_part (.within (List.mem_singleton_self _) inChildren)
  | _ =>
      cases failed

theorem fault_of_recordsOf
    (values : List Raw) (failed : recordsOf values = .error failure) :
    ∃ value ∈ values,
      (isTyped value = false ∧ failure = .notNode value.kind) ∨ Fault value failure := by
  cases values with
  | nil =>
      cases failed
  | cons value rest =>
      rw [recordsOf] at failed
      split at failed
      · split at failed
        · next failedFirst =>
            cases failed
            exact ⟨value, List.mem_cons_self, .inr (fault_of_recordOf value failedFirst)⟩
        · rcases fault_of_recordsOf rest (map_eq_error_iff.mp failed) with ⟨other, member, fault⟩
          exact ⟨other, List.mem_cons_of_mem _ member, fault⟩
      · next raw =>
          cases failed
          exact ⟨value, List.mem_cons_self, .inl ⟨Bool.eq_false_iff.mpr raw, rfl⟩⟩

end

/-- Children have mappings exactly when the first one is typed and has one, and the others have. -/
theorem recordsOf_cons_eq_ok_iff
    {rest records : List Raw} :
    recordsOf (value :: rest) = .ok records ↔
      ∃ first others, isTyped value = true ∧ recordOf value = .ok first ∧
        recordsOf rest = .ok others ∧ first :: others = records := by
  rw [recordsOf]
  by_cases typed : isTyped value = true
  · cases recordOf value <;> simp [typed]
  · simp [typed]

/-- A mapping that a value stands for stands for itself. -/
theorem recordOf_of_recordOf
    {record : Raw}
    (made : recordOf value = .ok record) :
    recordOf record = .ok record := by
  cases value with
  | leaf feature operator asked =>
      rw [recordOf] at made
      rcases map_eq_ok_iff.mp made with ⟨sent, -, rfl⟩
      rfl
  | group operator children =>
      rw [recordOf] at made
      rcases map_eq_ok_iff.mp made with ⟨records, -, rfl⟩
      rfl
  | _ =>
      cases made
      rfl

theorem exists_recordOf_of_mem
    {values records : List Raw} {record : Raw}
    (made : recordsOf values = .ok records) (member : record ∈ records) :
    ∃ value ∈ values, recordOf value = .ok record := by
  induction values generalizing records with
  | nil =>
      cases made
      cases member
  | cons value rest induction =>
      rcases recordsOf_cons_eq_ok_iff.mp made with ⟨first, others, -, madeFirst, madeOthers, rfl⟩
      rcases List.mem_cons.mp member with rfl | later
      · exact ⟨value, List.mem_cons_self, madeFirst⟩
      · rcases induction madeOthers later with ⟨other, present, madeOther⟩
        exact ⟨other, List.mem_cons_of_mem _ present, madeOther⟩

/-- What is sent for the value of a typed leaf is the value, or a text, or a list of texts and of
items of the value. -/
theorem wireOfValue_cases
    {asked sent : Raw}
    (made : wireOfValue asked = .ok sent) :
    sent = asked ∨ (∃ words, sent = .text words) ∨
      ∃ items others, asked = .tuple items ∧ sent = .list others ∧
        ∀ other ∈ others, other ∈ items ∨ ∃ words, other = .text words := by
  cases asked with
  | tuple items =>
      rcases map_eq_ok_iff.mp made with ⟨others, each, rfl⟩
      refine .inr (.inr ⟨items, others, rfl, rfl, fun other member => ?_⟩)
      rcases exists_of_mem_results each member with ⟨item, present, sentItem⟩
      rcases Raw.wire_cases sentItem with rfl | written
      · exact .inl present
      · exact .inr written
  | reading reading =>
      have wired : Raw.wire (.reading reading) = .ok sent := made
      exact (Raw.wire_cases wired).imp_right .inl
  | _ =>
      cases made
      exact .inl rfl

theorem nestsWithin_of_wireOfValue
    {asked sent : Raw}
    (made : wireOfValue asked = .ok sent) (nests : asked.nestsWithin depth = true) :
    sent.nestsWithin depth = true := by
  rcases wireOfValue_cases made with rfl | ⟨words, rfl⟩ | ⟨items, others, rfl, rfl, each⟩
  · exact nests
  · exact Raw.nestsWithin_of_not_isCompound depth rfl
  · cases depth with
    | zero =>
        cases nests
    | succ depth =>
        apply List.all_eq_true.mpr
        intro other member
        rcases each other member with present | ⟨words, rfl⟩
        · exact Raw.nestsWithin_component nests present
        · exact Raw.nestsWithin_of_not_isCompound depth rfl

theorem overlong_of_wireOfValue
    {asked sent : Raw}
    (made : wireOfValue asked = .ok sent) (held : sent.HoldsOverlong) :
    asked.HoldsOverlong := by
  rcases wireOfValue_cases made with rfl | ⟨words, rfl⟩ | ⟨items, others, rfl, rfl, each⟩
  · exact held
  · exact absurd held (Raw.not_holdsOverlong_text words)
  · rcases held with ⟨n, inside, long⟩
    cases inside with
    | within member deeper =>
        have holds : Raw.HoldsOverlong _ := ⟨n, deeper, long⟩
        rcases each _ member with present | ⟨words, rfl⟩
        · exact holds.of_component present
        · exact absurd holds (Raw.not_holdsOverlong_text words)

/-- The mapping that a typed leaf stands for is nested no deeper than the leaf. -/
theorem nestsWithin_leafRecord
    {feature operator asked sent : Raw}
    (made : wireOfValue asked = .ok sent)
    (nests : (Raw.leaf feature operator asked).nestsWithin depth = true) :
    (leafRecord feature operator sent).nestsWithin depth = true := by
  cases depth with
  | zero =>
      cases nests
  | succ depth =>
      have word (name : String) : (Raw.text name).nestsWithin depth = true :=
        Raw.nestsWithin_of_not_isCompound depth rfl
      simp only [Raw.nestsWithin, Raw.components, List.all_cons, List.all_nil, Bool.and_true,
        Bool.and_eq_true] at nests
      rw [leafRecord_eq]
      simp only [Raw.nestsWithin, Raw.components, List.flatMap_cons, List.flatMap_nil,
        List.append_nil, List.cons_append, List.nil_append, List.all_cons, List.all_nil, word,
        nests.1, nests.2.1, nestsWithin_of_wireOfValue made nests.2.2, Bool.and_self]

/-! ## Trees -/

/-- A mapping without a connective fails only by a fault of the value that stands for it. -/
theorem fault_of_acceptLeaf
    {entries : List (Raw × Raw)}
    (nests : value.nestsWithin depth = true) (few : depth < Raw.maxNesting)
    (made : recordOf value = .ok (.mapping entries))
    (single : connectiveOf? (Raw.valueUnder entries "op") = none)
    (failed : acceptLeaf schema entries = .error failure) :
    Fault value failure := by
  cases value with
  | mapping _ =>
      cases made
      rcases overlong_of_acceptLeaf nests few failed with ⟨rfl, name, known, held⟩
      have under : Raw.valueUnder entries name ∈ examined (.mapping entries) := by
        rw [examined, single]
        exact List.mem_map_of_mem known
      exact .overlong .itself under held
  | leaf feature operator asked =>
      rw [recordOf] at made
      rcases map_eq_ok_iff.mp made with ⟨sent, wired, same⟩
      have shallow := nestsWithin_leafRecord wired nests
      rw [same] at shallow
      rcases overlong_of_acceptLeaf shallow few failed with ⟨rfl, name, known, held⟩
      rw [leafRecord_eq] at same
      cases same
      simp only [List.mem_cons, List.not_mem_nil, or_false] at known
      rcases known with rfl | rfl | rfl
      · have inFeature : feature.HoldsOverlong := held
        exact .overlong .itself (by simp [examined]) inFeature
      · have inOperator : operator.HoldsOverlong := held
        exact .overlong .itself (by simp [examined]) inOperator
      · have inValue : asked.HoldsOverlong := overlong_of_wireOfValue wired held
        exact .overlong .itself (by simp [examined]) inValue
  | group operator children =>
      -- nothing is under the name of a feature, and null is shown
      rw [recordOf] at made
      rcases map_eq_ok_iff.mp made with ⟨records, -, same⟩
      rw [groupRecord_eq] at same
      cases same
      cases failed
  | _ =>
      cases made

/-- What stands as a child in the mapping of a value is a part of the value, in the form that it is
admitted in. -/
theorem exists_part_of_child
    {entries : List (Raw × Raw)} {children : List Raw} {child : Raw}
    (made : recordOf value = .ok (.mapping entries))
    (listed : (Raw.valueUnder entries "children").items? = some children)
    (member : child ∈ children) :
    ∃ part, Raw.Part part value ∧ recordOf part = recordOf child := by
  cases value with
  | mapping _ =>
      cases made
      have inside := Raw.mem_components_of_items? listed member
      rcases Raw.valueUnder_cases entries "children" with under | absent
      · exact ⟨child, .within under (.within inside .itself), rfl⟩
      · rw [absent] at listed
        cases listed
  | leaf feature operator asked =>
      rw [recordOf] at made
      rcases map_eq_ok_iff.mp made with ⟨sent, -, same⟩
      rw [leafRecord_eq] at same
      cases same
      cases listed
  | group operator nodes =>
      rw [recordOf] at made
      rcases map_eq_ok_iff.mp made with ⟨records, each, same⟩
      rw [groupRecord_eq] at same
      cases same
      cases listed
      rcases exists_recordOf_of_mem each member with ⟨node, present, madeNode⟩
      have inNodes : Raw.Part node (.tuple nodes) := .within present .itself
      refine ⟨node, .within (List.mem_singleton_self _) inNodes, ?_⟩
      rw [madeNode, recordOf_of_recordOf madeNode]
  | _ =>
      cases made

theorem exists_error_of_collect
    {accept : Raw → Except TextFailure (Option (Node Cell))} {values : List Raw}
    (failed : collect accept values = .error failure) :
    ∃ value ∈ values, accept value = .error failure := by
  induction values with
  | nil =>
      cases failed
  | cons value rest induction =>
      rw [collect] at failed
      rcases bind_eq_error_iff.mp failed with here | ⟨first, -, later⟩
      · exact ⟨value, List.mem_cons_self, here⟩
      · have failedRest : collect accept rest = .error failure := by
          cases first with
          | none =>
              exact later
          | some node =>
              exact error_of_bind_ok later fun nodes => ⟨_, rfl⟩
        rcases induction failedRest with ⟨other, member, failedOther⟩
        exact ⟨other, List.mem_cons_of_mem _ member, failedOther⟩

/-- Admission fails as a value is turned into a mapping, as the mapping is examined as a leaf, or as
one of its children fails with one level less. -/
theorem acceptWithin_error_cases
    {levels : Nat}
    (failed : acceptWithin schema levels value = .error failure) :
    recordOf value = .error failure ∨
    ∃ entries, recordOf value = .ok (.mapping entries) ∧
      ((connectiveOf? (Raw.valueUnder entries "op") = none ∧
          acceptLeaf schema entries = .error failure) ∨
        ∃ below children, levels = below + 1 ∧
          (Raw.valueUnder entries "children").items? = some children ∧
          ∃ child ∈ children, acceptWithin schema below child = .error failure) := by
  rw [acceptWithin.eq_def] at failed
  rcases bind_eq_error_iff.mp failed with failedRecord | ⟨record, made, failedRest⟩
  · exact .inl failedRecord
  · right
    split at failedRest
    · next entries =>
        refine ⟨entries, made, ?_⟩
        split at failedRest
        · next single =>
            exact .inl ⟨single, failedRest⟩
        · right
          split at failedRest
          · cases failedRest
          · next below =>
              split at failedRest
              · cases failedRest
              · next children listed =>
                  have failedChildren := error_of_bind_ok failedRest fun nodes => ⟨_, rfl⟩
                  exact ⟨below, children, rfl, listed, exists_error_of_collect failedChildren⟩
    · cases failedRest

/-- A child has fewer levels than the value in which it stands, and a fault of it is one of the
value. -/
theorem fault_of_acceptWithin
    {levels : Nat}
    (nests : value.nestsWithin depth = true) (few : depth < Raw.maxNesting)
    (failed : acceptWithin schema levels value = .error failure) :
    Fault value failure := by
  induction levels using Nat.strong_induction_on generalizing value with
  | h levels induction =>
      rcases acceptWithin_error_cases failed with
        failedRecord | ⟨entries, made, ⟨single, failedLeaf⟩ |
          ⟨below, children, rfl, listed, child, member, failedChild⟩⟩
      · exact fault_of_recordOf value failedRecord
      · exact fault_of_acceptLeaf nests few made single failedLeaf
      · rcases exists_part_of_child made listed member with ⟨part, inside, alike⟩
        rw [← acceptWithin_of_recordOf schema below alike] at failedChild
        have fault := induction below (Nat.lt_succ_self below) (Raw.nestsWithin_of_part nests inside)
          failedChild
        exact fault.of_part inside

/-- Whatever an untrusted value holds, it is sanitized to a tree or to nothing, unless a node in it
is at fault: a leaf with an overlong integer in what is examined, a typed leaf with a clock reading
that cannot be sent, or a typed group with a child that is not typed.  A reading without an offset
can be sent unless it shows one of the days at the ends of the calendar; in the universal zone, one
day. -/
theorem accept_total_but_for_faults
    (schema : Schema) (depth : Int)
    (nests : value.nestsWithin 300 = true) :
    ((∃ tree, accept schema value depth = .ok tree) ∨
      ∃ failure, accept schema value depth = .error failure ∧ Fault value failure) ∧
    ∀ reading : Reading, reading.offset = none → ∀ failure,
      (reading.Unsendable failure →
        reading.shown.day < 3 ∨ Calendar.dayCount ≤ reading.shown.day + 3) ∧
      (reading.zone = .utc →
        (Raw.wireOfReading reading = .error failure ↔
          (reading.fold = false ∧ reading.shown.day = 0 ∧ failure = .offCalendar .before) ∨
            reading.fold = true ∧ reading.shown.day + 1 = Calendar.dayCount ∧
              failure = .offCalendar .behind)) := by
  refine ⟨?_, fun reading unknown failure => ⟨fun unsendable => unsendable.near_edge unknown,
    Reading.wireOfReading_utc_eq_error_iff unknown⟩⟩
  cases made : accept schema value depth with
  | ok tree =>
      exact .inl ⟨tree, rfl⟩
  | error failure =>
      exact .inr ⟨failure, rfl, fault_of_acceptWithin nests (by decide) made⟩

/-- The zone of a clock that is an hour ahead, and two hours from the beginning of 1970 on. -/
def summerZone : LocalZone :=
  { first := ⟨3600, by decide⟩, changes := [(62135596800, ⟨7200, by decide⟩)] }

/-- A time that the clocks of the zone are put forward over. -/
def leapt : Instant :=
  ⟨Instant.epochMicros + 5400000000, by decide⟩

/-- A group of a typed group with two dates, one of them without a moment at which a clock shows it,
and of mappings that are not valid, one of them with an overlong integer under a name that is not
examined. -/
def faultlessFilter : Raw :=
  Raw.record [("op", .text "or"), ("children", .list
    [.group "and"
      [.leaf (.int 0) (.text "between")
        (.tuple [.reading { shown := .epoch, offset := some 0 },
          .reading { shown := leapt, offset := none, fold := true, zone := summerZone }])],
      Raw.record [("feature", .bytes [107]), ("note", .int Numeral.leastOverlong)],
      Raw.record [("feature", .int 1), ("op", .text "in"),
        ("value", .list [.mapping [(.tuple [], .decimal (.nan false true 0))]])]])]

theorem accept_total_faultlessFilter :
    faultlessFilter.nestsWithin 300 = true ∧
      ∃ tree, accept datedThings faultlessFilter 9 = .ok tree := by
  have nests : faultlessFilter.nestsWithin 300 = true := by
    decide
  refine ⟨nests, ?_⟩
  rcases (accept_total_but_for_faults datedThings 9 nests).1 with made | ⟨failure, failed, -⟩
  · exact made
  · have kept : (accept datedThings faultlessFilter 9).toOption.isSome = true := by
      decide +kernel
    rw [failed] at kept
    cases kept

theorem accept_eq_error_of_recordOf
    (schema : Schema) (depth : Int)
    (failed : recordOf value = .error failure) :
    accept schema value depth = .error failure := by
  rw [accept]
  cases levelsAt depth <;> rw [acceptWithin, failed] <;> rfl

/-- A leaf that compares a feature with an overlong integer fails wherever it stands, unless the
integer is read as a cell. -/
theorem accept_eq_error_of_overlong
    {index number : Int} {feature : Feature}
    (depth : Int) (comparison : Comparison)
    (found : schema.get? index = some feature)
    (allowed : feature.type.allows (.compare comparison) = true)
    (unread : Cell.read? feature.type (.int number) = .ok none)
    (long : Numeral.isOverlong number = true) :
    accept schema (leafRecord (.int index) (.text comparison.word) (.int number)) depth =
      .error .overlongInteger := by
  have single : (Raw.int number).nestsWithin 0 = true := rfl
  have refused : readScalar feature.type (.int number) = .error .overlongInteger := by
    have shown : refuse (.int number) = (.error .overlongInteger : Except _ (Option Cell)) :=
      (refuse_eq_error_iff single (by decide)).mpr ⟨rfl, number, .itself, long⟩
    have scalar : (Raw.int number).isContainer = false := rfl
    rw [readScalar, scalar, Bool.and_false, unread]
    exact shown
  have known : schema.lookup? (.int index) = some feature := found
  have named := operatorFor?_word allowed
  rw [Operator.word] at named
  rw [accept, leafRecord_eq, acceptWithin_leaf]
  · simp only [acceptLeaf, Raw.valueUnder, List.find?, String.reduceBEq, known, named, readTest,
      refused]
    rfl
  · exact connectiveOf?_word (.compare comparison)

/-- A leaf that compares a number with an overlong integer. -/
def overlongComparison : Raw :=
  leafRecord (.int 0) (.text Comparison.equal.word) (.int Numeral.leastOverlong)

/-- A typed leaf of a missing feature, with the reading of a local clock on the first day of the
calendar. -/
def firstDayComparison : Raw :=
  .leaf (.int 2) (.text Comparison.equal.word) (.reading { shown := ⟨0, by decide⟩, offset := none })

/-- A typed group of a mapping. -/
def mixedGroup : Raw :=
  .group Connective.all.word [leafRecord (.int 2) (.text Comparison.equal.word) .null]

theorem accept_fails_on_faults :
    (overlongComparison.nestsWithin 300 = true ∧
      accept measuredThings overlongComparison 0 = .error .overlongInteger) ∧
    (firstDayComparison.nestsWithin 300 = true ∧
      accept datedThings firstDayComparison 0 = .error (.offCalendar .before)) ∧
    mixedGroup.nestsWithin 300 = true ∧
      accept datedThings mixedGroup 0 = .error (.notNode "dict") := by
  have unread : Cell.read? .numeric (.int Numeral.leastOverlong) = .ok none := by
    decide +kernel
  have overlong : accept measuredThings overlongComparison 0 = .error .overlongInteger :=
    accept_eq_error_of_overlong 0 .equal rfl rfl unread Numeral.isOverlong_leastOverlong
  have firstDay : recordOf firstDayComparison = .error (.offCalendar .before) := by
    decide +kernel
  have mixed : recordOf mixedGroup = .error (.notNode "dict") := by
    decide +kernel
  exact ⟨⟨rfl, overlong⟩, ⟨rfl, accept_eq_error_of_recordOf datedThings 0 firstDay⟩, rfl,
    accept_eq_error_of_recordOf datedThings 0 mixed⟩

end Filter

end TableSource
