import TableSource.Proofs.Filter.Refusals

/-!
# The leaves that are left of a filter

Admission drops what is not valid and moves nothing.  The leaves of the tree that is left are those
of the untrusted value that are admitted on their own, in their order, each under the same groups as
before.  Only leaves under groups that are nested too deeply are lost with the groups.
-/

namespace TableSource.Filter

/-! ## Leaves in their places -/

/-- Something under groups, whose words are listed from the outermost group on. -/
structure Placed (β : Type) where
  path : List String
  leaf : β

namespace Placed

variable {β : Type}

/-- Puts a group around everything that something stands under. -/
def under (word : String) (placed : Placed β) : Placed β :=
  { placed with path := word :: placed.path }

/-- Whether the groups that something stands under are not nested too deeply, where the outermost
one stands at a depth. -/
def Reachable (depth : Int) (placed : Placed β) : Prop :=
  ∀ above < placed.path.length, depth + above ≤ maxDepth

instance (depth : Int) (placed : Placed β) : Decidable (placed.Reachable depth) :=
  inferInstanceAs (Decidable (∀ above < placed.path.length, depth + above ≤ maxDepth))

end Placed

namespace Node

variable {α : Type}

mutual

/-- The leaves of a tree, from left to right, under the words of their groups. -/
def placed : Node α → List (Placed (Int × Test α))
  | .leaf feature test => [⟨[], feature, test⟩]
  | .group connective children => (placedIn children).map (Placed.under connective.word)

/-- The leaves of trees, from left to right. -/
def placedIn : List (Node α) → List (Placed (Int × Test α))
  | [] => []
  | node :: rest => placed node ++ placedIn rest

end

theorem placedIn_eq_flatMap (nodes : List (Node α)) :
    placedIn nodes = nodes.flatMap placed := by
  induction nodes with
  | nil =>
      rfl
  | cons node rest induction =>
      rw [placedIn, induction, List.flatMap_cons]

end Node

/-! ## Groups in untrusted values -/

/-- The word of a group in upper case, if a value is one. -/
def groupWord? : Raw → Option String
  | .text word =>
    if Text.asciiUpper word = "AND" ∨ Text.asciiUpper word = "OR" then
      some (Text.asciiUpper word)
    else none
  | _ => none

/-- The word and the children of a group, if a value is one.  Where no list of children is given, it
has none. -/
def groupIn? : Raw → Option (String × List Raw)
  | .mapping entries =>
    (groupWord? (Raw.valueUnder entries "op")).map fun word =>
      (word, (Raw.valueUnder entries "children").items?.getD [])
  | .group operator children =>
    (groupWord? (.text (Text.lower operator))).map fun word => (word, children)
  | .leaf _ operator _ => (groupWord? operator).map fun word => (word, [])
  | _ => none

theorem sizeOf_valueUnder_lt (entries : List (Raw × Raw)) (name : String) :
    sizeOf (Raw.valueUnder entries name) < sizeOf (Raw.mapping entries) := by
  rw [Raw.valueUnder, Raw.mapping.sizeOf_spec]
  split
  · next entry found =>
      have smaller := List.sizeOf_lt_of_mem (List.mem_of_find?_eq_some found)
      rcases entry with ⟨key, value⟩
      rw [Prod.mk.sizeOf_spec] at smaller
      show sizeOf value < _
      omega
  · rw [Raw.null.sizeOf_spec]
    cases entries <;> simp

theorem sizeOf_items?_le (value : Raw) :
    sizeOf (value.items?.getD []) ≤ sizeOf value := by
  cases value <;> simp [Raw.items?] <;> omega

theorem sizeOf_children_lt
    {value : Raw} {word : String} {children : List Raw}
    (grouped : groupIn? value = some (word, children)) :
    sizeOf children < sizeOf value := by
  cases value with
  | mapping entries =>
      rw [groupIn?, Option.map_eq_some_iff] at grouped
      rcases grouped with ⟨_, -, same⟩
      cases same
      have under := sizeOf_valueUnder_lt entries "children"
      have items := sizeOf_items?_le (Raw.valueUnder entries "children")
      omega
  | group operator others =>
      rw [groupIn?, Option.map_eq_some_iff] at grouped
      rcases grouped with ⟨_, -, same⟩
      cases same
      rw [Raw.group.sizeOf_spec]
      omega
  | leaf feature operator asked =>
      rw [groupIn?, Option.map_eq_some_iff] at grouped
      rcases grouped with ⟨_, -, same⟩
      cases same
      have positive : 0 < sizeOf asked := by
        cases asked <;> simp
      rw [Raw.leaf.sizeOf_spec, List.nil.sizeOf_spec]
      omega
  | _ =>
      cases grouped

mutual

/-- What stands at the ends of the groups of a value, from left to right, however deep.  Whether it
is a leaf is not asked. -/
def offered (value : Raw) : List (Placed Raw) :=
  match grouped : groupIn? value with
  | some (word, children) =>
    have := sizeOf_children_lt grouped
    (offeredIn children).map (Placed.under word)
  | none => [⟨[], value⟩]
termination_by sizeOf value

/-- What stands at the ends of the groups of values, from left to right. -/
def offeredIn (values : List Raw) : List (Placed Raw) :=
  match values with
  | [] => []
  | value :: rest => offered value ++ offeredIn rest
termination_by sizeOf values

end

theorem offeredIn_eq_flatMap (values : List Raw) :
    offeredIn values = values.flatMap offered := by
  induction values with
  | nil =>
      rw [offeredIn, List.flatMap_nil]
  | cons value rest induction =>
      rw [offeredIn, induction, List.flatMap_cons]

theorem offered_of_group
    {value : Raw} {word : String} {children : List Raw}
    (grouped : groupIn? value = some (word, children)) :
    offered value = (children.flatMap offered).map (Placed.under word) := by
  rw [offered]
  split
  · next same =>
      rw [grouped] at same
      cases same
      rw [offeredIn_eq_flatMap]
  · next same =>
      rw [grouped] at same
      cases same

theorem offered_of_single
    {value : Raw}
    (single : groupIn? value = none) :
    offered value = [⟨[], value⟩] := by
  rw [offered]
  split
  · next same =>
      rw [single] at same
      cases same
  · rfl

/-- The leaf that a value is admitted as on its own. -/
def leafOf? (schema : Schema) (value : Raw) : Option (Int × Test Cell) :=
  match accept schema value 0 with
  | .ok (some (.leaf feature test)) => some (feature, test)
  | _ => none

/-- The leaf that is left of a value in its place, unless its groups are nested too deeply. -/
def survivor? (schema : Schema) (depth : Int) (placed : Placed Raw) :
    Option (Placed (Int × Test Cell)) :=
  if placed.Reachable depth then (leafOf? schema placed.leaf).map (Placed.mk placed.path) else none

/-- The leaves of a value that are admitted on their own, from left to right, each in its place. -/
def survivors (schema : Schema) (depth : Int) (value : Raw) : List (Placed (Int × Test Cell)) :=
  (offered value).filterMap (survivor? schema depth)

/-! ## What is left of a single value -/

variable {schema : Schema} {value : Raw} {word : String} {children : List Raw}

theorem groupWord?_eq (value : Raw) :
    groupWord? value = (connectiveOf? value).map Connective.word := by
  cases value with
  | text word =>
      simp only [groupWord?, connectiveOf?, Connective.named?]
      split
      · next known =>
          rcases known with known | known
          · simp [known, Connective.word]
          · simp [known, Connective.word]
      · next unknown =>
          rw [not_or] at unknown
          simp [unknown]
  | _ =>
      rfl

theorem groupIn?_mapping (entries : List (Raw × Raw)) :
    groupIn? (.mapping entries) =
      (connectiveOf? (Raw.valueUnder entries "op")).map fun connective =>
        (connective.word, (Raw.valueUnder entries "children").items?.getD []) := by
  rw [groupIn?, groupWord?_eq, Option.map_map]
  rfl

/-- A mapping that a value stands for is a group exactly when the value is one.  Its children are
those of the value, or the mappings that they stand for. -/
theorem groupIn?_of_recordOf
    {record : Raw}
    (made : recordOf value = .ok record) :
    (groupIn? value = none → groupIn? record = none) ∧
    ∀ word children, groupIn? value = some (word, children) →
      ∃ others, groupIn? record = some (word, others) ∧
        (others = children ∨ recordsOf children = .ok others) := by
  cases value with
  | leaf feature operator asked =>
      rw [recordOf] at made
      rcases map_eq_ok_iff.mp made with ⟨sent, -, rfl⟩
      exact ⟨id, fun _ children grouped => ⟨children, grouped, .inl rfl⟩⟩
  | group operator children =>
      rw [recordOf] at made
      rcases map_eq_ok_iff.mp made with ⟨others, madeOthers, rfl⟩
      have found : groupIn? (groupRecord operator others) =
          (groupWord? (.text (Text.lower operator))).map fun word => (word, others) := rfl
      rw [found, groupIn?]
      cases groupWord? (.text (Text.lower operator)) with
      | none =>
          exact ⟨id, nofun⟩
      | some word =>
          refine ⟨nofun, fun _ _ grouped => ⟨others, ?_, .inr ?_⟩⟩ <;> cases grouped
          · rfl
          · exact madeOthers
  | _ =>
      cases made
      exact ⟨id, fun _ children grouped => ⟨children, grouped, .inl rfl⟩⟩

/-- Only a mapping stands for itself and is not dropped. -/
theorem mapping_or_dropped
    {record : Raw}
    (made : recordOf record = .ok record) :
    (∃ entries, record = .mapping entries) ∨
      groupIn? record = none ∧
        ∀ schema levels, acceptWithin schema levels record = .ok none := by
  cases record with
  | mapping entries =>
      exact .inl ⟨entries, rfl⟩
  | leaf feature operator asked =>
      rw [recordOf] at made
      rcases map_eq_ok_iff.mp made with ⟨sent, -, same⟩
      cases same
  | group operator children =>
      rw [recordOf] at made
      rcases map_eq_ok_iff.mp made with ⟨others, -, same⟩
      cases same
  | _ =>
      refine .inr ⟨rfl, fun schema levels => ?_⟩
      rw [acceptWithin]
      rfl

/-- A value that is no group is admitted alike wherever it stands, as a leaf. -/
theorem acceptWithin_of_single
    (schema : Schema) (single : groupIn? value = none) :
    ∃ result, (∀ levels, acceptWithin schema levels value = result) ∧
      ∀ node, result = .ok (some node) → ∃ feature test, node = .leaf feature test := by
  cases made : recordOf value with
  | error failure =>
      refine ⟨.error failure, fun levels => ?_, fun node accepted => ?_⟩
      · cases levels <;> rw [acceptWithin, made] <;> rfl
      · cases accepted
  | ok record =>
      have again := recordOf_of_recordOf made
      have same (levels : Nat) :
          acceptWithin schema levels value = acceptWithin schema levels record :=
        acceptWithin_of_recordOf schema levels (made.trans again.symm)
      rcases mapping_or_dropped again with ⟨entries, rfl⟩ | ⟨-, dropped⟩
      · have noConnective : connectiveOf? (Raw.valueUnder entries "op") = none := by
          have none_left := (groupIn?_of_recordOf made).1 single
          rwa [groupIn?_mapping, Option.map_eq_none_iff] at none_left
        refine ⟨acceptLeaf schema entries, fun levels => ?_, fun node accepted => ?_⟩
        · rw [same, acceptWithin_leaf schema levels entries noConnective]
        · rcases exists_of_acceptLeaf accepted with ⟨feature, _, test, -, -, -, rfl⟩
          exact ⟨feature.index, test, rfl⟩
      · refine ⟨.ok none, fun levels => ?_, fun node accepted => ?_⟩
        · rw [same, dropped]
        · cases accepted

/-! ## What is left of a group -/

theorem collect_of_recordsOf
    {records : List Raw}
    (schema : Schema) (levels : Nat) (made : recordsOf children = .ok records) :
    collect (acceptWithin schema levels) records =
      collect (acceptWithin schema levels) children := by
  induction children generalizing records with
  | nil =>
      cases made
      rfl
  | cons child rest induction =>
      rcases recordsOf_cons_eq_ok_iff.mp made with ⟨first, others, -, madeFirst, madeOthers, rfl⟩
      have same : acceptWithin schema levels first = acceptWithin schema levels child := by
        apply acceptWithin_of_recordOf
        rw [madeFirst, recordOf_of_recordOf madeFirst]
      rw [collect, collect, same, induction madeOthers]

theorem acceptWithin_zero
    {connective : Connective} (schema : Schema) (entries : List (Raw × Raw))
    (named : connectiveOf? (Raw.valueUnder entries "op") = some connective) :
    acceptWithin schema 0 (.mapping entries) = .ok none := by
  rw [acceptWithin]
  simp only [recordOf, bind, Except.bind, named]
  rfl

/-- A mapping of a group without a list of children is admitted like one with none. -/
theorem acceptWithin_succ
    {connective : Connective} (schema : Schema) (below : Nat) (entries : List (Raw × Raw))
    (named : connectiveOf? (Raw.valueUnder entries "op") = some connective) :
    acceptWithin schema (below + 1) (.mapping entries) =
      (collect (acceptWithin schema below)
        ((Raw.valueUnder entries "children").items?.getD [])).map (groupOf connective) := by
  cases listed : (Raw.valueUnder entries "children").items? with
  | some children =>
      exact acceptWithin_group schema below entries named listed
  | none =>
      rw [acceptWithin]
      simp only [recordOf, bind, Except.bind, named, listed]
      rfl

/-- A group that is not too deep is admitted with what is left of its children. -/
theorem acceptWithin_of_group
    {levels : Nat} {tree : Option (Node Cell)}
    (grouped : groupIn? value = some (word, children))
    (accepted : acceptWithin schema levels value = .ok tree) :
    (levels = 0 ∧ tree = none) ∨
    ∃ below nodes connective,
      levels = below + 1 ∧ connective.word = word ∧
      collect (acceptWithin schema below) children = .ok nodes ∧
      tree = groupOf connective nodes := by
  cases made : recordOf value with
  | error failure =>
      have failed : acceptWithin schema levels value = .error failure := by
        cases levels <;> rw [acceptWithin, made] <;> rfl
      rw [failed] at accepted
      cases accepted
  | ok record =>
      have again := recordOf_of_recordOf made
      rw [acceptWithin_of_recordOf schema levels (made.trans again.symm)] at accepted
      rcases (groupIn?_of_recordOf made).2 word children grouped with ⟨others, found, alike⟩
      rcases mapping_or_dropped again with ⟨entries, rfl⟩ | ⟨single, -⟩
      · rw [groupIn?_mapping, Option.map_eq_some_iff] at found
        rcases found with ⟨connective, named, same⟩
        cases same
        cases levels with
        | zero =>
            rw [acceptWithin_zero schema entries named] at accepted
            exact .inl ⟨rfl, (Except.ok.inj accepted).symm⟩
        | succ below =>
            rw [acceptWithin_succ schema below entries named] at accepted
            rcases map_eq_ok_iff.mp accepted with ⟨nodes, collected, rfl⟩
            refine .inr ⟨below, nodes, connective, rfl, rfl, ?_, rfl⟩
            rcases alike with same | madeOthers
            · rw [← same, collected]
            · rw [← collect_of_recordsOf schema below madeOthers, collected]
      · rw [single] at found
        cases found

/-! ## What is left of a value -/

theorem reachable_under
    {β : Type} {depth : Int} {placed : Placed β} :
    (placed.under word).Reachable depth ↔ depth ≤ maxDepth ∧ placed.Reachable (depth + 1) := by
  simp only [Placed.Reachable, Placed.under, List.length_cons]
  constructor
  · intro each
    refine ⟨?_, fun above less => ?_⟩
    · have outermost := each 0 (Nat.succ_pos _)
      omega
    · have inner := each (above + 1) (Nat.succ_lt_succ less)
      omega
  · rintro ⟨outermost, each⟩ above less
    cases above with
    | zero =>
        omega
    | succ above =>
        have inner := each above (Nat.lt_of_succ_lt_succ less)
        omega

theorem survivor?_under
    (schema : Schema) (depth : Int) (placed : Placed Raw) :
    survivor? schema depth (placed.under word) =
      if depth ≤ maxDepth then
        (survivor? schema (depth + 1) placed).map (Placed.under word)
      else none := by
  simp only [survivor?, reachable_under]
  by_cases within : depth ≤ maxDepth
  · by_cases reachable : placed.Reachable (depth + 1)
    · simp only [within, reachable, and_self, if_true, Option.map_map]
      rfl
    · simp only [within, reachable, and_false, if_true, if_false, Option.map_none]
  · simp only [within, false_and, if_false]

theorem survivors_of_group
    (schema : Schema) (depth : Int) (grouped : groupIn? value = some (word, children)) :
    survivors schema depth value =
      if depth ≤ maxDepth then
        (children.flatMap (survivors schema (depth + 1))).map (Placed.under word)
      else [] := by
  rw [survivors, offered_of_group grouped, List.filterMap_map]
  have each : survivor? schema depth ∘ Placed.under word = _ :=
    funext (survivor?_under schema depth)
  rw [each]
  by_cases within : depth ≤ maxDepth
  · simp only [within, if_true]
    rw [← List.map_filterMap, List.filterMap_flatMap]
    rfl
  · simp [within]

/-- The leaves of what is left of a value. -/
def placedLeft (tree : Option (Node Cell)) : List (Placed (Int × Test Cell)) :=
  tree.elim [] Node.placed

/-- The leaves that are left of values are those that are left of each of them, in order. -/
theorem placed_of_collect
    {accept : Raw → Except TextFailure (Option (Node Cell))}
    {values : List Raw} {nodes : List (Node Cell)}
    {found : Raw → List (Placed (Int × Test Cell))}
    (each : ∀ value tree, accept value = .ok tree → placedLeft tree = found value)
    (collected : collect accept values = .ok nodes) :
    nodes.flatMap Node.placed = values.flatMap found := by
  induction values generalizing nodes with
  | nil =>
      cases collected
      rfl
  | cons value rest induction =>
      rw [collect] at collected
      rcases bind_eq_ok_iff.mp collected with ⟨first, acceptedFirst, same⟩
      rw [List.flatMap_cons, ← each value first acceptedFirst]
      cases first with
      | none =>
          exact induction same
      | some kept =>
          rcases bind_eq_ok_iff.mp same with ⟨others, collectedOthers, same⟩
          cases pure_eq_ok_iff.mp same
          rw [List.flatMap_cons, induction collectedOthers]
          rfl

theorem placedLeft_groupOf (connective : Connective) (nodes : List (Node Cell)) :
    placedLeft (groupOf connective nodes) =
      (nodes.flatMap Node.placed).map (Placed.under connective.word) := by
  cases nodes with
  | nil =>
      rfl
  | cons node rest =>
      rw [← Node.placedIn_eq_flatMap]
      rfl

theorem survivors_of_single
    {levels : Nat} {depth : Int} {tree : Option (Node Cell)}
    (single : groupIn? value = none)
    (accepted : acceptWithin schema levels value = .ok tree) :
    placedLeft tree = survivors schema depth value := by
  rcases acceptWithin_of_single schema single with ⟨result, alike, leaf⟩
  rw [alike] at accepted
  have alone : accept schema value 0 = .ok tree := by
    rw [accept, alike, accepted]
  have reachable : (Placed.mk [] value).Reachable depth :=
    fun above inside => absurd inside (Nat.not_lt_zero above)
  rw [survivors, offered_of_single single]
  cases tree with
  | none =>
      simp [survivor?, placedLeft, leafOf?, alone]
  | some node =>
      rcases leaf node accepted with ⟨feature, test, rfl⟩
      simp [survivor?, placedLeft, leafOf?, alone, reachable, Node.placed]

/-- The leaves that are left of a value are those that are admitted on their own. -/
theorem placedLeft_of_acceptWithin
    {levels : Nat} {depth : Int} {tree : Option (Node Cell)}
    (enough : levels = levelsAt depth)
    (accepted : acceptWithin schema levels value = .ok tree) :
    placedLeft tree = survivors schema depth value := by
  induction levels using Nat.strong_induction_on generalizing value depth tree with
  | h levels induction =>
      cases grouped : groupIn? value with
      | none =>
          exact survivors_of_single grouped accepted
      | some found =>
          rw [survivors_of_group schema depth grouped]
          rw [levelsAt] at enough
          rcases acceptWithin_of_group grouped accepted with
            ⟨rfl, rfl⟩ | ⟨below, nodes, connective, rfl, named, collected, rfl⟩
          · rw [if_neg (by omega)]
            rfl
          · have fewer : below = levelsAt (depth + 1) := by
              rw [levelsAt]
              omega
            have left := placed_of_collect
              (fun child tree => induction below (Nat.lt_succ_self below) fewer) collected
            rw [if_pos (by omega), placedLeft_groupOf, left, named]

/-- A well-formed tree has a leaf. -/
theorem placed_ne_nil
    {depth : Int} {node : Node Cell}
    (wellFormed : WellFormed schema depth node) :
    node.placed ≠ [] := by
  induction wellFormed with
  | leaf found fits =>
      exact List.cons_ne_nil _ _
  | group known within nonempty below induction =>
      rw [Node.placed, Node.placedIn_eq_flatMap]
      rcases List.exists_mem_of_ne_nil _ nonempty with ⟨child, member⟩
      simp only [ne_eq, List.map_eq_nil_iff, List.flatMap_eq_nil_iff, not_forall]
      exact ⟨child, member, induction child member⟩

/-- What is left of an untrusted value has those leaves that are admitted on their own and that
stand under groups that are not nested too deeply, in their order, each one under the groups where
it stood; and nothing is left exactly when there is no such leaf. -/
theorem accept_keeps_leaves
    {depth : Int} {tree : Option (Node Cell)}
    (accepted : accept schema value depth = .ok tree) :
    tree.elim [] Node.placed = survivors schema depth value ∧
      (tree = none ↔ survivors schema depth value = []) := by
  have left := placedLeft_of_acceptWithin rfl accepted
  refine ⟨left, ?_⟩
  rw [← left]
  cases tree with
  | none =>
      exact iff_of_true rfl rfl
  | some node =>
      exact iff_of_false nofun (placed_ne_nil (accept_wellFormed accepted))

/-- Things of one kind, or of another that are not of a third; the rest is not valid, or is too deep
where the group stands at the depth of the deepest groups but one. -/
def prunedFilter : Raw :=
  let kind (word : String) := leafRecord (.int 1) (.text "eq") (.text word)
  Raw.record
    [("op", .text "Or"),
      ("children", .tuple
        [leafRecord (.int 2) (.text "eq") (.text "a"),
          kind "b",
          Raw.record
            [("op", .text "and"),
              ("children", .list
                [.null, kind "c", .group "AND" [.leaf (.int 1) (.text "eq") (.text "d")],
                  leafRecord (.int 1) (.text "neq") (.text "e")])],
          Raw.record [("op", .text "AND"), ("children", .list [.text "f"])]])]

theorem accept_keeps_leaves_prunedFilter :
    ∃ tree, accept measuredThings prunedFilter 9 = .ok (some tree) ∧
      tree.placed = survivors measuredThings 9 prunedFilter ∧
      tree.placed.map Placed.path = [["OR"], ["OR", "AND"], ["OR", "AND"]] := by
  have kept : (accept measuredThings prunedFilter 9).toOption.join.map
      (fun tree => tree.placed.map Placed.path) =
        some [["OR"], ["OR", "AND"], ["OR", "AND"]] := by
    decide +kernel
  cases accepted : accept measuredThings prunedFilter 9 with
  | error failure =>
      rw [accepted] at kept
      cases kept
  | ok left =>
      cases left with
      | none =>
          rw [accepted] at kept
          cases kept
      | some tree =>
          rw [accepted] at kept
          exact ⟨tree, rfl, (accept_keeps_leaves accepted).1, Option.some.inj kept⟩

end TableSource.Filter
