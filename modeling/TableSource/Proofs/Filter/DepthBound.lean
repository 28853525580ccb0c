import TableSource.Proofs.Cell.RoundTrip
import TableSource.Proofs.Filter.Requests
import TableSource.Proofs.Filter.Survivors

/-!
# What lies below the deepest groups

A group that is nested too deeply is dropped before anything in it is looked at.  So two untrusted
values that differ only inside the children of such groups leave the same filter, or fail alike,
whatever those children are.  In a filter that is left, no group stands below the bound, and no leaf
more than one level below it.
-/

namespace TableSource.Filter

/-! ## Values that agree above a bound -/

/-- Two values that stand at a depth are the same but for the children of groups that stand at a
bound or below it.  Such groups may have any children, or none. -/
inductive AgreeAbove (bound : Int) : Int → Raw → Raw → Prop where
  | same (depth : Int) (value : Raw) : AgreeAbove bound depth value value
  | beneath {depth : Int} {entries others : List (Raw × Raw)}
      (deep : bound ≤ depth)
      (grouped : (groupWord? (Raw.valueUnder entries "op")).isSome = true)
      (beside : ∀ name ≠ "children", Raw.valueUnder entries name = Raw.valueUnder others name) :
      AgreeAbove bound depth (.mapping entries) (.mapping others)
  | group {depth : Int} {entries others : List (Raw × Raw)} {children otherChildren : List Raw}
      (grouped : (groupWord? (Raw.valueUnder entries "op")).isSome = true)
      (beside : ∀ name ≠ "children", Raw.valueUnder entries name = Raw.valueUnder others name)
      (listed : (Raw.valueUnder entries "children").items? = some children)
      (otherListed : (Raw.valueUnder others "children").items? = some otherChildren)
      (asMany : children.length = otherChildren.length)
      (each : ∀ pair ∈ children.zip otherChildren,
        AgreeAbove bound (depth + 1) pair.1 pair.2) :
      AgreeAbove bound depth (.mapping entries) (.mapping others)

variable {schema : Schema}

theorem exists_connective
    {value : Raw}
    (grouped : (groupWord? value).isSome = true) :
    ∃ connective, connectiveOf? value = some connective := by
  rw [groupWord?_eq, Option.isSome_map] at grouped
  exact Option.isSome_iff_exists.mp grouped

/-- Values that are admitted alike one by one are admitted alike together. -/
theorem collect_congr
    {accept : Raw → Except TextFailure (Option (Node Cell))} {values others : List Raw}
    (asMany : values.length = others.length)
    (each : ∀ pair ∈ values.zip others, accept pair.1 = accept pair.2) :
    collect accept values = collect accept others := by
  induction values generalizing others with
  | nil =>
      rw [List.eq_nil_of_length_eq_zero asMany.symm]
  | cons value rest induction =>
      cases others with
      | nil =>
          cases asMany
      | cons other others =>
          rw [List.zip_cons_cons, List.forall_mem_cons] at each
          rw [collect, collect, each.1, induction (Nat.succ_inj.mp asMany) each.2]

/-- Where no group may stand, none is looked into. -/
theorem acceptWithin_of_deep
    {depth : Int} {entries : List (Raw × Raw)}
    (schema : Schema) (deep : maxDepth < depth)
    (grouped : (groupWord? (Raw.valueUnder entries "op")).isSome = true) :
    acceptWithin schema (levelsAt depth) (.mapping entries) = .ok none := by
  rcases exists_connective grouped with ⟨connective, named⟩
  have none_left : levelsAt depth = 0 := by
    rw [levelsAt]
    omega
  rw [none_left]
  exact acceptWithin_zero schema entries named

/-- Values that agree above the first depth that is too deep leave the same. -/
theorem acceptWithin_of_agreeAbove
    {depth : Int} {value other : Raw}
    (agree : AgreeAbove (maxDepth + 1) depth value other) :
    acceptWithin schema (levelsAt depth) value = acceptWithin schema (levelsAt depth) other := by
  induction agree with
  | same depth value =>
      rfl
  | beneath deep grouped beside =>
      have otherGrouped := grouped
      rw [beside "op" (by decide)] at otherGrouped
      rw [acceptWithin_of_deep schema (Int.lt_of_add_one_le deep) grouped,
        acceptWithin_of_deep schema (Int.lt_of_add_one_le deep) otherGrouped]
  | @group depth entries others children otherChildren grouped beside listed otherListed asMany
      each induction =>
      have otherGrouped := grouped
      rw [beside "op" (by decide)] at otherGrouped
      by_cases within : depth ≤ maxDepth
      · have levels : levelsAt depth = levelsAt (depth + 1) + 1 := by
          simp only [levelsAt]
          omega
        rcases exists_connective grouped with ⟨connective, named⟩
        have otherNamed := named
        rw [beside "op" (by decide)] at otherNamed
        rw [levels, acceptWithin_group schema _ entries named listed,
          acceptWithin_group schema _ others otherNamed otherListed,
          collect_congr asMany induction]
      · rw [acceptWithin_of_deep schema (Int.not_le.mp within) grouped,
          acceptWithin_of_deep schema (Int.not_le.mp within) otherGrouped]

/-! ## Where the nodes of a filter stand -/

/-- A node of a tree, and the depth where it stands when the root stands at a given one. -/
inductive Node.StandsAt {α : Type} (tree : Node α) (start : Int) : Int → Node α → Prop where
  | root : StandsAt tree start start tree
  | child {depth : Int} {connective : Connective} {children : List (Node α)} {child : Node α}
      (above : StandsAt tree start depth (.group connective children))
      (member : child ∈ children) :
      StandsAt tree start (depth + 1) child

section Standing

variable {tree node : Node Cell} {start depth : Int}

/-- Every node of a well-formed tree is well formed where it stands. -/
theorem WellFormed.of_standsAt
    (wellFormed : WellFormed schema start tree) (stands : tree.StandsAt start depth node) :
    WellFormed schema depth node := by
  induction stands with
  | root =>
      exact wellFormed
  | child _ member induction =>
      cases induction with
      | group _ _ _ below =>
          exact below _ member

theorem WellFormed.group_depth_le
    {connective : Connective} {children : List (Node Cell)}
    (wellFormed : WellFormed schema start tree)
    (stands : tree.StandsAt start depth (.group connective children)) :
    depth ≤ maxDepth := by
  cases wellFormed.of_standsAt stands with
  | group _ within _ _ =>
      exact within

/-- Only the root stands where no group stands above it. -/
theorem WellFormed.depth_le
    (wellFormed : WellFormed schema start tree) (stands : tree.StandsAt start depth node) :
    depth = start ∨ depth ≤ maxDepth + 1 := by
  cases stands with
  | root =>
      exact .inl rfl
  | child above _ =>
      exact .inr (Int.add_le_add_right (wellFormed.group_depth_le above) 1)

end Standing

/-! ## The bound -/

/-- Values that agree above depth eleven leave the same filter, or fail alike, and do not fail if
one of them was read from a JSON text.  In what is left, groups stand at depth ten at most and
leaves at depth eleven. -/
theorem accept_unaffected_beneath
    {value other : Raw}
    (agree : AgreeAbove 11 0 value other) :
    accept schema value 0 = accept schema other 0 ∧
    (value.Decoded → ∃ left, accept schema value 0 = .ok left) ∧
    ∀ tree, accept schema value 0 = .ok (some tree) →
      (∀ depth connective children,
        tree.StandsAt 0 depth (.group connective children) → depth ≤ 10) ∧
      (∀ depth feature test, tree.StandsAt 0 depth (.leaf feature test) → depth ≤ 11) := by
  refine ⟨acceptWithin_of_agreeAbove agree, accept_of_decoded schema 0, fun tree accepted => ?_⟩
  have wellFormed := accept_wellFormed accepted
  constructor
  · intro depth connective children stands
    exact wellFormed.group_depth_le stands
  · intro depth feature test stands
    rcases wellFormed.depth_le stands with rfl | most
    · decide
    · exact most

/-- A value inside as many groups, each of which has a leaf before it. -/
def buried (inner : Raw) : Nat → Raw
  | 0 => inner
  | levels + 1 =>
    Raw.record
      [("op", .text "and"),
        ("children", .list
          [leafRecord (.int 1) (.text "eq") (.text "a"), buried inner levels])]

/-- Only the name of its children tells the children of a group. -/
theorem valueUnder_beside_children
    {name : String} {operator : Raw} (children others : Raw)
    (beside : name ≠ "children") :
    Raw.valueUnder [(.text "op", operator), (.text "children", children)] name =
      Raw.valueUnder [(.text "op", operator), (.text "children", others)] name := by
  by_cases named : "op" = name
  · rw [← named, Raw.valueUnder_cons_self, Raw.valueUnder_cons_self]
  · rw [Raw.valueUnder_cons_of_ne named, Raw.valueUnder_cons_of_ne named,
      Raw.valueUnder_cons_of_ne beside.symm, Raw.valueUnder_cons_of_ne beside.symm]

theorem agreeAbove_buried
    {bound depth : Int} {inner other : Raw} (levels : Nat)
    (agree : AgreeAbove bound (depth + levels) inner other) :
    AgreeAbove bound depth (buried inner levels) (buried other levels) := by
  induction levels generalizing depth with
  | zero =>
      rw [Nat.cast_zero, Int.add_zero] at agree
      exact agree
  | succ levels induction =>
      rw [Nat.cast_succ, Int.add_comm levels, ← Int.add_assoc] at agree
      refine .group rfl ?_ rfl rfl rfl ?_
      · intro name other_name
        exact valueUnder_beside_children _ _ other_name
      · simp only [List.zip_cons_cons, List.zip_nil_left, List.forall_mem_cons]
        exact ⟨.same _ _, induction agree, by simp⟩

theorem jsonWithin_leaf (depth : Nat) (value : String) :
    Raw.JsonWithin (depth + 1) (leafRecord (.int 1) (.text "eq") (.text value)) := by
  have short : Numeral.isOverlong 1 = false :=
    @Numeral.isOverlong_signed [1] false (by decide) (by decide)
  refine .mapping (by simp) ?_
  simp only [List.map_cons, List.map_nil, List.forall_mem_cons]
  exact ⟨.int short, .text _, .text _, by simp⟩

theorem jsonWithin_group
    {depth : Nat} {children : List Raw} (operator : String)
    (each : ∀ child ∈ children, Raw.JsonWithin depth child) :
    Raw.JsonWithin (depth + 2)
      (Raw.record [("op", .text operator), ("children", .list children)]) := by
  refine .mapping (by simp) ?_
  simp only [List.map_cons, List.map_nil, List.forall_mem_cons]
  exact ⟨.text _, .list each, by simp⟩

theorem jsonWithin_buried
    {depth : Nat} {inner : Raw} (levels : Nat)
    (within : Raw.JsonWithin (depth + 1) inner) :
    Raw.JsonWithin (depth + 1 + 2 * levels) (buried inner levels) := by
  induction levels with
  | zero =>
      exact within
  | succ levels induction =>
      have leaf : Raw.JsonWithin (depth + 1 + 2 * levels)
          (leafRecord (.int 1) (.text "eq") (.text "a")) := by
        rw [Nat.add_right_comm]
        exact jsonWithin_leaf _ "a"
      apply jsonWithin_group "and"
      simp only [List.forall_mem_cons]
      exact ⟨leaf, induction, by simp⟩

/-- The groups at depth eleven have a leaf in one filter, and no list of children in the other. -/
theorem accept_unaffected_beneath_buried :
    let deepest (children : Raw) : Raw :=
      Raw.record [("op", .text "OR"), ("children", children)]
    let value := buried (deepest (.list [leafRecord (.int 1) (.text "eq") (.text "b")])) 11
    let other := buried (deepest (.text "c")) 11
    (AgreeAbove 11 0 value other ∧ value.Decoded) ∧
      accept measuredThings value 0 = accept measuredThings other 0 ∧
      ∃ tree, accept measuredThings value 0 = .ok (some tree) ∧
        tree.placed.map (·.path.length) = List.range' 1 11 ∧
        ∀ depth feature test, tree.StandsAt 0 depth (.leaf feature test) → depth ≤ 11 := by
  intro deepest value other
  have agree : AgreeAbove 11 0 value other := by
    apply agreeAbove_buried 11
    refine .beneath (by decide) rfl fun name other_name => ?_
    exact valueUnder_beside_children _ _ other_name
  have kept : (accept measuredThings value 0).toOption.join.map
      (fun tree => tree.placed.map (·.path.length)) = some (List.range' 1 11) := by
    decide +kernel
  have decoded : value.Decoded := by
    have inner : Raw.JsonWithin 3 (deepest (.list [leafRecord (.int 1) (.text "eq") (.text "b")])) :=
      jsonWithin_group "OR" (List.forall_mem_singleton.mpr (jsonWithin_leaf 0 "b"))
    exact (jsonWithin_buried 11 inner).mono (by decide)
  rcases accept_unaffected_beneath agree with ⟨alike, survives, below⟩
  rcases survives decoded with ⟨left, accepted⟩
  refine ⟨⟨agree, decoded⟩, alike, ?_⟩
  rw [accepted] at kept
  cases left with
  | none =>
      cases kept
  | some tree =>
      exact ⟨tree, accepted, Option.some.inj kept, (below tree accepted).2⟩

end TableSource.Filter
