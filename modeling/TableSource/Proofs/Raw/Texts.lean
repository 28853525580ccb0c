import TableSource.Proofs.Succeeds
import TableSource.Raw.JsonText

/-!
# What keeps a value from having a text

A value that is not nested too deeply has a literal text exactly when no integer in it is overlong.
Its JSON text can also be missing because a mapping in it has a key that JSON has no form for.
Nothing else that a value may hold, at whatever place in it, keeps it from having a text.
-/

namespace TableSource

namespace Numeral

/-- The smallest integer that has no text. -/
def leastOverlong : Int :=
  ((Nat.pow 10 maxDigits : Nat) : Int)

theorem isOverlong_of_le
    {n : Int}
    (long : Nat.pow 10 maxDigits ≤ n.natAbs) :
    isOverlong n = true := by
  unfold isOverlong
  exact decide_eq_true long

theorem isOverlong_leastOverlong :
    isOverlong leastOverlong = true := by
  have size : leastOverlong.natAbs = Nat.pow 10 maxDigits := Int.natAbs_natCast _
  exact isOverlong_of_le (Nat.le_of_eq size.symm)

end Numeral

namespace Raw

/-! ## Parts and nesting -/

/-- The values that a value is put together from.  A typed group holds its children in a fixed
sequence. -/
def components : Raw → List Raw
  | .list items | .tuple items => items
  | .mapping entries => entries.flatMap fun entry => [entry.1, entry.2]
  | .leaf feature operator value => [feature, operator, value]
  | .group _ children => [.tuple children]
  | _ => []

/-- Whether a value holds other values, or could hold some. -/
def isCompound : Raw → Bool
  | .list _ | .tuple _ | .mapping _ | .leaf _ _ _ | .group _ _ => true
  | _ => false

/-- Whether compound values lie inside each other at most a number of times. -/
def nestsWithin : Nat → Raw → Bool
  | 0, value => !value.isCompound
  | depth + 1, value => value.components.all (nestsWithin depth)

/-- A value is a part of itself and of everything that is put together from it. -/
inductive Part (part : Raw) : Raw → Prop where
  | itself : Part part part
  | within {whole component : Raw}
      (member : component ∈ whole.components) (inside : Part part component) : Part part whole

/-- Somewhere in a value is an integer of too many digits. -/
def HoldsOverlong (value : Raw) : Prop :=
  ∃ n, Part (.int n) value ∧ Numeral.isOverlong n = true

/-- Whether JSON has a form for a value as the key of a mapping. -/
def isJsonKey : Raw → Bool
  | .text _ | .float _ | .bool _ | .null | .int _ => true
  | _ => false

/-- Somewhere in a value is a mapping with a key that JSON has no form for. -/
def HoldsForeignKey (value : Raw) : Prop :=
  ∃ entries, Part (.mapping entries) value ∧ ∃ entry ∈ entries, entry.1.isJsonKey = false

theorem Part.trans
    {part middle whole : Raw}
    (inner : Part part middle) (outer : Part middle whole) :
    Part part whole := by
  induction outer with
  | itself =>
      exact inner
  | within member _ induction =>
      exact .within member induction

theorem HoldsOverlong.of_part
    {part whole : Raw}
    (held : part.HoldsOverlong) (inside : Part part whole) :
    whole.HoldsOverlong := by
  rcases held with ⟨n, deeper, long⟩
  exact ⟨n, deeper.trans inside, long⟩

theorem not_holdsOverlong_text (words : String) : ¬ (text words).HoldsOverlong := by
  rintro ⟨n, inside, -⟩
  cases inside with
  | within member _ =>
      cases member

theorem HoldsOverlong.of_component
    {component whole : Raw}
    (held : component.HoldsOverlong) (member : component ∈ whole.components) :
    whole.HoldsOverlong :=
  held.of_part (.within member .itself)

theorem HoldsForeignKey.of_component
    {component whole : Raw}
    (held : component.HoldsForeignKey) (member : component ∈ whole.components) :
    whole.HoldsForeignKey := by
  rcases held with ⟨entries, deeper, foreign⟩
  exact ⟨entries, .within member deeper, foreign⟩

theorem components_of_not_isCompound
    {value : Raw}
    (single : value.isCompound = false) :
    value.components = [] := by
  cases value <;> first | rfl | cases single

/-- A value that is not compound is its only part. -/
theorem HoldsForeignKey.isCompound
    {value : Raw}
    (held : value.HoldsForeignKey) :
    value.isCompound = true := by
  rcases held with ⟨entries, inside, -⟩
  cases inside with
  | itself =>
      rfl
  | within member _ =>
      cases compound : value.isCompound with
      | true =>
          rfl
      | false =>
          rw [components_of_not_isCompound compound] at member
          cases member

theorem nestsWithin_component
    {depth : Nat} {value component : Raw}
    (nests : value.nestsWithin (depth + 1) = true) (member : component ∈ value.components) :
    component.nestsWithin depth = true :=
  List.all_eq_true.mp nests component member

theorem nestsWithin_of_not_isCompound
    {value : Raw} (depth : Nat)
    (single : value.isCompound = false) :
    value.nestsWithin depth = true := by
  cases depth <;> simp [nestsWithin, single, components_of_not_isCompound single]

theorem nestsWithin_succ
    {depth : Nat} {value : Raw}
    (nests : value.nestsWithin depth = true) :
    value.nestsWithin (depth + 1) = true := by
  induction depth generalizing value with
  | zero =>
      exact nestsWithin_of_not_isCompound 1 (by simpa [nestsWithin] using nests)
  | succ depth induction =>
      apply List.all_eq_true.mpr
      intro component member
      exact induction (nestsWithin_component nests member)

theorem nestsWithin_mono
    {depth deeper : Nat} {value : Raw}
    (nests : value.nestsWithin depth = true) (most : depth ≤ deeper) :
    value.nestsWithin deeper = true := by
  induction most with
  | refl =>
      exact nests
  | step _ induction =>
      exact nestsWithin_succ induction

/-- A component is nested no deeper than the whole. -/
theorem nestsWithin_of_component
    {depth : Nat} {value component : Raw}
    (nests : value.nestsWithin depth = true) (member : component ∈ value.components) :
    component.nestsWithin depth = true := by
  cases depth with
  | zero =>
      have single : value.isCompound = false := by simpa [nestsWithin] using nests
      rw [components_of_not_isCompound single] at member
      cases member
  | succ depth =>
      exact nestsWithin_succ (nestsWithin_component nests member)

theorem nestsWithin_of_part
    {depth : Nat} {part whole : Raw}
    (nests : whole.nestsWithin depth = true) (inside : Part part whole) :
    part.nestsWithin depth = true := by
  induction inside with
  | itself =>
      exact nests
  | within member _ induction =>
      exact induction (nestsWithin_of_component nests member)

/-! ## Literal texts -/

theorem integerText_eq_error_iff
    {n : Int} {failure : TextFailure} :
    integerText n = .error failure ↔
      failure = .overlongInteger ∧ Numeral.isOverlong n = true := by
  rw [integerText, Numeral.wholeText?]
  cases Numeral.isOverlong n <;> simp [eq_comm]

/-- A value that is not compound has a literal text unless it is an overlong integer. -/
theorem holdsOverlong_of_single
    {bound : Nat} {value : Raw} {failure : TextFailure}
    (single : value.isCompound = false)
    (failed : literalWithin bound value = .error failure) :
    failure = .overlongInteger ∧ value.HoldsOverlong := by
  cases value with
  | int n =>
      rw [literalWithin] at failed
      rcases integerText_eq_error_iff.mp failed with ⟨same, long⟩
      exact ⟨same, n, .itself, long⟩
  | list _ | tuple _ | mapping _ | leaf _ _ _ | group _ _ =>
      cases single
  | _ =>
      rw [literalWithin] at failed
      cases failed

/-- A compound value has no literal text only because one of its components has none. -/
theorem exists_component_of_literal_error
    {bound : Nat} {value : Raw} {failure : TextFailure}
    (compound : value.isCompound = true)
    (failed : literalWithin (bound + 1) value = .error failure) :
    ∃ component ∈ value.components, ∃ lower,
      bound ≤ lower ∧ literalWithin lower component = .error failure := by
  cases value with
  | list items | tuple items =>
      rw [literalWithin] at failed
      rcases exists_error_of_mapM (error_of_bind_ok failed fun texts => ⟨_, rfl⟩) with
        ⟨item, member, failedItem⟩
      exact ⟨item, member, bound, Nat.le_refl _, failedItem⟩
  | mapping entries =>
      rw [literalWithin] at failed
      rcases exists_error_of_mapM (error_of_bind_ok failed fun texts => ⟨_, rfl⟩) with
        ⟨entry, member, failedEntry⟩
      rcases bind_eq_error_iff.mp failedEntry with failedKey | ⟨key, -, failedRest⟩
      · exact ⟨entry.1, List.mem_flatMap.mpr ⟨entry, member, by simp⟩, bound, Nat.le_refl _,
          failedKey⟩
      · exact ⟨entry.2, List.mem_flatMap.mpr ⟨entry, member, by simp⟩, bound, Nat.le_refl _,
          error_of_bind_ok failedRest fun text => ⟨_, rfl⟩⟩
  | leaf feature operator held =>
      rw [literalWithin] at failed
      rcases bind_eq_error_iff.mp failed with failedFeature | ⟨featureText, -, failedRest⟩
      · exact ⟨feature, by simp [components], bound, Nat.le_refl _, failedFeature⟩
      · rcases bind_eq_error_iff.mp failedRest with failedOperator | ⟨operatorText, -, failedHeld⟩
        · exact ⟨operator, by simp [components], bound, Nat.le_refl _, failedOperator⟩
        · exact ⟨held, by simp [components], bound, Nat.le_refl _,
            error_of_bind_ok failedHeld fun text => ⟨_, rfl⟩⟩
  | group operator children =>
      -- the sequence of the children has its text at the same bound as the group
      rw [literalWithin] at failed
      have failedChildren := error_of_bind_ok failed fun texts => ⟨_, rfl⟩
      refine ⟨.tuple children, by simp [components], bound + 1, Nat.le_succ _, ?_⟩
      rw [literalWithin, failedChildren]
      rfl
  | _ =>
      cases compound

theorem holdsOverlong_of_literalWithin
    {depth bound : Nat} {value : Raw} {failure : TextFailure}
    (nests : value.nestsWithin depth = true) (most : depth ≤ bound)
    (failed : literalWithin bound value = .error failure) :
    failure = .overlongInteger ∧ value.HoldsOverlong := by
  induction depth generalizing bound value with
  | zero =>
      exact holdsOverlong_of_single (by simpa [nestsWithin] using nests) failed
  | succ depth induction =>
      cases compound : value.isCompound with
      | false =>
          exact holdsOverlong_of_single compound failed
      | true =>
          cases bound with
          | zero =>
              exact absurd most (Nat.not_succ_le_zero depth)
          | succ bound =>
              rcases exists_component_of_literal_error compound failed with
                ⟨component, member, lower, least, failedComponent⟩
              have fits : depth ≤ lower := Nat.le_trans (Nat.le_of_succ_le_succ most) least
              rcases induction (nestsWithin_component nests member) fits failedComponent with
                ⟨same, held⟩
              exact ⟨same, held.of_component member⟩

/-- Where a value has a literal text, so has each of its components. -/
theorem exists_literal_of_component
    {bound : Nat} {value component : Raw} {words : String}
    (made : literalWithin bound value = .ok words) (member : component ∈ value.components) :
    ∃ lower text, literalWithin lower component = .ok text := by
  cases bound with
  | zero =>
      cases value with
      | list _ | tuple _ | mapping _ | leaf _ _ _ | group _ _ =>
          rw [literalWithin] at made
          cases made
          all_goals simp
      | _ =>
          cases member
  | succ bound =>
      cases value with
      | list items | tuple items =>
          rw [literalWithin] at made
          rcases bind_eq_ok_iff.mp made with ⟨texts, each, -⟩
          exact ⟨bound, exists_ok_of_mem each member⟩
      | mapping entries =>
          rw [literalWithin] at made
          rcases bind_eq_ok_iff.mp made with ⟨texts, each, -⟩
          rcases List.mem_flatMap.mp member with ⟨entry, present, side⟩
          rcases exists_ok_of_mem each present with ⟨text, madeEntry⟩
          rcases bind_eq_ok_iff.mp madeEntry with ⟨key, madeKey, madeRest⟩
          rcases bind_eq_ok_iff.mp madeRest with ⟨held, madeHeld, -⟩
          rcases List.mem_pair.mp side with rfl | rfl
          · exact ⟨bound, key, madeKey⟩
          · exact ⟨bound, held, madeHeld⟩
      | leaf feature operator held =>
          rw [literalWithin] at made
          rcases bind_eq_ok_iff.mp made with ⟨featureText, madeFeature, madeRest⟩
          rcases bind_eq_ok_iff.mp madeRest with ⟨operatorText, madeOperator, madeHeld⟩
          rcases bind_eq_ok_iff.mp madeHeld with ⟨heldText, madeHeld, -⟩
          simp only [components, List.mem_cons, List.not_mem_nil, or_false] at member
          rcases member with rfl | rfl | rfl
          · exact ⟨bound, featureText, madeFeature⟩
          · exact ⟨bound, operatorText, madeOperator⟩
          · exact ⟨bound, heldText, madeHeld⟩
      | group operator children =>
          rw [literalWithin] at made
          rcases bind_eq_ok_iff.mp made with ⟨texts, each, -⟩
          rw [List.mem_singleton.mp member]
          have sequence : ∃ text, literalWithin (bound + 1) (.tuple children) = .ok text := by
            rw [literalWithin, each]
            exact ⟨_, rfl⟩
          exact ⟨bound + 1, sequence⟩
      | _ =>
          cases member

theorem literal_ne_ok_of_overlong
    {bound : Nat} {value : Raw} {words : String}
    (held : value.HoldsOverlong) :
    literalWithin bound value ≠ .ok words := by
  rcases held with ⟨n, inside, long⟩
  induction inside generalizing bound words with
  | itself =>
      have failed := integerText_eq_error_iff.mpr ⟨rfl, long⟩
      rw [literalWithin, failed]
      intro same
      cases same
  | within member _ induction =>
      intro made
      rcases exists_literal_of_component made member with ⟨lower, text, madeComponent⟩
      exact induction madeComponent

/-- A value has no literal text exactly when an integer in it is overlong. -/
theorem literal_eq_error_iff
    {value : Raw} {failure : TextFailure}
    (nests : value.nestsWithin maxNesting = true) :
    value.literal = .error failure ↔ failure = .overlongInteger ∧ value.HoldsOverlong := by
  constructor
  · exact holdsOverlong_of_literalWithin nests (Nat.le_refl _)
  · rintro ⟨rfl, held⟩
    cases made : value.literal with
    | ok words =>
        exact absurd made (literal_ne_ok_of_overlong held)
    | error failure =>
        rw [(holdsOverlong_of_literalWithin nests (Nat.le_refl _) made).1]

/-- The text that a value is shown as fails like its literal text. -/
theorem holdsOverlong_of_shown
    {value : Raw} {failure : TextFailure}
    (nests : value.nestsWithin maxNesting = true)
    (failed : value.shown = .error failure) :
    failure = .overlongInteger ∧ value.HoldsOverlong := by
  cases value with
  | text _ | decimal _ | date _ | reading _ =>
      cases failed
  | _ =>
      exact (literal_eq_error_iff nests).mp failed

/-! ## JSON texts -/

/-- What keeps a value from having a JSON text, with the failure that it causes. -/
inductive Unwritable (value : Raw) : TextFailure → Prop where
  | overlong (held : value.HoldsOverlong) : Unwritable value .overlongInteger
  | foreignKey (held : value.HoldsForeignKey) : Unwritable value .keyKind

theorem Unwritable.of_component
    {component whole : Raw} {failure : TextFailure}
    (unwritable : component.Unwritable failure) (member : component ∈ whole.components) :
    whole.Unwritable failure := by
  cases unwritable with
  | overlong held =>
      exact .overlong (held.of_component member)
  | foreignKey held =>
      exact .foreignKey (held.of_component member)

theorem jsonKey_eq_error_of_foreign
    {key : Raw}
    (foreign : key.isJsonKey = false) :
    jsonKey .spaced key = .error .keyKind := by
  cases key <;> first | rfl | cases foreign

theorem jsonKey_error
    {key : Raw} {failure : TextFailure}
    (failed : jsonKey .spaced key = .error failure) :
    (failure = .overlongInteger ∧ key.HoldsOverlong) ∨
      (failure = .keyKind ∧ key.isJsonKey = false) := by
  cases key with
  | int n =>
      rcases integerText_eq_error_iff.mp failed with ⟨same, long⟩
      exact .inl ⟨same, n, .itself, long⟩
  | float value =>
      cases value <;> cases failed
  | text _ | bool _ | null =>
      cases failed
  | _ =>
      cases failed
      exact .inr ⟨rfl, rfl⟩

/-- A value has no JSON text because of itself, or because one of its components has none. -/
theorem unwritable_or_component
    {bound : Nat} {value : Raw} {failure : TextFailure}
    (nests : value.nestsWithin maxNesting = true)
    (failed : jsonWithin .spaced (bound + 1) value = .error failure) :
    value.Unwritable failure ∨
      ∃ component ∈ value.components, jsonWithin .spaced bound component = .error failure := by
  cases value with
  | null | bool _ | text _ =>
      rw [jsonWithin] at failed
      cases failed
  | int n =>
      rw [jsonWithin] at failed
      rcases integerText_eq_error_iff.mp failed with ⟨rfl, long⟩
      exact .inl (.overlong ⟨n, .itself, long⟩)
  | float value =>
      rw [jsonWithin] at failed
      cases value <;> cases failed
  | list items | tuple items =>
      rw [jsonWithin] at failed
      rcases exists_error_of_mapM (error_of_bind_ok failed fun texts => ⟨_, rfl⟩) with
        ⟨item, member, failedItem⟩
      exact .inr ⟨item, member, failedItem⟩
  | mapping entries =>
      rw [jsonWithin] at failed
      rcases exists_error_of_mapM (error_of_bind_ok failed fun texts => ⟨_, rfl⟩) with
        ⟨entry, member, failedEntry⟩
      have keyInside : entry.1 ∈ (mapping entries).components :=
        List.mem_flatMap.mpr ⟨entry, member, by simp⟩
      have valueInside : entry.2 ∈ (mapping entries).components :=
        List.mem_flatMap.mpr ⟨entry, member, by simp⟩
      rcases bind_eq_error_iff.mp failedEntry with failedKey | ⟨key, -, failedValue⟩
      · rcases jsonKey_error failedKey with ⟨rfl, held⟩ | ⟨rfl, foreign⟩
        · exact .inl (.overlong (held.of_component keyInside))
        · exact .inl (.foreignKey ⟨entries, .itself, entry, member, foreign⟩)
      · exact .inr ⟨entry.2, valueInside, error_of_bind_ok failedValue fun text => ⟨_, rfl⟩⟩
  | decimal _ | date _ | reading _ | bytes _ | leaf _ _ _ | group _ _ =>
      rw [jsonWithin] at failed
      · have failedShown := error_of_bind_ok failed fun words => ⟨_, rfl⟩
        rcases holdsOverlong_of_shown nests failedShown with ⟨rfl, held⟩
        exact .inl (.overlong held)
      all_goals simp

/-- One more level is allowed than containers are nested, for the values that are shown inside. -/
theorem unwritable_of_jsonWithin
    {depth bound : Nat} {value : Raw} {failure : TextFailure}
    (nests : value.nestsWithin depth = true) (most : depth < bound) (few : depth ≤ maxNesting)
    (failed : jsonWithin .spaced bound value = .error failure) :
    value.Unwritable failure := by
  induction depth generalizing bound value with
  | zero =>
      have single : value.isCompound = false := by simpa [nestsWithin] using nests
      cases bound with
      | zero =>
          exact absurd most (Nat.lt_irrefl 0)
      | succ bound =>
          rcases unwritable_or_component (nestsWithin_mono nests few) failed with
            unwritable | ⟨component, member, -⟩
          · exact unwritable
          · rw [components_of_not_isCompound single] at member
            cases member
  | succ depth induction =>
      cases bound with
      | zero =>
          exact absurd most (Nat.not_lt_zero _)
      | succ bound =>
          rcases unwritable_or_component (nestsWithin_mono nests few) failed with
            unwritable | ⟨component, member, failedComponent⟩
          · exact unwritable
          · have less : depth < bound := Nat.lt_of_succ_lt_succ most
            exact (induction (nestsWithin_component nests member) less
              (Nat.le_of_succ_le few) failedComponent).of_component member

/-- A value without a JSON text holds an overlong integer or a key that JSON has no form for. -/
theorem unwritable_of_json
    {depth : Nat} {value : Raw} {failure : TextFailure}
    (nests : value.nestsWithin depth = true) (few : depth < maxNesting)
    (failed : value.json .spaced = .error failure) :
    value.Unwritable failure :=
  unwritable_of_jsonWithin nests few (Nat.le_of_lt few) failed

end Raw

end TableSource
