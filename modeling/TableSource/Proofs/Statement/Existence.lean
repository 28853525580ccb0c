import TableSource.Proofs.Filter.WellFormed
import TableSource.Statement.Query

/-!
# Admitted filters have conditions

A condition cannot be made for a leaf without a feature or without an operator.  No admitted filter
has such a leaf, so the statements for admitted filters exist.
-/

namespace TableSource

namespace Filter

/-- A filter, or none, that is left of some untrusted value at some depth. -/
def Admitted (schema : Schema) (tree : Option (Node Cell)) : Prop :=
  ∃ value depth, accept schema value depth = .ok tree

theorem Test.condition_of_fits
    {type : FeatureType} {test : Test Cell}
    (column : String)
    (fits : test.Fits type) :
    ∃ pieces, test.condition column = .ok pieces := by
  cases test with
  | unknown name =>
      exact fits.elim
  | _ =>
      exact ⟨_, rfl⟩

namespace Node

theorem conditions_of_each
    {schema : Schema} {nodes : List (Node Cell)}
    (each : ∀ node ∈ nodes, ∃ pieces, node.condition schema = .ok pieces) :
    ∃ parts, conditions schema nodes = .ok parts := by
  induction nodes with
  | nil =>
      exact ⟨[], rfl⟩
  | cons node rest induction =>
      rw [List.forall_mem_cons] at each
      rcases each.1 with ⟨first, made⟩
      rcases induction each.2 with ⟨others, madeOthers⟩
      exact ⟨first :: others, by rw [conditions, made, madeOthers]; rfl⟩

theorem condition_of_wellFormed
    {schema : Schema} {depth : Int} {node : Node Cell}
    (wellFormed : WellFormed schema depth node) :
    ∃ pieces, node.condition schema = .ok pieces := by
  induction wellFormed with
  | leaf found fits =>
      rw [condition, found]
      exact Test.condition_of_fits _ fits
  | group _ _ _ _ induction =>
      rcases conditions_of_each induction with ⟨parts, made⟩
      rw [condition, made]
      exact ⟨_, rfl⟩

theorem conditionOf_of_admitted
    {schema : Schema} {tree : Option (Node Cell)}
    (admitted : Admitted schema tree) :
    ∃ pieces, conditionOf schema tree = .ok pieces := by
  rcases admitted with ⟨value, depth, accepted⟩
  cases tree with
  | none =>
      exact ⟨[], rfl⟩
  | some node =>
      exact condition_of_wellFormed (wellFormed_of_acceptWithin rfl accepted)

end Node

end Filter

end TableSource
