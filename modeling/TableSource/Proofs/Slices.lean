import Mathlib.Algebra.Order.Floor.Div
import Mathlib.Data.List.Infix

/-!
# Slices of a list

Rows go on in slices of a length, to the database as to the endpoint.  The slices of a list follow
one another and leave nothing out, none is empty, and only the last one may be shorter.  So their
number is that of the length, rounded up.
-/

namespace TableSource

variable {α : Type} {length : ℕ} {items : List α} {slices : List (List α)}

/-- Consecutive slices that make up a list. -/
structure Sliced (length : ℕ) (items : List α) (slices : List (List α)) : Prop where
  whole : slices.flatten = items
  filled : ∀ slice ∈ slices, slice ≠ []
  full : ∀ slice ∈ slices.dropLast, slice.length = length
  bounded : ∀ slice ∈ slices, slice.length ≤ length

namespace Sliced

theorem nil (length : ℕ) :
    Sliced length ([] : List α) [] where
  whole := rfl
  filled := List.forall_mem_nil _
  full := List.forall_mem_nil _
  bounded := List.forall_mem_nil _

theorem eq_nil
    (sliced : Sliced length ([] : List α) slices) :
    slices = [] := by
  cases slices with
  | nil =>
      rfl
  | cons slice rest =>
      have empty : slice = [] := (List.append_eq_nil_iff.mp sliced.whole).1
      exact absurd empty (sliced.filled slice List.mem_cons_self)

/-- The slices of a list are its first items and the slices of the others. -/
theorem cons
    (positive : 0 < length) (filled : items ≠ [])
    (later : Sliced length (items.drop length) slices) :
    Sliced length items (items.take length :: slices) where
  whole := by
    rw [List.flatten_cons, later.whole, List.take_append_drop]
  filled := by
    rw [List.forall_mem_cons]
    refine ⟨?_, later.filled⟩
    rw [ne_eq, List.take_eq_nil_iff, not_or]
    exact ⟨Nat.ne_of_gt positive, filled⟩
  full := by
    cases slices with
    | nil =>
        exact List.forall_mem_nil _
    | cons next rest =>
        rw [List.dropLast_cons_cons, List.forall_mem_cons]
        refine ⟨?_, later.full⟩
        -- there are items behind the first ones, so these fill their slice
        have left : items.drop length ≠ [] := by
          intro none
          rw [none] at later
          cases later.eq_nil
        rw [ne_eq, List.drop_eq_nil_iff, not_le] at left
        exact List.length_take_of_le left.le
  bounded := by
    rw [List.forall_mem_cons]
    exact ⟨List.length_take_le _ _, later.bounded⟩

theorem tail
    {slice : List α}
    (sliced : Sliced length items (slice :: slices)) :
    Sliced length slices.flatten slices where
  whole := rfl
  filled := (List.forall_mem_cons.mp sliced.filled).2
  full := by
    cases slices with
    | nil =>
        exact List.forall_mem_nil _
    | cons next rest =>
        have full := sliced.full
        rw [List.dropLast_cons_cons, List.forall_mem_cons] at full
        exact full.2
  bounded := (List.forall_mem_cons.mp sliced.bounded).2

theorem length_eq
    (positive : 0 < length) (sliced : Sliced length items slices) :
    slices.length = items.length ⌈/⌉ length := by
  rw [Nat.ceilDiv_eq_add_pred_div]
  induction slices generalizing items with
  | nil =>
      rw [← sliced.whole]
      exact (Nat.div_eq_of_lt (by simpa using positive)).symm
  | cons slice rest induction =>
      have filled := List.length_pos_iff.mpr (sliced.filled slice List.mem_cons_self)
      have bounded := sliced.bounded slice List.mem_cons_self
      rw [← sliced.whole, List.flatten_cons, List.length_append, List.length_cons]
      cases rest with
      | nil =>
          -- the last slice has between one item and a whole slice of them
          have single : slice.length + length - 1 = slice.length - 1 + length := by omega
          have short : (slice.length - 1) / length = 0 := Nat.div_eq_of_lt (by omega)
          simp only [List.flatten_nil, List.length_nil, add_zero]
          rw [single, Nat.add_div_right _ positive, short]
      | cons next others =>
          have full : slice.length = length := sliced.full slice (by simp)
          have behind : length + (next :: others).flatten.length + length - 1 =
              (next :: others).flatten.length + length - 1 + length := by omega
          rw [induction sliced.tail, full, behind, Nat.add_div_right _ positive]

end Sliced

end TableSource
