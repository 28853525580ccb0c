import Mathlib.Data.List.DropRight
import TableSource.Text.Blank

/-!
# Dropping at the ends of a text

Dropping at the ends takes away the longest two parts, one at the beginning and one at the end,
whose characters all satisfy a condition.  Whether some of these are missing already makes no
difference, and a character that stays keeps the two ends apart: each side loses its own.
-/

namespace TableSource.Text

section Ends

variable {condition : Char → Bool}

/-! ## What is dropped -/

theorem exists_dropEnds (condition : Char → Bool) (cs : List Char) :
    ∃ before after,
      cs = before ++ (dropEnds condition cs ++ after) ∧
      (∀ c ∈ before, condition c = true) ∧
      ∀ c ∈ after, condition c = true := by
  let behind := cs.dropWhile condition
  refine ⟨cs.takeWhile condition, (behind.reverse.takeWhile condition).reverse, ?_, ?_, ?_⟩
  · rw [dropEnds, ← List.reverse_append, List.takeWhile_append_dropWhile, List.reverse_reverse,
      List.takeWhile_append_dropWhile]
  · exact fun c member => List.mem_takeWhile_imp member
  · exact fun c member => List.mem_takeWhile_imp (List.mem_reverse.mp member)

theorem mem_of_mem_dropEnds
    {c : Char} {cs : List Char}
    (member : c ∈ dropEnds condition cs) :
    c ∈ cs :=
  (List.dropWhile_suffix condition).subset ((List.rdropWhile_prefix condition _).subset member)

theorem dropEnds_dropWhile (cs : List Char) :
    dropEnds condition (cs.dropWhile condition) = dropEnds condition cs := by
  rw [dropEnds, List.dropWhile_idempotent, dropEnds]

theorem dropEnds_concat
    {last : Char}
    (drops : condition last = true) (cs : List Char) :
    dropEnds condition (cs ++ [last]) = dropEnds condition cs := by
  rw [dropEnds, dropEnds, List.dropWhile_append]
  split
  · next gone =>
      rw [List.isEmpty_iff.mp gone, List.dropWhile_cons_of_pos drops]
      rfl
  · rw [List.reverse_append, List.reverse_singleton, List.singleton_append,
      List.dropWhile_cons_of_pos drops]

theorem dropEnds_append_of_drops
    {after : List Char}
    (drops : ∀ c ∈ after, condition c = true) (cs : List Char) :
    dropEnds condition (cs ++ after) = dropEnds condition cs := by
  induction after using List.reverseRecOn with
  | nil =>
      rw [List.append_nil]
  | append_singleton after last induction =>
      rw [List.forall_mem_append, List.forall_mem_singleton] at drops
      rw [← List.append_assoc, dropEnds_concat drops.2, induction drops.1]

theorem dropEnds_rdropWhile (cs : List Char) :
    dropEnds condition (cs.rdropWhile condition) = dropEnds condition cs := by
  induction cs using List.reverseRecOn with
  | nil =>
      rfl
  | append_singleton cs last induction =>
      by_cases drops : condition last = true
      · rw [List.rdropWhile_concat_pos _ _ _ drops, induction, dropEnds_concat drops]
      · rw [List.rdropWhile_concat_neg _ _ _ drops]

theorem dropEnds_dropEnds (condition : Char → Bool) (cs : List Char) :
    dropEnds condition (dropEnds condition cs) = dropEnds condition cs :=
  (dropEnds_rdropWhile (cs.dropWhile condition)).trans (dropEnds_dropWhile cs)

/-! ## What stays -/

theorem dropWhile_append_cons
    {middle : Char}
    (stays : condition middle = false) (before after : List Char) :
    (before ++ middle :: after).dropWhile condition =
      before.dropWhile condition ++ middle :: after := by
  rw [List.dropWhile_append, List.dropWhile_cons_of_neg (by simp [stays])]
  split
  · next gone =>
      rw [List.isEmpty_iff.mp gone, List.nil_append]
  · rfl

/-- Each side of a character that stays loses its own end. -/
theorem dropEnds_append_cons
    {middle : Char}
    (stays : condition middle = false) (before after : List Char) :
    dropEnds condition (before ++ middle :: after) =
      before.dropWhile condition ++ middle :: after.rdropWhile condition := by
  have turned (front : List Char) :
      (front ++ middle :: after).reverse = after.reverse ++ middle :: front.reverse := by
    rw [List.reverse_append, List.reverse_cons, List.append_assoc, List.singleton_append]
  rw [dropEnds, dropWhile_append_cons stays, turned, dropWhile_append_cons stays,
    List.reverse_append, List.reverse_cons, List.reverse_reverse, List.append_assoc,
    List.singleton_append]
  rfl

/-- Nothing is dropped at the ends of a list that has no such character there. -/
theorem dropEnds_of_ends
    {first last : Char} {rest : List Char}
    (ends : (first :: rest).getLast? = some last)
    (firstStays : condition first = false)
    (lastStays : condition last = false) :
    dropEnds condition (first :: rest) = first :: rest := by
  rcases List.getLast?_eq_some_iff.mp ends with ⟨middle, same⟩
  have reversed : (first :: rest).reverse = last :: middle.reverse := by
    rw [same, List.reverse_concat]
  rw [dropEnds, List.dropWhile_cons_of_neg (by simp [firstStays]), reversed,
    List.dropWhile_cons_of_neg (by simp [lastStays]), ← reversed, List.reverse_reverse]

/-- What is dropped ends where something stays. -/
theorem dropEnds_append
    {before core after : List Char} {first last : Char}
    (dropsBefore : ∀ c ∈ before, condition c = true)
    (dropsAfter : ∀ c ∈ after, condition c = true)
    (begins : core.head? = some first) (firstStays : condition first = false)
    (ends : core.getLast? = some last) (lastStays : condition last = false) :
    dropEnds condition (before ++ (core ++ after)) = core := by
  cases core with
  | nil =>
      cases begins
  | cons c rest =>
      cases begins
      rw [← List.append_assoc, dropEnds_append_of_drops dropsAfter, dropEnds,
        List.dropWhile_append_of_pos dropsBefore, ← dropEnds,
        dropEnds_of_ends ends firstStays lastStays]

end Ends

/-! ## Blanks -/

theorem trimChars_eq_self
    {cs : List Char}
    (filled : ∀ c ∈ cs, isBlank c = false) :
    trimChars cs = cs := by
  cases cs with
  | nil =>
      rfl
  | cons first rest =>
      have ends := List.getLast?_eq_some_getLast (List.cons_ne_nil first rest)
      exact dropEnds_of_ends ends (filled first List.mem_cons_self)
        (filled _ (List.getLast_mem (List.cons_ne_nil first rest)))

theorem trim_trim (text : String) :
    trim (trim text) = trim text := by
  simp [trim, trimChars, dropEnds_dropEnds]

end TableSource.Text
