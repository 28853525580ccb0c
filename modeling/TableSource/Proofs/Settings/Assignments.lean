import TableSource.Proofs.Text.Trimming
import TableSource.Settings.Environment

/-!
# Lines that set variables

A line sets a variable when it has an equals sign and is no comment.  The name stands in front of
the first sign and the value behind it, each with blanks around.  Lines give a variable the value of
the last one that sets it, so what a file gives is found by looking through its lines backwards.
-/

namespace TableSource

namespace Environment

/-! ## One line -/

/-- A line sets a variable to a value: they stand on the two sides of its first equals sign, with
blanks around, and the line is no comment. -/
inductive Assigns : String → String → String → Prop where
  | intro {left right : String}
      (first : '=' ∉ left.toList)
      (plain : (left.toList.dropWhile Text.isBlank).head? ≠ some '#') :
      Assigns (left ++ "=" ++ right) (Text.trim left) (Text.trim right)

theorem ofLine?_of_first
    {left : String}
    (first : '=' ∉ left.toList) (right : String) :
    ofLine? (left ++ "=" ++ right) =
      if (left.toList.dropWhile Text.isBlank).head? = some '#' then none
      else some (Text.trim left, Text.trim right) := by
  have listed : (left ++ "=" ++ right).toList = left.toList ++ '=' :: right.toList := by
    simp
  have name : Text.trim (String.ofList (left.toList.dropWhile Text.isBlank)) = Text.trim left := by
    rw [Text.trim, Text.trimChars, String.toList_ofList, Text.dropEnds_dropWhile]
    rfl
  have value :
      Text.trim (String.ofList (right.toList.rdropWhile Text.isBlank)) = Text.trim right := by
    rw [Text.trim, Text.trimChars, String.toList_ofList, Text.dropEnds_rdropWhile]
    rfl
  have before : ∀ c ∈ left.toList.dropWhile Text.isBlank, (c != '=') = true := by
    intro c member
    have kept : c ∈ left.toList := (List.dropWhile_sublist _).mem member
    simpa using ne_of_mem_of_not_mem kept first
  rw [ofLine?, listed, Text.trimChars, Text.dropEnds_append_cons (by decide)]
  simp only [List.takeWhile_append_of_pos before, List.dropWhile_append_of_pos before]
  -- the sign is no hash, so a comment begins in front of it
  cases begun : left.toList.dropWhile Text.isBlank with
  | nil =>
      simp [← name, ← value, begun]
  | cons c rest =>
      simp [← name, ← value, begun]

theorem ofLine?_eq_some_iff {line name value : String} :
    ofLine? line = some (name, value) ↔ Assigns line name value := by
  constructor
  · intro read
    have sign : '=' ∈ line.toList := by
      by_contra absent
      have gone : '=' ∉ Text.trimChars line.toList :=
        fun member => absent (Text.mem_of_mem_dropEnds member)
      simp [ofLine?, gone] at read
    rcases List.eq_append_cons_of_mem sign with ⟨left, right, parted, first⟩
    have whole : line = String.ofList left ++ "=" ++ String.ofList right := by
      rw [← String.toList_inj, parted]
      simp
    rw [whole, ofLine?_of_first (by simpa using first)] at read
    split at read
    · cases read
    · next plain =>
        cases read
        rw [whole]
        exact .intro (by simpa using first) plain
  · rintro ⟨first, plain⟩
    rw [ofLine?_of_first first, if_neg plain]

instance (line name value : String) : Decidable (Assigns line name value) :=
  decidable_of_iff _ ofLine?_eq_some_iff

/-- Only the first sign parts a line. -/
example : Assigns " DB_PASSWORD = a=b " "DB_PASSWORD" "a=b" := by
  decide

/-! ## Several lines -/

/-- What lines give a variable: the value of the last line that sets it, and nothing where none
does. -/
inductive Gives (lines : List String) (name : String) : Option String → Prop where
  | last {before after : List String} {line value : String}
      (parted : lines = before ++ line :: after)
      (sets : Assigns line name value)
      (later : ∀ other ∈ after, ∀ changed, ¬ Assigns other name changed) :
      Gives lines name (some value)
  | nothing
      (never : ∀ line ∈ lines, ∀ value, ¬ Assigns line name value) :
      Gives lines name none

/-- The variables that lines set, those of the last line first. -/
def assignments (lines : List String) : Environment :=
  (lines.filterMap ofLine?).reverse

theorem not_assigns_of_other
    {line name : String}
    (other : (ofLine? line).any (·.1 == name) = false) (value : String) :
    ¬ Assigns line name value := by
  intro sets
  rw [← ofLine?_eq_some_iff] at sets
  simp [sets] at other

theorem gives_assignments (lines : List String) (name : String) :
    Gives lines name (get? (assignments lines) name) := by
  rw [get?, assignments, ← List.filterMap_reverse, List.find?_filterMap]
  cases found : lines.reverse.find? fun line => (ofLine? line).any (·.1 == name) with
  | none =>
      refine .nothing fun line member => not_assigns_of_other ?_
      simpa using List.find?_eq_none.mp found line (List.mem_reverse.mpr member)
  | some line =>
      rcases List.find?_eq_some_iff_append.mp found with ⟨named, after, before, parted, others⟩
      cases read : ofLine? line with
      | none =>
          simp [read] at named
      | some entry =>
          have same : entry.1 = name := by
            simpa [read] using named
          subst same
          rw [Option.bind_some, read, Option.map_some]
          -- what is found first from the end is followed by none of its kind
          have turned : lines = before.reverse ++ line :: after.reverse := by
            rw [← List.reverse_reverse lines, parted, List.reverse_append, List.reverse_cons,
              List.append_assoc, List.singleton_append]
          refine .last turned (ofLine?_eq_some_iff.mp read) fun other member => ?_
          exact not_assigns_of_other (by simpa using others other (List.mem_reverse.mp member))

end Environment

end TableSource
