import TableSource.Proofs.Filter.FixedPoint
import TableSource.Proofs.Statement.Existence
import TableSource.Proofs.Statement.Shape

/-!
# Statements do not depend on values

Two admitted filters of one shape give statements with the same text and the same number of
parameters, whatever their values are.  The same holds of numbers of rows that are both asked for,
of starting texts that are both given, and of inserted rows of the same lengths.  So no value can
be written in such a way that it becomes a part of a statement.

Every statement is its condition put into a frame.  It is enough to see that the frames do not
look into the condition beyond its blank form.
-/

namespace TableSource

open Filter

variable {α : Type}

/-! ## Frames -/

namespace Statement

/-- A statement without the values at its places. -/
def blank (statement : Statement α) : Statement Unit :=
  { pieces := statement.pieces.map Piece.blank }

theorem sql_of_blank
    {first second : Statement α}
    (same : first.blank = second.blank) :
    first.sql = second.sql := by
  have pieces : first.pieces.map Piece.blank = second.pieces.map Piece.blank :=
    congrArg Statement.pieces same
  calc first.sql
      = Piece.text 0 (first.pieces.map Piece.blank) := (Piece.text_blank 0 _).symm
    _ = Piece.text 0 (second.pieces.map Piece.blank) := by rw [pieces]
    _ = second.sql := Piece.text_blank 0 _

theorem length_params_of_blank
    {first second : Statement α}
    (same : first.blank = second.blank) :
    first.params.length = second.params.length := by
  have pieces : first.pieces.map Piece.blank = second.pieces.map Piece.blank :=
    congrArg Statement.pieces same
  calc first.params.length
      = (Piece.bounds (first.pieces.map Piece.blank)).length := (Piece.length_bounds_blank _).symm
    _ = (Piece.bounds (second.pieces.map Piece.blank)).length := by rw [pieces]
    _ = second.params.length := Piece.length_bounds_blank _

theorem isEmpty_of_blank
    {first second : List (Piece α)}
    (same : first.map Piece.blank = second.map Piece.blank) :
    first.isEmpty = second.isEmpty := by
  have lengths := congrArg List.length same
  rw [List.length_map, List.length_map] at lengths
  rw [Bool.eq_iff_iff, List.isEmpty_iff_length_eq_zero, List.isEmpty_iff_length_eq_zero, lengths]

@[simp]
theorem clause_blank
    (words : String) (content : List (Piece α)) :
    (clause words content).map Piece.blank = clause words (content.map Piece.blank) := by
  simp only [clause]
  rw [List.isEmpty_map]
  split <;> simp

/-- Frames that agree on conditions with one blank form give statements with one blank form. -/
theorem blank_of_frames
    {first second : Except StatementError (List (Piece α))}
    {frame frame' : List (Piece α) → Statement α}
    (same : blankResult first = blankResult second)
    (agree : ∀ condition condition',
      condition.map Piece.blank = condition'.map Piece.blank →
        (frame condition).blank = (frame' condition').blank) :
    (first.map frame).map blank = (second.map frame').map blank := by
  cases first with
  | error failure =>
      cases second with
      | error other =>
          cases same
          rfl
      | ok pieces =>
          cases same
  | ok pieces =>
      cases second with
      | error other =>
          cases same
      | ok others =>
          exact congrArg Except.ok (agree pieces others (Except.ok.inj same))

/-! ## Clauses with numbers of rows -/

/-- Whether a clause asks for a number of rows. -/
def asks (rows : Option Int) : Bool :=
  rows.any fun rows => decide (0 < rows)

theorem rowsClause_blank (words : String) (rows : Option Int) :
    (rowsClause words rows : List (Piece α)).map Piece.blank =
      if asks rows then [.words words, .place (.value ())] else [] := by
  cases rows with
  | none =>
      rfl
  | some rows =>
      by_cases positive : 0 < rows <;> simp [rowsClause, asks, positive]

end Statement

/-- Two pages that ask for rows in the same order, and for numbers of rows at the same places. -/
structure Page.Alike (first second : Page) : Prop where
  order : first.order = second.order
  descending : first.descending = second.descending
  limit : Statement.asks first.limit = Statement.asks second.limit
  skip : Statement.asks first.skip = Statement.asks second.skip

namespace Statement

/-! ## The statements -/

theorem count_blank
    {schema : Schema} {left right : Option (Node α)}
    (table : String)
    (same : left.map Node.shape = right.map Node.shape) :
    (count schema table left).map blank = (count schema table right).map blank := by
  refine blank_of_frames (Node.conditionOf_of_same_shape same) fun condition condition' pieces => ?_
  simp [blank, pieces]

theorem orderClause_blank
    {first second : Page}
    (alike : first.Alike second) :
    (orderClause first : List (Piece α)).map Piece.blank =
      (orderClause second : List (Piece α)).map Piece.blank := by
  rw [orderClause, orderClause, alike.order, alike.descending]

theorem select_blank
    {schema : Schema} {left right : Option (Node α)} {first second : Page}
    (table : String) (features : List Feature)
    (same : left.map Node.shape = right.map Node.shape)
    (alike : first.Alike second) :
    (select schema table left features first).map blank =
      (select schema table right features second).map blank := by
  refine blank_of_frames (Node.conditionOf_of_same_shape same) fun condition condition' pieces => ?_
  simp [blank, pieces, rowsClause_blank, orderClause_blank alike, alike.limit, alike.skip]

theorem startCondition_blank
    {start start' : String}
    (column : String)
    (both : start = "" ↔ start' = "") :
    (startCondition column start : List (List (Piece α))).map (List.map Piece.blank) =
      (startCondition column start' : List (List (Piece α))).map (List.map Piece.blank) := by
  have empty : start.isEmpty = start'.isEmpty := by
    rw [Bool.eq_iff_iff, String.isEmpty_iff, String.isEmpty_iff]
    exact both
  simp only [startCondition]
  rw [empty]
  split <;> rfl

theorem distinct_blank
    {schema : Schema} {left right : Option (Node α)} {start start' : String}
    (table : String) (feature : Feature)
    (same : left.map Node.shape = right.map Node.shape)
    (both : start = "" ↔ start' = "") :
    (distinct schema table left feature start).map blank =
      (distinct schema table right feature start').map blank := by
  simp only [distinct]
  split
  · rfl
  · refine blank_of_frames (Node.conditionOf_of_same_shape same)
      fun condition condition' pieces => ?_
    have filtered :
        (if condition.isEmpty then [] else [condition]).map (List.map Piece.blank) =
          (if condition'.isEmpty then [] else [condition']).map (List.map Piece.blank) := by
      rw [isEmpty_of_blank pieces]
      split <;> simp [pieces]
    simp only [blank, List.map_append, clause_blank, Piece.separate_blank, filtered,
      startCondition_blank feature.name both]

theorem insertedRow_blank
    {row row' : List α}
    (lengths : row.length = row'.length) :
    (insertedRow row).map Piece.blank = (insertedRow row').map Piece.blank := by
  simp [insertedRow, Piece.listPlaces_blank, Function.comp_def, List.map_const', lengths]

theorem insert_blank
    {rows rows' : List (List α)}
    (schema : Schema) (table : String)
    (lengths : rows.map List.length = rows'.map List.length) :
    (insert schema table rows).blank = (insert schema table rows').blank := by
  have inserted : (rows.map insertedRow).map (List.map Piece.blank) =
      (rows'.map insertedRow).map (List.map Piece.blank) := by
    induction rows generalizing rows' with
    | nil =>
        cases rows' with
        | nil => rfl
        | cons row' rest' => cases lengths
    | cons row rest induction =>
        cases rows' with
        | nil => cases lengths
        | cons row' rest' =>
            rcases List.cons.inj lengths with ⟨first, others⟩
            simp only [List.map_cons, List.cons.injEq]
            exact ⟨insertedRow_blank first, induction others⟩
  simp only [insert, blank, List.map_append, Piece.separate_blank, inserted]

/-! ## Texts without values -/

/-- Two statements are both made, with one text and with one number of parameters. -/
def Agree (first second : Except StatementError (Statement α)) : Prop :=
  ∃ left right, first = .ok left ∧ second = .ok right ∧
    left.sql = right.sql ∧ left.params.length = right.params.length

theorem agree_of_blank
    {first second : Except StatementError (Statement α)}
    (made : ∃ left, first = .ok left)
    (same : first.map blank = second.map blank) :
    Agree first second := by
  rcases made with ⟨left, rfl⟩
  cases second with
  | error failure =>
      cases same
  | ok right =>
      have blanks : left.blank = right.blank := Except.ok.inj same
      exact ⟨left, right, rfl, rfl, sql_of_blank blanks, length_params_of_blank blanks⟩

/-- A statement whose condition is made is made. -/
theorem made_of_admitted
    {schema : Schema} {tree : Option (Node Cell)}
    (admitted : Admitted schema tree)
    (frame : List (Piece Cell) → Statement Cell) :
    ∃ statement, (Node.conditionOf schema tree).map frame = .ok statement := by
  rcases Node.conditionOf_of_admitted admitted with ⟨pieces, made⟩
  exact ⟨frame pieces, by rw [made]; rfl⟩

/-- The condition itself, with placeholders numbered from any number on. -/
theorem condition_agrees
    {schema : Schema} {left right : Option (Node Cell)}
    (leftAdmitted : Admitted schema left)
    (rightAdmitted : Admitted schema right)
    (same : left.map Node.shape = right.map Node.shape) :
    ∃ first second, Node.conditionOf schema left = .ok first ∧
      Node.conditionOf schema right = .ok second ∧
      (∀ before, Piece.text before first = Piece.text before second) ∧
      (Piece.bounds first).length = (Piece.bounds second).length := by
  rcases Node.conditionOf_of_admitted leftAdmitted with ⟨first, leftMade⟩
  rcases Node.conditionOf_of_admitted rightAdmitted with ⟨second, rightMade⟩
  have results : blankResult (Node.conditionOf schema left) =
      blankResult (Node.conditionOf schema right) := Node.conditionOf_of_same_shape same
  rw [leftMade, rightMade] at results
  have pieces : first.map Piece.blank = second.map Piece.blank := Except.ok.inj results
  refine ⟨first, second, leftMade, rightMade, ?_, ?_⟩
  · intro before
    rw [← Piece.text_blank, pieces, Piece.text_blank]
  · rw [← Piece.length_bounds_blank, pieces, Piece.length_bounds_blank]

/-- What a statement says does not depend on the values of its filter, on how many rows it asks
for, on the start of a text that it looks for, or on the values of the rows that it inserts. -/
theorem text_independent_of_values
    {schema : Schema} {left right : Option (Node Cell)} (table : String)
    (leftAdmitted : Admitted schema left)
    (rightAdmitted : Admitted schema right)
    (same : left.map Node.shape = right.map Node.shape) :
    (∃ first second, Node.conditionOf schema left = .ok first ∧
      Node.conditionOf schema right = .ok second ∧
      (∀ before, Piece.text before first = Piece.text before second) ∧
      (Piece.bounds first).length = (Piece.bounds second).length) ∧
    Agree (count schema table left) (count schema table right) ∧
    (∀ features first second, Page.Alike first second →
      Agree (select schema table left features first) (select schema table right features second)) ∧
    (∀ feature start start', feature.type = .nominal → (start = "" ↔ start' = "") →
      Agree (distinct schema table left feature start)
        (distinct schema table right feature start')) ∧
    ∀ (β : Type) (rows rows' : List (List β)), rows.map List.length = rows'.map List.length →
      (insert schema table rows).sql = (insert schema table rows').sql ∧
        (insert schema table rows).params.length = (insert schema table rows').params.length := by
  refine ⟨condition_agrees leftAdmitted rightAdmitted same, ?_, ?_, ?_, ?_⟩
  · exact agree_of_blank (made_of_admitted leftAdmitted _) (count_blank table same)
  · intro features first second alike
    exact agree_of_blank (made_of_admitted leftAdmitted _) (select_blank table features same alike)
  · intro feature start start' nominal both
    have made : ∃ statement, distinct schema table left feature start = .ok statement := by
      rw [distinct, if_neg (not_not_intro nominal)]
      exact made_of_admitted leftAdmitted _
    exact agree_of_blank made (distinct_blank table feature same both)
  · intro β rows rows' lengths
    have blanks := insert_blank schema table lengths
    exact ⟨sql_of_blank blanks, length_params_of_blank blanks⟩

/-- Things of one of two kinds that contain a text. -/
def searchFilter (kind other part : String) : Node Cell :=
  .group .all [.leaf 1 (.among [.text kind, .text other]), .leaf 1 (.contains part)]

theorem admitted_searchFilter
    (kind other : String) {part : String}
    (filled : part ≠ "") :
    Admitted datedThings (some (searchFilter kind other part)) := by
  have kinds : WellFormed datedThings 1 (.leaf 1 (.among [.text kind, .text other])) := by
    apply WellFormed.leaf rfl
    refine ⟨rfl, show 1 ≤ 2 by decide, show 2 ≤ maxListed by decide, ?_⟩
    rw [List.forall_mem_cons, List.forall_mem_singleton]
    exact ⟨rfl, rfl⟩
  have parts : WellFormed datedThings 1 (.leaf 1 (.contains part)) :=
    .leaf rfl ⟨rfl, filled⟩
  refine ⟨_, 0, accept_toRaw ?_⟩
  apply WellFormed.group (.inl rfl) (by decide) (by simp)
  rw [List.forall_mem_cons, List.forall_mem_singleton]
  exact ⟨kinds, parts⟩

theorem text_independent_of_hostile_values :
    let plain := some (searchFilter "old" "new" "a")
    let hostile := some (searchFilter "$1" "x\" OR TRUE; --" "%_\\")
    Admitted datedThings plain ∧ Admitted datedThings hostile ∧
      plain.map Node.shape = hostile.map Node.shape ∧
      Agree (count datedThings "things" plain) (count datedThings "things" hostile) ∧
      Agree (select datedThings "things" plain datedThings.features ⟨none, false, some 0, some 5⟩)
        (select datedThings "things" hostile datedThings.features ⟨none, false, none, some 70⟩) ∧
      Agree (distinct datedThings "things" plain ⟨1, "kind", .nominal⟩ "o")
        (distinct datedThings "things" hostile ⟨1, "kind", .nominal⟩ "\"") ∧
      (insert datedThings "things" [["a", "b"]]).sql =
        (insert datedThings "things" [["\")", "; --"]]).sql := by
  intro plain hostile
  have plainAdmitted := admitted_searchFilter "old" "new" (show "a" ≠ "" by decide)
  have hostileAdmitted :=
    admitted_searchFilter "$1" "x\" OR TRUE; --" (show "%_\\" ≠ "" by decide)
  have same : plain.map Node.shape = hostile.map Node.shape := rfl
  obtain ⟨-, counted, selected, looked, inserted⟩ :=
    text_independent_of_values "things" plainAdmitted hostileAdmitted same
  exact ⟨plainAdmitted, hostileAdmitted, same, counted, selected _ _ _ ⟨rfl, rfl, rfl, rfl⟩,
    looked _ _ _ rfl (by decide), (inserted String _ _ rfl).1⟩

end Statement

end TableSource
