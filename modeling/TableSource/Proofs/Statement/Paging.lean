import TableSource.Proofs.Statement.Independence
import TableSource.Proofs.Statement.Places

/-!
# Clauses with numbers of rows

A selection limits the rows behind everything else, and skips rows behind that.  No other part of
it begins such a clause, whatever its filter is.  So a selection has the clause exactly when a
positive number of rows is asked for, and binds that number behind the values of the filter, the
limit before the offset.
-/

namespace TableSource

open Filter Sql

variable {α β : Type}

/-! ## Words that begin a clause -/

/-- Whether a token begins a clause with a number of rows. -/
def Sql.Token.isPaging : Token → Bool
  | .word written => written == "LIMIT" || written == "OFFSET"
  | _ => false

namespace Piece

/-- Whether no words of a piece begin a clause with a number of rows. -/
def isUnpaged : Piece α → Bool
  | .words fixed => ((lex? fixed).getD []).all fun token => !token.isPaging
  | _ => true

def Unpaged (pieces : List (Piece α)) : Prop :=
  ∀ piece ∈ pieces, piece.isUnpaged = true

theorem unpaged_of_all
    {pieces : List (Piece α)}
    (all : pieces.all isUnpaged = true) :
    Unpaged pieces :=
  List.all_eq_true.mp all

theorem Unpaged.tokens
    {pieces : List (Piece α)}
    (unpaged : Unpaged pieces) (before : ℕ) :
    ∀ token ∈ numbered tokens before pieces, token.isPaging = false := by
  induction pieces generalizing before with
  | nil =>
      exact List.forall_mem_nil _
  | cons piece rest induction =>
      rw [Unpaged, List.forall_mem_cons] at unpaged
      rw [numbered, List.forall_mem_append]
      refine ⟨?_, induction unpaged.2 _⟩
      cases piece with
      | words fixed =>
          simpa [Piece.tokens, isUnpaged] using unpaged.1
      | name quoted =>
          exact List.forall_mem_singleton.mpr rfl
      | place bound =>
          exact List.forall_mem_singleton.mpr rfl

theorem Unpaged.append
    {front back : List (Piece α)}
    (first : Unpaged front) (second : Unpaged back) :
    Unpaged (front ++ back) :=
  List.forall_mem_append.mpr ⟨first, second⟩

theorem Unpaged.separate
    {parts : List (List (Piece α))} {separator : String}
    (each : ∀ part ∈ parts, Unpaged part)
    (between : (.words separator : Piece α).isUnpaged = true) :
    Unpaged (separate separator parts) := by
  cases parts with
  | nil =>
      exact List.forall_mem_nil _
  | cons part rest =>
      rw [List.forall_mem_cons] at each
      apply each.1.append
      intro piece member
      rcases List.mem_flatMap.mp member with ⟨next, inside, later⟩
      rcases List.mem_cons.mp later with rfl | further
      · exact between
      · exact each.2 next inside piece further

theorem unpaged_listNames (names : List String) :
    Unpaged (listNames names : List (Piece α)) := by
  apply Unpaged.separate _ rfl
  intro part member
  rcases List.mem_map.mp member with ⟨name, -, rfl⟩
  exact List.forall_mem_singleton.mpr rfl

theorem unpaged_listPlaces (given : List (Bound α)) :
    Unpaged (listPlaces given) := by
  apply Unpaged.separate _ rfl
  intro part member
  rcases List.mem_map.mp member with ⟨bound, -, rfl⟩
  exact List.forall_mem_singleton.mpr rfl

theorem Unpaged.clause
    {content : List (Piece α)} {fixed : String}
    (words : (.words fixed : Piece α).isUnpaged = true) (unpaged : Unpaged content) :
    Unpaged (Statement.clause fixed content) := by
  rw [Statement.clause]
  split
  · exact List.forall_mem_nil _
  · exact List.forall_mem_cons.mpr ⟨words, unpaged⟩

end Piece

/-! ## Conditions -/

namespace Filter

theorem Test.unpaged_condition
    {column : String} {test : Test α} {pieces : List (Piece α)}
    (made : test.condition column = .ok pieces) :
    Piece.Unpaged pieces := by
  cases test with
  | compare comparison value =>
      cases made
      cases comparison <;> exact Piece.unpaged_of_all rfl
  | among values =>
      cases made
      have opening : Piece.Unpaged [.name column, (.words " IN (" : Piece α)] :=
        Piece.unpaged_of_all rfl
      have closing : Piece.Unpaged [(.words ")" : Piece α)] := Piece.unpaged_of_all rfl
      exact (opening.append (Piece.unpaged_listPlaces _)).append closing
  | unknown name =>
      cases made
  | _ =>
      cases made
      exact Piece.unpaged_of_all rfl

/-- The words of a condition are connectives, and those of its tests. -/
theorem Node.unpaged_condition
    {schema : Schema} {depth : Int} {node : Node Cell}
    (wellFormed : WellFormed schema depth node) {pieces : List (Piece Cell)}
    (made : node.condition schema = .ok pieces) :
    Piece.Unpaged pieces := by
  induction wellFormed generalizing pieces with
  | @leaf depth index feature test found fits =>
      rw [condition, found] at made
      exact Test.unpaged_condition made
  | @group depth connective children known _ _ _ induction =>
      rw [condition] at made
      rcases map_eq_ok_iff.mp made with ⟨parts, madeParts, rfl⟩
      have between : (.words (" " ++ connective.word ++ " ") : Piece Cell).isUnpaged = true := by
        rcases known with rfl | rfl <;> rfl
      have each : ∀ part ∈ parts, Piece.Unpaged part := by
        intro part inside
        rcases exists_of_mem_conditions madeParts inside with ⟨child, member, madeChild⟩
        exact induction child member madeChild
      have opening : Piece.Unpaged [(.words "(" : Piece Cell)] := Piece.unpaged_of_all rfl
      have closing : Piece.Unpaged [(.words ")" : Piece Cell)] := Piece.unpaged_of_all rfl
      exact (opening.append (Piece.Unpaged.separate each between)).append closing

theorem unpaged_conditionOf
    {schema : Schema} {tree : Option (Node Cell)} {pieces : List (Piece Cell)}
    (admitted : Admitted schema tree) (made : Node.conditionOf schema tree = .ok pieces) :
    Piece.Unpaged pieces := by
  rcases admitted with ⟨value, depth, accepted⟩
  cases tree with
  | none =>
      cases made
      exact Piece.unpaged_of_all rfl
  | some node =>
      exact Node.unpaged_condition (wellFormed_of_acceptWithin rfl accepted) made

end Filter

/-! ## Statements -/

/-- The same order, and all rows. -/
def Page.unpaged (page : Page) : Page :=
  { page with skip := none, limit := none }

namespace Statement

/-- A statement says the same whatever its values are replaced by. -/
theorem sql_map (f : α → β) (statement : Statement α) :
    (statement.map f).sql = statement.sql := by
  have blank : (statement.pieces.map (Piece.map f)).map Piece.blank =
      statement.pieces.map Piece.blank := by
    rw [List.map_map]
    apply List.map_congr_left
    intro piece _
    cases piece <;> rfl
  calc (statement.map f).sql
      = Piece.text 0 ((statement.pieces.map (Piece.map f)).map Piece.blank) :=
        (Piece.text_blank 0 _).symm
    _ = Piece.text 0 (statement.pieces.map Piece.blank) := by rw [blank]
    _ = statement.sql := Piece.text_blank 0 _

/-- The tokens of a clause with a number of rows, if there is one. -/
def rowsTokens (word : String) (number : ℕ) (rows : Option ℤ) : List Token :=
  rows.elim [] fun _ => [.word word, .place number]

theorem numbered_rowsClause
    {fixed word : String} (read : lex? fixed = some [.word word]) (before : ℕ) (rows : Option ℤ) :
    Piece.numbered Piece.tokens before (rowsClause fixed rows : List (Piece α)) =
      rowsTokens word (before + 1) (rows.filter (0 < ·)) := by
  cases rows with
  | none =>
      rfl
  | some count =>
      by_cases positive : 0 < count
      · simp [rowsClause, Option.filter, positive, rowsTokens, Piece.numbered, Piece.tokens, read]
      · simp [rowsClause, Option.filter, positive, rowsTokens, Piece.numbered]

/-- A statement that is another one without clauses for numbers of rows, and behind it a clause for
each of two numbers that is given: the one that limits the rows, and the one that skips some. -/
structure Paged (limit skip : Option ℤ) (unpaged paged : Statement α) : Prop where
  supplied : paged.params = unpaged.params ++ (limit.toList ++ skip.toList).map .count
  read : ∃ tokens, lex? unpaged.sql = some tokens ∧
    (∀ token ∈ tokens, token.isPaging = false) ∧
    lex? paged.sql = some (tokens ++ rowsTokens "LIMIT" (unpaged.params.length + 1) limit ++
      rowsTokens "OFFSET" paged.params.length skip)

theorem Paged.map
    {limit skip : Option ℤ} {unpaged paged : Statement α}
    (pages : Paged limit skip unpaged paged) (f : α → β) :
    Paged limit skip (unpaged.map f) (paged.map f) := by
  have mapped (statement : Statement α) :
      (statement.map f).params = statement.params.map (.map f) :=
    Piece.bounds_map f statement.pieces
  have size (statement : Statement α) :
      (statement.map f).params.length = statement.params.length := by
    rw [mapped, List.length_map]
  constructor
  · have counts : (limit.toList ++ skip.toList).map (Bound.map f ∘ .count) =
        (limit.toList ++ skip.toList).map .count := rfl
    rw [mapped, mapped, pages.supplied, List.map_append, List.map_map, counts]
  · rw [sql_map, sql_map, size, size]
    exact pages.read

section Select

variable {schema : Schema} {table : String} {condition : List (Piece Cell)}
  {features : List Feature} {page : Page}

theorem unpaged_orderClause (page : Page) :
    Piece.Unpaged (orderClause page : List (Piece α)) := by
  rw [orderClause]
  split
  · cases page.descending <;> exact Piece.unpaged_of_all rfl
  · exact Piece.unpaged_of_all rfl

/-- The pieces of a selection of all rows. -/
def allRows (table : String) (condition : List (Piece Cell)) (features : List Feature)
    (page : Page) : List (Piece Cell) :=
  [.words "SELECT "] ++ Piece.listNames (features.map (·.name)) ++
    [.words " FROM ", .name table] ++ clause " WHERE " condition ++ orderClause page

theorem unpaged_allRows
    (filtered : Piece.Unpaged condition) :
    Piece.Unpaged (allRows table condition features page) := by
  have opening : Piece.Unpaged [(.words "SELECT " : Piece Cell)] := Piece.unpaged_of_all rfl
  have source : Piece.Unpaged [(.words " FROM " : Piece Cell), .name table] :=
    Piece.unpaged_of_all rfl
  have columns := opening.append (Piece.unpaged_listNames (features.map (·.name)))
  exact ((columns.append source).append (filtered.clause rfl)).append (unpaged_orderClause page)

/-- Without numbers of rows, both clauses are left out. -/
theorem select_unpaged
    {tree : Option (Node Cell)}
    (made : Node.conditionOf schema tree = .ok condition) :
    select schema table tree features page.unpaged =
      .ok ⟨allRows table condition features page⟩ := by
  have limited : (rowsClause " LIMIT " page.unpaged.limit : List (Piece Cell)) = [] := rfl
  have skipped : (rowsClause " OFFSET " page.unpaged.skip : List (Piece Cell)) = [] := rfl
  rw [select, made, limited, skipped]
  simp only [Except.map, List.append_nil]
  rfl

theorem composed_allRows
    (filtered : Piece.Composed (· ∈ schema.names) condition)
    (chosen : ∀ feature ∈ features, feature ∈ schema.features)
    (ordered : ∀ feature ∈ page.order, feature ∈ schema.features) :
    Piece.Composed (Known schema table) (allRows table condition features page) := by
  have limited : (rowsClause " LIMIT " page.unpaged.limit : List (Piece Cell)) = [] := rfl
  have skipped : (rowsClause " OFFSET " page.unpaged.skip : List (Piece Cell)) = [] := rfl
  have whole : Piece.Composed (Known schema table)
      (allRows table condition features page.unpaged ++
        rowsClause " LIMIT " page.unpaged.limit ++ rowsClause " OFFSET " page.unpaged.skip) :=
    composed_select filtered chosen ordered
  rw [limited, skipped, List.append_nil, List.append_nil] at whole
  exact whole

/-- Rows are skipped behind everything else, so their number is the last parameter. -/
theorem rowsTokens_last
    {word : String} {params : List (Bound α)} {before : ℕ} {rows : Option ℤ}
    (last : params.length = before + rows.toList.length) :
    rowsTokens word (before + 1) rows = rowsTokens word params.length rows := by
  cases rows with
  | none =>
      rfl
  | some count =>
      rw [last]
      rfl

/-- A selection for an admitted filter is the one of all rows, with clauses for the numbers of rows
that are positive. -/
theorem exists_paged
    {tree : Option (Node Cell)} (table : String)
    (admitted : Admitted schema tree)
    (chosen : ∀ feature ∈ features, feature ∈ schema.features)
    (ordered : ∀ feature ∈ page.order, feature ∈ schema.features) :
    ∃ unpaged paged,
      select schema table tree features page.unpaged = .ok unpaged ∧
      select schema table tree features page = .ok paged ∧
      unpaged.params = treeBounds tree ∧
      Paged (page.limit.filter (0 < ·)) (page.skip.filter (0 < ·)) unpaged paged := by
  rcases Node.conditionOf_of_admitted admitted with ⟨condition, made⟩
  have filtered := composed_conditionOf admitted made
  let unpaged : Statement Cell := ⟨allRows table condition features page⟩
  let paged : Statement Cell :=
    ⟨allRows table condition features page ++ rowsClause " LIMIT " page.limit ++
      rowsClause " OFFSET " page.skip⟩
  have whole : Piece.Composed (Known schema table) paged.pieces :=
    composed_select filtered chosen ordered
  have supplied : paged.params = unpaged.params ++
      ((page.limit.filter (0 < ·)).toList ++ (page.skip.filter (0 < ·)).toList).map .count := by
    simp [paged, unpaged, params, rowsBounds]
  have size : paged.params.length =
      unpaged.params.length + (page.limit.filter (0 < ·)).toList.length +
        (page.skip.filter (0 < ·)).toList.length := by
    rw [supplied, List.length_append, List.length_map, List.length_append, Nat.add_assoc]
  refine ⟨unpaged, paged, select_unpaged made, ?selected, ?bound, supplied, _,
    Piece.lex?_text (composed_allRows filtered chosen ordered).apart 0, ?plain, ?read⟩
  case selected =>
    rw [select, made]
    rfl
  case bound =>
    simp [unpaged, params, allRows, bounds_conditionOf made]
  case plain =>
    exact (unpaged_allRows (unpaged_conditionOf admitted made)).tokens 0
  case read =>
    have limitWord : lex? " LIMIT " = some [.word "LIMIT"] := rfl
    have offsetWord : lex? " OFFSET " = some [.word "OFFSET"] := rfl
    have read : lex? paged.sql = some (Piece.numbered Piece.tokens 0 paged.pieces) :=
      Piece.lex?_text whole.apart 0
    have before : 0 + (Piece.bounds unpaged.pieces).length = unpaged.params.length :=
      Nat.zero_add _
    have last : paged.params.length =
        0 + (Piece.bounds (unpaged.pieces ++ rowsClause " LIMIT " page.limit)).length +
          (page.skip.filter (0 < ·)).toList.length := by
      rw [size, Piece.bounds_append, bounds_rowsClause, rowsBounds, List.length_append,
        List.length_map, Nat.zero_add]
      rfl
    rw [read, Piece.numbered_append, Piece.numbered_append, numbered_rowsClause limitWord,
      numbered_rowsClause offsetWord, before, rowsTokens_last last]

end Select

end Statement

end TableSource
