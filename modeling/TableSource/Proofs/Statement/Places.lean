import TableSource.Proofs.Statement.Composition
import TableSource.Proofs.Statement.ReadBack

/-!
# The places of a statement and its parameters

A condition is composed of its tests, and every statement of its table, its columns, its condition
and the clauses behind it.  So in the text of each of them there are only fixed words, quoted names
of the table and its columns, and places.  The parameters are the values of the filter, from left to
right, and then the start of a text, or the limit before the offset.
-/

namespace TableSource

open Filter Sql

variable {α : Type}

/-! ## Conditions -/

namespace Filter

/-- What a test binds, from left to right. -/
def Test.bounds : Test α → List (Bound α)
  | .compare _ value => [.value value]
  | .between low high => [.value low, .value high]
  | .among values => values.map .value
  | .contains part => [.pattern (Pattern.containing part)]
  | .startsWith start => [.pattern (Pattern.startingWith start)]
  | .unknown _ => []

namespace Node

mutual

/-- What the leaves of a filter bind, from left to right. -/
def bounds : Node α → List (Bound α)
  | .leaf _ test => test.bounds
  | .group _ children => boundsOf children

def boundsOf : List (Node α) → List (Bound α)
  | [] => []
  | node :: rest => bounds node ++ boundsOf rest

end

end Node

theorem Test.bounds_condition
    {column : String} {test : Test α} {pieces : List (Piece α)}
    (made : test.condition column = .ok pieces) :
    Piece.bounds pieces = test.bounds := by
  cases test with
  | unknown name =>
      cases made
  | among values =>
      cases made
      simp [bounds]
  | _ =>
      cases made
      rfl

/-- The words in a test are fixed, and its column is the only name. -/
theorem Test.composed_condition
    {known : String → Prop} {column : String} {test : Test Cell} {pieces : List (Piece Cell)}
    (isKnown : known column) (made : test.condition column = .ok pieces) :
    Piece.Composed known pieces := by
  refine ⟨Test.apart_condition made, ?_⟩
  cases test with
  | compare comparison value =>
      cases made
      have sign : (.words (" " ++ comparison.sign ++ " ") : Piece Cell).Allowed known := by
        cases comparison <;> rfl
      rw [List.forall_mem_cons, List.forall_mem_cons, List.forall_mem_singleton]
      exact ⟨isKnown, sign, trivial⟩
  | between low high =>
      cases made
      rw [List.forall_mem_cons, List.forall_mem_cons, List.forall_mem_cons, List.forall_mem_cons,
        List.forall_mem_singleton]
      exact ⟨isKnown, rfl, trivial, rfl, trivial⟩
  | among values =>
      cases made
      rw [List.forall_mem_append, List.forall_mem_append, List.forall_mem_cons,
        List.forall_mem_singleton, List.forall_mem_singleton]
      exact ⟨⟨⟨isKnown, rfl⟩, (Piece.composed_listPlaces _).allowed⟩, rfl⟩
  | contains part =>
      cases made
      rw [List.forall_mem_cons, List.forall_mem_cons, List.forall_mem_singleton]
      exact ⟨isKnown, rfl, trivial⟩
  | startsWith start =>
      cases made
      rw [List.forall_mem_cons, List.forall_mem_cons, List.forall_mem_singleton]
      exact ⟨isKnown, rfl, trivial⟩
  | unknown name =>
      cases made

namespace Node

variable {schema : Schema}

mutual

/-- A condition binds what the leaves of its filter bind. -/
theorem bounds_condition
    {node : Node α} {pieces : List (Piece α)}
    (made : node.condition schema = .ok pieces) :
    Piece.bounds pieces = node.bounds := by
  cases node with
  | leaf index test =>
      rw [condition] at made
      split at made
      · exact Test.bounds_condition made
      · cases made
  | group connective children =>
      rw [condition] at made
      rcases map_eq_ok_iff.mp made with ⟨parts, madeParts, rfl⟩
      simp only [Piece.bounds_append, Piece.bounds_words, Piece.bounds_nil, List.nil_append,
        List.append_nil, Piece.bounds_separate, bounds]
      exact bounds_conditions madeParts

theorem bounds_conditions
    {nodes : List (Node α)} {parts : List (List (Piece α))}
    (made : conditions schema nodes = .ok parts) :
    parts.flatMap Piece.bounds = boundsOf nodes := by
  cases nodes with
  | nil =>
      cases made
      rfl
  | cons node rest =>
      rw [conditions_cons] at made
      rcases bind_eq_ok_iff.mp made with ⟨first, madeFirst, later⟩
      rcases map_eq_ok_iff.mp later with ⟨others, madeOthers, rfl⟩
      rw [List.flatMap_cons, bounds_condition madeFirst, bounds_conditions madeOthers, boundsOf]

end

theorem composed_condition
    {depth : Int} {node : Node Cell}
    (wellFormed : WellFormed schema depth node) {pieces : List (Piece Cell)}
    (made : node.condition schema = .ok pieces) :
    Piece.Composed (· ∈ schema.names) pieces := by
  induction wellFormed generalizing pieces with
  | @leaf depth index feature test found fits =>
      rw [condition, found] at made
      exact Test.composed_condition (Schema.name_mem (Schema.mem_of_get? found)) made
  | @group depth connective children known _ _ _ induction =>
      rw [condition] at made
      rcases map_eq_ok_iff.mp made with ⟨parts, madeParts, rfl⟩
      have frame : Piece.isFrame (" " ++ connective.word ++ " ") = true := by
        rcases known with rfl | rfl <;> rfl
      have each : ∀ part ∈ parts, Piece.Composed (· ∈ schema.names) part := by
        intro part inside
        rcases exists_of_mem_conditions madeParts inside with ⟨child, member, madeChild⟩
        exact induction child member madeChild
      have opened : Piece.Composed (· ∈ schema.names)
          ([] ++ .words "(" :: Piece.separate (" " ++ connective.word ++ " ") parts) :=
        Piece.composed_nil.join rfl (Piece.Composed.separate each frame)
      exact opened.join rfl Piece.composed_nil

end Node

end Filter

/-! ## Statements -/

namespace Statement

/-- The names that a statement about a table may hold. -/
def Known (schema : Schema) (table name : String) : Prop :=
  name = table ∨ name ∈ schema.names

/-- What the condition of a filter binds, if there is one. -/
def treeBounds (tree : Option (Node α)) : List (Bound α) :=
  tree.elim [] Node.bounds

/-- What a clause with a number of rows binds. -/
def rowsBounds (rows : Option Int) : List (Bound α) :=
  (rows.filter (0 < ·)).toList.map .count

/-- What the condition that a column starts with a text binds. -/
def startBounds (start : String) : List (Bound α) :=
  if start = "" then [] else [.pattern (Pattern.startingWith start)]

theorem bounds_conditionOf
    {schema : Schema} {tree : Option (Node α)} {pieces : List (Piece α)}
    (made : Node.conditionOf schema tree = .ok pieces) :
    Piece.bounds pieces = treeBounds tree := by
  cases tree with
  | none =>
      cases made
      rfl
  | some node =>
      exact Node.bounds_condition made

@[simp]
theorem bounds_rowsClause (words : String) (rows : Option Int) :
    Piece.bounds (rowsClause words rows : List (Piece α)) = rowsBounds rows := by
  cases rows with
  | none =>
      rfl
  | some count =>
      by_cases positive : 0 < count <;> simp [rowsClause, rowsBounds, Option.filter, positive]

@[simp]
theorem bounds_orderClause (page : Page) :
    Piece.bounds (orderClause page : List (Piece α)) = [] := by
  rw [orderClause]
  split <;> rfl

/-- A condition that is left out when it is empty still binds the same. -/
theorem bounds_filled (condition : List (Piece α)) :
    (if condition = [] then [] else [condition]).flatMap Piece.bounds = Piece.bounds condition := by
  by_cases empty : condition = []
  · simp [empty]
  · simp [empty]

theorem bounds_startCondition (column start : String) :
    (startCondition column start : List (List (Piece α))).flatMap Piece.bounds =
      startBounds start := by
  by_cases empty : start = ""
  · simp [startCondition, startBounds, empty]
  · simp [startCondition, startBounds, empty]

@[simp]
theorem bounds_insertedRow (row : List α) :
    Piece.bounds (insertedRow row) = row.map .value := by
  simp [insertedRow]

section Composed

variable {schema : Schema} {table : String}

theorem composed_conditionOf
    {tree : Option (Node Cell)} {pieces : List (Piece Cell)}
    (admitted : Admitted schema tree) (made : Node.conditionOf schema tree = .ok pieces) :
    Piece.Composed (· ∈ schema.names) pieces := by
  rcases admitted with ⟨value, depth, accepted⟩
  cases tree with
  | none =>
      cases made
      exact Piece.composed_nil
  | some node =>
      exact Node.composed_condition (wellFormed_of_acceptWithin rfl accepted) made

theorem composed_table :
    Piece.Composed (Known schema table) [(.name table : Piece α)] :=
  Piece.composed_name (.inl rfl)

theorem composed_feature
    {feature : Feature}
    (member : feature ∈ schema.features) :
    Piece.Composed (Known schema table) [(.name feature.name : Piece α)] :=
  Piece.composed_name (.inr (Schema.name_mem member))

theorem composed_orderClause
    {page : Page} {front : List (Piece α)}
    (ordered : ∀ feature ∈ page.order, feature ∈ schema.features)
    (before : Piece.Composed (Known schema table) front) :
    Piece.Composed (Known schema table) (front ++ orderClause page) := by
  rw [orderClause]
  split
  · next feature found =>
      have column : Piece.Composed (Known schema table) [(.name feature.name : Piece α)] :=
        composed_feature (ordered feature found)
      cases page.descending with
      | true =>
          exact before.join rfl (column.trail rfl rfl)
      | false =>
          exact before.join rfl (column.trail rfl rfl)
  · rw [List.append_nil]
    exact before

theorem composed_rowsClause
    {front : List (Piece α)} {words : String}
    (before : Piece.Composed (Known schema table) front) (frame : Piece.isFrame words = true)
    (rows : Option Int) :
    Piece.Composed (Known schema table) (front ++ rowsClause words rows) := by
  rw [rowsClause.eq_def]
  split
  · split
    · exact before.join frame (Piece.composed_place _)
    · rw [List.append_nil]
      exact before
  · rw [List.append_nil]
    exact before

theorem composed_insertedRow (row : List α) :
    Piece.Composed (Known schema table) (insertedRow row) := by
  have opened : Piece.Composed (Known schema table)
      ([] ++ .words "(" :: Piece.listPlaces (row.map .value)) :=
    Piece.composed_nil.join rfl (Piece.composed_listPlaces _)
  exact opened.join rfl Piece.composed_nil

theorem composed_insert (rows : List (List α)) :
    Piece.Composed (Known schema table) (insert schema table rows).pieces := by
  have columns : Piece.Composed (Known schema table)
      (Piece.listNames schema.names : List (Piece α)) :=
    Piece.composed_listNames fun name member => .inr member
  have inserted : Piece.Composed (Known schema table)
      (Piece.separate ", " (rows.map insertedRow)) := by
    apply Piece.Composed.separate _ rfl
    intro part member
    rcases List.mem_map.mp member with ⟨row, -, rfl⟩
    exact composed_insertedRow row
  have opened : Piece.Composed (Known schema table)
      (.words "INSERT INTO " :: ([.name table] ++ .words " (" :: Piece.listNames schema.names)) :=
    (composed_table.join rfl columns).lead rfl rfl
  have whole := opened.join (show Piece.isFrame ") VALUES " = true from rfl) inserted
  simpa [insert] using whole

variable {condition : List (Piece Cell)}

theorem composed_count
    (filtered : Piece.Composed (· ∈ schema.names) condition) :
    Piece.Composed (Known schema table)
      ([.words "SELECT COUNT(*) AS total FROM ", .name table] ++ clause " WHERE " condition) := by
  have opened : Piece.Composed (Known schema table)
      [.words "SELECT COUNT(*) AS total FROM ", (.name table : Piece Cell)] :=
    composed_table.lead rfl rfl
  exact opened.clause rfl (filtered.mono fun _ => .inr)

theorem composed_select
    {features : List Feature} {page : Page}
    (filtered : Piece.Composed (· ∈ schema.names) condition)
    (chosen : ∀ feature ∈ features, feature ∈ schema.features)
    (ordered : ∀ feature ∈ page.order, feature ∈ schema.features) :
    Piece.Composed (Known schema table)
      ([.words "SELECT "] ++ Piece.listNames (features.map (·.name)) ++
        [.words " FROM ", .name table] ++ clause " WHERE " condition ++ orderClause page ++
        rowsClause " LIMIT " page.limit ++ rowsClause " OFFSET " page.skip) := by
  have columns : Piece.Composed (Known schema table)
      (Piece.listNames (features.map (·.name)) : List (Piece Cell)) := by
    apply Piece.composed_listNames
    intro name member
    rcases List.mem_map.mp member with ⟨feature, inside, rfl⟩
    exact .inr (Schema.name_mem (chosen feature inside))
  have opened : Piece.Composed (Known schema table)
      (.words "SELECT " :: (Piece.listNames (features.map (·.name)) ++
        .words " FROM " :: [(.name table : Piece Cell)])) :=
    (columns.join rfl composed_table).lead rfl rfl
  have matching := opened.clause (show Piece.isFrame " WHERE " = true from rfl)
    (filtered.mono fun _ => .inr)
  have sorted := composed_orderClause ordered matching
  have limited := composed_rowsClause sorted (show Piece.isFrame " LIMIT " = true from rfl) page.limit
  have skipped := composed_rowsClause limited (show Piece.isFrame " OFFSET " = true from rfl) page.skip
  simpa using skipped

theorem composed_distinct
    {feature : Feature} {start : String}
    (filtered : Piece.Composed (· ∈ schema.names) condition)
    (member : feature ∈ schema.features) :
    Piece.Composed (Known schema table)
      ([.words "SELECT DISTINCT ", .name feature.name, .words " FROM ", .name table] ++
        clause " WHERE " (Piece.separate " AND "
          ((if condition.isEmpty then [] else [condition]) ++ startCondition feature.name start)) ++
        [.words " ORDER BY ", .name feature.name,
          .words (" LIMIT " ++ toString maxDistinct)]) := by
  have column : Piece.Composed (Known schema table) [(.name feature.name : Piece Cell)] :=
    composed_feature member
  have opened : Piece.Composed (Known schema table)
      (.words "SELECT DISTINCT " :: ([.name feature.name] ++
        .words " FROM " :: [(.name table : Piece Cell)])) :=
    (column.join rfl composed_table).lead rfl rfl
  have started : ∀ part ∈ startCondition (α := Cell) feature.name start,
      Piece.Composed (Known schema table) part := by
    rw [startCondition]
    split
    · exact fun _ inside => nomatch inside
    · rw [List.forall_mem_singleton]
      exact column.join rfl (Piece.composed_place _)
  have parts : ∀ part ∈ (if condition.isEmpty then [] else [condition]) ++
      startCondition feature.name start, Piece.Composed (Known schema table) part := by
    rw [List.forall_mem_append]
    refine ⟨?_, started⟩
    split
    · exact fun _ inside => nomatch inside
    · exact List.forall_mem_singleton.mpr (filtered.mono fun _ => .inr)
  have joined := Piece.Composed.separate parts (show Piece.isFrame " AND " = true from rfl)
  have matching := opened.clause (show Piece.isFrame " WHERE " = true from rfl) joined
  have whole := matching.join (show Piece.isFrame " ORDER BY " = true from rfl)
    (column.trail (show (.words (" LIMIT " ++ toString maxDistinct) : Piece Cell).opens = true
      from rfl) rfl)
  simpa using whole

/-- A composed statement binds what its pieces bind. -/
theorem binds_of_composed
    {known : String → Prop} {statement : Statement α} {bound : List (Bound α)}
    (composed : Piece.Composed known statement.pieces)
    (same : Piece.bounds statement.pieces = bound) :
    Binds known [] bound statement.sql statement.params := by
  have binds := composed.binds id []
  rw [Piece.written_eq, List.map_id, same, List.nil_append] at binds
  rw [params, same]
  exact binds

end Composed

/-- Every statement about a table and every condition, behind whatever was given before, is made for
an admitted filter.  Its text is read as fixed tokens, names of the table and its columns, and
places, and the places are numbered so that they bind the values of the filter, from left to right,
and then the start of a text, or the limit before the offset. -/
theorem statements_bind_their_places
    {schema : Schema} {tree : Option (Node Cell)} (table : String)
    (admitted : Admitted schema tree) :
    (∃ pieces, Node.conditionOf schema tree = .ok pieces ∧
      ∀ (β : Type) (bind : Bound Cell → β) (given : List β),
        Binds (· ∈ schema.names) given ((treeBounds tree).map bind)
          (Piece.written bind given pieces).1 (Piece.written bind given pieces).2) ∧
    (∃ statement, count schema table tree = .ok statement ∧
      Binds (Known schema table) [] (treeBounds tree) statement.sql statement.params) ∧
    (∀ features order direction skip limit, (∀ feature ∈ features, feature ∈ schema.features) →
      ∃ statement, select schema table tree features
          { order := schema.lookup? order, descending := Page.isDescending direction, skip, limit } =
            .ok statement ∧
        Binds (Known schema table) [] (treeBounds tree ++ rowsBounds limit ++ rowsBounds skip)
          statement.sql statement.params) ∧
    (∀ feature start, feature ∈ schema.features → feature.type = .nominal →
      ∃ statement, distinct schema table tree feature start = .ok statement ∧
        Binds (Known schema table) [] (treeBounds tree ++ startBounds start)
          statement.sql statement.params) ∧
    ∀ (β : Type) (rows : List (List β)),
      Binds (Known schema table) [] (rows.flatten.map .value)
        (insert schema table rows).sql (insert schema table rows).params := by
  rcases Node.conditionOf_of_admitted admitted with ⟨condition, made⟩
  have filtered := composed_conditionOf admitted made
  have bound := bounds_conditionOf made
  refine ⟨⟨condition, made, ?_⟩, ?_, ?_, ?_, ?_⟩
  · intro β bind given
    rw [← bound]
    exact filtered.binds bind given
  · rw [count, made]
    refine ⟨_, rfl, binds_of_composed (composed_count filtered) ?_⟩
    simp [bound]
  · intro features order direction skip limit chosen
    have ordered : ∀ feature ∈ schema.lookup? order, feature ∈ schema.features :=
      fun feature found => Schema.mem_of_get? (Schema.get?_of_lookup? found)
    rw [select, made]
    refine ⟨_, rfl, binds_of_composed (composed_select filtered chosen ordered) ?_⟩
    simp [bound]
  · intro feature start member nominal
    rw [distinct, if_neg (not_not_intro nominal), made]
    refine ⟨_, rfl, binds_of_composed (composed_distinct filtered member) ?_⟩
    simp [Piece.bounds_separate, bounds_startCondition, bounds_filled, bound]
  · intro β rows
    refine binds_of_composed (composed_insert rows) ?_
    simp [insert, Piece.bounds_separate, List.flatMap_def, List.map_flatten, Function.comp_def]

/-- Names and texts that look like places and clauses do not count as such. -/
theorem statements_bind_their_places_deceptive :
    let tree : Node Cell :=
      .group .any [.leaf 0 (.between (.number .zero) (.number .zero)), .leaf 1 (.contains "$2")]
    let page : Page :=
      { order := Node.deceptiveSchema.lookup? (.int 1), descending := Page.isDescending "DESC"
        skip := some 4, limit := some 7 }
    Admitted Node.deceptiveSchema (some tree) ∧
      ∃ statement,
        select Node.deceptiveSchema "t\" LIMIT $9" (some tree) Node.deceptiveSchema.features page =
          .ok statement ∧
        statement.sql =
          "SELECT \"a\"\" AND \"\"b\", \"x) OR ($1\" FROM \"t\"\" LIMIT $9\" WHERE " ++
            "(\"a\"\" AND \"\"b\" BETWEEN $1 AND $2 OR \"x) OR ($1\" ILIKE $3) " ++
            "ORDER BY \"x) OR ($1\" DESC LIMIT $4 OFFSET $5" ∧
        Binds (Known Node.deceptiveSchema "t\" LIMIT $9") []
          [.value (.number .zero), .value (.number .zero), .pattern "%$2%", .count 7, .count 4]
          statement.sql statement.params := by
  intro tree page
  have wellFormed : WellFormed Node.deceptiveSchema 0 tree := by
    apply WellFormed.group (.inr rfl) (by decide) (by simp)
    rw [List.forall_mem_cons, List.forall_mem_singleton]
    exact ⟨.leaf rfl ⟨rfl, rfl, rfl⟩, .leaf rfl ⟨rfl, by decide⟩⟩
  have admitted : Admitted Node.deceptiveSchema (some tree) := ⟨_, 0, accept_toRaw wellFormed⟩
  have selected := (statements_bind_their_places "t\" LIMIT $9" admitted).2.2.1
  rcases selected Node.deceptiveSchema.features (.int 1) "DESC" (some 4) (some 7)
    (fun _ member => member) with ⟨statement, made, binds⟩
  refine ⟨admitted, statement, made, ?_, binds⟩
  cases made
  rfl

end Statement

end TableSource
