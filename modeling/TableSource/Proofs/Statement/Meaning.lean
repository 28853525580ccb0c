import TableSource.Proofs.Statement.Grammar
import TableSource.Proofs.Statement.Patterns
import TableSource.Proofs.Succeeds

/-!
# What filters and conditions ask for

A filter asks for something of the values that a row has for its features.  A condition asks for
something of the columns of the row and of parameters that are bound by their numbers.  Both are
answered by a logic of three truth values, as absent values make answers unknown.

A condition may be read back as a filter: its columns are features, its parameters are cells, its
patterns spell texts, and its parentheses are groups.  What can be read back asks for the same as
the filter.
-/

namespace TableSource

open Filter

/-! ## Truth values -/

/-- True, false, or unknown where there is none. -/
abbrev Truth := Option Bool

namespace Truth

def both : Truth → Truth → Truth
  | some true, other => other
  | some false, _ => some false
  | none, some false => some false
  | none, _ => none

def either : Truth → Truth → Truth
  | some false, other => other
  | some true, _ => some true
  | none, some true => some true
  | none, _ => none

def all (truths : List Truth) : Truth :=
  truths.foldr both (some true)

def any (truths : List Truth) : Truth :=
  truths.foldr either (some false)

theorem all_singleton (truth : Truth) :
    all [truth] = truth := by
  rcases truth with _ | _ | _ <;> rfl

theorem any_singleton (truth : Truth) :
    any [truth] = truth := by
  rcases truth with _ | _ | _ <;> rfl

/-- One alternative that is true is enough, even where others are unknown. -/
theorem any_of_mem
    {truths : List Truth}
    (member : some true ∈ truths) :
    any truths = some true := by
  induction truths with
  | nil =>
      cases member
  | cons truth rest induction =>
      rcases List.mem_cons.mp member with rfl | later
      · rfl
      · have others : rest.foldr either (some false) = some true := induction later
        rw [any, List.foldr_cons, others]
        rcases truth with _ | _ | _ <;> rfl

end Truth

/-- What a database decides: how values compare, and which characters are the same. -/
structure Dialect where
  compare : Comparison → Raw → Raw → Truth
  same : Char → Char → Bool

namespace Dialect

def compared (dialect : Dialect) (comparison : Comparison) (value other : Option Raw) : Truth :=
  value.bind fun value => other.bind fun other => dialect.compare comparison value other

/-- An answer about the characters of a text; about other values nothing is known. -/
def ofText (answer : List Char → Bool) : Option Raw → Truth
  | some (.text value) => some (answer value.toList)
  | _ => none

end Dialect

/-- The value of a row at a place. -/
def valueAt (row : List Raw) (index : Int) : Option Raw :=
  if 0 ≤ index then row[index.toNat]? else none

/-! ## Filters -/

namespace Filter

def Test.truth (dialect : Dialect) (value : Option Raw) : Test Cell → Truth
  | .compare comparison other => dialect.compared comparison value (some other.toRaw)
  | .between low high =>
    Truth.both (dialect.compared .atLeast value (some low.toRaw))
      (dialect.compared .atMost value (some high.toRaw))
  | .among others =>
    Truth.any (others.map fun other => dialect.compared .equal value (some other.toRaw))
  | .contains part => Dialect.ofText (Pattern.occursIn dialect.same part.toList) value
  | .startsWith start => Dialect.ofText (Pattern.beginsWith dialect.same start.toList) value
  | .unknown _ => none

namespace Node

mutual

/-- What a filter says of a row. -/
def truth (dialect : Dialect) (row : List Raw) : Node Cell → Truth
  | .leaf index test => test.truth dialect (valueAt row index)
  | .group .all children => Truth.all (truths dialect row children)
  | .group .any children => Truth.any (truths dialect row children)
  | .group (.other _) _ => none

def truths (dialect : Dialect) (row : List Raw) : List (Node Cell) → List Truth
  | [] => []
  | node :: rest => truth dialect row node :: truths dialect row rest

end

/-- Whether a filter selects a row. -/
def selects (dialect : Dialect) (node : Node Cell) (row : List Raw) : Bool :=
  node.truth dialect row == some true

theorem truths_eq_map (dialect : Dialect) (row : List Raw) (nodes : List (Node Cell)) :
    truths dialect row nodes = nodes.map (truth dialect row) := by
  induction nodes with
  | nil =>
      rfl
  | cons node rest induction =>
      rw [truths, induction, List.map_cons]

end Node

end Filter

/-! ## Conditions -/

/-- The value of a row in a named column of a schema. -/
def Schema.column (schema : Schema) (row : List Raw) (name : String) : Option Raw :=
  (schema.byName? name).bind fun feature => valueAt row feature.index

namespace Sql

variable (schema : Schema) (params : List Raw)

/-- The parameter with a number; the first one has the number one. -/
def param? : Nat → Option Raw
  | 0 => none
  | number + 1 => params[number]?

variable (dialect : Dialect) (row : List Raw)

def Operand.value? : Operand → Option Raw
  | .column name => schema.column row name
  | .place number => param? params number

def Question.truth (value : Option Raw) : Question → Truth
  | .compare comparison other =>
    dialect.compared comparison value (other.value? schema params row)
  | .between low high =>
    Truth.both (dialect.compared .atLeast value (low.value? schema params row))
      (dialect.compared .atMost value (high.value? schema params row))
  | .among first others =>
    Truth.any ((first :: others).map fun other =>
      dialect.compared .equal value (other.value? schema params row))
  | .alike pattern =>
    match pattern.value? schema params row with
    | some (.text pattern) =>
      Dialect.ofText (Pattern.accepts dialect.same pattern.toList) value
    | _ => none

mutual

def Primary.truth : Primary → Truth
  | .test value question =>
    question.truth schema params dialect row (value.value? schema params row)
  | .grouped inside => inside.truth

def Conjunction.truth : Conjunction → Truth
  | .single only => only.truth
  | .and first rest => Truth.both first.truth rest.truth

def Disjunction.truth : Disjunction → Truth
  | .single only => only.truth
  | .or first rest => Truth.either first.truth rest.truth

end

/-- Whether a condition selects a row. -/
def Disjunction.selects (condition : Disjunction) (row : List Raw) : Bool :=
  condition.truth schema params dialect row == some true

end Sql

/-! ## Reading conditions back -/

/-- The cell that a parameter stands for. -/
def Cell.ofRaw? : Raw → Option Cell
  | .float (.finite value) => some (.number value)
  | .bool value => some (.truth value)
  | .reading reading =>
    let cell := Cell.instant reading.shown
    if cell.toRaw = .reading reading then some cell else none
  | .text value => some (.text value)
  | _ => none

theorem Cell.ofRaw?_eq_some_iff {value : Raw} {cell : Cell} :
    ofRaw? value = some cell ↔ value = cell.toRaw := by
  constructor
  · intro read
    unfold ofRaw? at read
    split at read
    case h_3 reading =>
      rcases Option.ite_none_right_eq_some.mp read with ⟨same, ⟨⟩⟩
      exact same.symm
    all_goals
      cases read
      try rfl
  · rintro rfl
    cases cell with
    | instant value =>
        exact if_pos rfl
    | _ =>
        rfl

namespace Sql

variable (schema : Schema) (params : List Raw)

def Operand.index? : Operand → Option Int
  | .column name => (schema.byName? name).map (·.index)
  | .place _ => none

def Operand.param? : Operand → Option Raw
  | .column _ => none
  | .place number => Sql.param? params number

def Operand.cell? (operand : Operand) : Option Cell :=
  (operand.param? params).bind Cell.ofRaw?

/-- The test of a pattern among the parameters. -/
def Operand.pattern? (operand : Operand) : Option (Test Cell) :=
  match operand.param? params with
  | some (.text pattern) => Pattern.test? pattern.toList
  | _ => none

def Question.test? : Question → Option (Test Cell)
  | .compare comparison other => (other.cell? params).map (.compare comparison)
  | .between low high => do return .between (← low.cell? params) (← high.cell? params)
  | .among first others => ((first :: others).mapM (Operand.cell? params)).map .among
  | .alike pattern => pattern.pattern? params

def single? : List (Node Cell) → Option (Node Cell)
  | [node] => some node
  | _ => none

/-- The group that alternatives in parentheses stand for, unless both connectives are used. -/
def group? : List (List (Node Cell)) → Option (Node Cell)
  | [nodes] => some (.group .all nodes)
  | alternatives => (alternatives.mapM single?).map (.group .any)

mutual

/-- The filter that a condition stands for. -/
def Primary.node? : Primary → Option (Node Cell)
  | .test value question => do return .leaf (← value.index? schema) (← question.test? params)
  | .grouped inside => inside.alternatives?.bind group?

def Conjunction.nodes? : Conjunction → Option (List (Node Cell))
  | .single only => only.node?.map ([·])
  | .and first rest => do return (← first.node?) :: (← rest.nodes?)

def Disjunction.alternatives? : Disjunction → Option (List (List (Node Cell)))
  | .single only => only.nodes?.map ([·])
  | .or first rest => do return (← first.nodes?) :: (← rest.alternatives?)

end

/-- The filter that a condition without connectives outside of parentheses stands for. -/
def Disjunction.node? : Disjunction → Option (Node Cell)
  | .single (.single only) => only.node? schema params
  | _ => none

/-! ## Conditions that can be read back -/

section Sound

variable {schema : Schema} {params : List Raw} (dialect : Dialect) (row : List Raw)

theorem Operand.value?_of_index?
    {operand : Operand} {index : Int}
    (read : operand.index? schema = some index) :
    operand.value? schema params row = valueAt row index := by
  cases operand with
  | column name =>
      rcases Option.map_eq_some_iff.mp read with ⟨feature, found, rfl⟩
      rw [value?, Schema.column, found]
      rfl
  | place number =>
      cases read

theorem Operand.value?_of_param?
    {operand : Operand} {value : Raw}
    (read : operand.param? params = some value) :
    operand.value? schema params row = some value := by
  cases operand with
  | column name =>
      cases read
  | place number =>
      exact read

theorem Operand.value?_of_cell?
    {operand : Operand} {cell : Cell}
    (read : operand.cell? params = some cell) :
    operand.value? schema params row = some cell.toRaw := by
  rcases Option.bind_eq_some_iff.mp read with ⟨value, given, isCell⟩
  rw [value?_of_param? row given, Cell.ofRaw?_eq_some_iff.mp isCell]

theorem Operand.value?_of_cells?
    {operands : List Operand} {cells : List Cell}
    (read : operands.mapM (Operand.cell? params) = some cells) :
    operands.map (Operand.value? schema params row) = cells.map fun cell => some cell.toRaw := by
  induction operands generalizing cells with
  | nil =>
      cases read
      rfl
  | cons operand rest induction =>
      rcases mapM_cons_eq_some_iff.mp read with ⟨first, others, readFirst, readOthers, rfl⟩
      rw [List.map_cons, List.map_cons, value?_of_cell? row readFirst, induction readOthers]

/-- A question that is read back asks for the same. -/
theorem Question.truth_of_test?
    {question : Question} {test : Test Cell}
    (read : question.test? params = some test) (value : Option Raw) :
    question.truth schema params dialect row value = test.truth dialect value := by
  cases question with
  | compare comparison other =>
      rcases Option.map_eq_some_iff.mp read with ⟨cell, isCell, rfl⟩
      rw [truth, Operand.value?_of_cell? row isCell]
      rfl
  | between low high =>
      rcases Option.bind_eq_some_iff.mp read with ⟨first, lowIs, later⟩
      rcases Option.bind_eq_some_iff.mp later with ⟨second, highIs, equal⟩
      cases equal
      rw [truth, Operand.value?_of_cell? row lowIs, Operand.value?_of_cell? row highIs]
      rfl
  | among first others =>
      rcases Option.map_eq_some_iff.mp read with ⟨cells, areCells, rfl⟩
      have values : (first :: others).map (Operand.value? schema params row) =
          cells.map fun cell => some cell.toRaw :=
        Operand.value?_of_cells? row areCells
      have answers := congrArg (List.map (dialect.compared .equal value)) values
      rw [List.map_map, List.map_map] at answers
      exact congrArg Truth.any answers
  | alike pattern =>
      simp only [test?, Operand.pattern?] at read
      split at read
      · next text given =>
          rw [truth, Operand.value?_of_param? row given]
          rcases Pattern.accepts_of_test? read with ⟨part, rfl, matched⟩ | ⟨start, rfl, matched⟩
          · exact congrArg (Dialect.ofText · value) (funext matched)
          · exact congrArg (Dialect.ofText · value) (funext matched)
      · cases read

theorem eq_of_single?
    {nodes : List (Node Cell)} {node : Node Cell}
    (read : single? nodes = some node) :
    nodes = [node] := by
  unfold single? at read
  split at read
  · cases read
    rfl
  · cases read

theorem eq_of_singles?
    {alternatives : List (List (Node Cell))} {nodes : List (Node Cell)}
    (read : alternatives.mapM single? = some nodes) :
    alternatives = nodes.map ([·]) := by
  induction alternatives generalizing nodes with
  | nil =>
      cases read
      rfl
  | cons alternative rest induction =>
      rcases mapM_cons_eq_some_iff.mp read with ⟨node, others, isSingle, areSingles, rfl⟩
      rw [eq_of_single? isSingle, induction areSingles, List.map_cons]

/-- A group asks for the same as the alternatives that it is read from. -/
theorem truth_of_group?
    {alternatives : List (List (Node Cell))} {node : Node Cell}
    (read : group? alternatives = some node) :
    Truth.any (alternatives.map fun nodes => Truth.all (Node.truths dialect row nodes)) =
      node.truth dialect row := by
  unfold group? at read
  split at read
  · next nodes =>
      cases read
      exact Truth.any_singleton _
  · rcases Option.map_eq_some_iff.mp read with ⟨nodes, singles, rfl⟩
    rw [eq_of_singles? singles, Node.truth, Node.truths_eq_map, List.map_map]
    congr 1
    apply List.map_congr_left
    intro node _
    rw [Function.comp_apply, Node.truths_eq_map]
    exact Truth.all_singleton _

mutual

/-- What can be read back asks for the same as the filter. -/
theorem Primary.truth_of_node?
    {primary : Primary} {node : Node Cell}
    (read : primary.node? schema params = some node) :
    primary.truth schema params dialect row = node.truth dialect row := by
  cases primary with
  | test value question =>
      rcases Option.bind_eq_some_iff.mp read with ⟨index, column, later⟩
      rcases Option.bind_eq_some_iff.mp later with ⟨test, asked, equal⟩
      cases equal
      rw [Primary.truth, Operand.value?_of_index? row column,
        Question.truth_of_test? dialect row asked, Node.truth]
  | grouped inside =>
      rcases Option.bind_eq_some_iff.mp read with ⟨alternatives, inner, isGroup⟩
      rw [Primary.truth, Disjunction.truth_of_alternatives? inner]
      exact truth_of_group? dialect row isGroup

theorem Conjunction.truth_of_nodes?
    {conjunction : Conjunction} {nodes : List (Node Cell)}
    (read : conjunction.nodes? schema params = some nodes) :
    conjunction.truth schema params dialect row = Truth.all (Node.truths dialect row nodes) := by
  cases conjunction with
  | single only =>
      rcases Option.map_eq_some_iff.mp read with ⟨node, isNode, rfl⟩
      rw [Conjunction.truth, Primary.truth_of_node? isNode, Node.truths, Node.truths,
        Truth.all_singleton]
  | and first rest =>
      rcases Option.bind_eq_some_iff.mp read with ⟨node, isNode, later⟩
      rcases Option.bind_eq_some_iff.mp later with ⟨others, areNodes, equal⟩
      cases equal
      rw [Conjunction.truth, Primary.truth_of_node? isNode, Conjunction.truth_of_nodes? areNodes]
      rfl

theorem Disjunction.truth_of_alternatives?
    {disjunction : Disjunction} {alternatives : List (List (Node Cell))}
    (read : disjunction.alternatives? schema params = some alternatives) :
    disjunction.truth schema params dialect row =
      Truth.any (alternatives.map fun nodes => Truth.all (Node.truths dialect row nodes)) := by
  cases disjunction with
  | single only =>
      rcases Option.map_eq_some_iff.mp read with ⟨nodes, areNodes, rfl⟩
      rw [Disjunction.truth, Conjunction.truth_of_nodes? areNodes]
      exact (Truth.any_singleton _).symm
  | or first rest =>
      rcases Option.bind_eq_some_iff.mp read with ⟨nodes, areNodes, later⟩
      rcases Option.bind_eq_some_iff.mp later with ⟨others, areOthers, equal⟩
      cases equal
      rw [Disjunction.truth, Conjunction.truth_of_nodes? areNodes,
        Disjunction.truth_of_alternatives? areOthers]
      rfl

end

theorem Disjunction.truth_of_node?
    {disjunction : Disjunction} {node : Node Cell}
    (read : disjunction.node? schema params = some node) :
    disjunction.truth schema params dialect row = node.truth dialect row := by
  unfold node? at read
  split at read
  · next only =>
      exact only.truth_of_node? dialect row read
  · cases read

end Sound

end Sql

end TableSource
