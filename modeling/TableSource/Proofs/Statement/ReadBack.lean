import Mathlib.Data.List.Forall2
import TableSource.Proofs.Filter.FixedPoint
import TableSource.Proofs.Statement.Existence
import TableSource.Proofs.Statement.Meaning
import TableSource.Proofs.Statement.Shape

/-!
# Conditions say what their filters say

The text of the condition of a filter is read in one way only, and what is read back, with the
parameters at their numbers, is the filter again.  Only the connective of a group with one child
is lost, as it stands between nothing.  So the condition selects the rows that the filter selects,
whatever the names of the columns and the values are.

The derivation of the condition is found along the filter.  As parameters are numbered from the
left, what is read back depends on how many there are before.
-/

namespace TableSource

open Filter Sql Piece

/-! ## Parameters -/

/-- What is bound, for the database. -/
def Bound.raw : Bound Cell → Raw
  | .value cell => cell.toRaw
  | .pattern written => .text written
  | .count rows => .int rows

namespace Piece

/-- The parameters of pieces. -/
def params (pieces : List (Piece Cell)) : List Raw :=
  (bounds pieces).map Bound.raw

/-- Behind a number of other parameters there are those of pieces. -/
def Supplied (all : List Raw) (before : Nat) (pieces : List (Piece Cell)) : Prop :=
  params pieces <+: all.drop before

variable {all : List Raw} {before : Nat}

theorem supplied_of_append
    {front back : List (Piece Cell)}
    (supplied : Supplied all before (front ++ back)) :
    Supplied all before front ∧ Supplied all (before + (bounds front).length) back := by
  rcases supplied with ⟨rest, same⟩
  have parts : params (front ++ back) = params front ++ params back := by
    rw [params, bounds, List.filterMap_append, List.map_append]
    rfl
  have count : (params front).length = (bounds front).length := List.length_map _
  rw [parts, List.append_assoc] at same
  refine ⟨⟨_, same⟩, rest, ?_⟩
  rw [← List.drop_drop, ← same, ← count, List.drop_left]

theorem param?_of_supplied
    {bound : Bound Cell} {rest : List (Piece Cell)}
    (supplied : Supplied all before (.place bound :: rest)) :
    param? all (before + 1) = some bound.raw := by
  rcases supplied with ⟨others, same⟩
  have first : (all.drop before)[0]? = some bound.raw := by
    rw [← same]
    rfl
  simpa [param?] using first

theorem supplied_of_place
    {bound : Bound Cell} {rest : List (Piece Cell)}
    (supplied : Supplied all before (.place bound :: rest)) :
    Supplied all (before + 1) rest :=
  (@supplied_of_append all before [.place bound] rest supplied).2

theorem cell?_of_supplied
    {value : Cell} {rest : List (Piece Cell)}
    (supplied : Supplied all before (.place (.value value) :: rest)) :
    Operand.cell? all (.place (before + 1)) = some value := by
  rw [Operand.cell?, Operand.param?, param?_of_supplied supplied]
  exact Cell.ofRaw?_eq_some_iff.mpr rfl

end Piece

/-! ## Filters without idle connectives -/

namespace Filter.Node

mutual

/-- A filter in which groups with one child are joined by "and". -/
def plain : Node Cell → Node Cell
  | .leaf index test => .leaf index test
  | .group connective children =>
    .group (if children.length = 1 then .all else connective) (plains children)

def plains : List (Node Cell) → List (Node Cell)
  | [] => []
  | node :: rest => plain node :: plains rest

end

theorem plains_eq_map (nodes : List (Node Cell)) :
    plains nodes = nodes.map plain := by
  induction nodes with
  | nil =>
      rfl
  | cons node rest induction =>
      rw [plains, induction, List.map_cons]

theorem truth_plain
    {schema : Schema} {depth : Int} {node : Node Cell}
    (wellFormed : WellFormed schema depth node) (dialect : Dialect) (row : List Raw) :
    node.plain.truth dialect row = node.truth dialect row := by
  induction wellFormed with
  | leaf =>
      rw [plain]
  | @group depth connective children known _ _ _ induction =>
      have same : truths dialect row (plains children) = truths dialect row children := by
        rw [truths_eq_map, truths_eq_map, plains_eq_map, List.map_map]
        exact List.map_congr_left induction
      rw [plain]
      rcases known with rfl | rfl
      · rw [ite_self, truth, truth, same]
      · by_cases alone : children.length = 1
        · rcases List.length_eq_one_iff.mp alone with ⟨child, rfl⟩
          rw [if_pos alone, truth, truth, same]
          exact (Truth.all_singleton _).trans (Truth.any_singleton _).symm
        · rw [if_neg alone, truth, truth, same]

end Filter.Node

/-! ## Chains of conditions -/

namespace Sql

def Conjunction.ofList : Primary → List Primary → Conjunction
  | first, [] => .single first
  | first, second :: rest => .and first (ofList second rest)

def Disjunction.ofList : Primary → List Primary → Disjunction
  | first, [] => .single (.single first)
  | first, second :: rest => .or (.single first) (ofList second rest)

/-- The tokens of conditions with a word between them. -/
def joined (word : String) (first : Primary) (rest : List Primary) : List Token :=
  first.tokens ++ rest.flatMap fun next => .word word :: next.tokens

theorem Conjunction.tokens_ofList (first : Primary) (rest : List Primary) :
    (ofList first rest).tokens = joined "AND" first rest := by
  induction rest generalizing first with
  | nil =>
      simp [ofList, Conjunction.tokens, joined]
  | cons second rest induction =>
      rw [ofList, Conjunction.tokens, induction]
      simp [joined]

theorem Disjunction.tokens_ofList (first : Primary) (rest : List Primary) :
    (ofList first rest).tokens = joined "OR" first rest := by
  induction rest generalizing first with
  | nil =>
      simp [ofList, Disjunction.tokens, Conjunction.tokens, joined]
  | cons second rest induction =>
      rw [ofList, Disjunction.tokens, Conjunction.tokens, induction]
      simp [joined]

variable {schema : Schema} {params : List Raw}

theorem Conjunction.nodes?_ofList
    {first : Primary} {rest : List Primary} {nodes : List (Node Cell)}
    (read : (first :: rest).mapM (Primary.node? schema params) = some nodes) :
    (ofList first rest).nodes? schema params = some nodes := by
  induction rest generalizing first nodes with
  | nil =>
      rcases mapM_cons_eq_some_iff.mp read with ⟨node, others, isNode, none, rfl⟩
      cases none
      rw [ofList, Conjunction.nodes?, isNode]
      rfl
  | cons second rest induction =>
      rcases mapM_cons_eq_some_iff.mp read with ⟨node, others, isNode, areNodes, rfl⟩
      rw [ofList, Conjunction.nodes?, isNode, induction areNodes]
      rfl

theorem Disjunction.alternatives?_ofList
    {first : Primary} {rest : List Primary} {nodes : List (Node Cell)}
    (read : (first :: rest).mapM (Primary.node? schema params) = some nodes) :
    (ofList first rest).alternatives? schema params = some (nodes.map ([·])) := by
  induction rest generalizing first nodes with
  | nil =>
      rcases mapM_cons_eq_some_iff.mp read with ⟨node, others, isNode, none, rfl⟩
      cases none
      rw [ofList, Disjunction.alternatives?, Conjunction.nodes?, isNode]
      rfl
  | cons second rest induction =>
      rcases mapM_cons_eq_some_iff.mp read with ⟨node, others, isNode, areNodes, rfl⟩
      rw [ofList, Disjunction.alternatives?, Conjunction.nodes?, isNode, induction areNodes]
      rfl

theorem group?_singles (nodes : List (Node Cell)) :
    group? (nodes.map ([·])) = some (.group (if nodes.length = 1 then .all else .any) nodes) := by
  have singles : (nodes.map ([·])).mapM single? = some nodes := by
    induction nodes with
    | nil =>
        rfl
    | cons node rest induction =>
        rw [List.map_cons, List.mapM_cons, induction]
        rfl
  match nodes, singles with
  | [], _ =>
      rfl
  | [node], _ =>
      rfl
  | first :: second :: rest, singles =>
      exact congrArg (Option.map _) singles

end Sql

/-! ## Tests -/

/-- The places of the values after the first one of a list. -/
def furtherPlaces : List Cell → List (Piece Cell)
  | [] => []
  | value :: rest => .words ", " :: .place (.value value) :: furtherPlaces rest

theorem listPlaces_cons (value : Cell) (rest : List Cell) :
    listPlaces ((value :: rest).map .value) = .place (.value value) :: furtherPlaces rest := by
  have further : ∀ rest : List Cell,
      (rest.map fun value => [Piece.place (.value value)]).flatMap
        (fun next => .words ", " :: next) = furtherPlaces rest := by
    intro rest
    induction rest with
    | nil =>
        rfl
    | cons value rest induction =>
        rw [furtherPlaces, ← induction]
        rfl
  have same := further rest
  simpa [listPlaces, separate, Function.comp_def] using same

/-- Listed values are read back up to the parenthesis behind them. -/
theorem reads_furtherPlaces (values : List Cell) (before : Nat) :
    ∃ operands,
      numbered tokens before (furtherPlaces values ++ [.words ")"]) =
        Operand.listEnd operands ∧
      ∀ all, Supplied all before (furtherPlaces values) →
        operands.mapM (Operand.cell? all) = some values := by
  induction values generalizing before with
  | nil =>
      exact ⟨[], rfl, fun _ _ => rfl⟩
  | cons value rest induction =>
      rcases induction (before + 1) with ⟨operands, same, reads⟩
      refine ⟨.place (before + 1) :: operands, ?_, ?_⟩
      · rw [Operand.listEnd, ← same]
        rfl
      · intro all supplied
        exact mapM_cons_eq_some_iff.mpr
          ⟨value, rest, cell?_of_supplied supplied, reads all (supplied_of_place supplied), rfl⟩

namespace Filter

theorem Comparison.lex?_sign (comparison : Comparison) :
    lex? (" " ++ comparison.sign ++ " ") = some [.sign comparison.sign] := by
  cases comparison <;> rfl

theorem Comparison.isSeparator_sign (comparison : Comparison) :
    isSeparator (" " ++ comparison.sign ++ " ") = true := by
  cases comparison <;> rfl

theorem Test.apart_condition
    {column : String} {test : Test Cell} {pieces : List (Piece Cell)}
    (made : test.condition column = .ok pieces) :
    Apart pieces := by
  cases test with
  | compare comparison value =>
      cases made
      exact (apart_name column).join comparison.isSeparator_sign (apart_place _)
  | between low high =>
      cases made
      have upToLow : Apart [.name column, .words " BETWEEN ", .place (.value low)] :=
        (apart_name column).join rfl (apart_place _)
      exact upToLow.join rfl (apart_place _)
  | among values =>
      cases made
      have listed : Apart (listPlaces (values.map .value)) := by
        apply Apart.separate _ rfl
        intro part member
        rcases List.mem_map.mp member with ⟨bound, -, rfl⟩
        exact apart_place bound
      have upToList : Apart ([.name column] ++ .words " IN (" :: listPlaces (values.map .value)) :=
        (apart_name column).join rfl listed
      exact upToList.join rfl apart_nil
  | contains part =>
      cases made
      exact (apart_name column).join rfl (apart_place _)
  | startsWith start =>
      cases made
      exact (apart_name column).join rfl (apart_place _)
  | unknown name =>
      cases made

/-- A test is read back from its condition behind the column. -/
theorem Test.reads_back
    {type : FeatureType} {column : String} {test : Test Cell} {pieces : List (Piece Cell)}
    (fits : test.Fits type) (made : test.condition column = .ok pieces) (before : Nat) :
    ∃ question : Question,
      numbered tokens before pieces = .name column :: question.tokens ∧
      ∀ all, Supplied all before pieces → question.test? all = some test := by
  cases test with
  | compare comparison value =>
      cases made
      refine ⟨.compare comparison (.place (before + 1)), ?_, ?_⟩
      · simp only [numbered, Piece.tokens, comparison.lex?_sign]
        rfl
      · intro all supplied
        rw [Question.test?, cell?_of_supplied supplied]
        rfl
  | between low high =>
      cases made
      refine ⟨.between (.place (before + 1)) (.place (before + 2)), rfl, ?_⟩
      intro all supplied
      have highSupplied : Supplied all (before + 1) [.place (.value high)] :=
        supplied_of_place supplied
      rw [Question.test?, cell?_of_supplied supplied, cell?_of_supplied highSupplied]
      rfl
  | among values =>
      cases made
      cases values with
      | nil =>
          exact absurd fits.2.1 (by decide)
      | cons value rest =>
          rcases reads_furtherPlaces rest (before + 1) with ⟨operands, same, reads⟩
          refine ⟨.among (.place (before + 1)) operands, ?_, ?_⟩
          · rw [Question.tokens, ← same, listPlaces_cons]
            rfl
          · intro all supplied
            rw [listPlaces_cons] at supplied
            have listed : Supplied all before (.place (.value value) :: furtherPlaces rest) :=
              (supplied_of_append (supplied_of_append supplied).1).2
            have cells : (Operand.place (before + 1) :: operands).mapM (Operand.cell? all) =
                some (value :: rest) :=
              mapM_cons_eq_some_iff.mpr
                ⟨value, rest, cell?_of_supplied listed, reads all (supplied_of_place listed), rfl⟩
            rw [Question.test?, cells]
            rfl
  | contains part =>
      cases made
      refine ⟨.alike (.place (before + 1)), rfl, ?_⟩
      intro all supplied
      rw [Question.test?, Operand.pattern?, Operand.param?, param?_of_supplied supplied]
      exact Pattern.test?_containing part
  | startsWith start =>
      cases made
      refine ⟨.alike (.place (before + 1)), rfl, ?_⟩
      intro all supplied
      rw [Question.test?, Operand.pattern?, Operand.param?, param?_of_supplied supplied]
      exact Pattern.test?_startingWith fits.2
  | unknown name =>
      cases made

end Filter

/-! ## Filters -/

/-- A derivation that has the tokens of pieces and is read back as a filter. -/
structure ReadsAs
    (schema : Schema) (before : Nat) (pieces : List (Piece Cell))
    (primary : Primary) (node : Node Cell) : Prop where
  tokens : primary.tokens = numbered tokens before pieces
  node : ∀ all, Supplied all before pieces → primary.node? schema all = some node

/-- Pieces that are read as a filter, however many parameters there are before. -/
structure Readable (schema : Schema) (pieces : List (Piece Cell)) (node : Node Cell) : Prop where
  apart : Apart pieces
  read : ∀ before, ∃ primary, ReadsAs schema before pieces primary node

section Groups

variable {schema : Schema}

/-- Readable parts are read one after the other. -/
theorem reads_parts
    {word : String} {parts : List (List (Piece Cell))} {nodes : List (Node Cell)}
    (spelled : lex? (" " ++ word ++ " ") = some [.word word])
    (each : List.Forall₂ (Readable schema) parts nodes) (filled : nodes ≠ []) (before : Nat) :
    ∃ first rest,
      joined word first rest = numbered tokens before (separate (" " ++ word ++ " ") parts) ∧
      ∀ all, Supplied all before (separate (" " ++ word ++ " ") parts) →
        (first :: rest).mapM (Primary.node? schema all) = some nodes := by
  induction each generalizing before with
  | nil =>
      exact absurd rfl filled
  | @cons part node parts nodes readable others induction =>
      rcases readable.read before with ⟨primary, reads⟩
      cases others with
      | nil =>
          refine ⟨primary, [], ?_, ?_⟩
          · simp [joined, separate, reads.tokens]
          · intro all supplied
            have only : Supplied all before part := by
              simpa [separate] using supplied
            exact mapM_cons_eq_some_iff.mpr ⟨node, [], reads.node all only, rfl, rfl⟩
      | @cons next other parts nodes readable' others' =>
          -- the parameters of the later parts stand behind those of this one
          rcases induction (by simp) (before + (bounds part).length) with
            ⟨second, rest, same, readLater⟩
          refine ⟨primary, second :: rest, ?_, ?_⟩
          · rw [separate_cons_cons, numbered_append, numbered, Piece.tokens, spelled]
            rw [joined] at same ⊢
            rw [List.flatMap_cons, reads.tokens]
            exact congrArg (_ ++ .word word :: ·) same
          · intro all supplied
            rw [separate_cons_cons] at supplied
            rcases supplied_of_append supplied with ⟨inPart, later⟩
            exact mapM_cons_eq_some_iff.mpr
              ⟨node, other :: nodes, reads.node all inPart, readLater all later, rfl⟩

theorem Filter.Connective.spelled
    {connective : Connective}
    (known : connective = .all ∨ connective = .any) :
    lex? (" " ++ connective.word ++ " ") = some [.word connective.word] ∧
      isSeparator (" " ++ connective.word ++ " ") = true := by
  rcases known with rfl | rfl
  · exact ⟨rfl, rfl⟩
  · exact ⟨rfl, rfl⟩

/-- A group of readable parts is read as the group, with "and" if there is one part only. -/
theorem readable_group
    {connective : Connective} {parts : List (List (Piece Cell))} {nodes : List (Node Cell)}
    (known : connective = .all ∨ connective = .any)
    (each : List.Forall₂ (Readable schema) parts nodes) (filled : nodes ≠ []) :
    Readable schema
      ([.words "("] ++ separate (" " ++ connective.word ++ " ") parts ++ [.words ")"])
      (.group (if nodes.length = 1 then .all else connective) nodes) where
  apart := by
    have apartParts : ∀ part ∈ parts, Apart part :=
      ((List.forall₂_and_left _ _).mp (each.imp fun _ _ readable => ⟨readable.apart, readable⟩)).1
    have opened : Apart ([] ++ .words "(" :: separate (" " ++ connective.word ++ " ") parts) :=
      apart_nil.join rfl (Apart.separate apartParts (Connective.spelled known).2)
    exact opened.join rfl apart_nil
  read := by
    intro before
    rcases reads_parts (Connective.spelled known).1 each filled before with
      ⟨first, rest, same, reads⟩
    -- words bind nothing, so the parentheses change nothing about the parameters
    have inside : ∀ all,
        Supplied all before
          ([.words "("] ++ separate (" " ++ connective.word ++ " ") parts ++ [.words ")"]) →
        Supplied all before (separate (" " ++ connective.word ++ " ") parts) := by
      intro all supplied
      exact (supplied_of_append supplied).1
    have grouped : numbered tokens before
        ([.words "("] ++ separate (" " ++ connective.word ++ " ") parts ++ [.words ")"]) =
          .opening :: (joined connective.word first rest ++ [.closing]) := by
      rw [numbered_append, numbered_append, same]
      rfl
    rcases known with rfl | rfl
    · refine ⟨.grouped (.single (Conjunction.ofList first rest)), ?_, ?_⟩
      · rw [grouped, Primary.tokens, Disjunction.tokens, Conjunction.tokens_ofList]
        rfl
      · intro all supplied
        rw [Primary.node?, Disjunction.alternatives?,
          Conjunction.nodes?_ofList (reads all (inside all supplied)), ite_self]
        rfl
    · refine ⟨.grouped (Disjunction.ofList first rest), ?_, ?_⟩
      · rw [grouped, Primary.tokens, Disjunction.tokens_ofList]
        rfl
      · intro all supplied
        rw [Primary.node?, Disjunction.alternatives?_ofList (reads all (inside all supplied))]
        exact group?_singles nodes

end Groups

namespace Filter.Node

variable {schema : Schema}

theorem conditions_forall₂
    {nodes : List (Node Cell)} {parts : List (List (Piece Cell))}
    (made : conditions schema nodes = .ok parts) :
    List.Forall₂ (fun node part => node.condition schema = .ok part) nodes parts := by
  induction nodes generalizing parts with
  | nil =>
      cases made
      exact .nil
  | cons node rest induction =>
      rw [conditions_cons] at made
      rcases bind_eq_ok_iff.mp made with ⟨first, madeFirst, later⟩
      rcases map_eq_ok_iff.mp later with ⟨others, madeOthers, rfl⟩
      exact .cons madeFirst (induction madeOthers)

/-- Every part is the condition of one of the nodes. -/
theorem exists_of_mem_conditions
    {nodes : List (Node Cell)} {parts : List (List (Piece Cell))} {part : List (Piece Cell)}
    (made : conditions schema nodes = .ok parts) (member : part ∈ parts) :
    ∃ node ∈ nodes, node.condition schema = .ok part := by
  have pairs := conditions_forall₂ made
  clear made
  induction pairs with
  | nil =>
      cases member
  | cons madeFirst _ induction =>
      rcases List.mem_cons.mp member with rfl | later
      · exact ⟨_, List.mem_cons_self, madeFirst⟩
      · rcases induction later with ⟨node, inside, madeLater⟩
        exact ⟨node, List.mem_cons_of_mem _ inside, madeLater⟩

/-- The condition of a well-formed filter is read as the filter. -/
theorem readable_condition
    {depth : Int} {node : Node Cell}
    (wellFormed : WellFormed schema depth node) {pieces : List (Piece Cell)}
    (made : node.condition schema = .ok pieces) :
    Readable schema pieces node.plain := by
  induction wellFormed generalizing pieces with
  | @leaf depth index feature test found fits =>
      rw [condition, found] at made
      constructor
      case apart =>
        exact Test.apart_condition made
      case read =>
        intro before
        rcases Test.reads_back fits made before with ⟨question, same, reads⟩
        refine ⟨.test (.column feature.name) question, same.symm, ?_⟩
        intro all supplied
        rw [Primary.node?, Operand.index?, Schema.byName?_of_get? found, reads all supplied,
          Option.map_some, Schema.index_of_get? found, plain]
        rfl
  | @group depth connective children known _ filled _ induction =>
      rw [condition] at made
      rcases map_eq_ok_iff.mp made with ⟨parts, madeParts, rfl⟩
      have each : List.Forall₂ (Readable schema) parts (plains children) := by
        have both := (List.forall₂_and_left _ _).mpr
          ⟨fun child member pieces => @induction child member pieces, conditions_forall₂ madeParts⟩
        rw [plains_eq_map, List.forall₂_map_right_iff]
        apply List.Forall₂.flip
        exact both.imp fun child part made => made.1 part made.2
      have lengths : (plains children).length = children.length := by
        rw [plains_eq_map, List.length_map]
      have filledToo : plains children ≠ [] := by
        rw [plains_eq_map]
        exact mt List.map_eq_nil_iff.mp filled
      rw [plain, ← lengths]
      exact readable_group known each filledToo

/-- The text of the condition of an admitted filter has exactly one derivation.  With the
parameters behind those that were given before, it is read back as the filter, and it selects the
same rows, whatever the database decides about single values. -/
theorem condition_reads_back
    {tree : Node Cell}
    (admitted : Admitted schema (some tree)) (given : List Raw) :
    ∃ pieces, tree.condition schema = .ok pieces ∧
      ∃ condition : Disjunction,
        (∀ other : Disjunction,
          lex? (text given.length pieces) = some other.tokens ↔ other = condition) ∧
        condition.node? schema (given ++ params pieces) = some tree.plain ∧
        ∀ (dialect : Dialect) (rows : List (List Raw)),
          rows.filter (condition.selects schema (given ++ params pieces) dialect) =
            rows.filter (tree.selects dialect) := by
  rcases admitted with ⟨value, depth, accepted⟩
  have wellFormed : WellFormed schema depth tree := wellFormed_of_acceptWithin rfl accepted
  rcases condition_of_wellFormed wellFormed with ⟨pieces, made⟩
  have readable := readable_condition wellFormed made
  rcases readable.read given.length with ⟨primary, reads⟩
  have supplied : Supplied (given ++ params pieces) given.length pieces := by
    rw [Supplied, List.drop_left]
  have recovered := reads.node _ supplied
  refine ⟨pieces, made, .single (.single primary), ?_, recovered, ?_⟩
  · intro other
    rw [lex?_text readable.apart, ← reads.tokens, Option.some.injEq, eq_comm]
    exact @Disjunction.tokens_inj other (.single (.single primary))
  · intro dialect rows
    congr 1
    funext row
    rw [Disjunction.selects, selects, ← truth_plain wellFormed]
    exact congrArg (· == some true) (Disjunction.truth_of_node? dialect row recovered)

/-- Columns whose names look like parts of a condition. -/
def deceptiveSchema : Schema where
  features := [⟨0, "a\" AND \"b", .numeric⟩, ⟨1, "x) OR ($1", .text⟩]
  inOrder := by
    rw [Schema.inOrder_cons, Schema.inOrder_cons]
    simp [Schema.InOrder]
  distinct := by
    decide

theorem condition_reads_back_deceptive :
    let bounds : Node Cell := .leaf 0 (.between (.number .zero) (.number .zero))
    let parts : Node Cell :=
      .group .any [.leaf 1 (.contains "100%"), .leaf 1 (.startsWith "%_\\")]
    let tree : Node Cell := .group .all [bounds, parts, .group .any [.leaf 1 (.among [.text "$1"])]]
    Admitted deceptiveSchema (some tree) ∧
      (tree.condition deceptiveSchema).map (text 1) =
        .ok ("(\"a\"\" AND \"\"b\" BETWEEN $2 AND $3 AND (\"x) OR ($1\" ILIKE $4 OR " ++
          "\"x) OR ($1\" ILIKE $5) AND (\"x) OR ($1\" IN ($6)))") ∧
      ∃ pieces, tree.condition deceptiveSchema = .ok pieces ∧
        ∃ condition : Disjunction,
          (∀ other : Disjunction,
            lex? (text 1 pieces) = some other.tokens ↔ other = condition) ∧
          condition.node? deceptiveSchema (.text "limit" :: params pieces) = some tree.plain := by
  intro bounds parts tree
  have wellFormedBounds : WellFormed deceptiveSchema 1 bounds :=
    .leaf rfl ⟨rfl, rfl, rfl⟩
  have wellFormedParts : WellFormed deceptiveSchema 1 parts := by
    apply WellFormed.group (.inr rfl) (by decide) (by simp)
    rw [List.forall_mem_cons, List.forall_mem_singleton]
    exact ⟨.leaf rfl ⟨rfl, by decide⟩, .leaf rfl ⟨rfl, by decide⟩⟩
  have wellFormedListed :
      WellFormed deceptiveSchema 1 (.group .any [.leaf 1 (.among [.text "$1"])]) := by
    apply WellFormed.group (.inr rfl) (by decide) (by simp)
    rw [List.forall_mem_singleton]
    exact .leaf rfl ⟨rfl, by decide, by decide, List.forall_mem_singleton.mpr rfl⟩
  have wellFormed : WellFormed deceptiveSchema 0 tree := by
    apply WellFormed.group (.inl rfl) (by decide) (by simp)
    rw [List.forall_mem_cons, List.forall_mem_cons, List.forall_mem_singleton]
    exact ⟨wellFormedBounds, wellFormedParts, wellFormedListed⟩
  have admitted : Admitted deceptiveSchema (some tree) := ⟨_, 0, accept_toRaw wellFormed⟩
  rcases condition_reads_back admitted [.text "limit"] with
    ⟨pieces, made, condition, unique, read, -⟩
  exact ⟨admitted, rfl, pieces, made, condition, unique, read⟩

end Filter.Node

end TableSource
