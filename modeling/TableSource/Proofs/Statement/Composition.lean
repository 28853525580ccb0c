import TableSource.Proofs.Statement.Lexing
import TableSource.Statement.Query

/-!
# Statements in parts

The text of a statement is made of fixed words and signs, of names, and of the places of parameters.
Pieces that are kept apart and may stand in a statement one by one are read as tokens that may stand
there, whatever they are put together to.  The places are numbered from left to right behind the
parameters that were given before, and the parameters are what is bound there, in the same order.
-/

namespace TableSource

open Sql

/-! ## Tokens of statements -/

namespace Sql

/-- The words of statements, and the one number that is written out. -/
def fixedWords : List String :=
  ["INSERT", "INTO", "VALUES", "SELECT", "DISTINCT", "COUNT", "AS", "total", "FROM", "WHERE", "AND",
    "OR", "BETWEEN", "IN", "ILIKE", "ORDER", "BY", "ASC", "DESC", "LIMIT", "OFFSET", "128"]

def fixedSigns : List String :=
  ["=", "<>", ">", ">=", "<", "<=", "*"]

namespace Token

/-- Whether a token is one of those that do not depend on names and values. -/
def isFixed : Token → Bool
  | .word written => fixedWords.contains written
  | .sign written => fixedSigns.contains written
  | .opening | .closing | .comma => true
  | .name _ | .place _ => false

/-- A token may stand in a statement about known names. -/
def Allowed (known : String → Prop) : Token → Prop
  | .name quoted => known quoted
  | .place _ => True
  | other => other.isFixed = true

def place? : Token → Option Nat
  | .place number => some number
  | _ => none

theorem allowed_of_isFixed
    {known : String → Prop} {token : Token}
    (fixed : token.isFixed = true) :
    token.Allowed known := by
  cases token with
  | name quoted =>
      cases fixed
  | place number =>
      cases fixed
  | _ =>
      exact fixed

theorem place?_of_isFixed
    {token : Token}
    (fixed : token.isFixed = true) :
    token.place? = none := by
  cases token with
  | place number =>
      cases fixed
  | _ =>
      rfl

end Token

variable {β : Type}

/-- A text is read as tokens that may stand in a statement.  Its places have the numbers of the
parameters behind those that were given, each once and in order, and what is found at them in turn
is what was to be bound. -/
structure Binds
    (known : String → Prop) (given bound : List β) (sql : String) (params : List β) : Prop where
  supplied : params = given ++ bound
  read : ∃ tokens, lex? sql = some tokens ∧
    (∀ token ∈ tokens, token.Allowed known) ∧
    tokens.filterMap Token.place? =
      List.range' (given.length + 1) (params.length - given.length) ∧
    (tokens.filterMap Token.place?).map (fun number => params[number - 1]?) = bound.map some

end Sql

/-! ## Texts and parameters together -/

variable {α β : Type}

namespace Piece

/-- Puts a piece behind a text and its parameters.  A place has the number of its parameter. -/
def write (bind : Bound α → β) (state : String × List β) : Piece α → String × List β
  | .words fixed => (state.1 ++ fixed, state.2)
  | .name quoted => (state.1 ++ quoteName quoted, state.2)
  | .place bound =>
    let params := state.2 ++ [bind bound]
    (state.1 ++ "$" ++ toString params.length, params)

/-- The text of pieces behind given parameters, and the parameters with those of the pieces. -/
def written (bind : Bound α → β) (given : List β) (pieces : List (Piece α)) : String × List β :=
  pieces.foldl (write bind) ("", given)

/-- Numbering by the parameters is numbering by their count. -/
theorem written_eq (bind : Bound α → β) (given : List β) (pieces : List (Piece α)) :
    written bind given pieces = (text given.length pieces, given ++ (bounds pieces).map bind) := by
  have behind : ∀ state : String × List β,
      pieces.foldl (write bind) state =
        ((pieces.foldl appendTo (state.1, state.2.length)).1,
          state.2 ++ (bounds pieces).map bind) := by
    induction pieces with
    | nil =>
        intro state
        simp [bounds]
    | cons piece rest induction =>
        intro state
        have counted : bounds (piece :: rest) = bounds [piece] ++ bounds rest :=
          List.filterMap_append (l := [piece])
        rw [List.foldl_cons, induction, counted]
        cases piece <;> simp [write, appendTo, bounds, bound?]
  exact behind ("", given)

/-- A piece may stand in a statement about known names. -/
def Allowed (known : String → Prop) : Piece α → Prop
  | .words fixed => (lex? fixed).any (·.all Token.isFixed) = true
  | .name quoted => known quoted
  | .place _ => True

theorem allowed_tokens
    {known : String → Prop} {piece : Piece α}
    (allowed : piece.Allowed known) (before : Nat) :
    ∀ token ∈ piece.tokens before, token.Allowed known := by
  cases piece with
  | words fixed =>
      rcases (Option.any_eq_true _ _).mp allowed with ⟨written, read, all⟩
      intro token member
      rw [Piece.tokens, read] at member
      exact Token.allowed_of_isFixed (List.all_eq_true.mp all token member)
  | name quoted =>
      exact List.forall_mem_singleton.mpr allowed
  | place bound =>
      intro token member
      cases List.mem_singleton.mp member
      trivial

theorem places_tokens
    {known : String → Prop} {piece : Piece α}
    (allowed : piece.Allowed known) (before : Nat) :
    (piece.tokens before).filterMap Token.place? =
      List.range' (before + 1) (bounds [piece]).length := by
  cases piece with
  | words fixed =>
      rcases (Option.any_eq_true _ _).mp allowed with ⟨written, read, all⟩
      rw [Piece.tokens, read]
      apply List.filterMap_eq_nil_iff.mpr
      intro token member
      exact Token.place?_of_isFixed (List.all_eq_true.mp all token member)
  | name quoted =>
      rfl
  | place bound =>
      rfl

/-! ## What is bound -/

@[simp]
theorem bounds_append (front back : List (Piece α)) :
    bounds (front ++ back) = bounds front ++ bounds back :=
  List.filterMap_append

@[simp]
theorem bounds_nil : bounds ([] : List (Piece α)) = [] := rfl

@[simp]
theorem bounds_words (fixed : String) (rest : List (Piece α)) :
    bounds (.words fixed :: rest) = bounds rest := rfl

@[simp]
theorem bounds_name (quoted : String) (rest : List (Piece α)) :
    bounds (.name quoted :: rest) = bounds rest := rfl

@[simp]
theorem bounds_place (bound : Bound α) (rest : List (Piece α)) :
    bounds (.place bound :: rest) = bound :: bounds rest := rfl

theorem bounds_map (f : α → β) (pieces : List (Piece α)) :
    bounds (pieces.map (map f)) = (bounds pieces).map (.map f) := by
  induction pieces with
  | nil =>
      rfl
  | cons piece rest induction =>
      cases piece <;> simp [map, induction]

/-- Separators bind nothing. -/
theorem bounds_separate (separator : String) (parts : List (List (Piece α))) :
    bounds (separate separator parts) = parts.flatMap bounds := by
  cases parts with
  | nil =>
      rfl
  | cons part rest =>
      have later : bounds (rest.flatMap fun next => .words separator :: next) =
          rest.flatMap bounds := by
        induction rest with
        | nil =>
            rfl
        | cons next others induction =>
            simp [induction]
      rw [separate, bounds_append, later, List.flatMap_cons]

@[simp]
theorem bounds_listNames (names : List String) :
    bounds (listNames names : List (Piece α)) = [] := by
  simp [listNames, bounds_separate]

@[simp]
theorem bounds_listPlaces (given : List (Bound α)) :
    bounds (listPlaces given) = given := by
  simp [listPlaces, bounds_separate, List.flatMap_map]

@[simp]
theorem bounds_clause (fixed : String) (content : List (Piece α)) :
    bounds (Statement.clause fixed content) = bounds content := by
  rw [Statement.clause]
  split
  · next empty =>
      rw [List.isEmpty_iff.mp empty]
  · rfl

/-! ## Composition -/

/-- Pieces that are kept apart, each of which may stand in a statement about known names. -/
structure Composed (known : String → Prop) (pieces : List (Piece α)) : Prop where
  apart : Apart pieces
  allowed : ∀ piece ∈ pieces, piece.Allowed known

section Composed

variable {known : String → Prop}

theorem numbered_allowed
    {pieces : List (Piece α)}
    (allowed : ∀ piece ∈ pieces, piece.Allowed known) (before : Nat) :
    (∀ token ∈ numbered tokens before pieces, token.Allowed known) ∧
      (numbered tokens before pieces).filterMap Token.place? =
        List.range' (before + 1) (bounds pieces).length := by
  induction pieces generalizing before with
  | nil =>
      exact ⟨by simp [numbered], rfl⟩
  | cons piece rest induction =>
      rw [List.forall_mem_cons] at allowed
      rcases induction allowed.2 (before + (bounds [piece]).length) with ⟨known, places⟩
      have counted : bounds (piece :: rest) = bounds [piece] ++ bounds rest :=
        List.filterMap_append (l := [piece])
      rw [numbered]
      constructor
      · rw [List.forall_mem_append]
        exact ⟨allowed_tokens allowed.1 before, known⟩
      · rw [List.filterMap_append, places_tokens allowed.1, places, counted, List.length_append,
          ← List.range'_append_1]
        congr 2
        omega

/-- Composed pieces bind what is at their places, whatever was given before. -/
theorem Composed.binds
    {pieces : List (Piece α)}
    (composed : Composed known pieces) (bind : Bound α → β) (given : List β) :
    Binds known given ((bounds pieces).map bind)
      (written bind given pieces).1 (written bind given pieces).2 := by
  rcases numbered_allowed composed.allowed given.length with ⟨allowed, places⟩
  rw [written_eq]
  refine ⟨rfl, _, lex?_text composed.apart given.length, allowed, ?_, ?_⟩
  · rw [places, List.length_append, List.length_map, Nat.add_sub_cancel_left]
  · rw [places]
    apply List.ext_getElem?
    intro place
    by_cases inside : place < (bounds pieces).length
    · simp [inside]
    · simp [inside]

theorem Composed.mono
    {known' : String → Prop} {pieces : List (Piece α)}
    (composed : Composed known pieces) (more : ∀ name, known name → known' name) :
    Composed known' pieces where
  apart := composed.apart
  allowed := by
    intro piece member
    have allowed := composed.allowed piece member
    cases piece with
    | name quoted =>
        exact more quoted allowed
    | _ =>
        exact allowed

theorem composed_nil :
    Composed known ([] : List (Piece α)) :=
  ⟨apart_nil, by simp⟩

theorem composed_name
    {name : String}
    (known' : known name) :
    Composed known [(.name name : Piece α)] :=
  ⟨apart_name name, List.forall_mem_singleton.mpr known'⟩

theorem composed_place (bound : Bound α) :
    Composed known [.place bound] :=
  ⟨apart_place bound, List.forall_mem_singleton.mpr trivial⟩

/-- Words of a statement that keep what is before them apart from what is after them. -/
def isFrame (fixed : String) : Bool :=
  isSeparator fixed && (lex? fixed).any (·.all Token.isFixed)

theorem Composed.join
    {front back : List (Piece α)} {fixed : String}
    (before : Composed known front) (frame : isFrame fixed = true) (after : Composed known back) :
    Composed known (front ++ .words fixed :: back) := by
  rcases Bool.and_eq_true_iff.mp frame with ⟨separator, allowed⟩
  refine ⟨before.apart.join separator after.apart, ?_⟩
  rw [List.forall_mem_append, List.forall_mem_cons]
  exact ⟨before.allowed, allowed, after.allowed⟩

/-- A statement may begin with words that leave no token open. -/
theorem Composed.lead
    {back : List (Piece α)} {fixed : String}
    (closes : (.words fixed : Piece α).closes = true)
    (allowed : (.words fixed : Piece α).Allowed known) (after : Composed known back) :
    Composed known (.words fixed :: back) := by
  refine ⟨⟨?_, List.isChain_cons.mpr ⟨fun _ _ => .inl closes, after.apart.chain⟩⟩, ?_⟩
  · intro other member
    rcases List.mem_cons.mp member with same | inside
    · cases same
      exact Option.isSome_of_any allowed
    · exact after.apart.words other inside
  · rw [List.forall_mem_cons]
    exact ⟨allowed, after.allowed⟩

/-- A statement may end with words that end every token before them. -/
theorem Composed.trail
    {front : List (Piece α)} {fixed : String}
    (before : Composed known front) (opens : (.words fixed : Piece α).opens = true)
    (allowed : (.words fixed : Piece α).Allowed known) :
    Composed known (front ++ [.words fixed]) := by
  refine ⟨⟨?_, ?_⟩, ?_⟩
  · intro other member
    rcases List.mem_append.mp member with inside | last
    · exact before.apart.words other inside
    · cases List.mem_singleton.mp last
      exact Option.isSome_of_any allowed
  · apply List.isChain_append.mpr
    refine ⟨before.apart.chain, .singleton _, ?_⟩
    intro first _ second member
    cases member
    exact .inr opens
  · rw [List.forall_mem_append, List.forall_mem_singleton]
    exact ⟨before.allowed, allowed⟩

theorem Composed.separate
    {parts : List (List (Piece α))} {separator : String}
    (each : ∀ part ∈ parts, Composed known part) (frame : isFrame separator = true) :
    Composed known (separate separator parts) := by
  induction parts with
  | nil =>
      exact composed_nil
  | cons part rest induction =>
      rw [List.forall_mem_cons] at each
      cases rest with
      | nil =>
          simpa [Piece.separate] using each.1
      | cons next others =>
          rw [separate_cons_cons]
          exact each.1.join frame (induction each.2)

theorem composed_listNames
    {names : List String}
    (each : ∀ name ∈ names, known name) :
    Composed known (listNames names : List (Piece α)) := by
  apply Composed.separate _ rfl
  intro part member
  rcases List.mem_map.mp member with ⟨name, inside, rfl⟩
  exact composed_name (each name inside)

theorem composed_listPlaces (bounds : List (Bound α)) :
    Composed known (listPlaces bounds) := by
  apply Composed.separate _ rfl
  intro part member
  rcases List.mem_map.mp member with ⟨bound, -, rfl⟩
  exact composed_place bound

theorem Composed.clause
    {front content : List (Piece α)} {fixed : String}
    (before : Composed known front) (frame : isFrame fixed = true)
    (after : Composed known content) :
    Composed known (front ++ Statement.clause fixed content) := by
  rw [Statement.clause]
  split
  · rw [List.append_nil]
    exact before
  · exact before.join frame after

end Composed

end Piece

end TableSource
