import Mathlib.Data.List.Chain
import TableSource.Statement.Basic
import TableSource.Text.Digit

/-!
# Reading the text of a statement

The text of a statement is read character by character.  A quoted name ends at the first quotation
mark that is not doubled, a dollar sign and digits are the number of a parameter, and words and
signs reach as far as they can.  Names may hold any characters, also those that mean something
outside of quotation marks.

Pieces that are kept apart, so that no token runs into the next one, are read as what they are.
-/

namespace TableSource

namespace Sql

open Text

/-! ## Tokens -/

inductive Token where
  | name (name : String)
  /-- The place of a parameter. -/
  | place (number : Nat)
  | word (word : String)
  | sign (sign : String)
  | opening
  | closing
  | comma
  deriving DecidableEq, Repr

/-- What has been read of the current token. -/
inductive Mode where
  | between
  /-- Inside quotation marks, with the characters of the name so far, the last one first. -/
  | quoted (read : List Char)
  /-- At a quotation mark that ends the name, unless another one follows. -/
  | quote (read : List Char)
  | dollar
  | digits (number : Nat)
  | word (read : List Char)
  | sign (read : List Char)
  /-- Behind something that is no token. -/
  | broken
  deriving DecidableEq, Repr

def isWordChar (c : Char) : Bool :=
  c.isAlphanum || c == '_'

def isSignChar (c : Char) : Bool :=
  ['+', '-', '*', '/', '<', '>', '=', '~', '!', '%'].contains c

/-- Whether a character ends every token outside of quotation marks. -/
def isDelimiter (c : Char) : Bool :=
  [' ', '(', ')', ','].contains c

namespace Mode

/-- The tokens that are complete if nothing follows. -/
def finish? : Mode → Option (List Token)
  | .between => some []
  | .quoted _ | .dollar | .broken => none
  | .quote read => some [.name (String.ofList read.reverse)]
  | .digits number => some [.place number]
  | .word read => some [.word (String.ofList read.reverse)]
  | .sign read => some [.sign (String.ofList read.reverse)]

/-- The current token with another character, if it goes on with it. -/
def goOn? : Mode → Char → Option Mode
  | .between, _ => none
  | .quoted read, c => some (if c = '"' then .quote read else .quoted (c :: read))
  | .quote read, c => if c = '"' then some (.quoted (c :: read)) else none
  | .dollar, c => if isAsciiDigit c then some (.digits (asciiDigitValue c)) else none
  | .digits number, c =>
    if isAsciiDigit c then some (.digits (10 * number + asciiDigitValue c)) else none
  | .word read, c => if isWordChar c then some (.word (c :: read)) else none
  | .sign read, c => if isSignChar c then some (.sign (c :: read)) else none
  | .broken, _ => some .broken

/-- What a character begins between two tokens. -/
def begin (c : Char) : List Token × Mode :=
  if c = ' ' then ([], .between)
  else if c = '(' then ([.opening], .between)
  else if c = ')' then ([.closing], .between)
  else if c = ',' then ([.comma], .between)
  else if c = '"' then ([], .quoted [])
  else if c = '$' then ([], .dollar)
  else if isWordChar c then ([], .word [c])
  else if isSignChar c then ([], .sign [c])
  else ([], .broken)

/-- Reads a character, which completes some tokens. -/
def step (mode : Mode) (c : Char) : List Token × Mode :=
  match mode.goOn? c with
  | some next => ([], next)
  | none =>
    match mode.finish? with
    | some ended => (ended ++ (begin c).1, (begin c).2)
    | none => ([], .broken)

def run : Mode → List Char → List Token × Mode
  | mode, [] => ([], mode)
  | mode, c :: rest =>
    let (first, next) := mode.step c
    let (others, last) := run next rest
    (first ++ others, last)

/-- The tokens of characters up to their end. -/
def scan? (mode : Mode) (chars : List Char) : Option (List Token) :=
  (mode.run chars).2.finish?.map ((mode.run chars).1 ++ ·)

end Mode

/-- The tokens of a text, if it can be read. -/
def lex? (text : String) : Option (List Token) :=
  Mode.scan? .between text.toList

/-! ## Reading part by part -/

namespace Mode

theorem run_append (mode : Mode) (front back : List Char) :
    mode.run (front ++ back) =
      ((mode.run front).1 ++ ((mode.run front).2.run back).1,
        ((mode.run front).2.run back).2) := by
  induction front generalizing mode with
  | nil =>
      rfl
  | cons c rest induction =>
      simp only [List.cons_append, run, induction, List.append_assoc]

/-- After a part has been read, the rest is read from where it leaves off. -/
theorem scan?_append (mode : Mode) (front back : List Char) :
    mode.scan? (front ++ back) =
      ((mode.run front).2.scan? back).map ((mode.run front).1 ++ ·) := by
  simp only [scan?, run_append, Option.map_map, Function.comp_def, List.append_assoc]

theorem delimiter_cases
    {c : Char}
    (delimiter : isDelimiter c = true) :
    c = ' ' ∨ c = '(' ∨ c = ')' ∨ c = ',' := by
  simpa [isDelimiter] using delimiter

/-- A delimiter completes the current token, and is read as between tokens. -/
theorem step_delimiter
    {mode : Mode} {c : Char} {ended : List Token}
    (delimiter : isDelimiter c = true)
    (finished : mode.finish? = some ended) :
    mode.step c = (ended ++ (step .between c).1, .between) := by
  cases mode with
  | quoted read =>
      cases finished
  | dollar =>
      cases finished
  | broken =>
      cases finished
  | _ =>
      cases finished
      rcases delimiter_cases delimiter with rfl | rfl | rfl | rfl <;> rfl

theorem scan?_delimiter
    {mode : Mode} {c : Char} {ended : List Token}
    (delimiter : isDelimiter c = true)
    (finished : mode.finish? = some ended) (rest : List Char) :
    mode.scan? (c :: rest) = (scan? .between (c :: rest)).map (ended ++ ·) := by
  have plain : step .between c = ((step .between c).1, .between) := step_delimiter delimiter rfl
  simp only [scan?, run]
  rw [step_delimiter delimiter finished, plain]
  simp only [Option.map_map, Function.comp_def, List.append_assoc]

/-- Behind a delimiter no token is open, unless nothing can be read any more. -/
theorem between_of_delimiter
    (mode : Mode) (front : List Char) {c : Char}
    (delimiter : isDelimiter c = true)
    (finishes : (mode.run (front ++ [c])).2.finish?.isSome = true) :
    (mode.run (front ++ [c])).2 = .between := by
  have last : (mode.run (front ++ [c])).2 = ((mode.run front).2.step c).2 := by
    rw [run_append]
    rfl
  rw [last] at finishes ⊢
  cases inside : (mode.run front).2 with
  | quoted read =>
      rw [inside] at finishes
      rcases delimiter_cases delimiter with rfl | rfl | rfl | rfl <;> cases finishes
  | dollar =>
      rw [inside] at finishes
      rcases delimiter_cases delimiter with rfl | rfl | rfl | rfl <;> cases finishes
  | broken =>
      rw [inside] at finishes
      cases finishes
  | _ =>
      rw [step_delimiter delimiter rfl]

/-! ## Names and places -/

theorem run_quoted (cs read : List Char) :
    run (.quoted read) (cs.flatMap (fun c => if c = '"' then ['"', '"'] else [c]) ++ ['"']) =
      ([], .quote (cs.reverse ++ read)) := by
  induction cs generalizing read with
  | nil =>
      rfl
  | cons c rest induction =>
      by_cases mark : c = '"'
      · subst mark
        simp [run, step, goOn?, induction]
      · simp [run, step, goOn?, mark, induction]

/-- A quoted name is read as the name, whatever characters it has. -/
theorem run_quoteName (name : String) :
    run .between (quoteName name).toList = ([], .quote name.toList.reverse) := by
  rw [quoteName, String.toList_ofList, List.cons_append, run]
  simp only [step, goOn?, finish?, begin]
  simp [run_quoted]

theorem asciiDigitValue_natDigitChar
    {digit : Nat}
    (small : digit < 10) :
    isAsciiDigit digit.digitChar = true ∧ asciiDigitValue digit.digitChar = digit := by
  have each : ∀ digit < 10,
      isAsciiDigit digit.digitChar = true ∧ asciiDigitValue digit.digitChar = digit := by
    decide
  exact each digit small

theorem run_digit
    (number : Nat) {digit : Nat}
    (small : digit < 10) :
    run (.digits number) [digit.digitChar] = ([], .digits (10 * number + digit)) := by
  rcases asciiDigitValue_natDigitChar small with ⟨isDigit, value⟩
  simp [run, step, goOn?, isDigit, value]

theorem run_toDigits (number : Nat) :
    run .dollar (Nat.toDigits 10 number) = ([], .digits number) := by
  induction number using Nat.strongRecOn with
  | _ number induction =>
      by_cases small : number < 10
      · rcases asciiDigitValue_natDigitChar small with ⟨isDigit, value⟩
        rw [Nat.toDigits_of_lt_base small]
        simp [run, step, goOn?, isDigit, value]
      · rw [Nat.toDigits_of_base_le (by decide) (Nat.le_of_not_lt small), run_append,
          induction (number / 10) (by omega)]
        simp only [run_digit _ (Nat.mod_lt number (by decide : 0 < 10))]
        simp only [List.nil_append, Prod.mk.injEq, digits.injEq, true_and]
        omega

/-- The number of a place is read as it was written. -/
theorem run_place (number : Nat) :
    run .between ("$" ++ toString number).toList = ([], .digits number) := by
  have written : ("$" ++ toString number).toList = '$' :: Nat.toDigits 10 number := by
    simp [Nat.repr]
  rw [written, run]
  simp only [step, goOn?, finish?, begin]
  simp [run_toDigits]

end Mode

end Sql

/-! ## Pieces -/

namespace Piece

open Sql

variable {α β : Type}

/-- What pieces become one after the other, when each knows the number of places before it. -/
def numbered (become : Nat → Piece α → List β) : Nat → List (Piece α) → List β
  | _, [] => []
  | before, piece :: rest =>
    become before piece ++ numbered become (before + (bounds [piece]).length) rest

theorem numbered_append
    (become : Nat → Piece α → List β) (before : Nat) (front back : List (Piece α)) :
    numbered become before (front ++ back) =
      numbered become before front ++
        numbered become (before + (bounds front).length) back := by
  induction front generalizing before with
  | nil =>
      rfl
  | cons piece rest induction =>
      have counted : (bounds (piece :: rest)).length =
          (bounds [piece]).length + (bounds rest).length := by
        rw [← List.length_append, bounds, bounds, bounds, ← List.filterMap_append]
        rfl
      rw [List.cons_append, numbered, induction, numbered, counted, Nat.add_assoc,
        List.append_assoc]

def chars (before : Nat) : Piece α → List Char
  | .words fixed => fixed.toList
  | .name quoted => (quoteName quoted).toList
  | .place _ => ("$" ++ toString (before + 1)).toList

/-- The tokens that a piece is meant to be. -/
def tokens (before : Nat) : Piece α → List Token
  | .words fixed => (lex? fixed).getD []
  | .name quoted => [.name quoted]
  | .place _ => [.place (before + 1)]

theorem toList_text (before : Nat) (pieces : List (Piece α)) :
    (text before pieces).toList = numbered chars before pieces := by
  have appended : ∀ written : String,
      (pieces.foldl appendTo (written, before)).1.toList =
        written.toList ++ numbered chars before pieces := by
    induction pieces generalizing before with
    | nil =>
        intro written
        simp [numbered]
    | cons piece rest induction =>
        intro written
        cases piece with
        | words fixed =>
            have counted : bounds [(.words fixed : Piece α)] = [] := rfl
            simp [appendTo, numbered, chars, counted, induction]
        | name quoted =>
            have counted : bounds [(.name quoted : Piece α)] = [] := rfl
            simp [appendTo, numbered, chars, counted, induction]
        | place bound =>
            have counted : bounds [.place bound] = [bound] := rfl
            simp [appendTo, numbered, chars, counted, induction]
  simpa [text] using appended ""

/-! ## Pieces that are kept apart -/

/-- Whether a piece ends every token before it. -/
def opens : Piece α → Bool
  | .words fixed => fixed.toList.head?.any isDelimiter
  | _ => false

/-- Whether a piece leaves no token open. -/
def closes : Piece α → Bool
  | .words fixed => fixed.toList.getLast?.any isDelimiter
  | _ => false

/-- Pieces whose words can be read by themselves, and no two of which run together. -/
structure Apart (pieces : List (Piece α)) : Prop where
  words : ∀ fixed, .words fixed ∈ pieces → (lex? fixed).isSome = true
  chain : pieces.IsChain fun first second => first.closes = true ∨ second.opens = true

theorem Apart.tail
    {piece : Piece α} {rest : List (Piece α)}
    (apart : Apart (piece :: rest)) :
    Apart rest where
  words := fun fixed member => apart.words fixed (List.mem_cons_of_mem piece member)
  chain := apart.chain.tail

/-- A piece is read as the tokens that it is meant to be. -/
theorem run_chars
    (before : Nat) {piece : Piece α}
    (readable : ∀ fixed, piece = .words fixed → (lex? fixed).isSome = true) :
    ∃ ended, (Mode.run .between (piece.chars before)).2.finish? = some ended ∧
      (Mode.run .between (piece.chars before)).1 ++ ended = piece.tokens before ∧
      (piece.closes = true → (Mode.run .between (piece.chars before)).2 = .between) := by
  cases piece with
  | name quoted =>
      rw [chars, Mode.run_quoteName]
      refine ⟨_, rfl, ?_, ?_⟩
      · rw [List.reverse_reverse, String.ofList_toList]
        rfl
      · intro closes
        cases closes
  | place bound =>
      rw [chars, Mode.run_place]
      refine ⟨_, rfl, rfl, ?_⟩
      intro closes
      cases closes
  | words fixed =>
      rcases Option.isSome_iff_exists.mp (readable fixed rfl) with ⟨tokens, read⟩
      rcases Option.map_eq_some_iff.mp read with ⟨ended, finished, same⟩
      refine ⟨ended, finished, ?_, ?_⟩
      · rw [Piece.tokens, read]
        exact same
      · intro closes
        rcases (Option.any_eq_true _ _).mp closes with ⟨c, last, delimiter⟩
        rcases List.getLast?_eq_some_iff.mp last with ⟨front, split⟩
        rw [split] at finished
        rw [chars, split]
        apply Mode.between_of_delimiter _ _ delimiter
        rw [finished]
        rfl

theorem scan?_of_opens
    {mode : Mode} {ended : List Token} {piece : Piece α}
    (finished : mode.finish? = some ended)
    (fits : mode = .between ∨ piece.opens = true) (before : Nat) (rest : List Char) :
    mode.scan? (piece.chars before ++ rest) =
      (Mode.scan? .between (piece.chars before ++ rest)).map (ended ++ ·) := by
  rcases fits with rfl | opens
  · cases finished
    simp
  · cases piece with
    | words fixed =>
        rcases (Option.any_eq_true _ _).mp opens with ⟨c, first, delimiter⟩
        rcases List.head?_eq_some_iff.mp first with ⟨others, split⟩
        rw [chars, split]
        exact Mode.scan?_delimiter delimiter finished (others ++ rest)
    | name quoted =>
        cases opens
    | place bound =>
        cases opens

/-- Pieces that are kept apart are read one by one, after a token that they do not go on with. -/
theorem scan?_chars
    {pieces : List (Piece α)} {mode : Mode} {ended : List Token}
    (apart : Apart pieces) (finished : mode.finish? = some ended)
    (fits : mode = .between ∨ ∀ piece ∈ pieces.head?, piece.opens = true) (before : Nat) :
    mode.scan? (numbered chars before pieces) = some (ended ++ numbered tokens before pieces) := by
  induction pieces generalizing mode ended before with
  | nil =>
      simp [numbered, Mode.scan?, Mode.run, finished]
  | cons piece rest induction =>
      have first : mode = .between ∨ piece.opens = true :=
        fits.imp_right fun opens => opens piece rfl
      have readable : ∀ fixed, piece = .words fixed → (lex? fixed).isSome = true := by
        rintro fixed rfl
        exact apart.words fixed List.mem_cons_self
      rcases run_chars before readable with ⟨complete, finishes, same, closed⟩
      -- a token that this piece leaves open is ended by the next piece
      have next : (Mode.run .between (piece.chars before)).2 = .between ∨
          ∀ other ∈ rest.head?, other.opens = true := by
        cases rest with
        | nil =>
            exact .inr fun other member => nomatch member
        | cons other others =>
            rcases (List.isChain_cons_cons.mp apart.chain).1 with closes | opens
            · exact .inl (closed closes)
            · refine .inr fun another member => ?_
              cases member
              exact opens
      rw [numbered, numbered, scan?_of_opens finished first, Mode.scan?_append,
        induction apart.tail finishes next, ← same]
      simp

/-- The text of pieces that are kept apart is read as the tokens that they are meant to be. -/
theorem lex?_text
    {pieces : List (Piece α)}
    (apart : Apart pieces) (before : Nat) :
    lex? (text before pieces) = some (numbered tokens before pieces) := by
  rw [lex?, toList_text]
  exact scan?_chars apart rfl (.inl rfl) before

/-! ## Keeping pieces apart -/

theorem apart_nil :
    Apart ([] : List (Piece α)) where
  words := fun _ member => nomatch member
  chain := .nil

theorem apart_name (name : String) :
    Apart [(.name name : Piece α)] where
  words := fun _ member => nomatch List.mem_singleton.mp member
  chain := .singleton _

theorem apart_place (bound : Bound α) :
    Apart [.place bound] where
  words := fun _ member => nomatch List.mem_singleton.mp member
  chain := .singleton _

/-- Words that keep what is before them apart from what is after them. -/
def isSeparator (fixed : String) : Bool :=
  (lex? fixed).isSome && fixed.toList.head?.any isDelimiter &&
    fixed.toList.getLast?.any isDelimiter

theorem Apart.join
    {front back : List (Piece α)} {fixed : String}
    (before : Apart front) (separator : isSeparator fixed = true) (after : Apart back) :
    Apart (front ++ .words fixed :: back) := by
  simp only [isSeparator, Bool.and_eq_true] at separator
  constructor
  case words =>
    intro other member
    rcases List.mem_append.mp member with inFront | inBack
    · exact before.words other inFront
    · rcases List.mem_cons.mp inBack with same | inRest
      · cases same
        exact separator.1.1
      · exact after.words other inRest
  case chain =>
    apply List.isChain_append.mpr
    refine ⟨before.chain, ?_, ?_⟩
    · apply List.isChain_cons.mpr
      exact ⟨fun _ _ => .inl separator.2, after.chain⟩
    · intro first _ second member
      cases member
      exact .inr separator.1.2

theorem separate_cons_cons
    (separator : String) (part next : List (Piece α)) (rest : List (List (Piece α))) :
    separate separator (part :: next :: rest) =
      part ++ .words separator :: separate separator (next :: rest) := by
  simp [separate]

/-- Parts are kept apart from each other by a separator. -/
theorem Apart.separate
    {parts : List (List (Piece α))} {separator : String}
    (each : ∀ part ∈ parts, Apart part) (separates : isSeparator separator = true) :
    Apart (separate separator parts) := by
  induction parts with
  | nil =>
      exact apart_nil
  | cons part rest induction =>
      rw [List.forall_mem_cons] at each
      cases rest with
      | nil =>
          simpa [Piece.separate] using each.1
      | cons next others =>
          rw [separate_cons_cons]
          exact each.1.join separates (induction each.2)

end Piece

end TableSource
