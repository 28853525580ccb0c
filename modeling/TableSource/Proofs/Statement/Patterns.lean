import Mathlib.Data.List.Infix
import TableSource.Filter.Basic
import TableSource.Statement.Pattern

/-!
# What patterns mean

A pattern is compared with a value character by character, up to an equality of characters, such as
the one that ignores case.  The patterns that are made of texts can be told apart and read back: a
pattern for a part begins with a percent sign, one for a beginning does not, and what is between the
percent signs spells the text.

A pattern that can be read back matches what its text asks for.
-/

namespace TableSource

namespace Pattern

/-! ## Matching -/

variable (same : Char → Char → Bool)

/-- Whether characters begin with a text. -/
def beginsWith : List Char → List Char → Bool
  | [], _ => true
  | _ :: _, [] => false
  | c :: text, x :: value => same c x && beginsWith text value

/-- Whether a text occurs somewhere in characters. -/
def occursIn (text value : List Char) : Bool :=
  value.tails.any (beginsWith same text)

/-- Whether a pattern matches characters as a whole.  A backslash at its end matches nothing. -/
def accepts : List Char → List Char → Bool
  | [], value => value.isEmpty
  | c :: rest, value =>
    if c = '%' then value.tails.any (accepts rest)
    else if c = '\\' then
      match rest, value with
      | d :: rest, x :: value => same d x && accepts rest value
      | _, _ => false
    else
      match value with
      | x :: value => (c == '_' || same c x) && accepts rest value
      | [] => false

variable {same}

theorem beginsWith_self
    (reflexive : ∀ c, same c c = true) (text : List Char) :
    beginsWith same text text = true := by
  induction text with
  | nil =>
      rfl
  | cons c rest induction =>
      rw [beginsWith, reflexive, induction]
      rfl

theorem occursIn_self
    (reflexive : ∀ c, same c c = true) (text : List Char) :
    occursIn same text text = true := by
  have whole : text ∈ text.tails := (List.mem_tails _ _).mpr (List.suffix_refl text)
  exact List.any_eq_true.mpr ⟨text, whole, beginsWith_self reflexive text⟩

/-! ## Reading patterns back -/

/-- The text that characters up to a percent sign at their end stand for. -/
def literal? : List Char → Option (List Char)
  | [] => none
  | c :: rest =>
    if c = '%' then if rest.isEmpty then some [] else none
    else if c = '\\' then
      match rest with
      | d :: rest => (literal? rest).map (d :: ·)
      | [] => none
    else if c = '_' then none
    else (literal? rest).map (c :: ·)

/-- The test that a pattern stands for. -/
def test? {α : Type} : List Char → Option (Filter.Test α)
  | [] => none
  | c :: rest =>
    if c = '%' then (literal? rest).map fun part => .contains (String.ofList part)
    else (literal? (c :: rest)).map fun start => .startsWith (String.ofList start)

theorem literal?_cons
    {c : Char}
    (plain : isSpecial c = false) (rest : List Char) :
    literal? (c :: rest) = (literal? rest).map (c :: ·) := by
  simp only [isSpecial, Bool.or_eq_false_iff, beq_eq_false_iff_ne] at plain
  rw [literal?.eq_def]
  simp only [plain.1.1, plain.1.2, plain.2, if_false]

theorem escapeChars_cons_append_of_special
    {c : Char}
    (special : isSpecial c = true) (text rest : List Char) :
    escapeChars (c :: text) ++ rest = '\\' :: c :: (escapeChars text ++ rest) := by
  simp [escapeChars, special]

theorem escapeChars_cons_append_of_plain
    {c : Char}
    (plain : isSpecial c = false) (text rest : List Char) :
    escapeChars (c :: text) ++ rest = c :: (escapeChars text ++ rest) := by
  simp [escapeChars, plain]

theorem literal?_escapeChars (text : List Char) :
    literal? (escapeChars text ++ ['%']) = some text := by
  induction text with
  | nil =>
      rfl
  | cons c rest induction =>
      cases special : isSpecial c with
      | true =>
          rw [escapeChars_cons_append_of_special special, literal?.eq_def]
          simp [induction]
      | false =>
          rw [escapeChars_cons_append_of_plain special, literal?_cons special, induction]
          rfl

theorem test?_containing {α : Type} (part : String) :
    test? (containing part).toList = some (.contains part : Filter.Test α) := by
  have written : (containing part).toList = '%' :: (escapeChars part.toList ++ ['%']) := by
    simp [containing, escape]
  simp [written, test?, literal?_escapeChars]

/-- The pattern for a beginning does not begin with a percent sign itself, unless it is empty. -/
theorem test?_startingWith {α : Type}
    {start : String}
    (filled : start ≠ "") :
    test? (startingWith start).toList = some (.startsWith start : Filter.Test α) := by
  have written : (startingWith start).toList = escapeChars start.toList ++ ['%'] := by
    simp [startingWith, escape]
  have read := literal?_escapeChars start.toList
  cases chars : start.toList with
  | nil =>
      exact absurd (String.toList_eq_nil_iff.mp chars) filled
  | cons c rest =>
      have first : ∃ d others, escapeChars (c :: rest) ++ ['%'] = d :: others ∧ d ≠ '%' := by
        by_cases special : isSpecial c = true
        · exact ⟨'\\', c :: (escapeChars rest ++ ['%']), by simp [escapeChars, special], by decide⟩
        · refine ⟨c, escapeChars rest ++ ['%'], by simp [escapeChars, special], ?_⟩
          rintro rfl
          exact special rfl
      rcases first with ⟨d, others, same, noPercent⟩
      rw [chars, same] at read
      rw [written, chars, same, test?, if_neg noPercent, read, ← chars]
      simp

/-! ## Matching by what was read -/

theorem accepts_percent (rest value : List Char) :
    accepts same ('%' :: rest) value = value.tails.any (accepts same rest) := by
  rw [accepts.eq_def]
  rfl

theorem accepts_plain
    {c : Char}
    (noPercent : c ≠ '%') (noBackslash : c ≠ '\\') (noUnderscore : c ≠ '_')
    (rest : List Char) (x : Char) (value : List Char) :
    accepts same (c :: rest) (x :: value) = (same c x && accepts same rest value) := by
  have characters : (c == '_') = false := beq_false_of_ne noUnderscore
  rw [accepts.eq_def]
  simp [noPercent, noBackslash, characters]

theorem accepts_plain_nil
    {c : Char}
    (noPercent : c ≠ '%') (rest : List Char) :
    accepts same (c :: rest) [] = false := by
  rw [accepts.eq_def]
  simp [noPercent]

/-- Behind a text that was read, a pattern leaves everything open. -/
theorem accepts_of_literal?
    {pattern text : List Char}
    (read : literal? pattern = some text) (value : List Char) :
    accepts same pattern value = beginsWith same text value := by
  fun_induction literal? pattern generalizing text value with
  | case2 rest last =>
      cases read
      obtain rfl := List.isEmpty_iff.mp last
      have nothing : [] ∈ value.tails := (List.mem_tails _ _).mpr List.nil_suffix
      rw [accepts_percent, beginsWith]
      exact List.any_eq_true.mpr ⟨[], nothing, rfl⟩
  | case4 d rest _ induction =>
      rcases Option.map_eq_some_iff.mp read with ⟨others, readLater, rfl⟩
      cases value with
      | nil =>
          exact accepts_plain_nil (by decide) _
      | cons x value =>
          rw [beginsWith, ← induction readLater]
          rfl
  | case7 c rest noPercent noBackslash noUnderscore induction =>
      rcases Option.map_eq_some_iff.mp read with ⟨others, readLater, rfl⟩
      cases value with
      | nil =>
          exact accepts_plain_nil noPercent rest
      | cons x value =>
          rw [accepts_plain noPercent noBackslash noUnderscore, beginsWith, induction readLater]
  | _ =>
      cases read

/-- A pattern that can be read back matches what its test asks for. -/
theorem accepts_of_test?
    {α : Type} {pattern : List Char} {test : Filter.Test α}
    (read : test? pattern = some test) :
    (∃ part, test = .contains part ∧
      ∀ value, accepts same pattern value = occursIn same part.toList value) ∨
    (∃ start, test = .startsWith start ∧
      ∀ value, accepts same pattern value = beginsWith same start.toList value) := by
  cases pattern with
  | nil =>
      cases read
  | cons c rest =>
      rw [test?] at read
      split at read
      · next percent =>
          subst percent
          rcases Option.map_eq_some_iff.mp read with ⟨text, spelled, rfl⟩
          refine .inl ⟨_, rfl, fun value => ?_⟩
          rw [accepts_percent, occursIn, String.toList_ofList]
          congr 1
          funext suffix
          exact accepts_of_literal? spelled suffix
      · rcases Option.map_eq_some_iff.mp read with ⟨text, spelled, rfl⟩
        refine .inr ⟨_, rfl, fun value => ?_⟩
        rw [accepts_of_literal? spelled, String.toList_ofList]

end Pattern

end TableSource
