import TableSource.Proofs.Database.Holding
import TableSource.Proofs.Statement.LiteralMatching
import TableSource.Proofs.Statement.Places
import TableSource.Proofs.Text.Lowercase
import TableSource.Store.Basic

/-!
# Nominal values by their start

The values of a nominal column can be asked for by their start.  The start is lower-cased as a text
and then made a pattern, whereas the database compares patterns with values one character at a time,
lower-casing both by the simple mapping.

Where the two ways of lower-casing agree on a start, every value that begins with it is found.  They
disagree on a dotted capital I and on a capital sigma at the end of a word, and then not even the
start itself is found.
-/

namespace TableSource

open Text

namespace Pattern

/-! ## Patterns without regard to case -/

/-- A pattern matches a value when both are lower-cased, one character for one. -/
def MatchesAnyCase (pattern value : String) : Prop :=
  Matches (· = ·) (pattern.toList.map foldChar) (value.toList.map foldChar)

theorem isSpecial_iff
    {c : Char} :
    isSpecial c = true ↔ c = '\\' ∨ c = '%' ∨ c = '_' := by
  simp [isSpecial, or_assoc]

theorem foldChar_of_isSpecial
    {c : Char}
    (special : isSpecial c = true) :
    foldChar c = c := by
  rcases isSpecial_iff.mp special with rfl | rfl | rfl <;> decide +kernel

theorem isSpecial_foldChar_of_plain
    {c : Char}
    (plain : isSpecial c = false) :
    isSpecial (foldChar c) = false := by
  by_cases dotted : c = '\u0130'
  · subst dotted
    decide
  · rw [foldChar_of_ne dotted]
    rcases lowerChar_eq_or_isSmall c with kept | small
    · rw [kept]
      exact plain
    · rw [Bool.eq_false_iff, ne_eq, isSpecial_iff]
      rintro (same | same | same)
      · exact small.toNat_ne 0x5C (by decide) (congrArg Char.toNat same)
      · exact small.toNat_ne 0x25 (by decide) (congrArg Char.toNat same)
      · exact small.toNat_ne 0x5F (by decide) (congrArg Char.toNat same)

/-- Lower-casing an escaped text escapes the lower-cased text. -/
theorem map_escapeChars (text : List Char) :
    (escapeChars text).map foldChar = escapeChars (text.map foldChar) := by
  have backslash : foldChar '\\' = '\\' := foldChar_of_isSpecial rfl
  induction text with
  | nil =>
      rfl
  | cons c rest induction =>
      simp only [escapeChars] at induction
      cases special : isSpecial c with
      | true =>
          have kept := foldChar_of_isSpecial special
          simp [escapeChars, special, kept, backslash, induction]
      | false =>
          have plain := isSpecial_foldChar_of_plain special
          simp [escapeChars, special, plain, induction]

theorem matchesAnyCase_startingWith_iff
    {start value : String} :
    MatchesAnyCase (startingWith start) value ↔
      start.toList.map foldChar <+: value.toList.map foldChar := by
  have written : (startingWith start).toList.map foldChar =
      escapeChars (start.toList.map foldChar) ++ ['%'] := by
    have percent : foldChar '%' = '%' := foldChar_of_isSpecial rfl
    simp [startingWith, escape, map_escapeChars, percent]
  have rules (pattern : List Char) :
      Matches (· = ·) pattern (value.toList.map foldChar) ↔
        accepts (· == ·) pattern (value.toList.map foldChar) = true := by
    rw [accepts_iff_matches]
    simp only [beq_iff_eq]
  rw [MatchesAnyCase, rules, written, accepts_of_literal? (literal?_escapeChars _),
    beginsWith_iff_prefix]

/-- The pattern of a lower-cased start matches every text with this start exactly when lower-casing
the start goes one by one. -/
theorem matchesAnyCase_lower_iff
    {start : String} :
    (∀ value : String, start.toList <+: value.toList →
      MatchesAnyCase (startingWith (lower start)) value) ↔ LowersSingly [] start.toList := by
  have lowered : (lower start).toList = lowerFrom [] start.toList := by
    rw [lower, String.toList_ofList]
  simp only [matchesAnyCase_startingWith_iff, lowered, ← map_lowerFrom_eq_iff]
  constructor
  · intro each
    -- the start itself has no room for more characters than it has
    refine (each start (List.prefix_refl _)).eq_of_length_le ?_
    rw [List.length_map, List.length_map]
    exact length_le_lowerFrom [] start.toList
  · intro same value begins
    rw [same]
    exact begins.map foldChar

end Pattern

/-! ## What is bound for a start -/

/-- A nominal column is compared with the pattern of the start, which is bound behind the values of
the filter. -/
theorem Statement.exists_distinct
    {schema : Schema} {tree : Condition} {feature : Feature} {start : String}
    (table : String)
    (admitted : Filter.Admitted schema tree) (nominal : feature.type = .nominal)
    (filled : start ≠ "") :
    ∃ statement, distinct schema table tree feature start = .ok statement ∧
      [.name feature.name, .words " ILIKE ", .place (.pattern (Pattern.startingWith start))] <:+:
        statement.pieces ∧
      statement.params = treeBounds tree ++ [.pattern (Pattern.startingWith start)] := by
  rcases Filter.Node.conditionOf_of_admitted admitted with ⟨condition, made⟩
  have bound := bounds_conditionOf made
  have started : startCondition (α := Cell) feature.name start =
      [[.name feature.name, .words " ILIKE ", .place (.pattern (Pattern.startingWith start))]] := by
    simp [startCondition, filled]
  rw [distinct, if_neg (not_not_intro nominal), made]
  refine ⟨_, rfl, ?_, ?_⟩
  · rw [started]
    cases condition with
    | nil =>
        exact ⟨[.words "SELECT DISTINCT ", .name feature.name, .words " FROM ", .name table,
          .words " WHERE "], _, rfl⟩
    | cons piece rest =>
        refine ⟨[.words "SELECT DISTINCT ", .name feature.name, .words " FROM ", .name table,
          .words " WHERE "] ++ (piece :: rest) ++ [.words " AND "],
          [.words " ORDER BY ", .name feature.name,
            .words (" LIMIT " ++ toString maxDistinct)], ?_⟩
        simp [clause, Piece.separate]
  · simp [params, started, Piece.bounds_separate, bounds_filled, bound]

namespace Store

theorem lower_ne_empty
    {text : String}
    (filled : text ≠ "") :
    lower text ≠ "" := by
  intro empty
  have longer := length_le_lowerFrom [] text.toList
  have none : lowerFrom [] text.toList = [] := by
    simpa [lower] using empty
  rw [none, List.length_nil, Nat.le_zero, List.length_eq_zero_iff] at longer
  exact filled (String.toList_eq_nil_iff.mp longer)

/-- A look-up issues one statement, and binds the pattern of the lower-cased start in it. -/
theorem exists_fetch
    (store : Store) (database : Database) {filter : Condition} (index : Raw) {feature : Feature}
    {start : String}
    (connected : database.connected = true)
    (admitted : Filter.Admitted store.schema filter)
    (found : store.schema.lookup? index = some feature) (nominal : feature.type = .nominal)
    (filled : start ≠ "") :
    ∃ statement,
      (store.distinctValues database filter start index).events =
        [.acquire, .fetch statement, .release] ∧
      [.name feature.name, .words " ILIKE ",
        .place (.pattern (Pattern.startingWith (lower start)))] <:+: statement.pieces ∧
      statement.params = (Statement.treeBounds filter).map (.map Cell.toRaw) ++
        [.pattern (Pattern.startingWith (lower start))] := by
  rcases Statement.exists_distinct store.table admitted nominal (lower_ne_empty filled) with
    ⟨statement, made, compared, bound⟩
  refine ⟨statement.map Cell.toRaw, ?_, compared.map (Piece.map Cell.toRaw), ?_⟩
  · simp only [distinctValues, found, made, if_neg (not_not_intro nominal)]
    exact Database.events_ask connected _ _
  · rw [Statement.params, Statement.map, Piece.bounds_map, ← Statement.params, bound,
      List.map_append]
    rfl

/-- The look-up of a nominal column compares it with one pattern, that of the lower-cased start.
The pattern matches all values that begin with the start exactly when lower-casing the start goes
one by one. -/
theorem start_is_found_iff
    (store : Store) (database : Database) {filter : Condition} (index : Raw) {feature : Feature}
    {start : String}
    (connected : database.connected = true)
    (admitted : Filter.Admitted store.schema filter)
    (found : store.schema.lookup? index = some feature) (nominal : feature.type = .nominal)
    (filled : start ≠ "") :
    let pattern := Pattern.startingWith (lower start)
    (∃ statement,
      (store.distinctValues database filter start index).events =
        [.acquire, .fetch statement, .release] ∧
      [.name feature.name, .words " ILIKE ", .place (.pattern pattern)] <:+: statement.pieces ∧
      statement.params =
        (Statement.treeBounds filter).map (.map Cell.toRaw) ++ [.pattern pattern]) ∧
    ((∀ value : String, start.toList <+: value.toList → Pattern.MatchesAnyCase pattern value) ↔
      LowersSingly [] start.toList) :=
  ⟨store.exists_fetch database index connected admitted found nominal filled,
    Pattern.matchesAnyCase_lower_iff⟩

/-- A store of cities. -/
def cities : Store where
  schema :=
    { features := [⟨0, "city", .nominal⟩]
      inOrder := by
        rw [Schema.inOrder_cons]
        simp [Schema.InOrder]
      distinct := by
        decide }
  table := "cities"

/-- A database that answers. -/
def answering : Database where
  settings := default
  connected := true
  pool := .empty
  connectFault := none

/-- A start with a capital sigma before other letters, and with special characters. -/
theorem start_is_found_sigma_first :
    let start := "Σε_%"
    answering.connected = true ∧
      Filter.Admitted cities.schema none ∧
      cities.schema.lookup? (.int 0) = some ⟨0, "city", .nominal⟩ ∧
      start ≠ "" ∧ start.toList <+: "Σε_% É".toList ∧
      (∃ statement,
        (cities.distinctValues answering none start (.int 0)).events =
          [.acquire, .fetch statement, .release] ∧
        statement.params = [.pattern "σε\\_\\%%"]) ∧
      Pattern.MatchesAnyCase "σε\\_\\%%" "Σε_% É" := by
  intro start
  have connected : answering.connected = true := rfl
  have admitted : Filter.Admitted cities.schema none := ⟨.null, 0, Filter.accept_null _ 0⟩
  have found : cities.schema.lookup? (.int 0) = some ⟨0, "city", .nominal⟩ := rfl
  have filled : start ≠ "" := by
    decide
  have begins : start.toList <+: "Σε_% É".toList := by
    decide
  have lowered : Pattern.startingWith (lower start) = "σε\\_\\%%" := by
    decide +kernel
  have singly : LowersSingly [] start.toList :=
    map_lowerFrom_eq_iff.mp (by decide +kernel)
  rcases cities.start_is_found_iff answering (.int 0) connected admitted found rfl filled with
    ⟨⟨statement, events, -, params⟩, matching⟩
  rw [lowered] at params matching
  exact ⟨connected, admitted, found, filled, begins, ⟨statement, events, params⟩,
    matching.mpr singly _ begins⟩

/-- The look-up misses values that begin with the start: the pattern of a start with a capital sigma
at its end asks for another letter, and that of a dotted capital I for one more character. -/
theorem start_misses_sigma_and_dottedI :
    (∃ statement,
      (cities.distinctValues answering none "ΟΔΟΣ" (.int 0)).events =
        [.acquire, .fetch statement, .release] ∧
      statement.params = [.pattern "οδος%"]) ∧
    "ΟΔΟΣ".toList <+: "ΟΔΟΣ 5".toList ∧ ¬ Pattern.MatchesAnyCase "οδος%" "ΟΔΟΣ 5" ∧
    (∃ statement,
      (cities.distinctValues answering none "\u0130" (.int 0)).events =
        [.acquire, .fetch statement, .release] ∧
      statement.params = [.pattern "i\u0307%"]) ∧
    "\u0130".toList <+: "\u0130zmir".toList ∧
    ¬ Pattern.MatchesAnyCase "i\u0307%" "\u0130zmir" := by
  have admitted : Filter.Admitted cities.schema none := ⟨.null, 0, Filter.accept_null _ 0⟩
  have binds {start pattern : String} (filled : start ≠ "")
      (lowered : Pattern.startingWith (lower start) = pattern) :
      ∃ statement,
        (cities.distinctValues answering none start (.int 0)).events =
          [.acquire, .fetch statement, .release] ∧
        statement.params = [.pattern pattern] := by
    rcases cities.exists_fetch answering (.int 0) rfl admitted rfl rfl filled with
      ⟨statement, events, -, params⟩
    rw [lowered] at params
    exact ⟨statement, events, params⟩
  have misses {start value : String}
      (apart : ¬ start.toList.map foldChar <+: value.toList.map foldChar) :
      ¬ Pattern.MatchesAnyCase (Pattern.startingWith start) value := by
    rw [Pattern.matchesAnyCase_startingWith_iff]
    exact apart
  have sigma : Pattern.startingWith "οδος" = "οδος%" := by
    decide +kernel
  have dotted : Pattern.startingWith "i\u0307" = "i\u0307%" := by
    decide +kernel
  rw [← sigma, ← dotted]
  exact ⟨binds (by decide) (by decide +kernel), by decide, misses (by decide +kernel),
    binds (by decide) (by decide +kernel), by decide, misses (by decide +kernel)⟩

end Store

end TableSource
