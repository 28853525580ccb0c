import TableSource.Proofs.Statement.Patterns

/-!
# Escaped texts match literally

The rules of the database say when a pattern matches characters: a percent sign takes any run of
them, an underscore takes one, a backslash makes the next character of the pattern stand for itself,
and every other character stands for itself anyway.  A backslash with nothing behind it has no rule.

Under these rules a pattern for a part matches exactly the texts that contain the part, and one for
a beginning exactly the texts that begin with it, whatever special characters they are made of.
-/

namespace TableSource

namespace Pattern

/-! ## The rules -/

/-- A pattern matches characters as a whole, up to an equality of characters. -/
inductive Matches (same : Char → Char → Prop) : List Char → List Char → Prop where
  | nothing : Matches same [] []
  | run {pattern value : List Char} (taken : List Char)
      (later : Matches same pattern value) :
      Matches same ('%' :: pattern) (taken ++ value)
  | one {pattern value : List Char} (taken : Char)
      (later : Matches same pattern value) :
      Matches same ('_' :: pattern) (taken :: value)
  | escaped {pattern value : List Char} {c taken : Char}
      (equal : same c taken) (later : Matches same pattern value) :
      Matches same ('\\' :: c :: pattern) (taken :: value)
  | plain {pattern value : List Char} {c taken : Char}
      (ordinary : isSpecial c = false) (equal : same c taken)
      (later : Matches same pattern value) :
      Matches same (c :: pattern) (taken :: value)

/-- Whether a pattern ends in a backslash that escapes nothing. -/
def dangles : List Char → Bool
  | [] => false
  | c :: rest =>
    if c = '\\' then
      match rest with
      | [] => true
      | _ :: rest => dangles rest
    else dangles rest

@[simp]
theorem dangles_escaped (c : Char) (rest : List Char) :
    dangles ('\\' :: c :: rest) = dangles rest := by
  rw [dangles.eq_def]
  rfl

theorem dangles_cons
    {c : Char}
    (noBackslash : c ≠ '\\') (rest : List Char) :
    dangles (c :: rest) = dangles rest := by
  rw [dangles.eq_def]
  exact if_neg noBackslash

/-! ## The matcher follows the rules -/

section Matcher

variable {same : Char → Char → Bool} {rest value : List Char}

theorem accepts_percent_iff :
    accepts same ('%' :: rest) value = true ↔
      ∃ taken later, taken ++ later = value ∧ accepts same rest later = true := by
  rw [accepts_percent, List.any_eq_true]
  constructor
  · rintro ⟨later, suffix, accepted⟩
    rcases (List.mem_tails _ _).mp suffix with ⟨taken, whole⟩
    exact ⟨taken, later, whole, accepted⟩
  · rintro ⟨taken, later, whole, accepted⟩
    exact ⟨later, (List.mem_tails _ _).mpr ⟨taken, whole⟩, accepted⟩

theorem accepts_underscore_iff :
    accepts same ('_' :: rest) value = true ↔
      ∃ taken later, value = taken :: later ∧ accepts same rest later = true := by
  rw [accepts.eq_def]
  cases value <;> simp

theorem accepts_backslash_iff :
    accepts same ('\\' :: rest) value = true ↔
      ∃ c pattern taken later, rest = c :: pattern ∧ value = taken :: later ∧
        same c taken = true ∧ accepts same pattern later = true := by
  rw [accepts.eq_def]
  cases rest <;> cases value <;> simp

theorem accepts_plain_iff
    {c : Char}
    (ordinary : isSpecial c = false) :
    accepts same (c :: rest) value = true ↔
      ∃ taken later, value = taken :: later ∧ same c taken = true ∧
        accepts same rest later = true := by
  simp only [isSpecial, Bool.or_eq_false_iff, beq_eq_false_iff_ne] at ordinary
  rcases ordinary with ⟨⟨noBackslash, noPercent⟩, noUnderscore⟩
  cases value with
  | nil =>
      simp [accepts_plain_nil noPercent]
  | cons taken later =>
      simp [accepts_plain noPercent noBackslash noUnderscore]

theorem accepts_of_matches
    {pattern : List Char}
    (matched : Matches (same · ·) pattern value) :
    accepts same pattern value = true := by
  induction matched with
  | nothing =>
      rfl
  | run taken _ accepted =>
      exact accepts_percent_iff.mpr ⟨taken, _, rfl, accepted⟩
  | one taken _ accepted =>
      exact accepts_underscore_iff.mpr ⟨taken, _, rfl, accepted⟩
  | escaped equal _ accepted =>
      exact accepts_backslash_iff.mpr ⟨_, _, _, _, rfl, rfl, equal, accepted⟩
  | plain ordinary equal _ accepted =>
      exact (accepts_plain_iff ordinary).mpr ⟨_, _, rfl, equal, accepted⟩

/-- An escape takes two characters of the pattern, so the induction is on a bound of its length. -/
theorem matches_of_accepts
    {length : Nat} {pattern value : List Char}
    (bounded : pattern.length ≤ length) (accepted : accepts same pattern value = true) :
    Matches (same · ·) pattern value := by
  induction length generalizing pattern value with
  | zero =>
      cases List.length_eq_zero_iff.mp (Nat.le_zero.mp bounded)
      cases List.isEmpty_iff.mp accepted
      exact .nothing
  | succ length induction =>
      cases pattern with
      | nil =>
          cases List.isEmpty_iff.mp accepted
          exact .nothing
      | cons c rest =>
          have shorter : rest.length ≤ length := Nat.le_of_succ_le_succ bounded
          by_cases ordinary : isSpecial c = false
          · rcases (accepts_plain_iff ordinary).mp accepted with
              ⟨taken, later, rfl, equal, acceptedLater⟩
            exact .plain ordinary equal (induction shorter acceptedLater)
          · have special : (c = '\\' ∨ c = '%') ∨ c = '_' := by
              simpa only [isSpecial, Bool.not_eq_false, Bool.or_eq_true, beq_iff_eq] using ordinary
            rcases special with (rfl | rfl) | rfl
            · rcases accepts_backslash_iff.mp accepted with
                ⟨d, pattern, taken, later, rfl, rfl, equal, acceptedLater⟩
              exact .escaped equal (induction (Nat.le_of_succ_le shorter) acceptedLater)
            · rcases accepts_percent_iff.mp accepted with ⟨taken, later, rfl, acceptedLater⟩
              exact .run taken (induction shorter acceptedLater)
            · rcases accepts_underscore_iff.mp accepted with ⟨taken, later, rfl, acceptedLater⟩
              exact .one taken (induction shorter acceptedLater)

/-- The matcher finds exactly the matches that the rules allow. -/
theorem accepts_iff_matches
    {pattern : List Char} :
    accepts same pattern value = true ↔ Matches (same · ·) pattern value :=
  ⟨matches_of_accepts (Nat.le_refl _), accepts_of_matches⟩

end Matcher

/-! ## Escaped texts -/

/-- A pattern for a part leaves open what comes before a beginning. -/
theorem toList_containing (part : String) :
    (containing part).toList = '%' :: (startingWith part).toList := by
  simp [containing, startingWith]

section Equality

variable {same : Char → Char → Bool}

theorem accepts_startingWith (start : String) (value : List Char) :
    accepts same (startingWith start).toList value = beginsWith same start.toList value := by
  have written : (startingWith start).toList = escapeChars start.toList ++ ['%'] := by
    simp [startingWith, escape]
  rw [written]
  exact accepts_of_literal? (literal?_escapeChars start.toList) value

theorem accepts_containing (part : String) (value : List Char) :
    accepts same (containing part).toList value = occursIn same part.toList value := by
  have each : accepts same (startingWith part).toList = beginsWith same part.toList :=
    funext (accepts_startingWith part)
  rw [toList_containing, accepts_percent, occursIn, each]

end Equality

theorem beginsWith_iff_prefix {text value : List Char} :
    beginsWith (· == ·) text value = true ↔ text <+: value := by
  induction text generalizing value with
  | nil =>
      simp [beginsWith]
  | cons c rest induction =>
      cases value with
      | nil =>
          simp [beginsWith]
      | cons x value =>
          simp [beginsWith, List.cons_prefix_cons, induction]

theorem occursIn_iff_infix {text value : List Char} :
    occursIn (· == ·) text value = true ↔ text <:+: value := by
  rw [occursIn, List.any_eq_true, List.infix_iff_prefix_suffix]
  simp only [List.mem_tails, beginsWith_iff_prefix, and_comm]

theorem dangles_escapeChars (text rest : List Char) :
    dangles (escapeChars text ++ rest) = dangles rest := by
  induction text with
  | nil =>
      rfl
  | cons c others induction =>
      cases special : isSpecial c with
      | true =>
          rw [escapeChars_cons_append_of_special special, dangles_escaped, induction]
      | false =>
          have noBackslash : c ≠ '\\' := by
            rintro rfl
            cases special
          rw [escapeChars_cons_append_of_plain special, dangles_cons noBackslash, induction]

/-- A pattern for a part matches the texts that contain the part, one for a beginning matches the
texts that begin with it, and neither ends in a backslash that escapes nothing. -/
theorem escaped_text_matches_literally (text value : String) :
    (Matches (· = ·) (containing text).toList value.toList ↔ text.toList <:+: value.toList) ∧
    (Matches (· = ·) (startingWith text).toList value.toList ↔ text.toList <+: value.toList) ∧
    dangles (containing text).toList = false ∧
    dangles (startingWith text).toList = false := by
  have rules (pattern : List Char) :
      Matches (· = ·) pattern value.toList ↔ accepts (· == ·) pattern value.toList = true := by
    rw [accepts_iff_matches]
    simp only [beq_iff_eq]
  have closed : dangles (startingWith text).toList = false := by
    simp [startingWith, escape, dangles_escapeChars, dangles]
  refine ⟨?part, ?start, ?ending, closed⟩
  case part =>
    rw [rules, accepts_containing, occursIn_iff_infix]
  case start =>
    rw [rules, accepts_startingWith, beginsWith_iff_prefix]
  case ending =>
    rw [toList_containing, dangles_cons (by decide)]
    exact closed

example : containing "5%_\\" = "%5\\%\\_\\\\%" := by
  decide

end Pattern

end TableSource
