import TableSource.Proofs.Raw.JsonTokens

/-!
# The spellings of whole numbers

A text spells a whole number when it consists of blanks, a sign or none, a run of digits, and blanks
again.  The digits are those of any script, single underscores may join them, and there are not too
many of them.  The reader of whole numbers gives a number for its spellings and for no other text,
and a number that has a decimal text is spelled by it.
-/

namespace TableSource

namespace Text

/-! ## Digits and blanks -/

theorem digitValue?_eq_some
    {c : Char} {value : ℕ}
    (digit : digitValue? c = some value) :
    ∃ start ∈ scriptZeros, value < 10 ∧ c = Char.ofNat (start + value) := by
  rw [digitValue?] at digit
  split at digit
  · split at digit
    · next bounds =>
        cases digit
        refine ⟨48, by decide, by omega, ?_⟩
        rw [Nat.add_sub_cancel' bounds.1, Char.ofNat_toNat]
    · cases digit
  · rcases Option.map_eq_some_iff.mp digit with ⟨start, found, rfl⟩
    have inside := List.find?_some found
    simp only [decide_eq_true_eq] at inside
    refine ⟨start, List.mem_of_find?_eq_some found, by omega, ?_⟩
    rw [Nat.add_sub_cancel' inside.1, Char.ofNat_toNat]

theorem digitValue?_lt
    {c : Char} {value : ℕ}
    (digit : digitValue? c = some value) :
    value < 10 := by
  rcases digitValue?_eq_some digit with ⟨-, -, small, -⟩
  exact small

theorem isBlank_of_digitValue?
    {c : Char} {value : ℕ}
    (digit : digitValue? c = some value) :
    isBlank c = false := by
  have filled : ∀ start ∈ scriptZeros, ∀ value < 10,
      isBlank (Char.ofNat (start + value)) = false := by
    decide +kernel
  rcases digitValue?_eq_some digit with ⟨start, member, small, rfl⟩
  exact filled start member value small

end Text

namespace Numeral

open Text

/-! ## Runs of digits -/

/-- Digits that stand side by side or are joined by single underscores, and their values. -/
inductive DigitRun : List Char → List ℕ → Prop where
  | last {c : Char} {value : ℕ} (digit : digitValue? c = some value) : DigitRun [c] [value]
  | next {c : Char} {value : ℕ} {cs : List Char} {values : List ℕ}
      (digit : digitValue? c = some value) (rest : DigitRun cs values) :
      DigitRun (c :: cs) (value :: values)
  | joined {c : Char} {value : ℕ} {cs : List Char} {values : List ℕ}
      (digit : digitValue? c = some value) (rest : DigitRun cs values) :
      DigitRun (c :: '_' :: cs) (value :: values)

section Runs

variable {cs : List Char} {values : List ℕ}

theorem DigitRun.begins
    (run : DigitRun cs values) :
    ∃ first value, cs.head? = some first ∧ digitValue? first = some value := by
  cases run with
  | last digit | next digit | joined digit =>
      exact ⟨_, _, rfl, digit⟩

theorem DigitRun.ends
    (run : DigitRun cs values) :
    ∃ last value, cs.getLast? = some last ∧ digitValue? last = some value := by
  induction run with
  | last digit =>
      exact ⟨_, _, rfl, digit⟩
  | next digit rest induction | joined digit rest induction =>
      rcases induction with ⟨last, value, ends, lastDigit⟩
      refine ⟨last, value, ?_, lastDigit⟩
      simp [List.getLast?_cons, ends]

theorem DigitRun.value_lt
    (run : DigitRun cs values) :
    ∀ value ∈ values, value < 10 := by
  induction run with
  | last digit =>
      rw [List.forall_mem_singleton]
      exact digitValue?_lt digit
  | next digit rest induction | joined digit rest induction =>
      rw [List.forall_mem_cons]
      exact ⟨digitValue?_lt digit, induction⟩

theorem digitValues?_cons
    {c : Char} {value : ℕ}
    (digit : digitValue? c = some value) (rest : DigitRun cs values) :
    digitValues? (c :: cs) = (digitValues? cs).map (value :: ·) := by
  rcases rest.begins with ⟨first, firstValue, begins, firstDigit⟩
  cases cs with
  | nil =>
      cases begins
  | cons second others =>
      cases begins
      have other : first ≠ '_' := by
        rintro rfl
        cases firstDigit
      rw [digitValues?]
      · rw [digit]
        cases digitValues? (first :: others) <;> rfl
      · rintro ⟨⟩
      · rintro rest ⟨⟩
        exact other rfl

/-- The reader of digits reads the runs and nothing else. -/
theorem digitValues?_eq_some_iff :
    digitValues? cs = some values ↔ DigitRun cs values := by
  constructor
  case mp =>
    intro read
    fun_induction digitValues? cs generalizing values with
    | case1 =>
        cases read
    | case2 c =>
        rcases Option.map_eq_some_iff.mp read with ⟨value, digit, rfl⟩
        exact .last digit
    | case3 c rest value others readRest digit induction =>
        cases read
        exact .joined digit (induction readRest)
    | case5 c rest single underscore value others readRest digit induction =>
        cases read
        exact .next digit (induction readRest)
    | case4 | case6 =>
        cases read
  case mpr =>
    intro run
    induction run with
    | last digit =>
        rw [digitValues?, digit]
        rfl
    | next digit rest induction =>
        rw [digitValues?_cons digit rest, induction]
        rfl
    | joined digit rest induction =>
        rw [digitValues?, digit, induction]

theorem digitRun_of_digits
    (nonempty : cs ≠ []) (areDigits : ∀ c ∈ cs, isAsciiDigit c = true) :
    DigitRun cs (cs.map asciiDigitValue) := by
  have digitOf (c : Char) (isDigit : isAsciiDigit c = true) :
      digitValue? c = some (asciiDigitValue c) := by
    rw [eq_digitChar isDigit, digitValue?_digitChar, asciiDigitValue_digitChar]
  induction cs with
  | nil =>
      exact absurd rfl nonempty
  | cons c rest induction =>
      rw [List.forall_mem_cons] at areDigits
      cases rest with
      | nil =>
          exact .last (digitOf c areDigits.1)
      | cons second others =>
          exact .next (digitOf c areDigits.1) (induction (List.cons_ne_nil _ _) areDigits.2)

end Runs

/-! ## Spellings -/

/-- A sign, which may be missing, and whether it is a minus. -/
inductive SignText : List Char → Bool → Prop where
  | missing : SignText [] false
  | plus : SignText ['+'] false
  | minus : SignText ['-'] true

/-- Whether a character may stand around a whole number. -/
def isOuterBlank (c : Char) : Bool :=
  isBlank c && !isSeparator c

/-- Lists of characters that spell an integer: blanks, a sign, few digits, and blanks. -/
inductive Spells : List Char → ℤ → Prop where
  | intro {before sign digits after : List Char} {negative : Bool} {values : List ℕ}
      (blankBefore : ∀ c ∈ before, isOuterBlank c = true)
      (written : SignText sign negative)
      (run : DigitRun digits values)
      (few : values.length ≤ maxDigits)
      (blankAfter : ∀ c ∈ after, isOuterBlank c = true) :
      Spells (before ++ (sign ++ digits ++ after)) (signed negative (ofDigits values))

section Spelling

variable {sign digits : List Char} {negative : Bool} {values : List ℕ}

theorem exists_signText (cs : List Char) :
    ∃ sign negative body,
      splitSign cs = (negative, body) ∧ SignText sign negative ∧ cs = sign ++ body := by
  fun_cases splitSign cs with
  | case1 rest =>
      exact ⟨_, _, _, rfl, .minus, rfl⟩
  | case2 rest =>
      exact ⟨_, _, _, rfl, .plus, rfl⟩
  | case3 =>
      exact ⟨_, _, _, rfl, .missing, rfl⟩

/-- A digit is no sign. -/
theorem splitSign_append
    (written : SignText sign negative) (run : DigitRun digits values) :
    splitSign (sign ++ digits) = (negative, digits) := by
  cases written with
  | plus | minus =>
      rfl
  | missing =>
      rcases run.begins with ⟨first, value, begins, digit⟩
      rw [List.nil_append, splitSign]
      · rintro rest rfl
        cases begins
        cases digit
      · rintro rest rfl
        cases begins
        cases digit

theorem isOuterBlank_of_digitValue?
    {c : Char} {value : ℕ}
    (digit : digitValue? c = some value) :
    isOuterBlank c = false := by
  rw [isOuterBlank, isBlank_of_digitValue? digit]
  rfl

/-- Nothing blank stands at the ends of a sign and digits. -/
theorem dropEnds_spelling
    {before after : List Char}
    (blankBefore : ∀ c ∈ before, isOuterBlank c = true)
    (written : SignText sign negative) (run : DigitRun digits values)
    (blankAfter : ∀ c ∈ after, isOuterBlank c = true) :
    dropEnds isOuterBlank (before ++ (sign ++ digits ++ after)) = sign ++ digits := by
  rcases run.begins with ⟨first, firstValue, begins, firstDigit⟩
  rcases run.ends with ⟨last, lastValue, ends, lastDigit⟩
  have signEnds : (sign ++ digits).getLast? = some last := by
    rw [List.getLast?_append, ends]
    rfl
  have lastStays := isOuterBlank_of_digitValue? lastDigit
  cases written with
  | missing =>
      exact dropEnds_append blankBefore blankAfter begins
        (isOuterBlank_of_digitValue? firstDigit) signEnds lastStays
  | plus | minus =>
      exact dropEnds_append blankBefore blankAfter rfl rfl signEnds lastStays

theorem wholeOfChars?_eq
    {cs body : List Char}
    (parted : splitSign (dropEnds isOuterBlank cs) = (negative, body)) :
    wholeOfChars? cs =
      (digitValues? body).bind fun values =>
        if maxDigits < values.length then none
        else some (signed negative (ofDigits values)) := by
  have outer : (fun c => isBlank c && !isSeparator c) = isOuterBlank := rfl
  rw [wholeOfChars?, outer, parted]
  dsimp only
  cases digitValues? body <;> rfl

/-- The reader reads the spellings and nothing else. -/
theorem wholeOfChars?_eq_some_iff
    {cs : List Char} {n : ℤ} :
    wholeOfChars? cs = some n ↔ Spells cs n := by
  constructor
  case mp =>
    intro read
    rcases exists_dropEnds isOuterBlank cs with ⟨before, after, whole, blankBefore, blankAfter⟩
    rcases exists_signText (dropEnds isOuterBlank cs) with
      ⟨sign, negative, body, parted, written, core⟩
    rw [wholeOfChars?_eq parted] at read
    rcases Option.bind_eq_some_iff.mp read with ⟨values, readDigits, given⟩
    split at given
    · cases given
    · next few =>
        cases given
        rw [whole, core]
        exact .intro blankBefore written (digitValues?_eq_some_iff.mp readDigits)
          (Nat.le_of_not_lt few) blankAfter
  case mpr =>
    rintro ⟨blankBefore, written, run, few, blankAfter⟩
    have parted := splitSign_append written run
    rw [← dropEnds_spelling blankBefore written run blankAfter] at parted
    rw [wholeOfChars?_eq parted, digitValues?_eq_some_iff.mpr run]
    exact if_neg (Nat.not_lt_of_le few)

/-- An integer that has a spelling has a decimal text. -/
theorem Spells.isOverlong
    {cs : List Char} {n : ℤ}
    (spelled : Spells cs n) :
    isOverlong n = false := by
  cases spelled with
  | intro _ _ run few _ =>
      exact isOverlong_signed _ run.value_lt few

end Spelling

/-- A text is read as the integer that it spells. -/
theorem whole?_eq_some_iff
    {text : String} {n : ℤ} :
    whole? text = some n ↔ Spells text.toList n :=
  wholeOfChars?_eq_some_iff

theorem isOverlong_of_whole?
    {text : String} {n : ℤ}
    (read : whole? text = some n) :
    isOverlong n = false :=
  (whole?_eq_some_iff.mp read).isOverlong

/-- The decimal text of an integer spells it. -/
theorem whole?_toString
    {n : ℤ} (short : isOverlong n = false) :
    whole? (toString n) = some n := by
  rcases digitsValue_toDigits n.natAbs with ⟨areDigits, value⟩
  have run := digitRun_of_digits Nat.toDigits_ne_nil areDigits
  have few : ((Nat.toDigits 10 n.natAbs).map asciiDigitValue).length ≤ maxDigits := by
    rw [List.length_map]
    exact Json.length_toDigits_of_short short
  have none_blank : ∀ c ∈ ([] : List Char), isOuterBlank c = true := by
    simp
  have number := Json.signed_natAbs n
  rw [← value, digitsValue] at number
  rw [whole?_eq_some_iff, toList_toString]
  cases negative : decide (n < 0) with
  | true =>
      rw [negative] at number
      have spelled := Spells.intro none_blank .minus run few none_blank
      rw [number, List.append_nil] at spelled
      exact spelled
  | false =>
      rw [negative] at number
      have spelled := Spells.intro none_blank .missing run few none_blank
      rw [number, List.append_nil] at spelled
      exact spelled

end Numeral

end TableSource
