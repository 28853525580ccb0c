import TableSource.Proofs.Number.IntegerText

/-!
# The tokens of JSON texts are read back

Strings and numbers are read as what they were written for, whatever follows them: a string ends
with its quotation mark, and a number where something follows that cannot belong to it.  Characters
beyond the first plane are escaped as two surrogates, which are joined again.
-/

namespace TableSource.Json

open Raw Numeral

/-! ## Hexadecimal digits -/

theorem hexValue?_digitChar
    {digit : ℕ} (small : digit < 16) :
    hexValue? digit.digitChar = some digit := by
  have each : ∀ digit < 16, hexValue? digit.digitChar = some digit := by
    decide
  exact each digit small

theorem hexDigits_one
    {value : ℕ} (small : value < 16) :
    hexDigits 1 value = [value.digitChar] := by
  simp [hexDigits, Nat.toDigits_of_lt_base small]

theorem hexDigits_succ (width value : ℕ) :
    hexDigits (width + 2) value = hexDigits (width + 1) (value / 16) ++ [(value % 16).digitChar] := by
  by_cases small : value < 16
  · have digits : Nat.toDigits 16 value = [value.digitChar] := Nat.toDigits_of_lt_base small
    have zero : Nat.toDigits 16 0 = ['0'] := rfl
    rw [hexDigits, hexDigits, Nat.div_eq_of_lt small, Nat.mod_eq_of_lt small, digits, zero]
    simp [List.replicate_succ']
  · rw [hexDigits, hexDigits, Nat.toDigits_of_base_le (by decide) (Nat.le_of_not_lt small)]
    simp

theorem hexDigits_four
    {unit : ℕ} (small : unit < 0x10000) :
    hexDigits 4 unit =
      [(unit / 16 / 16 / 16).digitChar, (unit / 16 / 16 % 16).digitChar,
        (unit / 16 % 16).digitChar, (unit % 16).digitChar] := by
  rw [hexDigits_succ, hexDigits_succ, hexDigits_succ, hexDigits_one (by omega)]
  rfl

/-! ## Strings -/

/-- The units of sixteen bits, or else the whole codes, that a character is written in. -/
def codesOf (asciiOnly : Bool) (c : Char) : List ℕ :=
  if asciiOnly ∧ 0x10000 ≤ c.toNat then
    [0xD800 + (c.toNat - 0x10000) / 0x400, 0xDC00 + (c.toNat - 0x10000) % 0x400]
  else [c.toNat]

theorem stringCodes?_unitEscape
    {unit : ℕ} (small : unit < 0x10000) (rest : List Char) :
    stringCodes? (unitEscape unit ++ rest) =
      (stringCodes? rest).map fun read => (unit :: read.1, read.2) := by
  have value : hexUnit? (unit / 16 / 16 / 16).digitChar (unit / 16 / 16 % 16).digitChar
      (unit / 16 % 16).digitChar (unit % 16).digitChar = some unit := by
    simp only [hexUnit?, hexValue?_digitChar (Nat.mod_lt _ (by decide : 0 < 16)),
      hexValue?_digitChar (show unit / 16 / 16 / 16 < 16 by omega), Option.bind_eq_bind,
      Option.bind_some, Option.pure_def, Option.some.injEq]
    omega
  rw [unitEscape, hexDigits_four small]
  simp only [List.cons_append, List.nil_append, stringCodes?, value]
  cases stringCodes? rest <;> rfl

theorem toNat_lt (c : Char) :
    c.toNat < 0x110000 ∧ ¬ (0xD800 ≤ c.toNat ∧ c.toNat < 0xE000) := by
  have valid := c.valid
  simp only [UInt32.isValidChar, Nat.isValidChar] at valid
  change c.val.toNat < 0x110000 ∧ ¬ (0xD800 ≤ c.val.toNat ∧ c.val.toNat < 0xE000)
  omega

theorem stringCodes?_escape
    (c : Char) (code : ℕ) (escape : escapeCode? c = some code) (rest : List Char) :
    stringCodes? ('\\' :: c :: rest) =
      (stringCodes? rest).map fun read => (code :: read.1, read.2) := by
  have notUnit : c ≠ 'u' := by
    rintro rfl
    cases escape
  cases read : stringCodes? rest <;> simp [stringCodes?, notUnit, escape, read]

theorem stringCodes?_plain
    {c : Char} (noMark : c ≠ '"') (noEscape : c ≠ '\\') (shown : ¬ c.toNat < 0x20)
    (rest : List Char) :
    stringCodes? (c :: rest) =
      (stringCodes? rest).map fun read => (c.toNat :: read.1, read.2) := by
  cases read : stringCodes? rest <;> simp [stringCodes?, noEscape, shown, read]

theorem codesOf_of_lt
    {asciiOnly : Bool} {c : Char} (small : c.toNat < 0x10000) :
    codesOf asciiOnly c = [c.toNat] := by
  rw [codesOf, if_neg (by omega)]

theorem stringCodes?_jsonChar (asciiOnly : Bool) (c : Char) (rest : List Char) :
    stringCodes? (jsonChar asciiOnly c ++ rest) =
      (stringCodes? rest).map fun read => (codesOf asciiOnly c ++ read.1, read.2) := by
  rcases toNat_lt c with ⟨bounded, -⟩
  rw [jsonChar]
  split_ifs with mark escape newline carriage tab backspace formFeed control beyond
  · subst mark
    rw [codesOf_of_lt (by decide)]
    exact stringCodes?_escape '"' 34 rfl rest
  · subst escape
    rw [codesOf_of_lt (by decide)]
    exact stringCodes?_escape '\\' 92 rfl rest
  · subst newline
    rw [codesOf_of_lt (by decide)]
    exact stringCodes?_escape 'n' 10 rfl rest
  · subst carriage
    rw [codesOf_of_lt (by decide)]
    exact stringCodes?_escape 'r' 13 rfl rest
  · subst tab
    rw [codesOf_of_lt (by decide)]
    exact stringCodes?_escape 't' 9 rfl rest
  · rw [codesOf_of_lt (by omega), backspace]
    exact stringCodes?_escape 'b' 8 rfl rest
  · rw [codesOf_of_lt (by omega), formFeed]
    exact stringCodes?_escape 'f' 12 rfl rest
  · rw [codesOf_of_lt (by omega)]
    exact stringCodes?_unitEscape (by omega) rest
  · rw [codeEscape]
    split
    · next small =>
        rw [codesOf_of_lt small]
        exact stringCodes?_unitEscape small rest
    · next large =>
        rw [codesOf, if_pos ⟨beyond.1, by omega⟩, List.append_assoc,
          stringCodes?_unitEscape (by omega), stringCodes?_unitEscape (by omega)]
        cases stringCodes? rest <;> rfl
  · have whole : codesOf asciiOnly c = [c.toNat] := by
      rw [codesOf, if_neg]
      rintro ⟨ascii, large⟩
      exact beyond ⟨ascii, by omega⟩
    rw [whole]
    exact stringCodes?_plain mark escape control rest

theorem surrogates_of_codesOf
    {asciiOnly : Bool} {c : Char} (beyond : asciiOnly ∧ 0x10000 ≤ c.toNat) :
    ∃ high low, codesOf asciiOnly c = [high, low] ∧ Encoding.isHighSurrogate high = true ∧
      Encoding.isLowSurrogate low = true ∧ Encoding.pairCode high low = c.toNat := by
  rcases toNat_lt c with ⟨bounded, -⟩
  have codes : codesOf asciiOnly c =
      [0xD800 + (c.toNat - 0x10000) / 0x400, 0xDC00 + (c.toNat - 0x10000) % 0x400] :=
    if_pos beyond
  have code (high low : ℕ) :
      Encoding.pairCode high low = 0x10000 + (high - 0xD800) * 0x400 + (low - 0xDC00) := rfl
  refine ⟨_, _, codes, ?_, ?_, ?_⟩
  · simp only [Encoding.isHighSurrogate, Bool.and_eq_true, decide_eq_true_eq]
    omega
  · simp only [Encoding.isLowSurrogate, Bool.and_eq_true, decide_eq_true_eq]
    omega
  · rw [code]
    omega

/-- The units of a character are joined to its code, and leave alone what follows. -/
theorem joinSurrogates_codesOf (asciiOnly : Bool) (c : Char) (rest : List ℕ) :
    Encoding.joinSurrogates (codesOf asciiOnly c ++ rest) =
      c.toNat :: Encoding.joinSurrogates rest := by
  by_cases beyond : asciiOnly ∧ 0x10000 ≤ c.toNat
  · rcases surrogates_of_codesOf beyond with ⟨high, low, codes, isHigh, isLow, code⟩
    rw [codes, ← code]
    simp [Encoding.joinSurrogates, isHigh, isLow]
  · rcases toNat_lt c with ⟨bounded, noSurrogate⟩
    have noHigh : Encoding.isHighSurrogate c.toNat = false := by
      simp only [Encoding.isHighSurrogate, Bool.and_eq_false_iff, decide_eq_false_iff_not]
      omega
    rw [codesOf, if_neg beyond]
    cases rest with
    | nil =>
        rfl
    | cons next others =>
        simp [Encoding.joinSurrogates, noHigh]

theorem charOfCode?_toNat (c : Char) :
    Encoding.charOfCode? c.toNat = some c := by
  have valid : c.toNat.isValidChar := c.valid
  rw [Encoding.charOfCode?, dif_pos valid]
  rfl

/-- A string is read back from behind its opening quotation mark. -/
theorem string?_jsonChars (asciiOnly : Bool) (cs rest : List Char) :
    string? (cs.flatMap (jsonChar asciiOnly) ++ '"' :: rest) = some (String.ofList cs, rest) := by
  have codes : stringCodes? (cs.flatMap (jsonChar asciiOnly) ++ '"' :: rest) =
      some (cs.flatMap (codesOf asciiOnly), rest) := by
    induction cs with
    | nil =>
        simp [stringCodes?]
    | cons c cs induction =>
        rw [List.flatMap_cons, List.append_assoc, stringCodes?_jsonChar, induction]
        rfl
  have joined : Encoding.joinSurrogates (cs.flatMap (codesOf asciiOnly)) = cs.map Char.toNat := by
    clear codes
    induction cs with
    | nil =>
        rfl
    | cons c cs induction =>
        rw [List.flatMap_cons, joinSurrogates_codesOf, induction]
        rfl
  rw [string?, codes]
  simp [joined, Function.comp_def, charOfCode?_toNat]

/-! ## Numbers -/

/-- What follows a value is nothing, or a character that ends the value. -/
def Closes (rest : List Char) : Prop :=
  ∀ c ∈ rest.head?, c = ',' ∨ c = ']' ∨ c = '\x7d'

theorem Closes.head?_ne
    {rest : List Char} (closes : Closes rest) {c : Char}
    (other : c ≠ ',' ∧ c ≠ ']' ∧ c ≠ '\x7d') :
    rest.head? ≠ some c := by
  intro begins
  rcases closes c begins with rfl | rfl | rfl <;> simp at other

theorem Closes.startsWithDigit_eq
    {rest : List Char} (closes : Closes rest) :
    startsWithDigit rest = false := by
  cases rest with
  | nil =>
      rfl
  | cons c others =>
      rcases closes c rfl with rfl | rfl | rfl <;> rfl

theorem span_digits
    {digits rest : List Char} (areDigits : ∀ c ∈ digits, Text.isAsciiDigit c = true)
    (stops : startsWithDigit rest = false) :
    (digits ++ rest).takeWhile Text.isAsciiDigit = digits ∧
      (digits ++ rest).dropWhile Text.isAsciiDigit = rest := by
  rw [List.takeWhile_append_of_pos areDigits, List.dropWhile_append_of_pos areDigits]
  cases rest with
  | nil =>
      simp
  | cons c others =>
      have noDigit : Text.isAsciiDigit c = false := stops
      simp [noDigit]

theorem wholeDigits_append
    {whole rest : List Char} (leads : whole = ['0'] ∨ Significant whole)
    (stops : startsWithDigit rest = false) :
    wholeDigits (whole ++ rest) = (whole, rest) := by
  rcases leads with rfl | significant
  · rfl
  · rcases significant.leads with ⟨first, others, rfl, nonzero⟩
    rcases span_digits significant.areDigits stops with ⟨taken, dropped⟩
    rw [wholeDigits.eq_def]
    split
    · next zero =>
        exact absurd (List.cons.inj zero).1 nonzero
    · rw [taken, dropped]

theorem fractionDigits_pointed
    {fraction rest : List Char} (areDigits : ∀ c ∈ fraction, Text.isAsciiDigit c = true)
    (stops : startsWithDigit rest = false) (noPoint : rest.head? ≠ some '.') :
    fractionDigits (Parts.pointed fraction ++ rest) = (fraction, rest) := by
  cases fraction with
  | nil =>
      rw [Parts.pointed, List.nil_append, fractionDigits.eq_def]
      split
      · exact absurd rfl noPoint
      · rfl
  | cons first others =>
      rcases span_digits areDigits stops with ⟨taken, dropped⟩
      have digit : startsWithDigit (first :: others ++ rest) = true := areDigits first (by simp)
      show fractionDigits ('.' :: (first :: others ++ rest)) = _
      rw [fractionDigits, if_pos digit, taken, dropped]

theorem exponentText_eq (exponent : ℤ) :
    ∃ digits, Binary64.exponentText exponent = (if exponent < 0 then '-' else '+') :: digits ∧
      digits ≠ [] ∧ (∀ c ∈ digits, Text.isAsciiDigit c = true) ∧
      digitsValue digits = exponent.natAbs := by
  rcases digitsValue_toDigits exponent.natAbs with ⟨areDigits, value⟩
  rw [Binary64.exponentText]
  refine ⟨_, rfl, ?_⟩
  split
  · refine ⟨by simp, by simpa [Text.isAsciiDigit] using areDigits, ?_⟩
    rw [← List.singleton_append, digitsValue_append, value]
    simp [digitsValue, ofDigits, Text.asciiDigitValue]
  · exact ⟨Nat.toDigits_ne_nil, areDigits, value⟩

theorem signed_natAbs (number : ℤ) :
    signed (decide (number < 0)) number.natAbs = number := by
  by_cases negative : number < 0
  · rw [signed, if_pos (decide_eq_true negative)]
    omega
  · rw [signed, if_neg (by simpa using negative)]
    omega

theorem exponentPart_marked
    (exponent : Option ℤ) {rest : List Char} (closes : Closes rest) :
    exponentPart (Parts.marked exponent ++ rest) = (exponent, rest) := by
  cases exponent with
  | none =>
      cases rest with
      | nil =>
          rfl
      | cons c others =>
          have noMark : ¬ (c = 'e' ∨ c = 'E') := by
            rcases closes c rfl with rfl | rfl | rfl <;> decide
          simp [Parts.marked, exponentPart, noMark]
  | some exponent =>
      rcases exponentText_eq exponent with ⟨digits, text, nonempty, areDigits, value⟩
      rcases span_digits areDigits closes.startsWithDigit_eq with ⟨taken, dropped⟩
      have sign : splitSign ((if exponent < 0 then '-' else '+') :: (digits ++ rest)) =
          (decide (exponent < 0), digits ++ rest) := by
        by_cases negative : exponent < 0 <;> simp [splitSign, negative]
      have begins : startsWithDigit (digits ++ rest) = true := by
        cases digits with
        | nil =>
            exact absurd rfl nonempty
        | cons first others =>
            exact areDigits first (by simp)
      rw [digitsValue] at value
      rw [Parts.marked, text, List.cons_append, List.cons_append, exponentPart, if_pos (.inl rfl),
        sign]
      simp only [begins, if_true, taken, dropped, value, signed_natAbs]

/-- The parts of a numeral are read together. -/
theorem number?_parts
    {parts : Parts} (wellFormed : parts.WellFormed) (negative : Bool)
    {rest : List Char} (closes : Closes rest) :
    number? negative (parts.chars ++ rest) =
      some
        (.float (Scientific.mk negative parts.coefficient parts.scale).toFloating, rest) := by
  rcases parts with ⟨whole, fraction, exponent⟩
  have fractionStops : startsWithDigit (Parts.marked exponent ++ rest) = false := by
    cases exponent with
    | none =>
        exact closes.startsWithDigit_eq
    | some exponent =>
        rfl
  have noPoint : (Parts.marked exponent ++ rest).head? ≠ some '.' := by
    cases exponent with
    | none =>
        exact closes.head?_ne (by decide)
    | some exponent =>
        simp [Parts.marked]
  have wholeStops :
      startsWithDigit (Parts.pointed fraction ++ (Parts.marked exponent ++ rest)) = false := by
    cases fraction with
    | nil =>
        exact fractionStops
    | cons first others =>
        rfl
  have wholeNonempty : whole ≠ [] := by
    rcases wellFormed.leads with zero | significant
    · simp [show whole = ['0'] from zero]
    · rcases significant.leads with ⟨first, others, split, -⟩
      simp [show whole = first :: others from split]
  have fractional : (fraction.isEmpty && exponent.isNone) = false := by
    rcases wellFormed.fractional with nonempty | present
    · simp [show fraction ≠ [] from nonempty]
    · cases exponent with
      | none =>
          exact absurd rfl present
      | some exponent =>
          simp
  rw [Parts.chars, List.append_assoc, List.append_assoc]
  simp only [number?, wholeDigits_append wellFormed.leads wholeStops,
    fractionDigits_pointed wellFormed.areDigits fractionStops noPoint,
    exponentPart_marked exponent closes, List.isEmpty_iff, wholeNonempty, fractional, if_false,
    Bool.false_eq_true]
  rfl

/-- Digits without a fraction and an exponent are an integer, if there are not too many. -/
theorem number?_digits
    {number : ℕ} (short : (Nat.toDigits 10 number).length ≤ maxDigits) (negative : Bool)
    {rest : List Char} (closes : Closes rest) :
    number? negative (Nat.toDigits 10 number ++ rest) = some (.int (signed negative number), rest) := by
  rcases digitsValue_toDigits number with ⟨areDigits, value⟩
  have leads : Nat.toDigits 10 number = ['0'] ∨ Significant (Nat.toDigits 10 number) := by
    rcases Nat.eq_zero_or_pos number with rfl | positive
    · exact .inl rfl
    · refine .inr ⟨areDigits, ?_⟩
      cases written : Nat.toDigits 10 number with
      | nil =>
          exact absurd written Nat.toDigits_ne_nil
      | cons first others =>
          exact ⟨first, others, rfl, head_toDigits positive written⟩
  have noFraction : fractionDigits rest = ([], rest) :=
    @fractionDigits_pointed [] rest (by simp) closes.startsWithDigit_eq
      (closes.head?_ne (by decide))
  have noExponent : exponentPart rest = (none, rest) := exponentPart_marked none closes
  rw [digitsValue] at value
  simp only [number?, wholeDigits_append leads closes.startsWithDigit_eq, noFraction, noExponent,
    List.isEmpty_iff, Nat.toDigits_ne_nil, if_false, List.isEmpty_nil, Option.isNone_none,
    Bool.and_self, if_true, if_neg (Nat.not_lt_of_le short), value]

/-! ## Values that are neither arrays nor objects -/

theorem word?_append (word : String) (rest : List Char) :
    word? word (word.toList ++ rest) = some rest := by
  simp [word?]

theorem word?_of_digit
    {word : String} {letter first : Char} {more : List Char}
    (chars : word.toList = letter :: more) (noDigit : Text.isAsciiDigit letter = false)
    (digit : Text.isAsciiDigit first = true) (others : List Char) :
    word? word (first :: others) = none := by
  have differ : letter ≠ first := by
    rintro rfl
    rw [noDigit] at digit
    cases digit
  simp [word?, chars, differ]

theorem scalar?_of_digit
    {first : Char} (digit : Text.isAsciiDigit first = true) (others : List Char) :
    scalar? (first :: others) = number? false (first :: others) := by
  rw [scalar?.eq_def]
  split <;> first
    | next same => cases same; cases digit
    | rfl

theorem scalar?_of_minus
    {first : Char} (digit : Text.isAsciiDigit first = true) (others : List Char) :
    scalar? ('-' :: first :: others) = number? true (first :: others) := by
  have noWord : word? "Infinity" (first :: others) = none :=
    word?_of_digit rfl rfl digit others
  rw [scalar?, noWord]

theorem scalar?_signed
    {negative : Bool} {chars rest after : List Char} {value : Raw}
    (begins : startsWithDigit chars = true)
    (read : number? negative (chars ++ rest) = some (value, after)) :
    scalar? ((if negative then '-' :: chars else chars) ++ rest) = some (value, after) := by
  cases chars with
  | nil =>
      cases begins
  | cons first others =>
      cases negative with
      | false =>
          exact (scalar?_of_digit begins _).trans read
      | true =>
          exact (scalar?_of_minus begins _).trans read

theorem startsWithDigit_chars
    {parts : Parts} (wellFormed : parts.WellFormed) :
    startsWithDigit parts.chars = true := by
  rcases parts with ⟨whole, fraction, exponent⟩
  rcases wellFormed.leads with zero | significant
  · rw [Parts.chars, zero]
    rfl
  · rcases significant.leads with ⟨first, others, split, -⟩
    have digit := significant.areDigits first (by rw [split]; simp)
    rw [Parts.chars, split]
    exact digit

/-- The text of a number is read as the number. -/
theorem scalar?_float (x : Binary64)
    {rest : List Char} (closes : Closes rest) :
    scalar? (x.textChars ++ rest) = some (.float (.finite x), rest) := by
  rcases x.textChars_eq_parts with ⟨parts, wellFormed, text, reads⟩
  have number := number?_parts wellFormed x.negative closes
  rw [Scientific.toFloating, reads] at number
  rw [text]
  exact scalar?_signed (startsWithDigit_chars wellFormed) number

theorem length_toDigits_of_short
    {number : ℤ} (short : isOverlong number = false) :
    (Nat.toDigits 10 number.natAbs).length ≤ maxDigits := by
  have few : ∀ bound, 0 < bound → ¬ Nat.pow 10 bound ≤ number.natAbs →
      (Nat.toDigits 10 number.natAbs).length ≤ bound := fun bound positive less =>
    (Nat.length_toDigits_le_iff (by decide) positive).mpr (Nat.lt_of_not_le less)
  delta isOverlong at short
  exact few maxDigits (by decide) (of_decide_eq_false short)

theorem startsWithDigit_toDigits (number : ℕ) :
    startsWithDigit (Nat.toDigits 10 number) = true := by
  cases written : Nat.toDigits 10 number with
  | nil =>
      exact absurd written Nat.toDigits_ne_nil
  | cons first others =>
      exact (digitsValue_toDigits number).1 first (by rw [written]; simp)

/-- The text of an integer is read as the integer. -/
theorem scalar?_int
    {number : ℤ} (short : isOverlong number = false)
    {rest : List Char} (closes : Closes rest) :
    scalar? ((toString number).toList ++ rest) = some (.int number, rest) := by
  have read := number?_digits (length_toDigits_of_short short) (decide (number < 0)) closes
  rw [signed_natAbs] at read
  rw [toList_toString]
  exact scalar?_signed (startsWithDigit_toDigits _) read

end TableSource.Json
