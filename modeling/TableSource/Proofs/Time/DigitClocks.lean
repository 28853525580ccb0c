import TableSource.Proofs.Number.IntegerText

/-!
# Clocks without marks between their fields

Hyphens and colons may be left out of an ISO text, any character may separate its date from its
time of day, and its decimals may follow the seconds without a point.  So a text of nothing but
digits, when it is long enough, is read as a date, a character that is passed over, and a time of
day.
-/

namespace TableSource

open Text Numeral

/-- The number that a few digits of a list write, from a place on. -/
def digitsAt (start count : ℕ) (digits : List Char) : ℕ :=
  digitsValue ((digits.drop start).take count)

/-- The date that the first eight digits of a list write. -/
def dateOfDigits (digits : List Char) : CivilDate :=
  { year := digitsAt 0 4 digits, month := digitsAt 4 2 digits, day := digitsAt 6 2 digits }

/-- The instant that a list of digits is read as: a date of eight digits, a digit that is passed
over, a time of day of six digits, and the decimals of its seconds. -/
def clockOfDigits? (digits : List Char) : Option Instant :=
  Instant.ofFields? (dateOfDigits digits) (digitsAt 9 2 digits) (digitsAt 11 2 digits)
    (digitsAt 13 2 digits) (digitsAt 15 6 digits)

theorem digitsAt_take
    {start count taken : ℕ} (inside : start + count ≤ taken) (digits : List Char) :
    digitsAt start count (digits.take taken) = digitsAt start count digits := by
  rw [digitsAt, List.drop_take, List.take_take, Nat.min_eq_left (by omega)]
  rfl

/-! ## Days -/

/-- The day of a date leads back to what the date is read as. -/
theorem Instant.ofFields?_dateOf
    {date : CivilDate} (onCalendar : Calendar.isDate date = true)
    (hour minute second micros : ℕ) :
    ofFields? (Calendar.dateOf (Calendar.dayNumber date)) hour minute second micros =
      ofFields? date hour minute second micros := by
  by_cases known : Calendar.dayNumber date < Calendar.dayCount
  · rw [ofFields?, ofFields?, Calendar.isDate_dateOf known, Calendar.dayNumber_dateOf, onCalendar]
  · have late (timeOfDay : ℕ) :
        ofMicros? ((Calendar.dayNumber date * microsPerDay + timeOfDay : ℕ) : ℤ) = none := by
      rw [ofMicros?, dif_neg]
      rintro ⟨-, inRange⟩
      have beyond := Nat.mul_le_mul_right microsPerDay (Nat.le_of_not_lt known)
      rw [microLimit] at inRange
      omega
    rw [ofFields?, ofFields?, Calendar.dayNumber_dateOf, late]
    simp only [ite_self]

namespace IsoText

variable {digits : List Char}

/-! ## Digits -/

theorem digits?_drop
    (areDigits : ∀ c ∈ digits, isAsciiDigit c = true)
    {start count : ℕ} (enough : start + count ≤ digits.length) :
    digits? count (digits.drop start) =
      some (digitsAt start count digits, digits.drop (start + count)) := by
  have size : ((digits.drop start).take count).length = count := by
    rw [List.length_take, List.length_drop]
    omega
  have written : ((digits.drop start).take count).all isAsciiDigit = true := by
    rw [List.all_eq_true]
    exact fun c member => areDigits c (List.mem_of_mem_drop (List.mem_of_mem_take member))
  have read := digits?_append count _ ((digits.drop start).drop count) size written
  rw [List.take_append_drop, List.drop_drop] at read
  rw [read, digitsAt, digitsValue, ofDigits, List.foldl_map]

theorem digits?_take
    (areDigits : ∀ c ∈ digits, isAsciiDigit c = true)
    {count : ℕ} (enough : count ≤ digits.length) :
    digits? count digits = some (digitsAt 0 count digits, digits.drop count) := by
  have read := digits?_drop areDigits (show 0 + count ≤ digits.length by omega)
  rw [Nat.zero_add] at read
  exact read

/-- No digit is a mark. -/
theorem ne_of_digit
    (areDigits : ∀ c ∈ digits, isAsciiDigit c = true)
    {mark c : Char} (other : isAsciiDigit mark = false) (member : c ∈ digits) :
    c ≠ mark := by
  rintro rfl
  rw [areDigits c member] at other
  cases other

/-! ## Dates -/

theorem dateEnd_digits
    (areDigits : ∀ c ∈ digits, isAsciiDigit c = true) (long : 8 ≤ digits.length) :
    dateEnd digits = 8 := by
  have fifth : digits[4]? = some digits[4] := List.getElem?_eq_getElem (by omega)
  have member : digits[4] ∈ digits := List.getElem_mem (by omega)
  have noHyphen : digits[4] ≠ '-' := ne_of_digit areDigits rfl member
  have noWeek : digits[4] ≠ 'W' := ne_of_digit areDigits rfl member
  rw [dateEnd, if_neg (by omega), fifth, if_neg (by simpa using noHyphen),
    if_neg (by simpa using noWeek)]

theorem day?_digits
    (areDigits : ∀ c ∈ digits, isAsciiDigit c = true) (long : 8 ≤ digits.length) :
    day? digits =
      if Calendar.isDate (dateOfDigits digits) then
        some (Calendar.dayNumber (dateOfDigits digits))
      else none := by
  have year := digits?_take areDigits (show 4 ≤ digits.length by omega)
  have month := digits?_drop areDigits (show 4 + 2 ≤ digits.length by omega)
  have day := digits?_drop areDigits (show 6 + 2 ≤ digits.length by omega)
  have mark : ∀ c ∈ (digits.drop 4).head?, isAsciiDigit c = true := fun c begins =>
    areDigits c (List.mem_of_mem_drop (List.mem_of_mem_head? begins))
  have noHyphen : ((digits.drop 4).head? == some '-') = false := by
    rw [beq_eq_false_iff_ne]
    intro hyphen
    cases mark '-' hyphen
  simp only [day?, year, noHyphen, Bool.false_eq_true, if_false]
  split
  · next rest week =>
      rw [week] at mark
      cases mark 'W' rfl
  · simp only [month, hyphen?, Bool.false_eq_true, if_false, Option.bind_some, day]
    rfl

/-! ## Times of day -/

/-- After a field there are more digits, and no mark. -/
theorem following_digits
    (areDigits : ∀ c ∈ digits, isAsciiDigit c = true)
    {start : ℕ} (long : start + 2 ≤ digits.length) :
    ∃ c rest, following (digits.drop start) = .more c rest ∧
      (c == ':') = false ∧ (c == '.') = false ∧ (c == ',') = false := by
  have size : (digits.drop start).length = digits.length - start := List.length_drop
  cases behind : digits.drop start with
  | nil =>
      rw [behind, List.length_nil] at size
      omega
  | cons c rest =>
      have member : c ∈ digits := List.mem_of_mem_drop (by rw [behind]; exact List.mem_cons_self)
      cases rest with
      | nil =>
          rw [behind, List.length_singleton] at size
          omega
      | cons second others =>
          simp only [beq_eq_false_iff_ne]
          exact ⟨c, second :: others, rfl, ne_of_digit areDigits rfl member,
            ne_of_digit areDigits rfl member, ne_of_digit areDigits rfl member⟩

section Fields

variable {start : ℕ}

theorem fraction?_digits
    (areDigits : ∀ c ∈ digits, isAsciiDigit c = true)
    (long : start + 6 ≤ digits.length) (hour minute second : ℕ) :
    fraction? hour minute second (digits.drop start) =
      some
        { hour, minute, second, micros := digitsAt start 6 digits, leftover := false } := by
  have size : min 6 (digits.drop start).length = 6 := by
    rw [List.length_drop]
    omega
  have nothing : (digits.drop (start + 6)).dropWhile isAsciiDigit = [] :=
    List.dropWhile_eq_nil_iff.mpr fun c member => areDigits c (List.mem_of_mem_drop member)
  simp only [fraction?, size, digits?_drop areDigits long, nothing]
  simp

theorem seconds?_digits
    (areDigits : ∀ c ∈ digits, isAsciiDigit c = true)
    (long : start + 8 ≤ digits.length) (hour minute : ℕ) :
    seconds? false hour minute (digits.drop start) =
      some
        { hour, minute, second := digitsAt start 2 digits
          micros := digitsAt (start + 2) 6 digits, leftover := false } := by
  have read := digits?_drop areDigits (show start + 2 ≤ digits.length by omega)
  rcases following_digits areDigits (show start + 2 + 2 ≤ digits.length by omega) with
    ⟨c, rest, more, colon, point, comma⟩
  simp only [seconds?, read, more, colon, point, comma, Bool.and_false, Bool.or_false,
    Bool.false_eq_true, if_false]
  exact fraction?_digits areDigits long hour minute _

theorem minutes?_digits
    (areDigits : ∀ c ∈ digits, isAsciiDigit c = true)
    (long : start + 10 ≤ digits.length) (hour : ℕ) :
    minutes? false hour (digits.drop start) =
      some
        { hour, minute := digitsAt start 2 digits, second := digitsAt (start + 2) 2 digits
          micros := digitsAt (start + 4) 6 digits, leftover := false } := by
  have read := digits?_drop areDigits (show start + 2 ≤ digits.length by omega)
  rcases following_digits areDigits (show start + 2 + 2 ≤ digits.length by omega) with
    ⟨c, rest, more, colon, point, comma⟩
  simp only [minutes?, read, more, colon, point, comma, Bool.and_false, Bool.or_false,
    Bool.false_eq_true, if_false]
  exact seconds?_digits areDigits long hour _

theorem fields?_digits
    (areDigits : ∀ c ∈ digits, isAsciiDigit c = true)
    (long : start + 12 ≤ digits.length) :
    fields? (digits.drop start) =
      some
        { hour := digitsAt start 2 digits, minute := digitsAt (start + 2) 2 digits
          second := digitsAt (start + 4) 2 digits, micros := digitsAt (start + 6) 6 digits
          leftover := false } := by
  have read := digits?_drop areDigits (show start + 2 ≤ digits.length by omega)
  rcases following_digits areDigits (show start + 2 + 2 ≤ digits.length by omega) with
    ⟨c, rest, more, colon, point, comma⟩
  simp only [fields?, read, more, colon, point, comma, Bool.or_false, Bool.false_eq_true, if_false]
  exact minutes?_digits areDigits long _

end Fields

/-- Digits have no offset behind them. -/
theorem timeOn?_digits
    (areDigits : ∀ c ∈ digits, isAsciiDigit c = true)
    {start : ℕ} (long : start + 12 ≤ digits.length) (day : ℕ) :
    timeOn? day (digits.drop start) =
      (Instant.ofFields? (Calendar.dateOf day) (digitsAt start 2 digits)
        (digitsAt (start + 2) 2 digits) (digitsAt (start + 4) 2 digits)
        (digitsAt (start + 6) 6 digits)).map fun shown => { shown, offset := none } := by
  have within : ∀ c ∈ digits.drop start, (!beginsOffset c) = true := by
    intro c member
    have isDigit := areDigits c (List.mem_of_mem_drop member)
    rw [eq_digitChar isDigit, beginsOffset_digitChar]
    rfl
  have clock := List.takeWhile_eq_self_iff.mpr within
  have zone := List.dropWhile_eq_nil_iff.mpr within
  simp only [timeOn?, clock, zone, fields?_digits areDigits long]
  rfl

/-! ## Readings -/

/-- Enough digits are read as a clock, on the universal one. -/
theorem readingOfChars?_digits
    (areDigits : ∀ c ∈ digits, isAsciiDigit c = true) (long : 21 ≤ digits.length) :
    (readingOfChars? digits).bind Reading.instant? = clockOfDigits? digits := by
  have taken : ∀ c ∈ digits.take 8, isAsciiDigit c = true :=
    fun c member => areDigits c (List.mem_of_mem_take member)
  have size : 8 ≤ (digits.take 8).length := by
    rw [List.length_take]
    omega
  have date : dateOfDigits (digits.take 8) = dateOfDigits digits := by
    rw [dateOfDigits, digitsAt_take (by decide), digitsAt_take (by decide),
      digitsAt_take (by decide)]
    rfl
  have separated : digits.drop 8 = digits[8] :: digits.drop 9 := List.drop_eq_getElem_cons _
  rw [readingOfChars?, if_neg (by omega)]
  simp only [dateEnd_digits areDigits (by omega), day?_digits taken size, date, separated]
  split
  · next none_named =>
      split at none_named
      · cases none_named
      · next offCalendar =>
          rw [clockOfDigits?, Instant.ofFields?]
          simp [offCalendar]
  · next day named =>
      split at named
      · next onCalendar =>
          cases named
          rw [timeOn?_digits areDigits (by omega), Instant.ofFields?_dateOf onCalendar,
            clockOfDigits?]
          cases Instant.ofFields? (dateOfDigits digits) (digitsAt 9 2 digits)
            (digitsAt 11 2 digits) (digitsAt 13 2 digits) (digitsAt 15 6 digits) <;> rfl
      · cases named

end IsoText

end TableSource
