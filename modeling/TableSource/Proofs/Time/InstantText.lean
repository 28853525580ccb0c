import TableSource.Cell.Reading
import TableSource.Proofs.Text.Trimming
import TableSource.Proofs.Time.Calendar

/-!
# The text of an instant is read as the instant

An instant is written with its date, a separator and its time of day, and an offset or a letter for
the universal clock may follow; it is sent with the letters T and Z.  The reader of untrusted texts
first tries to see a number in it, which the hyphen after the year rules out, then writes the final
letter as an offset of zero and reads date, time and offset.  Each field has a fixed number of
digits, so one statement about digits gives all of them.
-/

namespace TableSource

/-! ## Digits -/

namespace Text

theorem toNat_digitChar (value : Nat) :
    (digitChar value).toNat = 48 + value % 10 := by
  have each : ∀ digit < 10, (Char.ofNat (48 + digit)).toNat = 48 + digit := by decide
  exact each (value % 10) (Nat.mod_lt value (by decide))

@[simp]
theorem isAsciiDigit_digitChar (value : Nat) :
    isAsciiDigit (digitChar value) = true := by
  simp only [isAsciiDigit, toNat_digitChar, Bool.and_eq_true, decide_eq_true_eq]
  omega

@[simp]
theorem asciiDigitValue_digitChar (value : Nat) :
    asciiDigitValue (digitChar value) = value % 10 := by
  rw [asciiDigitValue, if_pos (isAsciiDigit_digitChar value), toNat_digitChar]
  omega

theorem digitValue?_digitChar (value : Nat) :
    digitValue? (digitChar value) = some (value % 10) := by
  have small : value % 10 < 10 := Nat.mod_lt value (by decide)
  rw [digitValue?, if_pos (by rw [toNat_digitChar]; omega), toNat_digitChar,
    if_pos (by omega)]
  exact congrArg some (by omega)

/-- A digit differs from every character that is no digit. -/
theorem digitChar_ne
    (value : Nat) {c : Char}
    (other : isAsciiDigit c = false) :
    digitChar value ≠ c := by
  intro same
  rw [← same, isAsciiDigit_digitChar] at other
  cases other

theorem isBlank_digitChar (value : Nat) :
    isBlank (digitChar value) = false := by
  simp only [isBlank, toNat_digitChar]
  simp
  omega

end Text

open Text Instant

namespace IsoText

/-- A field of digits is read as the number that the digits write. -/
theorem digits?_append
    (count : Nat) (field rest : List Char)
    (size : field.length = count)
    (written : field.all isAsciiDigit = true) :
    digits? count (field ++ rest) =
      some (field.foldl (fun total c => 10 * total + asciiDigitValue c) 0, rest) := by
  have taken : (field ++ rest).take count = field := by rw [← size, List.take_left]
  have dropped : (field ++ rest).drop count = rest := by rw [← size, List.drop_left]
  simp only [digits?, taken, dropped, size, written, and_self, if_true]

theorem digits?_twoDigits
    {n : Nat} (rest : List Char)
    (small : n < 100) :
    digits? 2 (twoDigits n ++ rest) = some (n, rest) := by
  rw [digits?_append 2 (twoDigits n) rest rfl (by simp [twoDigits])]
  simp only [twoDigits, List.foldl_cons, List.foldl_nil, asciiDigitValue_digitChar]
  congr 2
  omega

theorem digits?_fourDigits
    {n : Nat} (rest : List Char)
    (small : n < 10000) :
    digits? 4 (fourDigits n ++ rest) = some (n, rest) := by
  rw [digits?_append 4 (fourDigits n) rest rfl (by simp [fourDigits, twoDigits])]
  simp only [fourDigits, twoDigits, List.cons_append, List.nil_append, List.foldl_cons,
    List.foldl_nil, asciiDigitValue_digitChar]
  congr 2
  omega

theorem digits?_sixDigits
    {n : Nat} (rest : List Char)
    (small : n < 1000000) :
    digits? 6 (sixDigits n ++ rest) = some (n, rest) := by
  rw [digits?_append 6 (sixDigits n) rest rfl (by simp [sixDigits, fourDigits, twoDigits])]
  simp only [sixDigits, fourDigits, twoDigits, List.cons_append, List.nil_append, List.foldl_cons,
    List.foldl_nil, asciiDigitValue_digitChar]
  congr 2
  omega

/-! ## Dates -/

theorem dateEnd_dateChars
    (date : CivilDate) (rest : List Char) :
    dateEnd (dateChars date ++ rest) = 10 := by
  have letter : digitChar (date.month / 10) ≠ 'W' := digitChar_ne _ rfl
  simp [dateEnd, dateChars, fourDigits, twoDigits, letter]

theorem day?_dateChars
    {date : CivilDate}
    (onCalendar : Calendar.isDate date = true) :
    day? (dateChars date) = some (Calendar.dayNumber date) := by
  rcases (Calendar.isDate_iff date).mp onCalendar with ⟨-, recent, -, lastMonth, -, lastDay⟩
  have fewDays := Calendar.daysInMonth_le date.year lastMonth
  have year := digits?_fourDigits
    ('-' :: (twoDigits date.month ++ '-' :: twoDigits date.day)) (show date.year < 10000 by omega)
  have month := digits?_twoDigits ('-' :: twoDigits date.day) (show date.month < 100 by omega)
  have day := digits?_twoDigits [] (show date.day < 100 by omega)
  rw [List.append_nil] at day
  simp only [day?, dateChars, year, List.head?_cons, BEq.rfl, if_true, List.tail_cons]
  split
  · next marked =>
      -- the month starts with a digit, not with the letter of a week
      exact absurd (List.cons.inj marked).1 (digitChar_ne _ rfl)
  · simp [month, day, hyphen?, onCalendar]

/-! ## Times of day -/

theorem fraction?_sixDigits
    (hour minute second : Nat) {micros : Nat}
    (small : micros < 1000000) :
    fraction? hour minute second (sixDigits micros) =
      some { hour, minute, second, micros, leftover := false } := by
  have read := digits?_sixDigits [] small
  rw [List.append_nil] at read
  have size : (sixDigits micros).length = 6 := rfl
  simp [fraction?, size, read]

theorem seconds?_fractionChars
    (hour minute : Nat) {second micros : Nat}
    (secondSmall : second < 100)
    (microsSmall : micros < 1000000) :
    seconds? true hour minute (twoDigits second ++ fractionChars micros) =
      some { hour, minute, second, micros, leftover := false } := by
  rw [seconds?, digits?_twoDigits _ secondSmall]
  by_cases whole : micros = 0
  · rw [fractionChars, if_pos whole, whole]
    rfl
  · rw [fractionChars, if_neg whole]
    exact fraction?_sixDigits hour minute second microsSmall

theorem fields?_clockChars (t : Instant) :
    fields? t.clockChars =
      some
        { hour := t.hour, minute := t.minute, second := t.second, micros := t.microsecond
          leftover := false } := by
  have hourSmall : t.hour < 100 := by
    simp only [hour, timeOfDay, microsPerDay]
    omega
  have minuteSmall : t.minute < 100 := by
    simp only [minute]
    omega
  have secondSmall : t.second < 100 := by
    simp only [second]
    omega
  have microsSmall : t.microsecond < 1000000 := Nat.mod_lt _ (by decide)
  rw [clockChars, fields?, digits?_twoDigits _ hourSmall]
  show minutes? true t.hour _ = _
  rw [minutes?, digits?_twoDigits _ minuteSmall]
  exact seconds?_fractionChars t.hour t.minute secondSmall microsSmall

theorem beginsOffset_digitChar (value : Nat) :
    beginsOffset (digitChar value) = false := by
  simp only [beginsOffset, Bool.or_eq_false_iff, beq_eq_false_iff_ne]
  exact ⟨⟨digitChar_ne value rfl, digitChar_ne value rfl⟩, digitChar_ne value rfl⟩

/-- A time of day ends before the offset begins. -/
theorem clockChars_before_offset (t : Instant) :
    ∀ c ∈ t.clockChars, (!beginsOffset c) = true := by
  have colon : beginsOffset ':' = false := rfl
  have point : beginsOffset '.' = false := rfl
  rw [← List.all_eq_true]
  by_cases whole : t.microsecond = 0
  · simp [clockChars, fractionChars, whole, twoDigits, beginsOffset_digitChar, colon]
  · simp [clockChars, fractionChars, whole, sixDigits, fourDigits, twoDigits,
      beginsOffset_digitChar, colon, point]

end IsoText

/-! ## Instants and their fields -/

namespace Instant

theorem ofMicros?_micros (t : Instant) :
    ofMicros? t.micros = some t := by
  rw [ofMicros?, dif_pos ⟨Int.natCast_nonneg _, t.inRange⟩]
  rfl

theorem ofMicros?_eq_some_iff
    {micros : Int} {t : Instant} :
    ofMicros? micros = some t ↔ (t.micros : Int) = micros := by
  constructor
  · intro made
    rw [ofMicros?, Option.dite_none_right_eq_some] at made
    rcases made with ⟨⟨begun, _⟩, made⟩
    cases made
    exact Int.toNat_of_nonneg begun
  · rintro rfl
    exact t.ofMicros?_micros

theorem day_lt (t : Instant) :
    t.day < Calendar.dayCount := by
  have inRange := t.inRange
  simp only [microLimit] at inRange
  exact Nat.div_lt_of_lt_mul (by rwa [Nat.mul_comm])

theorem dayNumber_date (t : Instant) :
    Calendar.dayNumber t.date = t.day :=
  Calendar.dayNumber_dateOf t.day

/-- An instant is made up of its date and the fields of its time of day. -/
theorem ofFields?_date (t : Instant) :
    ofFields? t.date t.hour t.minute t.second t.microsecond = some t := by
  have onCalendar : Calendar.isDate t.date = true := Calendar.isDate_dateOf t.day_lt
  have early : t.timeOfDay < microsPerDay := Nat.mod_lt t.micros (by decide)
  have hourSmall : t.hour < 24 := by
    simp only [microsPerDay] at early
    simp only [hour]
    omega
  have minuteSmall : t.minute < 60 := Nat.mod_lt _ (by decide)
  have secondSmall : t.second < 60 := Nat.mod_lt _ (by decide)
  have microsSmall : t.microsecond < 1000000 := Nat.mod_lt _ (by decide)
  have clock : ((t.hour * 60 + t.minute) * 60 + t.second) * 1000000 + t.microsecond =
      t.timeOfDay := by
    simp only [hour, minute, second, microsecond]
    omega
  have sum : t.day * microsPerDay + t.timeOfDay = t.micros := Nat.div_add_mod' t.micros microsPerDay
  simp only [ofFields?, onCalendar, hourSmall, minuteSmall, secondSmall, microsSmall, decide_true,
    Bool.and_self, if_true, clock, dayNumber_date, sum]
  exact t.ofMicros?_micros

end Instant

/-- A reading of the universal clock is the instant that it shows. -/
theorem Reading.instant?_of_offset_zero (t : Instant) :
    Reading.instant? { shown := t, offset := some 0 } = some t := by
  rw [Reading.instant?]
  show t.back? 0 = some t
  rw [back?, Int.sub_zero]
  exact t.ofMicros?_micros

namespace IsoText

/-- What may follow the time of day: nothing, or the characters of an offset. -/
inductive Zone : List Char → Option Int → Prop where
  | unknown : Zone [] none
  | known {sign : Char} {rest : List Char} {offset : Int}
      (begins : beginsOffset sign = true) (read : offset? (sign :: rest) = some offset) :
      Zone (sign :: rest) (some offset)

theorem zone_zero : Zone "+00:00".toList (some 0) :=
  .known rfl (by decide)

variable {zone : List Char} {offset : Option Int}

/-- The time of day and the offset are told apart by where an offset begins. -/
theorem Zone.split
    (t : Instant) (follows : Zone zone offset) :
    (t.clockChars ++ zone).takeWhile (fun c => !beginsOffset c) = t.clockChars ∧
      (t.clockChars ++ zone).dropWhile (fun c => !beginsOffset c) = zone := by
  rw [List.takeWhile_append_of_pos (clockChars_before_offset t),
    List.dropWhile_append_of_pos (clockChars_before_offset t)]
  cases follows with
  | unknown =>
      exact ⟨List.append_nil _, rfl⟩
  | known begins read =>
      simp [begins]

theorem timeOn?_clockChars
    (t : Instant) (follows : Zone zone offset) :
    timeOn? t.day (t.clockChars ++ zone) = some { shown := t, offset } := by
  rcases follows.split t with ⟨clock, after⟩
  have shown : ofFields? (Calendar.dateOf t.day) t.hour t.minute t.second t.microsecond = some t :=
    t.ofFields?_date
  simp only [timeOn?, clock, after, fields?_clockChars, shown]
  cases follows with
  | unknown =>
      rfl
  | known begins read =>
      simp [read]

/-- The text of an instant with an offset, or without one, is the reading of a clock that shows the
instant. -/
theorem readingOfChars?_chars
    (separator : Char) (t : Instant) (follows : Zone zone offset) :
    readingOfChars? (t.chars separator ++ zone) = some { shown := t, offset } := by
  have parts : t.chars separator ++ zone =
      dateChars t.date ++ separator :: (t.clockChars ++ zone) := by
    simp [chars]
  have size : (dateChars t.date).length = 10 := rfl
  have long : ¬ (dateChars t.date ++ separator :: (t.clockChars ++ zone)).length < 7 := by
    rw [List.length_append, size]
    omega
  have dated := day?_dateChars (Calendar.isDate_dateOf t.day_lt)
  rw [parts, readingOfChars?, if_neg long, dateEnd_dateChars]
  simp only [List.take_left' size, List.drop_left' size]
  rw [show Calendar.dateOf t.day = t.date from rfl, t.dayNumber_date] at dated
  rw [dated]
  exact timeOn?_clockChars t follows

end IsoText

/-! ## What a text with a hyphenated date is not -/

namespace Numeral

theorem asciiDigits_cons_digitChar
    (value : Nat) (rest : List Char) :
    asciiDigits (digitChar value :: rest) = digitChar value :: asciiDigits rest := by
  have same : digitChar (value % 10) = digitChar value := by
    rw [digitChar, digitChar, Nat.mod_mod]
  simp only [asciiDigits, List.map_cons, digitValue?_digitChar, same]

theorem dropUnderscores?_cons_digitChar
    (afterDigit : Bool) (value : Nat) (rest : List Char) :
    dropUnderscores? afterDigit (digitChar value :: rest) =
      (dropUnderscores? true rest).map (digitChar value :: ·) := by
  rw [dropUnderscores?, if_neg (digitChar_ne value rfl), isAsciiDigit_digitChar]

theorem splitSign_digitChar
    (value : Nat) (rest : List Char) :
    splitSign (digitChar value :: rest) = (false, digitChar value :: rest) := by
  rw [splitSign]
  · intro tail signed
    exact absurd (List.cons.inj signed).1 (digitChar_ne value rfl)
  · intro tail signed
    exact absurd (List.cons.inj signed).1 (digitChar_ne value rfl)

/-- Digits with a hyphen behind them are no numeral, whatever follows. -/
theorem scientificOfChars?_fourDigits
    {year : Nat} {rest : List Char}
    (trimmed : trimChars (fourDigits year ++ '-' :: rest) = fourDigits year ++ '-' :: rest) :
    scientificOfChars? (fourDigits year ++ '-' :: rest) = none := by
  have hyphen (cs : List Char) : asciiDigits ('-' :: cs) = '-' :: asciiDigits cs := rfl
  have plain : dropUnderscores? false (asciiDigits (fourDigits year ++ '-' :: rest)) =
      (dropUnderscores? false (asciiDigits rest)).map fun more =>
        fourDigits year ++ '-' :: more := by
    simp only [fourDigits, twoDigits, List.cons_append, List.nil_append,
      asciiDigits_cons_digitChar, dropUnderscores?_cons_digitChar, hyphen]
    rw [dropUnderscores?, if_neg (by decide)]
    simp [Function.comp_def, isAsciiDigit]
  rw [scientificOfChars?, trimmed, plain]
  cases dropUnderscores? false (asciiDigits rest) with
  | none =>
      rfl
  | some more =>
      simp only [Option.map_some, fourDigits, twoDigits, List.cons_append, List.nil_append,
        splitSign_digitChar]
      have stop : isAsciiDigit '-' = false := rfl
      simp [unsigned?, stop, exponent?]

end Numeral

/-! ## Texts of instants -/

namespace Cell

/-- The text of an instant, ending in one way or another, is read as what a clock shows. -/
theorem instantOfText?_chars
    {separator last : Char} {ending zone : List Char} {offset : Option Int}
    (t : Instant)
    (ends : (t.chars separator ++ ending).getLast? = some last) (filled : isBlank last = false)
    (written : withOffset (t.chars separator ++ ending) = t.chars separator ++ zone)
    (follows : IsoText.Zone zone offset) :
    instantOfText? (String.ofList (t.chars separator ++ ending)) =
      Reading.instant? { shown := t, offset } := by
  have trimmed : trimChars (t.chars separator ++ ending) = t.chars separator ++ ending :=
    dropEnds_of_ends ends (isBlank_digitChar (t.date.year / 100 / 10)) filled
  have noNumber : Numeral.finite? (String.ofList (t.chars separator ++ ending)) = none := by
    have hyphenated : t.chars separator ++ ending = fourDigits t.date.year ++
        '-' :: (twoDigits t.date.month ++ '-' :: (twoDigits t.date.day ++
          separator :: (t.clockChars ++ ending))) := by
      simp [chars, dateChars]
    rw [hyphenated] at trimmed
    rw [Numeral.finite?, String.toList_ofList, hyphenated,
      Numeral.scientificOfChars?_fourDigits trimmed]
    rfl
  rw [instantOfText?, String.toList_ofList, trimmed]
  simp only [noNumber, written, IsoText.readingOfChars?_chars separator t follows]
  rfl

/-- A letter for the universal clock is an offset of zero. -/
theorem instantOfText?_letter
    {letter : Char} (separator : Char) (t : Instant)
    (universal : letter = 'Z' ∨ letter = 'z') :
    instantOfText? (String.ofList (t.chars separator ++ [letter])) = some t := by
  have written : withOffset (t.chars separator ++ [letter]) =
      t.chars separator ++ "+00:00".toList := by
    rcases universal with rfl | rfl <;> rw [withOffset, List.getLast?_concat] <;>
      exact congrArg (· ++ "+00:00".toList) List.dropLast_concat
  have filled : isBlank letter = false := by
    rcases universal with rfl | rfl <;> rfl
  rw [instantOfText?_chars t List.getLast?_concat filled written IsoText.zone_zero]
  exact Reading.instant?_of_offset_zero t

/-- Reading the text in which an instant is sent gives the instant. -/
theorem instantOfText?_wire (t : Instant) :
    instantOfText? t.wire = some t :=
  instantOfText?_letter 'T' t (.inl rfl)

end Cell

end TableSource
