import TableSource.Cell.Reading
import TableSource.Proofs.Time.InstantText

/-!
# Dates at any offset

A clock that is a whole number of minutes ahead of the universal clock shows an instant that many
minutes later.  What it shows is read as the instant, as a text and as a value, for every offset of
less than a day; where the instant is off the calendar, nothing is read.
-/

namespace TableSource

open Text Instant

/-- What a clock shows that is a number of minutes ahead of the universal clock. -/
def Reading.ahead (minutes : Int) (shown : Instant) : Reading :=
  { shown, offset := some (minutes * 60000000) }

/-- What a clock shows whose offset is not given. -/
def Reading.naive (shown : Instant) : Reading :=
  { shown, offset := none }

/-- The text of a reading. -/
def Reading.text (separator : Char) (reading : Reading) : String :=
  String.ofList (reading.chars separator)

/-! ## Clocks that are ahead -/

/-- A clock that is ahead shows an instant later by as many minutes. -/
theorem Reading.instant?_ahead_eq_some_iff
    {minutes : Int} {shown t : Instant} :
    (Reading.ahead minutes shown).instant? = some t ↔
      (shown.micros : Int) = t.micros + minutes * 60000000 := by
  show shown.back? (minutes * 60000000) = some t ↔ _
  rw [back?, ofMicros?_eq_some_iff, eq_sub_iff_add_eq, eq_comm]

theorem Reading.text_naive (separator : Char) (t : Instant) :
    (Reading.naive t).text separator = String.ofList (t.chars separator) :=
  congrArg String.ofList (List.append_nil _)

namespace IsoText

/-! ## Offsets of whole minutes -/

/-- An offset of whole minutes is written with its hours and minutes. -/
theorem offsetChars_minutes (minutes : Int) :
    offsetChars (minutes * 60000000) =
      (if minutes < 0 then '-' else '+') ::
        (twoDigits (minutes.natAbs / 60) ++ ':' :: twoDigits (minutes.natAbs % 60)) := by
  have size : (minutes * 60000000).natAbs = minutes.natAbs * 60000000 := Int.natAbs_mul ..
  have sign : minutes * 60000000 < 0 ↔ minutes < 0 := by
    omega
  have hours : minutes.natAbs * 60000000 / 3600000000 = minutes.natAbs / 60 := by
    omega
  have seconds : minutes.natAbs * 60000000 / 1000000 % 60 = 0 := by
    omega
  have micros : minutes.natAbs * 60000000 % 1000000 = 0 := by
    omega
  have rest : minutes.natAbs * 60000000 / 60000000 = minutes.natAbs := by
    omega
  simp only [offsetChars, size, sign, hours, seconds, micros, rest, and_self, if_true,
    List.append_nil]

theorem fields?_minutes
    {hour minute : Nat}
    (hourSmall : hour < 100) (minuteSmall : minute < 100) :
    fields? (twoDigits hour ++ ':' :: twoDigits minute) =
      some { hour, minute, second := 0, micros := 0, leftover := false } := by
  have last := digits?_twoDigits [] minuteSmall
  rw [List.append_nil] at last
  rw [fields?, digits?_twoDigits _ hourSmall]
  show minutes? true hour (twoDigits minute) = _
  rw [minutes?, last]
  rfl

variable {minutes : Int}

theorem offset?_cons
    {sign : Char} {rest : List Char} {hour minute : Nat}
    (noLetter : sign ≠ 'Z') (inDay : hour * 60 + minute < 1440)
    (read : fields? rest = some { hour, minute, second := 0, micros := 0, leftover := false }) :
    offset? (sign :: rest) =
      some (if sign = '-' then -((hour * 60 + minute) * 60000000 : Int)
        else (hour * 60 + minute) * 60000000) := by
  have size : (if (hour * 60 + minute) * 60 + 0 = 0 then 0
      else ((hour * 60 + minute) * 60 + 0) * 1000000 + 0) = (hour * 60 + minute) * 60000000 := by
    split <;> omega
  have early : ¬ microsPerDay ≤ (hour * 60 + minute) * 60000000 := by
    rw [microsPerDay]
    omega
  have cast : (((hour * 60 + minute) * 60000000 : Nat) : Int) =
      (hour * 60 + minute) * 60000000 := by
    push_cast
    rfl
  rw [offset?]
  · simp only [noLetter, read, size, early, if_false, Bool.false_or, decide_false,
      Bool.false_eq_true, cast]
  · rintro rfl
    exact absurd rfl noLetter
  · rintro tail rfl
    exact absurd rfl noLetter

/-- The offset that is written is read back. -/
theorem offset?_offsetChars
    (small : minutes.natAbs < 1440) :
    offset? (offsetChars (minutes * 60000000)) = some (minutes * 60000000) := by
  have fields := fields?_minutes (show minutes.natAbs / 60 < 100 by omega)
    (show minutes.natAbs % 60 < 100 by omega)
  have inDay : minutes.natAbs / 60 * 60 + minutes.natAbs % 60 < 1440 := by
    omega
  rw [offsetChars_minutes]
  by_cases behind : minutes < 0
  · rw [if_pos behind, offset?_cons (by decide) inDay fields, if_pos rfl]
    congr 1
    omega
  · rw [if_neg behind, offset?_cons (by decide) inDay fields, if_neg (by decide)]
    congr 1
    omega

theorem zone_offsetChars
    (small : minutes.natAbs < 1440) :
    Zone (offsetChars (minutes * 60000000)) (some (minutes * 60000000)) := by
  have read := offset?_offsetChars small
  rw [offsetChars_minutes] at read ⊢
  apply Zone.known _ read
  split <;> rfl

end IsoText

namespace Cell

/-! ## Texts with a digit at the end -/

theorem getLast?_chars
    (separator : Char) (t : Instant) :
    ∃ value, (t.chars separator).getLast? = some (digitChar value) := by
  by_cases whole : t.microsecond = 0
  · refine ⟨t.second, ?_⟩
    simp [chars, clockChars, fractionChars, whole, twoDigits]
  · refine ⟨t.microsecond, ?_⟩
    simp [chars, clockChars, fractionChars, whole, sixDigits, fourDigits, twoDigits]

theorem getLast?_offsetChars (minutes : Int) :
    ∃ value, (offsetChars (minutes * 60000000)).getLast? = some (digitChar value) := by
  refine ⟨minutes.natAbs % 60, ?_⟩
  rw [IsoText.offsetChars_minutes]
  simp [twoDigits]

/-- A text that ends in a digit is left as it is. -/
theorem withOffset_of_digit
    {cs : List Char} {value : Nat}
    (ends : cs.getLast? = some (digitChar value)) :
    withOffset cs = cs := by
  have upper : digitChar value ≠ 'Z' := digitChar_ne _ rfl
  have lower : digitChar value ≠ 'z' := digitChar_ne _ rfl
  rw [withOffset, ends]
  split
  · next same =>
      exact absurd (Option.some.inj same) upper
  · next same =>
      exact absurd (Option.some.inj same) lower
  · rfl

theorem instantOfText?_of_digit
    {separator : Char} {t : Instant} {zone : List Char} {offset : Option Int} {value : Nat}
    (ends : (t.chars separator ++ zone).getLast? = some (digitChar value))
    (follows : IsoText.Zone zone offset) :
    instantOfText? (String.ofList (t.chars separator ++ zone)) =
      Reading.instant? { shown := t, offset } := by
  apply instantOfText?_chars t ends (isBlank_digitChar value) _ follows
  exact withOffset_of_digit ends

/-- The text of a reading with a whole number of minutes is read as the instant of the reading. -/
theorem instantOfText?_ahead
    {minutes : Int} (separator : Char) (shown : Instant)
    (small : minutes.natAbs < 1440) :
    instantOfText? ((Reading.ahead minutes shown).text separator) =
      (Reading.ahead minutes shown).instant? := by
  rcases getLast?_offsetChars minutes with ⟨value, ends⟩
  have follows := IsoText.zone_offsetChars small
  apply instantOfText?_of_digit _ follows
  · exact value
  · rw [List.getLast?_append, ends]
    rfl

/-- Without an offset, and with a letter for the universal clock, a text is read as the instant that
the clock shows. -/
theorem instantOfText?_naive
    (separator : Char) (t : Instant) :
    ∀ ending ∈ ["Z", "z", ""],
      instantOfText? ((Reading.naive t).text separator ++ ending) = some t := by
  have letter (c : Char) : (Reading.naive t).text separator ++ String.ofList [c] =
      String.ofList (t.chars separator ++ [c]) := by
    rw [Reading.text_naive, String.ofList_append]
  rw [List.forall_mem_cons, List.forall_mem_cons, List.forall_mem_singleton]
  refine ⟨?upper, ?lower, ?nothing⟩
  case upper =>
    exact (congrArg _ (letter 'Z')).trans (instantOfText?_letter separator t (.inl rfl))
  case lower =>
    exact (congrArg _ (letter 'z')).trans (instantOfText?_letter separator t (.inr rfl))
  case nothing =>
    rcases getLast?_chars separator t with ⟨value, ends⟩
    rw [← List.append_nil (t.chars separator)] at ends
    rw [String.append_empty, Reading.text_naive, ← List.append_nil (t.chars separator)]
    exact instantOfText?_of_digit ends .unknown

/-- A date is read as an instant, whatever offset of whole minutes it is written in: what a clock
ahead shows at an instant is read as the instant, as a text and as a value.  With a letter for the
universal clock, or without an offset, it is the instant that is shown.  Where no instant on the
calendar is so many minutes before what is shown, nothing is read.  It does not matter which of two
moments a value means, or in which zone a local clock is. -/
theorem dates_are_read_as_instants (separator : Char) :
    (∀ (minutes : Int) (shown t : Instant), minutes.natAbs < 1440 →
      (shown.micros : Int) = t.micros + minutes * 60000000 →
      read? .date (.text ((Reading.ahead minutes shown).text separator)) =
          .ok (some (.instant t)) ∧
        ∀ fold zone, read? .date (.reading { Reading.ahead minutes shown with fold, zone }) =
          .ok (some (.instant t))) ∧
    (∀ t : Instant,
      (∀ ending ∈ ["Z", "z", ""],
        read? .date (.text ((Reading.naive t).text separator ++ ending)) =
          .ok (some (.instant t))) ∧
      ∀ fold zone, read? .date (.reading { Reading.naive t with fold, zone }) =
        .ok (some (.instant t))) ∧
    (∀ (minutes : Int) (shown : Instant), minutes.natAbs < 1440 →
      (∀ t : Instant, (shown.micros : Int) ≠ t.micros + minutes * 60000000) →
      read? .date (.text ((Reading.ahead minutes shown).text separator)) = .ok none ∧
        ∀ fold zone, read? .date (.reading { Reading.ahead minutes shown with fold, zone }) =
          .ok none) := by
  have text {written : String} {found : Option Instant} (same : instantOfText? written = found) :
      read? .date (.text written) = .ok (found.map .instant) := by
    rw [← same]
    rfl
  have value {reading : Reading} {found : Option Instant} (same : reading.instant? = found) :
      read? .date (.reading reading) = .ok (found.map .instant) := by
    rw [← same]
    rfl
  refine ⟨fun minutes shown t small since => ?ahead,
    fun t => ⟨fun ending member => ?naive, fun _ _ => value rfl⟩,
    fun minutes shown small outside => ?outside⟩
  case ahead =>
    have found := Reading.instant?_ahead_eq_some_iff.mpr since
    exact ⟨text ((instantOfText?_ahead separator shown small).trans found),
      fun _ _ => value found⟩
  case naive =>
    exact text (instantOfText?_naive separator t ending member)
  case outside =>
    have missing : (Reading.ahead minutes shown).instant? = none := by
      rw [Option.eq_none_iff_forall_ne_some]
      intro t found
      exact outside t (Reading.instant?_ahead_eq_some_iff.mp found)
    exact ⟨text ((instantOfText?_ahead separator shown small).trans missing),
      fun _ _ => value missing⟩

/-- What a clock that is a quarter to six hours ahead shows at the beginning of 1970. -/
def epochAhead : Instant :=
  ⟨Instant.epochMicros + 345 * 60000000, by decide⟩

theorem microLimit_pos : 0 < microLimit := by
  decide

/-- The beginning of the calendar. -/
def firstInstant : Instant :=
  ⟨0, microLimit_pos⟩

theorem dates_are_read_as_instants_at_borders :
    read? .date (.text "1970-01-01T05:45:00+05:45") = .ok (some (.instant Instant.epoch)) ∧
      read? .date (.text "0001-01-01T00:00:00z") = .ok (some (.instant firstInstant)) ∧
      read? .date (.text "0001-01-01T00:00:00+01:00") = .ok none := by
  have ahead : (Reading.ahead 345 epochAhead).text 'T' = "1970-01-01T05:45:00+05:45" := by
    decide +kernel
  have naive : (Reading.naive firstInstant).text 'T' ++ "z" = "0001-01-01T00:00:00z" := by
    decide +kernel
  have early : (Reading.ahead 60 firstInstant).text 'T' = "0001-01-01T00:00:00+01:00" := by
    decide +kernel
  have outside (t : Instant) : (firstInstant.micros : Int) ≠ t.micros + 60 * 60000000 := by
    simp only [firstInstant]
    omega
  rcases dates_are_read_as_instants 'T' with ⟨inZone, universal, none_found⟩
  have read := (inZone 345 epochAhead Instant.epoch (by decide) (by decide)).1
  have readLetter := (universal firstInstant).1 "z" (by simp)
  have readEarly := (none_found 60 firstInstant (by decide) outside).1
  rw [ahead] at read
  rw [naive] at readLetter
  rw [early] at readEarly
  exact ⟨read, readLetter, readEarly⟩

end Cell

end TableSource
