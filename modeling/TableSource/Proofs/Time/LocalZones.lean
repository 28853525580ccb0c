import TableSource.Proofs.Succeeds
import TableSource.Proofs.Time.InstantText
import TableSource.Raw.Wire

/-!
# Clock readings that cannot be sent

A reading is sent as its instant, and what keeps it from being sent happens at the ends of the
calendar only.  A reading without an offset is looked up in its zone, at moments that are less than
two days away from what it shows, and each of them can fall on a local time off the calendar.  The
instant of a reading, whether its offset was known or looked up, can lie outside too.

In the zone of the universal clock this leaves one day: the first one, or with the fold the last.
-/

namespace TableSource

namespace LocalZone

variable {zone : LocalZone} {moment shown : Int} {side : CalendarSide}

/-! ## Looking up -/

theorem eq_of_clockAt
    (seen : zone.clockAt moment = .ok shown) :
    shown = moment + (zone.offsetAt moment).seconds := by
  rw [clockAt] at seen
  split at seen
  · cases seen
  · split at seen
    · cases seen
    · exact (Except.ok.inj seen).symm

/-- A local clock differs from the universal one by less than a day. -/
theorem natAbs_lt_of_clockAt
    (seen : zone.clockAt moment = .ok shown) :
    (shown - moment).natAbs < 86400 := by
  have within := (zone.offsetAt moment).withinDay
  rw [eq_of_clockAt seen]
  omega

/-- A moment that cannot be looked up is less than a day away from an end of the calendar. -/
theorem near_edge_of_clockAt
    (off : zone.clockAt moment = .error side) :
    moment < 86400 ∨ secondLimit - 86400 < moment := by
  have within := (zone.offsetAt moment).withinDay
  rw [clockAt] at off
  split at off
  · omega
  · split at off
    · omega
    · cases off

theorem natAbs_lt_of_secondAhead
    {fold : Bool} {shownThen ahead : Int}
    (seen : zone.clockAt moment = .ok shownThen)
    (tried : zone.secondAhead fold shown moment shownThen = .ok ahead) :
    ahead.natAbs < 86400 := by
  rw [secondAhead] at tried
  split at tried
  · rcases map_eq_ok_iff.mp tried with ⟨shownProbe, seenProbe, rfl⟩
    exact natAbs_lt_of_clockAt seenProbe
  · cases tried
    exact natAbs_lt_of_clockAt seen

/-- Every moment that is looked up for a shown time is less than two days away from it. -/
theorem exists_off_of_momentOf
    {fold : Bool}
    (failed : zone.momentOf fold shown = .error side) :
    ∃ moment, (moment - shown).natAbs < 2 * 86400 ∧ zone.clockAt moment = .error side := by
  rw [momentOf] at failed
  rcases bind_eq_error_iff.mp failed with atShown | ⟨ahead, aheadAtShown, failed⟩
  · exact ⟨shown, by omega, map_eq_error_iff.mp atShown⟩
  have small : ahead.natAbs < 86400 := by
    rcases map_eq_ok_iff.mp aheadAtShown with ⟨seen, seenAtShown, rfl⟩
    exact natAbs_lt_of_clockAt seenAtShown
  rcases bind_eq_error_iff.mp failed with atMoment | ⟨shownThen, seen, failed⟩
  · exact ⟨shown - ahead, by omega, atMoment⟩
  rcases bind_eq_error_iff.mp failed with atProbe | ⟨otherAhead, tried, failed⟩
  · rw [secondAhead] at atProbe
    split at atProbe
    · refine ⟨_, ?_, map_eq_error_iff.mp atProbe⟩
      simp only [secondsPerDay]
      split <;> omega
    · cases atProbe
  have smallOther := natAbs_lt_of_secondAhead seen tried
  dsimp only at failed
  split at failed
  · cases failed
  · rcases bind_eq_error_iff.mp failed with atOther | ⟨shownOther, -, failed⟩
    · exact ⟨shown - otherAhead, by omega, atOther⟩
    · split at failed
      · cases failed
      · split at failed <;> cases failed

/-! ## The universal zone -/

/-- In the universal zone a clock shows the moment itself. -/
theorem clockAt_utc (moment : Int) :
    utc.clockAt moment =
      if moment < 0 then .error .before
      else if secondLimit ≤ moment then .error .behind
      else .ok moment := by
  have none_ahead : (utc.offsetAt moment).seconds = 0 := rfl
  rw [clockAt, none_ahead, Int.add_zero]

/-- The moment of a shown time is the time itself, but the clock is looked up a day away too. -/
theorem momentOf_utc
    (fold : Bool) (after : 0 ≤ shown) (early : shown < secondLimit) :
    utc.momentOf fold shown =
      (utc.clockAt (if fold then shown + secondsPerDay else shown - secondsPerDay)).map
        fun _ => shown := by
  have here : utc.clockAt shown = .ok shown := by
    rw [clockAt_utc, if_neg (by omega), if_neg (by omega)]
  rw [momentOf, aheadAt, here]
  simp only [Except.map, bind, Except.bind, Int.sub_self, Int.sub_zero, here, secondAhead, if_true,
    aheadAt]
  cases probed : utc.clockAt (if fold then shown + secondsPerDay else shown - secondsPerDay) with
  | error side =>
      rfl
  | ok seen =>
      have same := eq_of_clockAt probed
      have none_ahead (moment : Int) : (utc.offsetAt moment).seconds = 0 := rfl
      rw [none_ahead, Int.add_zero] at same
      simp only [same, Int.sub_self, and_self, if_true]
      rfl

end LocalZone

/-! ## Readings -/

namespace Reading

/-- The seconds from the beginning of year 1 that a clock shows. -/
def seconds (reading : Reading) : Int :=
  (reading.shown.micros / 1000000 : Nat)

/-- A clock reading that cannot be sent, with the failure that it causes. -/
inductive Unsendable (reading : Reading) : TextFailure → Prop where
  /-- A clock of the zone shows no time of the calendar, less than two days from what is shown. -/
  | offCalendar {moment : Int} {side : CalendarSide}
      (unknown : reading.offset = none)
      (near : (moment - reading.seconds).natAbs < 2 * 86400)
      (off : reading.zone.clockAt moment = .error side) :
      Unsendable reading (.offCalendar side)
  /-- The instant is outside the calendar. -/
  | outsideCalendar {offset : Int}
      (sent : reading.sentOffset = .ok offset) (outside : reading.shown.back? offset = none) :
      Unsendable reading .outsideCalendar

variable {reading : Reading} {side : CalendarSide} {failure : TextFailure}

theorem seconds_bounds (reading : Reading) :
    0 ≤ reading.seconds ∧ reading.seconds < secondLimit := by
  have within := reading.shown.inRange
  simp only [microLimit, microsPerDay, Calendar.dayCount] at within
  simp only [seconds, secondLimit, secondsPerDay, Calendar.dayCount]
  omega

theorem sentOffset_of_unknown
    (unknown : reading.offset = none) :
    reading.sentOffset =
      (reading.zone.momentOf reading.fold reading.seconds).map fun moment =>
        (reading.zone.offsetAt moment).seconds * 1000000 := by
  rw [sentOffset, unknown]
  simp only [LocalZone.offsetShowing]
  show (Except.map _ (Except.map _ (reading.zone.momentOf reading.fold reading.seconds))) = _
  cases reading.zone.momentOf reading.fold reading.seconds <;> rfl

theorem exists_off_of_sentOffset
    (failed : reading.sentOffset = .error side) :
    reading.Unsendable (.offCalendar side) := by
  cases known : reading.offset with
  | some offset =>
      rw [sentOffset, known] at failed
      cases failed
  | none =>
      rw [sentOffset_of_unknown known, map_eq_error_iff] at failed
      rcases LocalZone.exists_off_of_momentOf failed with ⟨moment, near, off⟩
      exact .offCalendar known near off

theorem wireOfReading_eq_error_iff :
    Raw.wireOfReading reading = .error failure ↔
      (∃ side, reading.sentOffset = .error side ∧ failure = .offCalendar side) ∨
        ∃ offset, reading.sentOffset = .ok offset ∧ reading.shown.back? offset = none ∧
          failure = .outsideCalendar := by
  rw [Raw.wireOfReading]
  cases reading.sentOffset with
  | error side =>
      simp [Except.mapError, bind, Except.bind, eq_comm]
  | ok offset =>
      simp only [Except.mapError, bind, Except.bind, reduceCtorEq, false_and, exists_false,
        Except.ok.injEq, exists_eq_left', false_or]
      cases reading.shown.back? offset with
      | none =>
          simp [eq_comm]
      | some instant =>
          simp [pure, Except.pure]

theorem unsendable_of_wireOfReading
    (failed : Raw.wireOfReading reading = .error failure) :
    reading.Unsendable failure := by
  rcases wireOfReading_eq_error_iff.mp failed with
    ⟨side, unsent, rfl⟩ | ⟨offset, sent, outside, rfl⟩
  · exact exists_off_of_sentOffset unsent
  · exact .outsideCalendar sent outside

/-- Away from the ends of the calendar every local reading can be sent, whatever its zone. -/
theorem Unsendable.near_edge
    (unsendable : reading.Unsendable failure) (unknown : reading.offset = none) :
    reading.shown.day < 3 ∨ Calendar.dayCount ≤ reading.shown.day + 3 := by
  simp only [Instant.day, microsPerDay, Calendar.dayCount]
  cases unsendable with
  | offCalendar _ near off =>
      have edge := LocalZone.near_edge_of_clockAt off
      simp only [seconds, secondLimit, secondsPerDay, Calendar.dayCount] at near edge
      omega
  | outsideCalendar sent outside =>
      rw [sentOffset_of_unknown unknown] at sent
      rcases map_eq_ok_iff.mp sent with ⟨moment, -, rfl⟩
      have within := (reading.zone.offsetAt moment).withinDay
      rw [Instant.back?, Instant.ofMicros?] at outside
      split at outside
      · cases outside
      · next outOfRange =>
          simp only [microLimit, microsPerDay, Calendar.dayCount] at outOfRange
          omega

/-- In the universal zone only a local reading of the first day cannot be sent, or with the fold
only one of the last day. -/
theorem wireOfReading_utc_eq_error_iff
    (unknown : reading.offset = none) (universal : reading.zone = .utc) :
    Raw.wireOfReading reading = .error failure ↔
      (reading.fold = false ∧ reading.shown.day = 0 ∧ failure = .offCalendar .before) ∨
        reading.fold = true ∧ reading.shown.day + 1 = Calendar.dayCount ∧
          failure = .offCalendar .behind := by
  rcases reading.seconds_bounds with ⟨after, early⟩
  have kept : reading.shown.back? 0 = some reading.shown := by
    rw [Instant.back?, Int.sub_zero]
    exact Instant.ofMicros?_micros _
  have first : reading.shown.day = 0 ↔ reading.seconds - secondsPerDay < 0 := by
    simp only [Instant.day, microsPerDay, seconds, secondsPerDay]
    omega
  have last : reading.shown.day + 1 = Calendar.dayCount ↔
      secondLimit ≤ reading.seconds + secondsPerDay := by
    have within := reading.shown.inRange
    simp only [microLimit, microsPerDay, Calendar.dayCount] at within
    simp only [Instant.day, microsPerDay, seconds, secondsPerDay, secondLimit, Calendar.dayCount]
    omega
  have sent : reading.sentOffset =
      (LocalZone.utc.clockAt (if reading.fold then reading.seconds + secondsPerDay
        else reading.seconds - secondsPerDay)).map fun _ => 0 := by
    rw [sentOffset_of_unknown unknown, universal, LocalZone.momentOf_utc reading.fold after early]
    cases LocalZone.utc.clockAt _ <;> rfl
  have failing (side : CalendarSide) (off : reading.sentOffset = .error side) :
      Raw.wireOfReading reading = .error failure ↔ failure = .offCalendar side := by
    rw [wireOfReading_eq_error_iff, off]
    simp
  have sending (known : reading.sentOffset = .ok 0) :
      ¬ Raw.wireOfReading reading = .error failure := by
    rw [wireOfReading_eq_error_iff, known]
    simp [kept]
  rw [LocalZone.clockAt_utc] at sent
  cases folded : reading.fold with
  | false =>
      rw [folded, if_neg Bool.false_ne_true] at sent
      by_cases early : reading.seconds - secondsPerDay < 0
      · rw [if_pos early] at sent
        simp [failing .before sent, first.mpr early]
      · have never : ¬ secondLimit ≤ reading.seconds - secondsPerDay := by
          simp only [secondsPerDay]
          omega
        rw [if_neg early, if_neg never] at sent
        simp [sending sent, mt first.mp early]
  | true =>
      have never : ¬ reading.seconds + secondsPerDay < 0 := by
        simp only [secondsPerDay]
        omega
      rw [folded, if_pos rfl, if_neg never] at sent
      by_cases late : secondLimit ≤ reading.seconds + secondsPerDay
      · rw [if_pos late] at sent
        simp [failing .behind sent, last.mpr late]
      · rw [if_neg late] at sent
        simp [sending sent, mt last.mp late]

end Reading

end TableSource
