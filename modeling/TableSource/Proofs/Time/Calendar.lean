import Mathlib.Tactic.IntervalCases
import TableSource.Time.Calendar

/-!
# Days and dates determine each other

The year of a day is guessed from the mean length of a year and put right by at most one.  The
month is the last one that starts no later than the day.  So the date of a day on the calendar is a
date of the calendar, and its number is the day.
-/

namespace TableSource.Calendar

/-! ## Years -/

/-- One for a multiple of a period, and zero for every other year. -/
def marks (period year : Nat) : Nat :=
  if year % period = 0 then 1 else 0

theorem marks_le_of_dvd
    {short long : Nat} (year : Nat)
    (divides : short ∣ long) :
    marks long year ≤ marks short year := by
  simp only [marks]
  split
  · next multiple =>
      have shorter := Nat.dvd_trans divides (Nat.dvd_of_mod_eq_zero multiple)
      exact Nat.le_of_eq (if_pos (Nat.mod_eq_zero_of_dvd shorter)).symm
  · exact Nat.zero_le _

theorem div_eq_add_marks
    {year : Nat} (period : Nat)
    (positive : 1 ≤ year) :
    year / period = (year - 1) / period + marks period year := by
  obtain ⟨before, rfl⟩ : ∃ before, year = before + 1 := ⟨year - 1, by omega⟩
  simp only [Nat.add_sub_cancel, Nat.succ_div, Nat.dvd_iff_mod_eq_zero, marks]

/-- The length of a year. -/
theorem daysBeforeMonth_end (year : Nat) :
    daysBeforeMonth year 13 = 365 + marks 4 year - marks 100 year + marks 400 year := by
  have rule : isLeap year = true ↔ year % 4 = 0 ∧ (year % 100 ≠ 0 ∨ year % 400 = 0) := by
    simp [isLeap]
  simp only [daysBeforeMonth, rule, marks]
  by_cases century : year % 100 = 0
  · have fourth : year % 4 = 0 := by omega
    by_cases cycle : year % 400 = 0 <;> simp [century, cycle, fourth]
  · have cycle : year % 400 ≠ 0 := by omega
    simp [century, cycle]

theorem daysBeforeYear_succ
    {year : Nat}
    (positive : 1 ≤ year) :
    daysBeforeYear (year + 1) = daysBeforeYear year + daysBeforeMonth year 13 := by
  have fourths := div_eq_add_marks 4 positive
  have centuries := div_eq_add_marks 100 positive
  have cycles := div_eq_add_marks 400 positive
  have fewer : marks 100 year ≤ marks 4 year := marks_le_of_dvd year (by decide)
  simp only [daysBeforeMonth_end, daysBeforeYear, Nat.add_sub_cancel, fourths, centuries, cycles]
  omega

/-- The guess is off by one year at most. -/
theorem yearOf_bounds (day : Nat) :
    1 ≤ yearOf day ∧ daysBeforeYear (yearOf day) ≤ day ∧
      day < daysBeforeYear (yearOf day + 1) := by
  simp only [yearOf]
  split
  · next early =>
      simp only [daysBeforeYear] at early ⊢
      omega
  · next reached =>
      split
      · next late =>
          simp only [daysBeforeYear] at late ⊢
          omega
      · next inside =>
          simp only [daysBeforeYear] at reached inside ⊢
          omega

theorem yearOf_le
    {day : Nat}
    (onCalendar : day < dayCount) :
    yearOf day ≤ 9999 := by
  apply Nat.le_of_not_lt
  intro beyond
  have started := (yearOf_bounds day).2.1
  simp only [daysBeforeYear] at started
  simp only [dayCount] at onCalendar
  omega

/-! ## Months -/

/-- A month holds the days of a year from its first day up to the first day of the next month. -/
structure Holds (year month dayOfYear : Nat) : Prop where
  first : 1 ≤ month
  last : month ≤ 12
  started : daysBeforeMonth year month ≤ dayOfYear
  ended : dayOfYear < daysBeforeMonth year (month + 1)

/-- A month that has started holds the day, or else a later month does. -/
theorem holds_ite
    {year month later dayOfYear : Nat}
    (known : 1 ≤ month ∧ month ≤ 12)
    (started : daysBeforeMonth year month ≤ dayOfYear)
    (otherwise : daysBeforeMonth year (month + 1) ≤ dayOfYear → Holds year later dayOfYear) :
    Holds year (if dayOfYear < daysBeforeMonth year (month + 1) then month else later)
      dayOfYear := by
  by_cases ended : dayOfYear < daysBeforeMonth year (month + 1)
  · rw [if_pos ended]
    exact ⟨known.1, known.2, started, ended⟩
  · rw [if_neg ended]
    exact otherwise (Nat.le_of_not_lt ended)

theorem holds_monthOf
    {year dayOfYear : Nat}
    (inside : dayOfYear < daysBeforeMonth year 13) :
    Holds year (monthOf year dayOfYear) dayOfYear := by
  apply holds_ite (by decide) (Nat.zero_le dayOfYear)
  intro february
  apply holds_ite (by decide) february
  intro march
  apply holds_ite (by decide) march
  intro april
  apply holds_ite (by decide) april
  intro may
  apply holds_ite (by decide) may
  intro june
  apply holds_ite (by decide) june
  intro july
  apply holds_ite (by decide) july
  intro august
  apply holds_ite (by decide) august
  intro september
  apply holds_ite (by decide) september
  intro october
  apply holds_ite (by decide) october
  intro november
  apply holds_ite (by decide) november
  intro december
  exact ⟨by decide, by decide, december, inside⟩

theorem daysInMonth_le
    (year : Nat) {month : Nat}
    (last : month ≤ 12) :
    daysInMonth year month ≤ 31 := by
  have leap : (if isLeap year then 1 else 0) ≤ 1 := by
    split <;> decide
  interval_cases month <;> simp only [daysInMonth, daysBeforeMonth] <;> omega

/-! ## Dates -/

theorem isDate_iff (date : CivilDate) :
    isDate date = true ↔
      1 ≤ date.year ∧ date.year ≤ 9999 ∧ 1 ≤ date.month ∧ date.month ≤ 12 ∧ 1 ≤ date.day ∧
        date.day ≤ daysInMonth date.year date.month := by
  simp [isDate, and_assoc]

theorem dayOfYear_lt (day : Nat) :
    day - daysBeforeYear (yearOf day) < daysBeforeMonth (yearOf day) 13 := by
  rcases yearOf_bounds day with ⟨positive, started, ended⟩
  rw [daysBeforeYear_succ positive] at ended
  omega

/-- The number of the date of a day is the day. -/
theorem dayNumber_dateOf (day : Nat) :
    dayNumber (dateOf day) = day := by
  rcases yearOf_bounds day with ⟨-, started, -⟩
  have before := (holds_monthOf (dayOfYear_lt day)).started
  simp only [dayNumber, dateOf]
  omega

/-- The date of a day that is on the calendar is on the calendar. -/
theorem isDate_dateOf
    {day : Nat}
    (onCalendar : day < dayCount) :
    isDate (dateOf day) = true := by
  rcases yearOf_bounds day with ⟨positive, -, -⟩
  rcases holds_monthOf (dayOfYear_lt day) with ⟨first, last, started, ended⟩
  have recent := yearOf_le onCalendar
  rw [isDate_iff]
  simp only [dateOf, daysInMonth]
  omega

end TableSource.Calendar
