/-!
# The calendar from year 1 to year 9999

Days are numbered from the first of January of year 1, which is day zero, in the calendar with
leap years every fourth year except three centuries out of four.  A day number and a date with
year, month and day of the month determine each other.
-/

namespace TableSource

/-- A year, a month and a day of the month. -/
structure CivilDate where
  year : Nat
  month : Nat
  day : Nat
  deriving DecidableEq, Repr

namespace Calendar

def isLeap (year : Nat) : Bool :=
  year % 4 == 0 && (year % 100 != 0 || year % 400 == 0)

/-- The number of days before the first of January of a year. -/
def daysBeforeYear (year : Nat) : Nat :=
  365 * (year - 1) + (year - 1) / 4 - (year - 1) / 100 + (year - 1) / 400

/-- The number of days of a year before the first of a month. -/
def daysBeforeMonth (year month : Nat) : Nat :=
  let leap := if isLeap year then 1 else 0
  match month with
  | 0 | 1 => 0
  | 2 => 31
  | 3 => 59 + leap
  | 4 => 90 + leap
  | 5 => 120 + leap
  | 6 => 151 + leap
  | 7 => 181 + leap
  | 8 => 212 + leap
  | 9 => 243 + leap
  | 10 => 273 + leap
  | 11 => 304 + leap
  | 12 => 334 + leap
  | _ => 365 + leap

def daysInMonth (year month : Nat) : Nat :=
  daysBeforeMonth year (month + 1) - daysBeforeMonth year month

/-- The number of days from year 1 to year 9999. -/
def dayCount : Nat := 3652059

def isDate (date : CivilDate) : Bool :=
  1 ≤ date.year && date.year ≤ 9999 && 1 ≤ date.month && date.month ≤ 12 && 1 ≤ date.day &&
    date.day ≤ daysInMonth date.year date.month

def dayNumber (date : CivilDate) : Nat :=
  daysBeforeYear date.year + daysBeforeMonth date.year date.month + (date.day - 1)

def yearOf (day : Nat) : Nat :=
  let guess := day * 400 / 146097 + 1
  if day < daysBeforeYear guess then guess - 1
  else if daysBeforeYear (guess + 1) ≤ day then guess + 1
  else guess

/-- The month in which a day of a year lies, the days counted from zero. -/
def monthOf (year dayOfYear : Nat) : Nat :=
  if dayOfYear < daysBeforeMonth year 2 then 1
  else if dayOfYear < daysBeforeMonth year 3 then 2
  else if dayOfYear < daysBeforeMonth year 4 then 3
  else if dayOfYear < daysBeforeMonth year 5 then 4
  else if dayOfYear < daysBeforeMonth year 6 then 5
  else if dayOfYear < daysBeforeMonth year 7 then 6
  else if dayOfYear < daysBeforeMonth year 8 then 7
  else if dayOfYear < daysBeforeMonth year 9 then 8
  else if dayOfYear < daysBeforeMonth year 10 then 9
  else if dayOfYear < daysBeforeMonth year 11 then 10
  else if dayOfYear < daysBeforeMonth year 12 then 11
  else 12

def dateOf (day : Nat) : CivilDate :=
  let year := yearOf day
  let dayOfYear := day - daysBeforeYear year
  let month := monthOf year dayOfYear
  { year, month, day := dayOfYear - daysBeforeMonth year month + 1 }

/-! ## Weeks -/

/-- The day of the week of a day, counted from Monday as zero. -/
def weekday (day : Int) : Int :=
  day % 7

/-- The Monday of the first week of a year, the week that holds the first Thursday. -/
def firstMonday (year : Nat) : Int :=
  let start : Int := daysBeforeYear year
  let lead := weekday start
  if 3 < lead then start - lead + 7 else start - lead

/-- Whether a year has a fifty-third week. -/
def hasLongYear (year : Nat) : Bool :=
  let start := weekday (daysBeforeYear year)
  start == 3 || (start == 2 && isLeap year)

/-- The day of a week of a year; weeks are counted from one and days from Monday as one. -/
def dayOfWeek? (year week day : Nat) : Option Nat :=
  let weekFits := 1 ≤ week && (week ≤ 52 || (week == 53 && hasLongYear year))
  let number : Int := firstMonday year + ((week : Int) - 1) * 7 + ((day : Int) - 1)
  if weekFits && 1 ≤ day && day ≤ 7 && 1 ≤ year && 0 ≤ number && number < (dayCount : Int) then
    some number.toNat
  else none

end Calendar

end TableSource
