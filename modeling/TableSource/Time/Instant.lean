import TableSource.Text.Digit
import TableSource.Time.Calendar
import TableSource.Time.LocalZone

/-!
# Instants

An instant is a number of microseconds from the beginning of year 1 that lies before the end of
year 9999.  It is read as a time of the universal clock; where a value carries an offset from that
clock, the same type holds what a clock at the offset shows.  Instants are written with the date,
a separator, the time of day, and six decimals of the second only when they are not all zero.
-/

namespace TableSource

def microsPerDay : Nat := 86400000000

/-- The number of microseconds from year 1 to the end of year 9999. -/
def microLimit : Nat := Calendar.dayCount * microsPerDay

/-- A point of time between year 1 and year 9999 with a precision of one microsecond. -/
structure Instant where
  micros : Nat
  inRange : micros < microLimit
  deriving DecidableEq, Repr

namespace Instant

/-- The instant at a number of microseconds, if it is in range. -/
def ofMicros? (micros : Int) : Option Instant :=
  if inRange : 0 ≤ micros ∧ micros.toNat < microLimit then some ⟨micros.toNat, inRange.2⟩ else none

/-- The number of microseconds from the beginning of year 1 to that of 1970. -/
def epochMicros : Nat := 719162 * microsPerDay

def epoch : Instant := ⟨epochMicros, by decide⟩

instance : Inhabited Instant := ⟨epoch⟩

def day (t : Instant) : Nat := t.micros / microsPerDay

/-- The microseconds since midnight. -/
def timeOfDay (t : Instant) : Nat := t.micros % microsPerDay

def date (t : Instant) : CivilDate := Calendar.dateOf t.day

def hour (t : Instant) : Nat := t.timeOfDay / 3600000000

def minute (t : Instant) : Nat := t.timeOfDay / 60000000 % 60

def second (t : Instant) : Nat := t.timeOfDay / 1000000 % 60

def microsecond (t : Instant) : Nat := t.timeOfDay % 1000000

/-- The instant of a date and a time of day, if both are on the calendar and the clock. -/
def ofFields? (date : CivilDate) (hour minute second microsecond : Nat) : Option Instant :=
  if Calendar.isDate date && hour < 24 && minute < 60 && second < 60 && microsecond < 1000000 then
    ofMicros? (Calendar.dayNumber date * microsPerDay +
      (((hour * 60 + minute) * 60 + second) * 1000000 + microsecond) : Nat)
  else none

/-- Midnight of a day, if it is on the calendar. -/
def midnight? (day : Nat) : Option Instant :=
  ofMicros? (day * microsPerDay : Nat)

/-- The instant that lies a number of microseconds before this one, if it is in range. -/
def back? (t : Instant) (micros : Int) : Option Instant :=
  ofMicros? ((t.micros : Int) - micros)

/-! ## Text -/

def twoDigits (n : Nat) : List Char :=
  [Text.digitChar (n / 10), Text.digitChar n]

def fourDigits (n : Nat) : List Char :=
  twoDigits (n / 100) ++ twoDigits n

def sixDigits (n : Nat) : List Char :=
  twoDigits (n / 10000) ++ fourDigits n

/-- The date as year, month and day with hyphens. -/
def dateChars (date : CivilDate) : List Char :=
  fourDigits date.year ++ '-' :: (twoDigits date.month ++ '-' :: twoDigits date.day)

/-- The decimals of a second, written only when they are not all zero. -/
def fractionChars (microsecond : Nat) : List Char :=
  if microsecond = 0 then [] else '.' :: sixDigits microsecond

/-- The time of day with colons. -/
def clockChars (t : Instant) : List Char :=
  twoDigits t.hour ++ ':' :: (twoDigits t.minute ++ ':' :: (twoDigits t.second ++
    fractionChars t.microsecond))

/-- The date and the time of day around a separator. -/
def chars (separator : Char) (t : Instant) : List Char :=
  dateChars t.date ++ separator :: t.clockChars

/-- The text in which an instant is sent: date, `T`, time of day and `Z`. -/
def wire (t : Instant) : String :=
  String.ofList (t.chars 'T' ++ ['Z'])

end Instant

/-- An offset from the universal clock, in microseconds: sign, hours and minutes, and seconds and
their decimals where they are not zero. -/
def offsetChars (offset : Int) : List Char :=
  let size := offset.natAbs
  let seconds := size / 1000000 % 60
  let micros := size % 1000000
  (if offset < 0 then '-' else '+') ::
    (Instant.twoDigits (size / 3600000000) ++ ':' :: (Instant.twoDigits (size / 60000000 % 60) ++
      (if seconds = 0 ∧ micros = 0 then []
       else ':' :: (Instant.twoDigits seconds ++ Instant.fractionChars micros))))

/-- What a clock shows, with its offset from the universal clock where that is known. -/
structure Reading where
  shown : Instant
  offset : Option Int
  /-- Whether the later moment is meant where a local clock shows a time twice. -/
  fold : Bool := false
  /-- The zone that a clock without an offset is in where it is taken for a local one: that of the
  program that holds the reading. -/
  zone : LocalZone := .utc
  deriving DecidableEq, Repr

namespace Reading

/-- The instant of a reading; without an offset the clock is the universal one.  There is none when
the shift leaves the calendar. -/
def instant? (reading : Reading) : Option Instant :=
  match reading.offset with
  | none => some reading.shown
  | some offset => reading.shown.back? offset

/-- Whether two readings are of one moment.  One that knows its offset is never of one moment with
one that does not. -/
def sameMoment (reading other : Reading) : Bool :=
  reading.offset.isSome == other.offset.isSome &&
    (reading.shown.micros : Int) - reading.offset.getD 0 ==
      (other.shown.micros : Int) - other.offset.getD 0

/-- The offset that a reading is sent with, in microseconds: the known one, or else that of a local
clock which shows the same. -/
def sentOffset (reading : Reading) : Except CalendarSide Int :=
  match reading.offset with
  | some offset => .ok offset
  | none =>
    (reading.zone.offsetShowing reading.fold (reading.shown.micros / 1000000)).map (· * 1000000)

/-- The text of a reading, with the offset where it is known. -/
def chars (separator : Char) (reading : Reading) : List Char :=
  reading.shown.chars separator ++
    match reading.offset with
    | none => []
    | some offset => offsetChars offset

end Reading

end TableSource
