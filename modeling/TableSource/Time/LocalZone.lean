import TableSource.Time.Calendar

/-!
# Zones of local clocks

A clock without a known offset is taken for a local one, in the zone that the program runs in.  A
zone has one offset from the universal clock at every moment; what its clock shows is looked up from
the moment, never the other way round.  The moment at which a local clock shows a time is therefore
searched for: by the offset at the shown time itself, and then by the offset a day away on the side
where another moment may show the same.  A moment whose local time lies in no year of the calendar
cannot be looked up.

Moments and shown times are counted in seconds from the beginning of year 1.
-/

namespace TableSource

def secondsPerDay : Int := 86400

/-- The number of seconds from year 1 to the end of year 9999. -/
def secondLimit : Int := Calendar.dayCount * secondsPerDay

/-- The side on which a time leaves the calendar. -/
inductive CalendarSide where
  | before
  | behind
  deriving DecidableEq, Repr

/-- The year next to the calendar. -/
def CalendarSide.year : CalendarSide → Nat
  | .before => 0
  | .behind => 10000

/-- An offset from the universal clock in seconds, of less than a day. -/
structure LocalOffset where
  seconds : Int
  withinDay : seconds.natAbs < 86400
  deriving DecidableEq, Repr

/-- The offset of the universal clock. -/
def LocalOffset.zero : LocalOffset :=
  ⟨0, by decide⟩

/-- A zone: the offset that it has at first, and the moments at which it changes, in order, with the
offset that it has from then on. -/
structure LocalZone where
  first : LocalOffset
  changes : List (Int × LocalOffset)
  deriving DecidableEq, Repr

namespace LocalZone

/-- The zone of the universal clock. -/
def utc : LocalZone :=
  { first := .zero, changes := [] }

instance : Inhabited LocalZone := ⟨utc⟩

/-- The offset that a zone has at a moment. -/
def offsetAt (zone : LocalZone) (moment : Int) : LocalOffset :=
  match zone.changes.reverse.find? fun change => change.1 ≤ moment with
  | some change => change.2
  | none => zone.first

/-- What a clock of a zone shows at a moment, if that is on the calendar. -/
def clockAt (zone : LocalZone) (moment : Int) : Except CalendarSide Int :=
  let shown := moment + (zone.offsetAt moment).seconds
  if shown < 0 then .error .before
  else if secondLimit ≤ shown then .error .behind
  else .ok shown

/-- How many seconds a clock of a zone is ahead at a moment, if what it shows is on the calendar. -/
def aheadAt (zone : LocalZone) (moment : Int) : Except CalendarSide Int :=
  (zone.clockAt moment).map (· - moment)

/-- The second offset that is tried for a shown time, after a moment has been found by the first one
and the clock has been read there.  If it shows the time, there may be another such moment, a day
earlier or with the fold a day later. -/
def secondAhead (zone : LocalZone) (fold : Bool) (shown moment shownThen : Int) :
    Except CalendarSide Int :=
  if shownThen = shown then
    zone.aheadAt (if fold then moment + secondsPerDay else moment - secondsPerDay)
  else .ok (shownThen - moment)

/-- The moment at which a clock of a zone shows a time.  Where the clock is put back and shows a
time twice, the earlier moment is meant, and with the fold the later one.  Where it is put forward
over a time, the clock is taken to have gone on as before the change, and with the fold to have
gone as after it all the time. -/
def momentOf (zone : LocalZone) (fold : Bool) (shown : Int) : Except CalendarSide Int := do
  let ahead ← zone.aheadAt shown
  let moment := shown - ahead
  let shownThen ← zone.clockAt moment
  let otherAhead ← zone.secondAhead fold shown moment shownThen
  let other := shown - otherAhead
  if shownThen = shown ∧ otherAhead = ahead then return moment
  else
    let shownOther ← zone.clockAt other
    if shownOther = shown then return other
    else if shownThen = shown then return moment
    else return if fold then min moment other else max moment other

/-- The offset of a clock of a zone that shows a time. -/
def offsetShowing (zone : LocalZone) (fold : Bool) (shown : Int) : Except CalendarSide Int :=
  (zone.momentOf fold shown).map fun moment => (zone.offsetAt moment).seconds

end LocalZone

end TableSource
