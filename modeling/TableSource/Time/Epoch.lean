import TableSource.Number.Binary64
import TableSource.Time.Instant

/-!
# Epoch milliseconds

A number is read as a count of milliseconds since the beginning of 1970.  It is divided by a
thousand as a binary64 number; the fraction of the seconds is multiplied by a million, again as a
binary64 number, and rounded to whole microseconds, a tie going to the even one.
-/

namespace TableSource.Epoch

/-- The microseconds in the fraction of a number of seconds, without its sign. -/
def fractionMicros (seconds : Binary64) : Nat :=
  match Binary64.ofRatio? false (seconds.fractionNumerator * 1000000) seconds.denominator with
  | some micros => Binary64.nearest micros.numerator micros.denominator
  | none => 0

/-- The microseconds since 1970 of a number of seconds. -/
def microsOfSeconds (seconds : Binary64) : Int :=
  let size : Int := seconds.wholePart * 1000000 + fractionMicros seconds
  if seconds.negative then -size else size

/-- The instant at a number of milliseconds since 1970, if it is on the calendar. -/
def instant? (millis : Binary64) : Option Instant :=
  (millis.divNat? 1000).bind fun seconds =>
    Instant.ofMicros? ((Instant.epochMicros : Int) + microsOfSeconds seconds)

end TableSource.Epoch
