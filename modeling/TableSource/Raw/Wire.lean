import TableSource.Raw.Literal

/-!
# Values as they are sent

A clock reading is sent as the text of its instant and every other value as it is.  A clock without
a known offset is taken for a local one, whose offset is looked up; near the ends of the calendar the
look-up can fail, and the instant can lie outside.
-/

namespace TableSource.Raw

/-- A clock reading as it is sent. -/
def wireOfReading (value : Reading) : Except TextFailure Raw := do
  match value.shown.back? (← value.sentOffset.mapError .offCalendar) with
  | some instant => return .text instant.wire
  | none => .error .outsideCalendar

def wire : Raw → Except TextFailure Raw
  | .reading value => wireOfReading value
  | value => .ok value

end TableSource.Raw
