import RepairConsole.Calendar.Rfc3339
import RepairConsole.Window.Duration
/-!
# Time windows

The stretch of time that a summary of repairs covers: from a start on, for a duration, or
both. A window without a start ends now.
-/

namespace RepairConsole

/-- A window as it is asked for. The start is kept as it was written, because that is what
is sent; its instant and the end are for the record. -/
structure Window where
  since : Option String
  start : Option Calendar.Moment
  finish : Option Calendar.Moment
  duration : Option Duration
  deriving DecidableEq, Repr

/-- A value that was given; an empty one counts as not given. -/
def given (value : Option String) : Option String := value.filter (· != "")

namespace Window

/-- The instant that a run of digits writes in epoch milliseconds. It is counted in nanoseconds. -/
def readMillis? (cs : List Char) : Option Calendar.Moment :=
  (Wide.ofDigits? cs).bind fun millis =>
    (Wide.mul? millis 1000000).bind Calendar.Moment.ofNanos?

/-- The instant of a start: a run of digits is epoch milliseconds, and all else is RFC 3339. -/
def readSince (raw : String) : Except Fault Calendar.Moment :=
  let cs := (Text.trim raw).toList
  if Text.allDigits cs then
    match readMillis? cs with
    | some moment => .ok moment
    | none => .error (.sinceOutOfRange raw)
  else
    match Calendar.Rfc3339.read cs with
    | some moment => .ok moment
    | none => .error (.badSince raw)

/-- The window of a start and a duration, one of which must be given. The duration is
looked at first. -/
def resolve (since duration : Option String) (now : Calendar.Moment) : Except Fault Window :=
  let since := given since
  let duration := given duration
  if since.isNone && duration.isNone then .error .noWindow
  else do
    let duration ← duration.mapM Duration.parse
    let start ← since.mapM readSince
    return { since, start, finish := if since.isNone then some now else none, duration }

end Window
end RepairConsole
