import RepairConsole.Calendar.Date
import RepairConsole.Text.Digits
import RepairConsole.Wide
/-!
# Moments

An instant in nanoseconds of epoch time, with the offset from UTC it was written with, and
the text `YYYY-MM-DD HH:MM:SS` that tables show for one.
-/

namespace RepairConsole.Calendar

/-- An instant, and the offset in seconds of the clock it was read from. -/
structure Moment where
  nanos : Int
  offset : Int
  deriving DecidableEq, Repr

/-- The last millisecond that has a date with a year of four digits, counted from the epoch. -/
def lastMillis : Nat := 253402300799999

/-- The first nanosecond of the year -9999, counted from the epoch. -/
def firstNanos : Int := -377705116800000000000

/-- The last nanosecond of the year 9999, counted from the epoch. -/
def lastNanos : Int := 253402300799999999999

example : lastNanos + 1 = (daysBeforeYear 10000 - epochDay) * 86400 * 1000000000 := by decide

namespace Moment

/-- The instant so many milliseconds after the epoch, read off a clock on UTC. -/
def ofMillis (ms : Int) : Moment := ⟨ms * 1000000, 0⟩

/-- The instant so many nanoseconds after the epoch, or before it. The calendar ends with the years
-9999 and 9999. -/
def ofNanos? (nanos : Wide) : Option Moment :=
  if firstNanos ≤ nanos.toInt ∧ nanos.toInt ≤ lastNanos then some ⟨nanos.toInt, 0⟩ else none

end Moment

/-- The date and time of day of a second of epoch time, such as `2022-08-22 10:00:00`. -/
def stampOfSeconds (seconds : Nat) : String :=
  let date := Date.ofNumber (epochDay + seconds / 86400)
  let clock := seconds % 86400
  let year := Text.padDigits 4 date.year
  let month := Text.padDigits 2 date.month
  let day := Text.padDigits 2 date.day
  let hour := Text.padDigits 2 (clock / 3600)
  let minute := Text.padDigits 2 (clock % 3600 / 60)
  let second := Text.padDigits 2 (clock % 60)
  s!"{year}-{month}-{day} {hour}:{minute}:{second}"

/-- The stamp of a time in epoch milliseconds; `none` where nothing was recorded (zero or
less) and past the year 9999. -/
def stamp? (ms : Int) : Option String :=
  if 0 < ms ∧ ms ≤ lastMillis then some (stampOfSeconds (ms.toNat / 1000)) else none

end RepairConsole.Calendar
