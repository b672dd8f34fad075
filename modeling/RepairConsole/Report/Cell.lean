import RepairConsole.Calendar.Moment
import RepairConsole.Decimal.Shortest
/-!
# Cells

How a single value looks in a report. A cell never holds a line break, and what was not
recorded is a dash.
-/

namespace RepairConsole.Report

/-- What stands for nothing. -/
def dash : String := "-"

/-- Line breaks in a value are shown as `\n` and `\r`. -/
def escapeChar (c : Char) : List Char :=
  if c = '\n' then ['\\', 'n'] else if c = '\r' then ['\\', 'r'] else [c]

/-- A value on one line. -/
def escape (s : String) : String := String.ofList (s.toList.flatMap escapeChar)

/-- A ratio in per cent, rounded to a whole number, a half away from zero. -/
def percent (ratio : Float) : String :=
  if ratio.isFinite then Decimal.roundedText (ratio * 100.0) else dash

/-- A time in epoch milliseconds. -/
def time (ms : Int) : String := (Calendar.stamp? ms).getD dash

/-- The parts of a length of time in seconds that are not zero, days first. -/
def elapsedParts (seconds : Nat) : List (Nat × String) :=
  [ (seconds / 86400, "d"), (seconds % 86400 / 3600, "h"), (seconds % 3600 / 60, "m"),
    (seconds % 60, "s") ].filter (0 < ·.1)

/-- Amounts with their units, one after the other. -/
def spellParts (parts : List (Nat × String)) : String :=
  " ".intercalate (parts.map fun (n, unit) => Nat.repr n ++ unit)

/-- A length of time in milliseconds, such as `7d` or `1h 30m`. Fractions of a second count
only where there is no whole one. -/
def elapsed (ms : Int) : String :=
  if ms ≤ 0 then "0s"
  else
    let parts := elapsedParts (ms.toNat / 1000)
    if parts.isEmpty then Nat.repr ms.toNat ++ "ms" else spellParts parts

/-- Yes and no, as the service writes them. -/
def flag (value : Bool) : String := if value then "true" else "false"

end RepairConsole.Report
