import RepairConsole.Text.Blank
import RepairConsole.Text.Digits
import RepairConsole.Text.Lines
/-!
# The pid file

The record of the service that runs: the number of its process in decimal digits. What is
read back may have been written by hand, so blanks, a plus sign, leading zeros and further
lines are let pass; a number that no process can have is not.
-/

namespace RepairConsole.PidFile

/-- The largest number that a process can have. -/
def greatestPid : Nat := 2147483647

/-- What is written for a process. -/
def text (pid : Nat) : String := Nat.repr pid

/-- Digits with or without a plus sign in front. -/
def unsigned (cs : List Char) : List Char :=
  match cs with
  | '+' :: digits => digits
  | digits => digits

/-- The process that a record names, on its first line. -/
def read? (contents : String) : Option Nat :=
  (Text.readDigits? (unsigned (Text.trim (Text.firstLine contents)).toList)).filter fun pid =>
    0 < pid ∧ pid ≤ greatestPid

end RepairConsole.PidFile
