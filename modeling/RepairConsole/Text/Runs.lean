/-!
# Runs of code points

A property that most characters share with their neighbours is written down as runs:
`45x2l` says that 45 code points are `x` and the next two `l`. A letter without a number
stands for one code point. A table has such runs in rows, each under its first code point.
-/

namespace RepairConsole.Text.Runs

/-- Rows of runs, each with the code point that it starts at, in order. -/
abbrev Table : Type := List (Nat × String)

/-- The letter of the code point that is `point` places on in the runs of a row; `none` after
the last run. `length` is the number under way. -/
def walk (point : Nat) (length : Option Nat) : List Char → Option Char
  | [] => none
  | c :: rest =>
    if c.isDigit then walk point (some (10 * length.getD 0 + (c.toNat - 48))) rest
    else if point < length.getD 1 then some c
    else walk (point - length.getD 1) none rest

/-- The row for a code point: the last one that starts no later. -/
def row? (point : Nat) : Table → Option (Nat × String)
  | [] => none
  | row :: rest => if row.1 ≤ point then (row? point rest).or (some row) else none

/-- The letter of a code point; `none` after the last run. -/
def find? (point : Nat) (table : Table) : Option Char :=
  (row? point table).bind fun row => walk (point - row.1) none row.2.toList

example : find? 45 [(0, "45x2l"), (47, "m")] = some 'l' := by decide +kernel

example : find? 47 [(0, "45x2l"), (47, "m")] = some 'm' := by decide +kernel

end RepairConsole.Text.Runs
