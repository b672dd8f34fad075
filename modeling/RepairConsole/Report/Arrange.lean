/-!
# Order and extent

Rows are put in order first and cut off after. Sorting is stable, so equal rows stay in the
order in which the service sent them.
-/

namespace RepairConsole.Report

/-- Whether two lists of texts are in ascending order: by the first text, where that is the
same by the second, and so on. -/
def textsInOrder (a b : List String) : Bool := !(List.lex b a fun x y => decide (x < y))

/-- The rows in ascending order of a key. -/
def sortOn {α β : Type} (inOrder : β → β → Bool) (key : α → β) (rows : List α) : List α :=
  rows.mergeSort fun a b => inOrder (key a) (key b)

/-- The rows that a limit leaves; without one, all. -/
def upTo {α : Type} (limit : Option Nat) (rows : List α) : List α :=
  match limit with
  | none => rows
  | some n => rows.take n

/-- The limit that a number stands for: none, if it is negative. -/
def limitOf (raw : Int) : Option Nat := if 0 ≤ raw then some raw.toNat else none

end RepairConsole.Report
