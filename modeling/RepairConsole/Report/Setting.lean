import RepairConsole.Report.Table
/-!
# Setting reports

A report is text and tables. Cells are filled up by a formatter that takes widths of 16 bits, so a
table with a wider column cannot be set. All that stands above it is printed by then.
-/

namespace RepairConsole.Report

/-- The widest column that can be set. -/
def widthLimit : Nat := 0xFFFF

/-- Whether the columns of a table can be set. -/
def settable (headers : List String) (rows : List (List String)) : Bool :=
  (columnWidths headers (rows.map (rowCells headers.length))).all (· ≤ widthLimit)

/-- A part of a report. -/
inductive Part where
  | text (lines : List String)
  | table (headers : List String) (rows : List (List String))

namespace Part

def lines : Part → List String
  | text lines => lines
  | table headers rows => tableLines headers rows

def isSettable : Part → Bool
  | text _ => true
  | table headers rows => settable headers rows

end Part

/-- The lines of all parts, as if there were no widest column. -/
def inFull (parts : List Part) : List String := parts.flatMap Part.lines

/-- The lines of the parts before the first that cannot be set, and whether these are all. -/
def set (parts : List Part) : List String × Bool :=
  (inFull (parts.takeWhile Part.isSettable), parts.all Part.isSettable)

end RepairConsole.Report
