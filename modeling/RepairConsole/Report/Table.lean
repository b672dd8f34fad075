import RepairConsole.Report.Cell
import RepairConsole.Text.Blank
/-!
# Tables

A header, a rule of dashes and the rows. Every column is as wide as its widest cell,
counted in characters; two spaces stand between columns, and no line ends in a blank.
-/

namespace RepairConsole.Report

/-- Fills a text up with spaces. -/
def pad (width : Nat) (s : String) : String :=
  s ++ String.ofList (List.replicate (width - s.length) ' ')

/-- The cells of a row under so many headers: as many as there are headers, and each on one
line. -/
def rowCells (columns : Nat) (row : List String) : List String :=
  (row.take columns).map escape ++ List.replicate (columns - row.length) ""

/-- The wider of each two columns. -/
def widen : List Nat → List String → List Nat
  | width :: widths, cell :: cells => max width cell.length :: widen widths cells
  | widths, _ => widths

/-- The widths of the columns. -/
def columnWidths (headers : List String) (body : List (List String)) : List Nat :=
  body.foldl widen (headers.map String.length)

/-- A row set to widths. -/
def tableLine (widths : List Nat) (cells : List String) : String :=
  Text.trimEnd ("  ".intercalate (List.zipWith pad widths cells))

/-- The lines of a table. -/
def tableLines (headers : List String) (rows : List (List String)) : List String :=
  let body := rows.map (rowCells headers.length)
  let widths := columnWidths headers body
  let rule := widths.map fun width => String.ofList (List.replicate width '-')
  (headers :: rule :: body).map (tableLine widths)

/-- Lines of labels and values; the labels are set to one width. -/
def fieldLines (indent : String) (fields : List (String × String)) : List String :=
  let width := (fields.map (·.1.length)).foldl max 0
  fields.map fun (label, value) => indent ++ pad width label ++ " : " ++ escape value

example : tableLines ["a", "bb"] [["xyz", ""], ["1\n", "2"]] =
    ["a    bb", "---  --", "xyz", "1\\n  2"] := by decide +kernel

end RepairConsole.Report
