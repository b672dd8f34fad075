/-!
# Lines

A line ends at a line feed. A carriage return right before that line feed belongs to the
line's end; one anywhere else, also at the end of an unfinished last line, is text.
-/

namespace RepairConsole.Text

/-- Closes a line that was collected backwards. -/
def closeLine : List Char → List Char
  | '\r' :: before => before.reverse
  | reversed => reversed.reverse

/-- The lines of a text that follows the characters collected backwards in `reversed`. -/
def linesFrom (reversed : List Char) : List Char → List (List Char)
  | [] => if reversed.isEmpty then [] else [reversed.reverse]
  | c :: rest =>
    if c = '\n' then closeLine reversed :: linesFrom [] rest else linesFrom (c :: reversed) rest

/-- The lines of a text; one that ends in a line feed has no empty line after it. -/
def lines (s : String) : List String := (linesFrom [] s.toList).map String.ofList

/-- The first line, or nothing for an empty text. -/
def firstLine (s : String) : String := (lines s).headD ""

@[simp] theorem lines_empty : lines "" = [] := rfl

end RepairConsole.Text
