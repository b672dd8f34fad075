/-!
# Blank characters

The white space of Unicode (property `White_Space`), and trimming by it. Operators paste
values from web pages and spreadsheets, so a no-break space counts as blank too.
-/

namespace RepairConsole.Text

/-- The characters that Unicode calls white space. -/
def isBlank (c : Char) : Bool :=
  let n := c.toNat
  (9 ≤ n && n ≤ 13) || n == 0x20 || n == 0x85 || n == 0xA0 || n == 0x1680 ||
    (0x2000 ≤ n && n ≤ 0x200A) || n == 0x2028 || n == 0x2029 || n == 0x202F ||
    n == 0x205F || n == 0x3000

/-- Drops the blanks in front. -/
def dropBlanks (cs : List Char) : List Char := cs.dropWhile isBlank

/-- Drops the blanks at the end. -/
def dropBlanksEnd (cs : List Char) : List Char := (dropBlanks cs.reverse).reverse

/-- A text without the blanks around it. -/
def trim (s : String) : String := String.ofList (dropBlanksEnd (dropBlanks s.toList))

/-- A text without the blanks at its end. -/
def trimEnd (s : String) : String := String.ofList (dropBlanksEnd s.toList)

/-! ## What is trimmed -/

theorem head_dropBlanks {cs rest : List Char} {c : Char} (h : dropBlanks cs = c :: rest) :
    isBlank c = false := by
  induction cs with
  | nil => simp [dropBlanks] at h
  | cons d ds ih =>
    cases hd : isBlank d with
    | true => exact ih (by simpa [dropBlanks, hd] using h)
    | false =>
      simp only [dropBlanks, List.dropWhile_cons, hd, Bool.false_eq_true, if_false,
        List.cons.injEq] at h
      rw [← h.1]
      exact hd

theorem dropBlanks_of_head {cs : List Char} {c : Char} (h : isBlank c = false) :
    dropBlanks (c :: cs) = c :: cs := by
  simp [dropBlanks, h]

end RepairConsole.Text
