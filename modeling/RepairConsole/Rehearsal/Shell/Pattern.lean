/-!
# Patterns

What a pattern fits: a star stands for any text, a question mark for any character, and
brackets for one out of a set. A quoted character stands for itself.
-/

namespace RepairConsole.Rehearsal.Shell

/-- A character, and whether it was quoted. -/
structure Mark where
  char : Char
  quoted : Bool
  deriving DecidableEq, Repr

namespace Mark

def ofText (quoted : Bool) (text : String) : List Mark := text.toList.map (⟨·, quoted⟩)

def textOf (marks : List Mark) : String := String.ofList (marks.map (·.char))

/-- Whether a character has the meaning that only unquoted ones have. -/
def means (c : Char) (m : Mark) : Bool := m.char == c && !m.quoted

end Mark

namespace Pattern

/-! ## Sets -/

/-- The characters of a class. -/
def inClass (name : String) (c : Char) : Bool :=
  match name with
  | "alpha" => c.isAlpha
  | "digit" => c.isDigit
  | "alnum" => c.isAlphanum
  | "upper" => c.isUpper
  | "lower" => c.isLower
  | "space" => c == ' ' || (9 ≤ c.toNat && c.toNat ≤ 13)
  | "blank" => c == ' ' || c == '\t'
  | "punct" => 33 ≤ c.toNat && c.toNat ≤ 126 && !c.isAlphanum
  | "xdigit" => c.isDigit || ('a' ≤ c && c ≤ 'f') || ('A' ≤ c && c ≤ 'F')
  | "cntrl" => c.toNat < 32 || c.toNat == 127
  | "print" => 32 ≤ c.toNat && c.toNat != 127
  | "graph" => 32 < c.toNat && c.toNat != 127
  | _ => false

/-- The number of characters up to the bracket that closes a set. One that stands first does
not close it, nor one that closes a class in it (`classed`). -/
def setLength? (first classed : Bool) : List Mark → Option Nat
  | [] => none
  | m :: rest =>
    if classed then (setLength? false (m.char != ']') rest).map (· + 1)
    else if m.means ']' && !first then some 0
    else
      (setLength? false (m.means '[' && rest.head?.any (·.char == ':')) rest).map (· + 1)

/-- Whether a character is in the set that is written so. -/
def inSet (c : Char) : List Mark → Bool
  | [] => false
  | a :: dash :: b :: more =>
    if a.means '[' && dash.char == ':' then
      let name := (b :: more).takeWhile (·.char != ':')
      inClass (Mark.textOf name) c || inSet c (more.drop (name.length + 1))
    else if dash.means '-' then (a.char ≤ c && c ≤ b.char) || inSet c more
    else a.char == c || inSet c (dash :: b :: more)
  | a :: rest => a.char == c || inSet c rest
termination_by marks => marks.length
decreasing_by all_goals (simp only [List.length_cons, List.length_drop]; omega)

/-- Whether a character is in the set inside brackets; a mark in front turns it around. -/
def isIn (inside : List Mark) (c : Char) : Bool :=
  match inside with
  | m :: rest => if m.means '!' || m.means '^' then !inSet c rest else inSet c inside
  | [] => false

/-- The length of what stands inside the brackets that were opened just before. -/
def set? (marks : List Mark) : Option Nat :=
  match marks with
  | m :: rest =>
    if m.means '!' || m.means '^' then (setLength? true false rest).map (· + 1)
    else setLength? true false marks
  | [] => none

/-! ## Fitting -/

/-- Whether a pattern fits all of a text. -/
def fits : List Mark → List Char → Bool
  | [], text => text.isEmpty
  | m :: rest, text =>
    if m.means '*' then
      fits rest text ||
        match text with
        | [] => false
        | _ :: more => fits (m :: rest) more
    else
      match text with
      | [] => false
      | c :: more =>
        if m.means '?' then fits rest more
        else
          match m.means '[', set? rest with
          | true, some length =>
            isIn (rest.take length) c && fits (rest.drop (length + 1)) more
          | _, _ => m.char == c && fits rest more
termination_by marks text => marks.length + text.length
decreasing_by all_goals (simp_wf; try omega)

/-- Whether a text is a pattern, and not just itself. -/
def isPattern (marks : List Mark) : Bool :=
  marks.any fun m => m.means '*' || m.means '?' || m.means '['

/-! ## Cutting -/

/-- The text without a part at its front that a pattern fits, the shortest or the longest. -/
def cutFront (longest : Bool) (pattern : List Mark) (text : List Char) : List Char :=
  let cuts := (List.range (text.length + 1)).filter fun n => fits pattern (text.take n)
  match if longest then cuts.getLast? else cuts.head? with
  | some n => text.drop n
  | none => text

/-- The text without a part at its end that a pattern fits, the shortest or the longest. -/
def cutEnd (longest : Bool) (pattern : List Mark) (text : List Char) : List Char :=
  let cuts := (List.range (text.length + 1)).filter fun n => fits pattern (text.drop n)
  match if longest then cuts.head? else cuts.getLast? with
  | some n => text.take n
  | none => text

/-! ## Examples -/

example : fits (Mark.ofText false "*.[jw]ar") "a.war".toList = true := by decide +kernel

example : fits (Mark.ofText true "*") "a".toList = false := by decide +kernel

end Pattern
end RepairConsole.Rehearsal.Shell
