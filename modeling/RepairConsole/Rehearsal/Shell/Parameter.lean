import RepairConsole.Rehearsal.Shell.Syntax
/-!
# Parameters

What stands in the braces after a dollar sign: a name, and what is to be done with its value.
-/

namespace RepairConsole.Rehearsal.Shell

/-- What is done with the value of a name. -/
inductive Use where
  | value
  /-- The number of its bytes. -/
  | length
  /-- Another text where there is no value. -/
  | orElse
  /-- Another text, which is its value from then on. -/
  | orSet
  /-- The script ends where there is no value. -/
  | orFail
  /-- Another text where there is a value. -/
  | andThen
  | cutFront (longest : Bool)
  | cutEnd (longest : Bool)
  deriving DecidableEq, Repr

structure Parameter where
  name : String
  use : Use
  /-- An empty value counts as none. -/
  filled : Bool
  operand : String
  deriving DecidableEq, Repr

namespace Parameter

/-- The name at the front, and what follows. -/
def readName (cs : List Char) : Option (List Char × List Char) :=
  match cs with
  | [] => none
  | c :: rest =>
    if isNameStart c then some (cs.span isNameChar)
    else if c.isDigit then some (cs.span Char.isDigit)
    else if isSpecialName c then some ([c], rest)
    else none

/-- The use that a sign stands for, and what follows the sign. -/
def readUse (cs : List Char) : Option (Use × Bool × List Char) :=
  match cs with
  | [] => some (.value, false, [])
  | ':' :: '-' :: rest => some (.orElse, true, rest)
  | ':' :: '=' :: rest => some (.orSet, true, rest)
  | ':' :: '?' :: rest => some (.orFail, true, rest)
  | ':' :: '+' :: rest => some (.andThen, true, rest)
  | '-' :: rest => some (.orElse, false, rest)
  | '=' :: rest => some (.orSet, false, rest)
  | '?' :: rest => some (.orFail, false, rest)
  | '+' :: rest => some (.andThen, false, rest)
  | '#' :: '#' :: rest => some (.cutFront true, false, rest)
  | '#' :: rest => some (.cutFront false, false, rest)
  | '%' :: '%' :: rest => some (.cutEnd true, false, rest)
  | '%' :: rest => some (.cutEnd false, false, rest)
  | _ => none

/-- What stands in braces; none where it means nothing. -/
def read? (text : String) : Option Parameter :=
  let measured : Option Parameter :=
    match text.toList with
    | '#' :: rest =>
      match readName rest with
      | some (name, []) => some ⟨String.ofList name, .length, false, ""⟩
      | _ => none
    | _ => none
  measured.or do
    let (name, rest) ← readName text.toList
    let (use, filled, operand) ← readUse rest
    return ⟨String.ofList name, use, filled, String.ofList operand⟩

/-! ## Examples -/

example : read? "#x" = some ⟨"x", .length, false, ""⟩ := by decide +kernel

example : read? "p##*/" = some ⟨"p", .cutFront true, false, "*/"⟩ := by decide +kernel

example : read? "x!" = none := by decide +kernel

end Parameter
end RepairConsole.Rehearsal.Shell
