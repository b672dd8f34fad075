/-!
# Decimal digits

Reading and writing whole numbers as runs of ASCII digits. Leading zeros are allowed when
reading and add nothing; writing never puts any, unless a width asks for them.
-/

namespace RepairConsole.Text

/-- A non-empty text of ASCII digits only. -/
def allDigits (cs : List Char) : Bool := !cs.isEmpty && cs.all Char.isDigit

/-- The number that a run of digits writes. -/
def digitsValue (cs : List Char) : Nat := cs.foldl (fun n c => 10 * n + (c.toNat - 48)) 0

/-- The number, if the text is a run of digits. -/
def readDigits? (cs : List Char) : Option Nat :=
  if allDigits cs then some (digitsValue cs) else none

/-- The digits of a number, with zeros in front up to `width`. -/
def padDigits (width n : Nat) : String :=
  let digits := Nat.repr n
  String.ofList (List.replicate (width - digits.length) '0') ++ digits

theorem digitsValue_append (a b : List Char) :
    digitsValue (a ++ b) = b.foldl (fun n c => 10 * n + (c.toNat - 48)) (digitsValue a) := by
  simp [digitsValue, List.foldl_append]

theorem digitsValue_zero_cons (cs : List Char) : digitsValue ('0' :: cs) = digitsValue cs := by
  simp [digitsValue]

end RepairConsole.Text
