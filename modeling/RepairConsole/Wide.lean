import RepairConsole.Text.Digits
/-!
# Whole numbers of 128 bits

Signed numbers that a machine holds in 128 bits. A sum or a product that does not fit into them is
refused.
-/

namespace RepairConsole

abbrev Wide := BitVec 128

namespace Wide

def add? (a b : Wide) : Option Wide := if a.saddOverflow b then none else some (a + b)

def mul? (a b : Wide) : Option Wide := if a.smulOverflow b then none else some (a * b)

/-- Puts a digit behind those of a number. -/
def putDigit? (n : Wide) (c : Char) : Option Wide :=
  (mul? n 10).bind fun shifted => add? shifted (BitVec.ofNat 128 (c.toNat - 48))

/-- The number that a run of digits writes, taken up digit by digit. -/
def ofDigits? (cs : List Char) : Option Wide := cs.foldlM putDigit? 0

end Wide
end RepairConsole
