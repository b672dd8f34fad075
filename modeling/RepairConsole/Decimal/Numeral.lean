import RepairConsole.Decimal.Binary
/-!
# Numbers as they are written

A decimal numeral with a sign, an optional fraction and an optional exponent, and what it
is worth as a whole number of 64 bits or as a double.
-/

namespace RepairConsole.Decimal

/-- `±mantissa * 10 ^ (exponent - scale)`. `plain` says that neither a fraction nor an
exponent was written. -/
structure Numeral where
  negative : Bool
  mantissa : Nat
  scale : Nat
  exponent : Int
  plain : Bool
  deriving DecidableEq, Repr

namespace Numeral

/-- The numeral as a signed number of 64 bits. A fraction or an exponent is not allowed,
whatever it is worth, and neither is a negative zero. -/
def toInt64? (n : Numeral) : Option Int :=
  if !n.plain then none
  else if n.negative then
    if 0 < n.mantissa ∧ n.mantissa ≤ 0x8000000000000000 then some (-n.mantissa) else none
  else if n.mantissa < 0x8000000000000000 then some n.mantissa else none

/-- The double nearest to `mantissa * 10 ^ exponent`; `none` if it would be infinite. Far
outside of the range the power need not be worked out. -/
def magnitude? (mantissa : Nat) (exponent : Int) : Option Float :=
  let digits : Int := (Nat.repr mantissa).length
  if mantissa = 0 then some 0.0
  else if 310 < digits + exponent then none
  else if digits + exponent < -400 then some 0.0
  else
    let x := Float.ofScientific mantissa (exponent < 0) exponent.natAbs
    if x.isInf then none else some x

/-- The double nearest to the numeral; `none` if it is too large for one. -/
def toFloat? (n : Numeral) : Option Float :=
  (magnitude? n.mantissa (n.exponent - n.scale)).map fun x => if n.negative then -x else x

end Numeral
end RepairConsole.Decimal
