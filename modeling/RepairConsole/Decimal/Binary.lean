/-!
# The exact value of a double

A finite double is a whole number times a power of two. All decimal texts of it are worked
out from that, in exact arithmetic.
-/

namespace RepairConsole.Decimal

/-- `mantissa * 2 ^ exponent`, without a sign. -/
structure Binary where
  mantissa : Nat
  exponent : Int
  deriving DecidableEq, Repr

/-- Whether the sign bit is set; so it is for negative zero. -/
def isNegative (x : Float) : Bool := 0x8000000000000000 ≤ x.toBits.toNat

/-- The stored exponent, of eleven bits. -/
def exponentField (x : Float) : Nat := x.toBits.toNat / 0x10000000000000 % 2048

/-- The stored fraction, of 52 bits. -/
def fractionField (x : Float) : Nat := x.toBits.toNat % 0x10000000000000

namespace Binary

/-- The magnitude of a finite double. -/
def ofFloat (x : Float) : Binary :=
  if exponentField x = 0 then ⟨fractionField x, -1074⟩
  else ⟨fractionField x + 0x10000000000000, exponentField x - 1075⟩

/-- The nearest whole number; a half goes up. -/
def nearest (b : Binary) : Nat :=
  if b.exponent < 0 then
    (b.mantissa + 1 <<< (b.exponent.natAbs - 1)) >>> b.exponent.natAbs
  else b.mantissa <<< b.exponent.natAbs

end Binary
end RepairConsole.Decimal
