import RepairConsole.Decimal.Shortest
/-!
# Decimals of a chosen length

A double rounded to so many decimal places, or to so many digits in all. What is rounded is
its exact value, and of two decimals equally near the even one is taken.
-/

namespace RepairConsole.Decimal

/-- A quotient as a whole number; a half goes to the even neighbour. -/
def roundedQuotient (num den : Nat) : Nat :=
  let below := num / den
  let twice := 2 * (num % den)
  if twice < den then below
  else if den < twice then below + 1
  else below + below % 2

namespace Binary

/-- The value as a fraction. -/
def fraction (b : Binary) : Nat × Nat :=
  if b.exponent < 0 then (b.mantissa, 1 <<< b.exponent.natAbs)
  else (b.mantissa <<< b.exponent.natAbs, 1)

/-- The value times a power of ten, rounded. -/
def scaled (power : Int) (b : Binary) : Nat :=
  let (num, den) := b.fraction
  if power < 0 then roundedQuotient num (den * powerOfTen power.natAbs)
  else roundedQuotient (num * powerOfTen power.natAbs) den

/-- The power of ten of the first digit. -/
def magnitude (b : Binary) : Int :=
  let (num, den) := b.fraction
  if num = 0 then 0
  else if den ≤ num then (Nat.repr (num / den)).length - 1
  else
    let k := (Nat.repr (den / num)).length
    if den ≤ num * powerOfTen (k - 1) then -Int.ofNat (k - 1) else -Int.ofNat k

/-- So many digits after the first one, and the power of ten of the first. -/
def digits (more : Nat) (b : Binary) : Nat × Int :=
  let first := b.magnitude
  let n := b.scaled (more - first)
  if powerOfTen (more + 1) ≤ n then (n / 10, first + 1) else (n, first)

end Binary

/-! ## Examples -/

example : roundedQuotient 5 2 = 2 := by decide

example : roundedQuotient 7 2 = 4 := by decide

example : (Binary.mk 5 (-1)).digits 1 = (25, 0) := by decide +kernel

end RepairConsole.Decimal
