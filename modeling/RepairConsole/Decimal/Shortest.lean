import RepairConsole.Decimal.Binary
/-!
# The shortest decimal of a double

The fewest digits that still read back as the same double, and of the decimals with that
many digits the one nearest to it. They are written without an exponent, however long that
gets.
-/

namespace RepairConsole.Decimal

/-- The decimals that read back as a double: those between `low` and `high`, all over the
denominator `den`. The ends count if `closed`. -/
structure Reach where
  low : Nat
  value : Nat
  high : Nat
  den : Nat
  closed : Bool

/-- The `n`-th power of ten. -/
def powerOfTen (n : Nat) : Nat := Nat.pow 10 n

namespace Reach

/-- The reach of a finite double: half way to each neighbour. The neighbour below a power
of two is only half as far away. The ends belong to the double if its mantissa is even. -/
def ofFloat (x : Float) : Reach :=
  let b := Binary.ofFloat x
  let near := fractionField x = 0 ∧ 1 < exponentField x
  let scale := if b.exponent < 2 then 1 else 1 <<< (b.exponent - 2).natAbs
  let den := if b.exponent < 2 then 1 <<< (2 - b.exponent).natAbs else 1
  { low := (4 * b.mantissa - if near then 1 else 2) * scale
    value := 4 * b.mantissa * scale
    high := (4 * b.mantissa + 2) * scale
    den
    closed := b.mantissa % 2 = 0 }

/-- Whether `digits * 10 ^ exponent` lies in the reach. -/
def contains (r : Reach) (digits : Nat) (exponent : Int) : Bool :=
  let point := if exponent < 0 then digits * r.den else digits * r.den * powerOfTen exponent.natAbs
  let grid := if exponent < 0 then powerOfTen exponent.natAbs else 1
  if r.closed then r.low * grid ≤ point && point ≤ r.high * grid
  else r.low * grid < point && point < r.high * grid

/-- The point of a decimal grid next below the value. -/
def below (r : Reach) (exponent : Int) : Nat :=
  if exponent < 0 then r.value * powerOfTen exponent.natAbs / r.den
  else r.value / (r.den * powerOfTen exponent.natAbs)

/-- Whether the value lies nearer to the grid's point `digits` than to the next one. -/
def lowerNearer (r : Reach) (digits : Nat) (exponent : Int) : Bool :=
  if exponent < 0 then 2 * (r.value * powerOfTen exponent.natAbs) < (2 * digits + 1) * r.den
  else 2 * r.value < (2 * digits + 1) * r.den * powerOfTen exponent.natAbs

/-- The point of the coarsest grid that has one in the reach, looking from `exponent` down.
Of two such points the nearer is taken, and the upper one of two equally near. -/
def coarsest (r : Reach) (exponent : Int) : Nat → Nat × Int
  | 0 => (r.below exponent, exponent)
  | steps + 1 =>
    let d := r.below exponent
    match r.contains d exponent, r.contains (d + 1) exponent with
    | true, true => if r.lowerNearer d exponent then (d, exponent) else (d + 1, exponent)
    | true, false => (d, exponent)
    | false, true => (d + 1, exponent)
    | false, false => coarsest r (exponent - 1) steps

/-- A power of ten that the value does not pass. -/
def top (r : Reach) : Int :=
  if r.den ≤ r.value then (Nat.repr (r.value / r.den)).length
  else 1 - (Nat.repr (r.den / r.value)).length

end Reach

/-- The shortest decimal of a finite double that is not zero, as digits and the power of
ten they are multiplied by. Seventeen digits are always enough. -/
def shortest (x : Float) : Nat × Int :=
  let r := Reach.ofFloat x
  r.coarsest r.top 20

/-- A decimal written out in full. -/
def positional (digits : Nat) (exponent : Int) : String :=
  let text := Nat.repr digits
  let places := exponent.natAbs
  if 0 ≤ exponent then text ++ String.ofList (List.replicate places '0')
  else
    let cs := List.replicate (places + 1 - text.length) '0' ++ text.toList
    String.ofList (cs.take (cs.length - places)) ++ "." ++
      String.ofList (cs.drop (cs.length - places))

/-- A double in the fewest digits: `0.5`, `1`, `-0`, `NaN`, `inf`. -/
def floatText (x : Float) : String :=
  if x.isNaN then "NaN"
  else
    let sign := if isNegative x then "-" else ""
    if x.isInf then sign ++ "inf"
    else if Binary.ofFloat x = ⟨0, -1074⟩ then sign ++ "0"
    else
      let (digits, exponent) := shortest x
      sign ++ positional digits exponent

/-- A double as a whole number with all its digits, a half away from zero. -/
def roundedText (x : Float) : String :=
  if x.isNaN then "NaN"
  else
    let sign := if isNegative x then "-" else ""
    if x.isInf then sign ++ "inf" else sign ++ Nat.repr (Binary.ofFloat x).nearest

end RepairConsole.Decimal
