import RepairConsole.Url.Percent
/-!
# IPv4 addresses

A host whose last label is a number is an IPv4 address, in any of the old notations: up to
four parts, each decimal, octal or hexadecimal, of which the last fills all the bytes that
are left.
-/

namespace RepairConsole.Url.IPv4

/-- The value of digits in a base; `none` if one of them is no digit of that base. -/
def digitsIn (base : Nat) (cs : List Char) : Option Nat :=
  cs.foldlM (fun n c =>
    match hexDigitValue? (UInt8.ofNat c.toNat) with
    | some d => if d < base ∧ c.toNat < 128 then some (n * base + d) else none
    | none => none) 0

/-- The value of one part: `0x` announces hexadecimal and another leading zero octal. -/
def part? : List Char → Option Nat
  | [] => none
  | '0' :: 'x' :: digits => digitsIn 16 digits
  | '0' :: 'X' :: digits => digitsIn 16 digits
  | '0' :: d :: digits => digitsIn 8 (d :: digits)
  | digits => digitsIn 10 digits

/-- The labels of a host name. -/
def labels (cs : List Char) : List (List Char) := cs.splitOn '.'

/-- The labels without an empty one at the end. -/
def parts (cs : List Char) : List (List Char) :=
  match (labels cs).reverse with
  | [] :: before => before.reverse
  | _ => labels cs

/-- Whether the last label, not counting one empty label after it, is a number. -/
def endsInNumber (cs : List Char) : Bool :=
  match (parts cs).getLast? with
  | none => false
  | some last => Text.allDigits last || (part? last).isSome

/-- Puts the parts together. Each but the last is one byte. -/
def combine (address : Nat) (bytesLeft : Nat) : List Nat → Option Nat
  | [] => none
  | [last] =>
    if last < 1 <<< (8 * bytesLeft) then some (address <<< (8 * bytesLeft) + last) else none
  | n :: later => if n < 256 then combine (address * 256 + n) (bytesLeft - 1) later else none

/-- The address that a host name writes. -/
def parse? (cs : List Char) : Option Nat := do
  let parts := parts cs
  if 4 < parts.length then none
  else combine 0 4 (← parts.mapM part?)

/-- The address in four decimal bytes. -/
def text (address : Nat) : List Char :=
  List.intercalate ['.'] ([24, 16, 8, 0].map fun shift =>
    (Nat.repr ((address >>> shift) % 256)).toList)

end RepairConsole.Url.IPv4
