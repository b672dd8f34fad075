import RepairConsole.Url.Percent
/-!
# IPv6 addresses

Eight pieces of up to four hexadecimal digits. `::` stands for one or more pieces that are
zero, and the last two pieces may be written as an IPv4 address.
-/

namespace RepairConsole.Url.IPv6

/-- The text around the first `::`. -/
def splitGap : List Char → Option (List Char × List Char)
  | ':' :: ':' :: rest => some ([], rest)
  | c :: rest => (splitGap rest).map fun (before, after) => (c :: before, after)
  | [] => none

/-- One piece. -/
def piece? (cs : List Char) : Option Nat :=
  if cs.isEmpty ∨ 4 < cs.length then none
  else cs.foldlM (fun n c =>
    if c.toNat < 128 then (hexDigitValue? (UInt8.ofNat c.toNat)).map (n * 16 + ·) else none) 0

/-- One byte of an IPv4 address, without leading zeros. -/
def byte? (cs : List Char) : Option Nat := do
  let n ← Text.readDigits? cs
  if n ≤ 255 ∧ (cs.head? ≠ some '0' ∨ cs.length = 1) then some n else none

/-- The last two pieces, written as an IPv4 address. -/
def quad? (cs : List Char) : Option (List Nat) := do
  match ← (cs.splitOn '.').mapM byte? with
  | [a, b, c, d] => some [a * 256 + b, c * 256 + d]
  | _ => none

/-- The pieces of some groups; if `last`, the address ends with them. -/
def groups? (last : Bool) : List (List Char) → Option (List Nat)
  | [] => some []
  | [group] =>
    if last ∧ group.contains '.' then quad? group else (piece? group).map fun n => [n]
  | group :: later => do
    let n ← piece? group
    let rest ← groups? last later
    return n :: rest

/-- The pieces of one side of the gap. -/
def side? (last : Bool) (cs : List Char) : Option (List Nat) :=
  if cs.isEmpty then some [] else groups? last (cs.splitOn ':')

/-- The eight pieces of an address. -/
def parse? (cs : List Char) : Option (List Nat) :=
  match splitGap cs with
  | none => do
    let pieces ← side? true cs
    if pieces.length = 8 then some pieces else none
  | some (before, after) => do
    let before ← side? false before
    let after ← side? true after
    if before.length + after.length ≤ 7 then
      some (before ++ List.replicate (8 - before.length - after.length) 0 ++ after)
    else none

/-! ## Printing -/

/-- How many zeros a list starts with. -/
def zeros : List Nat → Nat
  | 0 :: rest => zeros rest + 1
  | _ => 0

/-- Where the longest run of zeros starts, the first of several, and how long it is. -/
def longestZeros (position : Nat) : List Nat → Nat × Nat
  | [] => (position, 0)
  | n :: rest =>
    let here := zeros (n :: rest)
    let later := longestZeros (position + 1) rest
    if later.2 ≤ here then (position, here) else later

def pieceText (n : Nat) : List Char := Nat.toDigits 16 n

def joined (pieces : List Nat) : List Char := List.intercalate [':'] (pieces.map pieceText)

/-- The address with its longest run of zeros left out, if that has two or more. -/
def text (pieces : List Nat) : List Char :=
  let (start, length) := longestZeros 0 pieces
  if length < 2 then joined pieces
  else joined (pieces.take start) ++ ':' :: ':' :: joined (pieces.drop (start + length))

example : (parse? "2001:DB8::1".toList).map (String.ofList ∘ text) = some "2001:db8::1" := by
  decide +kernel
example : (parse? "::ffff:1.2.3.4".toList).map (String.ofList ∘ text) =
    some "::ffff:102:304" := by decide +kernel

end RepairConsole.Url.IPv6
