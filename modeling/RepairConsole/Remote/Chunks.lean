/-!
# Bodies in chunks

A body whose length was not known when it was sent comes in chunks: the length of each in
hexadecimal digits, a line end, the bytes, a line end. A chunk of length zero closes it.
-/

namespace RepairConsole.Chunks

def isHexDigit (b : UInt8) : Bool :=
  (48 ≤ b && b ≤ 57) || (65 ≤ b && b ≤ 70) || (97 ≤ b && b ≤ 102)

def hexValue (b : UInt8) : Nat :=
  if b ≤ 57 then b.toNat - 48 else if b ≤ 70 then b.toNat - 55 else b.toNat - 87

def isSpace (b : UInt8) : Bool := b == 32 || (9 ≤ b && b ≤ 13)

/-- The length at the front of a chunk. What follows a semicolon says nothing about it. -/
def length? (line : List UInt8) : Option Nat :=
  let text := (line.takeWhile (· != 59)).dropWhile isSpace
  let digits := (text.reverse.dropWhile isSpace).reverse
  if digits.isEmpty || !digits.all isHexDigit then none
  else some (digits.foldl (fun n b => 16 * n + hexValue b) 0)

/-- What follows a line end; `none` if none stands here. -/
def afterLineEnd? : List UInt8 → Option (List UInt8)
  | 13 :: 10 :: rest => some rest
  | _ => none

/-- The chunks one after the other. The first argument bounds their number. A body that
breaks off inside a chunk is what came of it; one that breaks off elsewhere is damaged. -/
def joinFrom : Nat → List UInt8 → Option (List UInt8)
  | 0, _ => none
  | fuel + 1, bytes => do
    let length ← length? (bytes.takeWhile (· != 13))
    let rest ← afterLineEnd? (bytes.dropWhile (· != 13))
    if length = 0 then
      let _ ← afterLineEnd? rest
      return []
    else if rest.length < length then return rest
    else
      let more ← joinFrom fuel (← afterLineEnd? (rest.drop length))
      return rest.take length ++ more

/-- A body in chunks, put together. -/
def join? (bytes : ByteArray) : Option ByteArray :=
  (joinFrom (bytes.size + 1) bytes.toList).map fun body => ⟨body.toArray⟩

/-! ## Examples -/

example :
    joinFrom 9 [50, 13, 10, 97, 98, 13, 10, 48, 13, 10, 13, 10] = some [97, 98] := by decide

example : joinFrom 9 [123, 125] = none := by decide

end RepairConsole.Chunks
