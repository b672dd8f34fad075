import RepairConsole.Rehearsal.Tool.Deal
/-!
# Escapes

Characters written as a backslash and a letter or a number, and the program that prints its
arguments.
-/

namespace RepairConsole.Rehearsal.Tool

def isOctal (c : Char) : Bool := '0' ≤ c && c ≤ '7'

def octalByte (digits : List Char) : UInt8 :=
  UInt8.ofNat (digits.foldl (fun n c => 8 * n + (c.toNat - 48)) 0)

def hexDigit? (c : Char) : Option Nat :=
  if c.isDigit then some (c.toNat - 48)
  else if 'a' ≤ c ∧ c ≤ 'f' then some (c.toNat - 87)
  else if 'A' ≤ c ∧ c ≤ 'F' then some (c.toNat - 55)
  else none

/-- The control character of a letter after a backslash. -/
def control? : Char → Option UInt8
  | 'a' => some 7
  | 'b' => some 8
  | 'e' => some 27
  | 'f' => some 12
  | 'n' => some 10
  | 'r' => some 13
  | 't' => some 9
  | 'v' => some 11
  | '\\' => some 92
  | _ => none

/-- Which escapes there are besides those for control characters and octal numbers of up to
three digits. -/
structure Escapes where
  /-- A zero in front of an octal number does not count as one of its digits. -/
  zero : Bool
  /-- One or two hexadecimal digits may follow an `x`. -/
  hexadecimal : Bool
  /-- A double quote may be escaped. -/
  quote : Bool
  /-- A `c` ends all printing. -/
  ending : Bool

namespace Escapes

/-- The bytes of what stands after a backslash, and what follows it; none for an end of all
printing. -/
def read (e : Escapes) (cs : List Char) : Option (List UInt8 × List Char) :=
  match cs with
  | [] => some ([92], [])
  | c :: rest =>
    let plain : List UInt8 × List Char := (92 :: bytesOf (String.singleton c), rest)
    if e.ending && c == 'c' then none
    else if e.quote && c == '\x22' then some ([34], rest)
    else if isOctal c then
      let digits := ((if e.zero && c == '0' then rest else cs).take 3).takeWhile isOctal
      some ([octalByte digits], (if e.zero && c == '0' then rest else cs).drop digits.length)
    else if e.hexadecimal && c == 'x' then
      let digits := (rest.take 2).map hexDigit? |>.takeWhile (·.isSome)
      if digits.isEmpty then some plain
      else
        let value := digits.foldl (fun n d => 16 * n + d.getD 0) 0
        some ([UInt8.ofNat value], rest.drop digits.length)
    else
      match control? c with
      | some byte => some ([byte], rest)
      | none => some plain

/-- The bytes of a text, and whether it ends all printing. The first argument bounds the
steps. -/
def bytesBy (e : Escapes) : Nat → List Char → List UInt8 × Bool
  | 0, _ => ([], false)
  | _ + 1, [] => ([], false)
  | fuel + 1, '\\' :: rest =>
    match e.read rest with
    | none => ([], true)
    | some (bytes, rest) =>
      let (more, ended) := e.bytesBy fuel rest
      (bytes ++ more, ended)
  | fuel + 1, c :: rest =>
    let (more, ended) := e.bytesBy fuel rest
    (bytesOf (String.singleton c) ++ more, ended)

def bytes (e : Escapes) (text : String) : List UInt8 × Bool :=
  e.bytesBy (text.length + 1) text.toList

/-- Those in a text, as the shell reads them and as other programs do. -/
def inText (own : Bool) : Escapes := ⟨true, !own, !own, true⟩

/-- Those in a format. -/
def inFormat (own : Bool) : Escapes := ⟨false, !own, !own, !own⟩

end Escapes

/-- The arguments on a line. The shell reads escapes; the program does if it is asked to. -/
def echo (own : Bool) (arguments : List String) : Deal :=
  let isOption (word : String) : Bool :=
    match word.toList with
    | '-' :: c :: letters =>
      if own then c == 'n' && letters.isEmpty else (c :: letters).all "neE".toList.contains
    | _ => false
  let options := (if own then arguments.take 1 else arguments).takeWhile isOption
  let letters := options.flatMap (·.toList)
  let text := " ".intercalate (arguments.drop options.length)
  let (bytes, ended) :=
    if own || (letters.filter "eE".toList.contains).getLast? == some 'e' then
      { Escapes.inText own with quote := false }.bytes text
    else (bytesOf text, false)
  printed (if ended || letters.contains 'n' then bytes else bytes ++ [10])

/-! ## Examples -/

example : (Escapes.inText true).bytes "a\\0101\\cb" = ([97, 65], true) := by decide +kernel

example : (Escapes.inFormat true).bytes "\\0101\\cb" = ([8, 49, 92, 99, 98], false) := by
  decide +kernel

end RepairConsole.Rehearsal.Tool
