import RepairConsole.Text.Digits
/-!
# Percent encoding

Three rules for writing text in a URL, one for each place: user information, a segment of
a path, and the query. A byte that may not stand for itself is written `%XX`.
-/

namespace RepairConsole.Url

/-- The bytes of a text in UTF-8. -/
def utf8 (cs : List Char) : List UInt8 := cs.flatMap String.utf8EncodeChar

/-- A hexadecimal digit, in upper case. -/
def hexDigit (n : Nat) : Char := if n < 10 then Char.ofNat (48 + n) else Char.ofNat (55 + n)

/-- The byte as `%XX`. -/
def escapedByte (b : UInt8) : List Char :=
  ['%', hexDigit (b.toNat / 16), hexDigit (b.toNat % 16)]

/-- Writes the bytes that `stands` allows as they are and escapes the others. -/
def encode (stands : UInt8 → Bool) (bytes : List UInt8) : List Char :=
  bytes.flatMap fun b => if stands b then [Char.ofNat b.toNat] else escapedByte b

/-- A printable ASCII character, and none of `special`. -/
def printableExcept (special : List Char) (b : UInt8) : Bool :=
  0x20 < b && b < 0x7F && !special.contains (Char.ofNat b.toNat)

/-- What is escaped in every part of a URL that has a structure. -/
def reserved : List Char := ['"', '#', '<', '>', '?', '`', '\x7b', '\x7d']

/-- May stand in a segment of a path. -/
def standsInSegment : UInt8 → Bool := printableExcept (reserved ++ ['/', '%', '\\'])

/-- May stand in user information. -/
def standsInUser : UInt8 → Bool :=
  printableExcept (reserved ++ ['/', ':', ';', '=', '@', '[', '\\', ']', '^', '|'])

/-- A segment of a path as it is written. -/
def encodeSegment (cs : List Char) : List Char := encode standsInSegment (utf8 cs)

/-- User information as it is written. -/
def encodeUser (cs : List Char) : List Char := encode standsInUser (utf8 cs)

/-- The value of a hexadecimal digit. -/
def hexDigitValue? (b : UInt8) : Option Nat :=
  let n := b.toNat
  if 48 ≤ n ∧ n ≤ 57 then some (n - 48)
  else if 65 ≤ n ∧ n ≤ 70 then some (n - 55)
  else if 97 ≤ n ∧ n ≤ 102 then some (n - 87)
  else none

/-- Undoes the escapes; a percent sign without two digits after it stands for itself. -/
def decode : List UInt8 → List UInt8
  | [] => []
  | 0x25 :: a :: b :: rest =>
    match hexDigitValue? a, hexDigitValue? b with
    | some high, some low => UInt8.ofNat (16 * high + low) :: decode rest
    | _, _ => 0x25 :: decode (a :: b :: rest)
  | b :: rest => b :: decode rest

/-! ## Forms -/

/-- May stand in a name or a value of a query. -/
def standsInForm (b : UInt8) : Bool :=
  let c := Char.ofNat b.toNat
  b < 0x80 && (c.isAlphanum || c == '*' || c == '-' || c == '.' || c == '_')

/-- A name or a value of a query as it is written: a space is a plus sign. -/
def encodeForm (cs : List Char) : List Char :=
  (utf8 cs).flatMap fun b =>
    if b = 0x20 then ['+'] else if standsInForm b then [Char.ofNat b.toNat] else escapedByte b

/-- The parameters of a query as they are written. -/
def encodeQuery (parameters : List (String × String)) : List Char :=
  List.intercalate ['&'] (parameters.map fun (name, value) =>
    encodeForm name.toList ++ '=' :: encodeForm value.toList)

end RepairConsole.Url
