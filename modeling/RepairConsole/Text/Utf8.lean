/-!
# Reading UTF-8 that may be damaged

A byte stream is read as text with U+FFFD in place of every maximal run of bytes that
begins a character and breaks off. Valid UTF-8 is read as it stands.
-/

namespace RepairConsole.Text.Utf8

/-- What stands for bytes that are no text. -/
def replacement : Char := Char.ofNat 0xFFFD

/-- What a first byte announces: how many bytes follow, and between which bounds the
first of them must lie (so that no character has two spellings and none is a surrogate). -/
structure Announced where
  bits : Nat
  low : UInt8
  high : UInt8
  more : Nat

/-- The reading of a first byte; `none` where no character starts with it. -/
def announced (b : UInt8) : Option Announced :=
  if b < 0x80 then some ⟨b.toNat, 0x80, 0xBF, 0⟩
  else if b < 0xC2 then none
  else if b < 0xE0 then some ⟨b.toNat - 0xC0, 0x80, 0xBF, 1⟩
  else if b = 0xE0 then some ⟨0, 0xA0, 0xBF, 2⟩
  else if b = 0xED then some ⟨0xD, 0x80, 0x9F, 2⟩
  else if b < 0xF0 then some ⟨b.toNat - 0xE0, 0x80, 0xBF, 2⟩
  else if b = 0xF0 then some ⟨0, 0x90, 0xBF, 3⟩
  else if b < 0xF4 then some ⟨b.toNat - 0xF0, 0x80, 0xBF, 3⟩
  else if b = 0xF4 then some ⟨4, 0x80, 0x8F, 3⟩
  else none

/-- The text of the bytes. `pending` is the character under way, if there is one; `text`
is what was read before it. -/
def decodeFrom (text : String) (pending : Option Announced) : List UInt8 → String
  | [] => if pending.isSome then text.push replacement else text
  | b :: rest =>
    let fresh (text : String) : String × Option Announced :=
      match announced b with
      | none => (text.push replacement, none)
      | some a => if a.more = 0 then (text.push (Char.ofNat a.bits), none) else (text, some a)
    let next : String × Option Announced :=
      match pending with
      | none => fresh text
      | some a =>
        if a.low ≤ b ∧ b ≤ a.high then
          let bits := a.bits * 64 + (b.toNat - 0x80)
          if a.more = 1 then (text.push (Char.ofNat bits), none)
          else (text, some ⟨bits, 0x80, 0xBF, a.more - 1⟩)
        else fresh (text.push replacement)
    decodeFrom next.1 next.2 rest

/-- The text of a byte stream, damaged or not. -/
def decode (bytes : ByteArray) : String :=
  match String.fromUTF8? bytes with
  | some text => text
  | none => decodeFrom "" none bytes.toList

end RepairConsole.Text.Utf8
