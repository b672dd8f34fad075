import RepairConsole.Proofs.Text.Utf8
import RepairConsole.Url.Percent
/-!
# What was escaped is read back

The characters of a path's segment and of a parameter are few, so that none of them is taken for a
mark between the parts of a URL; and both are read as the text that was written.
-/

namespace RepairConsole.Url

/-- The text that a segment of a path writes, if its bytes are text. -/
def segmentText? (cs : List Char) : Option String := String.fromUTF8? (decode (utf8 cs)).toByteArray

/-- A plus sign that stands for a space. -/
def spaced (b : UInt8) : UInt8 := if b = 0x2B then 0x20 else b

/-- The text that a name or a value of a query writes, if its bytes are text. -/
def formText? (cs : List Char) : Option String :=
  String.fromUTF8? (decode ((utf8 cs).map spaced)).toByteArray

theorem fromUTF8?_utf8 (cs : List Char) :
    String.fromUTF8? (utf8 cs).toByteArray = some (String.ofList cs) :=
  Text.fromUTF8?_toByteArray (String.ofList cs)

theorem utf8_append (a b : List Char) : utf8 (a ++ b) = utf8 a ++ utf8 b := List.flatMap_append

/-! ## One byte -/

theorem forall_byte {P : UInt8 → Prop} (h : ∀ n < 256, P (UInt8.ofNat n)) (b : UInt8) : P b := by
  have hb := h b.toNat b.toNat_lt
  rwa [UInt8.ofNat_toNat] at hb

theorem utf8_ascii {b : UInt8} (h : b < 0x80) : utf8 [Char.ofNat b.toNat] = [b] := by
  have hall : ∀ n < 128, utf8 [Char.ofNat n] = [UInt8.ofNat n] := by decide +kernel
  rw [hall b.toNat h, UInt8.ofNat_toNat]

theorem decode_cons {b : UInt8} (h : b ≠ 0x25) (rest : List UInt8) :
    decode (b :: rest) = b :: decode rest := by
  rw [decode]
  intro a b' rest' hb
  exact absurd hb h

/-- The bytes of an escape are its percent sign and two digits that have the byte's value. -/
theorem utf8_escapedByte (b : UInt8) :
    ∃ high low, utf8 (escapedByte b) = [0x25, high, low] ∧ high ≠ 0x2B ∧ low ≠ 0x2B ∧
      hexDigitValue? high = some (b.toNat / 16) ∧ hexDigitValue? low = some (b.toNat % 16) := by
  have hdigit : ∀ n < 16, utf8 [hexDigit n] = [UInt8.ofNat (hexDigit n).toNat] ∧
      UInt8.ofNat (hexDigit n).toNat ≠ 0x2B ∧
      hexDigitValue? (UInt8.ofNat (hexDigit n).toNat) = some n := by decide +kernel
  have hb := b.toNat_lt
  obtain ⟨hhigh, hhighPlus, hhighValue⟩ := hdigit (b.toNat / 16) (by omega)
  obtain ⟨hlow, hlowPlus, hlowValue⟩ := hdigit (b.toNat % 16) (by omega)
  refine ⟨_, _, ?_, hhighPlus, hlowPlus, hhighValue, hlowValue⟩
  calc utf8 (escapedByte b)
      = utf8 ['%'] ++ (utf8 [hexDigit (b.toNat / 16)] ++ utf8 [hexDigit (b.toNat % 16)]) := by
        rw [← utf8_append, ← utf8_append]
        rfl
    _ = _ := by
        rw [hhigh, hlow]
        rfl

theorem decode_escapedByte (b : UInt8) (rest : List UInt8) :
    decode (utf8 (escapedByte b) ++ rest) = b :: decode rest := by
  obtain ⟨high, low, hbytes, -, -, hhigh, hlow⟩ := utf8_escapedByte b
  rw [hbytes, List.cons_append, List.cons_append, List.cons_append, List.nil_append, decode, hhigh,
    hlow]
  dsimp only
  rw [Nat.div_add_mod, UInt8.ofNat_toNat]

theorem spaced_escapedByte (b : UInt8) :
    (utf8 (escapedByte b)).map spaced = utf8 (escapedByte b) := by
  obtain ⟨high, low, hbytes, hhigh, hlow, -, -⟩ := utf8_escapedByte b
  rw [hbytes]
  simp [spaced, hhigh, hlow]

/-- Bytes that are each read back one by one are read back in a row. -/
theorem decode_flatMap {written : UInt8 → List Char} {through : UInt8 → UInt8}
    (h : ∀ b rest, decode ((utf8 (written b)).map through ++ rest) = b :: decode rest)
    (bytes : List UInt8) : decode ((utf8 (bytes.flatMap written)).map through) = bytes := by
  induction bytes with
  | nil => rfl
  | cons b bytes ih => rw [List.flatMap_cons, utf8_append, List.map_append, h, ih]

/-! ## Segments of a path -/

/-- The characters that may stand in a segment, the percent sign of an escape among them. -/
def InSegment (c : Char) : Prop :=
  0x20 < c.toNat ∧ c.toNat < 0x7F ∧ c ∉ reserved ++ ['/', '\\']

instance (c : Char) : Decidable (InSegment c) := by unfold InSegment; infer_instance

/-- A byte that may stand in a segment as it is. -/
theorem lt_of_standsInSegment {b : UInt8} (h : standsInSegment b = true) : b < 0x80 ∧ b ≠ 0x25 := by
  have hall : ∀ b : UInt8, standsInSegment b = true → b < 0x80 ∧ b ≠ 0x25 :=
    forall_byte (by decide +kernel)
  exact hall b h

theorem inSegment_of_mem {cs : List Char} {c : Char} (h : c ∈ encodeSegment cs) : InSegment c := by
  have hall : ∀ b : UInt8, (if standsInSegment b then [Char.ofNat b.toNat]
      else escapedByte b).all (InSegment ·) = true :=
    forall_byte (by decide +kernel)
  obtain ⟨b, -, hc⟩ := List.mem_flatMap.1 h
  exact of_decide_eq_true (List.all_eq_true.1 (hall b) c hc)

theorem decode_encodeSegment (cs : List Char) : decode (utf8 (encodeSegment cs)) = utf8 cs := by
  have hone : ∀ b rest, decode ((utf8 (if standsInSegment b then [Char.ofNat b.toNat]
      else escapedByte b)).map id ++ rest) = b :: decode rest := by
    intro b rest
    rw [List.map_id]
    split
    · next hstands =>
      obtain ⟨hlt, hne⟩ := lt_of_standsInSegment hstands
      rw [utf8_ascii hlt]
      exact decode_cons hne rest
    · exact decode_escapedByte b rest
  have hdecode := decode_flatMap hone (utf8 cs)
  rwa [List.map_id] at hdecode

theorem segmentText?_encodeSegment (cs : List Char) :
    segmentText? (encodeSegment cs) = some (String.ofList cs) := by
  rw [segmentText?, decode_encodeSegment, fromUTF8?_utf8]

theorem encodeSegment_injective {a b : List Char} (h : encodeSegment a = encodeSegment b) : a = b := by
  have htext : segmentText? (encodeSegment a) = segmentText? (encodeSegment b) := by rw [h]
  rw [segmentText?_encodeSegment, segmentText?_encodeSegment] at htext
  exact String.ofList_injective (Option.some.inj htext)

/-! ## Names and values of a query -/

/-- The characters that may stand in a name or a value, the marks of an escape and of a space
among them. -/
def InForm (c : Char) : Prop :=
  c.isAlphanum = true ∨ c ∈ ['*', '-', '.', '_', '+', '%']

instance (c : Char) : Decidable (InForm c) := by unfold InForm; infer_instance

theorem inForm_of_mem {cs : List Char} {c : Char} (h : c ∈ encodeForm cs) : InForm c := by
  have hall : ∀ b : UInt8, (if b = 0x20 then ['+'] else if standsInForm b then [Char.ofNat b.toNat]
      else escapedByte b).all (InForm ·) = true :=
    forall_byte (by decide +kernel)
  obtain ⟨b, -, hc⟩ := List.mem_flatMap.1 h
  exact of_decide_eq_true (List.all_eq_true.1 (hall b) c hc)

theorem lt_of_standsInForm {b : UInt8} (h : standsInForm b = true) :
    b < 0x80 ∧ b ≠ 0x25 ∧ b ≠ 0x2B := by
  have hall : ∀ b : UInt8, standsInForm b = true → b < 0x80 ∧ b ≠ 0x25 ∧ b ≠ 0x2B :=
    forall_byte (by decide +kernel)
  exact hall b h

theorem decode_encodeForm (cs : List Char) : decode ((utf8 (encodeForm cs)).map spaced) = utf8 cs := by
  refine decode_flatMap (fun b rest => ?_) (utf8 cs)
  split
  · next hspace =>
    subst hspace
    exact decode_cons (by decide) rest
  · split
    · next hstands =>
      obtain ⟨hlt, hpercent, hplus⟩ := lt_of_standsInForm hstands
      rw [utf8_ascii hlt, List.map_singleton, spaced, if_neg hplus]
      exact decode_cons hpercent rest
    · rw [spaced_escapedByte]
      exact decode_escapedByte b rest

theorem formText?_encodeForm (cs : List Char) :
    formText? (encodeForm cs) = some (String.ofList cs) := by
  rw [formText?, decode_encodeForm, fromUTF8?_utf8]

end RepairConsole.Url
