import RepairConsole.SystemError
/-!
# Text and its bytes

A file is read as text if its bytes are those of a text, and then it is that one.
-/

namespace RepairConsole

/-- The bytes of a text are read as that text. -/
theorem Text.fromUTF8?_toByteArray (s : String) : String.fromUTF8? s.toByteArray = some s := by
  rw [String.fromUTF8?, dif_pos s.isValidUTF8]
  rfl

/-- Only the bytes of a text are read as it. -/
theorem Text.toByteArray_of_fromUTF8? {bytes : ByteArray} {s : String}
    (h : String.fromUTF8? bytes = some s) : s.toByteArray = bytes := by
  unfold String.fromUTF8? at h
  split at h
  · rw [← Option.some.inj h]
    rfl
  · cases h

namespace SystemError

theorem textOf_toUTF8 (s : String) : textOf s.toUTF8 = .ok s := by
  rw [textOf, String.toUTF8_eq_toByteArray, Text.fromUTF8?_toByteArray]

theorem textOf_eq_ok_iff {bytes : ByteArray} {s : String} :
    textOf bytes = .ok s ↔ bytes = s.toUTF8 := by
  constructor
  · intro h
    unfold textOf at h
    split at h
    · next text htext =>
      rw [← Except.ok.inj h, String.toUTF8_eq_toByteArray, Text.toByteArray_of_fromUTF8? htext]
    · cases h
  · rintro rfl
    exact textOf_toUTF8 s

theorem eq_notText_of_textOf {bytes : ByteArray} {error : SystemError}
    (h : textOf bytes = .error error) : error = notText := by
  unfold textOf at h
  split at h
  · cases h
  · cases h
    rfl

theorem textOf_eq_error_iff {bytes : ByteArray} {error : SystemError} :
    textOf bytes = .error error ↔ error = notText ∧ ∀ s : String, bytes ≠ s.toUTF8 := by
  constructor
  · intro h
    refine ⟨eq_notText_of_textOf h, fun s hs => ?_⟩
    rw [textOf_eq_ok_iff.2 hs] at h
    cases h
  · rintro ⟨rfl, hnone⟩
    cases hread : textOf bytes with
    | ok s => exact absurd (textOf_eq_ok_iff.1 hread) (hnone s)
    | error error => rw [eq_notText_of_textOf hread]

end SystemError
end RepairConsole
