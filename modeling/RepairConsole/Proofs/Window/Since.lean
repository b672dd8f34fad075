import RepairConsole.Proofs.Calendar.Rfc3339
import RepairConsole.Proofs.Text.Numerals
import RepairConsole.Proofs.Wide
import RepairConsole.Window
/-!
# The start of a window

A start is written in digits, as a millisecond of epoch time, or in RFC 3339. No text is in both
notations, so the instant that a start names is settled by its text alone.
-/

namespace RepairConsole

/-- No time in RFC 3339 is a run of digits. -/
theorem Calendar.Rfc3339.Stamp.not_allDigits (s : Stamp) : Text.allDigits s.chars = false := by
  rw [← Bool.not_eq_true, Text.allDigits_iff]
  rintro ⟨-, hall⟩
  exact absurd (hall '-' (by simp [Stamp.chars, Stamp.dateChars])) (by decide)

namespace Window

/-- The text names this instant. -/
def StartsAt (raw : String) (m : Calendar.Moment) : Prop :=
  let cs := (Text.trim raw).toList
  Text.allDigits cs = true ∧ Text.digitsValue cs ≤ Calendar.lastMillis ∧
      m = .ofMillis (Text.digitsValue cs) ∨
    ∃ stamp : Calendar.Rfc3339.Stamp, stamp.Valid ∧ cs = stamp.chars ∧ m = stamp.moment

/-! ## Milliseconds -/

theorem ofNanos?_eq_some_iff {nanos : Wide} {m : Calendar.Moment} :
    Calendar.Moment.ofNanos? nanos = some m ↔
      (Calendar.firstNanos ≤ nanos.toInt ∧ nanos.toInt ≤ Calendar.lastNanos) ∧
        m = ⟨nanos.toInt, 0⟩ := by
  unfold Calendar.Moment.ofNanos?
  rw [Option.ite_none_right_eq_some, Option.some_inj, eq_comm (a := m)]

/-- The three bounds on the way come to one. -/
theorem readMillis?_eq_some_iff {cs : List Char} (hcs : ∀ c ∈ cs, c.isDigit = true)
    {m : Calendar.Moment} :
    readMillis? cs = some m ↔
      Text.digitsValue cs ≤ Calendar.lastMillis ∧ m = .ofMillis (Text.digitsValue cs) := by
  have hmillion : (1000000 : Wide).toInt = 1000000 := by decide
  unfold readMillis? Calendar.Moment.ofMillis
  simp only [Option.bind_eq_some_iff, Wide.ofDigits?_eq_some_iff hcs, Wide.mul?_eq_some_iff,
    ofNanos?_eq_some_iff, hmillion]
  unfold Calendar.firstNanos Calendar.lastNanos Calendar.lastMillis
  constructor
  · rintro ⟨millis, hmillis, nanos, hnanos, ⟨-, hlast⟩, rfl⟩
    refine ⟨by omega, ?_⟩
    rw [hnanos, hmillis]
  · rintro ⟨hle, rfl⟩
    obtain ⟨millis, hmillis⟩ : ∃ w : Wide, w.toInt = Text.digitsValue cs := by
      apply Wide.exists_toInt_eq
      · unfold Wide.greatest; omega
      · unfold Wide.greatest; omega
    obtain ⟨nanos, hnanos⟩ : ∃ w : Wide, w.toInt = Text.digitsValue cs * 1000000 := by
      apply Wide.exists_toInt_eq
      · unfold Wide.greatest; omega
      · unfold Wide.greatest; omega
    refine ⟨millis, hmillis, nanos, ?_, ⟨by omega, by omega⟩, ?_⟩
    · rw [hnanos, hmillis]
    · rw [hnanos]

theorem readSince_of_digits {raw : String} (h : Text.allDigits (Text.trim raw).toList = true) :
    readSince raw = if Text.digitsValue (Text.trim raw).toList ≤ Calendar.lastMillis
      then .ok (.ofMillis (Text.digitsValue (Text.trim raw).toList))
      else .error (.sinceOutOfRange raw) := by
  have hdigits := (Text.allDigits_iff.1 h).2
  simp only [readSince, if_pos h]
  by_cases hle : Text.digitsValue (Text.trim raw).toList ≤ Calendar.lastMillis
  · rw [if_pos hle, (readMillis?_eq_some_iff hdigits).2 ⟨hle, rfl⟩]
  · have hnone : readMillis? (Text.trim raw).toList = none := by
      rw [Option.eq_none_iff_forall_ne_some]
      intro m hm
      exact hle ((readMillis?_eq_some_iff hdigits).1 hm).1
    rw [if_neg hle, hnone]

/-! ## Both notations -/

theorem readSince_of_not_digits {raw : String}
    (h : ¬ Text.allDigits (Text.trim raw).toList = true) :
    readSince raw =
      (Calendar.Rfc3339.read (Text.trim raw).toList).elim (.error (.badSince raw)) .ok := by
  simp only [readSince, if_neg h]
  cases Calendar.Rfc3339.read (Text.trim raw).toList <;> rfl

theorem readSince_eq_ok_iff {raw : String} {m : Calendar.Moment} :
    readSince raw = .ok m ↔ StartsAt raw m := by
  by_cases hdigits : Text.allDigits (Text.trim raw).toList = true
  · have hstamp : ¬ ∃ stamp : Calendar.Rfc3339.Stamp, stamp.Valid ∧
        (Text.trim raw).toList = stamp.chars ∧ m = stamp.moment := by
      rintro ⟨stamp, -, heq, -⟩
      rw [heq, stamp.not_allDigits] at hdigits
      cases hdigits
    rw [readSince_of_digits hdigits, StartsAt, or_iff_left hstamp, and_iff_right hdigits]
    by_cases hle : Text.digitsValue (Text.trim raw).toList ≤ Calendar.lastMillis
    · rw [if_pos hle, and_iff_right hle, Except.ok.injEq, eq_comm]
    · rw [if_neg hle]
      exact iff_of_false nofun fun h => hle h.1
  · have hnot : ¬ (Text.allDigits (Text.trim raw).toList = true ∧
        Text.digitsValue (Text.trim raw).toList ≤ Calendar.lastMillis ∧
        m = .ofMillis (Text.digitsValue (Text.trim raw).toList)) := fun h => hdigits h.1
    rw [readSince_of_not_digits hdigits, StartsAt, or_iff_right hnot,
      ← Calendar.Rfc3339.read_eq_some_iff]
    cases Calendar.Rfc3339.read (Text.trim raw).toList <;> simp

/-- A text that is no start is refused under one of two faults. -/
theorem readSince_refused {raw : String} (h : ∀ m, ¬ StartsAt raw m) :
    ∃ fault, readSince raw = .error fault ∧
      (fault = .sinceOutOfRange raw ∨ fault = .badSince raw) := by
  by_cases hdigits : Text.allDigits (Text.trim raw).toList = true
  · refine ⟨_, ?_, Or.inl rfl⟩
    rw [readSince_of_digits hdigits, if_neg]
    exact fun hle => h _ (Or.inl ⟨hdigits, hle, rfl⟩)
  · refine ⟨_, ?_, Or.inr rfl⟩
    rw [readSince_of_not_digits hdigits]
    cases hread : Calendar.Rfc3339.read (Text.trim raw).toList with
    | none => rfl
    | some m => exact absurd (Or.inr (Calendar.Rfc3339.read_eq_some_iff.1 hread)) (h m)

end Window
end RepairConsole
