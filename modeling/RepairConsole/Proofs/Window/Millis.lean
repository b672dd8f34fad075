import RepairConsole.Proofs.Window.Resolution
/-!
# Starts in epoch milliseconds

A run of digits passes three bounds on its way to an instant: it is read into 128 bits, multiplied
there, and looked up in the calendar. Together they are one bound on the number that the digits
write, however many there are.
-/

namespace RepairConsole.Window

open Calendar (Moment)

/-- Each step has the exact result, or refuses where its bound is passed. -/
structure StepsExact (cs : List Char) (v : Nat) : Prop where
  number : ∀ w, Wide.ofDigits? cs = some w ↔ w.toInt = v
  number_fits : (∃ w, Wide.ofDigits? cs = some w) ↔ (v : Int) ≤ Wide.greatest
  product : ∀ millis : Wide, millis.toInt = v →
    ∀ w, Wide.mul? millis 1000000 = some w ↔ w.toInt = (v : Int) * 1000000
  product_fits : ∀ millis : Wide, millis.toInt = v →
    ((∃ w, Wide.mul? millis 1000000 = some w) ↔ (v : Int) * 1000000 ≤ Wide.greatest)
  instant : ∀ nanos : Wide, nanos.toInt = (v : Int) * 1000000 →
    ∀ m, Moment.ofNanos? nanos = some m ↔ v ≤ 253402300799999 ∧ m = ⟨v * 1000000, 0⟩

theorem stepsExact {cs : List Char} (h : ∀ c ∈ cs, c.isDigit = true) :
    StepsExact cs (Text.digitsValue cs) := by
  have hmillion : (1000000 : Wide).toInt = 1000000 := by decide
  have hfits : ∀ {n : Int}, 0 ≤ n → ((∃ w : Wide, w.toInt = n) ↔ n ≤ Wide.greatest) := by
    intro n hn
    constructor
    · rintro ⟨w, rfl⟩
      exact (Wide.bounds w).2
    · intro hle
      apply Wide.exists_toInt_eq
      · unfold Wide.greatest; omega
      · exact hle
  have hproduct : ∀ millis : Wide, millis.toInt = Text.digitsValue cs → ∀ w,
      Wide.mul? millis 1000000 = some w ↔ w.toInt = (Text.digitsValue cs : Int) * 1000000 := by
    intro millis hmillis w
    rw [Wide.mul?_eq_some_iff, hmillion, hmillis]
  constructor
  case number => exact fun w => Wide.ofDigits?_eq_some_iff h
  case number_fits =>
    simp only [Wide.ofDigits?_eq_some_iff h]
    exact hfits (by omega)
  case product => exact hproduct
  case product_fits =>
    intro millis hmillis
    simp only [hproduct millis hmillis]
    exact hfits (by omega)
  case instant =>
    intro nanos hnanos m
    rw [ofNanos?_eq_some_iff, hnanos]
    unfold Calendar.firstNanos Calendar.lastNanos
    constructor
    · rintro ⟨⟨-, hlast⟩, hm⟩
      exact ⟨by omega, hm⟩
    · rintro ⟨hle, hm⟩
      exact ⟨⟨by omega, by omega⟩, hm⟩

/-- The text is a time in epoch milliseconds, in range or not, and never a time of another kind. -/
structure ReadsMillis (raw : String) (v : Nat) : Prop where
  accepted : (∃ m, readSince raw = .ok m) ↔ v ≤ 253402300799999
  exactly : ∀ m, readSince raw = .ok m → m = ⟨v * 1000000, 0⟩
  refused : ∀ fault, readSince raw = .error fault →
    fault = .sinceOutOfRange raw ∧ fault.failure.kind = .invalidArgument ∧
      fault.failure.source = none
  noStamp : Calendar.Rfc3339.read (Text.trim raw).toList = none

theorem readsMillis {raw : String} (h : Text.allDigits (Text.trim raw).toList = true) :
    ReadsMillis raw (Text.digitsValue (Text.trim raw).toList) := by
  have hread := readSince_of_digits h
  unfold Calendar.lastMillis at hread
  constructor
  case accepted =>
    rw [hread]
    split
    · next hle => exact iff_of_true ⟨_, rfl⟩ hle
    · next hgt => exact iff_of_false nofun hgt
  case exactly =>
    intro m hm
    rw [hread] at hm
    split at hm
    · exact (Except.ok.inj hm).symm
    · cases hm
  case refused =>
    intro fault hfault
    rw [hread] at hfault
    split at hfault
    · cases hfault
    · rw [← Except.error.inj hfault]
      exact ⟨rfl, rfl, rfl⟩
  case noStamp =>
    rw [Option.eq_none_iff_forall_ne_some]
    intro m hm
    obtain ⟨stamp, -, hchars, -⟩ := Calendar.Rfc3339.read_eq_some_iff.1 hm
    rw [hchars, stamp.not_allDigits] at h
    cases h

theorem millis_read_exactly {raw : String} {v : Nat}
    (hdigits : Text.allDigits (Text.trim raw).toList = true)
    (hvalue : Nat.ofDigitChars 10 (Text.trim raw).toList 0 = v) :
    ReadsMillis raw v ∧ StepsExact (Text.trim raw).toList v := by
  have hv : Text.digitsValue (Text.trim raw).toList = v := hvalue
  have hreads := readsMillis hdigits
  have hsteps := stepsExact (Text.allDigits_iff.1 hdigits).2
  rw [hv] at hreads hsteps
  exact ⟨hreads, hsteps⟩

/-- The last millisecond, with zeros and blanks around it; the first that is past the calendar; and
the first number that 128 bits do not hold. -/
theorem millis_read_exactly_bounds :
    readSince " 000253402300799999\n" = .ok ⟨253402300799999000000, 0⟩ ∧
    readSince "253402300800000" = .error (.sinceOutOfRange "253402300800000") ∧
    Wide.ofDigits? "170141183460469231731687303715884105728".toList = none := by
  refine ⟨?_, ?_, ?_⟩
  · obtain ⟨hreads, -⟩ := @millis_read_exactly " 000253402300799999\n" 253402300799999
      (by decide) (by decide)
    obtain ⟨m, hm⟩ := hreads.accepted.2 (by decide)
    rw [hm, hreads.exactly m hm]
    rfl
  · obtain ⟨hreads, -⟩ := @millis_read_exactly "253402300800000" 253402300800000
      (by decide) (by decide)
    cases hread : readSince "253402300800000" with
    | ok m => exact absurd (hreads.accepted.1 ⟨m, hread⟩) (by decide)
    | error fault => rw [(hreads.refused fault hread).1]
  · obtain ⟨-, hsteps⟩ := @millis_read_exactly "170141183460469231731687303715884105728"
      170141183460469231731687303715884105728 (by decide) (by decide)
    rw [Option.eq_none_iff_forall_ne_some]
    intro w hw
    exact absurd (hsteps.number_fits.1 ⟨w, hw⟩) (by decide)

end RepairConsole.Window
