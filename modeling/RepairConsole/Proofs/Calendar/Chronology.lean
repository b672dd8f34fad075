import RepairConsole.Proofs.Calendar.Stamp
import RepairConsole.Proofs.Text.Order
/-!
# Stamps in order

A later second has a later stamp, compared character by character: the parts of a stamp come with
the largest first, and each of them has the same number of digits in all stamps.
-/

namespace RepairConsole.Calendar

/-! ## Dates -/

theorem daysOf_take_add_lt_take {i j rest : Nat} {lengths : List Nat} (hij : i < j)
    (hi : i < lengths.length) (hrest : rest < lengths.getD i 0) :
    daysOf (lengths.take i) + rest < daysOf (lengths.take j) := by
  have hlength : i < (lengths.take j).length := by
    rw [List.length_take]
    omega
  have htake : (lengths.take j).take i = lengths.take i := by
    rw [List.take_take, Nat.min_eq_left (Nat.le_of_lt hij)]
  have hday : rest < (lengths.take j).getD i 0 := by
    rwa [List.getD_eq_getElem?_getD, List.getElem?_take_of_lt hij, ← List.getD_eq_getElem?_getD]
  rw [← htake]
  exact daysOf_take_add_lt hlength hday

/-- Of two dates the earlier has the earlier year, or else the earlier month, or else the earlier
day. -/
theorem date_lt_of_number_lt {d d' : Date} (h : d.valid = true) (h' : d'.valid = true)
    (hlt : d.number < d'.number) :
    d.year < d'.year ∨ d.year = d'.year ∧
      (d.month < d'.month ∨ d.month = d'.month ∧ d.day < d'.day) := by
  obtain ⟨i, rest, hd, hi, hrest, hnumber⟩ := Date.exists_parts h
  obtain ⟨i', rest', hd', hi', hrest', hnumber'⟩ := Date.exists_parts h'
  obtain ⟨year, month, day⟩ := d
  obtain ⟨year', month', day'⟩ := d'
  simp only [Date.mk.injEq, true_and] at hd hd' hi hi' hrest hrest' hnumber hnumber' ⊢
  obtain ⟨rfl, rfl⟩ := hd
  obtain ⟨rfl, rfl⟩ := hd'
  rcases Nat.lt_trichotomy year year' with hyear | rfl | hyear
  · exact Or.inl hyear
  · rcases Nat.lt_trichotomy i i' with hmonth | rfl | hmonth
    · omega
    · omega
    · have hover := daysOf_take_add_lt_take hmonth hi' hrest'
      omega
  -- Every day of the earlier year comes before the later year, so this case cannot be.
  · have hover := daysOf_take_add_lt hi' hrest'
    have hnext := daysBeforeYear_succ year'
    have hmono := daysBeforeYear_mono hyear
    rw [daysOf_monthLengths] at hover
    rw [Nat.succ_eq_add_one, hnext] at hmono
    omega

/-! ## Times of day -/

namespace LocalTime

/-- One of two parts is less, or they are the same and what comes later decides. -/
def Then (m n : Nat) (later : Prop) : Prop := m < n ∨ m = n ∧ later

theorem Then.field {width m n mark : Nat} {later : Prop} (h : Then m n later)
    (hm : (Nat.repr m).length ≤ width) (hn : (Nat.repr n).length ≤ width) {rest rest' : List Nat}
    (hlater : later → rest < rest') :
    Text.codes (Text.padDigits width m) ++ mark :: rest <
      Text.codes (Text.padDigits width n) ++ mark :: rest' := by
  apply Text.field_lt hm hn
  rcases h with hlt | ⟨heq, h⟩
  · exact Or.inl hlt
  · exact Or.inr ⟨heq, List.cons_lt_cons_self.2 (hlater h)⟩

variable {t t' : LocalTime}

/-- The earlier of two times is so by the first part in which they differ. -/
theorem parts_lt_of_seconds_lt (h : t.Valid) (h' : t'.Valid) (hlt : t.seconds < t'.seconds) :
    Then t.date.year t'.date.year (Then t.date.month t'.date.month (Then t.date.day t'.date.day
      (Then t.hour t'.hour (Then t.minute t'.minute (t.second < t'.second))))) := by
  obtain ⟨hdate, hhour, hminute, hsecond⟩ := h
  obtain ⟨hdate', hhour', hminute', hsecond'⟩ := h'
  unfold seconds at hlt
  unfold Then
  by_cases hnumber : t.date.number = t'.date.number
  · rw [number_inj hdate hdate' hnumber]
    omega
  · have hdates := date_lt_of_number_lt hdate hdate' (by omega)
    omega

/-- The numbers of the characters that are shown for a time. -/
def codes (t : LocalTime) : List Nat :=
  Text.codes (Text.padDigits 4 t.date.year) ++ '-'.toNat ::
    (Text.codes (Text.padDigits 2 t.date.month) ++ '-'.toNat ::
    (Text.codes (Text.padDigits 2 t.date.day) ++ ' '.toNat ::
    (Text.codes (Text.padDigits 2 t.hour) ++ ':'.toNat ::
    (Text.codes (Text.padDigits 2 t.minute) ++ ':'.toNat ::
    Text.codes (Text.padDigits 2 t.second)))))

theorem length_repr_le_two {n : Nat} (h : n < 100) : (Nat.repr n).length ≤ 2 :=
  (Nat.length_repr_le_iff (by decide)).2 h

theorem Valid.lengths (h : t.Valid) (hyear : t.date.year < 10000) :
    (Nat.repr t.date.year).length ≤ 4 ∧ (Nat.repr t.date.month).length ≤ 2 ∧
      (Nat.repr t.date.day).length ≤ 2 ∧ (Nat.repr t.hour).length ≤ 2 ∧
      (Nat.repr t.minute).length ≤ 2 ∧ (Nat.repr t.second).length ≤ 2 := by
  have hmonth := Date.month_le h.date
  have hday := Date.day_le h.date
  obtain ⟨-, hhour, hminute, hsecond⟩ := h
  refine ⟨(Nat.length_repr_le_iff (by decide)).2 hyear, ?_, ?_, ?_, ?_, ?_⟩
  all_goals
    apply length_repr_le_two
    omega

theorem codes_lt (h : t.Valid) (h' : t'.Valid) (hyear : t.date.year < 10000)
    (hyear' : t'.date.year < 10000) (hlt : t.seconds < t'.seconds) : t.codes < t'.codes := by
  obtain ⟨hy, hmo, hd, hh, hmi, hs⟩ := h.lengths hyear
  obtain ⟨hy', hmo', hd', hh', hmi', hs'⟩ := h'.lengths hyear'
  unfold codes
  apply (parts_lt_of_seconds_lt h h' hlt).field hy hy'
  intro hparts
  apply hparts.field hmo hmo'
  intro hparts
  apply hparts.field hd hd'
  intro hparts
  apply hparts.field hh hh'
  intro hparts
  apply hparts.field hmi hmi'
  intro hsecond
  have hlast : Text.codes (Text.padDigits 2 t.second) ++ [] <
      Text.codes (Text.padDigits 2 t'.second) ++ [] := Text.field_lt hs hs' (Or.inl hsecond)
  simpa using hlast

theorem length_codes (h : t.Valid) (hyear : t.date.year < 10000) : t.codes.length = 19 := by
  obtain ⟨hy, hmo, hd, hh, hmi, hs⟩ := h.lengths hyear
  simp only [codes, Text.codes, List.length_append, List.length_cons, List.length_map,
    Text.length_padDigits hy, Text.length_padDigits hmo, Text.length_padDigits hd,
    Text.length_padDigits hh, Text.length_padDigits hmi, Text.length_padDigits hs]

end LocalTime

/-! ## Stamps -/

/-- What a stamp shows. -/
def timeOfSeconds (seconds : Nat) : LocalTime :=
  .ofClock (Date.ofNumber (epochDay + seconds / 86400)) (seconds % 86400)

theorem codes_stampOfSeconds (seconds : Nat) :
    Text.codes (stampOfSeconds seconds) = (timeOfSeconds seconds).codes := by
  simp [stampOfSeconds, timeOfSeconds, LocalTime.ofClock, LocalTime.codes, Text.codes, toString]

theorem valid_timeOfSeconds (seconds : Nat) : (timeOfSeconds seconds).Valid :=
  LocalTime.valid_ofClock (valid_ofNumber _) (Nat.mod_lt seconds (by decide))

theorem seconds_timeOfSeconds (seconds : Nat) :
    (timeOfSeconds seconds).seconds = epochDay * 86400 + seconds := by
  rw [timeOfSeconds, LocalTime.seconds_ofClock, number_ofNumber]
  omega

theorem year_timeOfSeconds {seconds : Nat} (h : seconds ≤ lastMillis / 1000) :
    (timeOfSeconds seconds).date.year < 10000 :=
  yearOfDay_lt (epochDay_add_lt h)

theorem length_stampOfSeconds {seconds : Nat} (h : seconds ≤ lastMillis / 1000) :
    (stampOfSeconds seconds).length = 19 := by
  have hcodes := LocalTime.length_codes (valid_timeOfSeconds seconds) (year_timeOfSeconds h)
  rw [← codes_stampOfSeconds, Text.codes, List.length_map] at hcodes
  exact hcodes

theorem stampOfSeconds_lt {s t : Nat} (hlt : s < t) (ht : t ≤ lastMillis / 1000) :
    Text.codes (stampOfSeconds s) < Text.codes (stampOfSeconds t) := by
  rw [codes_stampOfSeconds, codes_stampOfSeconds]
  apply LocalTime.codes_lt (valid_timeOfSeconds s) (valid_timeOfSeconds t)
    (year_timeOfSeconds (by omega)) (year_timeOfSeconds ht)
  rw [seconds_timeOfSeconds, seconds_timeOfSeconds]
  omega

end RepairConsole.Calendar
