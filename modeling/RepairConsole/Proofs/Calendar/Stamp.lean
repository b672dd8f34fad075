import RepairConsole.Proofs.Calendar.Date
import RepairConsole.Proofs.Calendar.Rfc3339
import RepairConsole.Proofs.Text.Numerals
/-!
# Times that are written are read back

What a clock shows is a time in RFC 3339 once its offset stands after it, and the reader takes it
for the instant that the clock shows. So is the text that is shown for a second, with `Z` after it.
-/

namespace RepairConsole.Calendar

open Rfc3339 (Digits Stamp Zone)

/-! ## The ends of a time -/

/-- A time starts with a digit. -/
theorem exists_head {stamp : Stamp} (h : stamp.Valid) :
    ∃ first, stamp.chars.head? = some first ∧ Text.isBlank first = false := by
  obtain ⟨first, after, hyear⟩ := List.exists_cons_of_length_eq_add_one h.year.length
  have hfirst := h.year.digit first (by simp [hyear])
  exact ⟨first, by simp [Stamp.chars, Stamp.dateChars, hyear], Text.isBlank_of_isDigit hfirst⟩

/-- An offset ends with a letter or a digit. -/
theorem exists_getLast {zone : Zone} (h : zone.Valid) :
    ∃ last, zone.chars.getLast? = some last ∧ Text.isBlank last = false := by
  cases zone with
  | utc letter => rcases h with rfl | rfl <;> exact ⟨_, rfl, by decide⟩
  | shifted sign hours minutes =>
    obtain ⟨-, -, hminutes, -⟩ := h
    have hne : minutes ≠ [] := List.ne_nil_of_length_eq_add_one hminutes.length
    have hlast := List.getLast?_eq_some_getLast hne
    have hdigit := hminutes.digit _ (List.getLast_mem hne)
    refine ⟨minutes.getLast hne, ?_, Text.isBlank_of_isDigit hdigit⟩
    simp [Zone.chars, List.getLast?_append, List.getLast?_cons, hlast]

/-- Nothing is trimmed off a time. -/
theorem trim_of_chars {s : String} {stamp : Stamp} (h : stamp.Valid) (hs : s.toList = stamp.chars) :
    Text.trim s = s := by
  obtain ⟨first, hfirst, hfirstBlank⟩ := exists_head h
  obtain ⟨last, hlast, hlastBlank⟩ := exists_getLast h.zone
  refine Text.trim_of_ends (by rw [hs, hfirst]) ?_ hfirstBlank hlastBlank
  rw [hs, Stamp.chars]
  simp [List.getLast?_append, List.getLast?_cons, hlast]

/-! ## Local times -/

theorem digits_padDigits {width n : Nat} (h : (Nat.repr n).length ≤ width) :
    Digits width (Text.padDigits width n).toList :=
  ⟨Text.length_padDigits h, fun _ => Text.isDigit_of_mem_padDigits⟩

theorem digits_pair {n : Nat} (h : n < 100) : Digits 2 (Text.padDigits 2 n).toList :=
  digits_padDigits ((Nat.length_repr_le_iff (by decide)).2 h)

/-- What a clock and a calendar on the wall show, to the second. -/
structure LocalTime where
  date : Date
  hour : Nat
  minute : Nat
  second : Nat

namespace LocalTime

structure Valid (t : LocalTime) : Prop where
  date : t.date.valid = true
  hour : t.hour ≤ 23
  minute : t.minute ≤ 59
  second : t.second ≤ 59

/-- The seconds since the start of the year 0. -/
def seconds (t : LocalTime) : Nat :=
  t.date.number * 86400 + (t.hour * 3600 + t.minute * 60 + t.second)

/-- The time after so many seconds of a day. -/
def ofClock (date : Date) (clock : Nat) : LocalTime :=
  ⟨date, clock / 3600, clock % 3600 / 60, clock % 60⟩

def stamp (t : LocalTime) (separator : Char) (fraction : List Char) (zone : Zone) : Stamp where
  year := (Text.padDigits 4 t.date.year).toList
  month := (Text.padDigits 2 t.date.month).toList
  day := (Text.padDigits 2 t.date.day).toList
  separator
  hour := (Text.padDigits 2 t.hour).toList
  minute := (Text.padDigits 2 t.minute).toList
  second := (Text.padDigits 2 t.second).toList
  fraction
  zone

theorem valid_ofClock {date : Date} {clock : Nat} (hdate : date.valid = true)
    (hclock : clock < 86400) : (ofClock date clock).Valid := by
  refine ⟨hdate, ?_, ?_, ?_⟩
  all_goals simp only [ofClock]
  all_goals omega

theorem seconds_ofClock (date : Date) (clock : Nat) :
    (ofClock date clock).seconds = date.number * 86400 + clock := by
  have hclock : clock / 3600 * 3600 + clock % 3600 / 60 * 60 + clock % 60 = clock := by omega
  unfold seconds ofClock
  rw [hclock]

/-- No two times are the same second. -/
theorem seconds_inj {t t' : LocalTime} (h : t.Valid) (h' : t'.Valid)
    (heq : t.seconds = t'.seconds) : t = t' := by
  obtain ⟨hdate, hhour, hminute, hsecond⟩ := h
  obtain ⟨hdate', hhour', hminute', hsecond'⟩ := h'
  obtain ⟨date, hour, minute, second⟩ := t
  obtain ⟨date', hour', minute', second'⟩ := t'
  unfold seconds at heq
  dsimp only at *
  have hnumber : date.number = date'.number := by omega
  obtain rfl := number_inj hdate hdate' hnumber
  simp only [mk.injEq, true_and]
  omega

section Stamp

variable {t : LocalTime} {separator : Char} {fraction : List Char} {zone : Zone}

theorem date_stamp : (t.stamp separator fraction zone).date = t.date := by
  simp only [stamp, Stamp.date, Text.digitsValue_padDigits]

theorem isLeap_stamp (h : t.Valid) : (t.stamp separator fraction zone).isLeap = false := by
  have hsecond : t.second ≠ 60 := by
    have hle := h.second
    omega
  simpa only [stamp, Stamp.isLeap, Text.digitsValue_padDigits, beq_eq_false_iff_ne] using hsecond

theorem valid_stamp (h : t.Valid) (hyear : t.date.year < 10000) (hseparator : separator.toNat < 128)
    (hfraction : ∀ c ∈ fraction, c.isDigit = true) (hzone : zone.Valid) :
    (t.stamp separator fraction zone).Valid := by
  have hmonth := Date.month_le h.date
  have hday := Date.day_le h.date
  have hhour := h.hour
  have hminute := h.minute
  have hsecond := h.second
  -- The texts of the parts go first, then only bounds on numbers are left.
  constructor
  case onCalendar => rw [date_stamp, h.date]
  case leap => simp [isLeap_stamp h]
  case zone => exact hzone
  case separator => exact hseparator
  case fraction => exact hfraction
  all_goals simp only [stamp, Text.digitsValue_padDigits]
  case year => exact digits_padDigits ((Nat.length_repr_le_iff (by decide)).2 hyear)
  case month => exact digits_pair (by omega)
  case day => exact digits_pair (by omega)
  case hour => exact digits_pair (by omega)
  case minute => exact digits_pair (by omega)
  case second => exact digits_pair (by omega)
  all_goals omega

theorem moment_stamp (h : t.Valid) : (t.stamp separator fraction zone).moment =
    ⟨(t.seconds - zone.seconds - epochDay * 86400) * 1000000000 + Rfc3339.fractionNanos fraction,
      zone.seconds⟩ := by
  have hutc : (t.stamp separator fraction zone).utc = t.seconds - zone.seconds := by
    rw [Stamp.utc, date_stamp, isLeap_stamp h, if_neg Bool.false_ne_true, seconds]
    simp only [stamp, Text.digitsValue_padDigits]
    omega
  rw [Stamp.moment, hutc, isLeap_stamp h]
  rfl

end Stamp

/-- Any second from the start of the year 0 on is a time. -/
theorem exists_seconds (n : Nat) : ∃ t : LocalTime, t.Valid ∧ t.seconds = n := by
  refine ⟨ofClock (Date.ofNumber (n / 86400)) (n % 86400), ?_, ?_⟩
  · apply valid_ofClock (valid_ofNumber _)
    omega
  · rw [seconds_ofClock, number_ofNumber]
    omega

end LocalTime

/-! ## Milliseconds and offsets -/

/-- The digits of a millisecond of a second, and so many zeros after them. -/
def millisDigits (millis zeros : Nat) : List Char :=
  (Text.padDigits 3 millis).toList ++ List.replicate zeros '0'

theorem isDigit_of_mem_millisDigits {millis zeros : Nat} {c : Char}
    (h : c ∈ millisDigits millis zeros) : c.isDigit = true := by
  rcases List.mem_append.1 h with hdigit | hzero
  · exact Text.isDigit_of_mem_padDigits hdigit
  · rw [List.eq_of_mem_replicate hzero]
    decide

/-- The zeros that count are put in where they are not written. -/
theorem fractionNanos_millisDigits {millis : Nat} (h : millis < 1000) (zeros : Nat) :
    Rfc3339.fractionNanos (millisDigits millis zeros) = millis * 1000000 := by
  have hlength : (Text.padDigits 3 millis).toList.length = 3 :=
    Text.length_padDigits ((Nat.length_repr_le_iff (by decide)).2 h)
  have hkept : (millisDigits millis zeros).take 9 =
      (Text.padDigits 3 millis).toList ++ List.replicate (min 6 zeros) '0' := by
    rw [millisDigits, List.take_append, hlength, List.take_replicate, List.take_of_length_le]
    rw [hlength]
    decide
  have hzeros : min 6 zeros + (9 - (3 + min 6 zeros)) = 6 := by omega
  rw [Rfc3339.fractionNanos, hkept, List.length_append, hlength, List.length_replicate,
    List.append_assoc, List.replicate_append_replicate, hzeros, Text.digitsValue_append,
    Text.digitsValue_padDigits]
  simp only [List.replicate_succ, List.replicate_zero, List.foldl_cons, List.foldl_nil]
  have hzero : '0'.toNat - 48 = 0 := by decide
  omega

/-- The offset of so many minutes, west of UTC if they are negative. -/
def zoneOfMinutes (minutes : Int) : Zone :=
  .shifted (if 0 ≤ minutes then '+' else '-') (Text.padDigits 2 (minutes.natAbs / 60)).toList
    (Text.padDigits 2 (minutes.natAbs % 60)).toList

theorem valid_zoneOfMinutes {minutes : Int} (h : minutes.natAbs < 1440) :
    (zoneOfMinutes minutes).Valid := by
  refine ⟨?_, digits_pair (by omega), digits_pair (by omega), ?_, ?_⟩
  · split
    · exact Or.inl rfl
    · exact Or.inr rfl
  · rw [Text.digitsValue_padDigits]
    omega
  · rw [Text.digitsValue_padDigits]
    omega

theorem seconds_zoneOfMinutes (minutes : Int) : (zoneOfMinutes minutes).seconds = minutes * 60 := by
  unfold zoneOfMinutes Zone.seconds
  simp only [Text.digitsValue_padDigits]
  by_cases hsign : 0 ≤ minutes
  · rw [if_pos hsign, if_pos rfl]
    omega
  · rw [if_neg hsign, if_neg (by decide)]
    omega

/-! ## Shown times -/

/-- A date and a second of that day as they are shown, with `Z` after them. -/
def shown (date : Date) (clock : Nat) : Stamp :=
  (LocalTime.ofClock date clock).stamp ' ' [] (.utc 'Z')

theorem toList_stampOfSeconds (seconds : Nat) :
    (stampOfSeconds seconds ++ "Z").toList =
      (shown (Date.ofNumber (epochDay + seconds / 86400)) (seconds % 86400)).chars := by
  simp [stampOfSeconds, shown, LocalTime.ofClock, LocalTime.stamp, Stamp.chars, Stamp.dateChars, Stamp.clockChars,
    Stamp.fractionChars, Rfc3339.Zone.chars, toString]

/-- No day with a time that can be shown is past the year 9999. -/
theorem epochDay_add_lt {seconds : Nat} (h : seconds ≤ lastMillis / 1000) :
    epochDay + seconds / 86400 < daysBeforeYear 10000 := by
  have hlast : epochDay + lastMillis / 1000 / 86400 < daysBeforeYear 10000 := by decide
  have hle : seconds / 86400 ≤ lastMillis / 1000 / 86400 := Nat.div_le_div_right h
  exact (Nat.add_le_add_left hle epochDay).trans_lt hlast

theorem exists_stamp {seconds : Nat} (h : seconds ≤ lastMillis / 1000) :
    ∃ stamp : Stamp, stamp.Valid ∧ (stampOfSeconds seconds ++ "Z").toList = stamp.chars ∧
      stamp.moment = ⟨seconds * 1000000000, 0⟩ := by
  have hyear : (Date.ofNumber (epochDay + seconds / 86400)).year < 10000 :=
    yearOfDay_lt (epochDay_add_lt h)
  have hvalid := LocalTime.valid_ofClock (valid_ofNumber (epochDay + seconds / 86400))
    (Nat.mod_lt seconds (by decide))
  refine ⟨_, ?_, toList_stampOfSeconds seconds, ?_⟩
  · exact LocalTime.valid_stamp hvalid hyear (by decide) (List.forall_mem_nil _) (Or.inl rfl)
  · have hnone : (Rfc3339.fractionNanos [] : Int) = 0 := by decide
    have hutc : (Zone.utc 'Z').seconds = 0 := rfl
    rw [shown, LocalTime.moment_stamp hvalid, LocalTime.seconds_ofClock, number_ofNumber, hnone,
      hutc]
    congr 1
    omega

end RepairConsole.Calendar
