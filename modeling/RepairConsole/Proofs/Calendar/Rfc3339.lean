import RepairConsole.Calendar.Rfc3339
/-!
# What a time in RFC 3339 looks like

The parts of a time as they are written, and what they have to keep. The reader accepts the texts
that can be put together from such parts, and no others.
-/

namespace RepairConsole.Calendar.Rfc3339

/-- A run of digits of a given width. -/
structure Digits (width : Nat) (cs : List Char) : Prop where
  length : cs.length = width
  digit : ∀ c ∈ cs, c.isDigit = true

/-- The offset as it is written. -/
inductive Zone where
  | utc (letter : Char)
  | shifted (sign : Char) (hours minutes : List Char)

namespace Zone

def chars : Zone → List Char
  | utc letter => [letter]
  | shifted sign hours minutes => sign :: (hours ++ ':' :: minutes)

def Valid : Zone → Prop
  | utc letter => letter = 'Z' ∨ letter = 'z'
  | shifted sign hours minutes =>
    (sign = '+' ∨ sign = '-') ∧ Digits 2 hours ∧ Digits 2 minutes ∧
      Text.digitsValue hours ≤ 23 ∧ Text.digitsValue minutes ≤ 59

def seconds : Zone → Int
  | utc _ => 0
  | shifted sign hours minutes =>
    let seconds : Int := Text.digitsValue hours * 3600 + Text.digitsValue minutes * 60
    if sign = '+' then seconds else -seconds

end Zone

/-- A time as it is written. -/
structure Stamp where
  year : List Char
  month : List Char
  day : List Char
  separator : Char
  hour : List Char
  minute : List Char
  second : List Char
  /-- The digits after the point; there is no point if there are none. -/
  fraction : List Char
  zone : Zone

namespace Stamp

def dateChars (s : Stamp) : List Char := s.year ++ '-' :: (s.month ++ '-' :: s.day)

def clockChars (s : Stamp) : List Char := s.hour ++ ':' :: (s.minute ++ ':' :: s.second)

def fractionChars (fraction : List Char) : List Char :=
  if fraction.isEmpty then [] else '.' :: fraction

/-- The text of a time. -/
def chars (s : Stamp) : List Char :=
  s.dateChars ++ s.separator :: (s.clockChars ++ (fractionChars s.fraction ++ s.zone.chars))

def date (s : Stamp) : Date :=
  ⟨Text.digitsValue s.year, Text.digitsValue s.month, Text.digitsValue s.day⟩

def isLeap (s : Stamp) : Bool := Text.digitsValue s.second == 60

/-- The second of UTC, counted from the start of the year 0; a leap second counts as the one
before it. -/
def utc (s : Stamp) : Int :=
  s.date.number * 86400 +
      (Text.digitsValue s.hour * 3600 + Text.digitsValue s.minute * 60 +
        if s.isLeap then 59 else Text.digitsValue s.second : Nat) - s.zone.seconds

def moment (s : Stamp) : Moment where
  nanos := (s.utc - epochDay * 86400) * 1000000000 +
    (if s.isLeap then 999999999 else fractionNanos s.fraction : Nat)
  offset := s.zone.seconds

structure Valid (s : Stamp) : Prop where
  year : Digits 4 s.year
  month : Digits 2 s.month
  day : Digits 2 s.day
  onCalendar : s.date.valid = true
  separator : s.separator.toNat < 128
  hour : Digits 2 s.hour
  minute : Digits 2 s.minute
  second : Digits 2 s.second
  hour_le : Text.digitsValue s.hour ≤ 23
  minute_le : Text.digitsValue s.minute ≤ 59
  second_le : Text.digitsValue s.second ≤ 60
  fraction : ∀ c ∈ s.fraction, c.isDigit = true
  zone : s.zone.Valid
  leap : s.isLeap = true → endsMonth s.utc = true

end Stamp

/-! ## Digits and marks -/

theorem takeDigits_eq_some_iff {count n : Nat} {cs rest : List Char} :
    takeDigits count cs = some (n, rest) ↔
      ∃ ds, Digits count ds ∧ cs = ds ++ rest ∧ n = Text.digitsValue ds := by
  rw [takeDigits]
  constructor
  · intro h
    split at h
    · next hfront =>
      obtain ⟨rfl, rfl⟩ := Prod.mk.inj (Option.some.inj h)
      exact ⟨cs.take count, ⟨hfront.1, List.all_eq_true.1 hfront.2⟩, by simp, rfl⟩
    · cases h
  · rintro ⟨ds, ⟨rfl, hdigit⟩, rfl, rfl⟩
    rw [List.take_left, List.drop_left, if_pos ⟨rfl, List.all_eq_true.2 hdigit⟩]

theorem takeDigits_append {count : Nat} {ds : List Char} (h : Digits count ds)
    (rest : List Char) : takeDigits count (ds ++ rest) = some (Text.digitsValue ds, rest) :=
  takeDigits_eq_some_iff.2 ⟨ds, h, rfl, rfl⟩

theorem takeChar_eq_some_iff {c : Char} {cs rest : List Char} :
    takeChar c cs = some rest ↔ cs = c :: rest := by
  cases cs with
  | nil => simp [takeChar]
  | cons d ds =>
    rw [takeChar, List.cons.injEq]
    split
    · next h => simp [h]
    · next h => simp [h]

theorem takeChar_cons (c : Char) (rest : List Char) : takeChar c (c :: rest) = some rest :=
  takeChar_eq_some_iff.2 rfl

theorem takeSeparator_cons {c : Char} (h : c.toNat < 128) (rest : List Char) :
    takeSeparator (c :: rest) = some rest :=
  if_pos h

theorem takeSeparator_sound {cs rest : List Char} (h : takeSeparator cs = some rest) :
    ∃ c : Char, c.toNat < 128 ∧ cs = c :: rest := by
  cases cs with
  | nil => cases h
  | cons c ds =>
    rw [takeSeparator] at h
    split at h
    · next hc => exact ⟨c, hc, by rw [Option.some.inj h]⟩
    · cases h

/-! ## Dates and clocks -/

theorem takeDate_append {year month day : List Char} {date : Date} (hyear : Digits 4 year)
    (hmonth : Digits 2 month) (hday : Digits 2 day)
    (hdate : date = ⟨Text.digitsValue year, Text.digitsValue month, Text.digitsValue day⟩)
    (hvalid : date.valid = true) (rest : List Char) :
    takeDate (year ++ '-' :: (month ++ '-' :: (day ++ rest))) = some (date, rest) := by
  subst hdate
  simp only [takeDate, Option.bind_eq_bind, takeDigits_append hyear, takeDigits_append hmonth,
    takeDigits_append hday, takeChar_cons, Option.bind_some]
  rw [if_pos hvalid]

theorem takeDate_sound {date : Date} {cs rest : List Char} (h : takeDate cs = some (date, rest)) :
    ∃ year month day, Digits 4 year ∧ Digits 2 month ∧ Digits 2 day ∧
      date = ⟨Text.digitsValue year, Text.digitsValue month, Text.digitsValue day⟩ ∧
      date.valid = true ∧ cs = year ++ '-' :: (month ++ '-' :: (day ++ rest)) := by
  simp only [takeDate, Option.bind_eq_bind, Option.bind_eq_some_iff] at h
  obtain ⟨⟨y, cs₁⟩, hy, cs₂, hmark₁, ⟨m, cs₃⟩, hm, cs₄, hmark₂, ⟨d, cs₅⟩, hd, h⟩ := h
  obtain ⟨year, hyear, rfl, rfl⟩ := takeDigits_eq_some_iff.1 hy
  obtain rfl := takeChar_eq_some_iff.1 hmark₁
  obtain ⟨month, hmonth, rfl, rfl⟩ := takeDigits_eq_some_iff.1 hm
  obtain rfl := takeChar_eq_some_iff.1 hmark₂
  obtain ⟨day, hday, rfl, rfl⟩ := takeDigits_eq_some_iff.1 hd
  split at h
  · next hvalid =>
    obtain ⟨rfl, rfl⟩ := Prod.mk.inj (Option.some.inj h)
    exact ⟨year, month, day, hyear, hmonth, hday, rfl, hvalid, rfl⟩
  · cases h

theorem takeClock_append {hour minute second : List Char} (hhour : Digits 2 hour)
    (hminute : Digits 2 minute) (hsecond : Digits 2 second) (hhour_le : Text.digitsValue hour ≤ 23)
    (hminute_le : Text.digitsValue minute ≤ 59) (hsecond_le : Text.digitsValue second ≤ 60)
    (rest : List Char) :
    takeClock (hour ++ ':' :: (minute ++ ':' :: (second ++ rest))) =
      some ((Text.digitsValue hour, Text.digitsValue minute, Text.digitsValue second), rest) := by
  simp only [takeClock, Option.bind_eq_bind, takeDigits_append hhour, takeDigits_append hminute,
    takeDigits_append hsecond, takeChar_cons, Option.bind_some]
  rw [if_pos ⟨hhour_le, hminute_le, hsecond_le⟩]

theorem takeClock_sound {clock : Nat × Nat × Nat} {cs rest : List Char}
    (h : takeClock cs = some (clock, rest)) :
    ∃ hour minute second, Digits 2 hour ∧ Digits 2 minute ∧ Digits 2 second ∧
      clock = (Text.digitsValue hour, Text.digitsValue minute, Text.digitsValue second) ∧
      Text.digitsValue hour ≤ 23 ∧ Text.digitsValue minute ≤ 59 ∧ Text.digitsValue second ≤ 60 ∧
      cs = hour ++ ':' :: (minute ++ ':' :: (second ++ rest)) := by
  simp only [takeClock, Option.bind_eq_bind, Option.bind_eq_some_iff] at h
  obtain ⟨⟨n₁, cs₁⟩, h₁, cs₂, hmark₁, ⟨n₂, cs₃⟩, h₂, cs₄, hmark₂, ⟨n₃, cs₅⟩, h₃, h⟩ := h
  obtain ⟨hour, hhour, rfl, rfl⟩ := takeDigits_eq_some_iff.1 h₁
  obtain rfl := takeChar_eq_some_iff.1 hmark₁
  obtain ⟨minute, hminute, rfl, rfl⟩ := takeDigits_eq_some_iff.1 h₂
  obtain rfl := takeChar_eq_some_iff.1 hmark₂
  obtain ⟨second, hsecond, rfl, rfl⟩ := takeDigits_eq_some_iff.1 h₃
  split at h
  · next hle =>
    obtain ⟨rfl, rfl⟩ := Prod.mk.inj (Option.some.inj h)
    exact ⟨hour, minute, second, hhour, hminute, hsecond, rfl, hle.1, hle.2.1, hle.2.2, rfl⟩
  · cases h

/-! ## Fractions and offsets -/

theorem fractionChars_nil : Stamp.fractionChars [] = [] := rfl

theorem fractionChars_of_ne_nil {fraction : List Char} (h : fraction ≠ []) :
    Stamp.fractionChars fraction = '.' :: fraction :=
  if_neg (by simpa using h)

/-- What follows a fraction is neither a digit nor a point. -/
def Zone.Starts (cs : List Char) : Prop := ∃ c rest, cs = c :: rest ∧ c.isDigit = false ∧ c ≠ '.'

theorem Zone.Valid.starts {zone : Zone} (h : zone.Valid) : Zone.Starts zone.chars := by
  cases zone with
  | utc letter => rcases h with rfl | rfl <;> exact ⟨_, [], rfl, by decide, by decide⟩
  | shifted sign hours minutes =>
    rcases h.1 with rfl | rfl <;> exact ⟨_, _, rfl, by decide, by decide⟩

theorem takeFraction_append {fraction rest : List Char} (h : ∀ c ∈ fraction, c.isDigit = true)
    (hrest : Zone.Starts rest) :
    takeFraction (Stamp.fractionChars fraction ++ rest) = some (fractionNanos fraction, rest) := by
  obtain ⟨c, rest, rfl, hdigit, hpoint⟩ := hrest
  by_cases hnil : fraction = []
  · subst hnil
    rw [fractionChars_nil, List.nil_append, takeFraction]
    · rfl
    · exact fun rest heq => hpoint (List.cons.inj heq).1
  · rw [Stamp.fractionChars, if_neg (by simpa using hnil), List.cons_append, takeFraction,
      List.takeWhile_append_of_pos h, List.dropWhile_append_of_pos h]
    simp [hdigit, hnil]

theorem takeFraction_sound {cs rest : List Char} {nanos : Nat}
    (h : takeFraction cs = some (nanos, rest)) :
    ∃ fraction, (∀ c ∈ fraction, c.isDigit = true) ∧ nanos = fractionNanos fraction ∧
      cs = Stamp.fractionChars fraction ++ rest := by
  unfold takeFraction at h
  split at h
  · next digits =>
    dsimp only at h
    split at h
    · cases h
    · next hne =>
      obtain ⟨rfl, rfl⟩ := Prod.mk.inj (Option.some.inj h)
      refine ⟨digits.takeWhile Char.isDigit, ?_, rfl, ?_⟩
      · exact List.all_eq_true.1 List.all_takeWhile
      · rw [fractionChars_of_ne_nil (by simpa using hne), List.cons_append,
          List.takeWhile_append_dropWhile]
  · obtain ⟨rfl, rfl⟩ := Prod.mk.inj (Option.some.inj h)
    exact ⟨[], by simp, rfl, rfl⟩

/-- An offset that is not just a letter. -/
theorem readOffset_cons {sign : Char} {rest : List Char}
    (h : ¬ ((sign = 'Z' ∨ sign = 'z') ∧ rest = [])) :
    readOffset (sign :: rest) =
      (takeDigits 2 rest).bind fun (hours, rest) => (takeChar ':' rest).bind fun rest =>
        (takeDigits 2 rest).bind fun (minutes, rest) =>
          if hours ≤ 23 ∧ minutes ≤ 59 ∧ rest.isEmpty then
            let seconds : Int := hours * 3600 + minutes * 60
            if sign = '+' then some seconds else if sign = '-' then some (-seconds) else none
          else none := by
  rw [readOffset]
  · rfl
  · exact fun hsign hrest => h ⟨Or.inl hsign, hrest⟩
  · exact fun hsign hrest => h ⟨Or.inr hsign, hrest⟩

theorem readOffset_chars {zone : Zone} (h : zone.Valid) :
    readOffset zone.chars = some zone.seconds := by
  cases zone with
  | utc letter => rcases h with rfl | rfl <;> rfl
  | shifted sign hours minutes =>
    obtain ⟨hsign, hhours, hminutes, hhours_le, hminutes_le⟩ := h
    have hutc : ¬ ((sign = 'Z' ∨ sign = 'z') ∧ hours ++ ':' :: minutes = []) := by simp
    have hlast := takeDigits_append hminutes []
    rw [List.append_nil] at hlast
    rw [Zone.chars, readOffset_cons hutc, takeDigits_append hhours, Option.bind_some]
    dsimp only
    rw [takeChar_cons, Option.bind_some, hlast, Option.bind_some]
    dsimp only
    rw [if_pos ⟨hhours_le, hminutes_le, rfl⟩]
    rcases hsign with rfl | rfl <;> rfl

theorem readOffset_sound {cs : List Char} {seconds : Int} (h : readOffset cs = some seconds) :
    ∃ zone : Zone, zone.Valid ∧ cs = zone.chars ∧ seconds = zone.seconds := by
  cases cs with
  | nil => cases h
  | cons sign rest =>
    by_cases hutc : (sign = 'Z' ∨ sign = 'z') ∧ rest = []
    · obtain ⟨hletter, rfl⟩ := hutc
      refine ⟨.utc sign, hletter, rfl, ?_⟩
      rcases hletter with rfl | rfl <;> exact (Option.some.inj h).symm
    · rw [readOffset_cons hutc] at h
      obtain ⟨⟨n₁, cs₁⟩, h₁, hrest₁⟩ := Option.bind_eq_some_iff.1 h
      obtain ⟨cs₂, hmark, hrest₂⟩ := Option.bind_eq_some_iff.1 hrest₁
      obtain ⟨⟨n₂, cs₃⟩, h₂, hsigned⟩ := Option.bind_eq_some_iff.1 hrest₂
      obtain ⟨hours, hhours, rfl, rfl⟩ := takeDigits_eq_some_iff.1 h₁
      obtain rfl := takeChar_eq_some_iff.1 hmark
      obtain ⟨minutes, hminutes, rfl, rfl⟩ := takeDigits_eq_some_iff.1 h₂
      dsimp only at hsigned
      split at hsigned
      · next hle =>
        obtain ⟨hhours_le, hminutes_le, hend⟩ := hle
        obtain rfl := List.isEmpty_iff.1 hend
        have hvalid := fun hsign => (⟨hsign, hhours, hminutes, hhours_le, hminutes_le⟩ :
          (Zone.shifted sign hours minutes).Valid)
        rw [List.append_nil]
        split at hsigned
        · next hplus =>
          refine ⟨.shifted sign hours minutes, hvalid (Or.inl hplus), rfl, ?_⟩
          rw [Zone.seconds, if_pos hplus, Option.some.inj hsigned]
        · next hplus =>
          split at hsigned
          · next hminus =>
            refine ⟨.shifted sign hours minutes, hvalid (Or.inr hminus), rfl, ?_⟩
            rw [Zone.seconds, if_neg hplus, Option.some.inj hsigned]
          · cases hsigned
      · cases hsigned

/-! ## Times -/

theorem takeDate_dateChars {s : Stamp} (h : s.Valid) (rest : List Char) :
    takeDate (s.dateChars ++ rest) = some (s.date, rest) := by
  have hdate : s.date = ⟨Text.digitsValue s.year, Text.digitsValue s.month,
    Text.digitsValue s.day⟩ := rfl
  rw [Stamp.dateChars, ← takeDate_append h.year h.month h.day hdate h.onCalendar rest]
  simp

theorem takeClock_clockChars {s : Stamp} (h : s.Valid) (rest : List Char) :
    takeClock (s.clockChars ++ rest) =
      some ((Text.digitsValue s.hour, Text.digitsValue s.minute, Text.digitsValue s.second),
        rest) := by
  have happend :=
    takeClock_append h.hour h.minute h.second h.hour_le h.minute_le h.second_le rest
  rw [Stamp.clockChars, ← happend]
  simp

theorem read_chars {s : Stamp} (h : s.Valid) : read s.chars = some s.moment := by
  have hleap : ¬ (s.isLeap && !endsMonth s.utc) = true := by
    cases hs : s.isLeap with
    | false => simp
    | true => simp [h.leap hs]
  simp only [read, Stamp.chars, Option.bind_eq_bind, takeDate_dateChars h, Option.bind_some,
    takeSeparator_cons h.separator, takeClock_clockChars h,
    takeFraction_append h.fraction h.zone.starts, readOffset_chars h.zone]
  exact if_neg hleap

theorem read_sound {cs : List Char} {m : Moment} (h : read cs = some m) :
    ∃ s : Stamp, s.Valid ∧ cs = s.chars ∧ m = s.moment := by
  simp only [read, Option.bind_eq_bind, Option.bind_eq_some_iff] at h
  obtain ⟨⟨date, cs₁⟩, hdate, cs₂, hseparator, ⟨clock, cs₃⟩, hclock, ⟨nanos, cs₄⟩, hfraction,
    seconds, hzone, h⟩ := h
  obtain ⟨year, month, day, hyear, hmonth, hday, rfl, hvalid, rfl⟩ := takeDate_sound hdate
  obtain ⟨separator, hascii, rfl⟩ := takeSeparator_sound hseparator
  obtain ⟨hour, minute, second, hhour, hminute, hsecond, rfl, hhour_le, hminute_le, hsecond_le,
    rfl⟩ := takeClock_sound hclock
  obtain ⟨fraction, hdigits, rfl, rfl⟩ := takeFraction_sound hfraction
  obtain ⟨zone, hzoneValid, rfl, rfl⟩ := readOffset_sound hzone
  let s : Stamp := ⟨year, month, day, separator, hour, minute, second, fraction, zone⟩
  change (if (s.isLeap && !endsMonth s.utc) = true then none else some s.moment) = some m at h
  split at h
  · cases h
  · next hleap =>
    refine ⟨s, ?_, ?_, (Option.some.inj h).symm⟩
    · refine ⟨hyear, hmonth, hday, hvalid, hascii, hhour, hminute, hsecond, hhour_le, hminute_le,
        hsecond_le, hdigits, hzoneValid, fun hs => ?_⟩
      simpa [hs] using hleap
    · simp [s, Stamp.chars, Stamp.dateChars, Stamp.clockChars]

theorem read_eq_some_iff {cs : List Char} {m : Moment} :
    read cs = some m ↔ ∃ s : Stamp, s.Valid ∧ cs = s.chars ∧ m = s.moment := by
  constructor
  · exact read_sound
  · rintro ⟨s, h, rfl, rfl⟩
    exact read_chars h

end RepairConsole.Calendar.Rfc3339
