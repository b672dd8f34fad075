import Mathlib.Order.Monotone.Basic
import RepairConsole.Calendar.Date
/-!
# Days and dates

The date of a day exists, and the number of that date is the day again. So is the date of the number
of a date, if the date exists.
-/

namespace RepairConsole.Calendar

/-! ## Months -/

/-- The days of months of these lengths. -/
def daysOf (lengths : List Nat) : Nat := lengths.foldr (· + ·) 0

theorem daysOf_cons (length : Nat) (later : List Nat) :
    daysOf (length :: later) = length + daysOf later := rfl

theorem daysOf_monthLengths (leap : Bool) :
    daysOf (monthLengths leap) = if leap then 366 else 365 := by
  cases leap <;> rfl

theorem monthLength_le (year month : Nat) : monthLength year month ≤ 31 := by
  have hall : ∀ leap, ∀ length ∈ monthLengths leap, length ≤ 31 := by decide
  rw [monthLength]
  split
  · omega
  · rw [List.getD_eq_getElem?_getD]
    cases hlength : (monthLengths (isLeap year))[month - 1]? with
    | none => simp
    | some length => exact hall _ _ (List.mem_of_getElem? hlength)

/-- The day is the one of the month that is left after the months before it. -/
theorem splitMonths_spec (month : Nat) {day : Nat} {lengths : List Nat} (h : day < daysOf lengths) :
    ∃ i rest, splitMonths month day lengths = (month + i, rest) ∧
      daysOf (lengths.take i) + rest = day ∧ i < lengths.length ∧ rest < lengths.getD i 0 := by
  -- On the lengths: a month that is over counts up and takes its days off those that are left.
  induction lengths generalizing month day with
  | nil => exact absurd h (Nat.not_lt_zero day)
  | cons length later ih =>
    rw [splitMonths]
    split
    · next hfirst => exact ⟨0, day, rfl, Nat.zero_add day, Nat.zero_lt_succ _, hfirst⟩
    · next hlater =>
      rw [daysOf_cons] at h
      have hrest : day - length < daysOf later := by omega
      obtain ⟨i, rest, hsplit, hsum, hlength, hrest⟩ := ih (month + 1) hrest
      refine ⟨i + 1, rest, ?_, ?_, ?_, ?_⟩
      · rw [hsplit, Nat.add_assoc, Nat.add_comm 1 i]
      · rw [List.take_succ_cons, daysOf_cons]
        omega
      · rw [List.length_cons]
        omega
      · simpa using hrest

/-- So many months that are over and fewer days than the next one has: these are found again. -/
theorem splitMonths_sum (month : Nat) {i rest : Nat} {lengths : List Nat} (hi : i < lengths.length)
    (hrest : rest < lengths.getD i 0) :
    splitMonths month (daysOf (lengths.take i) + rest) lengths = (month + i, rest) := by
  induction lengths generalizing month i with
  | nil => exact absurd hi (Nat.not_lt_zero i)
  | cons length later ih =>
    cases i with
    | zero =>
      have hfirst : rest < length := by simpa using hrest
      have hsum : daysOf (List.take 0 (length :: later)) + rest = rest := Nat.zero_add rest
      rw [hsum, splitMonths, if_pos hfirst, Nat.add_zero]
    | succ i =>
      have hlater : i < later.length := by simpa using hi
      have hrest' : rest < later.getD i 0 := by simpa using hrest
      rw [List.take_succ_cons, daysOf_cons, splitMonths, if_neg (by omega)]
      have hsum : length + daysOf (later.take i) + rest - length = daysOf (later.take i) + rest := by
        omega
      rw [hsum, ih (month + 1) hlater hrest', Nat.add_assoc, Nat.add_comm 1 i]

theorem daysOf_take_add_lt {i rest : Nat} {lengths : List Nat} (hi : i < lengths.length)
    (hrest : rest < lengths.getD i 0) : daysOf (lengths.take i) + rest < daysOf lengths := by
  induction lengths generalizing i with
  | nil => exact absurd hi (Nat.not_lt_zero i)
  | cons length later ih =>
    cases i with
    | zero =>
      have hfirst : rest < length := by simpa using hrest
      have hnone : daysOf (List.take 0 (length :: later)) = 0 := rfl
      rw [hnone, daysOf_cons]
      omega
    | succ i =>
      have hlt := ih (i := i) (by simpa using hi) (by simpa using hrest)
      simp only [List.take_succ_cons, daysOf_cons]
      omega

/-! ## Years -/

theorem daysBeforeYear_mono : Monotone daysBeforeYear := by
  refine monotone_nat_of_le_succ fun year => ?_
  rw [daysBeforeYear_succ]
  exact Nat.le_add_right _ _

theorem yearOfDay_lt {n year : Nat} (h : n < daysBeforeYear year) : yearOfDay n < year := by
  by_contra hnot
  exact absurd (daysBeforeYear_mono (Nat.le_of_not_lt hnot))
    (Nat.not_le.2 ((yearOfDay_le n).trans_lt h))

theorem yearOfDay_eq {n year : Nat} (hlow : daysBeforeYear year ≤ n)
    (hhigh : n < daysBeforeYear (year + 1)) : yearOfDay n = year := by
  have hle := yearOfDay_lt hhigh
  have hlt := lt_yearOfDay_succ n
  by_contra hne
  have hbefore : yearOfDay n + 1 ≤ year := by omega
  have hmono := daysBeforeYear_mono hbefore
  omega

/-- The days of the year before a day are fewer than the days of all its months. -/
theorem sub_yearOfDay_lt (n : Nat) :
    n - daysBeforeYear (yearOfDay n) < daysOf (monthLengths (isLeap (yearOfDay n))) := by
  have hle := yearOfDay_le n
  have hlt := lt_yearOfDay_succ n
  rw [daysBeforeYear_succ] at hlt
  rw [daysOf_monthLengths]
  omega

/-! ## Dates -/

/-- The parts of the date of a day: the year, the months of it that are over, and the days of the
month that are over. -/
theorem ofNumber_spec (n : Nat) :
    ∃ i rest, Date.ofNumber n = ⟨yearOfDay n, i + 1, rest + 1⟩ ∧ i < 12 ∧
      rest < (monthLengths (isLeap (yearOfDay n))).getD i 0 ∧
      daysBeforeYear (yearOfDay n) + daysBeforeMonth (isLeap (yearOfDay n)) (i + 1) + rest = n := by
  obtain ⟨i, rest, hsplit, hsum, hlength, hrest⟩ :=
    splitMonths_spec 1 (sub_yearOfDay_lt n)
  have hle := yearOfDay_le n
  have hmonths : daysBeforeMonth (isLeap (yearOfDay n)) (i + 1) =
      daysOf ((monthLengths (isLeap (yearOfDay n))).take i) := rfl
  refine ⟨i, rest, ?_, hlength, hrest, by omega⟩
  rw [Date.ofNumber]
  dsimp only
  rw [hsplit, Nat.add_comm 1 i]

theorem number_ofNumber (n : Nat) : (Date.ofNumber n).number = n := by
  obtain ⟨i, rest, hdate, -, -, hsum⟩ := ofNumber_spec n
  rw [hdate]
  exact hsum

theorem valid_ofNumber (n : Nat) : (Date.ofNumber n).valid = true := by
  obtain ⟨i, rest, hdate, hmonth, hday, -⟩ := ofNumber_spec n
  have hlength : monthLength (yearOfDay n) (i + 1) =
      (monthLengths (isLeap (yearOfDay n))).getD i 0 := rfl
  rw [hdate]
  simp only [Date.valid, Bool.and_eq_true, decide_eq_true_eq, hlength]
  omega

/-- The parts of a date that exists: months that are over, and days of the month that are over. -/
theorem Date.exists_parts {d : Date} (h : d.valid = true) :
    ∃ i rest, d = ⟨d.year, i + 1, rest + 1⟩ ∧ i < (monthLengths (isLeap d.year)).length ∧
      rest < (monthLengths (isLeap d.year)).getD i 0 ∧
      d.number = daysBeforeYear d.year + (daysOf ((monthLengths (isLeap d.year)).take i) + rest) := by
  obtain ⟨year, month, day⟩ := d
  simp only [Date.valid, Bool.and_eq_true, decide_eq_true_eq] at h
  obtain ⟨⟨⟨hmonth, hmonth'⟩, hday⟩, hday'⟩ := h
  obtain ⟨i, rfl⟩ : ∃ i, month = i + 1 := ⟨month - 1, by omega⟩
  obtain ⟨rest, rfl⟩ : ∃ rest, day = rest + 1 := ⟨day - 1, by omega⟩
  have hlength : (monthLengths (isLeap year)).length = 12 := rfl
  have hmonthLength : monthLength year (i + 1) = (monthLengths (isLeap year)).getD i 0 := rfl
  refine ⟨i, rest, rfl, ?_, ?_, ?_⟩
  · dsimp only
    omega
  · dsimp only
    omega
  · rw [← Nat.add_assoc]
    rfl

theorem ofNumber_number {d : Date} (h : d.valid = true) : Date.ofNumber d.number = d := by
  obtain ⟨i, rest, hd, hi, hrest, hnumber⟩ := Date.exists_parts h
  have hyear : yearOfDay d.number = d.year := by
    have hlt := daysOf_take_add_lt hi hrest
    have htotal := daysBeforeYear_succ d.year
    rw [daysOf_monthLengths] at hlt
    apply yearOfDay_eq
    · omega
    · omega
  have hleft : d.number - daysBeforeYear d.year =
      daysOf ((monthLengths (isLeap d.year)).take i) + rest := by omega
  rw [Date.ofNumber]
  dsimp only
  rw [hyear, hleft, splitMonths_sum 1 hi hrest, Nat.add_comm 1 i]
  exact hd.symm

theorem number_inj {d d' : Date} (h : d.valid = true) (h' : d'.valid = true)
    (heq : d.number = d'.number) : d = d' := by
  rw [← ofNumber_number h, heq, ofNumber_number h']

theorem Date.month_le {d : Date} (h : d.valid = true) : d.month ≤ 12 := by
  simp only [Date.valid, Bool.and_eq_true, decide_eq_true_eq] at h
  omega

theorem Date.day_le {d : Date} (h : d.valid = true) : d.day ≤ 31 := by
  have hday : d.day ≤ monthLength d.year d.month := by
    simp only [Date.valid, Bool.and_eq_true, decide_eq_true_eq] at h
    omega
  exact hday.trans (monthLength_le d.year d.month)

end RepairConsole.Calendar
