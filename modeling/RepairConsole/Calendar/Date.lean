/-!
# Calendar dates

The proleptic Gregorian calendar from the year 0 on, and the number of a day counted from
the first of January of the year 0.
-/

namespace RepairConsole.Calendar

/-- A year, a month from 1 to 12, and a day of that month from 1 on. -/
structure Date where
  year : Nat
  month : Nat
  day : Nat
  deriving DecidableEq, Repr

def isLeap (year : Nat) : Bool := year % 4 == 0 && (year % 100 != 0 || year % 400 == 0)

/-- The lengths of the months, January first. -/
def monthLengths (leap : Bool) : List Nat :=
  [31, if leap then 29 else 28, 31, 30, 31, 30, 31, 31, 30, 31, 30, 31]

/-- The length of a month; nothing for a number that is no month. -/
def monthLength (year month : Nat) : Nat :=
  if month = 0 then 0 else (monthLengths (isLeap year)).getD (month - 1) 0

/-- The days of the months before `month`. -/
def daysBeforeMonth (leap : Bool) (month : Nat) : Nat :=
  ((monthLengths leap).take (month - 1)).foldr (· + ·) 0

/-- The days of the years before `year`: each has 365, and one more for every leap year. -/
def daysBeforeYear (year : Nat) : Nat :=
  365 * year + (year + 3) / 4 + (year + 399) / 400 - (year + 99) / 100

/-- The year that a day falls in. The guess is at most one year too low. -/
def yearOfDay (n : Nat) : Nat :=
  let guess := n * 400 / 146097 - 1
  if n < daysBeforeYear (guess + 1) then guess
  else if n < daysBeforeYear (guess + 2) then guess + 1
  else guess + 2

/-- The month and the day in it, from a count of days within the months `lengths`. -/
def splitMonths (month day : Nat) : List Nat → Nat × Nat
  | [] => (month, day)
  | length :: later =>
    if day < length then (month, day) else splitMonths (month + 1) (day - length) later

namespace Date

/-- A date that exists. -/
def valid (d : Date) : Bool :=
  1 ≤ d.month && d.month ≤ 12 && 1 ≤ d.day && d.day ≤ monthLength d.year d.month

/-- The days before this one, counted from the first of January of the year 0. -/
def number (d : Date) : Nat :=
  daysBeforeYear d.year + daysBeforeMonth (isLeap d.year) d.month + (d.day - 1)

/-- The date of a day, from its number. -/
def ofNumber (n : Nat) : Date :=
  let year := yearOfDay n
  let (month, day) := splitMonths 1 (n - daysBeforeYear year) (monthLengths (isLeap year))
  ⟨year, month, day + 1⟩

end Date

/-- The number of the first of January 1970, where epoch time starts. -/
def epochDay : Nat := 719528

example : Date.number ⟨1970, 1, 1⟩ = epochDay := by decide
example : Date.ofNumber epochDay = ⟨1970, 1, 1⟩ := by decide
example : Date.ofNumber 0 = ⟨0, 1, 1⟩ := by decide
example : Date.ofNumber (Date.number ⟨2000, 2, 29⟩) = ⟨2000, 2, 29⟩ := by decide
example : Date.ofNumber (Date.number ⟨9999, 12, 31⟩) = ⟨9999, 12, 31⟩ := by decide

theorem leaps_succ (year k : Nat) (hk : 0 < k) :
    (year + 1 + (k - 1)) / k = (year + (k - 1)) / k + (if year % k = 0 then 1 else 0) := by
  obtain ⟨q, r, hr, rfl⟩ : ∃ q r, r < k ∧ year = k * q + r :=
    ⟨year / k, year % k, Nat.mod_lt _ hk, (Nat.div_add_mod year k).symm⟩
  rw [Nat.mul_add_mod, Nat.mod_eq_of_lt hr, show k * q + r + 1 + (k - 1) = r + k * (q + 1) by
    rw [Nat.mul_add]; omega, Nat.add_assoc, Nat.add_comm (k * q), Nat.add_mul_div_left _ _ hk,
    Nat.add_mul_div_left _ _ hk, Nat.div_eq_of_lt hr]
  split
  · rename_i zero
    rw [zero, Nat.div_eq_of_lt (by omega)]
    omega
  · rw [Nat.div_eq_of_lt_le (k := 1) (by omega) (by omega)]
    omega

theorem daysBeforeYear_succ (year : Nat) :
    daysBeforeYear (year + 1) = daysBeforeYear year + (if isLeap year then 366 else 365) := by
  have four := leaps_succ year 4 (by omega)
  have hundred := leaps_succ year 100 (by omega)
  have fourHundred := leaps_succ year 400 (by omega)
  simp only [Nat.add_one_sub_one] at four hundred fourHundred
  simp only [daysBeforeYear, four, hundred, fourHundred, isLeap, Bool.and_eq_true,
    Bool.or_eq_true, beq_iff_eq, bne_iff_ne]
  have fewer : (year + 99) / 100 ≤ year := by omega
  by_cases h4 : year % 4 = 0
  · by_cases h100 : year % 100 = 0
    · by_cases h400 : year % 400 = 0
      · simp [h4, h100, h400]
        omega
      · simp [h4, h100, h400]
        omega
    · have h400 : ¬ year % 400 = 0 := by omega
      simp [h4, h100, h400]
      omega
  · have h100 : ¬ year % 100 = 0 := by omega
    have h400 : ¬ year % 400 = 0 := by omega
    simp [h4, h100, h400]
    omega

/-- Four centuries have 146097 days, and no year is far from that average. -/
theorem daysBeforeYear_bounds (year : Nat) :
    146097 * year ≤ 400 * daysBeforeYear year + 400 ∧
      400 * daysBeforeYear year ≤ 146097 * year + 1596 := by
  unfold daysBeforeYear
  omega

theorem yearOfDay_le (n : Nat) : daysBeforeYear (yearOfDay n) ≤ n := by
  unfold yearOfDay
  dsimp only
  split
  · by_cases small : n * 400 / 146097 - 1 = 0
    · rw [small]
      exact Nat.zero_le n
    · have bounds := daysBeforeYear_bounds (n * 400 / 146097 - 1)
      omega
  · split
    · rename_i low _
      exact Nat.le_of_not_lt low
    · rename_i high
      exact Nat.le_of_not_lt high

theorem lt_yearOfDay_succ (n : Nat) : n < daysBeforeYear (yearOfDay n + 1) := by
  unfold yearOfDay
  dsimp only
  split
  · assumption
  · split
    · assumption
    · have bounds := daysBeforeYear_bounds (n * 400 / 146097 - 1 + 2 + 1)
      omega

end RepairConsole.Calendar
