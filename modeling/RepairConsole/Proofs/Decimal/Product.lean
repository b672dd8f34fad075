import Mathlib.Algebra.Order.Field.Power
import Mathlib.Tactic.Linarith
import Mathlib.Tactic.NormNum
import Mathlib.Tactic.Positivity
import Mathlib.Tactic.Ring
import RepairConsole.Decimal.Rounded
import RepairConsole.Proofs.Decimal.Double
/-!
# Products that overflow

A product is exact before it is rounded to 53 bits. It overflows from half way between the largest
double and the next power of two on, since a half is rounded up there.
-/

namespace RepairConsole.Decimal

open Float.Model Float.Model.UnpackedFloat

/-! ## Mantissas -/

/-- A mantissa shifted by so many bits. The round bit says whether half of a unit or more was lost,
the sticky bit whether what was lost is neither nothing nor exactly half. -/
structure Shifted (m n : Nat) (e : ExtendedMantissa) : Prop where
  mantissa : e.mantissa = m / 2 ^ n
  round : e.roundBit = decide (2 ^ n ≤ 2 * (m % 2 ^ n))
  sticky : e.stickyBit = decide (2 * (m % 2 ^ n) ≠ 0 ∧ 2 * (m % 2 ^ n) ≠ 2 ^ n)

theorem Shifted.zero (m : Nat) : Shifted m 0 (.ofMantissaAndAccuracy m .exact) := by
  refine ⟨?_, ?_, ?_⟩ <;> simp [ExtendedMantissa.ofMantissaAndAccuracy, Nat.mod_one]

theorem Shifted.succ {m n : Nat} {e : ExtendedMantissa} (h : Shifted m n e) :
    Shifted m (n + 1) e.shiftRightOne := by
  obtain ⟨hmantissa, hround, hsticky⟩ := h
  have hlost : m % 2 ^ (n + 1) = m % 2 ^ n + 2 ^ n * (m / 2 ^ n % 2) := by
    rw [Nat.pow_succ, Nat.mod_mul]
  have hless : m % 2 ^ n < 2 ^ n := Nat.mod_lt _ (Nat.two_pow_pos n)
  have hdouble : 2 ^ (n + 1) = 2 * 2 ^ n := by rw [Nat.pow_succ, Nat.mul_comm]
  unfold ExtendedMantissa.shiftRightOne
  -- The bit that is shifted out is the largest of what was lost.
  refine ⟨?_, ?_, ?_⟩
  · rw [hmantissa, Nat.div_div_eq_div_mul, Nat.pow_succ]
  · rw [hmantissa, hlost, hdouble]
    rcases Nat.mod_two_eq_zero_or_one (m / 2 ^ n) with hbit | hbit <;> simp only [hbit]
    · exact (decide_eq_false (by omega)).symm
    · exact (decide_eq_true (by omega)).symm
  · rw [hround, hsticky, hlost, hdouble, ← Bool.decide_or, decide_eq_decide]
    rcases Nat.mod_two_eq_zero_or_one (m / 2 ^ n) with hbit | hbit <;> rw [hbit]
    · omega
    · omega

theorem shifted (m n : Nat) :
    Shifted m n (ExtendedMantissa.ofMantissaAndAccuracy m .exact >>> n) := by
  change Shifted m n (n.repeat ExtendedMantissa.shiftRightOne _)
  induction n with
  | zero => exact .zero m
  | succ n ih => exact ih.succ

theorem Shifted.roundedMantissa {m n : Nat} {e : ExtendedMantissa} (h : Shifted m n e) :
    e.roundedMantissa = roundedQuotient m (2 ^ n) := by
  obtain ⟨mantissa, round, sticky⟩ := e
  obtain ⟨rfl, hround, hsticky⟩ := h
  dsimp only at hround hsticky
  have hless : m % 2 ^ n < 2 ^ n := Nat.mod_lt _ (Nat.two_pow_pos n)
  unfold ExtendedMantissa.roundedMantissa roundedQuotient
  dsimp only
  generalize m % 2 ^ n = rest at hround hsticky hless ⊢
  cases round <;> cases sticky
  · have hhalf := of_decide_eq_false hround.symm
    rw [if_pos (by omega)]
    rfl
  · have hhalf := of_decide_eq_false hround.symm
    rw [if_pos (by omega)]
    rfl
  · have hhalf := of_decide_eq_true hround.symm
    have hrest := of_decide_eq_false hsticky.symm
    rw [if_neg (by omega), if_neg (by omega)]
    rfl
  · have hhalf := of_decide_eq_true hround.symm
    have hrest := of_decide_eq_true hsticky.symm
    rw [if_neg (by omega), if_pos (by omega)]
    rfl

/-! ## Exponents -/

theorem targetExponent_eq (m : Nat) (e : Int) :
    Format.binary64.targetExponent (totalExponent m e) = max (m.log2 - 52 + e) (-1074) := by
  have hbits : Format.binary64.mantissaBits = 53 := rfl
  have hleast : Format.binary64.minExponent = -1074 := rfl
  rw [Format.targetExponent, totalExponent, hbits, hleast]
  omega

theorem shift_exact (m : Nat) (e : Int) :
    shiftToTargetExponent .binary64 m e .exact =
      (ExtendedMantissa.ofMantissaAndAccuracy m .exact >>>
          (max (m.log2 - 52 + e) (-1074) - e).toNat,
        e + (max (m.log2 - 52 + e) (-1074) - e).toNat) := by
  rw [shiftToTargetExponent, targetExponent_eq]
  rfl

/-- A mantissa that fits stays as it is. -/
theorem shift_of_lt {m : Nat} {e : Int} (hm : m < 2 ^ 53) (he : -1074 ≤ e) :
    shiftToTargetExponent .binary64 m e .exact = (.ofMantissaAndAccuracy m .exact, e) := by
  have hlog : m.log2 ≤ 52 := by
    rcases Nat.eq_zero_or_pos m with rfl | hpos
    · decide
    · have hlt := (Nat.log2_lt (by omega)).2 hm
      omega
  have hnone : (max (m.log2 - 52 + e) (-1074) - e).toNat = 0 := by omega
  rw [shift_exact, hnone, Int.natCast_zero, Int.add_zero]
  rfl

theorem shift_carry {e : Int} (he : -1074 ≤ e) :
    shiftToTargetExponent .binary64 (2 ^ 53) e .exact =
      (.ofMantissaAndAccuracy (2 ^ 52) .exact, e + 1) := by
  have hlog : (2 ^ 53 : Nat).log2 = 53 := Nat.log2_two_pow
  have hone : (max (((2 ^ 53 : Nat).log2 : Int) - 52 + e) (-1074) - e).toNat = 1 := by
    rw [hlog]
    omega
  rw [shift_exact, hone]
  rfl

/-! ## Rounding -/

theorem roundedQuotient_bounds (m n : Nat) :
    m / n ≤ roundedQuotient m n ∧ roundedQuotient m n ≤ m / n + 1 := by
  unfold roundedQuotient
  dsimp only
  split_ifs
  · omega
  · omega
  · omega

/-- A mantissa keeps its 53 bits if it is more than half a unit below the next power of two. -/
theorem roundedQuotient_full {m n : Nat} (hn : 0 < n) (hless : m < 2 ^ 53 * n) :
    roundedQuotient m n < 2 ^ 53 ↔ 2 * m < (2 ^ 54 - 1) * n := by
  have hquotient := Nat.div_add_mod m n
  have hrest := Nat.mod_lt m hn
  have hbelow : m / n < 2 ^ 53 := (Nat.div_lt_iff_lt_mul hn).2 hless
  unfold roundedQuotient
  dsimp only
  by_cases hlast : m / n = 2 ^ 53 - 1
  · rw [hlast] at hquotient ⊢
    have hcommon : n * (2 ^ 53 - 1) = (2 ^ 53 - 1) * n := Nat.mul_comm _ _
    split_ifs
    · omega
    · omega
    · omega
  · have hroom : n * (m / n + 1) ≤ n * (2 ^ 53 - 1) := Nat.mul_le_mul_left n (by omega)
    rw [Nat.mul_add] at hroom
    split_ifs
    · omega
    · omega
    · omega

theorem isNaN_roundWithAccuracy (spec : Format) (s : Sign) (m : Nat) (e : Int) (a : Accuracy) :
    (roundWithAccuracy spec s m e a).isNaN = false := by
  unfold roundWithAccuracy
  dsimp only
  split_ifs <;> rfl

/-- Half way between the largest double and the next power of two. -/
def overflow : ℚ := (2 ^ 54 - 1) * 2 ^ 970

section Range

variable {m : Nat} {e : Int}

theorem lt_of_log2 (hm : 52 ≤ m.log2) : 2 ^ m.log2 ≤ m ∧ m < 2 ^ (m.log2 + 1) := by
  have hne : m ≠ 0 := by
    rintro rfl
    simp at hm
  exact ⟨Nat.log2_self_le hne, Nat.lt_log2_self⟩

/-- The mantissa is shifted, rounded, and shifted once more where that took another bit. -/
theorem inRange_roundWithAccuracy (spec : Format) (s : Sign) (a : Accuracy) :
    InRange (roundWithAccuracy spec s m e a) ↔
      let first := shiftToTargetExponent spec m e a
      let second := shiftToTargetExponent spec first.1.roundedMantissa first.2 .exact
      second.1.mantissa ≠ 0 → second.2 < 972 := by
  unfold roundWithAccuracy
  dsimp only
  split_ifs with hzero
  · exact ⟨fun _ hne => absurd hzero hne, fun _ => trivial⟩
  · exact ⟨fun h _ => h, fun h => h hzero⟩

/-- The exponent of a rounded number, which is one more where all bits of the mantissa were set. -/
theorem inRange_round_iff (s : Sign) {last : Int} {shift : Nat} (hm : 52 ≤ m.log2)
    (hlast : last = max (m.log2 - 52 + e) (-1074)) (hshift : shift = (last - e).toNat) :
    InRange (roundWithAccuracy .binary64 s m e .exact) ↔
      last + (if roundedQuotient m (2 ^ shift) < 2 ^ 53 then 0 else 1) < 972 := by
  obtain ⟨hle, hlt⟩ := lt_of_log2 hm
  have hpos : 0 < 2 ^ shift := Nat.two_pow_pos shift
  have hexponent : e + shift = last := by omega
  have hquotient : m / 2 ^ shift < 2 ^ 53 := by
    have hwide : 2 ^ (m.log2 + 1) ≤ 2 ^ (53 + shift) := Nat.pow_le_pow_right (by decide) (by omega)
    rw [Nat.div_lt_iff_lt_mul hpos, ← Nat.pow_add]
    omega
  have hbounds := roundedQuotient_bounds m (2 ^ shift)
  rw [inRange_roundWithAccuracy, shift_exact, ← hlast, ← hshift, hexponent]
  dsimp only
  rw [(shifted m shift).roundedMantissa]
  by_cases hfull : roundedQuotient m (2 ^ shift) < 2 ^ 53
  · rw [shift_of_lt hfull (by omega), if_pos hfull, Int.add_zero]
    change (roundedQuotient m (2 ^ shift) ≠ 0 → last < 972) ↔ last < 972
    refine ⟨fun h => ?_, fun h _ => h⟩
    by_cases hzero : roundedQuotient m (2 ^ shift) = 0
    · -- Nothing is left only of what is far below the least double.
      have hnone : m / 2 ^ shift = 0 := Nat.eq_zero_of_le_zero (hzero ▸ hbounds.1)
      have hless : 2 ^ m.log2 < 2 ^ shift := by
        have hbelow := (Nat.div_eq_zero_iff_lt hpos).1 hnone
        omega
      have hshort : m.log2 < shift := (Nat.pow_lt_pow_iff_right Nat.one_lt_two).1 hless
      omega
    · exact h hzero
  · have hcarry : roundedQuotient m (2 ^ shift) = 2 ^ 53 := by omega
    rw [hcarry, shift_carry (by omega), if_neg (by decide)]
    change (2 ^ 52 ≠ 0 → last + 1 < 972) ↔ last + 1 < 972
    simp

theorem mul_zpow_lt {n : Int} (hm : 52 ≤ m.log2) (h : m.log2 + 1 + e ≤ n) :
    (m : ℚ) * 2 ^ e < 2 ^ n := by
  have hlt : (m : ℚ) < 2 ^ (m.log2 + 1) := by exact_mod_cast (lt_of_log2 hm).2
  calc (m : ℚ) * 2 ^ e < 2 ^ (m.log2 + 1) * 2 ^ e := by gcongr
    _ = 2 ^ ((m.log2 + 1 : Nat) + e) := by rw [zpow_add₀ (by decide), zpow_natCast]
    _ ≤ 2 ^ n := zpow_le_zpow_right₀ (by decide) (by omega)

theorem zpow_le_mul {n : Int} (hm : 52 ≤ m.log2) (h : n ≤ m.log2 + e) :
    (2 : ℚ) ^ n ≤ m * 2 ^ e := by
  have hle : (2 : ℚ) ^ m.log2 ≤ m := by exact_mod_cast (lt_of_log2 hm).1
  calc (2 : ℚ) ^ n ≤ 2 ^ (m.log2 + e) := zpow_le_zpow_right₀ (by decide) h
    _ = 2 ^ m.log2 * 2 ^ e := by rw [zpow_add₀ (by decide), zpow_natCast]
    _ ≤ m * 2 ^ e := by gcongr

/-- Half a unit below a power of two there is still no power of two. -/
theorem halfBelow_bounds (n : Nat) : (2 : ℚ) ^ (n + 53) < (2 ^ 54 - 1) * 2 ^ n ∧
    (2 ^ 54 - 1) * 2 ^ n < (2 : ℚ) ^ (n + 54) := by
  have hpos : (0 : ℚ) < 2 ^ n := by positivity
  rw [pow_add, pow_add]
  constructor
  · linarith
  · linarith

theorem mul_zpow_lt_iff {n : Nat} (he : e ≤ n + 1) :
    (m : ℚ) * 2 ^ e < (2 ^ 54 - 1) * 2 ^ n ↔ 2 * m < (2 ^ 54 - 1) * 2 ^ (n + 1 - e).toNat := by
  have hsplit : 2 * (2 : ℚ) ^ n = 2 ^ (n + 1 - e).toNat * 2 ^ e := by
    rw [← pow_succ', ← zpow_natCast, ← zpow_natCast, ← zpow_add₀ (by decide)]
    congr 1
    omega
  have hpos : (0 : ℚ) < 2 ^ e := by positivity
  have hcast : ((2 ^ 54 - 1 : Nat) : ℚ) = 2 ^ 54 - 1 := by norm_num
  calc (m : ℚ) * 2 ^ e < (2 ^ 54 - 1) * 2 ^ n
      ↔ 2 * (m * 2 ^ e) < (2 ^ 54 - 1) * (2 * (2 : ℚ) ^ n) := by
        rw [mul_left_comm _ 2, mul_lt_mul_iff_of_pos_left two_pos]
    _ ↔ (2 * m) * (2 : ℚ) ^ e < ((2 ^ 54 - 1) * 2 ^ (n + 1 - e).toNat) * 2 ^ e := by
        rw [hsplit, mul_assoc, mul_assoc]
    _ ↔ (2 * m : ℚ) < (2 ^ 54 - 1) * 2 ^ (n + 1 - e).toNat := mul_lt_mul_iff_of_pos_right hpos
    _ ↔ 2 * m < (2 ^ 54 - 1) * 2 ^ (n + 1 - e).toNat := by
        rw [← hcast]
        exact_mod_cast Iff.rfl

/-- What is half a unit below the next power of two, or more, is rounded to no double. -/
theorem inRange_round (s : Sign) (e : Int) (hm : 52 ≤ m.log2) :
    InRange (roundWithAccuracy .binary64 s m e .exact) ↔ (m : ℚ) * 2 ^ e < overflow := by
  obtain ⟨last, hlast⟩ : ∃ last, last = max (m.log2 - 52 + e) (-1074) := ⟨_, rfl⟩
  have hbounds := halfBelow_bounds 970
  rw [inRange_round_iff s hm hlast rfl, overflow]
  rcases lt_trichotomy last 971 with hless | heq | hmore
  · have hbelow : (m : ℚ) * 2 ^ e < 2 ^ ((970 + 53 : Nat) : Int) := mul_zpow_lt hm (by omega)
    rw [zpow_natCast] at hbelow
    refine iff_of_true ?_ (lt_trans hbelow hbounds.1)
    split_ifs
    · omega
    · omega
  · have hfits : m < 2 ^ 53 * 2 ^ (last - e).toNat := by
      rw [← Nat.pow_add]
      exact lt_of_lt_of_le (lt_of_log2 hm).2 (Nat.pow_le_pow_right (by decide) (by omega))
    have hshift : last - e = (970 : Nat) + 1 - e := by omega
    rw [mul_zpow_lt_iff (by omega), ← hshift, ← roundedQuotient_full (Nat.two_pow_pos _) hfits]
    split_ifs with hfull
    · exact iff_of_true (by omega) hfull
    · exact iff_of_false (by omega) hfull
  · have hover : (2 : ℚ) ^ ((970 + 54 : Nat) : Int) ≤ m * 2 ^ e := zpow_le_mul hm (by omega)
    rw [zpow_natCast] at hover
    refine iff_of_false ?_ (not_lt_of_ge (le_trans hbounds.2.le hover))
    split_ifs
    · omega
    · omega

end Range

/-! ## Products with a hundred -/

/-- The exact value. -/
def Binary.value (b : Binary) : ℚ := b.mantissa * 2 ^ b.exponent

theorem unpacked_hundred : ∃ hm, unpacked 100.0 = .finite .positive (100 * 2 ^ 46) (-46) hm := by
  have hfinite : (100.0 : Float).isFinite = true := by decide +kernel
  have hpositive : isNegative 100.0 = false := by decide +kernel
  have hvalue : Binary.ofFloat 100.0 = ⟨100 * 2 ^ 46, -46⟩ := by decide +kernel
  obtain ⟨s, hsign, ⟨-, hzero⟩ | ⟨m, e, hm, hparts, hbinary, -⟩⟩ := exists_parts hfinite
  · rw [hvalue] at hzero
    exact absurd hzero (by decide)
  · rw [hvalue, Binary.mk.injEq] at hbinary
    obtain ⟨rfl, rfl⟩ := hbinary
    rw [hpositive] at hsign
    cases s with
    | negative => cases hsign
    | positive => exact ⟨hm, hparts⟩

theorem mul_positive (s : Sign) : s * .positive = s := by
  cases s <;> rfl

theorem isNegativeParts_roundWithAccuracy (spec : Format) (s : Sign) (m : Nat) (e : Int)
    (a : Accuracy) : isNegativeParts (roundWithAccuracy spec s m e a) = (s == .negative) := by
  unfold roundWithAccuracy
  dsimp only
  split_ifs <;> rfl

/-- A hundred times a finite double is finite as well, or it overflows; the sign stays. -/
theorem mul_hundred {x : Float} (h : x.isFinite = true) :
    ((x * 100.0).isFinite = true ↔ 100 * (Binary.ofFloat x).value < overflow) ∧
      (x * 100.0).isNaN = false ∧ isNegative (x * 100.0) = isNegative x := by
  obtain ⟨hpos, hundred⟩ := unpacked_hundred
  obtain ⟨s, hsign, ⟨hparts, hbinary⟩ | ⟨m, e, hm, hparts, hbinary, -⟩⟩ := exists_parts h
  · have hproduct : x * 100.0 = packed (.zero s) := by
      rw [mul_eq, hparts, hundred, UnpackedFloat.mul, mul_positive]
    rw [hproduct, isFinite_packed, isNaN_packed, isNegative_packed, hsign, hbinary]
    refine ⟨iff_of_true trivial ?_, rfl, rfl⟩
    norm_num [Binary.value, overflow]
  · have hproduct : x * 100.0 =
        packed (roundWithAccuracy .binary64 s (m * (100 * 2 ^ 46)) (e + -46) .exact) := by
      rw [mul_eq, hparts, hundred, UnpackedFloat.mul, mul_positive]
    have hlong : 52 ≤ (m * (100 * 2 ^ 46)).log2 := (Nat.le_log2 (by omega)).2 (by omega)
    have hvalue : ((m * (100 * 2 ^ 46) : Nat) : ℚ) * 2 ^ (e + -46) = 100 * (m * 2 ^ e) := by
      rw [zpow_add₀ (by decide)]
      push_cast
      norm_num
      ring
    rw [hproduct, isFinite_packed, isNaN_packed, isNegative_packed, hsign, hbinary,
      inRange_round s _ hlong, hvalue, isNaN_roundWithAccuracy, isNegativeParts_roundWithAccuracy]
    exact ⟨Iff.rfl, rfl, rfl⟩

end RepairConsole.Decimal
