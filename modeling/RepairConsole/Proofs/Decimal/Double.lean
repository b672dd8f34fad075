import Mathlib
import RepairConsole.Decimal.Binary
/-!
# Doubles and their parts

Doubles are computed with part by part: each operation unpacks them, works on sign, mantissa and
exponent, and packs the result. What is packed is found again in the fields of the bits, and the
parts of a finite double are those of its exact value.
-/

namespace RepairConsole.Decimal

open Float.Model Float.Model.UnpackedFloat

def unpacked (x : Float) : UnpackedFloat := x.toModel.unpack

def packed (u : UnpackedFloat) : Float := .ofModel (Float.Model.pack u)

theorem mul_eq (x y : Float) : x * y = packed (mul .binary64 (unpacked x) (unpacked y)) := rfl

theorem div_eq (x y : Float) : x / y = packed (div .binary64 (unpacked x) (unpacked y)) := rfl

theorem neg_eq (x : Float) : -x = packed (unpacked x).neg := rfl

/-! ## Fields -/

section Bits

variable (b : BitVec Format.binary64.numBits)

theorem toNat_unpackExponent : (unpackExponent b).toNat = b.toNat / 0x10000000000000 % 2048 := by
  simp [unpackExponent, BitVec.extractLsb_toNat, Nat.shiftRight_eq_div_pow]

theorem toNat_unpackMantissa : (unpackMantissa b).toNat = b.toNat % 0x10000000000000 := by
  simp [unpackMantissa, BitVec.extractLsb_toNat]

theorem toNat_unpackSign : (unpackSign b).toNat = b.toNat / 0x8000000000000000 := by
  have hlt : b.toNat < 2 ^ 64 := b.isLt
  have hbit : (unpackSign b).toNat = b.toNat / 2 ^ 63 % 2 ^ 1 := by
    simp only [unpackSign, BitVec.toNat_cast, BitVec.extractLsb_toNat, Nat.shiftRight_eq_div_pow]
  omega

end Bits

/-- The bits of a double. -/
def word (x : Float) : BitVec Format.binary64.numBits := x.toBits.toBitVec

theorem exponentField_eq (x : Float) : exponentField x = (unpackExponent (word x)).toNat :=
  (toNat_unpackExponent (word x)).symm

theorem fractionField_eq (x : Float) : fractionField x = (unpackMantissa (word x)).toNat :=
  (toNat_unpackMantissa (word x)).symm

theorem isNegative_iff_toBitVec (x : Float) : isNegative x = true ↔ unpackSign (word x) = 1#1 := by
  have hbit := toNat_unpackSign (word x)
  have hlt : (word x).toNat < 2 ^ 64 := (word x).isLt
  have hnegative : isNegative x = decide (0x8000000000000000 ≤ (word x).toNat) := rfl
  rw [hnegative, decide_eq_true_eq, ← BitVec.toNat_inj, hbit, BitVec.toNat_ofNat]
  omega

theorem isNegative_eq (x : Float) :
    isNegative x = (Sign.ofBitVec (unpackSign (word x)) == .negative) := by
  have hiff := isNegative_iff_toBitVec x
  generalize isNegative x = negative at hiff ⊢
  generalize unpackSign (word x) = sign at hiff ⊢
  revert negative sign
  decide

/-- A finite double is a zero, or it is made of the parts of its exact value. -/
theorem exists_parts {x : Float} (h : x.isFinite = true) :
    ∃ s : Sign, isNegative x = (s == .negative) ∧
      ((unpacked x = .zero s ∧ Binary.ofFloat x = ⟨0, -1074⟩) ∨
        ∃ m e hm, unpacked x = .finite s m e hm ∧ Binary.ofFloat x = ⟨m, e⟩ ∧ e ≤ 971) := by
  have hfinite : (UnpackedFloat.unpack .binary64 (word x)).isFinite = true := h
  have hunpacked : unpacked x = UnpackedFloat.unpack .binary64 (word x) := rfl
  have hbias : Format.binary64.exponentBias = 1023 := rfl
  have hbelow : (unpackExponent (word x)).toNat < 2048 := (unpackExponent (word x)).isLt
  refine ⟨_, isNegative_eq x, ?_⟩
  rw [hunpacked, Binary.ofFloat, exponentField_eq, fractionField_eq]
  unfold UnpackedFloat.unpack at hfinite ⊢
  dsimp only at hfinite ⊢
  -- The last exponent is not that of a finite double, the first stands for zero and the
  -- subnormal numbers, whose mantissa has no leading one.
  by_cases hlast : unpackExponent (word x) = -1#_
  · rw [if_pos hlast] at hfinite
    split at hfinite <;> cases hfinite
  by_cases hzero : unpackExponent (word x) = 0#_
  · have hfield : (unpackExponent (word x)).toNat = 0 := by rw [hzero]; rfl
    rw [if_neg hlast, if_pos hzero, if_pos hfield]
    by_cases hfraction : unpackMantissa (word x) = 0#_
    · left
      simp [hfraction]
    · have hpos : 0 < (unpackMantissa (word x)).toNat :=
        Nat.pos_of_ne_zero fun heq => hfraction (BitVec.toNat_inj.1 heq)
      right
      rw [dif_neg hfraction]
      refine ⟨_, _, hpos, rfl, ?_⟩
      simp [hfield, hbias]
  · have hfield : (unpackExponent (word x)).toNat ≠ 0 := fun heq => hzero (BitVec.toNat_inj.1 heq)
    have hne : (unpackExponent (word x)).toNat ≠ 2047 := fun heq => hlast (BitVec.toNat_inj.1 heq)
    have happend : (1#1 ++ unpackMantissa (word x)).toNat =
        2 ^ 52 + (unpackMantissa (word x)).toNat := by
      rw [BitVec.toNat_append, ← Nat.shiftLeft_add_eq_or_of_lt (unpackMantissa (word x)).isLt]
      rfl
    have hpos : 0 < (1#1 ++ unpackMantissa (word x)).toNat := by omega
    rw [if_neg hlast, if_neg hzero, if_neg hfield]
    right
    refine ⟨_, _, hpos, rfl, ?_⟩
    rw [happend]
    simp [hbias]
    omega

/-! ## Packing -/

theorem isFinite_iff (x : Float) : x.isFinite = true ↔ unpackExponent (word x) ≠ -1#_ := by
  have hword : x.isFinite = (UnpackedFloat.unpack .binary64 (word x)).isFinite := rfl
  rw [hword]
  unfold UnpackedFloat.unpack
  dsimp only
  split_ifs with hlast
  · exact iff_of_false Bool.false_ne_true (not_not_intro hlast)
  · exact iff_of_false Bool.false_ne_true (not_not_intro hlast)
  · exact iff_of_true rfl hlast
  · exact iff_of_true rfl hlast
  · exact iff_of_true rfl hlast

theorem isNaN_iff (x : Float) :
    x.isNaN = true ↔ unpackExponent (word x) = -1#_ ∧ unpackMantissa (word x) ≠ 0#_ := by
  have hword : x.isNaN = (UnpackedFloat.unpack .binary64 (word x)).isNaN := rfl
  rw [hword]
  unfold UnpackedFloat.unpack
  dsimp only
  split_ifs with hlast hzero
  · exact iff_of_false Bool.false_ne_true fun h => h.2 hzero
  · exact iff_of_true rfl ⟨hlast, hzero⟩
  · exact iff_of_false Bool.false_ne_true fun h => hlast h.1
  · exact iff_of_false Bool.false_ne_true fun h => hlast h.1
  · exact iff_of_false Bool.false_ne_true fun h => hlast h.1

/-- Whether the parts are those of a double that is finite. -/
def InRange : UnpackedFloat → Prop
  | .zero _ => True
  | .finite _ _ e _ => e < 972
  | _ => False

/-- Whether the parts have a minus sign. -/
def isNegativeParts : UnpackedFloat → Bool
  | .notANumber => false
  | .infinity s | .zero s | .finite s _ _ _ => s == .negative

theorem word_packed (u : UnpackedFloat) : word (packed u) = UnpackedFloat.pack .binary64 u := rfl

theorem ofNat_ne_last {n : Nat} (h : n + 1 < 2048) : BitVec.ofNat 11 n ≠ -1#11 := by
  intro heq
  have hnat := congrArg BitVec.toNat heq
  rw [BitVec.toNat_ofNat, Nat.mod_eq_of_lt (by omega)] at hnat
  change n = 2047 at hnat
  omega

/-- The fields into which parts are packed. -/
theorem exists_fields (u : UnpackedFloat) :
    ∃ (s : Sign) (e : BitVec 11) (m : BitVec 52),
      word (packed u) = packComponents .binary64 s e m ∧ (e ≠ -1#11 ↔ InRange u) ∧
      ((e = -1#11 ∧ m ≠ 0#52) ↔ u.isNaN = true) ∧ (s == .negative) = isNegativeParts u := by
  rw [word_packed]
  cases u with
  | notANumber => exact ⟨_, _, _, rfl, by simp [InRange], by decide, rfl⟩
  | infinity s => exact ⟨s, _, _, rfl, by simp [InRange], by simp [UnpackedFloat.isNaN], rfl⟩
  | zero s => exact ⟨s, _, _, rfl, by simp [InRange], by simp [UnpackedFloat.isNaN], rfl⟩
  | finite s m e hm =>
    have hbias : (e + Format.binary64.exponentBias + Format.binary64.mantissaBitsWithoutImplicit) =
        e + 1075 := Int.add_assoc e 1023 52
    unfold UnpackedFloat.pack
    simp only [hbias]
    split_ifs with hover hnormal
    · exact ⟨s, _, _, rfl, by simp [InRange]; omega, by simp [UnpackedFloat.isNaN], rfl⟩
    · have hne : BitVec.ofNat 11 (e + 1075).toNat ≠ -1#11 := ofNat_ne_last (by omega)
      refine ⟨s, _, _, rfl, ?_, ?_, rfl⟩
      · simp only [ne_eq, hne, not_false_eq_true, true_iff, InRange]
        omega
      · exact iff_of_false (fun h => hne h.1) Bool.false_ne_true
    · refine ⟨s, _, _, rfl, ?_, ?_, rfl⟩
      · simp [InRange]
        omega
      · simp [UnpackedFloat.isNaN]

theorem isFinite_packed (u : UnpackedFloat) : (packed u).isFinite = true ↔ InRange u := by
  obtain ⟨s, e, m, hword, hrange, -, -⟩ := exists_fields u
  rw [isFinite_iff, hword, unpackExponent_packComponents]
  exact hrange

theorem isNaN_packed (u : UnpackedFloat) : (packed u).isNaN = u.isNaN := by
  obtain ⟨s, e, m, hword, -, hnan, -⟩ := exists_fields u
  rw [Bool.eq_iff_iff, isNaN_iff, hword, unpackExponent_packComponents,
    unpackMantissa_packComponents]
  exact hnan

theorem isNegative_packed (u : UnpackedFloat) : isNegative (packed u) = isNegativeParts u := by
  obtain ⟨s, e, m, hword, -, -, hsign⟩ := exists_fields u
  rw [isNegative_eq, hword, unpackSign_packComponents, ← hsign]
  cases s <;> rfl

/-- A double is finite, infinite or not a number. -/
theorem isInf_eq (x : Float) : x.isInf = (!x.isFinite && !x.isNaN) := by
  have hparts : x.isInf = (unpacked x).isInf ∧ x.isFinite = (unpacked x).isFinite ∧
      x.isNaN = (unpacked x).isNaN := ⟨rfl, rfl, rfl⟩
  rw [hparts.1, hparts.2.1, hparts.2.2]
  cases unpacked x <;> rfl

end RepairConsole.Decimal
