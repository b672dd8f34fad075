import RepairConsole.Decimal.Numeral
import RepairConsole.Proofs.Decimal.Product
/-!
# Numerals as doubles

A numeral is read as a quotient or a product of two magnitudes, and these are never without a
value. So what is not infinite is finite.
-/

namespace RepairConsole.Decimal

open Float.Model Float.Model.UnpackedFloat

section Quotients

variable {u v : UnpackedFloat}

/-- Neither a zero nor infinite. -/
def IsMagnitude (u : UnpackedFloat) : Prop := ∃ s m e hm, u = .finite s m e hm

theorem isNaN_mul (hu : u.isNaN = false) (hv : IsMagnitude v) :
    (UnpackedFloat.mul .binary64 u v).isNaN = false := by
  obtain ⟨s, m, e, hm, rfl⟩ := hv
  cases u with
  | notANumber => cases hu
  | infinity t => rfl
  | zero t => rfl
  | finite t n f hn => exact isNaN_roundWithAccuracy ..

theorem isNaN_div (hu : u.isNaN = false) (hv : IsMagnitude v) :
    (UnpackedFloat.div .binary64 u v).isNaN = false := by
  obtain ⟨s, m, e, hm, rfl⟩ := hv
  cases u with
  | notANumber => cases hu
  | infinity t => rfl
  | zero t => rfl
  | finite t n f hn => exact isNaN_roundWithAccuracy ..

end Quotients

theorem isMagnitude_powerOfTen {e : Nat} (he : e < Float.exactlyRepresentablePowersOfTen.size) :
    IsMagnitude (unpacked Float.exactlyRepresentablePowersOfTen[e]) := by
  have hall : ∀ x ∈ Float.exactlyRepresentablePowersOfTen.toList,
      x.isFinite = true ∧ (Binary.ofFloat x).mantissa ≠ 0 := by decide +kernel
  obtain ⟨hfinite, hne⟩ := hall _ (Array.getElem_mem_toList he)
  obtain ⟨s, -, ⟨-, hzero⟩ | ⟨m, f, hm, hparts, -⟩⟩ := exists_parts hfinite
  · rw [hzero] at hne
    exact absurd rfl hne
  · exact ⟨s, m, f, hm, hparts⟩

theorem isNaN_ofNat (n : Nat) : (UnpackedFloat.ofNat .binary64 n).isNaN = false := by
  unfold UnpackedFloat.ofNat UnpackedFloat.ofInt UnpackedFloat.normalize
  split
  · exact isNaN_roundWithAccuracy ..
  · rfl
  · exact isNaN_roundWithAccuracy ..

theorem isNaN_scientific (m : Nat) (e : Int) :
    (UnpackedFloat.ofScientific .binary64 m e).isNaN = false := by
  unfold UnpackedFloat.ofScientific
  split_ifs
  · rfl
  · rfl
  · rfl
  · exact isNaN_mul rfl ⟨_, _, _, _, rfl⟩
  · exact isNaN_div rfl ⟨_, _, _, _, rfl⟩

/-- Every decimal has a nearest double, if infinity is one. -/
theorem isNaN_ofScientific (m : Nat) (s : Bool) (e : Nat) :
    (Float.ofScientific m s e).isNaN = false := by
  have hwhole : (unpacked m.toUInt64.toFloat).isNaN = false := by
    change (packed (UnpackedFloat.ofNat .binary64 m.toUInt64.toNat)).isNaN = false
    rw [isNaN_packed, isNaN_ofNat]
  unfold Float.ofScientific
  split
  · dsimp only
    split
    · rw [div_eq, isNaN_packed]
      exact isNaN_div hwhole (isMagnitude_powerOfTen _)
    · rw [mul_eq, isNaN_packed]
      exact isNaN_mul hwhole (isMagnitude_powerOfTen _)
  · change (packed (UnpackedFloat.ofScientific .binary64 m _)).isNaN = false
    rw [isNaN_packed, isNaN_scientific]

theorem isFinite_neg {x : Float} (h : x.isFinite = true) : (-x).isFinite = true := by
  rw [neg_eq, isFinite_packed]
  obtain ⟨s, -, ⟨hparts, -⟩ | ⟨m, e, hm, hparts, -, hle⟩⟩ := exists_parts h
  · rw [hparts]
    trivial
  · rw [hparts]
    exact Int.lt_add_one_of_le hle

namespace Numeral

theorem isFinite_magnitude? {mantissa : Nat} {exponent : Int} {x : Float}
    (h : magnitude? mantissa exponent = some x) : x.isFinite = true := by
  unfold magnitude? at h
  dsimp only at h
  split_ifs at h with hzero hlarge hsmall hinf
  · cases h
    decide +kernel
  · cases h
    decide +kernel
  · cases h
    have hnan := isNaN_ofScientific mantissa (exponent < 0) exponent.natAbs
    rw [Bool.not_eq_true, isInf_eq, hnan] at hinf
    simpa using hinf

/-- Every numeral that can be held is worth a finite number. -/
theorem isFinite_toFloat? {n : Numeral} {x : Float} (h : n.toFloat? = some x) :
    x.isFinite = true := by
  unfold toFloat? at h
  obtain ⟨y, hmagnitude, rfl⟩ := Option.map_eq_some_iff.1 h
  have hfinite := isFinite_magnitude? hmagnitude
  split
  · exact isFinite_neg hfinite
  · exact hfinite

end Numeral
end RepairConsole.Decimal
