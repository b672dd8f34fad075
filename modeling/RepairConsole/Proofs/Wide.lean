import Mathlib.Data.List.Induction
import RepairConsole.Proofs.Text.Numerals
import RepairConsole.Wide
/-!
# What 128 bits hold

Sums and products are exact or refused, and they are refused only where no number of 128 bits is the
right one. So is the number that a run of digits writes.
-/

namespace RepairConsole.Wide

def greatest : Int := 170141183460469231731687303715884105727

theorem bounds (w : Wide) : -greatest - 1 ≤ w.toInt ∧ w.toInt ≤ greatest := by
  have hlow := BitVec.le_toInt w
  have hhigh := w.toInt_lt
  unfold greatest
  omega

theorem exists_toInt_eq {n : Int} (hlow : -greatest - 1 ≤ n) (hhigh : n ≤ greatest) :
    ∃ w : Wide, w.toInt = n := by
  unfold greatest at hlow hhigh
  refine ⟨BitVec.ofInt 128 n, ?_⟩
  rw [BitVec.toInt_ofInt]
  apply Int.bmod_eq_of_le
  · omega
  · omega

/-! ## Sums and products -/

/-- A result that is refused where the exact one does not fit. -/
theorem refused_eq_some_iff {overflows : Bool} {result w : Wide} {n : Int}
    (hexact : ¬ overflows = true → result.toInt = n)
    (hoverflows : overflows = true → n < -greatest - 1 ∨ greatest < n) :
    (if overflows then none else some result) = some w ↔ w.toInt = n := by
  have hw := bounds w
  constructor
  · intro h
    split at h
    · cases h
    · next hfits => rw [← Option.some.inj h, hexact hfits]
  · intro h
    have hfits : ¬ overflows = true := by
      intro hover
      have hn := hoverflows hover
      omega
    rw [if_neg hfits, Option.some_inj]
    apply BitVec.eq_of_toInt_eq
    rw [hexact hfits, h]

theorem add?_eq_some_iff {a b w : Wide} : add? a b = some w ↔ w.toInt = a.toInt + b.toInt := by
  unfold add?
  apply refused_eq_some_iff
  · exact BitVec.toInt_add_of_not_saddOverflow
  · intro h
    simp only [BitVec.saddOverflow, Bool.or_eq_true, decide_eq_true_eq] at h
    unfold greatest
    omega

theorem mul?_eq_some_iff {a b w : Wide} : mul? a b = some w ↔ w.toInt = a.toInt * b.toInt := by
  unfold mul?
  apply refused_eq_some_iff
  · exact BitVec.toInt_mul_of_not_smulOverflow
  · intro h
    simp only [BitVec.smulOverflow, Bool.or_eq_true, decide_eq_true_eq] at h
    unfold greatest
    omega

/-! ## Digits -/

theorem toInt_digit {c : Char} (h : c.isDigit = true) :
    (BitVec.ofNat 128 (c.toNat - 48)).toInt = (c.toNat - 48 : Nat) := by
  have hc := Text.toNat_of_isDigit h
  have hsmall : c.toNat - 48 < 10 := by omega
  rw [BitVec.toInt_ofNat']
  apply Int.bmod_eq_of_le
  · omega
  · omega

theorem putDigit?_eq_some_iff {n w : Wide} {c : Char} (hn : 0 ≤ n.toInt) (hc : c.isDigit = true) :
    putDigit? n c = some w ↔ w.toInt = 10 * n.toInt + (c.toNat - 48 : Nat) := by
  have hten : (10 : Wide).toInt = 10 := by decide
  unfold putDigit?
  simp only [Option.bind_eq_some_iff, mul?_eq_some_iff, add?_eq_some_iff, toInt_digit hc, hten]
  constructor
  · rintro ⟨shifted, hshifted, hw⟩
    omega
  · intro hw
    -- The number without its last digit is no larger, so it fits as well.
    have hbound := bounds w
    unfold greatest at hbound
    obtain ⟨shifted, hshifted⟩ : ∃ shifted : Wide, shifted.toInt = n.toInt * 10 := by
      apply exists_toInt_eq
      · unfold greatest; omega
      · unfold greatest; omega
    exact ⟨shifted, hshifted, by omega⟩

theorem ofDigits?_snoc (cs : List Char) (c : Char) :
    ofDigits? (cs ++ [c]) = (ofDigits? cs).bind fun n => putDigit? n c := by
  simp [ofDigits?, List.foldlM_append]

theorem ofDigits?_eq_some_iff {cs : List Char} (hcs : ∀ c ∈ cs, c.isDigit = true) {w : Wide} :
    ofDigits? cs = some w ↔ w.toInt = Text.digitsValue cs := by
  -- On the last digit: what stands before it writes a smaller number.
  induction cs using List.reverseRecOn generalizing w with
  | nil =>
    have hzero : (0 : Wide).toInt = 0 := by decide
    simp only [ofDigits?, List.foldlM_nil, Option.pure_def, Option.some_inj]
    constructor
    · rintro rfl
      exact hzero
    · intro h
      apply BitVec.eq_of_toInt_eq
      rw [hzero, h]
      rfl
  | append_singleton cs c ih =>
    have hc : c.isDigit = true := hcs c (by simp)
    have hfront : ∀ d ∈ cs, d.isDigit = true := fun d hd => hcs d (by simp [hd])
    have hvalue : Text.digitsValue (cs ++ [c]) = 10 * Text.digitsValue cs + (c.toNat - 48) := by
      simp [Text.digitsValue_append]
    rw [ofDigits?_snoc, hvalue, Option.bind_eq_some_iff]
    constructor
    · rintro ⟨n, hn, hput⟩
      have hn' := (ih hfront).1 hn
      rw [putDigit?_eq_some_iff (by omega) hc] at hput
      omega
    · intro hw
      have hbound := bounds w
      obtain ⟨n, hn⟩ : ∃ n : Wide, n.toInt = Text.digitsValue cs := by
        apply exists_toInt_eq
        · unfold greatest; omega
        · omega
      refine ⟨n, (ih hfront).2 hn, ?_⟩
      rw [putDigit?_eq_some_iff (by omega) hc]
      omega

end RepairConsole.Wide
