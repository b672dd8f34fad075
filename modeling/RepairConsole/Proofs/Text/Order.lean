import Mathlib.Data.List.Induction
import Mathlib.Data.List.Lex
import RepairConsole.Proofs.Text.Numerals
/-!
# Numbers in the order of their texts

Numbers that are written in as many digits are in order if their texts are, compared character by
character. In texts of several such numbers the first that differ decide.
-/

namespace RepairConsole.Text

/-- The numbers of the characters of a text, by which texts are compared. -/
def codes (text : String) : List Nat := text.toList.map Char.toNat

theorem append_lt_append {a a' b b' : List Nat} (hlength : a.length = a'.length)
    (h : a < a' ∨ a = a' ∧ b < b') : a ++ b < a' ++ b' := by
  induction a generalizing a' with
  | nil =>
    obtain rfl : a' = [] := List.length_eq_zero_iff.1 hlength.symm
    simpa using h
  | cons x a ih =>
    cases a' with
    | nil => simp at hlength
    | cons y a' =>
      simp only [List.cons_append, List.cons_lt_cons_iff, List.cons.injEq] at h ⊢
      rcases h with (hxy | ⟨rfl, hlt⟩) | ⟨⟨rfl, rfl⟩, hlt⟩
      · exact Or.inl hxy
      · exact Or.inr ⟨rfl, ih (by simpa using hlength) (Or.inl hlt)⟩
      · exact Or.inr ⟨rfl, ih rfl (Or.inr ⟨rfl, hlt⟩)⟩

/-! ## Digits -/

theorem digitsValue_snoc (cs : List Char) (c : Char) :
    digitsValue (cs ++ [c]) = 10 * digitsValue cs + (c.toNat - 48) := by
  rw [digitsValue_append]
  rfl

/-- As many digits are in the order of the numbers that they write. -/
theorem lt_of_digitsValue_lt {cs ds : List Char} (hlength : cs.length = ds.length)
    (hcs : ∀ c ∈ cs, c.isDigit = true) (hds : ∀ d ∈ ds, d.isDigit = true) :
    (digitsValue cs = digitsValue ds → cs = ds) ∧
      (digitsValue cs < digitsValue ds → cs.map Char.toNat < ds.map Char.toNat) := by
  -- From the right: the last digits decide where those before them write the same number.
  induction cs using List.reverseRecOn generalizing ds with
  | nil =>
    obtain rfl : ds = [] := List.length_eq_zero_iff.1 hlength.symm
    simp
  | append_singleton cs c ih =>
    obtain rfl | ⟨ds, d, rfl⟩ := List.eq_nil_or_concat' ds
    · simp at hlength
    · simp only [List.length_append, List.length_singleton, Nat.add_right_cancel_iff] at hlength
      obtain ⟨heq, hlt⟩ := ih hlength (fun c hc => hcs c (by simp [hc]))
        fun d hd => hds d (by simp [hd])
      have hc := toNat_of_isDigit (hcs c (by simp))
      have hd := toNat_of_isDigit (hds d (by simp))
      simp only [digitsValue_snoc, List.map_append, List.map_cons, List.map_nil]
      constructor
      · intro h
        have hchar : c.toNat = d.toNat := by omega
        rw [heq (by omega), Char.toNat_inj.1 hchar]
      · intro h
        apply append_lt_append (by simpa using hlength)
        by_cases hfront : digitsValue cs < digitsValue ds
        · exact Or.inl (hlt hfront)
        · refine Or.inr ⟨by rw [heq (by omega)], ?_⟩
          simp only [List.cons_lt_cons_iff, List.lt_irrefl]
          omega

/-- A number that is written in so many digits, before a mark and all that follows. -/
theorem field_lt {width m n : Nat} (hm : (Nat.repr m).length ≤ width)
    (hn : (Nat.repr n).length ≤ width) {rest rest' : List Nat} (h : m < n ∨ m = n ∧ rest < rest') :
    codes (padDigits width m) ++ rest < codes (padDigits width n) ++ rest' := by
  have hlength : (padDigits width m).toList.length = (padDigits width n).toList.length := by
    rw [length_padDigits hm, length_padDigits hn]
  apply append_lt_append (by simpa [codes] using hlength)
  rcases h with hlt | ⟨rfl, hrest⟩
  · left
    have horder := lt_of_digitsValue_lt hlength (fun _ => isDigit_of_mem_padDigits)
      fun _ => isDigit_of_mem_padDigits
    rw [digitsValue_padDigits, digitsValue_padDigits] at horder
    exact horder.2 hlt
  · exact Or.inr ⟨rfl, hrest⟩

end RepairConsole.Text
