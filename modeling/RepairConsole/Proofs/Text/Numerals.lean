import RepairConsole.Text.Blank
import RepairConsole.Text.Digits
import RepairConsole.Text.Lines
/-!
# Numerals

The digits that a number is written in are read back as that number, and neither lines nor
blanks come into it.
-/

namespace RepairConsole.Text

theorem isDigit_of_mem_repr {n : Nat} {c : Char} (h : c ∈ (Nat.repr n).toList) :
    c.isDigit = true := by
  rw [Nat.toList_repr] at h
  exact Nat.isDigit_of_mem_toDigits (by decide) (by decide) h

theorem digitsValue_repr (n : Nat) : digitsValue (Nat.repr n).toList = n := by
  rw [Nat.toList_repr]
  exact Nat.ofDigitChars_ten_toDigits

theorem allDigits_repr (n : Nat) : allDigits (Nat.repr n).toList = true := by
  rw [allDigits, Bool.and_eq_true]
  refine ⟨?_, List.all_eq_true.2 fun c hc => isDigit_of_mem_repr hc⟩
  simp [Nat.toDigits_ne_nil]

theorem readDigits?_repr (n : Nat) : readDigits? (Nat.repr n).toList = some n := by
  rw [readDigits?, if_pos (allDigits_repr n), digitsValue_repr]

theorem allDigits_iff {cs : List Char} :
    allDigits cs = true ↔ cs ≠ [] ∧ ∀ c ∈ cs, c.isDigit = true := by
  simp [allDigits]

theorem readDigits?_eq_some_iff {cs : List Char} {n : Nat} :
    readDigits? cs = some n ↔
      (cs ≠ [] ∧ ∀ c ∈ cs, c.isDigit = true) ∧ Nat.ofDigitChars 10 cs 0 = n := by
  rw [readDigits?, Option.ite_none_right_eq_some, allDigits_iff, Option.some_inj]
  rfl

theorem repr_injective {m n : Nat} (h : Nat.repr m = Nat.repr n) : m = n := by
  rw [← digitsValue_repr m, h, digitsValue_repr]

/-! ## Zeros in front -/

theorem toList_padDigits (width n : Nat) :
    (padDigits width n).toList =
      List.replicate (width - (Nat.repr n).length) '0' ++ (Nat.repr n).toList := by
  simp [padDigits]

theorem isDigit_of_mem_padDigits {width n : Nat} {c : Char}
    (h : c ∈ (padDigits width n).toList) : c.isDigit = true := by
  rw [toList_padDigits, List.mem_append] at h
  rcases h with hzero | hdigit
  · rw [List.eq_of_mem_replicate hzero]
    decide
  · exact isDigit_of_mem_repr hdigit

theorem digitsValue_replicate_zero (count : Nat) (cs : List Char) :
    digitsValue (List.replicate count '0' ++ cs) = digitsValue cs := by
  induction count with
  | zero => rfl
  | succ count ih => rw [List.replicate_succ, List.cons_append, digitsValue_zero_cons, ih]

theorem digitsValue_padDigits (width n : Nat) : digitsValue (padDigits width n).toList = n := by
  rw [toList_padDigits, digitsValue_replicate_zero, digitsValue_repr]

theorem length_padDigits {width n : Nat} (h : (Nat.repr n).length ≤ width) :
    (padDigits width n).toList.length = width := by
  rw [toList_padDigits, List.length_append, List.length_replicate, String.length_toList]
  omega

/-! ## A digit is no blank and ends no line -/

theorem toNat_of_isDigit {c : Char} (h : c.isDigit = true) : 48 ≤ c.toNat ∧ c.toNat ≤ 57 := by
  simp only [Char.isDigit, Bool.and_eq_true, decide_eq_true_eq] at h
  exact ⟨h.1, h.2⟩

theorem isBlank_of_isDigit {c : Char} (h : c.isDigit = true) : isBlank c = false := by
  have hn := toNat_of_isDigit h
  simp only [isBlank]
  generalize c.toNat = n at hn
  simp only [Bool.or_eq_false_iff, Bool.and_eq_false_iff, decide_eq_false_iff_not,
    beq_eq_false_iff_ne]
  omega

theorem dropBlanks_of_notBlank {cs : List Char} (h : ∀ c ∈ cs, isBlank c = false) :
    dropBlanks cs = cs := by
  cases cs with
  | nil => rfl
  | cons c rest => exact dropBlanks_of_head (h c List.mem_cons_self)

/-- Nothing is trimmed where neither end of a text is blank. -/
theorem trim_of_ends {s : String} {first last : Char} (hfirst : s.toList.head? = some first)
    (hlast : s.toList.getLast? = some last) (hfirstBlank : isBlank first = false)
    (hlastBlank : isBlank last = false) : trim s = s := by
  obtain ⟨after, hafter⟩ := List.head?_eq_some_iff.1 hfirst
  obtain ⟨before, hbefore⟩ := List.getLast?_eq_some_iff.1 hlast
  have hreverse : s.toList.reverse = last :: before.reverse := by simp [hbefore]
  rw [trim, dropBlanksEnd, hafter, dropBlanks_of_head hfirstBlank, ← hafter, hreverse,
    dropBlanks_of_head hlastBlank, ← hreverse, List.reverse_reverse, String.ofList_toList]

theorem trim_of_notBlank {s : String} (h : ∀ c ∈ s.toList, isBlank c = false) : trim s = s := by
  rw [trim, dropBlanks_of_notBlank h, dropBlanksEnd, dropBlanks_of_notBlank, List.reverse_reverse,
    String.ofList_toList]
  intro c hc
  exact h c (List.mem_reverse.1 hc)

theorem linesFrom_of_notFeed {reversed cs : List Char} (h : '\n' ∉ cs)
    (hne : reversed.reverse ++ cs ≠ []) :
    linesFrom reversed cs = [reversed.reverse ++ cs] := by
  induction cs generalizing reversed with
  | nil =>
    rw [linesFrom, if_neg, List.append_nil]
    intro hempty
    exact hne (by simp [List.isEmpty_iff.1 hempty])
  | cons c rest ih =>
    have hc : c ≠ '\n' := fun e => h (e ▸ List.mem_cons_self)
    rw [linesFrom, if_neg hc, ih (fun hr => h (List.mem_cons_of_mem _ hr)) (by simp)]
    simp

theorem firstLine_of_notFeed {s : String} (h : '\n' ∉ s.toList) : firstLine s = s := by
  by_cases hs : s.toList = []
  · rw [String.toList_eq_nil_iff.1 hs]
    rfl
  · rw [firstLine, lines, linesFrom_of_notFeed h (by simpa using hs)]
    simp

theorem firstLine_repr (n : Nat) : firstLine (Nat.repr n) = Nat.repr n := by
  apply firstLine_of_notFeed
  intro h
  exact absurd (isDigit_of_mem_repr h) (by decide)

theorem trim_repr (n : Nat) : trim (Nat.repr n) = Nat.repr n :=
  trim_of_notBlank fun _ hc => isBlank_of_isDigit (isDigit_of_mem_repr hc)

end RepairConsole.Text
