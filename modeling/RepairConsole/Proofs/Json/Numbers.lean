import RepairConsole.Json.Token
import RepairConsole.Text.Digits
/-!
# Numbers between tokens

A number is an optional minus, a whole part without needless zeros, and perhaps a fraction and
an exponent. The reader holds its numeral at each point where it may end.
-/

namespace RepairConsole.Json

open Decimal Text

/-- A zero alone, or digits of which the first is no zero. -/
def IsWhole (cs : List Char) : Prop := cs = ['0'] ∨ (allDigits cs = true ∧ cs.head? ≠ some '0')

/-- What stands after the whole part, and the digits of it. -/
inductive Fraction : List Char → List Char → Prop
  | absent : Fraction [] []
  | digits {ds : List Char} (h : allDigits ds = true) : Fraction ('.' :: ds) ds

/-- What stands at the end, and the power of ten that it means. -/
inductive Exponent : List Char → Int → Prop
  | absent : Exponent [] 0
  | unsigned {mark : Char} {ds : List Char} (hmark : mark = 'e' ∨ mark = 'E')
    (h : allDigits ds = true) : Exponent (mark :: ds) (digitsValue ds)
  | plus {mark : Char} {ds : List Char} (hmark : mark = 'e' ∨ mark = 'E')
    (h : allDigits ds = true) : Exponent (mark :: '+' :: ds) (digitsValue ds)
  | minus {mark : Char} {ds : List Char} (hmark : mark = 'e' ∨ mark = 'E')
    (h : allDigits ds = true) : Exponent (mark :: '-' :: ds) (-digitsValue ds)

/-- A numeral, and characters that write it. -/
inductive WrittenNumeral : Numeral → List Char → Prop
  | mk {whole point ds mark : List Char} {power : Int} (negative : Bool) (hwhole : IsWhole whole)
    (hpoint : Fraction point ds) (hmark : Exponent mark power) :
    WrittenNumeral
      ⟨negative, digitsValue (whole ++ ds), ds.length, power, point = [] ∧ mark = []⟩
      ((if negative then ['-'] else []) ++ whole ++ point ++ mark)

/-! ## Digits in a row -/

theorem exists_cons_of_allDigits {cs : List Char} (h : allDigits cs = true) :
    ∃ c rest, cs = c :: rest ∧ c.isDigit = true ∧ ∀ d ∈ rest, d.isDigit = true := by
  cases cs with
  | nil => simp [allDigits] at h
  | cons c rest => exact ⟨c, rest, rfl, by simpa [allDigits] using h⟩

namespace Lexer

theorem step_number {done : List Token} {d d' : Digits} {phase phase' : Phase} {c : Char}
    (h : d.next? phase c = some (d', phase')) :
    step ⟨done, .number d phase⟩ c = some ⟨done, .number d' phase'⟩ := by
  simp [step, h]

section Run

-- A part of a number is known by the value of its digits and by how many there are.
variable (part : Nat → Nat → Digits) (first phase : Phase) {cs : List Char}

theorem foldlM_digits (hnext : ∀ n k c, c.isDigit = true →
      (part n k).next? phase c = some (part (10 * n + (c.toNat - 48)) (k + 1), phase))
    (h : ∀ c ∈ cs, c.isDigit = true) (done : List Token) (n k : Nat) :
    cs.foldlM step ⟨done, .number (part n k) phase⟩ =
      some ⟨done, .number
        (part (cs.foldl (fun n c => 10 * n + (c.toNat - 48)) n) (k + cs.length)) phase⟩ := by
  induction cs generalizing n k with
  | nil => rfl
  | cons c cs ih =>
    obtain ⟨hc, hcs⟩ := List.forall_mem_cons.1 h
    have hrest := ih hcs (10 * n + (c.toNat - 48)) (k + 1)
    rw [List.foldlM_cons, step_number (hnext n k c hc), List.length_cons, List.foldl_cons,
      Nat.add_comm cs.length, ← Nat.add_assoc]
    exact hrest

/-- The first digit may lead to another phase. -/
theorem foldlM_allDigits (n k : Nat) (hfirst : ∀ c, c.isDigit = true →
      (part n k).next? first c = some (part (10 * n + (c.toNat - 48)) (k + 1), phase))
    (hnext : ∀ n k c, c.isDigit = true →
      (part n k).next? phase c = some (part (10 * n + (c.toNat - 48)) (k + 1), phase))
    (h : allDigits cs = true) (done : List Token) :
    cs.foldlM step ⟨done, .number (part n k) first⟩ =
      some ⟨done, .number
        (part (cs.foldl (fun n c => 10 * n + (c.toNat - 48)) n) (k + cs.length)) phase⟩ := by
  obtain ⟨c, rest, rfl, hc, hrest⟩ := exists_cons_of_allDigits h
  have hdigits := foldlM_digits part phase hnext hrest done (10 * n + (c.toNat - 48)) (k + 1)
  rw [List.foldlM_cons, step_number (hfirst c hc), List.length_cons, List.foldl_cons,
    Nat.add_comm rest.length, ← Nat.add_assoc]
  exact hdigits

end Run

/-! ## Part by part -/

theorem stepGap_digit {c : Char} (hc : c.isDigit = true) (hzero : c ≠ '0') (done : List Token) :
    stepGap done c = some ⟨done, .number ⟨false, c.toNat - 48, 0, false, 0⟩ .whole⟩ := by
  unfold stepGap
  split <;> first | exact absurd hc (by decide) | exact absurd rfl hzero | simp [hc, Digits.start]

theorem foldlM_whole {whole : List Char} (h : IsWhole whole) (negative : Bool)
    (done : List Token) :
    ∃ phase, (phase = .zero ∨ phase = .whole) ∧
      ((if negative then ['-'] else []) ++ whole).foldlM step ⟨done, .gap⟩ =
        some ⟨done, .number ⟨negative, digitsValue whole, 0, false, 0⟩ phase⟩ := by
  rcases h with rfl | ⟨h, hhead⟩
  · refine ⟨.zero, Or.inl rfl, ?_⟩
    cases negative <;> rfl
  · obtain ⟨c, rest, rfl, hc, hrest⟩ := exists_cons_of_allDigits h
    have hzero : c ≠ '0' := fun heq => hhead (by rw [heq]; rfl)
    have hfirst : ((if negative then ['-'] else []) ++ [c]).foldlM step ⟨done, .gap⟩ =
        some ⟨done, .number ⟨negative, c.toNat - 48, 0, false, 0⟩ .whole⟩ := by
      cases negative with
      | false => simp [step, stepGap_digit hc hzero]
      | true => simp [step, stepGap, Digits.next?, Digits.start, hc, hzero]
    have hdigits := foldlM_digits (fun n _ => ⟨negative, n, 0, false, 0⟩) .whole
      (fun n k d hd => by simp [Digits.next?, hd]) hrest done (c.toNat - 48) 0
    have hvalue : digitsValue (c :: rest) =
        rest.foldl (fun n c => 10 * n + (c.toNat - 48)) (c.toNat - 48) := by simp [digitsValue]
    refine ⟨.whole, Or.inr rfl, ?_⟩
    rw [List.append_cons, List.foldlM_append, hfirst, Option.bind_eq_bind, Option.bind_some,
      hdigits, hvalue]

theorem foldlM_fraction {point ds : List Char} (h : Fraction point ds) {phase : Phase}
    (hphase : phase = .zero ∨ phase = .whole) (negative : Bool) (n : Nat) (done : List Token) :
    ∃ phase', (phase' = .zero ∨ phase' = .whole ∨ phase' = .fraction) ∧
      ((phase' = .zero ∨ phase' = .whole) ↔ point = []) ∧
      point.foldlM step ⟨done, .number ⟨negative, n, 0, false, 0⟩ phase⟩ =
        some ⟨done, .number ⟨negative, ds.foldl (fun n c => 10 * n + (c.toNat - 48)) n,
          ds.length, false, 0⟩ phase'⟩ := by
  cases h with
  | absent => exact ⟨phase, hphase.imp_right Or.inl, by simpa using hphase, rfl⟩
  | digits h =>
    have hpoint : step ⟨done, .number ⟨negative, n, 0, false, 0⟩ phase⟩ '.' =
        some ⟨done, .number ⟨negative, n, 0, false, 0⟩ .point⟩ := by
      rcases hphase with rfl | rfl <;> rfl
    have hdigits := foldlM_allDigits (fun n k => ⟨negative, n, k, false, 0⟩) .point .fraction n 0
      (fun d hd => by simp [Digits.next?, hd]) (fun n k d hd => by simp [Digits.next?, hd]) h done
    refine ⟨.fraction, Or.inr (Or.inr rfl), by simp, ?_⟩
    rw [List.foldlM_cons, hpoint, Option.bind_eq_bind, Option.bind_some, hdigits, Nat.zero_add]

theorem foldlM_exponent {mark : List Char} {power : Int} (h : Exponent mark power)
    {phase : Phase} (hphase : phase = .zero ∨ phase = .whole ∨ phase = .fraction)
    (negative : Bool) (n k : Nat) (done : List Token) :
    ∃ d phase', phase'.complete = true ∧
      d.numeral phase' = ⟨negative, n, k, power, (phase = .zero ∨ phase = .whole) ∧ mark = []⟩ ∧
      mark.foldlM step ⟨done, .number ⟨negative, n, k, false, 0⟩ phase⟩ =
        some ⟨done, .number d phase'⟩ := by
  have hmarked : ∀ c, c = 'e' ∨ c = 'E' → step ⟨done, .number ⟨negative, n, k, false, 0⟩ phase⟩ c =
      some ⟨done, .number ⟨negative, n, k, false, 0⟩ .mark⟩ := by
    rintro c (rfl | rfl) <;> rcases hphase with rfl | rfl | rfl <;> rfl
  have hdigits : ∀ first, first = .mark ∨ first = .markSign → ∀ below ds, allDigits ds = true →
      ds.foldlM step ⟨done, .number ⟨negative, n, k, below, 0⟩ first⟩ =
        some ⟨done, .number ⟨negative, n, k, below, digitsValue ds⟩ .exponent⟩ := by
    intro first hfirst below ds hds
    refine foldlM_allDigits (fun m _ => ⟨negative, n, k, below, m⟩) first .exponent 0 0 ?_
      (fun m _ c hc => by simp [Digits.next?, hc]) hds done
    intro c hc
    have hplus : c ≠ '+' := fun h => absurd (h ▸ hc) (by decide)
    have hminus : c ≠ '-' := fun h => absurd (h ▸ hc) (by decide)
    rcases hfirst with rfl | rfl <;> simp [Digits.next?, hc, hplus, hminus]
  cases h with
  | absent =>
    refine ⟨_, phase, ?_, ?_, rfl⟩
    · rcases hphase with rfl | rfl | rfl <;> rfl
    · simp [Digits.numeral]
  | @unsigned c ds hmark h =>
    refine ⟨⟨negative, n, k, false, digitsValue ds⟩, .exponent, rfl, by simp [Digits.numeral], ?_⟩
    rw [List.foldlM_cons, hmarked c hmark]
    exact hdigits .mark (Or.inl rfl) false ds h
  | @plus c ds hmark h =>
    refine ⟨⟨negative, n, k, false, digitsValue ds⟩, .exponent, rfl, by simp [Digits.numeral], ?_⟩
    rw [List.foldlM_cons, hmarked c hmark]
    exact hdigits .markSign (Or.inr rfl) false ds h
  | @minus c ds hmark h =>
    refine ⟨⟨negative, n, k, true, digitsValue ds⟩, .exponent, rfl, by simp [Digits.numeral], ?_⟩
    rw [List.foldlM_cons, hmarked c hmark]
    exact hdigits .markSign (Or.inr rfl) true ds h

/-- The reader is at the end of a number that may end there. -/
theorem foldlM_numeral {n : Numeral} {cs : List Char} (h : WrittenNumeral n cs)
    (done : List Token) :
    ∃ d phase, phase.complete = true ∧ d.numeral phase = n ∧
      cs.foldlM step ⟨done, .gap⟩ = some ⟨done, .number d phase⟩ := by
  obtain @⟨whole, point, ds, mark, power, negative, hwhole, hpoint, hmark⟩ := h
  obtain ⟨phase, hphase, hrun⟩ := foldlM_whole hwhole negative done
  obtain ⟨phase', hphase', hplain, hrun'⟩ :=
    foldlM_fraction hpoint hphase negative (digitsValue whole) done
  rw [← digitsValue_append] at hrun'
  obtain ⟨d, last, hcomplete, hnumeral, hrun''⟩ :=
    foldlM_exponent hmark hphase' negative (digitsValue (whole ++ ds)) ds.length done
  refine ⟨d, last, hcomplete, ?_, ?_⟩
  · rw [hnumeral]
    simp only [hplain]
  · rw [List.foldlM_append, List.foldlM_append, hrun, Option.bind_eq_bind, Option.bind_some, hrun',
      Option.bind_some, hrun'']

end Lexer
end RepairConsole.Json
