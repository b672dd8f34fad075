import RepairConsole.Proofs.Window.Grammar
/-!
# Components in order

A text can be cut into components in one way at most, and the scanner counts them wherever it can
be cut. Where a unit stands in the list of units more than once, a reader has a choice which of them
a component uses up. The scanner takes the first, and no other choice gets further with any text.
-/

namespace RepairConsole.Duration

/-! ## Reading with a choice of units -/

/-- Where the reading of components stands. -/
structure Progress where
  /-- The characters of the number under way. -/
  number : List Char
  /-- The units that may still come. -/
  units : List Char
  /-- How many components are complete. -/
  count : Nat

/-- The unit is taken where the list has it first, so it is none of those passed over. -/
def firstFit (passed : List Char) (unit : Char) : Prop := unit ∉ passed

/-- The unit may be taken wherever the list has it. -/
def anyFit (_passed : List Char) (_unit : Char) : Prop := True

namespace Progress

variable {choice : List Char → Char → Prop} {s t u : Progress} {c : Char} {units cs : List Char}
  {k : Nat}

/-- One more character is read. A unit completes a component, and those that stand before it in the
list may not come any more; `choice` says which it may pass over. -/
inductive Step (choice : List Char → Char → Prop) : Progress → Char → Progress → Prop
  | collect {number units : List Char} {count : Nat} {c : Char} (hchar : isNumberChar c = true) :
    Step choice ⟨number, units, count⟩ c ⟨number ++ [c], units, count⟩
  | complete {number passed later : List Char} {count : Nat} {unit : Char}
    (hunit : isNumberChar unit = false) (hnumber : isNumber (unit == 'S') number = true)
    (hchoice : choice passed unit) :
    Step choice ⟨number, passed ++ unit :: later, count⟩ unit ⟨[], later, count + 1⟩

/-- The characters of a text are read one after the other. -/
inductive Run (choice : List Char → Char → Prop) : Progress → List Char → Progress → Prop
  | done (s : Progress) : Run choice s [] s
  | read {s t u : Progress} {c : Char} {rest : List Char} (hstep : Step choice s c t)
    (hrest : Run choice t rest u) : Run choice s (c :: rest) u

theorem step_iff_of_numberChar (h : isNumberChar c = true) :
    Step choice s c t ↔ t = ⟨s.number ++ [c], s.units, s.count⟩ := by
  constructor
  · intro hstep
    cases hstep with
    | collect => rfl
    | complete hunit => rw [h] at hunit; cases hunit
  · rintro rfl
    exact .collect h

theorem step_iff_of_unit (h : isNumberChar c = false) :
    Step choice s c t ↔ isNumber (c == 'S') s.number = true ∧ ∃ passed later,
      choice passed c ∧ s.units = passed ++ c :: later ∧ t = ⟨[], later, s.count + 1⟩ := by
  constructor
  · intro hstep
    cases hstep with
    | collect hchar => rw [h] at hchar; cases hchar
    | complete _ hnumber hchoice => exact ⟨hnumber, _, _, hchoice, rfl, rfl⟩
  · obtain ⟨number, units, count⟩ := s
    rintro ⟨hnumber, passed, later, hchoice, rfl, rfl⟩
    exact .complete h hnumber hchoice

theorem run_nil_iff : Run choice s [] t ↔ s = t := by
  constructor
  · intro h
    cases h
    rfl
  · rintro rfl
    exact .done s

theorem run_cons_iff : Run choice s (c :: cs) u ↔ ∃ t, Step choice s c t ∧ Run choice t cs u := by
  constructor
  · intro h
    cases h with
    | read hstep hrest => exact ⟨_, hstep, hrest⟩
  · rintro ⟨t, hstep, hrest⟩
    exact .read hstep hrest

theorem Step.any (h : Step choice s c t) : Step anyFit s c t := by
  cases h with
  | collect hchar => exact .collect hchar
  | complete hunit hnumber => exact .complete hunit hnumber trivial

theorem Run.any (h : Run choice s cs t) : Run anyFit s cs t := by
  induction h with
  | done s => exact .done s
  | read hstep _ ih => exact .read hstep.any ih

/-! ## The first unit that fits -/

/-- The first has come as far as the second, and may still use all the units that the second may. -/
structure Covers (s t : Progress) : Prop where
  number : s.number = t.number
  units : t.units.Sublist s.units
  count : s.count = t.count

theorem Covers.refl (s : Progress) : Covers s s := ⟨rfl, List.Sublist.refl s.units, rfl⟩

theorem Covers.step (h : Covers s t) {t' : Progress} (hstep : Step choice t c t') :
    ∃ s', Step firstFit s c s' ∧ Covers s' t' := by
  cases hchar : isNumberChar c with
  | true =>
    obtain rfl := (step_iff_of_numberChar hchar).1 hstep
    refine ⟨_, (step_iff_of_numberChar hchar).2 rfl, ?_, h.units, h.count⟩
    exact congrArg (· ++ [c]) h.number
  | false =>
    obtain ⟨hnumber, passed, later, -, hunits, rfl⟩ := (step_iff_of_unit hchar).1 hstep
    -- Whatever the second takes and may take later is in the list of the first, in that order.
    have hfits : (c :: later).Sublist s.units :=
      ((List.sublist_append_right passed _).trans (hunits ▸ List.Sublist.refl _)).trans h.units
    obtain ⟨rest, hrest, hlater⟩ := cons_sublist_iff.1 hfits
    obtain ⟨front, hfront, heq⟩ := unitsAfter_eq_some_iff.1 hrest
    have hstep' : Step firstFit s c ⟨[], rest, s.count + 1⟩ :=
      (step_iff_of_unit hchar).2 ⟨h.number ▸ hnumber, front, rest, hfront, heq, rfl⟩
    exact ⟨_, hstep', rfl, hlater, congrArg (· + 1) h.count⟩

theorem Covers.run (h : Covers s t) {t' : Progress} (hrun : Run choice t cs t') :
    ∃ s', Run firstFit s cs s' ∧ Covers s' t' := by
  induction hrun generalizing s with
  | done t => exact ⟨s, .done s, h⟩
  | read hstep _ ih =>
    obtain ⟨next, hnext, hcovers⟩ := h.step hstep
    obtain ⟨last, hlast, hend⟩ := ih hcovers
    exact ⟨last, .read hnext hlast, hend⟩

/-- Some reading with these choices goes through the whole text and comes to `k` components. -/
def ReadsWith (choice : List Char → Char → Prop) (units cs : List Char) (k : Nat) : Prop :=
  ∃ left, Run choice ⟨[], units, 0⟩ cs ⟨[], left, k⟩

theorem ReadsWith.first (h : ReadsWith choice units cs k) : ReadsWith firstFit units cs k := by
  obtain ⟨left, hrun⟩ := h
  obtain ⟨⟨number, rest, count⟩, hfirst, hnumber, -, hcount⟩ := (Covers.refl _).run hrun
  obtain rfl : number = [] := hnumber
  obtain rfl : count = k := hcount
  exact ⟨rest, hfirst⟩

theorem ReadsWith.any (h : ReadsWith choice units cs k) : ReadsWith anyFit units cs k := by
  obtain ⟨left, hrun⟩ := h
  exact ⟨left, hrun.any⟩

/-! ## The scanner -/

theorem step_firstFit_iff (h : isNumberChar c = false) :
    Step firstFit s c t ↔ isNumber (c == 'S') s.number = true ∧
      ∃ later, unitsAfter c s.units = some later ∧ t = ⟨[], later, s.count + 1⟩ := by
  rw [step_iff_of_unit h]
  refine and_congr_right fun _ => ?_
  simp only [unitsAfter_eq_some_iff]
  constructor
  · rintro ⟨passed, later, hpassed, hunits, rfl⟩
    exact ⟨later, ⟨passed, hpassed, hunits⟩, rfl⟩
  · rintro ⟨later, ⟨passed, hpassed, hunits⟩, rfl⟩
    exact ⟨passed, later, hpassed, hunits, rfl⟩

/-- The scanner is the reading that takes the first unit, from any place on. -/
theorem run_firstFit_iff {reversed : List Char} {count : Nat} :
    (∃ left, Run firstFit ⟨reversed.reverse, units, count⟩ cs ⟨[], left, k⟩) ↔
      ∃ parts, componentsFrom reversed units cs = some parts ∧ count + parts.length = k := by
  -- What was collected is the number under way, so one step of the reading is one of the scanner.
  induction cs generalizing reversed units count with
  | nil =>
    simp only [run_nil_iff, componentsFrom_nil_iff]
    simp
  | cons c rest ih =>
    simp only [run_cons_iff]
    cases hc : isNumberChar c with
    | true =>
      simp only [step_iff_of_numberChar hc, componentsFrom_of_numberChar hc, exists_eq_left,
        ← List.reverse_cons]
      exact ih
    | false =>
      simp only [step_firstFit_iff hc, componentsFrom_of_unit_iff hc]
      constructor
      · rintro ⟨left, t, ⟨hnumber, later, hlater, rfl⟩, hrun⟩
        obtain ⟨tail, htail, hcount⟩ := (@ih later [] (count + 1)).1 ⟨left, hrun⟩
        refine ⟨_, ⟨hnumber, later, hlater, tail, htail, rfl⟩, ?_⟩
        rw [List.length_cons]
        omega
      · rintro ⟨_, ⟨hnumber, later, hlater, tail, htail, rfl⟩, hcount⟩
        rw [List.length_cons] at hcount
        obtain ⟨left, hrun⟩ := (@ih later [] (count + 1)).2 ⟨tail, htail, by omega⟩
        exact ⟨left, _, ⟨hnumber, later, hlater, rfl⟩, hrun⟩

theorem readsWith_firstFit_iff :
    ReadsWith firstFit units cs k ↔ (components units cs).map List.length = some k := by
  rw [ReadsWith, components, Option.map_eq_some_iff]
  simpa using @run_firstFit_iff units cs k [] 0

end Progress

/-! ## What is read -/

theorem length_components_iff {units cs : List Char} {k : Nat}
    (h : ∀ u ∈ units, isNumberChar u = false) :
    (components units cs).map List.length = some k ↔
      ∃ parts, InOrder units parts ∧ cs = written parts ∧ parts.length = k := by
  rw [Option.map_eq_some_iff]
  refine exists_congr fun parts => ?_
  rw [components_eq_some_iff h, and_assoc]

open Progress in
theorem first_fit_reads_all {units : List Char}
    (hunits : ∀ u ∈ units, u.isDigit = false ∧ u ≠ '.') (cs : List Char) :
    (∀ k, (components units cs).map List.length = some k ↔
      ∃ parts, InOrder units parts ∧ cs = written parts ∧ parts.length = k) ∧
    ((¬ ∃ parts, InOrder units parts ∧ cs = written parts) → components units cs = none) ∧
    (∀ parts parts', InOrder units parts → cs = written parts → InOrder units parts' →
      cs = written parts' → parts = parts') ∧
    (∀ k, (components units cs).map List.length = some k ↔ ReadsWith firstFit units cs k) ∧
    (∀ k, ReadsWith anyFit units cs k ↔ ReadsWith firstFit units cs k) := by
  have hmarks : ∀ u ∈ units, isNumberChar u = false :=
    fun u hu => isNumberChar_eq_false_iff.2 (hunits u hu)
  refine ⟨fun k => length_components_iff hmarks, ?_, ?_, fun k => readsWith_firstFit_iff.symm,
    fun k => ⟨ReadsWith.first, ReadsWith.any⟩⟩
  · intro hnot
    rw [Option.eq_none_iff_forall_not_mem]
    intro parts hparts
    exact hnot ⟨parts, (components_eq_some_iff hmarks).1 hparts⟩
  · intro parts parts' horder hcs horder' hcs'
    have hread := (components_eq_some_iff hmarks).2 ⟨horder, hcs⟩
    have hread' := (components_eq_some_iff hmarks).2 ⟨horder', hcs'⟩
    exact Option.some.inj (hread.symm.trans hread')

open Progress in
/-- Seconds could be taken from either end of this list, and only one of the two lets minutes
follow. -/
theorem first_fit_reads_all_repeated :
    let units := ['S', 'M', 'S']
    let cs := ['1', '.', '5', 'S', '2', 'M']
    (∀ u ∈ units, u.isDigit = false ∧ u ≠ '.') ∧
      (components units cs).map List.length = some 2 ∧
      (∃ parts, InOrder units parts ∧ cs = written parts ∧ parts.length = 2) ∧
      ReadsWith anyFit units cs 2 ∧
      ∀ k, ¬ ReadsWith anyFit units ['1', 'M', '2', 'M'] k := by
  intro units cs
  have hunits : ∀ u ∈ units, u.isDigit = false ∧ u ≠ '.' := by
    have hall : units.all (fun u => !u.isDigit && u != '.') = true := by decide
    simpa using List.all_eq_true.1 hall
  obtain ⟨hcut, -, -, hfirst, hany⟩ := first_fit_reads_all hunits cs
  obtain ⟨-, -, -, hfirst', hany'⟩ := first_fit_reads_all hunits ['1', 'M', '2', 'M']
  have hcount : (components units cs).map List.length = some 2 := by decide
  have hrefused : components units ['1', 'M', '2', 'M'] = none := by decide
  refine ⟨hunits, hcount, (hcut 2).1 hcount, (hany 2).2 ((hfirst 2).1 hcount), fun k hk => ?_⟩
  have hnone := (hfirst' k).2 ((hany' k).1 hk)
  rw [hrefused] at hnone
  cases hnone

end RepairConsole.Duration
