import RepairConsole.Window
/-!
# Values that may be missing

An empty text counts as not given. What is made of a value that was given, and is made of it only
then, is told by one relation.
-/

namespace RepairConsole

/-- The value was given, and is not the empty text. -/
def Gives (value : Option String) (raw : String) : Prop := value = some raw ∧ raw ≠ ""

def Absent (value : Option String) : Prop := ∀ raw, ¬ Gives value raw

theorem Gives.unique {value : Option String} {raw raw' : String} (h : Gives value raw)
    (h' : Gives value raw') : raw = raw' :=
  Option.some.inj (h.1.symm.trans h'.1)

theorem given_eq_some_iff {value : Option String} {raw : String} :
    given value = some raw ↔ Gives value raw := by
  simp [given, Gives, Option.filter_eq_some_iff]

theorem given_eq_none_iff {value : Option String} : given value = none ↔ Absent value := by
  rw [Option.eq_none_iff_forall_ne_some]
  simp only [ne_eq, given_eq_some_iff]
  rfl

theorem isNone_given {value : Option String} : (given value).isNone = true ↔ Absent value := by
  rw [Option.isNone_iff_eq_none, given_eq_none_iff]

theorem isSome_given {value : Option String} : (given value).isSome = true ↔ ¬ Absent value := by
  rw [← given_eq_none_iff, Option.isSome_iff_ne_none]

/-! ## Checks -/

section Checked

variable {α β : Type} {value : Option String} {check : String → Except Fault α}
  {result : Option α}

/-- The value was given and does not pass the check. -/
def Refused (value : Option String) (check : String → Except Fault α) (fault : Fault) : Prop :=
  ∃ raw, Gives value raw ∧ check raw = .error fault

theorem Refused.not_absent {fault : Fault} (h : Refused value check fault) : ¬ Absent value := by
  obtain ⟨raw, hraw, -⟩ := h
  exact fun absent => absent raw hraw

theorem Refused.unique {fault fault' : Fault} (h : Refused value check fault)
    (h' : Refused value check fault') : fault = fault' := by
  obtain ⟨raw, hraw, hcheck⟩ := h
  obtain ⟨raw', hraw', hcheck'⟩ := h'
  rw [hraw'.unique hraw, hcheck] at hcheck'
  exact Except.error.inj hcheck'

/-- All that the check of a value comes to where it is made only if the value was given. -/
inductive Checked (value : Option String) (check : String → Except Fault α) :
    Except Fault (Option α) → Prop
  | missing (absent : Absent value) : Checked value check (.ok none)
  | read {raw : String} {a : α} (gives : Gives value raw) (ok : check raw = .ok a) :
    Checked value check (.ok (some a))
  | refused {fault : Fault} (refused : Refused value check fault) :
    Checked value check (.error fault)

theorem checked_mapM (value : Option String) (check : String → Except Fault α) :
    Checked value check ((given value).mapM check) := by
  cases hvalue : given value with
  | none => exact .missing (given_eq_none_iff.1 hvalue)
  | some raw =>
    have hgives := given_eq_some_iff.1 hvalue
    rw [Option.mapM_some]
    cases hcheck : check raw with
    | error fault => exact .refused ⟨raw, hgives, hcheck⟩
    | ok a => exact .read hgives hcheck

theorem Checked.not_refused (h : Checked value check (.ok result)) (fault : Fault) :
    ¬ Refused value check fault := by
  rintro ⟨raw, hraw, hcheck⟩
  cases h with
  | missing absent => exact absent raw hraw
  | read gives ok =>
    rw [hraw.unique gives, ok] at hcheck
    cases hcheck

theorem Checked.isSome_iff (h : Checked value check (.ok result)) :
    result.isSome = true ↔ ¬ Absent value := by
  cases h with
  | missing absent => exact iff_of_false (by simp) fun hnot => hnot absent
  | read gives _ => exact iff_of_true rfl fun absent => absent _ gives

/-- The result is there if and only if the value was given and passed its check. -/
def Reads (value : Option String) (check : String → Except Fault α) (result : Option α) : Prop :=
  ∀ a, result = some a ↔ ∃ raw, Gives value raw ∧ check raw = .ok a

theorem Checked.reads (h : Checked value check (.ok result)) : Reads value check result := by
  intro a
  cases h with
  | missing absent => exact iff_of_false nofun fun ⟨raw, hraw, _⟩ => absent raw hraw
  | @read raw b gives ok =>
    rw [Option.some_inj]
    constructor
    · rintro rfl
      exact ⟨raw, gives, ok⟩
    · rintro ⟨raw', gives', ok'⟩
      rw [gives'.unique gives, ok] at ok'
      exact Except.ok.inj ok'

theorem map_eq_ok_iff {x : Except Fault α} {f : α → β} {b : β} :
    x.map f = .ok b ↔ ∃ a, x = .ok a ∧ f a = b := by
  cases x <;> simp [Except.map]

theorem Reads.map (h : Reads value check result) (f : α → β) :
    Reads value (fun raw => (check raw).map f) (result.map f) := by
  intro b
  simp only [Option.map_eq_some_iff, map_eq_ok_iff]
  constructor
  · rintro ⟨a, ha, rfl⟩
    obtain ⟨raw, hraw, hcheck⟩ := (h a).1 ha
    exact ⟨raw, hraw, a, hcheck, rfl⟩
  · rintro ⟨raw, hraw, a, hcheck, rfl⟩
    exact ⟨a, (h a).2 ⟨raw, hraw, hcheck⟩, rfl⟩

end Checked
end RepairConsole
