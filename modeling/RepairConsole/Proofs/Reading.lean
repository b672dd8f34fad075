/-!
# Reading in steps

What is read in steps is read if every step succeeds. A list is read item by item, and what comes
of it has as many items.
-/

namespace RepairConsole

theorem bind_eq_ok {ε α β : Type} {x : Except ε α} {next : α → Except ε β} {b : β}
    (h : x >>= next = .ok b) : ∃ a, x = .ok a ∧ next a = .ok b := by
  cases x with
  | error e => cases h
  | ok a => exact ⟨a, rfl, h⟩

variable {α β : Type} {read : β → Option α} {items : List β} {values : List α}

theorem mapM_map_of_mem {write : α → β} {as : List α} (h : ∀ a ∈ as, read (write a) = some a) :
    (as.map write).mapM read = some as := by
  induction as with
  | nil => rfl
  | cons a as ih =>
    obtain ⟨ha, has⟩ := List.forall_mem_cons.1 h
    rw [List.map_cons, List.mapM_cons, ha, ih has]
    rfl

theorem mapM_map_of_inverse {write : α → β} (h : ∀ a, read (write a) = some a) (as : List α) :
    (as.map write).mapM read = some as :=
  mapM_map_of_mem fun a _ => h a

theorem mapM_eq_some_map {value : β → α} (h : ∀ item ∈ items, read item = some (value item)) :
    items.mapM read = some (items.map value) := by
  induction items with
  | nil => rfl
  | cons item items ih =>
    obtain ⟨hitem, hitems⟩ := List.forall_mem_cons.1 h
    rw [List.mapM_cons, hitem, ih hitems]
    rfl

theorem mapM_cons_eq_some {item : β} (h : (item :: items).mapM read = some values) :
    ∃ value rest, read item = some value ∧ items.mapM read = some rest ∧
      values = value :: rest := by
  rw [List.mapM_cons] at h
  obtain ⟨value, hvalue, h⟩ := Option.bind_eq_some_iff.1 h
  obtain ⟨rest, hrest, h⟩ := Option.bind_eq_some_iff.1 h
  exact ⟨value, rest, hvalue, hrest, (Option.some.inj h).symm⟩

theorem forall_mem_of_mapM {P : α → Prop} (h : ∀ item value, read item = some value → P value)
    (hread : items.mapM read = some values) : ∀ value ∈ values, P value := by
  induction items generalizing values with
  | nil =>
    cases hread
    exact List.forall_mem_nil _
  | cons item items ih =>
    obtain ⟨value, rest, hvalue, hrest, rfl⟩ := mapM_cons_eq_some hread
    exact List.forall_mem_cons.2 ⟨h item value hvalue, ih hrest⟩

theorem length_of_mapM (h : items.mapM read = some values) : values.length = items.length := by
  induction items generalizing values with
  | nil =>
    cases h
    rfl
  | cons item items ih =>
    obtain ⟨value, rest, -, hrest, rfl⟩ := mapM_cons_eq_some h
    rw [List.length_cons, List.length_cons, ih hrest]

end RepairConsole
