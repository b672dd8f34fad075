/-!
# Splitting at a mark

A text between marks is a list of parts, one more than there are marks. Putting the marks
back between the parts gives the text, and a list of parts without marks is read back as it
was.
-/

namespace RepairConsole.Text

/-- The parts of a text between the marks. -/
def splitAt (mark : Char) : List Char → List (List Char)
  | [] => [[]]
  | c :: rest =>
    if c = mark then [] :: splitAt mark rest
    else
      match splitAt mark rest with
      | [] => [[c]]
      | part :: parts => (c :: part) :: parts

/-- The parts with marks between them. -/
def joinWith (mark : Char) : List (List Char) → List Char
  | [] => []
  | [part] => part
  | part :: next :: parts => part ++ mark :: joinWith mark (next :: parts)

theorem splitAt_ne_nil (mark : Char) (cs : List Char) : splitAt mark cs ≠ [] := by
  cases cs with
  | nil => simp [splitAt]
  | cons c rest =>
    simp only [splitAt]
    split
    · simp
    · split <;> simp

theorem joinWith_cons_cons (mark c : Char) (part : List Char) (parts : List (List Char)) :
    joinWith mark ((c :: part) :: parts) = c :: joinWith mark (part :: parts) := by
  cases parts <;> rfl

theorem joinWith_splitAt (mark : Char) (cs : List Char) :
    joinWith mark (splitAt mark cs) = cs := by
  induction cs with
  | nil => rfl
  | cons c rest ih =>
    simp only [splitAt]
    cases h : splitAt mark rest with
    | nil => exact absurd h (splitAt_ne_nil mark rest)
    | cons part parts =>
      rw [h] at ih
      split
      · next hc => simp [joinWith, ih, hc]
      · simp [joinWith_cons_cons, ih]

theorem splitAt_of_not_mem {mark : Char} {part : List Char} (h : mark ∉ part) :
    splitAt mark part = [part] := by
  induction part with
  | nil => rfl
  | cons c rest ih =>
    have hc : c ≠ mark := fun e => h (by simp [e])
    have hr : mark ∉ rest := fun e => h (by simp [e])
    simp [splitAt, hc, ih hr]

theorem splitAt_append_mark {mark : Char} {part : List Char} (h : mark ∉ part)
    (rest : List Char) : splitAt mark (part ++ mark :: rest) = part :: splitAt mark rest := by
  induction part with
  | nil => simp [splitAt]
  | cons c more ih =>
    have hc : c ≠ mark := fun e => h (by simp [e])
    have hr : mark ∉ more := fun e => h (by simp [e])
    simp [splitAt, hc, ih hr]

theorem splitAt_joinWith {mark : Char} {parts : List (List Char)} (hne : parts ≠ [])
    (h : ∀ part ∈ parts, mark ∉ part) : splitAt mark (joinWith mark parts) = parts := by
  induction parts with
  | nil => exact absurd rfl hne
  | cons part parts ih =>
    cases parts with
    | nil => exact splitAt_of_not_mem (h part (by simp))
    | cons next more =>
      rw [joinWith, splitAt_append_mark (h part (by simp)),
        ih (by simp) fun p hp => h p (by simp [hp])]

theorem mem_joinWith {mark c : Char} {parts : List (List Char)} (h : c ∈ joinWith mark parts) :
    c = mark ∨ ∃ part ∈ parts, c ∈ part := by
  induction parts with
  | nil => nomatch h
  | cons part parts ih =>
    cases parts with
    | nil => exact Or.inr ⟨part, by simp, h⟩
    | cons next more =>
      rw [joinWith, List.mem_append, List.mem_cons] at h
      rcases h with h | h | h
      · exact Or.inr ⟨part, by simp, h⟩
      · exact Or.inl h
      · exact (ih h).imp_right fun ⟨p, hp, hc⟩ => ⟨p, List.mem_cons_of_mem _ hp, hc⟩

/-! ## Parts of a text -/

/-- Whether a part stands somewhere in a text. An empty one does everywhere. -/
def isWithin (part : List Char) : List Char → Bool
  | [] => part.isEmpty
  | c :: rest => part.isPrefixOf (c :: rest) || isWithin part rest

end RepairConsole.Text
