import RepairConsole.Text.Split
/-!
# The parts between marks

No part holds a mark, and the parts tell the text.
-/

namespace RepairConsole.Text

theorem splitAt_append (mark : Char) (front rest : List Char) :
    splitAt mark (front ++ mark :: rest) = splitAt mark front ++ splitAt mark rest := by
  induction front with
  | nil => simp [splitAt]
  | cons c front ih =>
    rw [List.cons_append, splitAt, ih, splitAt]
    split
    · rfl
    · cases hfront : splitAt mark front with
      | nil => exact absurd hfront (splitAt_ne_nil mark front)
      | cons part parts => rfl

theorem not_mem_of_mem_splitAt {mark : Char} {cs part : List Char} (h : part ∈ splitAt mark cs) :
    mark ∉ part := by
  induction cs generalizing part with
  | nil =>
    rw [List.mem_singleton.1 h]
    exact List.not_mem_nil
  | cons c rest ih =>
    rw [splitAt] at h
    split at h
    · rcases List.mem_cons.1 h with rfl | hrest
      · exact List.not_mem_nil
      · exact ih hrest
    · next hc =>
      cases hsplit : splitAt mark rest with
      | nil => exact absurd hsplit (splitAt_ne_nil mark rest)
      | cons first parts =>
        rw [hsplit] at h ih
        rcases List.mem_cons.1 h with rfl | hparts
        · rw [List.mem_cons, not_or]
          exact ⟨Ne.symm hc, ih List.mem_cons_self⟩
        · exact ih (List.mem_cons_of_mem _ hparts)

theorem splitAt_injective {mark : Char} {cs cs' : List Char}
    (h : splitAt mark cs = splitAt mark cs') : cs = cs' := by
  rw [← joinWith_splitAt mark cs, h, joinWith_splitAt]

/-- What has no mark goes to the first part of what follows. -/
theorem splitAt_append_left {mark : Char} {front rest first : List Char} {parts : List (List Char)}
    (hfront : mark ∉ front) (h : splitAt mark rest = first :: parts) :
    splitAt mark (front ++ rest) = (front ++ first) :: parts := by
  induction front with
  | nil => exact h
  | cons c front ih =>
    rw [List.mem_cons, not_or] at hfront
    rw [List.cons_append, splitAt, if_neg (Ne.symm hfront.1), ih hfront.2]
    rfl

theorem splitAt_intercalate (mark : Char) {parts : List String} (h : parts ≠ []) :
    splitAt mark ((String.singleton mark).intercalate parts).toList =
      parts.flatMap fun part => splitAt mark part.toList := by
  induction parts with
  | nil => exact absurd rfl h
  | cons part parts ih =>
    cases parts with
    | nil => simp
    | cons next more =>
      rw [String.intercalate_cons_cons, String.toList_append, String.toList_append,
        String.toList_singleton, List.append_assoc, List.singleton_append, splitAt_append,
        ih (List.cons_ne_nil _ _)]
      rfl

theorem splitAt_intercalate_of_not_mem {mark : Char} {parts : List String} (hne : parts ≠ [])
    (h : ∀ part ∈ parts, mark ∉ part.toList) :
    splitAt mark ((String.singleton mark).intercalate parts).toList = parts.map String.toList := by
  have hparts : parts.map (fun part => splitAt mark part.toList) =
      parts.map fun part => [part.toList] :=
    List.map_congr_left fun part hpart => splitAt_of_not_mem (h part hpart)
  rw [splitAt_intercalate mark hne, List.flatMap_def, hparts, ← List.flatMap_def,
    List.map_eq_flatMap]

theorem joinWith_eq_intercalate (mark : Char) (parts : List (List Char)) :
    joinWith mark parts = [mark].intercalate parts := by
  induction parts with
  | nil => rfl
  | cons part parts ih =>
    cases parts with
    | nil => simp [joinWith]
    | cons next more =>
      rw [joinWith, ih, List.intercalate_cons_cons, List.append_assoc, List.singleton_append]

theorem splitOn_eq_splitAt (mark : Char) (cs : List Char) : cs.splitOn mark = splitAt mark cs := by
  conv => lhs; rw [← joinWith_splitAt mark cs, joinWith_eq_intercalate]
  exact List.splitOn_intercalate mark (fun _ h => not_mem_of_mem_splitAt h) (splitAt_ne_nil mark cs)

theorem not_mem_of_mem_splitOn {mark : Char} {cs part : List Char} (h : part ∈ cs.splitOn mark) :
    mark ∉ part := by
  rw [splitOn_eq_splitAt] at h
  exact not_mem_of_mem_splitAt h

theorem mem_joinWith_of_mem {mark c : Char} {parts : List (List Char)} {part : List Char}
    (hpart : part ∈ parts) (hc : c ∈ part) : c ∈ joinWith mark parts := by
  rw [joinWith_eq_intercalate]
  induction parts with
  | nil => exact absurd hpart List.not_mem_nil
  | cons first parts ih =>
    cases parts with
    | nil =>
      obtain rfl := List.mem_singleton.1 hpart
      rwa [List.intercalate_singleton]
    | cons next more =>
      rw [List.intercalate_cons_cons, List.mem_append, List.mem_append]
      rcases List.mem_cons.1 hpart with rfl | hrest
      · exact Or.inl (Or.inl hc)
      · exact Or.inr (ih hrest)

theorem mem_of_mem_splitOn {mark c : Char} {cs part : List Char} (h : part ∈ cs.splitOn mark)
    (hc : c ∈ part) : c ∈ cs := by
  rw [splitOn_eq_splitAt] at h
  rw [← joinWith_splitAt mark cs]
  exact mem_joinWith_of_mem h hc

theorem mem_intercalate {mark c : Char} {parts : List (List Char)}
    (h : c ∈ [mark].intercalate parts) : c = mark ∨ ∃ part ∈ parts, c ∈ part := by
  rw [← joinWith_eq_intercalate] at h
  exact mem_joinWith h

end RepairConsole.Text
