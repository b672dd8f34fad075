import RepairConsole.Proofs.Text.Trim
/-!
# The lines of a text

A text is cut at its line feeds, and a carriage return right before one goes with it.
-/

namespace RepairConsole.Text

/-- The lines of a text, without what ends them. -/
inductive Lines : List Char → List (List Char) → Prop
  | none : Lines [] []
  | unfinished {line : List Char} (unbroken : '\n' ∉ line) (nonempty : line ≠ []) :
    Lines line [line]
  | fed {line rest : List Char} {later : List (List Char)} (unbroken : '\n' ∉ line)
    (plain : line.getLast? ≠ some '\r') (lines : Lines rest later) :
    Lines (line ++ '\n' :: rest) (line :: later)
  | returned {line rest : List Char} {later : List (List Char)} (unbroken : '\n' ∉ line)
    (lines : Lines rest later) : Lines (line ++ '\r' :: '\n' :: rest) (line :: later)

theorem Lines.eq_linesFrom {cs : List Char} {all : List (List Char)} (h : Lines cs all) :
    linesFrom [] cs = all := by
  induction h with
  | none => rfl
  | unfinished unbroken nonempty => exact linesFrom_of_notFeed unbroken nonempty
  | @fed line rest later unbroken plain _ ih =>
    have hplain : (line.reverse ++ []).head? ≠ some '\r' := by simpa using plain
    rw [linesFrom_append_feed unbroken, closeLine_of_head hplain, ih]
    simp
  | @returned line rest later unbroken _ ih =>
    have hunbroken : '\n' ∉ line ++ ['\r'] := by simp [unbroken]
    rw [List.append_cons, linesFrom_append_feed hunbroken, ih]
    simp [closeLine]

theorem exists_lines (cs : List Char) : ∃ all, Lines cs all := by
  -- On the length: what follows the first line feed is a shorter text.
  induction hlength : cs.length using Nat.strong_induction_on generalizing cs with
  | _ length ih =>
    rcases span_cases (· != '\n') cs with ⟨-, hall⟩ | ⟨front, c, rest, rfl, hfront, hc, -⟩
    · have hunbroken : '\n' ∉ cs := fun h => absurd (hall _ h) (by simp)
      by_cases hnil : cs = []
      · exact ⟨[], hnil ▸ .none⟩
      · exact ⟨[cs], .unfinished hunbroken hnil⟩
    · obtain rfl : c = '\n' := by simpa using hc
      have hunbroken : '\n' ∉ front := fun h => absurd (hfront _ h) (by simp)
      have hshorter : rest.length < length := by
        rw [← hlength, List.length_append, List.length_cons]
        omega
      obtain ⟨later, hlater⟩ := ih rest.length hshorter rest rfl
      by_cases hlast : front.getLast? = some '\r'
      · obtain ⟨line, rfl⟩ := List.getLast?_eq_some_iff.1 hlast
        refine ⟨line :: later, ?_⟩
        rw [List.append_assoc]
        exact .returned (fun h => hunbroken (List.mem_append_left _ h)) hlater
      · exact ⟨front :: later, .fed hunbroken hlast hlater⟩

theorem lines_linesFrom (cs : List Char) : Lines cs (linesFrom [] cs) := by
  obtain ⟨all, hall⟩ := exists_lines cs
  rw [hall.eq_linesFrom]
  exact hall

end RepairConsole.Text
