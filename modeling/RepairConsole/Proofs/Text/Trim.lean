import Mathlib.Data.List.TakeWhile
import RepairConsole.Proofs.Text.Cut
import RepairConsole.Proofs.Text.Numerals
/-!
# What trimming leaves, and the first line

A text is the blanks that trimming takes away with what it leaves between them. The first line of a
text goes up to its first line feed, and a carriage return right before that is not part of it.
-/

namespace RepairConsole.Text

/-! ## Blanks around a text -/

def AllBlank (cs : List Char) : Prop := ∀ c ∈ cs, isBlank c = true

theorem dropBlanksEnd_append {cs blanks : List Char} (h : AllBlank blanks) :
    dropBlanksEnd (cs ++ blanks) = dropBlanksEnd cs := by
  unfold dropBlanksEnd dropBlanks
  rw [List.reverse_append, List.dropWhile_append_of_pos]
  intro c hc
  exact h c (List.mem_reverse.1 hc)

theorem exists_blanks (cs : List Char) :
    ∃ blanks, cs = dropBlanksEnd cs ++ blanks ∧ AllBlank blanks := by
  refine ⟨(cs.reverse.takeWhile isBlank).reverse, ?_, fun c hc => ?_⟩
  · unfold dropBlanksEnd dropBlanks
    rw [← List.reverse_append, List.takeWhile_append_dropWhile, List.reverse_reverse]
  · exact List.mem_takeWhile_imp (List.mem_reverse.1 hc)

theorem exists_trim (s : String) :
    ∃ before after, s.toList = before ++ ((trim s).toList ++ after) ∧
      AllBlank before ∧ AllBlank after := by
  obtain ⟨after, hafter, hblank⟩ := exists_blanks (dropBlanks s.toList)
  refine ⟨s.toList.takeWhile isBlank, after, ?_, fun c hc => List.mem_takeWhile_imp hc, hblank⟩
  unfold trim
  rw [String.toList_ofList, ← hafter]
  exact List.takeWhile_append_dropWhile.symm

/-- The core of a text: nothing but blanks is around it, and it neither starts nor ends with one. -/
structure Trimmed (cs core : List Char) : Prop where
  around : ∃ before after, cs = before ++ (core ++ after) ∧ AllBlank before ∧ AllBlank after
  first : ∀ c, core.head? = some c → isBlank c = false
  last : ∀ c, core.getLast? = some c → isBlank c = false

theorem trimmed_trim (s : String) : Trimmed s.toList (trim s).toList := by
  have hcore : (trim s).toList = dropBlanksEnd (dropBlanks s.toList) := String.toList_ofList
  refine ⟨exists_trim s, fun c hfirst => ?_, fun c hlast => ?_⟩
  · obtain ⟨blanks, hblanks, -⟩ := exists_blanks (dropBlanks s.toList)
    obtain ⟨after, hafter⟩ := List.head?_eq_some_iff.1 hfirst
    rw [← hcore, hafter, List.cons_append] at hblanks
    exact head_dropBlanks hblanks
  · rw [hcore, dropBlanksEnd, List.getLast?_reverse] at hlast
    obtain ⟨before, hbefore⟩ := List.head?_eq_some_iff.1 hlast
    exact head_dropBlanks hbefore

/-- A text has no other core than what trimming leaves of it. -/
theorem Trimmed.trim_eq {s : String} {core : List Char} (h : Trimmed s.toList core) :
    trim s = String.ofList core := by
  obtain ⟨⟨before, after, hs, hbefore, hafter⟩, hfirst, hlast⟩ := h
  have hfront : dropBlanks s.toList = dropBlanks (core ++ after) := by
    rw [hs]
    exact List.dropWhile_append_of_pos hbefore
  cases core with
  | nil =>
    have hnone : dropBlanks after = [] := List.dropWhile_eq_nil_iff.2 hafter
    rw [trim, hfront, List.nil_append, hnone]
    rfl
  | cons c rest =>
    have hend : dropBlanks (c :: rest).reverse = (c :: rest).reverse := by
      obtain ⟨last, before, hreverse⟩ :=
        List.exists_cons_of_ne_nil (List.reverse_ne_nil_iff.2 (List.cons_ne_nil c rest))
      rw [hreverse, dropBlanks_of_head]
      apply hlast
      rw [← List.head?_reverse, hreverse, List.head?_cons]
    rw [trim, hfront, List.cons_append, dropBlanks_of_head (hfirst c rfl), ← List.cons_append,
      dropBlanksEnd_append hafter, dropBlanksEnd, hend, List.reverse_reverse]

theorem trim_append {before core after : List Char} (hbefore : AllBlank before)
    (hcore : ∀ c ∈ core, isBlank c = false) (hafter : AllBlank after) :
    trim (String.ofList (before ++ (core ++ after))) = String.ofList core := by
  apply Trimmed.trim_eq
  rw [String.toList_ofList]
  refine ⟨⟨before, after, rfl, hbefore, hafter⟩, fun c hfirst => ?_, fun c hlast => ?_⟩
  · exact hcore c (List.mem_of_head? hfirst)
  · exact hcore c (List.mem_of_getLast? hlast)

/-! ## First lines -/

/-- The line is the first of a text. -/
inductive FirstLine : List Char → List Char → Prop
  /-- Where there is no line feed, all of the text is. -/
  | whole {line : List Char} (unbroken : '\n' ∉ line) : FirstLine line line
  | fed {line : List Char} (rest : List Char) (unbroken : '\n' ∉ line)
    (plain : line.getLast? ≠ some '\r') : FirstLine (line ++ '\n' :: rest) line
  | returned {line : List Char} (rest : List Char) (unbroken : '\n' ∉ line) :
    FirstLine (line ++ '\r' :: '\n' :: rest) line

theorem exists_firstLine (cs : List Char) : ∃ line, FirstLine cs line := by
  rcases span_cases (· != '\n') cs with ⟨-, hall⟩ | ⟨front, c, rest, rfl, hfront, hc, -⟩
  · exact ⟨cs, .whole fun h => absurd (hall _ h) (by simp)⟩
  · obtain rfl : c = '\n' := by simpa using hc
    have hunbroken : '\n' ∉ front := fun h => absurd (hfront _ h) (by simp)
    by_cases hlast : front.getLast? = some '\r'
    · obtain ⟨line, rfl⟩ := List.getLast?_eq_some_iff.1 hlast
      refine ⟨line, ?_⟩
      rw [List.append_assoc]
      exact .returned rest fun h => hunbroken (List.mem_append_left _ h)
    · exact ⟨front, .fed rest hunbroken hlast⟩

theorem linesFrom_append_feed {front : List Char} (h : '\n' ∉ front) (reversed rest : List Char) :
    linesFrom reversed (front ++ '\n' :: rest) =
      closeLine (front.reverse ++ reversed) :: linesFrom [] rest := by
  induction front generalizing reversed with
  | nil => simp [linesFrom]
  | cons c front ih =>
    have hc : c ≠ '\n' := fun e => h (e ▸ List.mem_cons_self)
    rw [List.cons_append, linesFrom, if_neg hc, ih fun hf => h (List.mem_cons_of_mem _ hf)]
    simp

theorem closeLine_of_head {reversed : List Char} (h : reversed.head? ≠ some '\r') :
    closeLine reversed = reversed.reverse := by
  unfold closeLine
  split
  · exact absurd rfl h
  · rfl

theorem FirstLine.firstLine_eq {s : String} {line : List Char} (h : FirstLine s.toList line) :
    firstLine s = String.ofList line := by
  generalize hs : s.toList = cs at h
  cases h with
  | whole unbroken => rw [firstLine_of_notFeed (hs ▸ unbroken), ← hs, String.ofList_toList]
  | fed rest unbroken plain =>
    have hplain : (line.reverse ++ []).head? ≠ some '\r' := by simpa using plain
    rw [firstLine, lines, hs, linesFrom_append_feed unbroken, closeLine_of_head hplain]
    simp
  | returned rest unbroken =>
    have hunbroken : '\n' ∉ line ++ ['\r'] := by simp [unbroken]
    rw [firstLine, lines, hs, List.append_cons, linesFrom_append_feed hunbroken]
    simp [closeLine]

end RepairConsole.Text
