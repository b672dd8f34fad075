import RepairConsole.Output
import RepairConsole.Text.Split
import Mathlib.Data.List.Count
/-!
# The text that lines make

Lines are written one by one, each with a line feed behind it. If none of them holds a line feed of
its own, the text is cut at its line feeds into just these lines, and nothing is left behind the
last one.
-/

namespace RepairConsole

/-- Lines as one text. -/
def textOf (lines : List String) : String := String.join (lines.map (· ++ "\n"))

@[simp] theorem textOf_nil : textOf [] = "" := rfl

@[simp] theorem textOf_cons (line : String) (lines : List String) :
    textOf (line :: lines) = line ++ "\n" ++ textOf lines := by
  simp [textOf, String.join_cons]

/-- What writes come to, one behind the other. -/
def joined (pieces : List ByteArray) : ByteArray := pieces.foldr (· ++ ·) ByteArray.empty

@[simp] theorem joined_nil : joined [] = ByteArray.empty := rfl

@[simp] theorem joined_cons (bytes : ByteArray) (rest : List ByteArray) :
    joined (bytes :: rest) = bytes ++ joined rest := rfl

theorem joined_lineWrites (lines : List String) :
    joined (lineWrites lines) = (textOf lines).toUTF8 := by
  induction lines with
  | nil => rfl
  | cons line rest ih =>
    have hcons : lineWrites (line :: rest) = (line ++ "\n").toUTF8 :: lineWrites rest := rfl
    rw [hcons, joined_cons, ih, textOf_cons]
    simp

theorem Sink.writeAll_boundless (pieces : List ByteArray) (written : ByteArray) :
    Sink.writeAll ⟨none, written⟩ pieces = (.ok (), ⟨none, written ++ joined pieces⟩) := by
  induction pieces generalizing written with
  | nil => simp [Sink.writeAll]
  | cons bytes rest ih =>
    have hstep : Sink.writeAll ⟨none, written⟩ (bytes :: rest) =
        Sink.writeAll ⟨none, written ++ bytes⟩ rest := rfl
    rw [hstep, ih, joined_cons, ByteArray.append_assoc]

theorem Sink.writeAll_lineWrites (lines : List String) (written : ByteArray) :
    Sink.writeAll ⟨none, written⟩ (lineWrites lines) =
      (.ok (), ⟨none, written ++ (textOf lines).toUTF8⟩) := by
  rw [Sink.writeAll_boundless, joined_lineWrites]

variable {lines : List String}

theorem splitAt_textOf (h : ∀ line ∈ lines, '\n' ∉ line.toList) :
    Text.splitAt '\n' (textOf lines).toList = lines.map String.toList ++ [[]] := by
  induction lines with
  | nil => rfl
  | cons line lines ih =>
    obtain ⟨hline, hlines⟩ := List.forall_mem_cons.1 h
    have htext : (textOf (line :: lines)).toList = line.toList ++ '\n' :: (textOf lines).toList := by
      simp
    rw [htext, Text.splitAt_append_mark hline, ih hlines]
    rfl

theorem count_feed_textOf (h : ∀ line ∈ lines, '\n' ∉ line.toList) :
    (textOf lines).toList.count '\n' = lines.length := by
  induction lines with
  | nil => rfl
  | cons line lines ih =>
    obtain ⟨hline, hlines⟩ := List.forall_mem_cons.1 h
    simp [List.count_eq_zero.2 hline, ih hlines]

theorem mem_textOf {c : Char} (h : c ∈ (textOf lines).toList) :
    c = '\n' ∨ ∃ line ∈ lines, c ∈ line.toList := by
  induction lines with
  | nil => simp at h
  | cons line lines ih =>
    simp only [textOf_cons, String.toList_append, List.mem_append] at h
    rcases h with (hline | hfeed) | hrest
    · exact Or.inr ⟨line, List.mem_cons_self, hline⟩
    · exact Or.inl (by simpa using hfeed)
    · exact (ih hrest).imp_right fun ⟨l, hl, hc⟩ => ⟨l, List.mem_cons_of_mem _ hl, hc⟩

end RepairConsole
