import Mathlib.Data.List.TakeDrop
/-!
# Cutting a text at its first mark

A mark is the first element that a predicate refuses. There is only one way to cut a list there.
-/

namespace RepairConsole.Text

variable {α : Type} {p : α → Bool}

theorem forall_bne {mark : Char} {cs : List Char} (h : mark ∉ cs) :
    ∀ c ∈ cs, (c != mark) = true := by
  intro c hc
  rw [bne_iff_ne]
  rintro rfl
  exact h hc

theorem span_of_all {cs : List α} (h : ∀ a ∈ cs, p a = true) : cs.span p = (cs, []) := by
  have htake : (cs ++ []).takeWhile p = cs ++ [].takeWhile p := List.takeWhile_append_of_pos h
  have hdrop : (cs ++ []).dropWhile p = [].dropWhile p := List.dropWhile_append_of_pos h
  rw [List.append_nil] at htake hdrop
  rw [List.span_eq_takeWhile_dropWhile, htake, hdrop]
  simp

theorem span_append_cons {front rest : List α} {c : α} (hfront : ∀ a ∈ front, p a = true)
    (hc : p c = false) : (front ++ c :: rest).span p = (front, c :: rest) := by
  rw [List.span_eq_takeWhile_dropWhile, List.takeWhile_append_of_pos hfront,
    List.dropWhile_append_of_pos hfront]
  simp [hc]

/-- What a cut yields: nothing was refused, or the first that was. -/
theorem span_cases (p : α → Bool) (cs : List α) :
    (cs.span p = (cs, []) ∧ ∀ a ∈ cs, p a = true) ∨
      ∃ front c rest, cs = front ++ c :: rest ∧ (∀ a ∈ front, p a = true) ∧ p c = false ∧
        cs.span p = (front, c :: rest) := by
  induction cs with
  | nil => exact Or.inl ⟨rfl, by simp⟩
  | cons a cs ih =>
    cases ha : p a with
    | false =>
      refine Or.inr ⟨[], a, cs, rfl, nofun, ha, ?_⟩
      simp [List.span_eq_takeWhile_dropWhile, ha]
    | true =>
      have hcons : ∀ front : List α, (∀ b ∈ front, p b = true) → ∀ b ∈ a :: front, p b = true :=
        fun front hfront b hb => (List.mem_cons.1 hb).elim (fun e => e ▸ ha) (hfront b)
      rcases ih with ⟨-, hall⟩ | ⟨front, c, rest, rfl, hfront, hc, -⟩
      · exact Or.inl ⟨span_of_all (hcons cs hall), hcons cs hall⟩
      · exact Or.inr ⟨a :: front, c, rest, rfl, hcons front hfront, hc,
          span_append_cons (hcons front hfront) hc⟩

theorem append_cons_inj {front front' rest rest' : List α} {c c' : α}
    (hfront : ∀ a ∈ front, p a = true) (hc : p c = false)
    (hfront' : ∀ a ∈ front', p a = true) (hc' : p c' = false)
    (h : front ++ c :: rest = front' ++ c' :: rest') : front = front' ∧ c = c' ∧ rest = rest' := by
  have hspan := congrArg (List.span p) h
  rw [span_append_cons hfront hc, span_append_cons hfront' hc'] at hspan
  simpa using hspan

end RepairConsole.Text
