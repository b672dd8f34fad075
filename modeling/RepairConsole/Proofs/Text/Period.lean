import Mathlib.Data.Nat.ModEq
import RepairConsole.Text.Split
/-!
# Words with a period

A word that repeats its own beginning behind a mark, again and again, does so in one way only: where
the beginning ends can be told from the word.
-/

namespace RepairConsole.Text

variable {α : Type}

/-- A beginning over and over, each time with a seam and a label behind it. -/
def refrain (start : List α) (seam : α) (labels : List α) : List α :=
  labels.flatMap fun label => start ++ [seam, label]

variable {start other : List α} {seam mark : α} {labels labels' : List α}

theorem length_refrain (start : List α) (seam : α) (labels : List α) :
    (refrain start seam labels).length = labels.length * (start.length + 2) := by
  induction labels with
  | nil => simp [refrain]
  | cons label labels ih =>
    have hcons : refrain start seam (label :: labels) =
        start ++ [seam, label] ++ refrain start seam labels := rfl
    rw [hcons, List.length_append, ih, @List.length_cons _ label labels, Nat.succ_mul, Nat.add_comm]
    simp

theorem getElem?_refrain (start : List α) (seam : α) (labels : List α) (i : Nat) :
    (refrain start seam labels)[i]? =
      labels[i / (start.length + 2)]?.bind fun label =>
        (start ++ [seam, label])[i % (start.length + 2)]? := by
  induction labels generalizing i with
  | nil => simp [refrain]
  | cons label labels ih =>
    have hcons : refrain start seam (label :: labels) =
        (start ++ [seam, label]) ++ refrain start seam labels := rfl
    have hlength : (start ++ [seam, label]).length = start.length + 2 := by simp
    rw [hcons]
    by_cases hi : i < start.length + 2
    · rw [List.getElem?_append_left (by omega), Nat.div_eq_of_lt hi, Nat.mod_eq_of_lt hi]
      rfl
    · obtain ⟨j, rfl⟩ := Nat.exists_eq_add_of_le' (Nat.le_of_not_lt hi)
      rw [List.getElem?_append_right (by omega), hlength, Nat.add_sub_cancel, ih,
        Nat.add_div_right j (by omega), Nat.add_mod_right]
      rfl

theorem refrain_injective (h : refrain start seam labels = refrain start seam labels') :
    labels = labels' := by
  have hlength := congrArg List.length h
  rw [length_refrain, length_refrain] at hlength
  have hsame : labels.length = labels'.length :=
    Nat.eq_of_mul_eq_mul_right (Nat.succ_pos _) hlength
  apply List.ext_getElem?
  intro i
  have hi := congrArg (fun l : List α => l[i * (start.length + 2) + (start.length + 1)]?) h
  have hdiv : (i * (start.length + 2) + (start.length + 1)) / (start.length + 2) = i := by
    rw [Nat.mul_comm, Nat.mul_add_div (by omega), Nat.div_eq_of_lt (by omega), Nat.add_zero]
  have hmod : (i * (start.length + 2) + (start.length + 1)) % (start.length + 2) =
      start.length + 1 := by
    rw [Nat.mul_comm, Nat.mul_add_mod, Nat.mod_eq_of_lt (by omega)]
  simp only [getElem?_refrain, hdiv, hmod] at hi
  have hlabel : ∀ label : α, (start ++ [seam, label])[start.length + 1]? = some label := by
    intro label
    rw [List.getElem?_append_right (by omega)]
    simp
  simpa [hlabel] using hi

/-- A mark in a refrain that is neither its seam nor one of its inner labels stands in its
beginning. -/
theorem mark_of_refrain {i : Nat} (hseam : mark ≠ seam) (hlabels : mark ∉ labels.dropLast)
    (hi : i + 1 < (refrain start seam labels).length)
    (h : (refrain start seam labels)[i]? = some mark) :
    start[i % (start.length + 2)]? = some mark := by
  rw [getElem?_refrain, Option.bind_eq_some_iff] at h
  obtain ⟨label, hlabel, h⟩ := h
  have hmod : i % (start.length + 2) < start.length + 2 := Nat.mod_lt _ (by omega)
  rcases Nat.lt_trichotomy (i % (start.length + 2)) start.length with hlt | heq | hgt
  · rwa [List.getElem?_append_left hlt] at h
  · rw [heq, List.getElem?_append_right (Nat.le_refl _)] at h
    simp at h
    exact absurd h.symm hseam
  · have hlast : i % (start.length + 2) = start.length + 1 := by omega
    rw [hlast, List.getElem?_append_right (by omega)] at h
    simp at h
    subst h
    -- No label but the last stands at the end of the refrain.
    exfalso
    apply hlabels
    have hdiv := Nat.div_add_mod i (start.length + 2)
    rw [length_refrain] at hi
    have hinner : i / (start.length + 2) < labels.length - 1 := by
      by_contra hnot
      have hle : labels.length ≤ i / (start.length + 2) + 1 := by omega
      have hmul := Nat.mul_le_mul_right (start.length + 2) hle
      rw [Nat.succ_mul, Nat.mul_comm (i / _)] at hmul
      omega
    rw [List.mem_iff_getElem?]
    exact ⟨i / (start.length + 2), by rw [List.getElem?_dropLast, if_pos hinner, hlabel]⟩

/-- Beginning, mark and refrain. -/
def verse (start : List α) (mark seam : α) (labels : List α) : List α :=
  start ++ mark :: refrain start seam labels

theorem getElem?_verse_right (start : List α) (mark seam : α) (labels : List α) (i : Nat) :
    (verse start mark seam labels)[start.length + 1 + i]? = (refrain start seam labels)[i]? := by
  rw [verse, List.getElem?_append_right (by omega), Nat.add_assoc, Nat.add_sub_cancel_left,
    Nat.add_comm 1 i, List.getElem?_cons_succ]

theorem getElem?_verse_left {i : Nat} (hi : i < start.length) :
    (verse start mark seam labels)[i]? = start[i]? :=
  List.getElem?_append_left hi

theorem getElem?_verse_mark (start : List α) (mark seam : α) (labels : List α) :
    (verse start mark seam labels)[start.length]? = some mark := by
  rw [verse, List.getElem?_append_right (Nat.le_refl _), Nat.sub_self]
  rfl

/-- Where there is a refrain the word is its own beginning again behind the mark. -/
theorem getElem?_verse_shift {i : Nat} (hlabels : labels ≠ []) (hi : i < start.length) :
    (verse start mark seam labels)[start.length + 1 + i]? =
      (verse start mark seam labels)[i]? := by
  obtain ⟨label, rest, rfl⟩ := List.exists_cons_of_ne_nil hlabels
  rw [getElem?_verse_right, getElem?_verse_left hi]
  have hcons : refrain start seam (label :: rest) =
      start ++ ([seam, label] ++ refrain start seam rest) := by
    simp [refrain]
  rw [hcons, List.getElem?_append_left hi]

theorem length_verse_lt {i : Nat} (hlabels : labels ≠ []) (hi : i ≤ start.length) :
    start.length + 1 + i + 1 < (verse start mark seam labels).length := by
  have hpos : 1 ≤ labels.length := List.length_pos_iff.2 hlabels
  have hmul := Nat.mul_le_mul_right (start.length + 2) hpos
  rw [verse, List.length_append, List.length_cons, length_refrain]
  omega

/-! ## Two readings -/

section Readings

variable (hseam : mark ≠ seam) (hinner : mark ∉ labels.dropLast) (hlabels' : labels' ≠ [])
  (h : verse start mark seam labels = verse other mark seam labels')
include hseam hinner hlabels' h

/-- A mark of the word behind the mark of the first reading stands in its beginning. -/
theorem mark_of_verse {i : Nat} (hi : start.length + 1 + i ≤ other.length + 1 + start.length)
    (hle : start.length ≤ other.length)
    (hmark : (verse other mark seam labels')[start.length + 1 + i]? = some mark) :
    start[i % (start.length + 2)]? = some mark := by
  rw [← h, getElem?_verse_right] at hmark
  refine mark_of_refrain hseam hinner ?_ hmark
  have hlong : other.length + 1 + start.length + 1 < (verse other mark seam labels').length :=
    length_verse_lt hlabels' hle
  rw [← h, verse, List.length_append, List.length_cons] at hlong
  omega

/-- Were one beginning longer than the other, the mark behind it would stand in the shorter one,
and so at ever more places of it. -/
theorem exists_mark {d : Nat} (hd : other.length = start.length + d + 1) (k : Nat) :
    ∃ o, start[o]? = some mark ∧ (o + 1) ≡ (k + 1) * (d + 1) [MOD start.length + 2] := by
  induction k with
  | zero =>
    have hplace : start.length + 1 + d = other.length := by omega
    refine ⟨d % (start.length + 2),
      mark_of_verse hseam hinner hlabels' h (by omega) (by omega) ?_, ?_⟩
    · rw [hplace, getElem?_verse_mark]
    · rw [Nat.zero_add, Nat.one_mul]
      exact (Nat.mod_modEq d _).add_right 1
  | succ k ih =>
    obtain ⟨o, ho, hmod⟩ := ih
    have hlt : o < start.length := (List.getElem?_eq_some_iff.1 ho).1
    have hplace : start.length + 1 + (d + 1 + o) = other.length + 1 + o := by omega
    have hsum : d + 1 + o + 1 = o + 1 + (d + 1) := by omega
    refine ⟨(d + 1 + o) % (start.length + 2),
      mark_of_verse hseam hinner hlabels' h (by omega) (by omega) ?_, ?_⟩
    · rw [hplace, getElem?_verse_shift hlabels' (by omega), ← h, getElem?_verse_left hlt, ho]
    · calc (d + 1 + o) % (start.length + 2) + 1
          ≡ d + 1 + o + 1 [MOD start.length + 2] := (Nat.mod_modEq _ _).add_right 1
        _ = o + 1 + (d + 1) := hsum
        _ ≡ (k + 1) * (d + 1) + (d + 1) [MOD start.length + 2] := hmod.add_right (d + 1)
        _ = (k + 1 + 1) * (d + 1) := (Nat.succ_mul _ _).symm

theorem length_le_of_verse : other.length ≤ start.length := by
  by_contra hnot
  obtain ⟨d, hd⟩ := Nat.exists_eq_add_of_lt (Nat.lt_of_not_le hnot)
  -- After as many rounds as the period is long the mark stands at a label.
  obtain ⟨o, ho, hmod⟩ := exists_mark hseam hinner hlabels' h hd (start.length + 1)
  have hlt : o < start.length := (List.getElem?_eq_some_iff.1 ho).1
  have hzero : (start.length + 1 + 1) * (d + 1) ≡ 0 [MOD start.length + 2] :=
    Nat.modEq_zero_iff_dvd.2 (Nat.dvd_mul_right _ _)
  have hdvd := Nat.modEq_zero_iff_dvd.1 (hmod.trans hzero)
  exact absurd (Nat.le_of_dvd (Nat.succ_pos o) hdvd) (by omega)

end Readings

theorem verse_injective (hseam : mark ≠ seam) (hinner : mark ∉ labels.dropLast)
    (hinner' : mark ∉ labels'.dropLast) (hlabels : labels ≠ []) (hlabels' : labels' ≠ [])
    (h : verse start mark seam labels = verse other mark seam labels') :
    start = other ∧ labels = labels' := by
  have hle := length_le_of_verse hseam hinner hlabels' h
  have hge := length_le_of_verse hseam hinner' hlabels h.symm
  obtain ⟨rfl, hrest⟩ := List.append_inj h (Nat.le_antisymm hge hle)
  exact ⟨rfl, refrain_injective (List.cons.inj hrest).2⟩

end RepairConsole.Text
