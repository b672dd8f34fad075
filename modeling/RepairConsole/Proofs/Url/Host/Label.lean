import RepairConsole.Proofs.Reading
import RepairConsole.Proofs.Url.Host.Punycode
import RepairConsole.Url.Host.Label
/-!
# Labels and their spellings

A label that may stand in a host name is spelt in ASCII, and the spelling has the text of the label.
-/

namespace RepairConsole.Url.Host.Label

variable {label : List Char} {text : List Nat}

theorem isAscii_iff : isAscii label = true ↔ ∀ c ∈ label, c.toNat < 128 := by
  simp [isAscii]

theorem spelling_of_isAscii (h : isAscii label = true) : spelling label = label := if_pos h

theorem spelling_of_not_isAscii (h : isAscii label = false) :
    spelling label = mark ++ Punycode.encode (label.map Char.toNat) :=
  if_neg (Bool.eq_false_iff.1 h)

theorem isScalar_toNat (c : Char) : Punycode.isScalar c.toNat = true := by
  have hvalid := c.valid
  simp only [UInt32.isValidChar, Nat.isValidChar] at hvalid
  simp only [Punycode.isScalar, Char.toNat, Bool.or_eq_true, Bool.and_eq_true, decide_eq_true_eq]
  omega

/-! ## Characters -/

/-- Beside the characters of the label, a spelling has small letters, digits and hyphens. -/
theorem mem_spelling {c : Char} (h : c ∈ spelling label) :
    c.toNat < 128 ∧ (c ∈ label ∨ c = '-' ∨ Punycode.IsDigit c) := by
  cases hascii : isAscii label with
  | true =>
    rw [spelling_of_isAscii hascii] at h
    exact ⟨isAscii_iff.1 hascii c h, Or.inl h⟩
  | false =>
    rw [spelling_of_not_isAscii hascii, List.mem_append] at h
    rcases h with hmark | hcoded
    · have hall : ∀ c ∈ mark, c.toNat < 128 ∧ (c = '-' ∨ Punycode.IsDigit c) := by
        simp only [mark, List.forall_mem_cons]
        exact ⟨by decide, by decide, by decide, by decide, List.forall_mem_nil _⟩
      exact ⟨(hall c hmark).1, Or.inr (hall c hmark).2⟩
    · rcases Punycode.mem_encode hcoded with rfl | hdigit | ⟨n, hn, rfl⟩
      · exact ⟨by decide, Or.inr (Or.inl rfl)⟩
      · exact ⟨hdigit.toNat_lt, Or.inr (Or.inr hdigit)⟩
      · obtain ⟨hmem, hlt⟩ := List.mem_filter.1 hn
        obtain ⟨c, hc, rfl⟩ := List.mem_map.1 hmem
        rw [Char.ofNat_toNat]
        exact ⟨of_decide_eq_true hlt, Or.inl hc⟩

theorem isAscii_spelling (label : List Char) : isAscii (spelling label) = true :=
  isAscii_iff.2 fun _ hc => (mem_spelling hc).1

theorem not_mem_spelling {c : Char} (h : c ∉ label) (hhyphen : c ≠ '-')
    (hdigit : ¬ Punycode.IsDigit c) : c ∉ spelling label := by
  intro hc
  rcases (mem_spelling hc).2 with hmem | rfl | hdig
  · exact h hmem
  · exact hhyphen rfl
  · exact hdigit hdig

/-! ## Texts -/

theorem text?_of_not_isAscii (h : isAscii label = false) :
    text? label = if isSpellable (label.map Char.toNat) then some (label.map Char.toNat)
      else none := by
  rw [text?, h]
  rfl

theorem text?_of_mark {coded : List Char} (h : isAscii (mark ++ coded) = true) :
    text? (mark ++ coded) = (Punycode.decode? coded).filter isSpellable := by
  have hmark : mark.isPrefixOf (mark ++ coded) = true :=
    List.isPrefixOf_iff_prefix.2 (List.prefix_append _ _)
  rw [text?, h, hmark, List.drop_left]
  rfl

/-- A label and its spelling have the same text. -/
theorem text?_spelling (h : text? label = some text) : text? (spelling label) = some text := by
  cases hascii : isAscii label with
  | true => rwa [spelling_of_isAscii hascii]
  | false =>
    have hspelt := isAscii_spelling label
    rw [text?_of_not_isAscii hascii, Option.ite_none_right_eq_some] at h
    obtain ⟨hspellable, htext⟩ := h
    rw [spelling_of_not_isAscii hascii] at hspelt ⊢
    have hscalar : ∀ point ∈ label.map Char.toNat, Punycode.isScalar point = true :=
      List.forall_mem_map.2 fun c _ => isScalar_toNat c
    rw [text?_of_mark hspelt, Punycode.decode?_encode hscalar, Option.filter_some,
      if_pos hspellable, Option.some.inj htext]

theorem mapM_text?_spelling {labels : List (List Char)} {texts : List (List Nat)}
    (h : labels.mapM text? = some texts) : (labels.map spelling).mapM text? = some texts := by
  induction labels generalizing texts with
  | nil => exact h
  | cons label labels ih =>
    obtain ⟨text, rest, htext, hrest, rfl⟩ := mapM_cons_eq_some h
    rw [List.map_cons, List.mapM_cons, text?_spelling htext, ih hrest]
    rfl

/-- Labels that can stand in a name can do so as they are spelt. -/
theorem areSound_spelling {labels : List (List Char)} (h : areSound labels = true) :
    areSound (labels.map spelling) = true := by
  rw [areSound, Option.any_eq_true] at h
  obtain ⟨texts, htexts, hdirected⟩ := h
  rw [areSound, mapM_text?_spelling htexts]
  exact hdirected

end RepairConsole.Url.Host.Label
