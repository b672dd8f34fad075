import Mathlib.Algebra.Group.Nat.Defs
import Mathlib.Tactic.SplitIfs
import RepairConsole.Proofs.Reading
import RepairConsole.Proofs.Text.Numerals
import RepairConsole.Proofs.Text.Split
import RepairConsole.Url.Host.IPv6
/-!
# Reading an IPv6 address again

An address is printed with hexadecimal pieces only and at most one gap, and that is read as the
address it was.
-/

namespace RepairConsole.Url.IPv6

/-- Eight pieces of sixteen bits. -/
structure IsAddress (pieces : List Nat) : Prop where
  length : pieces.length = 8
  bounded : ∀ n ∈ pieces, n < 0x10000

/-! ## One piece -/

/-- A digit that a piece is written with. -/
def InPiece (c : Char) : Prop := c ∈ "0123456789abcdef".toList

instance (c : Char) : Decidable (InPiece c) := inferInstanceAs (Decidable (_ ∈ _))

theorem inPiece_digitChar {d : Nat} (h : d < 16) : InPiece d.digitChar := by
  have hall : ∀ d < 16, InPiece d.digitChar := by decide +kernel
  exact hall d h

/-- Reads one more digit of a piece. -/
def pushDigit? (n : Nat) (c : Char) : Option Nat :=
  if c.toNat < 128 then (hexDigitValue? (UInt8.ofNat c.toNat)).map (n * 16 + ·) else none

theorem piece?_eq (cs : List Char) :
    piece? cs = if cs.isEmpty ∨ 4 < cs.length then none else cs.foldlM pushDigit? 0 := rfl

theorem pushDigit?_digitChar {d : Nat} (h : d < 16) (n : Nat) :
    pushDigit? n d.digitChar = some (n * 16 + d) := by
  have hall : ∀ d < 16, d.digitChar.toNat < 128 ∧
      hexDigitValue? (UInt8.ofNat d.digitChar.toNat) = some d := by decide +kernel
  obtain ⟨hascii, hvalue⟩ := hall d h
  rw [pushDigit?, if_pos hascii, hvalue]
  rfl

theorem mem_pieceText {n : Nat} {c : Char} (h : c ∈ pieceText n) : InPiece c := by
  unfold pieceText at h
  induction n using Nat.strongRecOn with
  | ind n ih =>
    rw [Nat.toDigits_eq_if (by decide)] at h
    split at h
    · next hn =>
      rw [List.mem_singleton.1 h]
      exact inPiece_digitChar hn
    · rcases List.mem_append.1 h with hfront | hlast
      · exact ih (n / 16) (by omega) hfront
      · rw [List.mem_singleton.1 hlast]
        exact inPiece_digitChar (Nat.mod_lt n (by decide))

theorem foldlM_pieceText (n : Nat) : (pieceText n).foldlM pushDigit? 0 = some n := by
  unfold pieceText
  induction n using Nat.strongRecOn with
  | ind n ih =>
    rw [Nat.toDigits_eq_if (by decide)]
    split
    · next hn =>
      rw [List.foldlM_cons, pushDigit?_digitChar hn, Nat.zero_mul, Nat.zero_add]
      rfl
    · rw [List.foldlM_append, ih (n / 16) (by omega), Option.bind_eq_bind, Option.bind_some,
        List.foldlM_cons, pushDigit?_digitChar (Nat.mod_lt n (by decide)), Nat.mul_comm,
        Nat.div_add_mod]
      rfl

theorem piece?_pieceText {n : Nat} (h : n < 0x10000) : piece? (pieceText n) = some n := by
  have hlength : (pieceText n).length ≤ 4 :=
    (Nat.length_toDigits_le_iff (by decide) (by decide)).2 h
  rw [piece?_eq, if_neg, foldlM_pieceText]
  rw [List.isEmpty_iff, not_or, Nat.not_lt]
  exact ⟨Nat.toDigits_ne_nil, hlength⟩

theorem lt_of_hexDigitValue? {b : UInt8} {d : Nat} (h : hexDigitValue? b = some d) : d < 16 := by
  unfold hexDigitValue? at h
  dsimp only at h
  split_ifs at h <;> cases h <;> omega

theorem lt_of_foldlM {cs : List Char} {m n : Nat} (h : cs.foldlM pushDigit? m = some n) :
    n < (m + 1) * 16 ^ cs.length := by
  induction cs generalizing m with
  | nil =>
    cases h
    simp
  | cons c cs ih =>
    rw [List.foldlM_cons] at h
    obtain ⟨m', hpush, hrest⟩ := Option.bind_eq_some_iff.1 h
    rw [pushDigit?, Option.ite_none_right_eq_some, Option.map_eq_some_iff] at hpush
    obtain ⟨-, d, hd, rfl⟩ := hpush
    have hlt := lt_of_hexDigitValue? hd
    calc n < (m * 16 + d + 1) * 16 ^ cs.length := ih hrest
      _ ≤ (m + 1) * 16 * 16 ^ cs.length := Nat.mul_le_mul_right _ (by omega)
      _ = (m + 1) * 16 ^ (c :: cs).length := by
        rw [List.length_cons, Nat.pow_succ, Nat.mul_assoc, Nat.mul_comm 16]

theorem lt_of_piece? {cs : List Char} {n : Nat} (h : piece? cs = some n) : n < 0x10000 := by
  rw [piece?_eq, Option.ite_none_left_eq_some, not_or, Nat.not_lt] at h
  obtain ⟨⟨-, hlength⟩, hfold⟩ := h
  calc n < (0 + 1) * 16 ^ cs.length := lt_of_foldlM hfold
    _ = 16 ^ cs.length := by rw [Nat.zero_add, Nat.one_mul]
    _ ≤ 16 ^ 4 := Nat.pow_le_pow_right (by decide) hlength

/-! ## Pieces between colons -/

theorem pieceText_ne_nil (n : Nat) : pieceText n ≠ [] := Nat.toDigits_ne_nil

theorem not_mem_pieceText {n : Nat} {c : Char} (h : ¬ InPiece c) : c ∉ pieceText n :=
  fun hc => h (mem_pieceText hc)

@[simp] theorem joined_nil : joined [] = [] := rfl

@[simp] theorem joined_singleton (n : Nat) : joined [n] = pieceText n := by simp [joined]

theorem joined_cons_cons (n m : Nat) (more : List Nat) :
    joined (n :: m :: more) = pieceText n ++ ':' :: joined (m :: more) := by
  simp [joined, List.intercalate_cons_cons]

/-- Pieces do not start with a colon. -/
theorem joined_cons_eq (n : Nat) (more : List Nat) :
    ∃ c cs, joined (n :: more) = c :: cs ∧ c ≠ ':' := by
  obtain ⟨c, cs, htext⟩ := List.exists_cons_of_ne_nil (pieceText_ne_nil n)
  have hc : c ≠ ':' := by
    rintro rfl
    exact not_mem_pieceText (by decide) (htext ▸ List.mem_cons_self)
  cases more with
  | nil => exact ⟨c, cs, by rw [joined_singleton, htext], hc⟩
  | cons m more => exact ⟨c, _, by rw [joined_cons_cons, htext]; rfl, hc⟩

theorem mem_joined {pieces : List Nat} {c : Char} (h : c ∈ joined pieces) :
    c = ':' ∨ InPiece c := by
  refine (Text.mem_intercalate h).imp_right ?_
  rintro ⟨_, hgroup, hc⟩
  obtain ⟨n, -, rfl⟩ := List.mem_map.1 hgroup
  exact mem_pieceText hc

theorem splitOn_joined {pieces : List Nat} (h : pieces ≠ []) :
    (joined pieces).splitOn ':' = pieces.map pieceText := by
  refine List.splitOn_intercalate ':' ?_ (by simpa using h)
  rintro _ hgroup
  obtain ⟨n, -, rfl⟩ := List.mem_map.1 hgroup
  exact not_mem_pieceText (by decide)

theorem groups?_cons_cons (last : Bool) (group next : List Char) (more : List (List Char)) :
    groups? last (group :: next :: more) =
      (piece? group).bind fun n =>
        (groups? last (next :: more)).bind fun rest => some (n :: rest) := by
  rw [groups?]
  · rfl
  · nofun

theorem groups?_pieceText (last : Bool) {pieces : List Nat} (h : ∀ n ∈ pieces, n < 0x10000) :
    groups? last (pieces.map pieceText) = some pieces := by
  induction pieces with
  | nil => rfl
  | cons n pieces ih =>
    obtain ⟨hn, hpieces⟩ := List.forall_mem_cons.1 h
    cases pieces with
    | nil =>
      have hdot : ¬ (last = true ∧ (pieceText n).contains '.' = true) := by
        rw [List.contains_iff_mem]
        exact fun h => not_mem_pieceText (by decide) h.2
      rw [List.map_singleton, groups?, if_neg hdot, piece?_pieceText hn]
      rfl
    | cons m more =>
      have hmore := ih hpieces
      rw [List.map_cons] at hmore
      rw [List.map_cons, List.map_cons, groups?_cons_cons, piece?_pieceText hn, hmore]
      rfl

theorem side?_joined (last : Bool) {pieces : List Nat} (h : ∀ n ∈ pieces, n < 0x10000) :
    side? last (joined pieces) = some pieces := by
  cases pieces with
  | nil => rfl
  | cons n more =>
    obtain ⟨c, cs, htext, -⟩ := joined_cons_eq n more
    have hne : ¬ (joined (n :: more)).isEmpty = true := by
      rw [htext]
      exact Bool.false_ne_true
    rw [side?, if_neg hne, splitOn_joined (List.cons_ne_nil n more), groups?_pieceText last h]

/-! ## The gap -/

theorem splitGap_cons {c : Char} (h : c ≠ ':') (rest : List Char) :
    splitGap (c :: rest) = (splitGap rest).map fun (before, after) => (c :: before, after) := by
  rw [splitGap]
  intro rest' hc
  exact absurd hc h

theorem splitGap_append {front : List Char} (h : ':' ∉ front) (rest : List Char) :
    splitGap (front ++ rest) =
      (splitGap rest).map fun (before, after) => (front ++ before, after) := by
  induction front with
  | nil => simp
  | cons c front ih =>
    rw [List.mem_cons, not_or] at h
    rw [List.cons_append, splitGap_cons (Ne.symm h.1), ih h.2, Option.map_map]
    rfl

theorem splitGap_colon {c : Char} (h : c ≠ ':') (rest : List Char) :
    splitGap (':' :: c :: rest) =
      (splitGap (c :: rest)).map fun (before, after) => (':' :: before, after) := by
  rw [splitGap]
  intro rest' _ hgap
  exact absurd (List.cons.inj hgap).1 h

/-- There is no gap between pieces. -/
theorem splitGap_joined (pieces : List Nat) (rest : List Char) :
    splitGap (joined pieces ++ rest) =
      (splitGap rest).map fun (before, after) => (joined pieces ++ before, after) := by
  induction pieces with
  | nil => simp
  | cons n pieces ih =>
    have hcolon : ':' ∉ pieceText n := not_mem_pieceText (by decide)
    cases pieces with
    | nil => rw [joined_singleton, splitGap_append hcolon]
    | cons m more =>
      obtain ⟨c, cs, htext, hc⟩ := joined_cons_eq m more
      rw [joined_cons_cons, List.append_assoc, splitGap_append hcolon, List.cons_append, htext,
        List.cons_append, splitGap_colon hc, ← List.cons_append, ← htext, ih, Option.map_map,
        Option.map_map]
      simp [Function.comp_def]

theorem zeros_spec (pieces : List Nat) :
    pieces = List.replicate (zeros pieces) 0 ++ pieces.drop (zeros pieces) := by
  induction pieces with
  | nil => rfl
  | cons n pieces ih =>
    cases n with
    | zero => rw [zeros, List.replicate_succ, List.cons_append, List.drop_succ_cons, ← ih]
    | succ n => rfl

theorem longestZeros_spec (pieces : List Nat) (position : Nat) :
    position ≤ (longestZeros position pieces).1 ∧
      zeros (pieces.drop ((longestZeros position pieces).1 - position)) =
        (longestZeros position pieces).2 := by
  induction pieces generalizing position with
  | nil => simp [longestZeros, zeros]
  | cons n pieces ih =>
    obtain ⟨hle, hzeros⟩ := ih (position + 1)
    rw [longestZeros]
    split
    · simp
    · have hstart : (longestZeros (position + 1) pieces).1 - position =
          (longestZeros (position + 1) pieces).1 - (position + 1) + 1 := by omega
      refine ⟨by omega, ?_⟩
      rw [hstart, List.drop_succ_cons, hzeros]

/-- The pieces around the longest run of zeros. -/
theorem split_longestZeros (pieces : List Nat) :
    pieces = pieces.take (longestZeros 0 pieces).1 ++
      (List.replicate (longestZeros 0 pieces).2 0 ++
        pieces.drop ((longestZeros 0 pieces).1 + (longestZeros 0 pieces).2)) := by
  obtain ⟨-, hzeros⟩ := longestZeros_spec pieces 0
  rw [Nat.sub_zero] at hzeros
  have hspec := zeros_spec (pieces.drop (longestZeros 0 pieces).1)
  rw [hzeros, List.drop_drop] at hspec
  rw [← hspec, List.take_append_drop]

/-! ## The address -/

theorem parse?_text {pieces : List Nat} (h : IsAddress pieces) :
    parse? (text pieces) = some pieces := by
  have hsplit := split_longestZeros pieces
  obtain ⟨start, length, hrun⟩ : ∃ start length, longestZeros 0 pieces = (start, length) :=
    ⟨_, _, rfl⟩
  rw [hrun] at hsplit
  rw [text, hrun]
  dsimp only at hsplit ⊢
  split
  -- A lone zero is no gap.
  · have hgap := splitGap_joined pieces []
    rw [List.append_nil] at hgap
    rw [parse?, hgap, splitGap, Option.map_none]
    dsimp only
    rw [side?_joined true h.bounded, Option.bind_eq_bind, Option.bind_some, if_pos h.length]
  · obtain ⟨before, after, hbefore, hafter⟩ : ∃ before after, pieces.take start = before ∧
        pieces.drop (start + length) = after := ⟨_, _, rfl, rfl⟩
    rw [hbefore, hafter] at hsplit
    rw [hbefore, hafter]
    have hbounded : ∀ n ∈ before ++ (List.replicate length 0 ++ after), n < 0x10000 :=
      hsplit ▸ h.bounded
    rw [List.forall_mem_append, List.forall_mem_append] at hbounded
    have hlength : before.length + (length + after.length) = 8 := by
      rw [← h.length, hsplit]
      simp
    have hzeros : 8 - before.length - after.length = length := by omega
    have hgap : splitGap (':' :: ':' :: joined after) = some ([], joined after) := rfl
    rw [parse?, splitGap_joined, hgap, Option.map_some]
    dsimp only
    rw [List.append_nil, side?_joined false hbounded.1, side?_joined true hbounded.2.2,
      Option.bind_eq_bind, Option.bind_some, Option.bind_some, if_pos (by omega), hzeros,
      List.append_assoc, ← hsplit]

theorem mem_text {pieces : List Nat} {c : Char} (h : c ∈ text pieces) : c = ':' ∨ InPiece c := by
  unfold text at h
  dsimp only at h
  split at h
  · exact mem_joined h
  · rw [List.mem_append, List.mem_cons, List.mem_cons] at h
    rcases h with h | rfl | rfl | h
    · exact mem_joined h
    · exact Or.inl rfl
    · exact Or.inl rfl
    · exact mem_joined h

/-! ## What is read is an address -/

theorem le_of_byte? {cs : List Char} {n : Nat} (h : byte? cs = some n) : n ≤ 255 := by
  unfold byte? at h
  obtain ⟨m, -, h⟩ := Option.bind_eq_some_iff.1 h
  rw [Option.ite_none_right_eq_some] at h
  obtain ⟨⟨hm, -⟩, heq⟩ := h
  cases heq
  exact hm

theorem bounded_of_quad? {cs : List Char} {pieces : List Nat} (h : quad? cs = some pieces) :
    ∀ n ∈ pieces, n < 0x10000 := by
  obtain ⟨bytes, hbytes, hpieces⟩ := Option.bind_eq_some_iff.1 h
  have hle := forall_mem_of_mapM (fun _ _ => le_of_byte?) hbytes
  match bytes, hle, hpieces with
  | [a, b, c, d], hle, hpieces =>
    cases hpieces
    simp only [List.forall_mem_cons] at hle ⊢
    obtain ⟨ha, hb, hc, hd, -⟩ := hle
    exact ⟨by omega, by omega, List.forall_mem_nil _⟩

theorem bounded_of_groups? {last : Bool} {groups : List (List Char)} {pieces : List Nat}
    (h : groups? last groups = some pieces) : ∀ n ∈ pieces, n < 0x10000 := by
  induction groups generalizing pieces with
  | nil =>
    cases h
    exact List.forall_mem_nil _
  | cons group groups ih =>
    cases groups with
    | nil =>
      rw [groups?] at h
      split at h
      · exact bounded_of_quad? h
      · obtain ⟨n, hn, rfl⟩ := Option.map_eq_some_iff.1 h
        exact List.forall_mem_singleton.2 (lt_of_piece? hn)
    | cons next more =>
      rw [groups?_cons_cons] at h
      obtain ⟨n, hn, h⟩ := Option.bind_eq_some_iff.1 h
      obtain ⟨rest, hrest, h⟩ := Option.bind_eq_some_iff.1 h
      cases h
      exact List.forall_mem_cons.2 ⟨lt_of_piece? hn, ih hrest⟩

theorem bounded_of_side? {last : Bool} {cs : List Char} {pieces : List Nat}
    (h : side? last cs = some pieces) : ∀ n ∈ pieces, n < 0x10000 := by
  unfold side? at h
  split at h
  · cases h
    exact List.forall_mem_nil _
  · exact bounded_of_groups? h

theorem isAddress_of_parse? {cs : List Char} {pieces : List Nat} (h : parse? cs = some pieces) :
    IsAddress pieces := by
  unfold parse? at h
  split at h
  · obtain ⟨read, hside, h⟩ := Option.bind_eq_some_iff.1 h
    rw [Option.ite_none_right_eq_some] at h
    obtain ⟨hlength, heq⟩ := h
    cases heq
    exact ⟨hlength, bounded_of_side? hside⟩
  · obtain ⟨before, hbefore, h⟩ := Option.bind_eq_some_iff.1 h
    obtain ⟨after, hafter, h⟩ := Option.bind_eq_some_iff.1 h
    rw [Option.ite_none_right_eq_some] at h
    obtain ⟨hlength, heq⟩ := h
    cases heq
    refine ⟨?_, ?_⟩
    · rw [List.length_append, List.length_append, List.length_replicate]
      omega
    · rw [List.forall_mem_append, List.forall_mem_append]
      refine ⟨⟨bounded_of_side? hbefore, fun n hn => ?_⟩, bounded_of_side? hafter⟩
      rw [List.eq_of_mem_replicate hn]
      decide

end RepairConsole.Url.IPv6
