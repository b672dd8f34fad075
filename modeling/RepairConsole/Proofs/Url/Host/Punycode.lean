import Mathlib.Tactic.Ring
import RepairConsole.Proofs.Text.Cut
import RepairConsole.Url.Host.Punycode
/-!
# Spellings are read back

A text that is spelt in ASCII is read as that text. The reader puts the characters in as the writer
goes by them: at any time it has those of earlier code points, and of the code point under way those
that the writer has passed.
-/

namespace RepairConsole.Url.Punycode

/-! ## Numbers -/

theorem digit?_digit {n : Nat} (h : n < 36) : digit? (digit n) = some n := by
  have hall : ∀ n < 36, digit? (digit n) = some n := by decide
  exact hall n h

theorem next?_digit_of_lt {r : Reader} {n : Nat} (h : n < threshold r.step r.bias) :
    r.next? (digit n) = r.insert? (r.position + n * r.weight) := by
  have hle := (threshold_bounds r.step r.bias).2
  rw [Reader.next?, digit?_digit (by omega)]
  exact if_neg (Nat.not_le.2 h)

theorem next?_digit_of_le {r : Reader} {n : Nat} (hn : n < 36)
    (h : threshold r.step r.bias ≤ n) :
    r.next? (digit n) = some { r with
      position := r.position + n * r.weight
      weight := r.weight * (36 - threshold r.step r.bias)
      step := r.step + 36 } := by
  rw [Reader.next?, digit?_digit hn]
  exact if_pos h

/-- A number is read in full before anything is put in. -/
theorem foldlM_digits (r : Reader) (n : Nat) :
    (digits r.bias r.step n).foldlM Reader.next? r = r.insert? (r.position + n * r.weight) := by
  induction n using Nat.strongRecOn generalizing r with
  | ind n ih =>
    obtain ⟨hpos, hle⟩ := threshold_bounds r.step r.bias
    generalize hlimit : threshold r.step r.bias = limit at hpos hle
    rw [digits, hlimit]
    by_cases hlast : n < limit
    · rw [if_pos hlast, List.foldlM_cons, next?_digit_of_lt (hlimit ▸ hlast)]
      exact bind_pure _
    · have hmod : (n - limit) % (36 - limit) < 36 - limit := Nat.mod_lt _ (by omega)
      have hless : (n - limit) / (36 - limit) < n :=
        Nat.lt_of_le_of_lt (Nat.div_le_self _ _) (by omega)
      have hvalue : limit + (n - limit) % (36 - limit) +
          (36 - limit) * ((n - limit) / (36 - limit)) = n := by
        have hdivision := Nat.mod_add_div (n - limit) (36 - limit)
        omega
      rw [if_neg hlast, List.foldlM_cons,
        next?_digit_of_le (by omega) (by rw [hlimit]; exact Nat.le_add_right _ _), hlimit]
      refine (ih _ hless _).trans ?_
      refine congrArg r.insert? ?_
      calc r.position + (limit + (n - limit) % (36 - limit)) * r.weight +
            (n - limit) / (36 - limit) * (r.weight * (36 - limit))
          = r.position + (limit + (n - limit) % (36 - limit) +
              (36 - limit) * ((n - limit) / (36 - limit))) * r.weight := by ring
        _ = r.position + n * r.weight := by rw [hvalue]

/-! ## One behind the other -/

theorem Writer.pass_point (w : Writer) (point : Nat) : (w.pass point).point = w.point := by
  unfold Writer.pass Writer.write
  split
  · rfl
  · split <;> rfl

theorem Writer.foldl_pass_point (w : Writer) (text : List Nat) :
    (text.foldl Writer.pass w).point = w.point := by
  induction text generalizing w with
  | nil => rfl
  | cons point text ih => rw [List.foldl_cons, ih, w.pass_point]

/-- A reader that has read what the writer has written. The writer stands between two parts of the
text; the reader has its characters up to there, and the number that is to be written next counts
the places from the last of them. -/
structure Abreast (front : Reader) (before after : List Nat) (w : Writer) (r : Reader) : Prop where
  read : w.coded.foldlM Reader.next? front = some r
  weight : r.weight = 1
  step : r.step = 36
  bias : r.bias = w.bias
  started : r.started = r.position
  first : (r.started == 0) = w.first
  text : r.text = before.filter (· ≤ w.point) ++ after.filter (· < w.point)
  count : w.count = r.text.length
  point : r.point ≤ w.point
  places : r.point * (w.count + 1) + r.position + w.passed =
    w.point * (w.count + 1) + (before.filter (· ≤ w.point)).length

variable {front r : Reader} {before after text : List Nat} {w : Writer} {point : Nat}

/-- The reader that has just put in the character that the writer has come to. -/
def Writer.reader (w : Writer) (before after : List Nat) : Reader where
  text := before.filter (· ≤ w.point) ++ w.point :: after.filter (· < w.point)
  point := w.point
  position := (before.filter (· ≤ w.point)).length + 1
  started := (before.filter (· ≤ w.point)).length + 1
  weight := 1
  step := 36
  bias := adapt w.passed (w.count + 1) w.first

theorem Abreast.insert?_eq (h : Abreast front before (w.point :: after) w r)
    (hscalar : isScalar w.point = true) :
    r.insert? (r.position + w.passed) = some (w.reader before after) := by
  generalize hplace : (before.filter (· ≤ w.point)).length = place
  have htext : r.text = before.filter (· ≤ w.point) ++ after.filter (· < w.point) := by
    rw [h.text, List.filter_cons_of_neg (by simp)]
  have hlt : place < w.count + 1 := by
    rw [h.count, htext, List.length_append, hplace]
    omega
  obtain ⟨gap, hgap⟩ := Nat.exists_eq_add_of_le h.point
  have hposition : r.position + w.passed = gap * (w.count + 1) + place := by
    have hplaces := h.places
    rw [hplace, hgap, Nat.add_mul] at hplaces
    omega
  have hdiv : (r.position + w.passed) / (w.count + 1) = gap := by
    rw [hposition, Nat.mul_comm, Nat.mul_add_div (Nat.succ_pos _), Nat.div_eq_of_lt hlt]
    rfl
  have hmod : (r.position + w.passed) % (w.count + 1) = place := by
    rw [hposition, Nat.mul_comm, Nat.mul_add_mod, Nat.mod_eq_of_lt hlt]
  have hpassed : r.position + w.passed - r.started = w.passed := by
    rw [h.started]
    omega
  rw [Reader.insert?, ← h.count, hdiv, hmod, ← hgap, hscalar, hpassed, h.first, htext, ← hplace,
    List.take_left, List.drop_left, if_pos rfl]
  rfl

theorem Abreast.write (h : Abreast front before (w.point :: after) w r)
    (hscalar : isScalar w.point = true) :
    Abreast front (before ++ [w.point]) after w.write (w.reader before after) := by
  have hread : (digits w.bias 36 w.passed).foldlM Reader.next? r =
      r.insert? (r.position + w.passed) := by
    have hdigits := foldlM_digits r w.passed
    rwa [h.bias, h.step, h.weight, Nat.mul_one] at hdigits
  have hfilter : (before ++ [w.point]).filter (· ≤ w.point) =
      before.filter (· ≤ w.point) ++ [w.point] := by
    simp
  refine ⟨?_, rfl, rfl, rfl, rfl, rfl, ?_, ?_, Nat.le_refl w.point, ?_⟩
  · rw [Writer.write, List.foldlM_append, h.read]
    exact hread.trans (h.insert?_eq hscalar)
  · rw [Writer.write, hfilter]
    simp [Writer.reader]
  · rw [Writer.write, h.count, h.text]
    simp [Writer.reader]
    omega
  · rw [Writer.write, hfilter]
    simp [Writer.reader]

/-- The reader keeps abreast as the writer goes by a character. -/
theorem Abreast.pass (h : Abreast front before (point :: after) w r)
    (hscalar : isScalar point = true) :
    ∃ r', Abreast front (before ++ [point]) after (w.pass point) r' := by
  rcases Nat.lt_trichotomy point w.point with hlt | rfl | hgt
  · have hfilter : (before ++ [point]).filter (· ≤ w.point) =
        before.filter (· ≤ w.point) ++ [point] := by
      simp [Nat.le_of_lt hlt]
    rw [Writer.pass, if_pos hlt]
    refine ⟨r, h.read, h.weight, h.step, h.bias, h.started, h.first, ?_, h.count, h.point, ?_⟩
    · rw [hfilter, h.text]
      simp [hlt]
    · have hplaces := h.places
      rw [hfilter, List.length_append, List.length_singleton]
      dsimp only
      omega
  · rw [Writer.pass, if_neg (Nat.lt_irrefl _), if_pos rfl]
    exact ⟨_, h.write hscalar⟩
  · have hfilter : (before ++ [point]).filter (· ≤ w.point) = before.filter (· ≤ w.point) := by
      simp [hgt]
    rw [Writer.pass, if_neg (Nat.not_lt.2 (Nat.le_of_lt hgt)), if_neg (Nat.ne_of_gt hgt)]
    refine ⟨r, h.read, h.weight, h.step, h.bias, h.started, h.first, ?_, h.count, h.point, ?_⟩
    · rw [hfilter, h.text, List.filter_cons_of_neg (by simpa using Nat.le_of_lt hgt)]
    · rw [hfilter]
      exact h.places

theorem Abreast.passAll (h : Abreast front before after w r)
    (hscalar : ∀ point ∈ after, isScalar point = true) :
    ∃ r', Abreast front (before ++ after) [] (after.foldl Writer.pass w) r' := by
  induction after generalizing before w r with
  | nil =>
    rw [List.append_nil]
    exact ⟨r, h⟩
  | cons point after ih =>
    obtain ⟨hpoint, hafter⟩ := List.forall_mem_cons.1 hscalar
    obtain ⟨r', hpassed⟩ := h.pass hpoint
    have hrest := ih hpassed hafter
    rwa [List.append_assoc] at hrest

/-! ## One round after the other -/

/-- Code points that the text does not have are passed in one go. -/
theorem Abreast.goTo (h : Abreast front [] text w r) (hle : w.point ≤ point)
    (hnone : ∀ p ∈ text, w.point ≤ p → point ≤ p) : Abreast front [] text (w.goTo point) r := by
  refine ⟨h.read, h.weight, h.step, h.bias, h.started, h.first, ?_, h.count,
    Nat.le_trans h.point hle, ?_⟩
  · rw [h.text]
    refine congrArg _ (List.filter_congr fun p hp => ?_)
    have hskip := hnone p hp
    refine decide_eq_decide.2 ?_
    change p < w.point ↔ p < point
    omega
  · obtain ⟨gap, rfl⟩ := Nat.exists_eq_add_of_le hle
    have hplaces := h.places
    simp only [Writer.goTo, Nat.add_sub_cancel_left, Nat.add_mul] at hplaces ⊢
    simp only [List.filter_nil, List.length_nil] at hplaces ⊢
    omega

/-- At the end of the text the writer is as far as before the next code point at its beginning. -/
theorem Abreast.wrap (h : Abreast front text [] w r) :
    Abreast front [] text { w with point := w.point + 1, passed := w.passed + 1 } r := by
  refine ⟨h.read, h.weight, h.step, h.bias, h.started, h.first, ?_, h.count,
    Nat.le_succ_of_le h.point, ?_⟩
  · rw [h.text]
    simp only [List.filter_nil, List.append_nil, List.nil_append, Nat.lt_succ_iff]
  · have hplaces := h.places
    have hcount : (text.filter (· ≤ w.point)).length = w.count := by
      rw [h.count, h.text, List.filter_nil, List.append_nil]
    rw [hcount] at hplaces
    simp only [List.filter_nil, List.length_nil, Nat.add_mul] at hplaces ⊢
    omega

theorem Abreast.round (h : Abreast front [] text w r)
    (hscalar : ∀ p ∈ text, isScalar p = true) (hle : w.point ≤ point)
    (hnone : ∀ p ∈ text, w.point ≤ p → point ≤ p) :
    ∃ r', Abreast front [] text (w.round text point) r' := by
  obtain ⟨r', hpassed⟩ := (h.goTo hle hnone).passAll hscalar
  have hwrapped := hpassed.wrap
  rw [Writer.foldl_pass_point] at hwrapped
  exact ⟨r', hwrapped⟩

theorem Abreast.rounds {points : List Nat} (h : Abreast front [] text w r)
    (hscalar : ∀ p ∈ text, isScalar p = true) (hsorted : points.Pairwise (· < ·))
    (hpoints : ∀ p ∈ points, w.point ≤ p) (hall : ∀ p ∈ text, w.point ≤ p → p ∈ points) :
    ∃ r', (points.foldl (Writer.round text) w).coded.foldlM Reader.next? front = some r' ∧
      r'.weight = 1 ∧ r'.text = text := by
  induction points generalizing w r with
  | nil =>
    refine ⟨r, h.read, h.weight, h.text.trans (List.filter_eq_self.2 fun p hp => ?_)⟩
    exact decide_eq_true (Nat.not_le.1 fun hle => List.not_mem_nil (hall p hp hle))
  | cons point points ih =>
    obtain ⟨hless, hsorted⟩ := List.pairwise_cons.1 hsorted
    have hleast : ∀ p ∈ text, w.point ≤ p → point ≤ p := by
      intro p hp hle
      rcases List.mem_cons.1 (hall p hp hle) with rfl | hmem
      · exact Nat.le_refl p
      · exact Nat.le_of_lt (hless p hmem)
    obtain ⟨r', hround⟩ := h.round hscalar (hpoints point List.mem_cons_self) hleast
    refine ih hround hsorted hless fun p hp hle => ?_
    have hbelow : w.point ≤ p :=
      Nat.le_trans (hpoints point List.mem_cons_self) (Nat.le_of_succ_le hle)
    exact (List.mem_cons.1 (hall p hp hbelow)).resolve_left (Nat.ne_of_gt hle)

/-! ## Code points in order -/

theorem mem_insertInOrder {n p : Nat} {list : List Nat} :
    p ∈ insertInOrder n list ↔ p = n ∨ p ∈ list := by
  induction list with
  | nil => simp [insertInOrder]
  | cons next rest ih =>
    rw [insertInOrder]
    split
    · simp
    · split
      · next heq => simp [heq]
      · simp only [List.mem_cons, ih]
        tauto

theorem pairwise_insertInOrder (n : Nat) {list : List Nat} (h : list.Pairwise (· < ·)) :
    (insertInOrder n list).Pairwise (· < ·) := by
  induction list with
  | nil => exact List.pairwise_singleton _ _
  | cons next rest ih =>
    obtain ⟨hless, hrest⟩ := List.pairwise_cons.1 h
    rw [insertInOrder]
    split
    · next hlt =>
      refine List.pairwise_cons.2 ⟨List.forall_mem_cons.2 ⟨hlt, fun p hp => ?_⟩, h⟩
      exact Nat.lt_trans hlt (hless p hp)
    · split
      · exact h
      · refine List.pairwise_cons.2 ⟨fun p hp => ?_, ih hrest⟩
        rcases mem_insertInOrder.1 hp with rfl | hp
        · omega
        · exact hless p hp

theorem mem_foreign {p : Nat} : p ∈ foreign text ↔ p ∈ text ∧ 128 ≤ p := by
  have hfold : ∀ list : List Nat, p ∈ list.foldr insertInOrder [] ↔ p ∈ list := by
    intro list
    induction list with
    | nil => rfl
    | cons n list ih => rw [List.foldr_cons, mem_insertInOrder, ih, List.mem_cons]
  rw [foreign, hfold, List.mem_filter, decide_eq_true_iff]

theorem pairwise_foreign (text : List Nat) : (foreign text).Pairwise (· < ·) := by
  rw [foreign]
  induction text.filter (128 ≤ ·) with
  | nil => exact List.Pairwise.nil
  | cons n list ih => exact pairwise_insertInOrder n ih

/-! ## Characters of a spelling -/

/-- A character of a number: a small letter or a digit. -/
def IsDigit (c : Char) : Prop := c.isLower = true ∨ c.isDigit = true

instance (c : Char) : Decidable (IsDigit c) := inferInstanceAs (Decidable (_ ∨ _))

theorem isDigit_digit {n : Nat} (h : n < 36) : IsDigit (digit n) := by
  have hall : ∀ n < 36, IsDigit (digit n) := by decide
  exact hall n h

theorem isDigit_of_mem_digits {bias step n : Nat} {c : Char} (h : c ∈ digits bias step n) :
    IsDigit c := by
  induction n using Nat.strongRecOn generalizing step with
  | ind n ih =>
    obtain ⟨hpos, hle⟩ := threshold_bounds step bias
    rw [digits] at h
    split at h
    · next hlast =>
      obtain rfl := List.mem_singleton.1 h
      exact isDigit_digit (by omega)
    · next hmore =>
      have hmod : (n - threshold step bias) % (36 - threshold step bias) <
          36 - threshold step bias := Nat.mod_lt _ (by omega)
      rcases List.mem_cons.1 h with rfl | h
      · exact isDigit_digit (by omega)
      · exact ih _ (Nat.lt_of_le_of_lt (Nat.div_le_self _ _) (by omega)) h

theorem IsDigit.toNat_lt {c : Char} (h : IsDigit c) : c.toNat < 128 := by
  change c.val.toNat < 128
  rcases h with hlower | hdigit
  · have hle : c.val ≤ 'z'.val := of_decide_eq_true (Bool.and_eq_true_iff.1 hlower).2
    exact Nat.lt_of_le_of_lt (UInt32.le_iff_toNat_le.1 hle) (by decide)
  · have hle : c.val ≤ '9'.val := of_decide_eq_true (Bool.and_eq_true_iff.1 hdigit).2
    exact Nat.lt_of_le_of_lt (UInt32.le_iff_toNat_le.1 hle) (by decide)

theorem Writer.forall_pass (h : ∀ c ∈ w.coded, IsDigit c) (point : Nat) :
    ∀ c ∈ (w.pass point).coded, IsDigit c := by
  unfold Writer.pass Writer.write
  split
  · exact h
  · split
    · exact List.forall_mem_append.2 ⟨h, fun c hc => isDigit_of_mem_digits hc⟩
    · exact h

theorem Writer.forall_foldl_pass (h : ∀ c ∈ w.coded, IsDigit c) (text : List Nat) :
    ∀ c ∈ (text.foldl Writer.pass w).coded, IsDigit c := by
  induction text generalizing w with
  | nil => exact h
  | cons point text ih => exact ih (Writer.forall_pass h point)

theorem Writer.forall_rounds (h : ∀ c ∈ w.coded, IsDigit c) (text points : List Nat) :
    ∀ c ∈ (points.foldl (Writer.round text) w).coded, IsDigit c := by
  induction points generalizing w with
  | nil => exact h
  | cons point points ih => exact ih (Writer.forall_foldl_pass (w := w.goTo point) h text)

/-! ## Whole spellings -/

theorem isDigit_of_mem_coded {c : Char} (h : c ∈ coded text) : IsDigit c :=
  Writer.forall_rounds (List.forall_mem_nil _) text (foreign text) c h

theorem map_toNat_basic (text : List Nat) :
    ((basic text).map Char.ofNat).map Char.toNat = basic text := by
  have hall : ∀ n < 128, (Char.ofNat n).toNat = n := by decide
  rw [List.map_map, List.map_congr_left (g := id) fun n hn => ?_, List.map_id]
  exact hall n (of_decide_eq_true (List.mem_filter.1 hn).2)

/-- The hyphen behind the characters of ASCII is the last one. -/
theorem splitBasic_encode (text : List Nat) :
    splitBasic (encode text) = ((basic text).map Char.ofNat, coded text) := by
  have hplain : ∀ c ∈ (coded text).reverse, (c != '-') = true := by
    intro c hc
    rw [bne_iff_ne]
    rintro rfl
    exact absurd (isDigit_of_mem_coded (List.mem_reverse.1 hc)) (by decide)
  rw [encode, splitBasic]
  cases hbasic : basic text with
  | nil =>
    rw [List.isEmpty_nil, if_pos rfl, Text.span_of_all hplain]
    rfl
  | cons n ns =>
    have hreverse : ((n :: ns).map Char.ofNat ++ '-' :: coded text).reverse =
        (coded text).reverse ++ '-' :: ((n :: ns).map Char.ofNat).reverse := by simp
    rw [List.isEmpty_cons, if_neg (by simp), hreverse, Text.span_append_cons hplain rfl]
    simp

theorem abreast_start (text : List Nat) :
    Abreast (start (basic text)) [] text (.start (basic text).length) (start (basic text)) :=
  ⟨rfl, rfl, rfl, rfl, rfl, rfl, rfl, rfl, Nat.le_refl 128, rfl⟩

theorem mem_encode {c : Char} (h : c ∈ encode text) :
    c = '-' ∨ IsDigit c ∨ ∃ n ∈ basic text, Char.ofNat n = c := by
  rw [encode] at h
  split at h
  · exact Or.inr (Or.inl (isDigit_of_mem_coded h))
  · rcases List.mem_append.1 h with h | h
    · exact Or.inr (Or.inr (List.mem_map.1 h))
    · exact (List.mem_cons.1 h).imp_right fun h => Or.inl (isDigit_of_mem_coded h)

/-- What a text is spelt as is read as that text. -/
theorem decode?_encode (h : ∀ point ∈ text, isScalar point = true) :
    decode? (encode text) = some text := by
  obtain ⟨r, hread, hweight, htext⟩ := (abreast_start text).rounds h (pairwise_foreign text)
    (fun p hp => (mem_foreign.1 hp).2) fun p hp hle => mem_foreign.2 ⟨hp, hle⟩
  rw [decode?, splitBasic_encode]
  dsimp only
  rw [map_toNat_basic]
  change (coded text).foldlM Reader.next? (start (basic text)) = some r at hread
  rw [hread]
  exact (if_pos hweight).trans (congrArg some htext)

end RepairConsole.Url.Punycode
