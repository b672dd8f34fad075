import Mathlib.Algebra.GroupWithZero.Nat
import RepairConsole.Proofs.Text.Cut
import RepairConsole.Proofs.Text.Numerals
import RepairConsole.Proofs.Text.Split
import RepairConsole.Report.Cell
/-!
# Lengths of time, as they are shown

A length of time is taken apart into days, hours, minutes and seconds in one way only, and the text
that is shown tells the parts. So it tells the whole seconds, or where there are none the
milliseconds.
-/

namespace RepairConsole.Report

/-! ## Parts of a length of time -/

/-- How many seconds a unit has. -/
def unitSeconds (unit : String) : Nat :=
  if unit = "d" then 86400 else if unit = "h" then 3600 else if unit = "m" then 60 else 1

/-- The seconds that some parts come to. -/
def secondsOf (parts : List (Nat × String)) : Nat :=
  (parts.map fun part => part.1 * unitSeconds part.2).sum

/-- So many seconds in days, hours, minutes and seconds, the longest first and each at most once. No
part is zero, and none but the days reaches the next longer unit. -/
structure Breakdown (seconds : Nat) (parts : List (Nat × String)) : Prop where
  ordered : (parts.map Prod.snd).Sublist ["d", "h", "m", "s"]
  positive : ∀ part ∈ parts, 0 < part.1
  hours : ∀ n, (n, "h") ∈ parts → n < 24
  minutes : ∀ n, (n, "m") ∈ parts → n < 60
  rest : ∀ n, (n, "s") ∈ parts → n < 60
  total : secondsOf parts = seconds

/-- The part of one unit, unless it is zero. -/
def partOf (n : Nat) (unit : String) : List (Nat × String) := if 0 < n then [(n, unit)] else []

theorem secondsOf_append (a b : List (Nat × String)) :
    secondsOf (a ++ b) = secondsOf a + secondsOf b := by
  simp [secondsOf]

theorem secondsOf_partOf (n : Nat) (unit : String) :
    secondsOf (partOf n unit) = n * unitSeconds unit := by
  unfold partOf
  split
  · simp [secondsOf]
  · next h =>
    have hzero : n = 0 := by omega
    simp [secondsOf, hzero]

theorem mem_partOf {n m : Nat} {unit other : String} :
    (m, other) ∈ partOf n unit ↔ 0 < n ∧ m = n ∧ other = unit := by
  unfold partOf
  split
  · next h => simp [h]
  · next h => simp [h]

theorem elapsedParts_eq (seconds : Nat) :
    elapsedParts seconds = partOf (seconds / 86400) "d" ++ (partOf (seconds % 86400 / 3600) "h" ++
      (partOf (seconds % 3600 / 60) "m" ++ partOf (seconds % 60) "s")) := by
  unfold elapsedParts partOf
  simp only [List.filter_cons, List.filter_nil, decide_eq_true_eq]
  split <;> split <;> split <;> split <;> rfl

theorem mem_elapsedParts {seconds n : Nat} {unit : String} :
    (n, unit) ∈ elapsedParts seconds ↔ 0 < n ∧
      ((n = seconds / 86400 ∧ unit = "d") ∨ (n = seconds % 86400 / 3600 ∧ unit = "h") ∨
        (n = seconds % 3600 / 60 ∧ unit = "m") ∨ (n = seconds % 60 ∧ unit = "s")) := by
  simp only [elapsedParts, List.mem_filter, List.mem_cons, Prod.mk.injEq, List.not_mem_nil,
    or_false, decide_eq_true_eq]
  exact And.comm

/-- Where units come in order, the first of them has a part in front or none at all. -/
theorem exists_partOf {unit : String} {units : List String} {parts : List (Nat × String)}
    (hordered : (parts.map Prod.snd).Sublist (unit :: units))
    (hpositive : ∀ part ∈ parts, 0 < part.1) :
    ∃ n later, parts = partOf n unit ++ later ∧ (later.map Prod.snd).Sublist units ∧
      ∀ part ∈ later, 0 < part.1 := by
  cases parts with
  | nil => exact ⟨0, [], rfl, List.nil_sublist _, hpositive⟩
  | cons part parts =>
    rw [List.map_cons] at hordered
    cases hordered with
    | cons _ hskip => exact ⟨0, part :: parts, rfl, hskip, hpositive⟩
    | cons_cons _ hrest =>
      obtain ⟨hpart, hparts⟩ := List.forall_mem_cons.1 hpositive
      exact ⟨part.1, parts, by simp [partOf, hpart], hrest, hparts⟩

theorem Breakdown.exists_amounts {seconds : Nat} {parts : List (Nat × String)}
    (hparts : Breakdown seconds parts) :
    ∃ d h m s, parts = partOf d "d" ++ (partOf h "h" ++ (partOf m "m" ++ partOf s "s")) := by
  obtain ⟨d, afterDays, rfl, hdays, hpositive⟩ := exists_partOf hparts.ordered hparts.positive
  obtain ⟨h, afterHours, rfl, hhours, hpositive⟩ := exists_partOf hdays hpositive
  obtain ⟨m, afterMinutes, rfl, hminutes, hpositive⟩ := exists_partOf hhours hpositive
  obtain ⟨s, last, rfl, hlast, -⟩ := exists_partOf hminutes hpositive
  have hnil : last = [] := List.map_eq_nil_iff.1 (List.sublist_nil.1 hlast)
  exact ⟨d, h, m, s, by rw [hnil, List.append_nil]⟩

theorem secondsOf_amounts (d h m s : Nat) :
    secondsOf (partOf d "d" ++ (partOf h "h" ++ (partOf m "m" ++ partOf s "s"))) =
      d * 86400 + (h * 3600 + (m * 60 + s)) := by
  simp only [secondsOf_append, secondsOf_partOf]
  simp [unitSeconds]

theorem breakdown_elapsedParts (seconds : Nat) : Breakdown seconds (elapsedParts seconds) where
  ordered := by
    have hunits : [ (seconds / 86400, "d"), (seconds % 86400 / 3600, "h"),
        (seconds % 3600 / 60, "m"), (seconds % 60, "s") ].map Prod.snd = ["d", "h", "m", "s"] := rfl
    rw [← hunits]
    exact List.filter_sublist.map Prod.snd
  positive := by
    intro part hpart
    simpa using (List.mem_filter.1 hpart).2
  hours := by
    intro n hn
    have hhours : n = seconds % 86400 / 3600 := by simpa using (mem_elapsedParts.1 hn).2
    omega
  minutes := by
    intro n hn
    have hminutes : n = seconds % 3600 / 60 := by simpa using (mem_elapsedParts.1 hn).2
    omega
  rest := by
    intro n hn
    have hrest : n = seconds % 60 := by simpa using (mem_elapsedParts.1 hn).2
    omega
  total := by
    rw [elapsedParts_eq, secondsOf_amounts]
    omega

/-- There is only one way to take a length of time apart. -/
theorem Breakdown.eq_elapsedParts {seconds : Nat} {parts : List (Nat × String)}
    (hparts : Breakdown seconds parts) : parts = elapsedParts seconds := by
  obtain ⟨d, h, m, s, rfl⟩ := hparts.exists_amounts
  have hmem : ∀ n unit, (0 < n → (n, unit) ∈ partOf n unit) := by
    intro n unit hn
    exact mem_partOf.2 ⟨hn, rfl, rfl⟩
  have hhours : h < 24 := by
    by_contra hnot
    exact hnot (hparts.hours h (by simp [hmem h "h" (by omega)]))
  have hminutes : m < 60 := by
    by_contra hnot
    exact hnot (hparts.minutes m (by simp [hmem m "m" (by omega)]))
  have hrest : s < 60 := by
    by_contra hnot
    exact hnot (hparts.rest s (by simp [hmem s "s" (by omega)]))
  have htotal := hparts.total
  rw [secondsOf_amounts] at htotal
  have hd : d = seconds / 86400 := by omega
  have hh : h = seconds % 86400 / 3600 := by omega
  have hm : m = seconds % 3600 / 60 := by omega
  have hs : s = seconds % 60 := by omega
  rw [elapsedParts_eq, hd, hh, hm, hs]

theorem elapsedParts_eq_nil_iff {seconds : Nat} : elapsedParts seconds = [] ↔ seconds = 0 := by
  constructor
  · intro h
    rw [← (breakdown_elapsedParts seconds).total, h]
    rfl
  · rintro rfl
    rfl

theorem elapsedParts_injective {a b : Nat} (h : elapsedParts a = elapsedParts b) : a = b := by
  rw [← (breakdown_elapsedParts a).total, h, (breakdown_elapsedParts b).total]

/-! ## Reading the parts back -/

/-- The units of what is shown: letters, and no blanks or digits. -/
def shownUnits : List String := ["d", "h", "m", "s", "ms"]

theorem exists_letter {unit : String} (h : unit ∈ shownUnits) :
    (∃ c rest, unit.toList = c :: rest ∧ c.isDigit = false) ∧ ' ' ∉ unit.toList := by
  unfold shownUnits at h
  simp only [List.mem_cons, List.not_mem_nil, or_false] at h
  rcases h with rfl | rfl | rfl | rfl | rfl
  all_goals exact ⟨⟨_, _, rfl, by decide⟩, by decide⟩

theorem part_injective {n n' : Nat} {unit unit' : String} (hunit : unit ∈ shownUnits)
    (hunit' : unit' ∈ shownUnits)
    (h : (Nat.repr n ++ unit).toList = (Nat.repr n' ++ unit').toList) : n = n' ∧ unit = unit' := by
  obtain ⟨⟨c, rest, hletter, hc⟩, -⟩ := exists_letter hunit
  obtain ⟨⟨c', rest', hletter', hc'⟩, -⟩ := exists_letter hunit'
  rw [String.toList_append, String.toList_append, hletter, hletter'] at h
  obtain ⟨hdigits, rfl, rfl⟩ := Text.append_cons_inj (fun _ => Text.isDigit_of_mem_repr) hc
    (fun _ => Text.isDigit_of_mem_repr) hc' h
  exact ⟨Text.repr_injective (String.toList_inj.1 hdigits),
    String.toList_inj.1 (hletter.trans hletter'.symm)⟩

variable {parts parts' : List (Nat × String)}

theorem splitAt_spellParts (hne : parts ≠ []) (hunits : ∀ part ∈ parts, part.2 ∈ shownUnits) :
    Text.splitAt ' ' (spellParts parts).toList =
      parts.map fun part => (Nat.repr part.1 ++ part.2).toList := by
  have hblank : ∀ s ∈ parts.map (fun part => Nat.repr part.1 ++ part.2), ' ' ∉ s.toList := by
    intro s hs
    obtain ⟨part, hpart, rfl⟩ := List.mem_map.1 hs
    rw [String.toList_append, List.mem_append, not_or]
    refine ⟨fun hdigit => ?_, (exists_letter (hunits part hpart)).2⟩
    exact absurd (Text.isDigit_of_mem_repr hdigit) (by decide)
  have hsplit := Text.splitAt_intercalate_of_not_mem (by simpa using hne) hblank
  rw [List.map_map] at hsplit
  exact hsplit

theorem map_part_injective (hunits : ∀ part ∈ parts, part.2 ∈ shownUnits)
    (hunits' : ∀ part ∈ parts', part.2 ∈ shownUnits)
    (h : parts.map (fun part => (Nat.repr part.1 ++ part.2).toList) =
      parts'.map fun part => (Nat.repr part.1 ++ part.2).toList) : parts = parts' := by
  induction parts generalizing parts' with
  | nil => exact (List.map_eq_nil_iff.1 h.symm).symm
  | cons part parts ih =>
    cases parts' with
    | nil => cases h
    | cons part' parts' =>
      obtain ⟨hunit, hothers⟩ := List.forall_mem_cons.1 hunits
      obtain ⟨hunit', hothers'⟩ := List.forall_mem_cons.1 hunits'
      obtain ⟨hhead, htail⟩ := List.cons.inj h
      rw [Prod.ext_iff.2 (part_injective hunit hunit' hhead), ih hothers hothers' htail]

theorem spellParts_injective (hne : parts ≠ []) (hne' : parts' ≠ [])
    (hunits : ∀ part ∈ parts, part.2 ∈ shownUnits) (hunits' : ∀ part ∈ parts', part.2 ∈ shownUnits)
    (h : spellParts parts = spellParts parts') : parts = parts' := by
  apply map_part_injective hunits hunits'
  rw [← splitAt_spellParts hne hunits, h, splitAt_spellParts hne' hunits']

/-! ## What is shown -/

/-- The parts that are shown of a length of time in milliseconds. -/
inductive Shown (ms : Int) : List (Nat × String) → Prop
  | none (past : ms ≤ 0) : Shown ms [(0, "s")]
  | brief (begun : 0 < ms) (short : ms < 1000) : Shown ms [(ms.toNat, "ms")]
  | whole (long : 1000 ≤ ms) : Shown ms (elapsedParts (ms / 1000).toNat)

theorem exists_shown (ms : Int) : ∃ parts, Shown ms parts ∧ elapsed ms = spellParts parts := by
  have hseconds : ms.toNat / 1000 = (ms / 1000).toNat := by omega
  have hnone : (elapsedParts (ms.toNat / 1000)).isEmpty = true ↔ ms < 1000 := by
    rw [List.isEmpty_iff, elapsedParts_eq_nil_iff]
    omega
  unfold elapsed
  simp only [hnone]
  split
  · next hpast => exact ⟨_, .none hpast, rfl⟩
  · next hbegun =>
    split
    · next hshort => exact ⟨_, .brief (by omega) hshort, by simp [spellParts]⟩
    · next hlong =>
      rw [hseconds]
      exact ⟨_, .whole (by omega), rfl⟩

namespace Shown

variable {a b : Int}

theorem ne_nil (h : Shown a parts) : parts ≠ [] := by
  cases h with
  | none => exact List.cons_ne_nil _ _
  | brief => exact List.cons_ne_nil _ _
  | whole long =>
    rw [Ne, elapsedParts_eq_nil_iff]
    omega

theorem units (h : Shown a parts) : ∀ part ∈ parts, part.2 ∈ shownUnits := by
  cases h with
  | none => exact List.forall_mem_singleton.2 (by decide)
  | brief => exact List.forall_mem_singleton.2 (show "ms" ∈ shownUnits by decide)
  | whole =>
    intro part hpart
    have hmem := (breakdown_elapsedParts _).ordered.subset (List.mem_map_of_mem hpart)
    exact List.mem_append_left ["ms"] hmem

/-- Two lengths of time that are shown alike: both are none at all, or they are the same below one
second, or they have the same whole seconds. -/
theorem eq_iff (ha : Shown a parts) (hb : Shown b parts') :
    parts = parts' ↔ (a ≤ 0 ∧ b ≤ 0) ∨ (0 < a ∧ a < 1000 ∧ a = b) ∨
      (1000 ≤ a ∧ 1000 ≤ b ∧ a / 1000 = b / 1000) := by
  have hnever : ∀ seconds n, elapsedParts seconds ≠ [(n, "ms")] := by
    intro seconds n h
    have hordered := (breakdown_elapsedParts seconds).ordered
    rw [h] at hordered
    have hms : "ms" ∈ ["d", "h", "m", "s"] := hordered.subset List.mem_cons_self
    exact absurd hms (by decide)
  have hpositive : ∀ seconds, elapsedParts seconds ≠ [(0, "s")] := by
    intro seconds h
    have hzero := (breakdown_elapsedParts seconds).positive
    rw [h] at hzero
    exact absurd (hzero (0, "s") List.mem_cons_self) (Nat.lt_irrefl 0)
  cases ha with
  | none past =>
    cases hb with
    | none past' => exact iff_of_true rfl (Or.inl ⟨past, past'⟩)
    | brief begun' short' => exact iff_of_false (by simp) (by omega)
    | whole long' => exact iff_of_false (Ne.symm (hpositive _)) (by omega)
  | brief begun short =>
    cases hb with
    | none past' => exact iff_of_false (by simp) (by omega)
    | brief begun' short' =>
      simp only [List.cons.injEq, Prod.mk.injEq, and_true]
      omega
    | whole long' => exact iff_of_false (Ne.symm (hnever _ _)) (by omega)
  | whole long =>
    cases hb with
    | none past' => exact iff_of_false (hpositive _) (by omega)
    | brief begun' short' => exact iff_of_false (hnever _ _) (by omega)
    | whole long' =>
      have hparts : elapsedParts (a / 1000).toNat = elapsedParts (b / 1000).toNat ↔
          (a / 1000).toNat = (b / 1000).toNat :=
        ⟨elapsedParts_injective, congrArg elapsedParts⟩
      rw [hparts]
      omega

end Shown

theorem elapsed_of_shown {ms : Int} (h : Shown ms parts) : elapsed ms = spellParts parts := by
  obtain ⟨shown, hshown, htext⟩ := exists_shown ms
  rw [htext, (hshown.eq_iff h).2 (by omega)]

/-- Nothing is shown as `0s`, less than a second in milliseconds, and all else by its days, hours,
minutes and seconds. The text is that of other lengths only where these have the same whole seconds,
and at least one of them, or where both are nothing. -/
theorem elapsed_exact :
    (∀ ms : Int, ms ≤ 0 → elapsed ms = "0s") ∧
    (∀ ms : Int, 1 ≤ ms → ms ≤ 999 → elapsed ms = Nat.repr ms.toNat ++ "ms") ∧
    (∀ ms : Int, 1000 ≤ ms → ∃ parts, parts ≠ [] ∧ Breakdown (ms / 1000).toNat parts ∧
      (∀ other, Breakdown (ms / 1000).toNat other → other = parts) ∧
      elapsed ms = " ".intercalate (parts.map fun part => Nat.repr part.1 ++ part.2)) ∧
    ∀ a b : Int, elapsed a = elapsed b ↔ (a ≤ 0 ∧ b ≤ 0) ∨ (0 < a ∧ a < 1000 ∧ a = b) ∨
      (1000 ≤ a ∧ 1000 ≤ b ∧ a / 1000 = b / 1000) := by
  refine ⟨fun ms h => ?_, fun ms h h' => ?_, fun ms h => ?_, fun a b => ?_⟩
  · exact elapsed_of_shown (.none h)
  · rw [elapsed_of_shown (.brief (by omega) (by omega))]
    simp [spellParts]
  · have hwhole : Shown ms (elapsedParts (ms / 1000).toNat) := .whole h
    exact ⟨_, hwhole.ne_nil, breakdown_elapsedParts _, fun other => Breakdown.eq_elapsedParts,
      elapsed_of_shown hwhole⟩
  · obtain ⟨parts, hparts, ha⟩ := exists_shown a
    obtain ⟨parts', hparts', hb⟩ := exists_shown b
    rw [← hparts.eq_iff hparts', ha, hb]
    constructor
    · exact spellParts_injective hparts.ne_nil hparts'.ne_nil hparts.units hparts'.units
    · exact congrArg spellParts

end RepairConsole.Report
