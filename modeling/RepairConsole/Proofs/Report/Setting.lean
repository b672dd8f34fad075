import Mathlib.Data.String.Lemmas
import RepairConsole.Proofs.Report.Elapsed
import RepairConsole.Proofs.Report.Percent
import RepairConsole.Proofs.Report.RepairedAt
/-!
# Tables that cannot be set

Columns are as wide as their widest cells, and nothing bounds the texts that the service sends. So
a report breaks off before its table if one of the texts is too long. Numbers, times and lengths of
time never are.
-/

namespace RepairConsole.Report

/-! ## Cells that always fit -/

theorem length_escape_le (s : String) : (escape s).length ≤ 2 * s.length := by
  have hchars : ∀ cs : List Char, (cs.flatMap escapeChar).length ≤ 2 * cs.length := by
    intro cs
    induction cs with
    | nil => simp
    | cons c cs ih =>
      have hchar : (escapeChar c).length ≤ 2 := by
        unfold escapeChar
        split_ifs <;> simp
      rw [List.flatMap_cons, List.length_append, List.length_cons]
      omega
  rw [escape, String.length_ofList]
  exact hchars s.toList

theorem fitting_of_length_le {s : String} (h : s.length ≤ 2000) : Fitting s := by
  have hle := length_escape_le s
  unfold Fitting widthLimit
  omega

theorem length_repr_le {n k : Nat} (hk : 0 < k) (h : n < 2 ^ k) : (Nat.repr n).length ≤ k :=
  (Nat.length_repr_le_iff hk).2 (lt_of_lt_of_le h (Nat.pow_le_pow_left (by decide) k))

theorem fitting_time (ms : Int) : Fitting (time ms) := by
  apply fitting_of_length_le
  by_cases h : Stamped ms
  · rw [length_time h]
    decide
  · rw [Window.time_of_not_shown h]
    decide

theorem fitting_flag (value : Bool) : Fitting (flag value) := by
  apply fitting_of_length_le
  cases value <;> decide

theorem fitting_int {n : Int} (h : Json.IsInt64 n) : Fitting n.repr := by
  unfold Json.IsInt64 at h
  apply fitting_of_length_le
  cases n with
  | ofNat n =>
    have hn : (n : Int) < 0x8000000000000000 := h.2
    have hlength : (Nat.repr n).length ≤ 64 := length_repr_le (by decide) (by omega)
    change (Nat.repr n).length ≤ 2000
    omega
  | negSucc n =>
    have hlength : (Nat.repr (n + 1)).length ≤ 64 := length_repr_le (by decide) (by omega)
    change ("-" ++ Nat.repr (n + 1)).length ≤ 2000
    rw [String.length_append]
    have hminus : "-".length = 1 := rfl
    omega

theorem nearest_lt {b : Decimal.Binary} {m e : Nat} (hm : b.mantissa < 2 ^ m)
    (he : b.exponent ≤ e) : b.nearest < 2 ^ (m + e + 1) := by
  have hpos : 0 < 2 ^ b.exponent.natAbs := Nat.two_pow_pos _
  have hwide : 2 ^ m ≤ 2 ^ (m + e) := Nat.pow_le_pow_right (by decide) (Nat.le_add_right m e)
  rw [Nat.pow_succ]
  unfold Decimal.Binary.nearest
  split_ifs
  · have hhalf : 2 ^ (b.exponent.natAbs - 1) ≤ 2 ^ b.exponent.natAbs :=
      Nat.pow_le_pow_right (by decide) (Nat.sub_le _ _)
    have hlow : b.mantissa ≤ 2 ^ b.exponent.natAbs * b.mantissa := Nat.le_mul_of_pos_left _ hpos
    have hquotient : (b.mantissa + 2 ^ (b.exponent.natAbs - 1)) / 2 ^ b.exponent.natAbs ≤
        b.mantissa + 1 := by
      apply Nat.div_le_of_le_mul
      rw [Nat.mul_succ]
      omega
    rw [Nat.shiftRight_eq_div_pow, Nat.one_shiftLeft]
    omega
  · have hscale : b.mantissa * 2 ^ b.exponent.natAbs ≤ 2 ^ m * 2 ^ e :=
      Nat.mul_le_mul hm.le (Nat.pow_le_pow_right (by decide) (by omega))
    rw [← Nat.pow_add] at hscale
    rw [Nat.shiftLeft_eq]
    omega

/-- A double has 53 bits, of which the last counts no more than `2 ^ 972`. -/
theorem ofFloat_bounds (x : Float) :
    (Decimal.Binary.ofFloat x).mantissa < 2 ^ 53 ∧
      (Decimal.Binary.ofFloat x).exponent ≤ (972 : Nat) := by
  unfold Decimal.Binary.ofFloat Decimal.fractionField Decimal.exponentField
  split_ifs <;> dsimp only <;> omega

theorem length_sign_le (ratio : Float) : (sign ratio).length ≤ 1 := by
  unfold sign
  split <;> decide

theorem fitting_percent (ratio : Float) : Fitting (percent ratio) := by
  apply fitting_of_length_le
  have hsign := length_sign_le ratio
  by_cases hfinite : ratio.isFinite = true
  · by_cases hlarge : TooLarge ratio
    · have hinf : "inf".length = 3 := rfl
      rw [percent_of_tooLarge hfinite hlarge, String.length_append]
      omega
    · obtain ⟨hmantissa, hexponent⟩ := ofFloat_bounds (ratio * 100.0)
      have hdigits := length_repr_le (by decide) (nearest_lt hmantissa hexponent)
      rw [percent_of_not_tooLarge hfinite hlarge, String.length_append]
      omega
  · rw [percent_of_not_finite (by simpa using hfinite)]
    decide

theorem length_intercalate_le {mark : String} {parts : List String} {k : Nat}
    (h : ∀ part ∈ parts, part.length ≤ k) :
    (mark.intercalate parts).length ≤ parts.length * (k + mark.length) := by
  induction parts with
  | nil => simp
  | cons part parts ih =>
    obtain ⟨hpart, hparts⟩ := List.forall_mem_cons.1 h
    cases parts with
    | nil =>
      rw [String.intercalate_singleton, List.length_singleton]
      omega
    | cons next more =>
      have hrest := ih hparts
      rw [String.intercalate_cons_cons, String.length_append, String.length_append,
        List.length_cons, Nat.succ_mul]
      omega

theorem fitting_elapsed {ms : Int} (h : ms < 2 ^ 63) : Fitting (elapsed ms) := by
  apply fitting_of_length_le
  unfold elapsed
  dsimp only
  split_ifs
  · decide
  · have hdigits : (Nat.repr ms.toNat).length ≤ 63 := length_repr_le (by decide) (by omega)
    have hunit : "ms".length = 2 := rfl
    rw [String.length_append]
    omega
  · have hparts : ∀ part ∈ elapsedParts (ms.toNat / 1000),
        (Nat.repr part.1 ++ part.2).length ≤ 64 := by
      rintro ⟨n, unit⟩ hpart
      obtain ⟨-, hcases⟩ := mem_elapsedParts.1 hpart
      have hdigits : (Nat.repr n).length ≤ 63 := length_repr_le (by decide) (by omega)
      have hunit : unit.length = 1 := by
        rcases hcases with ⟨-, rfl⟩ | ⟨-, rfl⟩ | ⟨-, rfl⟩ | ⟨-, rfl⟩ <;> rfl
      change (Nat.repr n ++ unit).length ≤ 64
      rw [String.length_append]
      omega
    -- Days, hours, minutes and seconds, and a blank between them.
    have hfour : (elapsedParts (ms.toNat / 1000)).length ≤ 4 := List.length_filter_le _ _
    have hblank : " ".length = 1 := rfl
    apply Nat.le_trans (length_intercalate_le (List.forall_mem_map.2 hparts))
    rw [List.length_map, hblank]
    omega

/-! ## Texts of records -/

def scheduleTexts (s : Schedule) : List String :=
  [s.id, s.keyspace, s.table, s.status, s.repairType]

def repairTexts (r : OnDemandRepair) : List String :=
  [r.id, r.hostId, r.keyspace, r.table, r.status, r.repairType]

def statsTexts (s : RepairStats) : List String := [s.keyspace, s.table]

/-- The only text of a virtual node lists all of its replicas. -/
def nodeTexts (node : VirtualNode) : List String := [(virtualNodeRow node).getD 2 ""]

/-- The replicas of the virtual nodes that are shown. -/
def virtualNodeTexts (limit : Option Nat) (full : Bool) (s : Schedule) : List String :=
  match full, s.virtualNodeStates with
  | true, some nodes =>
    (upTo limit (sortOn (fun a b => decide (a ≤ b)) (·.lastRepairedAtInMs) nodes)).flatMap nodeTexts
  | _, _ => []

theorem fitting_scheduleRow (s : Schedule) :
    (∀ cell ∈ scheduleRow s, Fitting cell) ↔ ∀ text ∈ scheduleTexts s, Fitting text := by
  simp [scheduleRow, scheduleTexts, fitting_percent, fitting_time]

theorem fitting_repairRow (r : OnDemandRepair) :
    (∀ cell ∈ repairRow r, Fitting cell) ↔ ∀ text ∈ repairTexts r, Fitting text := by
  simp [repairRow, repairTexts, fitting_percent, fitting_time]

theorem fitting_statsRow {s : RepairStats} (h : Json.IsInt64 s.repairTimeTakenMs) :
    (∀ cell ∈ statsRow s, Fitting cell) ↔ ∀ text ∈ statsTexts s, Fitting text := by
  have htime := fitting_elapsed h.2
  simp [statsRow, statsTexts, fitting_percent, htime]

theorem fitting_virtualNodeRow {node : VirtualNode} (h : Json.IsInt64 node.startToken)
    (h' : Json.IsInt64 node.endToken) :
    (∀ cell ∈ virtualNodeRow node, Fitting cell) ↔ ∀ text ∈ nodeTexts node, Fitting text := by
  simp [virtualNodeRow, nodeTexts, fitting_time, fitting_flag, fitting_int h, fitting_int h']

/-! ## Reports that break off -/

/-- The report is printed whole if all these texts fit, and only so many lines of it if one of them
does not. -/
structure BreaksOff (parts : List Part) (report : List String) (above : Nat)
    (texts : List String) : Prop where
  whole : (∀ text ∈ texts, Fitting text) → set parts = (report, true)
  broken : ∀ text ∈ texts, ¬ Fitting text → set parts = (report.take above, false)

theorem allFit_map {α : Type} {row texts : α → List String} {shown : List α}
    (hrow : ∀ r ∈ shown, (∀ cell ∈ row r, Fitting cell) ↔ ∀ text ∈ texts r, Fitting text) :
    AllFit (shown.map row) ↔ ∀ text ∈ shown.flatMap texts, Fitting text := by
  rw [AllFit, List.forall_mem_map, List.forall_mem_flatMap]
  exact forall₂_congr hrow

/-- A report ends above its table if and only if one of the texts in it does not fit. -/
theorem Framed.breaksOff {parts : List Part} {above headers below texts : List String}
    {rows : List (List String)} (h : Framed parts above headers rows below)
    (htexts : AllFit rows ↔ ∀ text ∈ texts, Fitting text) :
    BreaksOff parts (inFull parts) above.length texts := by
  refine ⟨fun hall => h.whole (htexts.2 hall), fun text htext hlong => ?_⟩
  rw [h.broken fun hall => hlong (htexts.1 hall text htext), h.full, List.append_assoc,
    List.take_left]

theorem breaksOff_brief {s : Schedule} (limit : Option Nat) (above : Nat) {full : Bool}
    (h : full = false ∨ s.virtualNodeStates = none) :
    BreaksOff (scheduleParts limit full s) (schedule limit full s) above
      (virtualNodeTexts limit full s) := by
  have htexts : virtualNodeTexts limit full s = [] := by
    rcases h with rfl | h
    · rfl
    · cases full <;> simp [virtualNodeTexts, h]
  rw [htexts, schedule_of_brief h]
  exact ⟨fun _ => set_of_brief h limit, fun text htext => absurd htext List.not_mem_nil⟩

theorem breaksOff_full {json : Json} {s : Schedule} (hs : Schedule.ofJson? json = some s)
    {nodes : List VirtualNode} (hnodes : s.virtualNodeStates = some nodes) (limit : Option Nat) :
    BreaksOff (scheduleParts limit true s) (schedule limit true s) 15
      (virtualNodeTexts limit true s) := by
  have htexts : virtualNodeTexts limit true s =
      (upTo limit (sortOn (fun a b => decide (a ≤ b)) (·.lastRepairedAtInMs) nodes)).flatMap
        nodeTexts := by
    simp [virtualNodeTexts, hnodes]
  have habove : (detailLines s ++ [""]).length = 15 := by
    rw [List.length_append, length_detailLines, List.length_singleton]
  rw [htexts, ← habove]
  refine (framed_schedule hnodes limit).breaksOff (allFit_map fun node hnode => ?_)
  obtain ⟨hstart, hend⟩ := Schedule.isInt64_tokens hs hnodes node (mem_of_mem_upTo_sortOn hnode)
  exact fitting_virtualNodeRow hstart hend

/-! ## Which reports break off -/

/-- Whatever is decoded, a report is printed whole if and only if all texts in its table, with
their line breaks escaped, have no more characters than the formatter takes for a width. -/
theorem long_texts_break_off (body : String) (limit : Option Nat) :
    (∀ all, (Json.parse? body).bind (Json.asList? Schedule.ofJson?) = some all → ∀ now,
      BreaksOff (schedulesParts now limit all) (schedules now limit all) 1
        ((upTo limit (sortOn textsInOrder scheduleKey all)).flatMap scheduleTexts)) ∧
    (∀ s, (Json.parse? body).bind Schedule.ofJson? = some s → ∀ full,
      BreaksOff (scheduleParts limit full s) (schedule limit full s) 15
        (virtualNodeTexts limit full s)) ∧
    (∀ all, (Json.parse? body).bind (Json.asList? OnDemandRepair.ofJson?) = some all →
      BreaksOff (repairsParts limit all) (repairs limit all) 0
        ((upTo limit (sortOn textsInOrder repairKey all)).flatMap repairTexts)) ∧
    ∀ info, (Json.parse? body).bind RepairInfo.ofJson? = some info →
      BreaksOff (repairInfoParts limit info) (repairInfo limit info) 1
        ((upTo limit (sortOn textsInOrder statsKey info.repairStats)).flatMap statsTexts) := by
  refine ⟨?_, ?_, ?_, ?_⟩
  · intro all _ now
    exact (framed_schedules now limit all).breaksOff (allFit_map fun s _ => fitting_scheduleRow s)
  · intro s hread full
    obtain ⟨json, -, hs⟩ := Option.bind_eq_some_iff.1 hread
    cases full with
    | false => exact breaksOff_brief limit 15 (Or.inl rfl)
    | true =>
      cases hnodes : s.virtualNodeStates with
      | none => exact breaksOff_brief limit 15 (Or.inr hnodes)
      | some nodes => exact breaksOff_full hs hnodes limit
  · intro all _
    exact (framed_repairs limit all).breaksOff (allFit_map fun r _ => fitting_repairRow r)
  · intro info hread
    obtain ⟨json, -, hinfo⟩ := Option.bind_eq_some_iff.1 hread
    have htimes := RepairInfo.isInt64_time hinfo
    refine (framed_repairInfo limit info).breaksOff (allFit_map fun s hs => ?_)
    exact fitting_statsRow (htimes s (mem_of_mem_upTo_sortOn hs))

theorem long_texts_break_off_of_short :
    ∃ all s repairs info,
      (Json.parse? "[\x7b\"keyspace\":\"k\"\x7d]").bind (Json.asList? Schedule.ofJson?) =
        some all ∧
      BreaksOff (schedulesParts ⟨0, 0⟩ none all) (schedules ⟨0, 0⟩ none all) 1
        ((upTo none (sortOn textsInOrder scheduleKey all)).flatMap scheduleTexts) ∧
      (Json.parse? "\x7b\"virtualNodeStates\":[\x7b\"replicas\":[\"a\",\"b\"]\x7d]\x7d").bind
        Schedule.ofJson? = some s ∧
      BreaksOff (scheduleParts none true s) (schedule none true s) 15
        (virtualNodeTexts none true s) ∧
      (Json.parse? "[\x7b\"hostId\":\"h\"\x7d]").bind (Json.asList? OnDemandRepair.ofJson?) =
        some repairs ∧
      BreaksOff (repairsParts none repairs) (Report.repairs none repairs) 0
        ((upTo none (sortOn textsInOrder repairKey repairs)).flatMap repairTexts) ∧
      (Json.parse? (bodyOfKeyspace "k")).bind RepairInfo.ofJson? = some info ∧
      BreaksOff (repairInfoParts none info) (repairInfo none info) 1
        ((upTo none (sortOn textsInOrder statsKey info.repairStats)).flatMap statsTexts) := by
  obtain ⟨all, hall⟩ := Option.isSome_iff_exists.1
    (by decide +kernel : ((Json.parse? "[\x7b\"keyspace\":\"k\"\x7d]").bind
      (Json.asList? Schedule.ofJson?)).isSome = true)
  obtain ⟨s, hs⟩ := Option.isSome_iff_exists.1
    (by decide +kernel : ((Json.parse?
      "\x7b\"virtualNodeStates\":[\x7b\"replicas\":[\"a\",\"b\"]\x7d]\x7d").bind
        Schedule.ofJson?).isSome = true)
  obtain ⟨repairs, hrepairs⟩ := Option.isSome_iff_exists.1
    (by decide +kernel : ((Json.parse? "[\x7b\"hostId\":\"h\"\x7d]").bind
      (Json.asList? OnDemandRepair.ofJson?)).isSome = true)
  have hinfo : (Json.parse? (bodyOfKeyspace "k")).bind RepairInfo.ofJson? =
      some { repairStats := [{ keyspace := "k" }] } := repairInfo_of_keyspace (by simp)
  exact ⟨all, s, repairs, _, hall, (long_texts_break_off _ none).1 all hall ⟨0, 0⟩, hs,
    (long_texts_break_off _ none).2.1 s hs true, hrepairs,
    (long_texts_break_off _ none).2.2.1 repairs hrepairs, hinfo,
    (long_texts_break_off _ none).2.2.2 _ hinfo⟩

/-- An answer with one keyspace, of a name that is too long: only the line above the table is
printed. -/
theorem long_keyspace_breaks_off :
    (bodyOfKeyspace longKeyspace).utf8ByteSize ≤ Response.bodyLimit ∧
      ((Json.parse? (bodyOfKeyspace longKeyspace)).bind RepairInfo.ofJson?).map
          (fun info => set (repairInfoParts none info)) =
        some (["Time window (- - -)"], false) := by
  refine ⟨?_, ?_⟩
  · rw [utf8ByteSize_bodyOfKeyspace, utf8ByteSize_longKeyspace]
    decide
  · rw [repairInfo_of_keyspace plain_longKeyspace, Option.map_some,
      set_repairInfo_of_long not_fitting_longKeyspace]

end RepairConsole.Report
