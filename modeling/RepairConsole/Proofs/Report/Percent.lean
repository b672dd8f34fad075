import Mathlib.Data.Nat.Cast.Order.Field
import Mathlib.Tactic.FieldSimp
import RepairConsole.Proofs.Record.Numbers
import RepairConsole.Proofs.Report.Columns
/-!
# Ratios in per cent

A ratio is shown a hundred times as large, rounded to a whole number. Only the ratio is looked at
before, and not the product: where that is beyond the doubles, `inf` is shown.
-/

namespace RepairConsole.Decimal.Binary

theorem nearest_eq (b : Binary) (h : b.exponent < 0) :
    b.nearest = (2 * b.mantissa + 2 ^ b.exponent.natAbs) / (2 * 2 ^ b.exponent.natAbs) := by
  obtain ⟨m, e⟩ := b
  obtain ⟨k, rfl⟩ : ∃ k : Nat, e = -(k + 1) := ⟨e.natAbs - 1, by dsimp only at h; omega⟩
  have hplaces : (-((k : Int) + 1)).natAbs = k + 1 := by omega
  simp only [nearest, hplaces, if_pos h, Nat.shiftRight_eq_div_pow, Nat.one_shiftLeft,
    Nat.add_sub_cancel]
  rw [Nat.pow_succ, Nat.mul_comm (2 ^ k) 2, ← Nat.mul_add, Nat.mul_div_mul_left _ _ two_pos]

/-- The whole number is at most half away, and above the value where it is half away. -/
theorem nearest_bounds (b : Binary) :
    (b.nearest : ℚ) ≤ b.value + 1 / 2 ∧ b.value + 1 / 2 < b.nearest + 1 := by
  by_cases h : b.exponent < 0
  · have hexponent : b.exponent = -(b.exponent.natAbs : Int) := by omega
    have hpos : (0 : ℚ) < 2 ^ b.exponent.natAbs := by positivity
    have hden : 0 < 2 * 2 ^ b.exponent.natAbs := by positivity
    have hvalue : b.value + 1 / 2 = ((2 * b.mantissa + 2 ^ b.exponent.natAbs : Nat) : ℚ) /
        (2 * 2 ^ b.exponent.natAbs : Nat) := by
      rw [value, hexponent, zpow_neg, zpow_natCast, Int.natAbs_neg, Int.natAbs_natCast]
      push_cast
      field_simp
    rw [nearest_eq b h, hvalue]
    refine ⟨Nat.cast_div_le, ?_⟩
    rw [div_lt_iff₀ (by exact_mod_cast hden)]
    exact_mod_cast Nat.lt_mul_of_div_lt (Nat.lt_succ_self _) hden
  · have hexponent : b.exponent = (b.exponent.natAbs : Int) := by omega
    have hvalue : b.value = (b.nearest : ℚ) := by
      rw [value, nearest, if_neg h, Nat.shiftLeft_eq, Nat.cast_mul, Nat.cast_pow, ← zpow_natCast,
        ← hexponent]
      rfl
    rw [hvalue]
    constructor
    · linarith
    · linarith

end RepairConsole.Decimal.Binary

namespace RepairConsole.Report

open Decimal

/-- A hundred times the ratio is nearer to infinity than to any double. -/
def TooLarge (ratio : Float) : Prop := overflow ≤ 100 * (Binary.ofFloat ratio).value

/-- A minus sign for what is negative, a negative zero included. -/
def sign (ratio : Float) : String := if isNegative ratio then "-" else ""

/-- What is shown for a finite ratio: digits behind its sign, namely those of the product rounded
to a whole number; but `inf` for too large a ratio; and never a dash alone. -/
structure InPerCent (ratio : Float) (cell : String) : Prop where
  finite : ratio.isFinite = true
  digits : ¬ TooLarge ratio → ∃ n : Nat, cell = sign ratio ++ Nat.repr n ∧
    (n : ℚ) ≤ (Binary.ofFloat (ratio * 100.0)).value + 1 / 2 ∧
    (Binary.ofFloat (ratio * 100.0)).value + 1 / 2 < n + 1
  infinite : TooLarge ratio → cell = sign ratio ++ "inf"
  not_dash : cell ≠ dash
  printed : escape cell = cell ∧ Text.trimEnd cell = cell

section Percent

variable {ratio : Float}

theorem percent_of_not_finite (h : ratio.isFinite = false) : percent ratio = dash := by
  simp [percent, h]

theorem percent_of_tooLarge (h : ratio.isFinite = true) (hlarge : TooLarge ratio) :
    percent ratio = sign ratio ++ "inf" := by
  obtain ⟨hiff, hnan, hsign⟩ := mul_hundred h
  have hinfinite : (ratio * 100.0).isFinite = false := by
    rw [← Bool.not_eq_true, hiff]
    exact not_lt_of_ge hlarge
  have hinf : (ratio * 100.0).isInf = true := by rw [isInf_eq, hinfinite, hnan]; rfl
  rw [percent, if_pos h, roundedText, hnan, hinf, hsign]
  rfl

theorem percent_of_not_tooLarge (h : ratio.isFinite = true) (hlarge : ¬ TooLarge ratio) :
    percent ratio = sign ratio ++ Nat.repr (Binary.ofFloat (ratio * 100.0)).nearest := by
  obtain ⟨hiff, hnan, hsign⟩ := mul_hundred h
  have hfinite : (ratio * 100.0).isFinite = true := hiff.2 (lt_of_not_ge hlarge)
  have hinf : (ratio * 100.0).isInf = false := by rw [isInf_eq, hfinite]; rfl
  rw [percent, if_pos h, roundedText, hnan, hinf, hsign]
  rfl

theorem exists_getLast_digits (before : String) (n : Nat) :
    ∃ c, (before ++ Nat.repr n).toList.getLast? = some c ∧ c.isDigit = true := by
  have hne : (Nat.repr n).toList ≠ [] := (Text.allDigits_iff.1 (Text.allDigits_repr n)).1
  refine ⟨_, ?_, Text.isDigit_of_mem_repr (List.getLast_mem hne)⟩
  rw [String.toList_append, List.getLast?_append_of_ne_nil _ hne, List.getLast?_eq_some_getLast hne]

theorem oneLine_sign (ratio : Float) : OneLine (sign ratio) := by
  unfold sign
  split <;> decide

/-- Every finite ratio is shown as it should be, but for those that are too large. -/
theorem inPerCent_percent (h : ratio.isFinite = true) : InPerCent ratio (percent ratio) := by
  by_cases hlarge : TooLarge ratio
  · have hcell := percent_of_tooLarge h hlarge
    refine ⟨h, fun hnot => absurd hlarge hnot, fun _ => hcell, ?_, ?_⟩ <;> rw [hcell, sign]
    · split <;> decide
    · split <;> decide +kernel
  · have hcell := percent_of_not_tooLarge h hlarge
    have hdigits : OneLine (percent ratio) := hcell ▸ (oneLine_sign ratio).append (oneLine_repr _)
    obtain ⟨c, hlast, hdigit⟩ :=
      exists_getLast_digits (sign ratio) (Binary.ofFloat (ratio * 100.0)).nearest
    rw [← hcell] at hlast
    refine ⟨h, fun _ => ⟨_, hcell, Binary.nearest_bounds _⟩, fun hover => absurd hover hlarge, ?_,
      escape_of_oneLine hdigits, trimEnd_of_getLast? hlast (Text.isBlank_of_isDigit hdigit)⟩
    intro hdash
    rw [hdash, dash] at hlast
    cases hlast
    exact absurd hdigit (by decide)

theorem percent_eq_dash_iff : percent ratio = dash ↔ ratio.isFinite = false := by
  refine ⟨fun hdash => ?_, percent_of_not_finite⟩
  by_contra hfinite
  exact (inPerCent_percent (by simpa using hfinite)).not_dash hdash

end Percent

/-! ## Answers -/

/-- Each record is a row, and its ratio stands under the header of this place. -/
structure ShowsRatios {α : Type} (report : List String) (above below : Nat) (headers : List String)
    (row : α → List String) (ratio : α → Float) (label : String) (j : Nat) (shown : List α) :
    Prop where
  table : HasTable report above below headers (shown.map row)
  header : headers.getD j "" = label
  cells : ∀ r ∈ shown, InPerCent (ratio r) ((row r).getD j "")

theorem mem_of_mem_upTo_sortOn {α β : Type} {limit : Option Nat} {inOrder : β → β → Bool}
    {key : α → β} {all : List α} {r : α} (h : r ∈ upTo limit (sortOn inOrder key all)) :
    r ∈ all := by
  have hsorted : r ∈ sortOn inOrder key all := by
    cases limit with
    | none => exact h
    | some n => exact List.mem_of_mem_take h
  exact (List.mergeSort_perm all _).mem_iff.1 hsorted

theorem getElem?_schedule (limit : Option Nat) (full : Bool) (s : Schedule) :
    (schedule limit full s)[4]? =
      some ("Repaired(%)  : " ++ escape (percent s.repairedRatio)) := by
  have hlabels : (List.zip scheduleHeaders (scheduleRow s)).map (·.1.length) =
      scheduleHeaders.map String.length := by
    simp [scheduleHeaders, scheduleRow]
  have hwidth : (scheduleHeaders.map String.length).foldl max 0 = 12 := by decide +kernel
  have hpad : "" ++ pad 12 "Repaired(%)" ++ " : " = "Repaired(%)  : " := by decide +kernel
  have hfield : (List.zip scheduleHeaders (scheduleRow s))[4]? =
      some ("Repaired(%)", percent s.repairedRatio) := by
    simp [scheduleHeaders, scheduleRow]
  have hplace : 4 < (fieldLines "" (List.zip scheduleHeaders (scheduleRow s))).length := by
    simp [length_fieldLines, scheduleHeaders, scheduleRow]
  obtain ⟨rest, hrest⟩ := detailLines_prefix limit full s
  rw [← hrest, detailLines, List.append_assoc, List.append_assoc, List.getElem?_append_left hplace,
    fieldLines, List.getElem?_map, hfield, hlabels, hwidth, ← hpad]
  rfl

/-- A dash stands only for a ratio that is not finite, and no such ratio can be decoded. All other
ratios are shown as whole numbers, but for those of which a hundredfold is beyond the doubles: they
are shown as `inf`, though they are finite. -/
theorem ratios_in_per_cent (body : String) (limit : Option Nat) :
    (∀ ratio : Float, percent ratio = dash ↔ ratio.isFinite = false) ∧
    (∀ all, (Json.parse? body).bind (Json.asList? Schedule.ofJson?) = some all → ∀ now,
      ShowsRatios (schedules now limit all) 1 1 scheduleHeaders scheduleRow (·.repairedRatio)
        "Repaired(%)" 4 (upTo limit (sortOn textsInOrder scheduleKey all))) ∧
    (∀ s, (Json.parse? body).bind Schedule.ofJson? = some s → ∀ full,
      InPerCent s.repairedRatio (percent s.repairedRatio) ∧
        (schedule limit full s)[4]? = some ("Repaired(%)  : " ++ percent s.repairedRatio)) ∧
    (∀ all, (Json.parse? body).bind (Json.asList? OnDemandRepair.ofJson?) = some all →
      ShowsRatios (repairs limit all) 0 1 repairHeaders repairRow (·.repairedRatio)
        "Repaired(%)" 5 (upTo limit (sortOn textsInOrder repairKey all))) ∧
    ∀ info, (Json.parse? body).bind RepairInfo.ofJson? = some info →
      ShowsRatios (repairInfo limit info) 1 0 statsHeaders statsRow (·.repairedRatio)
        "Repaired (%)" 2 (upTo limit (sortOn textsInOrder statsKey info.repairStats)) := by
  refine ⟨fun _ => percent_eq_dash_iff, ?_, ?_, ?_, ?_⟩
  · intro all hread now
    obtain ⟨json, -, hlist⟩ := Option.bind_eq_some_iff.1 hread
    have hfinite := Json.forall_mem_of_asList? (fun _ _ => Schedule.isFinite_ratio) hlist
    refine ⟨(framed_schedules now limit all).hasTable (by decide +kernel), rfl, fun s hs => ?_⟩
    exact inPerCent_percent (hfinite s (mem_of_mem_upTo_sortOn hs))
  · intro s hread full
    obtain ⟨json, -, hs⟩ := Option.bind_eq_some_iff.1 hread
    have hcell := inPerCent_percent (Schedule.isFinite_ratio hs)
    refine ⟨hcell, ?_⟩
    rw [getElem?_schedule, hcell.printed.1]
  · intro all hread
    obtain ⟨json, -, hlist⟩ := Option.bind_eq_some_iff.1 hread
    have hfinite := Json.forall_mem_of_asList? (fun _ _ => OnDemandRepair.isFinite_ratio) hlist
    refine ⟨(framed_repairs limit all).hasTable (by decide +kernel), rfl, fun r hr => ?_⟩
    exact inPerCent_percent (hfinite r (mem_of_mem_upTo_sortOn hr))
  · intro info hread
    obtain ⟨json, -, hinfo⟩ := Option.bind_eq_some_iff.1 hread
    have hfinite := RepairInfo.isFinite_ratio hinfo
    refine ⟨(framed_repairInfo limit info).hasTable (by decide +kernel), rfl, fun s hs => ?_⟩
    exact inPerCent_percent (hfinite s (mem_of_mem_upTo_sortOn hs))

theorem ratios_in_per_cent_of_huge :
    ∃ all s repairs info,
      (Json.parse? "[\x7b\"repairedRatio\":0.5\x7d]").bind (Json.asList? Schedule.ofJson?) =
        some all ∧
      ShowsRatios (schedules ⟨0, 0⟩ none all) 1 1 scheduleHeaders scheduleRow (·.repairedRatio)
        "Repaired(%)" 4 (upTo none (sortOn textsInOrder scheduleKey all)) ∧
      (Json.parse? "\x7b\"repairedRatio\":1e306\x7d").bind Schedule.ofJson? = some s ∧
      InPerCent s.repairedRatio (percent s.repairedRatio) ∧
      (Json.parse? "[\x7b\"repairedRatio\":-0.001\x7d]").bind
        (Json.asList? OnDemandRepair.ofJson?) = some repairs ∧
      ShowsRatios (Report.repairs none repairs) 0 1 repairHeaders repairRow (·.repairedRatio)
        "Repaired(%)" 5 (upTo none (sortOn textsInOrder repairKey repairs)) ∧
      (Json.parse? "\x7b\"repairStats\":[\x7b\"repairedRatio\":-1e307\x7d]\x7d").bind
        RepairInfo.ofJson? = some info ∧
      ShowsRatios (repairInfo none info) 1 0 statsHeaders statsRow (·.repairedRatio)
        "Repaired (%)" 2 (upTo none (sortOn textsInOrder statsKey info.repairStats)) := by
  obtain ⟨all, hall⟩ := Option.isSome_iff_exists.1
    (by decide +kernel : ((Json.parse? "[\x7b\"repairedRatio\":0.5\x7d]").bind
      (Json.asList? Schedule.ofJson?)).isSome = true)
  obtain ⟨s, hs⟩ := Option.isSome_iff_exists.1
    (by decide +kernel : ((Json.parse? "\x7b\"repairedRatio\":1e306\x7d").bind
      Schedule.ofJson?).isSome = true)
  obtain ⟨repairs, hrepairs⟩ := Option.isSome_iff_exists.1
    (by decide +kernel : ((Json.parse? "[\x7b\"repairedRatio\":-0.001\x7d]").bind
      (Json.asList? OnDemandRepair.ofJson?)).isSome = true)
  obtain ⟨info, hinfo⟩ := Option.isSome_iff_exists.1
    (by decide +kernel : ((Json.parse?
      "\x7b\"repairStats\":[\x7b\"repairedRatio\":-1e307\x7d]\x7d").bind
        RepairInfo.ofJson?).isSome = true)
  exact ⟨all, s, repairs, info, hall, (ratios_in_per_cent _ none).2.1 all hall ⟨0, 0⟩, hs,
    ((ratios_in_per_cent _ none).2.2.1 s hs true).1, hrepairs,
    (ratios_in_per_cent _ none).2.2.2.1 repairs hrepairs, hinfo,
    (ratios_in_per_cent _ none).2.2.2.2 info hinfo⟩

/-- A finite ratio that is shown as `inf`. -/
theorem huge_ratio_shown_as_inf :
    ((Json.parse? "\x7b\"repairStats\":[\x7b\"repairedRatio\":1e307\x7d]\x7d").bind
        RepairInfo.ofJson?).map (fun info =>
          (info.repairStats.map (·.repairedRatio.isFinite), repairInfo none info)) =
      some ([true],
        [ "Time window (- - -)", "Keyspace  Table  Repaired (%)  Repair time taken",
          "--------  -----  ------------  -----------------",
          "                 inf           0s" ]) := by
  decide +kernel

end RepairConsole.Report
