import RepairConsole.Proofs.Decimal.Numeral
import RepairConsole.Proofs.Reading
import RepairConsole.Remote.Client
/-!
# Numbers in answers

What is decoded holds what each field's reader lets through. So the ratios of all records are
finite, whichever numerals stand for them, and whole numbers have 64 bits.
-/

namespace RepairConsole

namespace Json

section Kept

variable {α : Type} {P : α → Prop} {fields : List (Field α)}

/-- What holds of a record stays true if any of the fields is put into it. -/
def Keeps (P : α → Prop) (fields : List (Field α)) : Prop :=
  ∀ field ∈ fields, ∀ json record record', P record → field.put json record = some record' →
    P record'

theorem Keeps.nil : Keeps P [] := nofun

theorem Keeps.cons {β : Type} {name : String} {read : Json → Option β} {set : β → α → α}
    (hset : ∀ json value record, read json = some value → P record → P (set value record))
    (h : Keeps P fields) : Keeps P (.of name read set :: fields) := by
  refine List.forall_mem_cons.2 ⟨fun json record record' hrecord hput => ?_, h⟩
  obtain ⟨value, hvalue, rfl⟩ := Option.map_eq_some_iff.1 hput
  exact hset json value record hvalue hrecord

theorem Keeps.putMembers (h : Keeps P fields) {seen : List String} {record left : α}
    {members : List (Option String × Json)} (hrecord : P record)
    (hput : Json.putMembers fields seen record members = some left) : P left := by
  -- Members are skipped, put into the record, or end the reading.
  fun_induction Json.putMembers fields seen record members with
  | case1 seen record =>
    cases hput
    exact hrecord
  | case2 => cases hput
  | case3 seen record name value rest hnone ih => exact ih hrecord hput
  | case4 => cases hput
  | case5 => cases hput
  | case6 seen record name value rest field hfind hnew record' hfield ih =>
    exact ih (h field (List.mem_of_find?_eq_some hfind) value record record' hrecord hfield) hput

theorem Keeps.putItems (h : Keeps P fields) {record left : α} {items : List Json}
    (hrecord : P record) (hput : Json.putItems record fields items = some left) : P left := by
  induction items generalizing record fields with
  | nil =>
    cases fields <;> cases hput <;> exact hrecord
  | cons item items ih =>
    cases fields with
    | nil => cases hput
    | cons field fields =>
      unfold Json.putItems at hput
      split at hput
      · cases hput
      · next record' hfield =>
        have hrest : Keeps P fields := fun other hmem => h other (List.mem_cons_of_mem field hmem)
        exact ih hrest (h field List.mem_cons_self item record record' hrecord hfield) hput

theorem Keeps.asRecord? (h : Keeps P fields) {blank record : α} {json : Json} (hblank : P blank)
    (hread : Json.asRecord? fields blank json = some record) : P record := by
  cases json with
  | object members => exact h.putMembers hblank hread
  | array items => exact h.putItems hblank hread
  | _ => cases hread

theorem forall_mem_of_asList? {read : Json → Option α}
    (h : ∀ json value, read json = some value → P value) {json : Json} {values : List α}
    (hread : asList? read json = some values) : ∀ value ∈ values, P value := by
  cases json with
  | array items => exact forall_mem_of_mapM h hread
  | _ => cases hread

theorem of_asOptional?_eq_some {read : Json → Option α} {json : Json} {value : α}
    (h : asOptional? read json = some (some value)) : read json = some value := by
  cases json with
  | null => cases h
  | _ => simpa [asOptional?] using h

end Kept

theorem isFinite_asFloat? {json : Json} {x : Float} (h : asFloat? json = some x) :
    x.isFinite = true := by
  cases json with
  | number n => exact Decimal.Numeral.isFinite_toFloat? h
  | _ => cases h

/-- A signed number of 64 bits. -/
def IsInt64 (n : Int) : Prop := -0x8000000000000000 ≤ n ∧ n < 0x8000000000000000

theorem isInt64_zero : IsInt64 0 := by
  unfold IsInt64
  omega

theorem isInt64_asInt64? {json : Json} {n : Int} (h : asInt64? json = some n) : IsInt64 n := by
  cases json with
  | number m =>
    change m.toInt64? = some n at h
    unfold Decimal.Numeral.toInt64? at h
    unfold IsInt64
    split_ifs at h with hplain hnegative hrange hrange <;> cases h <;> omega
  | _ => cases h

end Json

open Json

/-! ## Ratios -/

theorem Schedule.isFinite_ratio {json : Json} {s : Schedule} (h : ofJson? json = some s) :
    s.repairedRatio.isFinite = true := by
  have hkeeps : Keeps (fun s : Schedule => s.repairedRatio.isFinite = true) fields := by
    iterate 4 refine .cons (fun _ _ _ _ h => h) ?_
    refine .cons (fun _ _ _ hread _ => isFinite_asFloat? hread) ?_
    iterate 5 refine .cons (fun _ _ _ _ h => h) ?_
    exact .nil
  exact hkeeps.asRecord? (by decide +kernel) h

theorem OnDemandRepair.isFinite_ratio {json : Json} {r : OnDemandRepair}
    (h : ofJson? json = some r) : r.repairedRatio.isFinite = true := by
  have hkeeps : Keeps (fun r : OnDemandRepair => r.repairedRatio.isFinite = true) fields := by
    iterate 5 refine .cons (fun _ _ _ _ h => h) ?_
    refine .cons (fun _ _ _ hread _ => isFinite_asFloat? hread) ?_
    iterate 2 refine .cons (fun _ _ _ _ h => h) ?_
    exact .nil
  exact hkeeps.asRecord? (by decide +kernel) h

theorem RepairStats.isFinite_ratio {json : Json} {s : RepairStats} (h : ofJson? json = some s) :
    s.repairedRatio.isFinite = true := by
  have hkeeps : Keeps (fun s : RepairStats => s.repairedRatio.isFinite = true) fields := by
    iterate 2 refine .cons (fun _ _ _ _ h => h) ?_
    refine .cons (fun _ _ _ hread _ => isFinite_asFloat? hread) ?_
    exact .cons (fun _ _ _ _ h => h) .nil
  exact hkeeps.asRecord? (by decide +kernel) h

theorem RepairInfo.isFinite_ratio {json : Json} {info : RepairInfo} (h : ofJson? json = some info) :
    ∀ s ∈ info.repairStats, s.repairedRatio.isFinite = true := by
  have hkeeps : Keeps (fun info : RepairInfo =>
      ∀ s ∈ info.repairStats, s.repairedRatio.isFinite = true) fields := by
    iterate 2 refine .cons (fun _ _ _ _ h => h) ?_
    exact .cons (fun _ _ _ hread _ => forall_mem_of_asList? (fun _ _ => RepairStats.isFinite_ratio)
      hread) .nil
  exact hkeeps.asRecord? (by decide) h

/-! ## Whole numbers -/

theorem VirtualNode.isInt64_tokens {json : Json} {node : VirtualNode}
    (h : ofJson? json = some node) : IsInt64 node.startToken ∧ IsInt64 node.endToken := by
  have hkeeps : Keeps (fun node : VirtualNode => IsInt64 node.startToken ∧ IsInt64 node.endToken)
      fields := by
    refine .cons (fun _ _ _ hread h => ⟨isInt64_asInt64? hread, h.2⟩) ?_
    refine .cons (fun _ _ _ hread h => ⟨h.1, isInt64_asInt64? hread⟩) ?_
    iterate 3 refine .cons (fun _ _ _ _ h => h) ?_
    exact .nil
  exact hkeeps.asRecord? ⟨isInt64_zero, isInt64_zero⟩ h

theorem Schedule.isInt64_tokens {json : Json} {s : Schedule} (h : ofJson? json = some s)
    {nodes : List VirtualNode} (hnodes : s.virtualNodeStates = some nodes) :
    ∀ node ∈ nodes, IsInt64 node.startToken ∧ IsInt64 node.endToken := by
  have hkeeps : Keeps (fun s : Schedule => ∀ nodes, s.virtualNodeStates = some nodes →
      ∀ node ∈ nodes, IsInt64 node.startToken ∧ IsInt64 node.endToken) fields := by
    iterate 9 refine .cons (fun _ _ _ _ h => h) ?_
    refine .cons (fun json states _ hread _ nodes heq => ?_) .nil
    obtain rfl : states = some nodes := heq
    exact forall_mem_of_asList? (fun _ _ => VirtualNode.isInt64_tokens)
      (of_asOptional?_eq_some hread)
  exact hkeeps.asRecord? (by simp) h nodes hnodes

theorem RepairStats.isInt64_time {json : Json} {s : RepairStats} (h : ofJson? json = some s) :
    IsInt64 s.repairTimeTakenMs := by
  have hkeeps : Keeps (fun s : RepairStats => IsInt64 s.repairTimeTakenMs) fields := by
    iterate 3 refine .cons (fun _ _ _ _ h => h) ?_
    exact .cons (fun _ _ _ hread _ => isInt64_asInt64? hread) .nil
  exact hkeeps.asRecord? isInt64_zero h

theorem RepairInfo.isInt64_time {json : Json} {info : RepairInfo} (h : ofJson? json = some info) :
    ∀ s ∈ info.repairStats, IsInt64 s.repairTimeTakenMs := by
  have hkeeps : Keeps (fun info : RepairInfo =>
      ∀ s ∈ info.repairStats, IsInt64 s.repairTimeTakenMs) fields := by
    iterate 2 refine .cons (fun _ _ _ _ h => h) ?_
    exact .cons (fun _ _ _ hread _ => forall_mem_of_asList? (fun _ _ => RepairStats.isInt64_time)
      hread) .nil
  exact hkeeps.asRecord? (fun _ hmem => absurd hmem List.not_mem_nil) h

end RepairConsole
