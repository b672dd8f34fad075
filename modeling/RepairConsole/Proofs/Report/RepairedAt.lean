import RepairConsole.Proofs.Calendar.Chronology
import RepairConsole.Proofs.Report.Columns
import RepairConsole.Proofs.Report.Ordering
import RepairConsole.Proofs.Window.ShownTime
/-!
# Times in a column

Times are shown as texts of one length that sort as the times do. So the virtual nodes of a
schedule, which come in the order in which they were repaired, are also in the order of the texts
that say when.
-/

namespace RepairConsole.Report

open Calendar (lastMillis stampOfSeconds)

/-! ## Times -/

/-- The time has a stamp. -/
def Stamped (ms : Int) : Prop := 0 < ms ∧ ms ≤ lastMillis

section Times

variable {a b : Int}

theorem time_of_stamped (h : Stamped a) : time a = stampOfSeconds (a.toNat / 1000) :=
  Window.time_of_shown h

theorem length_time (h : Stamped a) : (time a).length = 19 := by
  rw [time_of_stamped h]
  unfold Stamped at h
  apply Calendar.length_stampOfSeconds
  omega

theorem time_lt (ha : Stamped a) (hb : Stamped b) (h : a / 1000 < b / 1000) :
    Text.codes (time a) < Text.codes (time b) := by
  rw [time_of_stamped ha, time_of_stamped hb]
  unfold Stamped at ha hb
  apply Calendar.stampOfSeconds_lt
  · omega
  · omega

theorem time_eq (ha : Stamped a) (hb : Stamped b) (h : a / 1000 = b / 1000) : time a = time b := by
  rw [time_of_stamped ha, time_of_stamped hb]
  unfold Stamped at ha hb
  congr 1
  omega

theorem time_le (ha : Stamped a) (hb : Stamped b) (h : a ≤ b) :
    Text.codes (time a) ≤ Text.codes (time b) := by
  by_cases hsecond : a / 1000 < b / 1000
  · exact le_of_lt (time_lt ha hb hsecond)
  · rw [time_eq ha hb (by omega)]

theorem time_eq_iff (ha : Stamped a) (hb : Stamped b) (h : a ≤ b) :
    time a = time b ↔ a / 1000 = b / 1000 := by
  constructor
  · intro heq
    by_contra hne
    have hlt := time_lt ha hb (by omega)
    rw [heq] at hlt
    exact lt_irrefl _ hlt
  · exact time_eq ha hb

end Times

/-! ## Values in order -/

section Split

variable {α : Type} {key : α → Int} {rows : List α}

theorem lt_of_mem_dropWhile {bound : Int} (h : rows.Pairwise fun a b => key a ≤ key b) :
    ∀ row ∈ rows.dropWhile (key · ≤ bound), bound < key row := by
  induction rows with
  | nil => simp
  | cons first rest ih =>
    obtain ⟨hfirst, hrest⟩ := List.pairwise_cons.1 h
    intro row hrow
    by_cases hbound : key first ≤ bound
    · rw [List.dropWhile_cons_of_pos (by simpa using hbound)] at hrow
      exact ih hrest row hrow
    · rw [List.dropWhile_cons_of_neg (by simpa using hbound)] at hrow
      rcases List.mem_cons.1 hrow with rfl | hmem
      · omega
      · have hle := hfirst row hmem
        omega

/-- Rows in order fall into those up to a bound and those past it. -/
theorem exists_split (h : rows.Pairwise fun a b => key a ≤ key b) (bound : Int) :
    ∃ low high, rows = low ++ high ∧ (∀ row ∈ low, key row ≤ bound) ∧
      ∀ row ∈ high, bound < key row := by
  refine ⟨rows.takeWhile (key · ≤ bound), _, List.takeWhile_append_dropWhile.symm, ?_,
    lt_of_mem_dropWhile h⟩
  intro row hrow
  simpa using List.mem_takeWhile_imp hrow

end Split

/-! ## The column -/

/-- What stands under `Repaired at`. -/
def repairedAt (node : VirtualNode) : String := (virtualNodeRow node).getD 3 ""

/-- First come the rows without a time, then those with one in the order of its text, then those
whose time is too late to be shown. -/
structure Chronological (early dated late : List VirtualNode) : Prop where
  without : ∀ node ∈ early, node.lastRepairedAtInMs ≤ 0 ∧ repairedAt node = "-"
  stamped : ∀ node ∈ dated, Stamped node.lastRepairedAtInMs ∧ (repairedAt node).length = 19
  ascending : dated.Pairwise fun a b => Text.codes (repairedAt a) ≤ Text.codes (repairedAt b)
  beyond : ∀ node ∈ late, lastMillis < node.lastRepairedAtInMs ∧ repairedAt node = "-"

theorem repairedAt_of_not_stamped {node : VirtualNode} (h : ¬ Stamped node.lastRepairedAtInMs) :
    repairedAt node = "-" :=
  Window.time_of_not_shown h

theorem exists_chronological {rows : List VirtualNode}
    (h : rows.Pairwise fun a b => a.lastRepairedAtInMs ≤ b.lastRepairedAtInMs) :
    ∃ early dated late, rows = early ++ dated ++ late ∧ Chronological early dated late := by
  obtain ⟨early, rest, rfl, hearly, hrest⟩ := exists_split h 0
  have hlater := (List.pairwise_append.1 h).2.1
  obtain ⟨dated, late, rfl, hdated, hlate⟩ := exists_split hlater lastMillis
  have hstamped : ∀ node ∈ dated, Stamped node.lastRepairedAtInMs := fun node hnode =>
    ⟨hrest node (List.mem_append_left _ hnode), hdated node hnode⟩
  refine ⟨early, dated, late, (List.append_assoc _ _ _).symm, ?_, ?_, ?_, ?_⟩
  · intro node hnode
    have hle := hearly node hnode
    refine ⟨hle, repairedAt_of_not_stamped ?_⟩
    unfold Stamped
    omega
  · intro node hnode
    exact ⟨hstamped node hnode, length_time (hstamped node hnode)⟩
  · have hsorted := (List.pairwise_append.1 hlater).1
    exact hsorted.imp_of_mem fun ha hb hle => time_le (hstamped _ ha) (hstamped _ hb) hle
  · intro node hnode
    have hlt := hlate node hnode
    refine ⟨hlt, repairedAt_of_not_stamped ?_⟩
    unfold Stamped
    omega

theorem pairwise_upTo {α : Type} {r : α → α → Prop} {rows : List α} (h : rows.Pairwise r)
    (limit : Option Nat) : (upTo limit rows).Pairwise r := by
  cases limit with
  | none => exact h
  | some n => exact h.sublist (List.take_sublist n rows)

/-! ## As it is printed -/

theorem exists_getLast_stampOfSeconds (seconds : Nat) :
    ∃ c, (stampOfSeconds seconds).toList.getLast? = some c ∧ c.isDigit = true := by
  have hlength : (Nat.repr (seconds % 86400 % 60)).length ≤ 2 :=
    (Nat.length_repr_le_iff (by decide)).2 (by omega)
  have hpair := Text.length_padDigits hlength
  have hne : (Text.padDigits 2 (seconds % 86400 % 60)).toList ≠ [] :=
    List.ne_nil_of_length_eq_add_one hpair
  refine ⟨_, ?_, Text.isDigit_of_mem_padDigits (List.getLast_mem hne)⟩
  unfold stampOfSeconds
  simp only [String.toList_append, toString]
  rw [List.getLast?_append_of_ne_nil _ hne, List.getLast?_eq_some_getLast hne]

/-- What stands under `Repaired at` is printed as it is. -/
theorem trimEnd_escape_repairedAt (node : VirtualNode) :
    Text.trimEnd (escape (repairedAt node)) = repairedAt node := by
  have hcell : repairedAt node = time node.lastRepairedAtInMs := rfl
  rw [escape_of_oneLine (hcell ▸ oneLine_time node.lastRepairedAtInMs)]
  by_cases h : Stamped node.lastRepairedAtInMs
  · obtain ⟨c, hlast, hdigit⟩ :=
      exists_getLast_stampOfSeconds (node.lastRepairedAtInMs.toNat / 1000)
    rw [← time_of_stamped h, ← hcell] at hlast
    exact trimEnd_of_getLast? hlast (Text.isBlank_of_isDigit hdigit)
  · rw [repairedAt_of_not_stamped h]
    rfl

/-- Texts of times have one length and are in the order of the times, and two of them are the same
if and only if the times are in one second. So the cells under `Repaired at` are in order where
they have a stamp, behind those of the nodes without a time. -/
theorem times_sort_as_texts :
    (∀ a b : Int, 0 < a → a ≤ b → b ≤ lastMillis →
      (time a).length = 19 ∧ (time b).length = 19 ∧
      Text.codes (time a) ≤ Text.codes (time b) ∧ (time a = time b ↔ a / 1000 = b / 1000)) ∧
    ∀ limit (s : Schedule) nodes, s.virtualNodeStates = some nodes →
      virtualNodeHeaders.getD 3 "" = "Repaired at" ∧
      (∀ node, Text.trimEnd (escape (repairedAt node)) = repairedAt node) ∧
      ∃ early dated late, Chronological early dated late ∧
        upTo limit (sortOn (fun a b => decide (a ≤ b)) (·.lastRepairedAtInMs) nodes) =
          early ++ dated ++ late ∧
        HasTable (schedule limit true s) 15 0 virtualNodeHeaders
          ((early ++ dated ++ late).map virtualNodeRow) := by
  constructor
  · intro a b hpositive hle hlast
    have ha : Stamped a := ⟨hpositive, by omega⟩
    have hb : Stamped b := ⟨by omega, hlast⟩
    exact ⟨length_time ha, length_time hb, time_le ha hb hle, time_eq_iff ha hb hle⟩
  · intro limit s nodes hnodes
    refine ⟨rfl, trimEnd_escape_repairedAt, ?_⟩
    have hsorted := pairwise_sortOn ordersBy_int VirtualNode.lastRepairedAtInMs nodes
    obtain ⟨early, dated, late, hrows, hchronological⟩ :=
      exists_chronological (pairwise_upTo hsorted limit)
    refine ⟨early, dated, late, hchronological, hrows, ?_⟩
    have htable := (framed_schedule hnodes limit).hasTable (by decide +kernel)
    rw [hrows, List.length_append, length_detailLines] at htable
    exact htable

theorem times_sort_as_texts_of_two :
    let nodes : List VirtualNode :=
      [ { lastRepairedAtInMs := 951782400000 }, { lastRepairedAtInMs := -1 },
        { lastRepairedAtInMs := 951782399999 }, { lastRepairedAtInMs := lastMillis + 1 } ]
    Text.codes (time 951782399999) ≤ Text.codes (time 951782400000) ∧
      time 951782399999 ≠ time 951782400000 ∧
      ∃ early dated late, Chronological early dated late ∧
        HasTable (schedule none true { virtualNodeStates := some nodes }) 15 0 virtualNodeHeaders
          ((early ++ dated ++ late).map virtualNodeRow) := by
  intro nodes
  have hpair := times_sort_as_texts.1 951782399999 951782400000 (by decide) (by decide) (by decide)
  obtain ⟨-, -, early, dated, late, hchronological, -, htable⟩ :=
    times_sort_as_texts.2 none { virtualNodeStates := some nodes } nodes rfl
  refine ⟨hpair.2.2.1, fun heq => ?_, early, dated, late, hchronological, htable⟩
  have hsecond := hpair.2.2.2.1 heq
  omega

end RepairConsole.Report
