import Mathlib.Data.List.TakeWhile
import RepairConsole.Report.Listings
/-!
# Tables between lines

A report has at most one table, and lines above and below it. If all cells of the table fit into
columns, the report is printed in full. If one does not, it ends above the table.
-/

namespace RepairConsole.Report

/-! ## Widths -/

theorem length_widen (widths : List Nat) (cells : List String) :
    (widen widths cells).length = widths.length := by
  induction widths generalizing cells with
  | nil => cases cells <;> rfl
  | cons width widths ih =>
    cases cells with
    | nil => rfl
    | cons cell cells => simp [widen, ih]

theorem rowCells_of_length {row : List String} {columns : Nat} (h : row.length = columns) :
    rowCells columns row = row.map escape := by
  rw [rowCells, h, Nat.sub_self, List.take_of_length_le (Nat.le_of_eq h)]
  exact List.append_nil _

section Widths

variable {bound : Nat}

theorem forall_widen_le {widths : List Nat} {cells : List String}
    (h : cells.length = widths.length) :
    (∀ width ∈ widen widths cells, width ≤ bound) ↔
      (∀ width ∈ widths, width ≤ bound) ∧ ∀ cell ∈ cells, cell.length ≤ bound := by
  induction widths generalizing cells with
  | nil =>
    obtain rfl : cells = [] := by simpa using h
    simp [widen]
  | cons width widths ih =>
    cases cells with
    | nil => simp at h
    | cons cell cells =>
      rw [widen, List.forall_mem_cons, ih (by simpa using h), List.forall_mem_cons,
        List.forall_mem_cons, Nat.max_le]
      exact and_and_and_comm

theorem forall_foldl_widen_le {body : List (List String)} {widths : List Nat}
    (h : ∀ cells ∈ body, cells.length = widths.length) :
    (∀ width ∈ body.foldl widen widths, width ≤ bound) ↔
      (∀ width ∈ widths, width ≤ bound) ∧
        ∀ cells ∈ body, ∀ cell ∈ cells, cell.length ≤ bound := by
  induction body generalizing widths with
  | nil => simp
  | cons cells body ih =>
    obtain ⟨hcells, hbody⟩ := List.forall_mem_cons.1 h
    have hwiden := length_widen widths cells
    rw [List.foldl_cons, ih (by rw [hwiden]; exact hbody), forall_widen_le hcells,
      List.forall_mem_cons, and_assoc]

end Widths

/-- Whether a text fits into a column. -/
def Fitting (text : String) : Prop := (escape text).length ≤ widthLimit

instance (text : String) : Decidable (Fitting text) :=
  inferInstanceAs (Decidable ((escape text).length ≤ widthLimit))

/-- Whether all cells of these rows fit into columns. -/
def AllFit (rows : List (List String)) : Prop := ∀ row ∈ rows, ∀ cell ∈ row, Fitting cell

instance (rows : List (List String)) : Decidable (AllFit rows) :=
  inferInstanceAs (Decidable (∀ row ∈ rows, ∀ cell ∈ row, Fitting cell))

theorem settable_iff {headers : List String} {rows : List (List String)}
    (hheaders : ∀ header ∈ headers, header.length ≤ widthLimit)
    (h : ∀ row ∈ rows, row.length = headers.length) :
    settable headers rows = true ↔ AllFit rows := by
  have hbody : rows.map (rowCells headers.length) = rows.map fun row => row.map escape :=
    List.map_congr_left fun row hrow => rowCells_of_length (h row hrow)
  have hcells : ∀ cells ∈ rows.map fun row => row.map escape,
      cells.length = (headers.map String.length).length := by
    refine List.forall_mem_map.2 fun row hrow => ?_
    rw [List.length_map, List.length_map, h row hrow]
  simp only [settable, columnWidths, hbody, List.all_eq_true, decide_eq_true_eq]
  rw [forall_foldl_widen_le hcells, List.forall_mem_map, List.forall_mem_map]
  simp only [List.forall_mem_map]
  exact and_iff_right hheaders

/-! ## Frames -/

theorem set_of_settable {parts : List Part} (h : ∀ part ∈ parts, part.isSettable = true) :
    set parts = (inFull parts, true) := by
  rw [set, List.takeWhile_eq_self_iff.2 h, List.all_eq_true.2 h]

/-- A report is a table of these rows between lines. If a cell does not fit, it ends above it. -/
structure Framed (parts : List Part) (above headers : List String) (rows : List (List String))
    (below : List String) : Prop where
  square : ∀ row ∈ rows, row.length = headers.length
  full : inFull parts = above ++ tableLines headers rows ++ below
  whole : AllFit rows → set parts = (inFull parts, true)
  broken : ¬ AllFit rows → set parts = (above, false)

section Frames

variable {headers above below : List String} {rows : List (List String)}

theorem framed_table (front back : List Part) (habove : inFull front = above)
    (hbelow : inFull back = below) (hfront : ∀ part ∈ front, part.isSettable = true)
    (hback : ∀ part ∈ back, part.isSettable = true)
    (hheaders : ∀ header ∈ headers, header.length ≤ widthLimit)
    (hsquare : ∀ row ∈ rows, row.length = headers.length) :
    Framed (front ++ .table headers rows :: back) above headers rows below := by
  have hsettable := settable_iff hheaders hsquare
  refine ⟨hsquare, ?_, fun hall => set_of_settable ?_, fun hnot => ?_⟩
  · rw [← habove, ← hbelow]
    simp [inFull, Part.lines]
  · intro part hpart
    rcases List.mem_append.1 hpart with hpart | hpart
    · exact hfront part hpart
    · rcases List.mem_cons.1 hpart with rfl | hpart
      · exact hsettable.2 hall
      · exact hback part hpart
  · have hwide : settable headers rows = false := by
      rw [← Bool.not_eq_true, hsettable]
      exact hnot
    have htaken : (front ++ .table headers rows :: back).takeWhile Part.isSettable = front := by
      rw [List.takeWhile_append_of_pos hfront, List.takeWhile_cons_of_neg, List.append_nil]
      simpa [Part.isSettable] using hwide
    rw [set, htaken, habove]
    simp [Part.isSettable, hwide]

end Frames

/-! ## Reports with a table -/

theorem framed_schedules (now : Calendar.Moment) (limit : Option Nat) (all : List Schedule) :
    Framed (schedulesParts now limit all) [snapshotLine now] scheduleHeaders
      ((upTo limit (sortOn textsInOrder scheduleKey all)).map scheduleRow)
      [summaryLine scheduleStatuses (all.map (·.status))] := by
  apply framed_table [.text [snapshotLine now]] [.text _] rfl rfl
  · simp [Part.isSettable]
  · simp [Part.isSettable]
  · decide +kernel
  · exact List.forall_mem_map.2 fun _ _ => rfl

/-- Only the first line tells the time. -/
theorem set_schedulesParts (now later : Calendar.Moment) (limit : Option Nat)
    (all : List Schedule) :
    (set (schedulesParts later limit all)).1.tail = (set (schedulesParts now limit all)).1.tail ∧
      (set (schedulesParts later limit all)).2 = (set (schedulesParts now limit all)).2 := by
  simp [set, schedulesParts, List.takeWhile_cons, Part.isSettable, inFull, Part.lines]

theorem framed_repairs (limit : Option Nat) (all : List OnDemandRepair) :
    Framed (repairsParts limit all) [] repairHeaders
      ((upTo limit (sortOn textsInOrder repairKey all)).map repairRow)
      [summaryLine repairStatuses (all.map (·.status))] := by
  apply framed_table [] [.text _] rfl rfl
  · simp
  · simp [Part.isSettable]
  · decide +kernel
  · exact List.forall_mem_map.2 fun _ _ => rfl

theorem framed_repairInfo (limit : Option Nat) (info : RepairInfo) :
    Framed (repairInfoParts limit info) [windowLine info] statsHeaders
      ((upTo limit (sortOn textsInOrder statsKey info.repairStats)).map statsRow) [] := by
  apply framed_table [.text [windowLine info]] [] rfl rfl
  · simp [Part.isSettable]
  · simp
  · decide +kernel
  · exact List.forall_mem_map.2 fun _ _ => rfl

theorem framed_schedule {s : Schedule} {nodes : List VirtualNode}
    (h : s.virtualNodeStates = some nodes) (limit : Option Nat) :
    Framed (scheduleParts limit true s) (detailLines s ++ [""]) virtualNodeHeaders
      ((upTo limit (sortOn (fun a b => decide (a ≤ b)) (·.lastRepairedAtInMs) nodes)).map
        virtualNodeRow) [] := by
  have hparts : scheduleParts limit true s =
      [.text (detailLines s), .text [""]] ++ [virtualNodesPart limit nodes] := by
    simp [scheduleParts, h]
  rw [hparts]
  apply framed_table [.text (detailLines s), .text [""]] []
  · simp [inFull, Part.lines]
  · rfl
  · simp [Part.isSettable]
  · simp
  · decide +kernel
  · exact List.forall_mem_map.2 fun _ _ => rfl

/-! ## Details of a schedule -/

theorem detailLines_prefix (limit : Option Nat) (full : Bool) (s : Schedule) :
    detailLines s <+: schedule limit full s := ⟨inFull _, rfl⟩

theorem scheduleParts_of_brief {full : Bool} {s : Schedule}
    (h : full = false ∨ s.virtualNodeStates = none) (limit : Option Nat) :
    scheduleParts limit full s = [.text (detailLines s)] := by
  rcases h with rfl | h
  · rfl
  · cases full <;> simp [scheduleParts, h]

theorem set_of_brief {full : Bool} {s : Schedule} (h : full = false ∨ s.virtualNodeStates = none)
    (limit : Option Nat) : set (scheduleParts limit full s) = (detailLines s, true) := by
  rw [scheduleParts_of_brief h, set_of_settable (by simp [Part.isSettable])]
  simp [inFull, Part.lines]

theorem schedule_of_brief {full : Bool} {s : Schedule}
    (h : full = false ∨ s.virtualNodeStates = none) (limit : Option Nat) :
    schedule limit full s = detailLines s := by
  rw [schedule, scheduleParts_of_brief h]
  simp [inFull, Part.lines]

end RepairConsole.Report
