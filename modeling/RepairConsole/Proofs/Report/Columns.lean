import RepairConsole.Proofs.Report.Lines
import RepairConsole.Proofs.Text.Trim
import Mathlib.Algebra.BigOperators.Group.Finset.Basic
import Mathlib.Data.List.TakeWhile
/-!
# Columns

Every cell of a table stands at the offset of its column. What is cut out of a printed line there is
the cell again, but for blanks at its end, whatever characters the cells are made of.
-/

namespace RepairConsole.Report

/-! ## Blanks at the end -/

section Blanks

open Text

theorem isBlank_of_getLast? {cs : List Char} {c : Char} (h : (dropBlanksEnd cs).getLast? = some c) :
    isBlank c = false := by
  rw [dropBlanksEnd, List.getLast?_reverse] at h
  obtain ⟨rest, hrest⟩ := List.head?_eq_some_iff.1 h
  exact head_dropBlanks hrest

theorem trimEnd_of_getLast? {s : String} {c : Char} (h : s.toList.getLast? = some c)
    (hc : isBlank c = false) : trimEnd s = s := by
  obtain ⟨before, hbefore⟩ := List.getLast?_eq_some_iff.1 h
  have hreverse : s.toList.reverse = c :: before.reverse := by simp [hbefore]
  rw [trimEnd, dropBlanksEnd, hreverse, dropBlanks_of_head hc, ← hreverse, List.reverse_reverse,
    String.ofList_toList]

theorem isBlank_of_mem_spaces {n : Nat} : ∀ c ∈ List.replicate n ' ', isBlank c = true := by
  intro c hc
  rw [(List.mem_replicate.1 hc).2]
  rfl

/-- Which blanks stand behind a text makes no difference to what is cut out and trimmed. -/
theorem dropBlanksEnd_window {cs blanks blanks' : List Char} (h : ∀ c ∈ blanks, isBlank c = true)
    (h' : ∀ c ∈ blanks', isBlank c = true) (offset width : Nat) :
    dropBlanksEnd (((cs ++ blanks).drop offset).take width) =
      dropBlanksEnd (((cs ++ blanks').drop offset).take width) := by
  have hwindow : ∀ bs : List Char, (∀ c ∈ bs, isBlank c = true) →
      dropBlanksEnd (((cs ++ bs).drop offset).take width) =
        dropBlanksEnd ((cs.drop offset).take width) := by
    intro bs hbs
    rw [List.drop_append, List.take_append]
    apply dropBlanksEnd_append
    intro c hc
    exact hbs c (List.mem_of_mem_drop (List.mem_of_mem_take hc))
  rw [hwindow blanks h, hwindow blanks' h']

end Blanks

/-! ## Lines of a table -/

/-- The characters that stand at these places of a line, once spaces were added to it. -/
def excerpt (line : String) (spaces offset width : Nat) : String :=
  String.ofList (((line.toList ++ List.replicate spaces ' ').drop offset).take width)

theorem exists_before (parts : List String) {j : Nat} (h : j < parts.length) :
    ∃ before after : List Char,
      ("  ".intercalate parts).toList = before ++ ((parts.getD j "").toList ++ after) ∧
      before.length = ∑ k ∈ Finset.range j, ((parts.getD k "").length + 2) := by
  induction parts generalizing j with
  | nil => simp at h
  | cons part parts ih =>
    cases parts with
    | nil =>
      obtain rfl : j = 0 := by simpa using h
      exact ⟨[], [], by simp, by simp⟩
    | cons next more =>
      have hjoin : ("  ".intercalate (part :: next :: more)).toList =
          part.toList ++ ([' ', ' '] ++ ("  ".intercalate (next :: more)).toList) := by
        rw [String.intercalate_cons_cons, String.toList_append, String.toList_append,
          List.append_assoc]
        rfl
      cases j with
      | zero => exact ⟨[], _, hjoin, by simp⟩
      | succ j =>
        obtain ⟨before, after, hparts, hlength⟩ := ih (j := j) (by simpa using h)
        refine ⟨part.toList ++ ([' ', ' '] ++ before), after, ?_, ?_⟩
        · rw [hjoin, hparts]
          simp
        · rw [Finset.sum_range_succ']
          simp only [List.getD_cons_succ, List.getD_cons_zero, List.length_append, ← hlength,
            String.length_toList, List.length_cons, List.length_nil]
          omega

theorem length_pad {width : Nat} {s : String} (h : s.length ≤ width) :
    (pad width s).length = width := by
  unfold pad
  rw [String.length_append, String.length_ofList, List.length_replicate]
  omega

theorem dropBlanksEnd_pad (width : Nat) (s : String) :
    Text.dropBlanksEnd (pad width s).toList = Text.dropBlanksEnd s.toList := by
  unfold pad
  rw [String.toList_append, String.toList_ofList]
  exact Text.dropBlanksEnd_append isBlank_of_mem_spaces

/-- The cells fit into columns of these widths. -/
def Fits (widths : List Nat) (cells : List String) : Prop :=
  cells.length = widths.length ∧ ∀ j, (cells.getD j "").length ≤ widths.getD j 0

theorem getD_zipWith_pad {widths : List Nat} {cells : List String} (h : Fits widths cells)
    (j : Nat) :
    (List.zipWith pad widths cells).getD j "" = pad (widths.getD j 0) (cells.getD j "") := by
  simp only [List.getD_eq_getElem?_getD, List.getElem?_zipWith]
  by_cases hj : j < widths.length
  · have hcell : j < cells.length := by rw [h.1]; exact hj
    simp [List.getElem?_eq_getElem hj, List.getElem?_eq_getElem hcell]
  · have hcell : cells.length ≤ j := by rw [h.1]; omega
    rw [List.getElem?_eq_none (by omega), List.getElem?_eq_none hcell]
    rfl

theorem trimEnd_excerpt {widths : List Nat} {cells : List String} (h : Fits widths cells) {j : Nat}
    (hj : j < widths.length) (spaces : Nat) :
    Text.trimEnd (excerpt (tableLine widths cells) spaces
      (∑ k ∈ Finset.range j, (widths.getD k 0 + 2)) (widths.getD j 0)) =
        Text.trimEnd (cells.getD j "") := by
  obtain ⟨before, after, hjoin, hbefore⟩ := exists_before (List.zipWith pad widths cells) (j := j)
    (by rw [List.length_zipWith, h.1]; omega)
  simp only [getD_zipWith_pad h, length_pad (h.2 _)] at hjoin hbefore
  -- The line is what was joined, less the blanks at its end.
  obtain ⟨blanks, hblanks, hblank⟩ :=
    Text.exists_blanks ("  ".intercalate (List.zipWith pad widths cells)).toList
  unfold Text.trimEnd excerpt tableLine
  rw [String.toList_ofList, ← dropBlanksEnd_pad (widths.getD j 0), Text.trimEnd,
    String.toList_ofList, dropBlanksEnd_window isBlank_of_mem_spaces hblank, ← hblanks, hjoin,
    ← hbefore, List.drop_left, List.take_left' (by rw [String.length_toList, length_pad (h.2 j)])]

def dashes (width : Nat) : String := String.ofList (List.replicate width '-')

theorem trimEnd_dashes (width : Nat) : Text.trimEnd (dashes width) = dashes width := by
  have hdash : ∀ c ∈ (dashes width).toList.reverse, Text.isBlank c = false := by
    intro c hc
    rw [dashes, String.toList_ofList, List.reverse_replicate] at hc
    rw [(List.mem_replicate.1 hc).2]
    rfl
  rw [Text.trimEnd, Text.dropBlanksEnd, Text.dropBlanks_of_notBlank hdash, List.reverse_reverse,
    String.ofList_toList]

theorem getD_map_dashes (widths : List Nat) (j : Nat) :
    (widths.map dashes).getD j "" = dashes (widths.getD j 0) := by
  simp only [List.getD_eq_getElem?_getD, List.getElem?_map]
  cases widths[j]? <;> rfl

theorem length_dashes (width : Nat) : (dashes width).length = width := by
  rw [dashes, String.length_ofList, List.length_replicate]

theorem length_excerpt_le (line : String) (spaces offset width : Nat) :
    (excerpt line spaces offset width).length ≤ width := by
  rw [excerpt, String.length_ofList]
  exact List.length_take_le _ _

theorem excerpt_rule {widths : List Nat} {j : Nat} (hj : j < widths.length) (spaces : Nat) :
    excerpt (tableLine widths (widths.map dashes)) spaces
      (∑ k ∈ Finset.range j, (widths.getD k 0 + 2)) (widths.getD j 0) =
        dashes (widths.getD j 0) := by
  have hfits : Fits widths (widths.map dashes) := by
    refine ⟨List.length_map _, fun k => ?_⟩
    rw [getD_map_dashes, length_dashes]
  have htrim := trimEnd_excerpt hfits hj spaces
  rw [getD_map_dashes, trimEnd_dashes] at htrim
  have hle := length_excerpt_le (tableLine widths (widths.map dashes)) spaces
    (∑ k ∈ Finset.range j, (widths.getD k 0 + 2)) (widths.getD j 0)
  generalize excerpt (tableLine widths (widths.map dashes)) spaces _ _ = cut at htrim hle ⊢
  -- What is left after trimming is as long as all of it can be, so nothing was trimmed.
  obtain ⟨blanks, hblanks, -⟩ := Text.exists_blanks cut.toList
  have hkept : Text.dropBlanksEnd cut.toList = (dashes (widths.getD j 0)).toList := by
    rw [← htrim, Text.trimEnd, String.toList_ofList]
  rw [hkept] at hblanks
  have hlength := congrArg List.length hblanks
  rw [List.length_append, String.length_toList, String.length_toList, length_dashes] at hlength
  obtain rfl : blanks = [] := List.length_eq_zero_iff.1 (by omega)
  rw [List.append_nil] at hblanks
  exact String.toList_inj.1 hblanks

/-! ## Widths -/

/-- The cells of a column with its header on top. -/
def column (headers : List String) (rows : List (List String)) (j : Nat) : List String :=
  headers.getD j "" :: rows.map fun row => escape (row.getD j "")

/-- The length of the longest cell of a column. -/
def widest (headers : List String) (rows : List (List String)) (j : Nat) : Nat :=
  ((column headers rows j).map String.length).max?.getD 0

theorem getD_widen (widths : List Nat) (cells : List String) (h : cells.length = widths.length)
    (j : Nat) :
    (widen widths cells).getD j 0 = max (widths.getD j 0) (cells.getD j "").length := by
  induction widths generalizing cells j with
  | nil =>
    obtain rfl : cells = [] := by simpa using h
    rfl
  | cons width widths ih =>
    cases cells with
    | nil => simp at h
    | cons cell cells =>
      cases j with
      | zero => rfl
      | succ j => exact ih cells (by simpa using h) j

theorem getD_foldl_widen (body : List (List String)) (widths : List Nat)
    (h : ∀ cells ∈ body, cells.length = widths.length) :
    (body.foldl widen widths).length = widths.length ∧
    ∀ j, (body.foldl widen widths).getD j 0 =
      (body.map fun cells => (cells.getD j "").length).foldl max (widths.getD j 0) := by
  induction body generalizing widths with
  | nil => exact ⟨rfl, fun _ => rfl⟩
  | cons cells body ih =>
    obtain ⟨hcells, hbody⟩ := List.forall_mem_cons.1 h
    have hwiden := length_widen widths cells
    obtain ⟨hlength, hget⟩ := ih (widen widths cells) (by rw [hwiden]; exact hbody)
    refine ⟨hlength.trans hwiden, fun j => ?_⟩
    rw [List.foldl_cons, hget, getD_widen widths cells hcells, List.map_cons, List.foldl_cons]

/-- What stands in a cell for a value: two characters for each line break, and all others as they
are. -/
inductive Escapes : List Char → List Char → Prop
  | nil : Escapes [] []
  | feed {cs shown : List Char} (h : Escapes cs shown) : Escapes ('\n' :: cs) ('\\' :: 'n' :: shown)
  | return {cs shown : List Char} (h : Escapes cs shown) :
    Escapes ('\r' :: cs) ('\\' :: 'r' :: shown)
  | other {c : Char} {cs shown : List Char} (hc : c ≠ '\n' ∧ c ≠ '\r') (h : Escapes cs shown) :
    Escapes (c :: cs) (c :: shown)

theorem escapes_escape (s : String) : Escapes s.toList (escape s).toList := by
  rw [escape, String.toList_ofList]
  induction s.toList with
  | nil => exact .nil
  | cons c cs ih =>
    rw [List.flatMap_cons, escapeChar]
    split_ifs with hfeed hreturn
    · subst hfeed
      exact .feed ih
    · subst hreturn
      exact .return ih
    · exact .other ⟨hfeed, hreturn⟩ ih

theorem escape_of_oneLine {s : String} (h : OneLine s) : escape s = s := by
  have hone : ∀ c ∈ s.toList, escapeChar c = [c] := by
    intro c hc
    obtain ⟨hfeed, hreturn⟩ := h c hc
    simp [escapeChar, hfeed, hreturn]
  rw [escape, List.flatMap_congr hone, List.flatMap_singleton', String.ofList_toList]

theorem getD_map_escape (row : List String) (j : Nat) :
    (row.map escape).getD j "" = escape (row.getD j "") := by
  simp only [List.getD_eq_getElem?_getD, List.getElem?_map]
  cases row[j]? <;> rfl

section Table

variable {headers : List String} {rows : List (List String)}

/-- The columns of a table are as wide as their longest cells. -/
theorem columnWidths_eq (h : ∀ row ∈ rows, row.length = headers.length) :
    (columnWidths headers (rows.map (rowCells headers.length))).length = headers.length ∧
      ∀ j, (columnWidths headers (rows.map (rowCells headers.length))).getD j 0 =
        widest headers rows j := by
  have hbody : rows.map (rowCells headers.length) = rows.map fun row => row.map escape :=
    List.map_congr_left fun row hrow => rowCells_of_length (h row hrow)
  have hcells : ∀ cells ∈ rows.map fun row => row.map escape,
      cells.length = (headers.map String.length).length := by
    intro cells hcells
    obtain ⟨row, hrow, rfl⟩ := List.mem_map.1 hcells
    rw [List.length_map, List.length_map, h row hrow]
  obtain ⟨hlength, hget⟩ := getD_foldl_widen _ _ hcells
  rw [hbody, columnWidths]
  refine ⟨by rw [hlength, List.length_map], fun j => ?_⟩
  have hheader : (headers.map String.length).getD j 0 = (headers.getD j "").length := by
    simp only [List.getD_eq_getElem?_getD, List.getElem?_map]
    cases headers[j]? <;> rfl
  rw [hget, hheader, List.map_map, widest, column, List.map_cons, List.max?_cons', List.map_map]
  simp only [Function.comp_def, getD_map_escape, Option.getD_some]

theorem fits_headers (h : ∀ row ∈ rows, row.length = headers.length) :
    Fits (columnWidths headers (rows.map (rowCells headers.length))) headers := by
  obtain ⟨hlength, hget⟩ := columnWidths_eq h
  refine ⟨hlength.symm, fun j => ?_⟩
  rw [hget]
  exact List.le_max?_getD_of_mem List.mem_cons_self

theorem fits_row (h : ∀ row ∈ rows, row.length = headers.length) {row : List String}
    (hrow : row ∈ rows) :
    Fits (columnWidths headers (rows.map (rowCells headers.length)))
      (rowCells headers.length row) := by
  obtain ⟨hlength, hget⟩ := columnWidths_eq h
  rw [rowCells_of_length (h row hrow)]
  refine ⟨by rw [List.length_map, h row hrow, hlength], fun j => ?_⟩
  rw [hget, getD_map_escape]
  apply List.le_max?_getD_of_mem
  refine List.mem_map.2 ⟨escape (row.getD j ""), List.mem_cons_of_mem _ ?_, rfl⟩
  exact List.mem_map.2 ⟨row, hrow, rfl⟩

end Table

/-! ## Reading back -/

/-- Where a column begins: two spaces stand behind each column before it. -/
def offset (headers : List String) (rows : List (List String)) (j : Nat) : Nat :=
  ∑ k ∈ Finset.range j, (widest headers rows k + 2)

/-- What stands in a column of a line that was extended by spaces. -/
def standsIn (headers : List String) (rows : List (List String)) (line : String) (spaces j : Nat) :
    String :=
  excerpt line spaces (offset headers rows j) (widest headers rows j)

/-- The lines are a table of these rows, of which every cell can be read back by its column. -/
structure ReadsBack (headers : List String) (rows : List (List String)) (table : List String) :
    Prop where
  square : ∀ row ∈ rows, row.length = headers.length
  cells : ∃ head rule body, table = head :: rule :: body ∧
    (∀ j < headers.length, ∀ spaces,
      Text.trimEnd (standsIn headers rows head spaces j) = headers.getD j "") ∧
    (∀ j < headers.length, ∀ spaces,
      standsIn headers rows rule spaces j = dashes (widest headers rows j)) ∧
    List.Forall₂ (fun row line => ∀ j < headers.length, ∀ spaces,
      Text.trimEnd (standsIn headers rows line spaces j) =
        Text.trimEnd (escape (row.getD j ""))) rows body
  ends : ∀ line ∈ table, ∀ c, line.toList.getLast? = some c → Text.isBlank c = false

theorem readsBack_tableLines {headers : List String} {rows : List (List String)}
    (hheaders : ∀ header ∈ headers, Text.trimEnd header = header)
    (h : ∀ row ∈ rows, row.length = headers.length) :
    ReadsBack headers rows (tableLines headers rows) := by
  obtain ⟨hlength, hget⟩ := columnWidths_eq h
  have hline : ∀ cells, Fits (columnWidths headers (rows.map (rowCells headers.length))) cells →
      ∀ j < headers.length, ∀ spaces, Text.trimEnd (standsIn headers rows
        (tableLine (columnWidths headers (rows.map (rowCells headers.length))) cells) spaces j) =
          Text.trimEnd (cells.getD j "") := by
    intro cells hfits j hj spaces
    have hread := trimEnd_excerpt hfits (by rwa [hlength]) spaces (j := j)
    simp only [hget] at hread
    exact hread
  refine ⟨h, ⟨_, _, _, rfl, fun j hj spaces => ?_, fun j hj spaces => ?_, ?_⟩, ?_⟩
  · rw [hline headers (fits_headers h) j hj spaces]
    apply hheaders
    rw [List.getD_eq_getElem?_getD, List.getElem?_eq_getElem hj]
    exact List.getElem_mem hj
  · have hwidth : j < (columnWidths headers (rows.map (rowCells headers.length))).length := by
      rwa [hlength]
    have hrule := excerpt_rule hwidth spaces
    simp only [hget] at hrule
    exact hrule
  · rw [List.map_map, List.forall₂_map_right_iff, List.forall₂_same]
    intro row hrow j hj spaces
    rw [Function.comp_apply, hline _ (fits_row h hrow) j hj spaces, rowCells_of_length (h row hrow),
      getD_map_escape]
  · intro line hmem c hc
    obtain ⟨cells, -, rfl⟩ := List.mem_map.1 hmem
    rw [tableLine, Text.trimEnd, String.toList_ofList] at hc
    exact isBlank_of_getLast? hc

/-! ## Tables in reports -/

/-- Between so many lines above and below stands a table of these rows that can be read back. -/
def HasTable (report : List String) (above below : Nat) (headers : List String)
    (rows : List (List String)) : Prop :=
  ∃ front table back, report = front ++ table ++ back ∧ front.length = above ∧
    back.length = below ∧ ReadsBack headers rows table

theorem hasTable_tableLines (front headers : List String) (rows : List (List String))
    (back : List String) (hheaders : ∀ header ∈ headers, Text.trimEnd header = header)
    (h : ∀ row ∈ rows, row.length = headers.length) :
    HasTable (front ++ tableLines headers rows ++ back) front.length back.length headers rows :=
  ⟨front, _, back, rfl, rfl, rfl, readsBack_tableLines hheaders h⟩

theorem Framed.hasTable {parts : List Part} {above headers below : List String}
    {rows : List (List String)} (h : Framed parts above headers rows below)
    (hheaders : ∀ header ∈ headers, Text.trimEnd header = header) :
    HasTable (inFull parts) above.length below.length headers rows := by
  rw [h.full]
  exact hasTable_tableLines above headers rows below hheaders h.square

/-- If all cells fit, the table of these rows stands between so many lines of the printed text and
can be read back. If one does not, nothing is printed but the lines above. -/
def PrintsTable (parts : List Part) (above below : Nat) (headers : List String)
    (rows : List (List String)) (whole : Nat) : Prop :=
  Prints parts rows above whole fun lines => HasTable lines above below headers rows

section Reports

variable (limit : Option Nat)

theorem printsTable_schedules (now : Calendar.Moment) (all : List Schedule) :
    PrintsTable (schedulesParts now limit all) 1 1 scheduleHeaders
      ((upTo limit (sortOn textsInOrder scheduleKey all)).map scheduleRow)
      (shown limit all.length + 4) :=
  prints_schedules limit now all (hasTable_tableLines [_] scheduleHeaders _ [_]
    (by decide +kernel) (framed_schedules now limit all).square)

theorem printsTable_repairs (all : List OnDemandRepair) :
    PrintsTable (repairsParts limit all) 0 1 repairHeaders
      ((upTo limit (sortOn textsInOrder repairKey all)).map repairRow)
      (shown limit all.length + 3) :=
  prints_repairs limit all (hasTable_tableLines [] repairHeaders _ [_] (by decide +kernel)
    (framed_repairs limit all).square)

theorem printsTable_repairInfo (info : RepairInfo) :
    PrintsTable (repairInfoParts limit info) 1 0 statsHeaders
      ((upTo limit (sortOn textsInOrder statsKey info.repairStats)).map statsRow)
      (shown limit info.repairStats.length + 3) :=
  prints_repairInfo limit info (hasTable_tableLines [_] statsHeaders _ [] (by decide +kernel)
    (framed_repairInfo limit info).square)

theorem printsTable_schedule {s : Schedule} {nodes : List VirtualNode}
    (hnodes : s.virtualNodeStates = some nodes) :
    PrintsTable (scheduleParts limit true s) 15 0 virtualNodeHeaders
      ((upTo limit (sortOn (fun a b => decide (a ≤ b)) (·.lastRepairedAtInMs) nodes)).map
        virtualNodeRow) (shown limit nodes.length + 17) := by
  have htable := hasTable_tableLines (detailLines s ++ [""]) virtualNodeHeaders
    ((upTo limit (sortOn (fun a b => decide (a ≤ b)) (·.lastRepairedAtInMs) nodes)).map
      virtualNodeRow) [] (by decide +kernel) (framed_schedule hnodes limit).square
  rw [List.length_append, length_detailLines] at htable
  exact prints_schedule limit hnodes htable

end Reports

/-- All tables that are printed can be read back by columns, whatever was sent as a value: what
stands there is the value with its line breaks escaped, and so every row is on a line of its own. -/
theorem cells_read_back (limit : Option Nat) :
    (∀ value : String, Escapes value.toList (escape value).toList) ∧
    (∀ now all, PrintsTable (schedulesParts now limit all) 1 1 scheduleHeaders
      ((upTo limit (sortOn textsInOrder scheduleKey all)).map scheduleRow)
      (shown limit all.length + 4)) ∧
    (∀ all, PrintsTable (repairsParts limit all) 0 1 repairHeaders
      ((upTo limit (sortOn textsInOrder repairKey all)).map repairRow)
      (shown limit all.length + 3)) ∧
    (∀ info, PrintsTable (repairInfoParts limit info) 1 0 statsHeaders
      ((upTo limit (sortOn textsInOrder statsKey info.repairStats)).map statsRow)
      (shown limit info.repairStats.length + 3)) ∧
    ∀ (s : Schedule) nodes, s.virtualNodeStates = some nodes →
      PrintsTable (scheduleParts limit true s) 15 0 virtualNodeHeaders
        ((upTo limit (sortOn (fun a b => decide (a ≤ b)) (·.lastRepairedAtInMs) nodes)).map
          virtualNodeRow) (shown limit nodes.length + 17) :=
  ⟨escapes_escape, printsTable_schedules limit, printsTable_repairs limit,
    printsTable_repairInfo limit, fun _ _ => printsTable_schedule limit⟩

end RepairConsole.Report
