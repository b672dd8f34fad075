import RepairConsole.Proofs.Output
import RepairConsole.Proofs.Report.LongKeyspace
import RepairConsole.Proofs.Text.Numerals
/-!
# One record, one line

Whatever the service sends as a value, it stays on the line of its record: no cell, label or time
breaks a line. So the number of lines that are printed is told by how many records are shown, and
by whether all of their cells fit.
-/

namespace RepairConsole.Report

/-- A text that neither ends a line nor returns to its start. -/
def OneLine (s : String) : Prop := ∀ c ∈ s.toList, c ≠ '\n' ∧ c ≠ '\r'

instance (s : String) : Decidable (OneLine s) :=
  List.decidableBAll (fun c => c ≠ '\n' ∧ c ≠ '\r') s.toList

/-! ## Texts on one line -/

theorem OneLine.append {a b : String} (ha : OneLine a) (hb : OneLine b) : OneLine (a ++ b) := by
  intro c hc
  rw [String.toList_append, List.mem_append] at hc
  exact hc.elim (ha c) (hb c)

theorem OneLine.sublist {a b : String} (h : OneLine b) (hsub : a.toList.Sublist b.toList) :
    OneLine a := fun c hc => h c (hsub.subset hc)

theorem oneLine_of_isDigit {s : String} (h : ∀ c ∈ s.toList, c.isDigit = true) : OneLine s := by
  intro c hc
  refine ⟨?_, ?_⟩ <;>
  · rintro rfl
    exact absurd (h _ hc) (by decide)

theorem oneLine_repr (n : Nat) : OneLine (Nat.repr n) :=
  oneLine_of_isDigit fun _ => Text.isDigit_of_mem_repr

theorem oneLine_replicate (n : Nat) {c : Char} (h : c ≠ '\n' ∧ c ≠ '\r') :
    OneLine (String.ofList (List.replicate n c)) := by
  intro d hd
  rw [String.toList_ofList] at hd
  rw [(List.mem_replicate.1 hd).2]
  exact h

theorem oneLine_intercalate {mark : String} (hmark : OneLine mark) {parts : List String}
    (h : ∀ part ∈ parts, OneLine part) : OneLine (mark.intercalate parts) := by
  induction parts with
  | nil => exact fun c hc => absurd hc (by simp)
  | cons part parts ih =>
    obtain ⟨hpart, hparts⟩ := List.forall_mem_cons.1 h
    cases parts with
    | nil => simpa using hpart
    | cons next more =>
      rw [String.intercalate_cons_cons]
      exact (hpart.append hmark).append (ih hparts)

/-! ## Values -/

/-- An escape is two characters, neither of which breaks a line. -/
theorem oneLine_escape (s : String) : OneLine (escape s) := by
  intro c hc
  rw [escape, String.toList_ofList] at hc
  obtain ⟨d, -, hd⟩ := List.mem_flatMap.1 hc
  unfold escapeChar at hd
  split at hd
  · have hmarks : ∀ e ∈ ['\\', 'n'], e ≠ '\n' ∧ e ≠ '\r' := by simp
    exact hmarks c hd
  · split at hd
    · have hmarks : ∀ e ∈ ['\\', 'r'], e ≠ '\n' ∧ e ≠ '\r' := by simp
      exact hmarks c hd
    · next hfeed hreturn =>
      rw [List.mem_singleton.1 hd]
      exact ⟨hfeed, hreturn⟩

theorem oneLine_padDigits (width n : Nat) : OneLine (Text.padDigits width n) := by
  unfold Text.padDigits
  exact (oneLine_replicate _ (by decide)).append (oneLine_repr n)

theorem oneLine_stampOfSeconds (seconds : Nat) : OneLine (Calendar.stampOfSeconds seconds) := by
  have hdash : OneLine "-" := by decide
  have hblank : OneLine " " := by decide
  have hcolon : OneLine ":" := by decide
  have hyear := oneLine_padDigits 4
  have hpair := oneLine_padDigits 2
  exact ((((((((((hyear _).append hdash).append (hpair _)).append hdash).append (hpair _)).append
    hblank).append (hpair _)).append hcolon).append (hpair _)).append hcolon).append (hpair _)

theorem oneLine_time (ms : Int) : OneLine (time ms) := by
  unfold time Calendar.stamp?
  split
  · exact oneLine_stampOfSeconds _
  · decide

theorem oneLine_summaryLine {labels : List (String × String)} (h : ∀ p ∈ labels, OneLine p.2)
    (statuses : List String) : OneLine (summaryLine labels statuses) := by
  unfold summaryLine
  refine OneLine.append (by decide) (oneLine_intercalate (by decide) fun part hpart => ?_)
  obtain ⟨p, hp, rfl⟩ := List.mem_map.1 hpart
  exact ((oneLine_repr _).append (by decide)).append (h p.1 (List.of_mem_zip hp).1)

/-! ## Tables -/

theorem oneLine_pad (width : Nat) {s : String} (h : OneLine s) : OneLine (pad width s) := by
  unfold pad
  exact h.append (oneLine_replicate _ (by decide))

theorem oneLine_trimEnd {s : String} (h : OneLine s) : OneLine (Text.trimEnd s) := by
  refine h.sublist ?_
  rw [Text.trimEnd, String.toList_ofList, Text.dropBlanksEnd, ← List.reverse_sublist,
    List.reverse_reverse]
  exact List.dropWhile_sublist _

theorem oneLine_tableLine (widths : List Nat) {cells : List String}
    (h : ∀ cell ∈ cells, OneLine cell) : OneLine (tableLine widths cells) := by
  unfold tableLine
  refine oneLine_trimEnd (oneLine_intercalate (by decide) fun part hpart => ?_)
  rw [← List.map_uncurry_zip_eq_zipWith] at hpart
  obtain ⟨⟨width, cell⟩, hzip, rfl⟩ := List.mem_map.1 hpart
  exact oneLine_pad width (h cell (List.of_mem_zip hzip).2)

theorem oneLine_rowCells {columns : Nat} {row : List String} :
    ∀ cell ∈ rowCells columns row, OneLine cell := by
  intro cell hcell
  rw [rowCells, List.mem_append] at hcell
  rcases hcell with hcell | hcell
  · obtain ⟨value, -, rfl⟩ := List.mem_map.1 hcell
    exact oneLine_escape value
  · rw [(List.mem_replicate.1 hcell).2]
    decide

/-- A table is its header, a rule, and a line for each row. -/
theorem tableLines_eq (headers : List String) (rows : List (List String)) :
    ∃ (widths : List Nat) (rule : List String), (∀ cell ∈ rule, OneLine cell) ∧
      tableLines headers rows = tableLine widths headers :: tableLine widths rule ::
        rows.map fun row => tableLine widths (rowCells headers.length row) := by
  refine ⟨_, _, ?_, by simp only [tableLines, List.map_cons, List.map_map]; rfl⟩
  intro cell hcell
  obtain ⟨width, -, rfl⟩ := List.mem_map.1 hcell
  exact oneLine_replicate width (by decide)

theorem oneLine_tableLines {headers : List String} (h : ∀ header ∈ headers, OneLine header)
    (rows : List (List String)) : ∀ line ∈ tableLines headers rows, OneLine line := by
  obtain ⟨widths, rule, hrule, htable⟩ := tableLines_eq headers rows
  rw [htable]
  intro line hline
  simp only [List.mem_cons, List.mem_map] at hline
  rcases hline with rfl | rfl | ⟨row, -, rfl⟩
  · exact oneLine_tableLine widths h
  · exact oneLine_tableLine widths hrule
  · exact oneLine_tableLine widths oneLine_rowCells

theorem oneLine_fieldLines {indent : String} (hindent : OneLine indent)
    {fields : List (String × String)} (h : ∀ field ∈ fields, OneLine field.1) :
    ∀ line ∈ fieldLines indent fields, OneLine line := by
  intro line hline
  unfold fieldLines at hline
  obtain ⟨⟨label, value⟩, hfield, rfl⟩ := List.mem_map.1 hline
  exact (((hindent.append (oneLine_pad _ (h _ hfield))).append (by decide)).append
    (oneLine_escape value))

/-! ## Reports -/

/-- How many of `n` records a limit leaves. -/
def shown (limit : Option Nat) (n : Nat) : Nat := (limit.map (min · n)).getD n

theorem length_upTo {α : Type} (limit : Option Nat) (rows : List α) :
    (upTo limit rows).length = shown limit rows.length := by
  cases limit <;> simp [upTo, shown]

theorem length_upTo_sortOn {α β : Type} (limit : Option Nat) (inOrder : β → β → Bool) (key : α → β)
    (rows : List α) : (upTo limit (sortOn inOrder key rows)).length = shown limit rows.length := by
  rw [length_upTo, sortOn, List.length_mergeSort]

theorem oneLine_snapshotLine (now : Calendar.Moment) : OneLine (snapshotLine now) :=
  OneLine.append (by decide) (oneLine_stampOfSeconds _)

theorem oneLine_windowLine (info : RepairInfo) : OneLine (windowLine info) :=
  ((OneLine.append (by decide) (oneLine_time _)).append (by decide)).append
    (oneLine_time _) |>.append (by decide)

theorem oneLine_detailLines (s : Schedule) : ∀ line ∈ detailLines s, OneLine line := by
  have hlabels : ∀ field ∈ List.zip scheduleHeaders (scheduleRow s), OneLine field.1 := by
    have hheaders : ∀ header ∈ scheduleHeaders, OneLine header := by decide
    exact fun field hfield => hheaders _ (List.of_mem_zip hfield).1
  have hconfig : ∀ field ∈ configFields s.config, OneLine field.1 := by
    simp only [configFields, List.forall_mem_cons]
    decide
  intro line hline
  simp only [detailLines, List.mem_append, List.mem_singleton] at hline
  rcases hline with (hline | rfl) | hline
  · exact oneLine_fieldLines (by decide) hlabels line hline
  · decide
  · exact oneLine_fieldLines (by decide) hconfig line hline

theorem length_fieldLines (indent : String) (fields : List (String × String)) :
    (fieldLines indent fields).length = fields.length := by
  simp [fieldLines]

theorem length_detailLines (s : Schedule) : (detailLines s).length = 14 := by
  simp [detailLines, length_fieldLines, scheduleHeaders, scheduleRow, configFields]

/-! ## What is printed -/

/-- Written to an output without a bound, the lines are a text that its line feeds cut into `n`
lines with nothing behind the last one, and no carriage return stands in it. -/
def PrintsLines (lines : List String) (n : Nat) : Prop :=
  ∃ text : String,
    Sink.writeAll (Sink.empty none) (lineWrites lines) = (.ok (), ⟨none, text.toUTF8⟩) ∧
    Text.splitAt '\n' text.toList = lines.map String.toList ++ [[]] ∧
    lines.length = n ∧ text.toList.count '\n' = n ∧ '\r' ∉ text.toList

theorem printsLines_of_oneLine {lines : List String} {n : Nat}
    (h : ∀ line ∈ lines, OneLine line) (hlength : lines.length = n) : PrintsLines lines n := by
  have hfeed : ∀ line ∈ lines, '\n' ∉ line.toList :=
    fun line hline hc => (h line hline _ hc).1 rfl
  refine ⟨textOf lines, ?_, splitAt_textOf hfeed, hlength, ?_, fun hreturn => ?_⟩
  · rw [Sink.empty, Sink.writeAll_lineWrites, ByteArray.empty_append]
  · rw [count_feed_textOf hfeed, hlength]
  · rcases mem_textOf hreturn with hc | ⟨line, hline, hc⟩
    · exact absurd hc (by decide)
    · exact (h line hline _ hc).2 rfl

theorem length_tableLines (headers : List String) (rows : List (List String)) :
    (tableLines headers rows).length = rows.length + 2 := by
  simp [tableLines]

/-- If all cells of the table fit, the report is printed in full, in so many lines and with this
property. If one does not, only so many lines above the table are printed. -/
structure Prints (parts : List Part) (rows : List (List String)) (above whole : Nat)
    (property : List String → Prop) : Prop where
  whole : AllFit rows →
    (set parts).2 = true ∧ PrintsLines (set parts).1 whole ∧ property (set parts).1
  broken : ¬ AllFit rows → (set parts).2 = false ∧ PrintsLines (set parts).1 above

theorem Framed.prints {parts : List Part} {above headers below : List String}
    {rows : List (List String)} {whole : Nat} {property : List String → Prop}
    (h : Framed parts above headers rows below) (habove : ∀ line ∈ above, OneLine line)
    (hheaders : ∀ header ∈ headers, OneLine header) (hbelow : ∀ line ∈ below, OneLine line)
    (hwhole : above.length + (rows.length + 2) + below.length = whole)
    (hproperty : property (above ++ tableLines headers rows ++ below)) :
    Prints parts rows above.length whole property := by
  refine ⟨fun hall => ?_, fun hnot => ?_⟩
  · rw [h.whole hall, h.full]
    refine ⟨rfl, printsLines_of_oneLine (fun line hline => ?_) ?_, hproperty⟩
    · rcases List.mem_append.1 hline with hline | hline
      · rcases List.mem_append.1 hline with hline | hline
        · exact habove line hline
        · exact oneLine_tableLines hheaders rows line hline
      · exact hbelow line hline
    · rw [List.length_append, List.length_append, length_tableLines, hwhole]
  · rw [h.broken hnot]
    exact ⟨rfl, printsLines_of_oneLine habove rfl⟩

section Reports

variable {property : List String → Prop} (limit : Option Nat)

theorem prints_schedules (now : Calendar.Moment) (all : List Schedule)
    (h : property ([snapshotLine now] ++ tableLines scheduleHeaders
      ((upTo limit (sortOn textsInOrder scheduleKey all)).map scheduleRow) ++
        [summaryLine scheduleStatuses (all.map (·.status))])) :
    Prints (schedulesParts now limit all)
      ((upTo limit (sortOn textsInOrder scheduleKey all)).map scheduleRow) 1
      (shown limit all.length + 4) property := by
  apply (framed_schedules now limit all).prints _ (by decide) _ _ h
  · simpa using oneLine_snapshotLine now
  · simpa using oneLine_summaryLine (by decide) _
  · simp only [List.length_singleton, List.length_map, length_upTo_sortOn]
    omega

theorem prints_repairs (all : List OnDemandRepair)
    (h : property ([] ++ tableLines repairHeaders
      ((upTo limit (sortOn textsInOrder repairKey all)).map repairRow) ++
        [summaryLine repairStatuses (all.map (·.status))])) :
    Prints (repairsParts limit all)
      ((upTo limit (sortOn textsInOrder repairKey all)).map repairRow) 0
      (shown limit all.length + 3) property := by
  apply (framed_repairs limit all).prints (List.forall_mem_nil _) (by decide) _ _ h
  · simpa using oneLine_summaryLine (by decide) _
  · simp only [List.length_nil, List.length_singleton, List.length_map, length_upTo_sortOn]
    omega

theorem prints_repairInfo (info : RepairInfo)
    (h : property ([windowLine info] ++ tableLines statsHeaders
      ((upTo limit (sortOn textsInOrder statsKey info.repairStats)).map statsRow) ++ [])) :
    Prints (repairInfoParts limit info)
      ((upTo limit (sortOn textsInOrder statsKey info.repairStats)).map statsRow) 1
      (shown limit info.repairStats.length + 3) property := by
  apply (framed_repairInfo limit info).prints _ (by decide) (List.forall_mem_nil _) _ h
  · simpa using oneLine_windowLine info
  · simp only [List.length_nil, List.length_singleton, List.length_map, length_upTo_sortOn]
    omega

theorem prints_schedule {s : Schedule} {nodes : List VirtualNode}
    (hnodes : s.virtualNodeStates = some nodes)
    (h : property (detailLines s ++ [""] ++ tableLines virtualNodeHeaders
      ((upTo limit (sortOn (fun a b => decide (a ≤ b)) (·.lastRepairedAtInMs) nodes)).map
        virtualNodeRow) ++ [])) :
    Prints (scheduleParts limit true s)
      ((upTo limit (sortOn (fun a b => decide (a ≤ b)) (·.lastRepairedAtInMs) nodes)).map
        virtualNodeRow) 15 (shown limit nodes.length + 17) property := by
  have hlength : (detailLines s ++ [""]).length = 15 := by
    rw [List.length_append, length_detailLines, List.length_singleton]
  rw [← hlength]
  apply (framed_schedule hnodes limit).prints _ (by decide) (List.forall_mem_nil _) _ h
  · intro line hline
    rcases List.mem_append.1 hline with hline | hline
    · exact oneLine_detailLines s line hline
    · rw [List.mem_singleton.1 hline]
      decide
  · simp only [hlength, List.length_nil, List.length_map, length_upTo_sortOn]
    omega

end Reports

/-! ## Rows -/

/-- The lines hold, behind the first `above` ones, one line for each of the rows, and then the
lines `below`. -/
def HoldsRows (lines : List String) (above columns : Nat) (rows : List (List String))
    (below : List String) : Prop :=
  ∃ widths front, front.length = above ∧
    lines = front ++ rows.map (fun row => tableLine widths (rowCells columns row)) ++ below

theorem holdsRows_tableLines (before headers : List String) (rows : List (List String))
    (below : List String) :
    HoldsRows (before ++ tableLines headers rows ++ below) (before.length + 2) headers.length rows
      below := by
  obtain ⟨widths, rule, -, htable⟩ := tableLines_eq headers rows
  refine ⟨widths, before ++ [tableLine widths headers, tableLine widths rule], by simp, ?_⟩
  simp [htable]

/-- If all cells fit, the report is printed in so many lines. The rows stand one a line and in order
between the head of the table and the lines below it. If a cell does not fit, the lines above the
table are all that is printed. -/
def PrintsRows (parts : List Part) (rows : List (List String)) (above columns whole : Nat)
    (below : List String) : Prop :=
  Prints parts rows above whole fun lines => HoldsRows lines (above + 2) columns rows below

/-- The lines that are printed are counted by the records that are shown, whatever stands in them,
as long as every cell fits into a column: all line feeds close a line of the report, and there is no
carriage return. Of a report with a cell that does not fit, nothing is printed from its table on. -/
theorem one_record_one_line (limit : Option Nat) :
    (∀ now all, PrintsRows (schedulesParts now limit all)
      ((upTo limit (sortOn textsInOrder scheduleKey all)).map scheduleRow) 1 8
      (shown limit all.length + 4) [summaryLine scheduleStatuses (all.map (·.status))]) ∧
    (∀ all, PrintsRows (repairsParts limit all)
      ((upTo limit (sortOn textsInOrder repairKey all)).map repairRow) 0 8
      (shown limit all.length + 3) [summaryLine repairStatuses (all.map (·.status))]) ∧
    (∀ info, PrintsRows (repairInfoParts limit info)
      ((upTo limit (sortOn textsInOrder statsKey info.repairStats)).map statsRow) 1 4
      (shown limit info.repairStats.length + 3) []) ∧
    (∀ full s, full = false ∨ s.virtualNodeStates = none →
      (set (scheduleParts limit full s)).2 = true ∧
        PrintsLines (set (scheduleParts limit full s)).1 14) ∧
    ∀ nodes s, s.virtualNodeStates = some nodes →
      PrintsRows (scheduleParts limit true s)
        ((upTo limit (sortOn (fun a b => decide (a ≤ b)) (·.lastRepairedAtInMs) nodes)).map
          virtualNodeRow) 15 5 (14 + (3 + shown limit nodes.length)) [] := by
  refine ⟨fun now all => ?_, fun all => ?_, fun info => ?_, fun full s hbrief => ?_,
    fun nodes s hnodes => ?_⟩
  · exact prints_schedules limit now all (holdsRows_tableLines [_] scheduleHeaders _ _)
  · exact prints_repairs limit all (holdsRows_tableLines [] repairHeaders _ _)
  · exact prints_repairInfo limit info (holdsRows_tableLines [_] statsHeaders _ _)
  · rw [set_of_brief hbrief]
    exact ⟨rfl, printsLines_of_oneLine (oneLine_detailLines s) (length_detailLines s)⟩
  · have hrows := holdsRows_tableLines (detailLines s ++ [""]) virtualNodeHeaders
      ((upTo limit (sortOn (fun a b => decide (a ≤ b)) (·.lastRepairedAtInMs) nodes)).map
        virtualNodeRow) []
    rw [List.length_append, length_detailLines] at hrows
    have hcount : 14 + (3 + shown limit nodes.length) = shown limit nodes.length + 17 := by omega
    rw [hcount]
    exact prints_schedule limit hnodes hrows

/-- One virtual node whose replica breaks a line: its row is one line all the same. -/
theorem one_record_one_line_of_feeds :
    let nodes : List VirtualNode := [{ replicas := ["a\r\nb"] }]
    let s : Schedule := { virtualNodeStates := some nodes }
    (set (scheduleParts none true s)).2 = true ∧
      PrintsLines (set (scheduleParts none true s)).1 18 := by
  intro nodes s
  have hfit : AllFit ((upTo none (sortOn (fun a b => decide (a ≤ b)) (·.lastRepairedAtInMs)
      nodes)).map virtualNodeRow) := by
    decide +kernel
  have hprints := (one_record_one_line none).2.2.2.2 nodes s rfl
  exact ⟨(hprints.whole hfit).1, (hprints.whole hfit).2.1⟩

/-- One record is shown of an answer with a long name, but there is one line and not four. -/
theorem long_keyspace_has_no_line :
    ∃ info, (Json.parse? (bodyOfKeyspace longKeyspace)).bind RepairInfo.ofJson? = some info ∧
      shown none info.repairStats.length = 1 ∧
      ¬ PrintsLines (set (repairInfoParts none info)).1
        (shown none info.repairStats.length + 3) := by
  refine ⟨_, repairInfo_of_keyspace plain_longKeyspace, rfl, ?_⟩
  rw [set_repairInfo_of_long not_fitting_longKeyspace]
  rintro ⟨text, -, -, hlength, -⟩
  exact absurd hlength (by decide)

end RepairConsole.Report
