import Mathlib.Algebra.GroupWithZero.Nat
import Mathlib.Data.List.Count
import RepairConsole.Proofs.Report.Lines
/-!
# What a summary counts

The tally is taken over all of the records, one after the other. Each is counted once, at the label
of its status, or not at all, and so the summary tells neither of their order nor of a limit. It is
printed below the table, so there is none if the table cannot be set.
-/

namespace RepairConsole.Report

variable {labels : List (String × String)} {counts : List Nat} {statuses : List String}

/-! ## One record -/

theorem getElem?_countAt (labels : List (String × String)) (counts : List Nat) (status : String)
    (i : Nat) :
    (countAt labels counts status)[i]? =
      counts[i]?.map (· + if place? labels status = some i then 1 else 0) := by
  unfold countAt
  cases hplace : place? labels status with
  | none => simp
  | some j =>
    by_cases hij : j = i
    · subst hij
      simp
    · have hne : ¬ some j = some i := mt Option.some.inj hij
      simp [List.getElem?_modify_ne, hij, hne]

theorem place?_lt {status : String} {i : Nat} (h : place? labels status = some i) :
    i < labels.length := by
  obtain ⟨hi, -⟩ := List.findIdx?_eq_some_iff_getElem.1 h
  exact hi

theorem place?_eq_none_iff {status : String} :
    place? labels status = none ↔ status ∉ labels.map Prod.fst := by
  rw [place?, List.findIdx?_eq_none_iff,
    ← List.forall_mem_map (P := fun s => (s == status) = false)]
  constructor
  · intro h hmem
    exact absurd (h status hmem) (by simp)
  · rintro h s hs
    rw [beq_eq_false_iff_ne]
    rintro rfl
    exact h hs

/-- Where no two labels have the same status, a status has its place at its own label. -/
theorem place?_eq_some_iff (h : (labels.map Prod.fst).Nodup) {status : String} {i : Nat} :
    place? labels status = some i ↔ (labels.map Prod.fst)[i]? = some status := by
  constructor
  · intro hplace
    obtain ⟨hi, hstatus, -⟩ := List.findIdx?_eq_some_iff_getElem.1 hplace
    rw [List.getElem?_map, List.getElem?_eq_getElem hi, Option.map_some, beq_iff_eq.1 hstatus]
  · intro hstatus
    cases hplace : place? labels status with
    | none => exact absurd (List.mem_of_getElem? hstatus) (place?_eq_none_iff.1 hplace)
    | some j =>
      obtain ⟨hj, hsame, -⟩ := List.findIdx?_eq_some_iff_getElem.1 hplace
      have hother : (labels.map Prod.fst)[j]? = some status := by
        rw [List.getElem?_map, List.getElem?_eq_getElem hj, Option.map_some, beq_iff_eq.1 hsame]
      have hlt : j < (labels.map Prod.fst).length := (List.getElem?_eq_some_iff.1 hother).1
      rw [(List.getElem?_inj hlt h).1 (hother.trans hstatus.symm)]

theorem sum_modify {i : Nat} (h : i < counts.length) :
    (counts.modify i (· + 1)).sum = counts.sum + 1 := by
  induction counts generalizing i with
  | nil => exact absurd h (Nat.not_lt_zero i)
  | cons count counts ih =>
    cases i with
    | zero => simp [Nat.add_right_comm]
    | succ i =>
      simp [ih (Nat.lt_of_succ_lt_succ h), Nat.add_assoc]

theorem length_countAt (labels : List (String × String)) (counts : List Nat) (status : String) :
    (countAt labels counts status).length = counts.length := by
  unfold countAt
  split <;> simp

/-- A record adds one to the sum, or nothing if its status is that of no label. -/
theorem sum_countAt (h : counts.length = labels.length) (status : String) :
    (countAt labels counts status).sum =
      counts.sum + if status ∈ labels.map Prod.fst then 1 else 0 := by
  unfold countAt
  cases hplace : place? labels status with
  | none => rw [if_neg (place?_eq_none_iff.1 hplace), Nat.add_zero]
  | some i =>
    have hmem : status ∈ labels.map Prod.fst := by
      by_contra hnot
      rw [place?_eq_none_iff.2 hnot] at hplace
      cases hplace
    rw [if_pos hmem, sum_modify (h ▸ place?_lt hplace)]

/-! ## All records -/

theorem getElem?_foldl_countAt (labels : List (String × String)) (counts : List Nat)
    (statuses : List String) (i : Nat) :
    (statuses.foldl (countAt labels) counts)[i]? =
      counts[i]?.map (· + statuses.countP fun status => place? labels status = some i) := by
  induction statuses generalizing counts with
  | nil => simp
  | cons status statuses ih =>
    rw [List.foldl_cons, ih, getElem?_countAt, Option.map_map, List.countP_cons]
    congr 1
    funext count
    simp only [Function.comp, decide_eq_true_eq]
    omega

theorem getElem?_tally (labels : List (String × String)) (statuses : List String) (i : Nat) :
    (tally labels statuses)[i]? =
      labels[i]?.map fun _ => statuses.countP fun status => place? labels status = some i := by
  rw [tally, getElem?_foldl_countAt]
  by_cases hi : i < labels.length
  · simp [hi]
  · simp [hi]

theorem tally_of_perm {other : List String} (h : other.Perm statuses) :
    tally labels other = tally labels statuses := by
  apply List.ext_getElem?
  intro i
  rw [getElem?_tally, getElem?_tally, h.countP_eq]

/-- At each label stands how often its status comes. -/
theorem tally_eq (h : (labels.map Prod.fst).Nodup) (statuses : List String) :
    tally labels statuses = labels.map fun label => statuses.count label.1 := by
  apply List.ext_getElem?
  intro i
  rw [getElem?_tally, List.getElem?_map]
  cases hlabel : labels[i]? with
  | none => rfl
  | some label =>
    rw [Option.map_some, Option.map_some, List.count_eq_countP]
    congr 1
    apply List.countP_congr
    intro status _
    rw [decide_eq_true_iff, place?_eq_some_iff h, List.getElem?_map, hlabel, Option.map_some,
      Option.some_inj, beq_iff_eq, eq_comm]

theorem sum_foldl_countAt (h : counts.length = labels.length) (statuses : List String) :
    (statuses.foldl (countAt labels) counts).sum =
      counts.sum + statuses.countP fun status => status ∈ labels.map Prod.fst := by
  induction statuses generalizing counts with
  | nil => simp
  | cons status statuses ih =>
    rw [List.foldl_cons, ih ((length_countAt labels counts status).trans h), sum_countAt h,
      List.countP_cons]
    simp only [decide_eq_true_eq]
    omega

/-- Those that were counted and those of another status are all there are. -/
theorem sum_tally (labels : List (String × String)) (statuses : List String) :
    (tally labels statuses).sum + statuses.countP (fun status => status ∉ labels.map Prod.fst) =
      statuses.length := by
  have hlength : (List.replicate labels.length 0).length = labels.length := List.length_replicate
  have hsplit := List.length_eq_countP_add_countP (l := statuses)
    fun status => decide (status ∈ labels.map Prod.fst)
  rw [tally, sum_foldl_countAt hlength, List.sum_replicate_nat, Nat.mul_zero, Nat.zero_add, hsplit]
  congr 1
  apply List.countP_congr
  intro status _
  simp

/-! ## Summaries -/

theorem summaryLine_eq (h : (labels.map Prod.fst).Nodup) (statuses : List String) :
    summaryLine labels statuses = "Summary: " ++ ", ".intercalate
      (labels.map fun label => Nat.repr (statuses.count label.1) ++ " " ++ label.2) := by
  rw [summaryLine, tally_eq h, ← List.map_prod_left_eq_zip, List.map_map]
  rfl

theorem summaryLine_of_perm {other : List String} (h : other.Perm statuses) :
    summaryLine labels other = summaryLine labels statuses := by
  rw [summaryLine, summaryLine, tally_of_perm h]

section Records

variable {α : Type} (status : α → String) (all : List α)

/-- How many of the records have a status. -/
def having (s : String) : Nat := (all.filter fun r => status r = s).length

/-- How many of the records have none of these statuses. -/
def havingNone (known : List String) : Nat := (all.filter fun r => status r ∉ known).length

theorem count_map_status (s : String) : (all.map status).count s = having status all s := by
  rw [having, List.count_eq_countP, List.countP_map, List.countP_eq_length_filter]
  rfl

theorem summaryLine_map (h : (labels.map Prod.fst).Nodup) :
    summaryLine labels (all.map status) = "Summary: " ++ ", ".intercalate
      (labels.map fun label => Nat.repr (having status all label.1) ++ " " ++ label.2) := by
  simp only [summaryLine_eq h, count_map_status]

theorem sum_having (h : (labels.map Prod.fst).Nodup) :
    (labels.map fun label => having status all label.1).sum +
      havingNone status all (labels.map Prod.fst) = all.length := by
  have hsum := sum_tally labels (all.map status)
  rw [tally_eq h, List.length_map, List.countP_map, List.countP_eq_length_filter] at hsum
  simp only [count_map_status] at hsum
  exact hsum

end Records

/-- If all cells fit, the report ends in a line that tells for each of the labels, in this order,
how many of all the records have its status, however the report is made out. These and the records
of any other status are all of them. If a cell does not fit, no line begins like a summary. -/
structure Summarises {α ι : Type} (labels : List (String × String)) (status : α → String)
    (parts : ι → List α → List Part) (rows : ι → List α → List (List String)) (above : Nat)
    (whole : ι → Nat → Nat) (all : List α) : Prop where
  text : ∀ i, Prints (parts i all) (rows i all) above (whole i all.length) fun lines =>
    lines.getLast? = some ("Summary: " ++ ", ".intercalate
      (labels.map fun label => Nat.repr (having status all label.1) ++ " " ++ label.2))
  missing : ∀ i, ¬ AllFit (rows i all) →
    ∀ line ∈ (set (parts i all)).1, ∀ counts, line ≠ "Summary: " ++ counts
  orderless : ∀ i j shuffled, shuffled.Perm all → AllFit (rows i all) →
    AllFit (rows j shuffled) →
      (set (parts j shuffled)).1.getLast? = (set (parts i all)).1.getLast?
  total : (labels.map fun label => having status all label.1).sum +
    havingNone status all (labels.map Prod.fst) = all.length

section Printed

variable {α ι : Type} {status : α → String} {parts : ι → List α → List Part}
  {rows : ι → List α → List (List String)} {above : Nat} {whole : ι → Nat → Nat}

theorem summarises_of_last (all : List α) (h : (labels.map Prod.fst).Nodup)
    (htext : ∀ i records, Prints (parts i records) (rows i records) above (whole i records.length)
      fun lines => lines.getLast? = some (summaryLine labels (records.map status)))
    (hmissing : ∀ i, ¬ AllFit (rows i all) →
      ∀ line ∈ (set (parts i all)).1, ∀ counts, line ≠ "Summary: " ++ counts) :
    Summarises labels status parts rows above whole all where
  text := by
    intro i
    rw [← summaryLine_map status all h]
    exact htext i all
  missing := hmissing
  orderless := by
    intro i j shuffled hperm hall hshuffled
    rw [((htext i all).whole hall).2.2, ((htext j shuffled).whole hshuffled).2.2,
      summaryLine_of_perm (hperm.map status)]
  total := sum_having status all h

end Printed

theorem snapshotLine_ne_summary (now : Calendar.Moment) (counts : String) :
    snapshotLine now ≠ "Summary: " ++ counts := by
  intro heq
  have hchars := congrArg String.toList heq
  have hsnapshot : (snapshotLine now).toList =
      "Snapshot as of ".toList ++ (Calendar.stampOfSeconds (now.nanos / 1000000000).toNat).toList :=
    String.toList_append
  rw [hsnapshot, String.toList_append] at hchars
  have hsecond := congrArg (·[1]?) hchars
  exact absurd hsecond (by simp)

/-- The summary of a listing counts all of its records, in whatever order they came and however few
of them are shown. It is printed if and only if the table can be set. -/
theorem summary_counts_all (schedules : List Schedule) (repairs : List OnDemandRepair) :
    Summarises
      [("COMPLETED", "completed"), ("ON_TIME", "on time"), ("BLOCKED", "blocked"),
        ("LATE", "late"), ("OVERDUE", "overdue")]
      Schedule.status
      (fun (i : Calendar.Moment × Option Nat) all => schedulesParts i.1 i.2 all)
      (fun i all => (upTo i.2 (sortOn textsInOrder scheduleKey all)).map scheduleRow) 1
      (fun i n => shown i.2 n + 4) schedules ∧
    Summarises
      [("COMPLETED", "completed"), ("IN_QUEUE", "in queue"), ("BLOCKED", "blocked"),
        ("WARNING", "warning"), ("ERROR", "error")]
      OnDemandRepair.status repairsParts
      (fun limit all => (upTo limit (sortOn textsInOrder repairKey all)).map repairRow) 0
      (fun limit n => shown limit n + 3) repairs := by
  refine ⟨summarises_of_last schedules (by decide) (fun i all => ?_) (fun i hnot => ?_),
    summarises_of_last repairs (by decide) (fun limit all => ?_) fun limit hnot => ?_⟩
  · exact prints_schedules i.2 i.1 all List.getLast?_concat
  · rw [(framed_schedules i.1 i.2 schedules).broken hnot]
    exact List.forall_mem_singleton.2 (snapshotLine_ne_summary i.1)
  · exact prints_repairs limit all List.getLast?_concat
  · rw [(framed_repairs limit repairs).broken hnot]
    exact List.forall_mem_nil _

/-- One record came in an answer with a long name, but nothing counts it. -/
theorem long_keyspace_has_no_summary :
    ∃ all, (Json.parse? (listOfKeyspace longKeyspace)).bind (Json.asList? OnDemandRepair.ofJson?) =
        some all ∧ all.length = 1 ∧ (set (repairsParts none all)).1.getLast? ≠
      some "Summary: 0 completed, 0 in queue, 0 blocked, 0 warning, 0 error" := by
  refine ⟨_, repairs_of_keyspace plain_longKeyspace, rfl, ?_⟩
  rw [set_repairs_of_long not_fitting_longKeyspace]
  exact nofun

end RepairConsole.Report
