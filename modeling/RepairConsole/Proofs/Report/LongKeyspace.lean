import Mathlib.Data.String.Basic
import RepairConsole.Proofs.Json.Grammar
import RepairConsole.Proofs.Report.Frame
/-!
# A name that fits into no column

Answers in which the name of a keyspace is one letter longer than the widest column. They are read
like any other, and no table can be set for them.
-/

namespace RepairConsole.Report

/-! ## The name -/

theorem length_le_length_escape (s : String) : s.length ≤ (escape s).length := by
  have hchars : ∀ cs : List Char, cs.length ≤ (cs.flatMap escapeChar).length := by
    intro cs
    induction cs with
    | nil => simp
    | cons c cs ih =>
      have hchar : 1 ≤ (escapeChar c).length := by
        unfold escapeChar
        split_ifs <;> simp
      rw [List.flatMap_cons, List.length_append, List.length_cons]
      omega
  rw [escape, String.length_ofList, ← String.length_toList]
  exact hchars s.toList

/-- The shortest name of this letter that does not fit. -/
def longKeyspace : String := String.ofList (List.replicate (widthLimit + 1) 'a')

theorem mem_longKeyspace {c : Char} (h : c ∈ longKeyspace.toList) : c = 'a' := by
  unfold longKeyspace at h
  rw [String.toList_ofList] at h
  exact List.eq_of_mem_replicate h

theorem plain_longKeyspace :
    ∀ c ∈ longKeyspace.toList, 0x20 ≤ c.toNat ∧ c ≠ '"' ∧ c ≠ '\\' := by
  intro c hc
  rw [mem_longKeyspace hc]
  decide

theorem utf8ByteSize_longKeyspace : longKeyspace.utf8ByteSize = widthLimit + 1 := by
  have hname : ∀ n, String.utf8Len (List.replicate n 'a') = n := by
    intro n
    induction n with
    | zero => rfl
    | succ n ih =>
      rw [List.replicate_succ, String.utf8Len_cons, ih]
      rfl
  rw [longKeyspace, String.utf8ByteSize_ofList, hname]

theorem not_fitting_longKeyspace : ¬ Fitting longKeyspace := by
  have hlength : longKeyspace.length = widthLimit + 1 := by
    rw [longKeyspace, String.length_ofList, List.length_replicate]
  have hle := length_le_length_escape longKeyspace
  unfold Fitting
  omega

/-! ## Answers with the name -/

/-- A list of records with nothing but the name of a keyspace in one of them. -/
def listOfKeyspace (keyspace : String) : String :=
  String.ofList ("[\x7b\"keyspace\":\"".toList ++ keyspace.toList ++ "\"\x7d]".toList)

/-- An answer with nothing but the name of a keyspace in it. -/
def bodyOfKeyspace (keyspace : String) : String :=
  String.ofList ("\x7b\"repairStats\":[\x7b\"keyspace\":\"".toList ++ keyspace.toList ++
    "\"\x7d]\x7d".toList)

section Answers

variable {keyspace : String}

theorem written_listOfKeyspace (h : ∀ c ∈ keyspace.toList, 0x20 ≤ c.toNat ∧ c ≠ '"' ∧ c ≠ '\\') :
    Json.Written (.array [.object [(some "keyspace", .text (some keyspace))]])
      (listOfKeyspace keyspace).toList := by
  have hrecord := Json.Written.object
    (.last (.ofPlain (s := "keyspace") (by simp)) (.ofPlain h))
  have hlist := Json.Written.array (.last hrecord)
  unfold listOfKeyspace
  simpa using hlist

theorem parse?_bodyOfKeyspace (h : ∀ c ∈ keyspace.toList, 0x20 ≤ c.toNat ∧ c ≠ '"' ∧ c ≠ '\\') :
    Json.parse? (bodyOfKeyspace keyspace) = some (.object
      [(some "repairStats", .array [.object [(some "keyspace", .text (some keyspace))]])]) := by
  have hinfo := Json.Written.object
    (.last (.ofPlain (s := "repairStats") (by simp)) (written_listOfKeyspace h))
  apply Json.parse?_of_written
  unfold bodyOfKeyspace
  unfold listOfKeyspace at hinfo
  simpa using hinfo

theorem utf8ByteSize_bodyOfKeyspace (keyspace : String) :
    (bodyOfKeyspace keyspace).utf8ByteSize = 29 + keyspace.utf8ByteSize + 4 := by
  have hfront : String.utf8Len "\x7b\"repairStats\":[\x7b\"keyspace\":\"".toList = 29 := by
    decide +kernel
  have hback : String.utf8Len "\"\x7d]\x7d".toList = 4 := by decide +kernel
  unfold bodyOfKeyspace
  rw [String.utf8ByteSize_ofList, String.utf8Len_append, String.utf8Len_append, hfront, hback,
    String.utf8Len_toList]

theorem schedules_of_keyspace (h : ∀ c ∈ keyspace.toList, 0x20 ≤ c.toNat ∧ c ≠ '"' ∧ c ≠ '\\') :
    (Json.parse? (listOfKeyspace keyspace)).bind (Json.asList? Schedule.ofJson?) =
      some [{ keyspace }] := by
  rw [Json.parse?_of_written (written_listOfKeyspace h)]
  rfl

theorem repairs_of_keyspace (h : ∀ c ∈ keyspace.toList, 0x20 ≤ c.toNat ∧ c ≠ '"' ∧ c ≠ '\\') :
    (Json.parse? (listOfKeyspace keyspace)).bind (Json.asList? OnDemandRepair.ofJson?) =
      some [{ keyspace }] := by
  rw [Json.parse?_of_written (written_listOfKeyspace h)]
  rfl

theorem repairInfo_of_keyspace (h : ∀ c ∈ keyspace.toList, 0x20 ≤ c.toNat ∧ c ≠ '"' ∧ c ≠ '\\') :
    (Json.parse? (bodyOfKeyspace keyspace)).bind RepairInfo.ofJson? =
      some { repairStats := [{ keyspace }] } := by
  rw [parse?_bodyOfKeyspace h]
  rfl

/-! ## What is set of them -/

theorem sortOn_singleton {α β : Type} (inOrder : β → β → Bool) (key : α → β) (a : α) :
    sortOn inOrder key [a] = [a] := by simp [sortOn]

theorem not_allFit_of_cell {row : List String} {cell : String} (hcell : cell ∈ row)
    (h : ¬ Fitting cell) : ¬ AllFit [row] :=
  fun hall => h (hall row (List.mem_singleton_self row) cell hcell)

theorem set_schedules_of_long (h : ¬ Fitting keyspace) (now : Calendar.Moment) :
    set (schedulesParts now none [{ keyspace }]) = ([snapshotLine now], false) := by
  apply (framed_schedules now none [{ keyspace }]).broken
  rw [sortOn_singleton]
  exact not_allFit_of_cell (by simp [scheduleRow]) h

theorem set_repairs_of_long (h : ¬ Fitting keyspace) :
    set (repairsParts none [{ keyspace }]) = ([], false) := by
  apply (framed_repairs none [{ keyspace }]).broken
  rw [sortOn_singleton]
  exact not_allFit_of_cell (by simp [repairRow]) h

theorem set_repairInfo_of_long (h : ¬ Fitting keyspace) :
    set (repairInfoParts none { repairStats := [{ keyspace }] }) =
      (["Time window (- - -)"], false) := by
  have hwindow : windowLine { repairStats := [{ keyspace }] } = "Time window (- - -)" := by
    have htime : s!"Time window ({time 0} - {time 0})" = "Time window (- - -)" := by
      decide +kernel
    exact htime
  rw [← hwindow]
  apply (framed_repairInfo none { repairStats := [{ keyspace }] }).broken
  rw [sortOn_singleton]
  exact not_allFit_of_cell (by simp [statsRow]) h

end Answers

end RepairConsole.Report
