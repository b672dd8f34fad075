import RepairConsole.Proofs.Supervisor.Endings
/-!
# The custody of a child

A start returns in one of three ways: without a child, with its child killed because it could not be
put on record, or with its child on record. So no child of a start runs that no stop can find.
-/

namespace RepairConsole.Supervisor

open Dialogue

/-- A request that puts something on the output. -/
def Request.writes : Request → Prop
  | .print _ => True
  | .relay _ => True
  | _ => False

/-- The program did not start. -/
def LaunchRefused : Exchange → Prop
  | ⟨_, .spawn _ _, .error _⟩ => True
  | _ => False

/-- The file of the record could not be opened. -/
def RecordRefused : Exchange → Prop
  | ⟨_, .writeFile _ _, .error _⟩ => True
  | _ => False

/-! ## Exits -/

section Exits

variable (pidfile : String) (launch : Launch) (w v : World) (exchanges : List Exchange)
  (result : Except Fault Started)

structure Childless : Prop where
  refused : ∃ e ∈ exchanges, LaunchRefused e
  fails : FailsAs .launchFailure result
  children : exchanges.filterMap child? = []
  silent : ∀ e ∈ exchanges, ¬e.request.writes
  files : v.files = w.files

structure Withdrawn : Prop where
  refused : ∃ e ∈ exchanges, RecordRefused e
  fails : FailsAs .io result
  child : ∃ pid, exchanges.filterMap child? = [pid] ∧ exchanges.filterMap discarded? = [pid] ∧
    pid ∉ v.running
  silent : ∀ e ∈ exchanges, ¬e.request.writes
  files : v.files = w.files

structure OnRecord : Prop where
  accepted : ∀ e ∈ exchanges, ¬LaunchRefused e ∧ ¬RecordRefused e
  child : ∃ pid, exchanges.filterMap child? = [pid] ∧ exchanges.filterMap discarded? = [] ∧
    v.files = (w.put pidfile (some (Nat.repr pid).toUTF8)).files ∧
    Concludes exchanges ⟨pid, pidfile, launch.workingDirectory⟩ result

inductive Exit where
  | childless
  | withdrawn
  | onRecord

/-- The start returned this way. -/
def Exit.Holds : Exit → Prop
  | childless => Childless w v exchanges result
  | withdrawn => Withdrawn w v exchanges result
  | onRecord => OnRecord pidfile launch w v exchanges result

end Exits

variable {flaky : Prop} {pidfile : String} {launch : Launch} {foreground : Bool} {w v : World}
  {exchanges : List Exchange} {result : Except Fault Started}

/-- What was refused tells the exits apart. -/
theorem Exit.Holds.unique {a b : Exit} (ha : a.Holds pidfile launch w v exchanges result)
    (hb : b.Holds pidfile launch w v exchanges result) : a = b := by
  have hchild : Childless w v exchanges result → ¬Withdrawn w v exchanges result := by
    intro hc hw
    obtain ⟨pid, hpid, -⟩ := hw.child
    rw [hc.children] at hpid
    cases hpid
  have hlaunch : Childless w v exchanges result →
      ¬OnRecord pidfile launch w v exchanges result := by
    intro hc ho
    obtain ⟨e, he, hrefused⟩ := hc.refused
    exact (ho.accepted e he).1 hrefused
  have hrecord : Withdrawn w v exchanges result →
      ¬OnRecord pidfile launch w v exchanges result := by
    intro hw ho
    obtain ⟨e, he, hrefused⟩ := hw.refused
    exact (ho.accepted e he).2 hrefused
  cases a <;> cases b
  case childless.withdrawn => exact (hchild ha hb).elim
  case childless.onRecord => exact (hlaunch ha hb).elim
  case withdrawn.childless => exact (hchild hb ha).elim
  case withdrawn.onRecord => exact (hrecord ha hb).elim
  case onRecord.childless => exact (hlaunch hb ha).elim
  case onRecord.withdrawn => exact (hrecord hb ha).elim
  all_goals rfl

/-- Whichever way a start returned, a child of it that still runs is on record. -/
theorem Exit.Holds.recorded {exit : Exit}
    (h : exit.Holds pidfile launch w v exchanges result) {e : Exchange} (he : e ∈ exchanges)
    {pid : Nat} (hchild : child? e = some pid) (hruns : pid ∈ v.running) :
    v.files pidfile = some (Nat.repr pid).toUTF8 := by
  have hmem : pid ∈ exchanges.filterMap child? := List.mem_filterMap.2 ⟨e, he, hchild⟩
  cases exit with
  | childless =>
    rw [Childless.children h] at hmem
    cases hmem
  | withdrawn =>
    obtain ⟨p, hp, -, hgone⟩ := Withdrawn.child h
    rw [hp] at hmem
    rw [List.mem_singleton.1 hmem] at hruns
    exact (hgone hruns).elim
  | onRecord =>
    obtain ⟨p, hp, -, hfiles, -⟩ := OnRecord.child h
    rw [hp] at hmem
    rw [List.mem_singleton.1 hmem, hfiles, World.put_files_self]

/-- What is asked once a child is on record starts and kills nothing and refuses no record. -/
theorem Request.attends.harmless {pid : Nat} {e : Exchange} (h : e.request.attends pid) :
    child? e = none ∧ discarded? e = none ∧ ¬LaunchRefused e ∧ ¬RecordRefused e := by
  obtain ⟨w, q, answer⟩ := e
  cases q <;> first | exact ⟨rfl, rfl, id, id⟩ | exact h.elim

theorem StartEnds.exists_exit (h : StartEnds False pidfile launch foreground w exchanges result v) :
    ∃ exit : Exit, exit.Holds pidfile launch w v exchanges result := by
  cases h with
  | unlaunched error v files =>
    exact ⟨.childless, ⟨_, List.mem_cons_self, trivial⟩, ⟨_, rfl, rfl⟩, rfl,
      by simp [Request.writes], files⟩
  | unrecorded pid error u₁ u₂ v files gone =>
    refine ⟨.withdrawn, ⟨_, List.mem_cons_of_mem _ List.mem_cons_self, trivial⟩, ⟨_, rfl, rfl⟩,
      ⟨pid, rfl, rfl, gone⟩, by simp [Request.writes], ?_⟩
    exact files.resolve_right fun hflaky => hflaky.1
  | recorded pid u v rest result asked files positive bounded returned =>
    have hchild : rest.filterMap child? = [] :=
      List.filterMap_eq_nil_iff.2 fun e he => (asked e he).harmless.1
    have hdiscarded : rest.filterMap discarded? = [] :=
      List.filterMap_eq_nil_iff.2 fun e he => (asked e he).harmless.2.1
    refine ⟨.onRecord, ?_, pid, ?_, ?_, files, (returned.cons id).cons id⟩
    · refine List.forall_mem_cons.2 ⟨⟨id, id⟩, List.forall_mem_cons.2 ⟨⟨id, id⟩, ?_⟩⟩
      exact fun e he => (asked e he).harmless.2.2
    · exact congrArg (pid :: ·) hchild
    · exact hdiscarded

/-- On a disk that takes what it was opened for, a start returns in just one way, and leaves no
child of its own that runs and is not on record. -/
theorem start_keeps_custody
    (h : (start pidfile launch foreground).Goes (World.May False) w exchanges result v) :
    (∃! exit : Exit, exit.Holds pidfile launch w v exchanges result) ∧
      ∀ e ∈ exchanges, ∀ pid, child? e = some pid → pid ∈ v.running →
        v.files pidfile = some (Nat.repr pid).toUTF8 := by
  obtain ⟨exit, hexit⟩ := (start_ends h).exists_exit
  exact ⟨⟨exit, hexit, fun _ hother => hother.unique hexit⟩,
    fun e he pid => hexit.recorded he⟩

/-- The output takes nothing, so the start fails. Its child runs on, in place of the process that
was on record. -/
theorem start_keeps_custody_unheard :
    ∃ exchanges v, (start "ecc.pid" ⟨"java", [], "/"⟩ true).Goes (World.May False)
        (.recorded "ecc.pid" 7) exchanges (.error (.outputFailed .sinkFull)) v ∧
      8 ∈ v.running ∧
      (∃! exit : Exit, exit.Holds "ecc.pid" ⟨"java", [], "/"⟩ (.recorded "ecc.pid" 7) v exchanges
        (.error (.outputFailed .sinkFull))) ∧
      ∀ e ∈ exchanges, ∀ pid, child? e = some pid → pid ∈ v.running →
        v.files "ecc.pid" = some (Nat.repr pid).toUTF8 := by
  let spawned : World := { World.recorded "ecc.pid" 7 with running := [8, 7] }
  let written : World := spawned.put "ecc.pid" (some (PidFile.text 8).toUTF8)
  have h : (start "ecc.pid" ⟨"java", [], "/"⟩ true).Goes (World.May False) (.recorded "ecc.pid" 7)
      [⟨.recorded "ecc.pid" 7, .spawn ⟨"java", [], "/"⟩ true, .ok 8⟩,
        ⟨spawned, .writeFile "ecc.pid" (PidFile.text 8), .ok ()⟩,
        ⟨written, .print (startLine 8).toUTF8, .error .sinkFull⟩]
      (.error (.outputFailed .sinkFull)) written := by
    refine ⟨.ok 8, spawned, _, ⟨[7], fun _ h => h, by decide, by decide, by decide, rfl⟩, rfl, ?_⟩
    refine ⟨.ok (), written, _, ⟨[8, 7], fun _ h => h, rfl⟩, rfl, ?_⟩
    refine ⟨.error .sinkFull, written, _, ⟨[8, 7], fun _ h => h, rfl⟩, rfl, ?_⟩
    exact ⟨rfl, rfl, rfl⟩
  exact ⟨_, written, h, by decide, start_keeps_custody h⟩

end RepairConsole.Supervisor
