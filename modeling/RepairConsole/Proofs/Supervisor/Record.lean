import RepairConsole.Proofs.Supervisor.Calm
/-!
# The record over a run

A run begins without a pid file, on a disk that writes what it opened and reads what is there.
Whatever goes wrong besides, the file names the child of the last start that could write it, and
it is gone once a stop has returned.
-/

namespace RepairConsole.Supervisor

variable {pidfile : String} {first world : World} {turns : List Turn}

/-- The last start that wrote its pid to the file has the child `pid`. -/
def LastRecorded (pidfile : String) (pid : Nat) (turns : List Turn) : Prop :=
  Since (fun t => t.recorded? pidfile = some pid) (fun t => t.recorded? pidfile = none) turns

/-- No start has written its pid to the file, or none since a stop returned. -/
def Cleared (pidfile : String) (turns : List Turn) : Prop :=
  (∀ t ∈ turns, t.recorded? pidfile = none) ∨
    Since (fun t => ∃ pid, t.stopped? = some pid) (fun t => t.recorded? pidfile = none) turns

theorem cleared_snoc {t : Turn} (hr : t.recorded? pidfile = none) (hs : t.stopped? = none) :
    Cleared pidfile (turns ++ [t]) ↔ Cleared pidfile turns := by
  have hnot : ¬ ∃ pid, t.stopped? = some pid := by simp [hs]
  simp only [Cleared, since_snoc, hr, hnot, false_or, true_and, List.forall_mem_append,
    List.forall_mem_singleton, and_true]

theorem not_cleared_snoc {t : Turn} {pid : Nat} (hr : t.recorded? pidfile = some pid)
    (hs : t.stopped? = none) : ¬ Cleared pidfile (turns ++ [t]) := by
  simp [Cleared, since_snoc, hr, hs]

/-- What the pid file holds after a run. -/
def Kept (pidfile : String) (turns : List Turn) (world : World) : Prop :=
  world.files pidfile = none ∧ Cleared pidfile turns ∨
    ∃ pid, 0 < pid ∧ pid ≤ PidFile.greatestPid ∧
      world.files pidfile = some (Nat.repr pid).toUTF8 ∧
      LastRecorded pidfile pid turns ∧ ¬ Cleared pidfile turns

theorem kept_turn {t : Turn} (hkept : Kept pidfile turns t.before)
    (happens : t.Happens False pidfile) : Kept pidfile (turns ++ [t]) t.after := by
  cases happens.effect with
  | none recorded started stopped files =>
    rcases hkept with ⟨hnone, hcleared⟩ | ⟨pid, hpos, hle, hsome, hlast, hcleared⟩
    · exact Or.inl ⟨by rw [files, hnone], (cleared_snoc recorded stopped).2 hcleared⟩
    · refine Or.inr ⟨pid, hpos, hle, by rw [files, hsome], ?_, ?_⟩
      · exact since_snoc.2 (Or.inr ⟨recorded, hlast⟩)
      · rwa [cleared_snoc recorded stopped]
  | spoiled flaky => exact flaky.elim
  | recorded pid positive bounded recorded spawned started stopped files =>
    refine Or.inr ⟨pid, positive, bounded, ?_, ?_, not_cleared_snoc recorded stopped⟩
    · rw [files, World.put_files_self]
    · exact since_snoc.2 (Or.inl recorded)
  | removed pid recorded started stopped named files =>
    refine Or.inl ⟨by rw [files, World.put_files_self], Or.inr ?_⟩
    exact since_snoc.2 (Or.inl ⟨pid, stopped⟩)

theorem run_kept (hfirst : first.files pidfile = none) (h : Run False pidfile first turns world) :
    Kept pidfile turns world := by
  induction h with
  | none => exact Or.inl ⟨hfirst, Or.inl (by simp)⟩
  | turn past happens ih => exact kept_turn ih happens

/-! ## Stops -/

theorem Kept.pid?_eq_none {w : World} (h : Kept pidfile turns w) :
    w.pid? pidfile = none ↔ w.files pidfile = none := by
  rcases h with ⟨hnone, -⟩ | ⟨pid, hpos, hle, hsome, -⟩
  · simp [World.pid?, hnone]
  · simp [World.pid?_of_text hpos hle hsome, hsome]

theorem Kept.files_of_pid? {w : World} {pid : Nat} (h : Kept pidfile turns w)
    (hpid : w.pid? pidfile = some pid) : w.files pidfile = some (Nat.repr pid).toUTF8 := by
  rcases h with ⟨hnone, -⟩ | ⟨p, hpos, hle, hsome, -⟩
  · simp [World.pid?, hnone] at hpid
  · rw [World.pid?_of_text hpos hle hsome] at hpid
    rw [hsome, Option.some.inj hpid]

theorem Turn.Happens.notRunning_iff {t : Turn} (happens : t.Happens False pidfile)
    (hstop : t.order = .stop) :
    t.kind? = some .notRunning ↔ t.before.pid? pidfile = none := by
  obtain ⟨order, w, exchanges, result, v⟩ := t
  subst hstop
  have hends : StopEnds False pidfile w exchanges result v := stop_ends happens
  cases hends with
  | unread answer fault v kind files unnamed =>
    exact iff_of_true (congrArg some kind) (unnamed.resolve_right id)
  | kept p answer rest fault v named asked kind files =>
    refine iff_of_false (fun h => kind (Option.some.inj h)) ?_
    simp [named]
  | removed p answer rest v named asked signalled files =>
    refine iff_of_false nofun ?_
    simp [named]

/-- Each turn of a run finds what the run before it has kept. -/
theorem forall_turns {P : Turn → Prop} (hfirst : first.files pidfile = none)
    (h : Run False pidfile first turns world)
    (hP : ∀ t past, Kept pidfile past t.before → t.Happens False pidfile → P t) :
    ∀ t ∈ turns, P t := by
  induction h with
  | none => simp
  | turn past happens ih =>
    intro t ht
    rcases List.mem_append.1 ht with ht | ht
    · exact ih t ht
    · rw [List.mem_singleton.1 ht]
      exact hP _ _ (run_kept hfirst past) happens

/-! ## The record -/

theorem record_names_last_start (hfirst : first.files pidfile = none)
    (h : Run False pidfile first turns world) :
    (world.files pidfile = none ∨ ∃ pid, LastRecorded pidfile pid turns ∧
      world.files pidfile = some (Nat.repr pid).toUTF8) ∧
    (world.files pidfile = none ↔ Cleared pidfile turns) ∧
    (∀ t ∈ turns, ∀ e ∈ t.exchanges, ∀ pid, signalled? e = some pid →
      e.before.files pidfile = some (Nat.repr pid).toUTF8) ∧
    (∀ t ∈ turns, ∀ e ∈ t.exchanges, ∀ pid, discarded? e = some pid →
      t.spawned? = some pid ∧ t.recorded? pidfile = none) ∧
    ∀ t ∈ turns, t.order = .stop →
      (t.kind? = some .notRunning ↔ t.before.files pidfile = none) := by
  refine ⟨?_, ?_, ?_, ?_, ?_⟩
  · rcases run_kept hfirst h with ⟨hnone, -⟩ | ⟨pid, -, -, hsome, hlast, -⟩
    · exact Or.inl hnone
    · exact Or.inr ⟨pid, hlast, hsome⟩
  · rcases run_kept hfirst h with ⟨hnone, hcleared⟩ | ⟨pid, -, -, hsome, -, hcleared⟩
    · exact iff_of_true hnone hcleared
    · exact iff_of_false (by simp [hsome]) hcleared
  · refine forall_turns hfirst h fun t past hkept happens e he pid hpid => ?_
    obtain ⟨hnamed, hfiles⟩ := happens.signalled he hpid
    rw [hfiles]
    exact hkept.files_of_pid? hnamed
  · exact forall_turns hfirst h fun t past _ happens e he pid hpid => happens.discarded he hpid
  · refine forall_turns hfirst h fun t past hkept happens hstop => ?_
    rw [happens.notRunning_iff hstop, hkept.pid?_eq_none]

theorem record_names_restarted :
    let orders : List Order :=
      [.start ⟨"java", ["-f"], "/opt/ecc"⟩ true, .stop, .start ⟨"java", [], "/opt/ecc"⟩ false]
    let first : World := ⟨fun _ => none, []⟩
    let turns := calmTurns "ecc.pid" orders first
    let world := calmEnd "ecc.pid" orders first
    first.files "ecc.pid" = none ∧ Run False "ecc.pid" first turns world ∧
      world.files "ecc.pid" = some (Nat.repr 1).toUTF8 ∧
      LastRecorded "ecc.pid" 1 turns ∧ ¬ Cleared "ecc.pid" turns := by
  intro orders first turns world
  have hrun : Run False "ecc.pid" first turns world := calm_run False "ecc.pid" orders first
  have hfile : world.files "ecc.pid" = some (Nat.repr 1).toUTF8 := by
    have hstop : ((first.withChild "ecc.pid").without 1).pid? "ecc.pid" = some 1 :=
      World.pid?_of_text (by decide) (by decide) rfl
    simp only [world, orders, calmEnd, List.foldl_cons, List.foldl_nil, calmTurn,
      Order.conversation]
    rw [calm_start _ true (by decide), if_pos rfl, show first.freshPid = 1 from rfl,
      calm_stop hstop, calm_start _ false (by decide)]
    rfl
  obtain ⟨hlast, hcleared, -⟩ := record_names_last_start rfl hrun
  refine ⟨rfl, hrun, hfile, ?_, ?_⟩
  · rcases hlast with hnone | ⟨pid, hlast, hsome⟩
    · simp [hfile] at hnone
    · rw [hfile] at hsome
      rwa [PidFile.toUTF8_text_injective (Option.some.inj hsome)]
  · rw [← hcleared, hfile]
    simp

end RepairConsole.Supervisor
