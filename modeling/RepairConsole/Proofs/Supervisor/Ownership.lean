import RepairConsole.Proofs.Supervisor.Calm
/-!
# Who owns the record

A start does not look whether a service is on record already: it writes the pid of its child over
whatever the file holds, and the service that was named there is out of the reach of every stop.
As long as no start does so, each service that runs is on record, and there is no other.
-/

namespace RepairConsole.Supervisor

variable {flaky : Prop} {pidfile : String} {first world : World} {turns : List Turn}

/-- The turn is a start that changed what the pid file holds. -/
def Turn.overwrites (pidfile : String) (t : Turn) : Prop :=
  t.order ≠ .stop ∧ t.after.files pidfile ≠ t.before.files pidfile

/-- The service that a start returned runs, and no stop has returned it since. -/
def Exposed (pid : Nat) (turns : List Turn) (world : World) : Prop :=
  pid ∈ world.running ∧ Since (fun t => t.started? = some pid)
    (fun t => t.spawned? ≠ some pid ∧ t.stopped? ≠ some pid) turns

/-- Nobody has overwritten the record of the service since. -/
def Undisturbed (pidfile : String) (pid : Nat) (turns : List Turn) : Prop :=
  Since (fun t => t.started? = some pid)
    (fun t => t.stopped? ≠ some pid ∧ ¬ t.overwrites pidfile) turns

/-- No start overwrote the record while there was a service to lose. -/
def Exclusive (pidfile : String) (turns : List Turn) : Prop :=
  ∀ earlier t later, turns = earlier ++ t :: later →
    ∀ pid, Exposed pid earlier t.before → ¬ t.overwrites pidfile

theorem Exclusive.past {t : Turn} (h : Exclusive pidfile (turns ++ [t])) :
    Exclusive pidfile turns := by
  intro earlier u later hturns
  refine h earlier u (later ++ [t]) ?_
  rw [hturns, List.append_assoc, List.cons_append]

/-! ## Records -/

theorem Turn.Happens.pid?_of_started {t : Turn} (happens : t.Happens flaky pidfile) {pid : Nat}
    (h : t.started? = some pid) : t.after.pid? pidfile = some pid := by
  cases happens.effect with
  | recorded p positive bounded recorded spawned started stopped files =>
    rw [started pid h]
    exact World.pid?_of_text positive bounded (by rw [files, World.put_files_self])
  | none recorded started | spoiled flaky torn recorded started | removed p recorded started =>
    rw [started] at h
    cases h

/-- A turn that neither stops the service on record nor overwrites its record keeps it there. -/
theorem Turn.Happens.pid?_of_not_overwrites {t : Turn} (happens : t.Happens flaky pidfile)
    {pid : Nat} (h : t.before.pid? pidfile = some pid) (hstop : t.stopped? ≠ some pid)
    (hwrite : ¬ t.overwrites pidfile) : t.after.pid? pidfile = some pid := by
  obtain ⟨order, w, exchanges, result, v⟩ := t
  cases order with
  | start launch foreground =>
    have hfiles : v.files pidfile = w.files pidfile :=
      Classical.byContradiction fun hne => hwrite ⟨nofun, hne⟩
    rw [← h]
    exact World.pid?_congr hfiles
  | stop =>
    have hends : StopEnds flaky pidfile w exchanges result v := stop_ends happens
    cases hends with
    | unread answer fault v kind files unnamed =>
      rw [← h]
      exact World.pid?_congr (congrFun files pidfile)
    | kept p answer rest fault v named asked kind files =>
      rw [← h]
      exact World.pid?_congr (congrFun files pidfile)
    | removed p answer rest v named asked signalled files =>
      rw [← h] at hstop
      exact absurd named.symm hstop

theorem pid?_of_undisturbed (h : Run flaky pidfile first turns world) {pid : Nat}
    (hpid : Undisturbed pidfile pid turns) : world.pid? pidfile = some pid := by
  induction h with
  | none =>
    obtain ⟨earlier, t, later, hnil, -⟩ := hpid
    simp at hnil
  | turn past happens ih =>
    rcases since_snoc.1 hpid with hstarted | ⟨⟨hstop, hwrite⟩, hpast⟩
    · exact happens.pid?_of_started hstarted
    · exact happens.pid?_of_not_overwrites (ih hpast) hstop hwrite

/-- On a sound disk a service is on record only as long as nobody has overwritten its record. -/
theorem undisturbed_of_pid? (h : Run False pidfile first turns world) {pid : Nat}
    (hsince : Since (fun t => t.started? = some pid)
      (fun t => t.spawned? ≠ some pid ∧ t.stopped? ≠ some pid) turns)
    (hpid : world.pid? pidfile = some pid) : Undisturbed pidfile pid turns := by
  induction h with
  | none =>
    obtain ⟨earlier, t, later, hnil, -⟩ := hsince
    simp at hnil
  | turn past happens ih =>
    refine since_snoc.2 ?_
    rcases since_snoc.1 hsince with hstarted | ⟨⟨hspawn, hstop⟩, hpast⟩
    · exact Or.inl hstarted
    · right
      cases happens.effect with
      | none recorded started stopped files =>
        rw [World.pid?_congr (congrFun files pidfile)] at hpid
        exact ⟨⟨hstop, fun hwrite => hwrite.2 (congrFun files pidfile)⟩, ih hpast hpid⟩
      | spoiled flaky => exact flaky.elim
      | recorded p positive bounded recorded spawned started stopped files =>
        rw [World.pid?_of_text positive bounded (by rw [files, World.put_files_self])] at hpid
        exact absurd (spawned.trans hpid) hspawn
      | removed p recorded started stopped named files =>
        rw [World.pid?, files, World.put_files_self] at hpid
        cases hpid

/-! ## Runs in which starts take care -/

theorem exposed_snoc {t : Turn} (happens : t.Happens flaky pidfile) {pid : Nat}
    (h : Exposed pid (turns ++ [t]) t.after) :
    t.started? = some pid ∨ t.stopped? ≠ some pid ∧ Exposed pid turns t.before := by
  obtain ⟨hrunning, hsince⟩ := h
  rcases since_snoc.1 hsince with hstarted | ⟨⟨hspawn, hstop⟩, hpast⟩
  · exact Or.inl hstarted
  · have hbefore := (happens.running hrunning).resolve_right hspawn
    exact Or.inr ⟨hstop, hbefore, hpast⟩

theorem undisturbed_of_exclusive (h : Run flaky pidfile first turns world)
    (hexclusive : Exclusive pidfile turns) {pid : Nat} (hpid : Exposed pid turns world) :
    Undisturbed pidfile pid turns := by
  induction h with
  | none =>
    obtain ⟨-, earlier, t, later, hnil, -⟩ := hpid
    simp at hnil
  | @turn turns t past happens ih =>
    refine since_snoc.2 ?_
    rcases exposed_snoc happens hpid with hstarted | ⟨hstop, hpast⟩
    · exact Or.inl hstarted
    · exact Or.inr ⟨⟨hstop, hexclusive turns t [] rfl pid hpast⟩, ih hexclusive.past hpast⟩

/-! ## Reach -/

/-- A stop can reach the service on record, and no other. -/
def Reaches (flaky : Prop) (pidfile : String) (pid : Nat) (world : World) : Prop :=
  (∃ exchanges after, (stop pidfile).Goes (World.May flaky) world exchanges (.ok pid) after) ∧
    ∀ exchanges result after, (stop pidfile).Goes (World.May flaky) world exchanges result after →
      (∀ p, result = .ok p → p = pid ∧ ∃ e ∈ exchanges, signalled? e = some pid) ∧
        ∀ e ∈ exchanges, ∀ p, signalled? e = some p → p = pid

theorem reaches_of_pid? {pid : Nat} (h : world.pid? pidfile = some pid) :
    Reaches flaky pidfile pid world := by
  refine ⟨?_, fun exchanges result after hgoes => ⟨?_, fun e he p hp => ?_⟩⟩
  · have hrun := Dialogue.goes_run (World.may_calm flaky) (stop pidfile) world
    rw [calm_stop h] at hrun
    exact ⟨_, _, hrun⟩
  · rintro p rfl
    have hends : StopEnds flaky pidfile world exchanges (.ok p) after := stop_ends hgoes
    cases hends with
    | removed p answer rest v named asked signalled files =>
      obtain ⟨e, he, hsignalled⟩ := signalled
      rw [h] at named
      obtain rfl := Option.some.inj named
      exact ⟨rfl, e, List.mem_cons_of_mem _ he, hsignalled⟩
  · have happens : Turn.Happens flaky pidfile ⟨.stop, world, exchanges, result, after⟩ := hgoes
    exact Option.some.inj ((happens.signalled he hp).1.symm.trans h)

/-- No stop signals the process or returns it. -/
def OutOfReach (flaky : Prop) (pidfile : String) (pid : Nat) (world : World) : Prop :=
  ∀ exchanges result after, (stop pidfile).Goes (World.May flaky) world exchanges result after →
    result ≠ .ok pid ∧ ∀ e ∈ exchanges, signalled? e ≠ some pid

theorem outOfReach_of_pid?_ne {pid : Nat} (h : world.pid? pidfile ≠ some pid) :
    OutOfReach flaky pidfile pid world := by
  refine fun exchanges result after hgoes => ⟨?_, fun e he hp => ?_⟩
  · rintro rfl
    have hends : StopEnds flaky pidfile world exchanges (.ok pid) after := stop_ends hgoes
    cases hends with
    | removed p answer rest v named asked signalled files => exact h named
  · have happens : Turn.Happens flaky pidfile ⟨.stop, world, exchanges, result, after⟩ := hgoes
    exact h (happens.signalled he hp).1

/-! ## Lost services -/

/-- On a sound disk a service that is not on record comes back there only as a new child. -/
theorem Turn.Happens.pid?_ne {t : Turn} (happens : t.Happens False pidfile) {pid : Nat}
    (h : t.before.pid? pidfile ≠ some pid) (hspawn : t.spawned? ≠ some pid) :
    t.after.pid? pidfile ≠ some pid := by
  cases happens.effect with
  | none recorded started stopped files => rwa [World.pid?_congr (congrFun files pidfile)]
  | spoiled flaky => exact flaky.elim
  | recorded p positive bounded recorded spawned started stopped files =>
    rw [World.pid?_of_text positive bounded (by rw [files, World.put_files_self]), ← spawned]
    exact hspawn
  | removed p recorded started stopped named files =>
    intro hsome
    rw [World.pid?, files, World.put_files_self] at hsome
    cases hsome

theorem Run.pid?_ne (h : Run False pidfile first turns world) {pid : Nat}
    (hfirst : first.pid? pidfile ≠ some pid) (hspawn : ∀ t ∈ turns, t.spawned? ≠ some pid) :
    world.pid? pidfile ≠ some pid := by
  induction h with
  | none => exact hfirst
  | turn past happens ih =>
    obtain ⟨hpast, hturn⟩ := List.forall_mem_append.1 hspawn
    exact happens.pid?_ne (ih hpast) (hturn _ List.mem_cons_self)

/-- The child that a start returned is on record, and no stop reaches another service: on a sound
disk none ever will, unless a new child has its number. -/
structure Supersedes (flaky : Prop) (pidfile : String) (pid : Nat) (after : World) : Prop where
  onRecord : after.pid? pidfile = some pid
  lost : ∀ p, p ≠ pid → OutOfReach flaky pidfile p after
  forGood : ¬ flaky → ∀ p, p ≠ pid → ∀ later world, Run flaky pidfile after later world →
    (∀ t ∈ later, t.spawned? ≠ some p) → OutOfReach flaky pidfile p world

theorem Turn.Happens.supersedes {t : Turn} (happens : t.Happens flaky pidfile) {pid : Nat}
    (h : t.started? = some pid) : Supersedes flaky pidfile pid t.after := by
  have hrecord : t.after.pid? pidfile = some pid := happens.pid?_of_started h
  have hother : ∀ p, p ≠ pid → t.after.pid? pidfile ≠ some p := by
    intro p hp hsome
    exact hp (Option.some.inj (hsome.symm.trans hrecord))
  refine ⟨hrecord, fun p hp => outOfReach_of_pid?_ne (hother p hp), ?_⟩
  intro hsound p hp later world hrun hspawn
  obtain rfl : flaky = False := by simpa using hsound
  exact outOfReach_of_pid?_ne (hrun.pid?_ne (hother p hp) hspawn)

/-- Whatever is on record, a system with a number to spare may let a start return. -/
theorem exists_started (flaky : Prop) (pidfile : String) (launch : Launch) (foreground : Bool)
    (hle : world.freshPid ≤ PidFile.greatestPid) :
    ∃ t : Turn, t.before = world ∧ t.order = .start launch foreground ∧
      t.Happens flaky pidfile ∧ t.started? = some world.freshPid := by
  refine ⟨calmTurn pidfile (.start launch foreground) world, rfl, rfl,
    calmTurn_happens flaky pidfile _ world, ?_⟩
  have hstart := congrArg Prod.fst (@calm_start pidfile world launch foreground hle)
  simp only [calmTurn, Order.conversation, hstart, Turn.started?]

/-! ## Ownership -/

theorem exposed_on_record (h : Run flaky pidfile first turns world) :
    (Exclusive pidfile turns →
      (∀ pid, Exposed pid turns world →
        world.pid? pidfile = some pid ∧ Reaches flaky pidfile pid world) ∧
      ∀ p q, Exposed p turns world → Exposed q turns world → p = q) ∧
    (∀ pid, Exposed pid turns world →
      (Undisturbed pidfile pid turns → world.pid? pidfile = some pid) ∧
      (¬ flaky → world.pid? pidfile = some pid → Undisturbed pidfile pid turns)) ∧
    (world.freshPid ≤ PidFile.greatestPid → ∀ launch foreground, ∃ t : Turn, t.before = world ∧
      t.order = .start launch foreground ∧ t.Happens flaky pidfile ∧
      t.started? = some world.freshPid) ∧
    ∀ t : Turn, t.before = world → t.Happens flaky pidfile → ∀ pid, t.started? = some pid →
      Supersedes flaky pidfile pid t.after := by
  refine ⟨fun hexclusive => ?_, fun pid hpid => ⟨pid?_of_undisturbed h, fun hsound hrecord => ?_⟩,
    fun hle launch foreground => exists_started flaky pidfile launch foreground hle,
    fun t _ happens pid => happens.supersedes⟩
  · have hrecord : ∀ pid, Exposed pid turns world → world.pid? pidfile = some pid :=
      fun pid hpid => pid?_of_undisturbed h (undisturbed_of_exclusive h hexclusive hpid)
    refine ⟨fun pid hpid => ⟨hrecord pid hpid, reaches_of_pid? (hrecord pid hpid)⟩, ?_⟩
    intro p q hp hq
    exact Option.some.inj ((hrecord p hp).symm.trans (hrecord q hq))
  · obtain rfl : flaky = False := by simpa using hsound
    exact undisturbed_of_pid? h hpid.2 hrecord

/-- A service that has ended leaves a record behind that the next start may take over. -/
theorem exposed_on_record_restarted :
    let orders : List Order :=
      [.start ⟨"java", ["-f"], "/opt/ecc"⟩ true, .start ⟨"java", [], "/opt/ecc"⟩ false]
    let first : World := ⟨fun _ => none, []⟩
    let turns := calmTurns "ecc.pid" orders first
    let world := calmEnd "ecc.pid" orders first
    Run False "ecc.pid" first turns world ∧ Exclusive "ecc.pid" turns ∧ Exposed 1 turns world ∧
      world.pid? "ecc.pid" = some 1 ∧ Reaches False "ecc.pid" 1 world ∧
      Undisturbed "ecc.pid" 1 turns := by
  intro orders first turns world
  have hrun : Run False "ecc.pid" first turns world := calm_run False "ecc.pid" orders first
  have hexclusive : Exclusive "ecc.pid" turns := by
    intro earlier t later hturns pid hpid
    rcases earlier with - | ⟨u, earlier⟩
    · obtain ⟨-, earlier, t, later, hnil, -⟩ := hpid
      simp at hnil
    · -- Nothing runs when the second start is made.
      rcases earlier with - | ⟨v, earlier⟩
      · obtain ⟨-, ht⟩ := List.cons.inj hturns
        obtain ⟨rfl, -⟩ := List.cons.inj ht
        cases hpid.1
      · have hlength := congrArg List.length hturns
        simp [turns, orders, calmTurns] at hlength
  have hexposed : Exposed 1 turns world := ⟨by decide, [_], _, [], rfl, rfl, by simp⟩
  obtain ⟨hexclusiveRun, hevery, -⟩ := exposed_on_record hrun
  obtain ⟨hrecord, hreaches⟩ := (hexclusiveRun hexclusive).1 1 hexposed
  exact ⟨hrun, hexclusive, hexposed, hrecord, hreaches, (hevery 1 hexposed).2 id hrecord⟩

/-- Nothing keeps a second start from taking the record over. -/
theorem second_start_loses_first :
    let orders : List Order :=
      [.start ⟨"sleep", ["30"], "/"⟩ false, .start ⟨"sleep", ["30"], "/"⟩ false]
    let first : World := ⟨fun _ => none, []⟩
    let turns := calmTurns "ecc.pid" orders first
    let world := calmEnd "ecc.pid" orders first
    Run False "ecc.pid" first turns world ∧ Exposed 1 turns world ∧ Exposed 2 turns world ∧
      ¬ (∀ pid, Exposed pid turns world → world.pid? "ecc.pid" = some pid) ∧
      ¬ Reaches False "ecc.pid" 1 world := by
  intro orders first turns world
  have hrunning : world.running = [2, 1] := rfl
  have hone : Exposed 1 turns world := by
    refine ⟨by simp [hrunning], [], _, [_], rfl, rfl, ?_⟩
    intro u hu
    rw [List.mem_singleton.1 hu]
    exact ⟨by decide, by decide⟩
  have htwo : Exposed 2 turns world := by
    refine ⟨by simp [hrunning], [_], _, [], rfl, rfl, ?_⟩
    simp
  have hpid : world.pid? "ecc.pid" = some 2 :=
    World.pid?_of_text (by decide) (by decide) rfl
  refine ⟨calm_run False "ecc.pid" orders first, hone, htwo, fun hall => ?_, fun hreaches => ?_⟩
  · have hwrong := hall 1 hone
    rw [hpid] at hwrong
    cases hwrong
  · obtain ⟨⟨exchanges, after, hgoes⟩, -⟩ := hreaches
    have hother : world.pid? "ecc.pid" ≠ some 1 := by
      rw [hpid]
      decide
    exact (outOfReach_of_pid?_ne hother exchanges _ after hgoes).1 rfl

end RepairConsole.Supervisor
