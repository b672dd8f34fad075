import RepairConsole.Proofs.Supervisor.Turn
/-!
# A calm system

A system on which all that can succeed does. It may behave so on any disk, so every order can be
carried out to its end in every world.
-/

namespace RepairConsole.Supervisor

open Dialogue

namespace World

/-- A number that no running process has. -/
def freshPid (w : World) : Nat := w.running.max?.getD 0 + 1

theorem freshPid_not_mem (w : World) : w.freshPid ∉ w.running := by
  intro h
  have hle : w.freshPid ≤ w.running.max?.getD 0 := List.le_max?_getD_of_mem h
  rw [freshPid] at hle
  omega

/-- The answers of a calm system. -/
def calm : (q : Request) → World → q.Answer × World
  | .spawn _ _, w =>
    if w.freshPid ≤ PidFile.greatestPid then
      (.ok w.freshPid, { w with running := w.freshPid :: w.running })
    else (.error (.errno 11), w)
  | .writeFile path contents, w => (.ok (), w.put path (some contents.toUTF8))
  | .readFile path, w =>
    match w.files path with
    | some bytes => (.ok bytes, w)
    | none => (.error .notFound, w)
  | .removeFile path, w =>
    match w.files path with
    | some _ => (.ok (), w.put path none)
    | none => (.error .notFound, w)
  | .discard pid, w => ((), w.without pid)
  | .print _, w => (.ok (), w)
  | .relay _, w => (.ok .finished, w)
  | .await pid, w => (.ok (), w.without pid)
  | .terminate _, w => (.ok (), w)

variable {w : World}

theorem calm_spawn (launch : Launch) (foreground : Bool) (h : w.freshPid ≤ PidFile.greatestPid) :
    calm (.spawn launch foreground) w =
      (.ok w.freshPid, { w with running := w.freshPid :: w.running }) :=
  if_pos h

theorem calm_readFile {path : String} {bytes : ByteArray} (h : w.files path = some bytes) :
    calm (.readFile path) w = (.ok bytes, w) := by
  simp only [calm, h]

theorem calm_removeFile {path : String} {bytes : ByteArray} (h : w.files path = some bytes) :
    calm (.removeFile path) w = (.ok (), w.put path none) := by
  simp only [calm, h]

theorem may_calm (flaky : Prop) (q : Request) (w : World) :
    May flaky q w (calm q w).1 (calm q w).2 := by
  refine ⟨w.running, fun _ h => h, ?_⟩
  cases q with
  | spawn launch foreground =>
    by_cases hle : w.freshPid ≤ PidFile.greatestPid
    · rw [calm_spawn launch foreground hle]
      exact ⟨Nat.succ_pos _, hle, w.freshPid_not_mem, rfl⟩
    · simp only [calm, if_neg hle]
      rfl
  | readFile path =>
    cases h : w.files path with
    | some bytes =>
      rw [calm_readFile h]
      exact ⟨h, rfl⟩
    | none =>
      simp only [calm, h]
      exact ⟨Or.inl h, rfl⟩
  | removeFile path =>
    cases h : w.files path with
    | some bytes =>
      rw [calm_removeFile h]
      exact ⟨by simp [h], rfl⟩
    | none =>
      simp only [calm, h]
      exact ⟨fun _ => h, rfl⟩
  | writeFile path contents | discard pid | print bytes | relay pid | await pid | terminate pid =>
    rfl

/-- The world with a new process in it, on record. -/
def withChild (w : World) (pidfile : String) : World :=
  { w.put pidfile (some (PidFile.text w.freshPid).toUTF8) with
    running := w.freshPid :: w.running }

end World

/-! ## Orders -/

variable {pidfile : String} {w : World}

theorem calm_start (launch : Launch) (foreground : Bool)
    (hle : w.freshPid ≤ PidFile.greatestPid) :
    (start pidfile launch foreground).run World.calm w =
      (.ok ⟨w.freshPid, pidfile, launch.workingDirectory⟩,
        if foreground then (w.withChild pidfile).without w.freshPid else w.withChild pidfile) := by
  change (ask (Request.spawn launch foreground) _ : Conversation _).run _ _ = _
  rw [run_ask, World.calm_spawn launch foreground hle]
  cases foreground <;> rfl

theorem calm_forget {bytes : ByteArray} (h : w.files pidfile = some bytes) :
    (forget pidfile).run World.calm w = (.ok (), w.put pidfile none) := by
  change (ask (Request.removeFile pidfile) _ : Conversation _).run _ _ = _
  rw [run_ask, World.calm_removeFile h]
  rfl

theorem calm_stop {pid : Nat} (hpid : w.pid? pidfile = some pid) :
    (stop pidfile).run World.calm w = (.ok pid, w.put pidfile none) := by
  obtain ⟨bytes, hfile, hread⟩ := Option.bind_eq_some_iff.1 hpid
  have hpidOf : pidOf pidfile (.ok bytes) = .ok pid := by
    rcases pidOf_ok pidfile bytes with ⟨p, hok, hsome⟩ | ⟨fault, -, -, hnone⟩
    · rw [hok, Option.some.inj (hsome.symm.trans hread)]
    · rw [hnone] at hread
      cases hread
  change ((readPid pidfile).bind _).run _ _ = _
  rw [run_bind, readPid_eq, run_ask, World.calm_readFile hfile, run_done, hpidOf]
  change ((forget pidfile).bind _).run _ _ = _
  rw [run_bind, calm_forget hfile]
  rfl

/-! ## Runs -/

/-- An order as a calm system lets it go. -/
def calmTurn (pidfile : String) (order : Order) (w : World) : Turn where
  order := order
  before := w
  exchanges := (order.conversation pidfile).course World.calm w
  result := ((order.conversation pidfile).run World.calm w).1
  after := ((order.conversation pidfile).run World.calm w).2

/-- Orders one after the other on a calm system. -/
def calmTurns (pidfile : String) : List Order → World → List Turn
  | [], _ => []
  | order :: rest, w =>
    calmTurn pidfile order w :: calmTurns pidfile rest (calmTurn pidfile order w).after

/-- The world in which they end. -/
def calmEnd (pidfile : String) (orders : List Order) (w : World) : World :=
  orders.foldl (fun w order => (calmTurn pidfile order w).after) w

theorem calmTurn_happens (flaky : Prop) (pidfile : String) (order : Order) (w : World) :
    (calmTurn pidfile order w).Happens flaky pidfile :=
  goes_run (World.may_calm flaky) (order.conversation pidfile) w

theorem Run.append_calm {flaky : Prop} {first : World} {turns : List Turn}
    (h : Run flaky pidfile first turns w) (orders : List Order) :
    Run flaky pidfile first (turns ++ calmTurns pidfile orders w) (calmEnd pidfile orders w) := by
  induction orders generalizing turns w with
  | nil =>
    rw [calmTurns, List.append_nil]
    exact h
  | cons order rest ih =>
    rw [calmTurns, List.append_cons]
    exact ih (.turn (t := calmTurn pidfile order w) h (calmTurn_happens flaky pidfile order w))

theorem calm_run (flaky : Prop) (pidfile : String) (orders : List Order) (first : World) :
    Run flaky pidfile first (calmTurns pidfile orders first) (calmEnd pidfile orders first) :=
  Run.none.append_calm orders

end RepairConsole.Supervisor
