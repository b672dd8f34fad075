import RepairConsole.Proofs.Supervisor.Stages
/-!
# A stop among others

Between any two requests of a stop others may be at the files and the processes. All the same a stop
does all of its work or leaves the record as it is, and does not signal before it has told so.
-/

namespace RepairConsole.Supervisor

open Dialogue

/-! ## Others -/

/-- A removal that fails tells whether there was a file. -/
def Candid : (q : Request) → World → q.Answer → Prop
  | .removeFile path, w, .error error => w.files path = none → error = .notFound
  | _, _, _ => True

/-- Before a request is answered others have done what they may do to the world. -/
def World.Among (others : World → World → Prop) (flaky : Prop) (q : Request) (w : World)
    (answer : q.Answer) (v : World) : Prop :=
  ∃ u, others w u ∧ May flaky q u answer v ∧ Candid q u answer

/-! ## The record in the end -/

variable {others : World → World → Prop} {flaky : Prop} {pidfile : String} {w v : World}
  {exchanges : List Exchange} {result : Except Fault Nat}

theorem World.Among.removed_iff {removal : Except SystemError Unit}
    (h : World.Among others flaky (.removeFile pidfile) w removal v) :
    removal = .ok () ∨ removal = .error .notFound ↔ v.files pidfile = none := by
  obtain ⟨u, -, ⟨left, -, hreply⟩, hcandid⟩ := h
  cases removal with
  | ok done =>
    obtain ⟨-, rfl⟩ := hreply
    exact iff_of_true (Or.inl rfl) (World.put_files_self _ _ _)
  | error e =>
    obtain ⟨hnone, rfl⟩ := hreply
    constructor
    · rintro (h | h)
      · cases h
      · exact hnone (Except.error.inj h)
    · intro hfile
      rw [hcandid hfile]
      exact Or.inr rfl

theorem Stages.ok_iff (h : Stages (World.Among others flaky) pidfile w v exchanges result)
    (pid : Nat) :
    result = .ok pid ↔
      (∃ e ∈ exchanges, pidRead? e = some pid) ∧
      output exchanges = ("Killing ecc with pid " ++ Nat.repr pid ++ "\n").toUTF8 ∧
      (∃ e ∈ exchanges, reached? e = some pid) ∧ v.files pidfile = none := by
  cases h with
  | unread reading unnamed =>
    refine iff_of_false (by simp) ?_
    simp [reached?]
  | untold reading named announced =>
    refine iff_of_false (by simp) ?_
    cases announced <;> simp [reached?]
  | unreached reading named announced refused =>
    refine iff_of_false (by simp) ?_
    cases announced
    simp [reached?, refused]
  | @reached answer u x y p prints reply removal reading named announced reached removing =>
    rw [conclusion_eq_ok_iff, removing.removed_iff]
    constructor
    · rintro ⟨rfl, hfile⟩
      refine ⟨⟨_, List.mem_cons_self, pidOf_eq_ok_iff.1 named⟩, ?_, ?_, hfile⟩
      · cases announced
        exact output_line _
      · exact ⟨⟨x, .terminate p, reply⟩, by simp, reached⟩
    · rintro ⟨-, -, ⟨e, he, hreached⟩, hfile⟩
      refine ⟨?_, hfile⟩
      rcases announced.unsignalled_or_mem he with ⟨-, -, hnone⟩ | he
      · rw [hnone] at hreached
        cases hreached
      · simp only [List.mem_cons, List.not_mem_nil, or_false] at he
        rcases he with rfl | rfl
        · exact Option.some.inj (reached.symm.trans hreached)
        · cases hreached

/-- Where nobody else changes a file, the process that is read is the one on record, and on a sound
disk one that is on record is read. -/
theorem World.Among.pidRead?_iff (hquiet : ∀ a b, others a b → b.files = a.files)
    {answer : Except SystemError ByteArray}
    (h : World.Among others flaky (.readFile pidfile) w answer v) (pid : Nat) :
    (pidRead? ⟨w, .readFile pidfile, answer⟩ = some pid → w.pid? pidfile = some pid) ∧
      (¬flaky → w.pid? pidfile = some pid →
        pidRead? ⟨w, .readFile pidfile, answer⟩ = some pid) := by
  obtain ⟨u, hothers, ⟨left, -, hreply⟩, -⟩ := h
  rw [World.pid?, ← hquiet w u hothers]
  cases answer with
  | error e =>
    refine ⟨fun hread => ?_, fun hsound hpid => ?_⟩
    · cases hread
    · have hnone : u.files pidfile = none := hreply.1.resolve_right hsound
      rw [hnone] at hpid
      cases hpid
  | ok bytes =>
    have hfile : u.files pidfile = some bytes := hreply.1
    rw [hfile]
    exact ⟨id, fun _ => id⟩

/-- What holds of a stop, whoever else is at the files and the processes. -/
structure AllOrNothing (others : World → World → Prop) (flaky : Prop) (pidfile : String)
    (w v : World) (exchanges : List Exchange) (result : Except Fault Nat) : Prop where
  unread : (∀ e ∈ exchanges, pidRead? e = none) →
    FailsAs .notRunning result ∧ Untouched exchanges ∧
      ∀ e ∈ exchanges, ¬e.request.prints ∧ signalled? e = none
  untold : (∃ e ∈ exchanges, Refuses e) →
    FailsAs .io result ∧ Untouched exchanges ∧ ∀ e ∈ exchanges, signalled? e = none
  unreached : ∀ e ∈ exchanges, ∀ error, signalError? e = some error → error ≠ .noSuchProcess →
    FailsAs (if error = .notPermitted ∨ error = .accessDenied then .permission else .io) result ∧
      Untouched exchanges
  done : ∀ pid, result = .ok pid ↔
    (∃ e ∈ exchanges, pidRead? e = some pid) ∧
    output exchanges = ("Killing ecc with pid " ++ Nat.repr pid ++ "\n").toUTF8 ∧
    (∃ e ∈ exchanges, reached? e = some pid) ∧ v.files pidfile = none
  once : (exchanges.filterMap signalled?).length ≤ 1
  told : ∀ e ∈ exchanges, ∀ pid, signalled? e = some pid →
    output (exchanges.takeWhile fun e => (signalled? e).isNone) =
      ("Killing ecc with pid " ++ Nat.repr pid ++ "\n").toUTF8
  /-- Where nobody else changes a file. -/
  alone : (∀ a b, others a b → b.files = a.files) →
    (Untouched exchanges → v.files = w.files) ∧
    ∀ pid, ((∃ e ∈ exchanges, pidRead? e = some pid) → w.pid? pidfile = some pid) ∧
      (¬flaky → w.pid? pidfile = some pid → ∃ e ∈ exchanges, pidRead? e = some pid)

/-- A stop that does not come to its end has left the file as it was; it signals one process at
most, and only when the operator has been told. -/
theorem stop_all_or_nothing
    (h : (stop pidfile).Goes (World.Among others flaky) w exchanges result v) :
    AllOrNothing others flaky pidfile w v exchanges result where
  unread hnone := by
    obtain ⟨hfails, answer, rfl⟩ := (stages_of_goes h).of_unread hnone
    exact ⟨hfails, by simp [Untouched, Request.leavesFiles], by
      simp [Request.prints, signalled?]⟩
  untold := (stages_of_goes h).of_refuses
  unreached _ he _ := (stages_of_goes h).of_signalError he
  done := (stages_of_goes h).ok_iff
  once := (stages_of_goes h).length_signalled
  told _ he _ hpid := ((stages_of_goes h).told_before_signal he hpid).1
  alone hquiet := by
    refine ⟨fun huntouched => h.keeps_of_asked ?_ huntouched, fun pid => ?_⟩
    · rintro q a answer b hq ⟨u, hothers, hmay, -⟩
      rw [hmay.files hq, hquiet a u hothers]
    · obtain ⟨answer, u, rest, reading, rfl, hrest⟩ := (stages_of_goes h).exists_reading
      obtain ⟨hread, hrecorded⟩ := reading.pidRead?_iff hquiet pid
      refine ⟨?_, fun hsound hpid => ⟨_, List.mem_cons_self, hrecorded hsound hpid⟩⟩
      rintro ⟨e, he, hpid⟩
      rcases List.mem_cons.1 he with rfl | he
      · exact hread hpid
      · rw [hrest e he] at hpid
        cases hpid

theorem pidOf_text {pid : Nat} (hpos : 0 < pid) (hle : pid ≤ PidFile.greatestPid) :
    pidOf pidfile (.ok (PidFile.text pid).toUTF8) = .ok pid := by
  simp only [pidOf, Except.bind, SystemError.textOf_toUTF8, PidFile.read?_text hpos hle]

theorem goes_of_told {pid : Nat} (hpos : 0 < pid) (hle : pid ≤ PidFile.greatestPid)
    (hfile : w.files pidfile = some (PidFile.text pid).toUTF8) (hothers : others w w)
    {rest : List Exchange}
    (h : (settle pidfile pid).Goes (World.Among others flaky) w rest result v) :
    ∃ before, (stop pidfile).Goes (World.Among others flaky) w (before ++ rest) result v := by
  have hprints : ∀ bytes, World.Among others flaky (.print bytes) w (.ok ()) w := fun bytes =>
    ⟨w, hothers, ⟨w.running, fun _ h => h, rfl⟩, trivial⟩
  rw [stop_eq]
  refine ⟨[⟨w, .readFile pidfile, .ok (PidFile.text pid).toUTF8⟩,
      ⟨w, .print (stopLine pid).toUTF8, .ok ()⟩, ⟨w, .print "\n".toUTF8, .ok ()⟩],
    .ok (PidFile.text pid).toUTF8, w, _,
    ⟨w, hothers, ⟨w.running, fun _ h => h, hfile, rfl⟩, trivial⟩, rfl, ?_⟩
  change (proceed pidfile (pidOf pidfile _)).Goes _ _ _ _ _
  rw [pidOf_text hpos hle]
  exact ⟨.ok (), w, _, hprints _, rfl, .ok (), w, _, hprints _, rfl, h⟩

/-- The process has ended and somebody has removed its record before the stop could. -/
theorem stop_all_or_nothing_outrun :
    ∃ exchanges v, (stop "ecc.pid").Goes (World.Among (fun _ _ => True) False)
        (.recorded "ecc.pid" 7) exchanges (.ok 7) v ∧
      AllOrNothing (fun _ _ => True) False "ecc.pid" (.recorded "ecc.pid" 7) v exchanges
        (.ok 7) := by
  have hsettles : (settle "ecc.pid" 7).Goes (World.Among (fun _ _ => True) False)
      (.recorded "ecc.pid" 7)
      [⟨.recorded "ecc.pid" 7, .terminate 7, .error .noSuchProcess⟩,
        ⟨.recorded "ecc.pid" 7, .removeFile "ecc.pid", .error .notFound⟩]
      (.ok 7) ⟨fun _ => none, []⟩ := by
    refine ⟨.error .noSuchProcess, .recorded "ecc.pid" 7, _,
      ⟨.recorded "ecc.pid" 7, trivial, ⟨[7], fun _ h => h, rfl⟩, trivial⟩, rfl, ?_⟩
    refine ⟨.error .notFound, ⟨fun _ => none, []⟩, _,
      ⟨⟨fun _ => none, []⟩, trivial, ⟨[], fun _ h => h, fun _ => rfl, rfl⟩, fun _ => rfl⟩, rfl, ?_⟩
    exact ⟨rfl, rfl, rfl⟩
  obtain ⟨before, h⟩ :=
    goes_of_told (by decide) (by decide) (World.recorded_files _ _) trivial hsettles
  exact ⟨_, _, h, stop_all_or_nothing h⟩

/-- Where access is denied, which is not the one error for a process of somebody else, a stop does
not fail as it does on any other error. -/
theorem denied_access_is_permission :
    ∃ exchanges result v, (stop "ecc.pid").Goes (World.Among (fun _ _ => True) False)
        (.recorded "ecc.pid" 7) exchanges result v ∧
      (∃ e ∈ exchanges, signalError? e = some .accessDenied) ∧
      SystemError.accessDenied ≠ .noSuchProcess ∧ SystemError.accessDenied ≠ .notPermitted ∧
      ¬FailsAs .io result := by
  have hsettles : (settle "ecc.pid" 7).Goes (World.Among (fun _ _ => True) False)
      (.recorded "ecc.pid" 7) [⟨.recorded "ecc.pid" 7, .terminate 7, .error .accessDenied⟩]
      (.error (.signalDenied 7 "ecc.pid" .accessDenied)) (.recorded "ecc.pid" 7) := by
    refine ⟨.error .accessDenied, .recorded "ecc.pid" 7, _,
      ⟨.recorded "ecc.pid" 7, trivial, ⟨[7], fun _ h => h, rfl⟩, trivial⟩, rfl, ?_⟩
    exact ⟨rfl, rfl, rfl⟩
  obtain ⟨before, h⟩ :=
    goes_of_told (by decide) (by decide) (World.recorded_files _ _) trivial hsettles
  refine ⟨_, _, _, h, ⟨_, List.mem_append_right _ List.mem_cons_self, rfl⟩, by decide,
    by decide, ?_⟩
  rintro ⟨fault, hfault, hkind⟩
  cases hfault
  cases hkind

end RepairConsole.Supervisor
