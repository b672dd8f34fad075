import RepairConsole.Proofs.Supervisor.Calm
import RepairConsole.Proofs.Supervisor.Stages
/-!
# Who receives a signal

The process that a signal reaches is the one whose number stands in the pid file, and it is one
process: no contents of that file make a number that the system would take for a group of them.
-/

namespace RepairConsole.Supervisor

open Dialogue

variable {may : (q : Request) → World → q.Answer → World → Prop} {flaky : Prop} {pidfile : String}
  {w v : World} {exchanges : List Exchange} {result : Except Fault Nat}

theorem toInt_signalTarget {pid : Nat} (h : pid ≤ PidFile.greatestPid) :
    (signalTarget pid).toInt = pid := by
  have hlt : pid < 2 ^ 31 := Nat.lt_succ_of_le h
  rw [signalTarget, UInt32.toInt32_ofNat', Int32.toInt_ofNat_of_lt hlt]

/-- The bytes name a process, and the system is told its number, which is not that of a group. -/
structure Hits (bytes : ByteArray) (pid : Nat) : Prop where
  recorded : PidFile.Records bytes pid
  same : (signalTarget pid).toInt = pid
  single : 0 < (signalTarget pid).toInt

theorem hits_of_records {bytes : ByteArray} {pid : Nat} (h : PidFile.Records bytes pid) :
    Hits bytes pid := by
  obtain ⟨contents, -, -, hpos, hle⟩ := id h
  have hsame : (signalTarget pid).toInt = pid := toInt_signalTarget hle
  exact ⟨h, hsame, by omega⟩

theorem World.pid?_eq_some_iff {pid : Nat} :
    w.pid? pidfile = some pid ↔
      ∃ bytes, w.files pidfile = some bytes ∧ PidFile.Records bytes pid := by
  rw [World.pid?, Option.bind_eq_some_iff]
  simp only [PidFile.records_iff]

theorem exists_contents_of_pidRead? {e : Exchange} {pid : Nat} (h : pidRead? e = some pid) :
    ∃ path bytes, e = ⟨e.before, .readFile path, .ok bytes⟩ ∧ PidFile.Records bytes pid := by
  obtain ⟨u, q, answer⟩ := e
  cases q with
  | readFile path =>
    cases answer with
    | error e => cases h
    | ok bytes => exact ⟨path, bytes, rfl, PidFile.records_iff.1 h⟩
  | _ => cases h

/-! ## Readings -/

theorem readPid_ok_iff (h : (readPid pidfile).Goes (World.May False) w exchanges result v)
    (pid : Nat) :
    result = .ok pid ↔ ∃ bytes, w.files pidfile = some bytes ∧ PidFile.Records bytes pid := by
  rw [← World.pid?_eq_some_iff]
  obtain ⟨-, -, ⟨p, rfl, hp⟩ | ⟨⟨fault, rfl, -⟩, hnone⟩⟩ := readPid_goes h
  · rw [hp, Option.some_inj, Except.ok.injEq]
  · rw [hnone.resolve_right id]
    exact iff_of_false nofun nofun

theorem readPid_fails (h : (readPid pidfile).Goes (World.May flaky) w exchanges result v)
    (hnot : ∀ pid, result ≠ .ok pid) : FailsAs .notRunning result := by
  obtain ⟨-, -, ⟨p, rfl, -⟩ | ⟨hfails, -⟩⟩ := readPid_goes h
  · exact (hnot p rfl).elim
  · exact hfails

/-- What was written for a process is read back. -/
theorem readPid_of_writeFile {pid : Nat} (hpos : 1 ≤ pid) (hle : pid ≤ 2147483647)
    {u : World} {writing : List Exchange}
    (hwrite : (writeFile pidfile (PidFile.text pid)).Goes (World.May flaky) w writing (.ok ()) u)
    (hread : (readPid pidfile).Goes (World.May False) u exchanges result v) :
    result = .ok pid := by
  obtain ⟨answer, x, rest, ⟨left, -, hreply⟩, -, -, hanswer, rfl⟩ := hwrite
  subst hanswer
  have hfile : u.files pidfile = some (PidFile.text pid).toUTF8 := by
    rw [hreply, World.put_files_self]
  rw [readPid_ok_iff hread, ← World.pid?_eq_some_iff]
  exact World.pid?_of_text hpos hle hfile

/-! ## Signals -/

theorem Stages.hits (h : Stages may pidfile w v exchanges result) {e : Exchange} {pid : Nat}
    (he : e ∈ exchanges) (hpid : signalled? e = some pid) :
    ∃ bytes, ⟨w, .readFile pidfile, .ok bytes⟩ ∈ exchanges ∧ Hits bytes pid := by
  obtain ⟨-, r, hr, hread⟩ := h.told_before_signal he hpid
  obtain ⟨answer, u, rest, -, rfl, hrest⟩ := h.exists_reading
  rcases List.mem_cons.1 hr with rfl | hr
  · obtain ⟨path, bytes, heq, hrecords⟩ := exists_contents_of_pidRead? hread
    cases heq
    exact ⟨bytes, List.mem_cons_self, hits_of_records hrecords⟩
  · rw [hrest r hr] at hread
    cases hread

theorem Run.hits {first last : World} {turns : List Turn}
    (h : Run flaky pidfile first turns last) {t : Turn} (ht : t ∈ turns) {e : Exchange}
    (he : e ∈ t.exchanges) {pid : Nat} (hpid : signalled? e = some pid) :
    ∃ bytes, e.before.files pidfile = some bytes ∧ Hits bytes pid := by
  induction h with
  | none => cases ht
  | @turn turns t' past happens ih =>
    rcases List.mem_append.1 ht with ht | ht
    · exact ih ht
    · obtain rfl := List.mem_singleton.1 ht
      obtain ⟨hnamed, hfiles⟩ := happens.signalled he hpid
      obtain ⟨bytes, hfile, hrecords⟩ := World.pid?_eq_some_iff.1 hnamed
      exact ⟨bytes, by rw [hfiles, hfile], hits_of_records hrecords⟩

/-- A record is read as the process that its first line names, or not at all; a signal goes to that
process and never to a group; and what a start writes is read back. -/
theorem signal_reaches_recorded (pidfile : String) :
    (∀ w exchanges result v, (readPid pidfile).Goes (World.May False) w exchanges result v →
      (∀ pid, result = .ok pid ↔
        ∃ bytes, w.files pidfile = some bytes ∧ PidFile.Records bytes pid) ∧
      ((∀ pid, result ≠ .ok pid) → FailsAs .notRunning result)) ∧
    (∀ may w exchanges result v, (stop pidfile).Goes may w exchanges result v →
      ∀ e ∈ exchanges, ∀ pid, signalled? e = some pid →
        ∃ bytes, ⟨w, .readFile pidfile, .ok bytes⟩ ∈ exchanges ∧ Hits bytes pid) ∧
    (∀ flaky first turns last, Run flaky pidfile first turns last →
      ∀ t ∈ turns, ∀ e ∈ t.exchanges, ∀ pid, signalled? e = some pid →
        ∃ bytes, e.before.files pidfile = some bytes ∧ Hits bytes pid) ∧
    ∀ pid, 1 ≤ pid → pid ≤ 2147483647 → ∀ flaky w writing u exchanges result v,
      (writeFile pidfile (PidFile.text pid)).Goes (World.May flaky) w writing (.ok ()) u →
      (readPid pidfile).Goes (World.May False) u exchanges result v → result = .ok pid := by
  refine ⟨?_, ?_, ?_, ?_⟩
  · intro w exchanges result v h
    exact ⟨readPid_ok_iff h, readPid_fails h⟩
  · intro may w exchanges result v h e he pid hpid
    exact (stages_of_goes h).hits he hpid
  · intro flaky first turns last h t ht e he pid hpid
    exact h.hits ht he hpid
  · intro pid hpos hle flaky w writing u exchanges result v hwrite hread
    exact readPid_of_writeFile hpos hle hwrite hread

/-- A record written by hand. The blanks, the sign and the zeros make no difference. -/
theorem signal_reaches_recorded_signed :
    ∃ (w : World) (turns : List Turn) (last : World),
      w.files "ecc.pid" = some " +007\r\nold".toUTF8 ∧
      ((readPid "ecc.pid").run World.calm w).1 = .ok 7 ∧
      Run False "ecc.pid" w turns last ∧
      (∃ t ∈ turns, ∃ e ∈ t.exchanges, signalled? e = some 7) ∧
      ∀ t ∈ turns, ∀ e ∈ t.exchanges, ∀ pid, signalled? e = some pid →
        ∃ bytes, e.before.files "ecc.pid" = some bytes ∧ Hits bytes pid := by
  obtain ⟨hreads, -, hruns, -⟩ := signal_reaches_recorded "ecc.pid"
  let w : World := ⟨fun _ => some " +007\r\nold".toUTF8, [7]⟩
  have hrecords : PidFile.Records " +007\r\nold".toUTF8 7 :=
    ⟨_, rfl, PidFile.read?_eq_some_iff.1 (by decide +kernel)⟩
  have hrun : Run False "ecc.pid" w (calmTurns "ecc.pid" [.stop] w) _ := calm_run ..
  refine ⟨w, _, _, rfl, ?_, hrun, ?_, hruns _ _ _ _ hrun⟩
  · exact ((hreads _ _ _ _ (goes_run (World.may_calm False) _ w)).1 7).2 ⟨_, rfl, hrecords⟩
  · have hends := stop_ends (goes_run (World.may_calm False) (stop "ecc.pid") w)
    rw [calm_stop (World.pid?_eq_some_iff.2 ⟨_, rfl, hrecords⟩)] at hends
    generalize hcourse : (stop "ecc.pid").course World.calm w = exchanges at hends
    cases hends with
    | removed pid answer rest v named asked signalled files =>
      obtain ⟨e, he, hpid⟩ := signalled
      refine ⟨calmTurn "ecc.pid" .stop w, List.mem_cons_self, e, ?_, hpid⟩
      change e ∈ (stop "ecc.pid").course World.calm w
      rw [hcourse]
      exact List.mem_cons_of_mem _ he

end RepairConsole.Supervisor
