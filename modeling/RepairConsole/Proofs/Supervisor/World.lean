import RepairConsole.Proofs.Course
import RepairConsole.Supervisor.Start
import RepairConsole.Supervisor.Stop
/-!
# The world of a supervisor

Files by their paths, and the processes that starts have brought to life. Nobody but the
supervisor writes the files. What the system does is left open wherever a caller cannot know
it: whether a program starts and under which number, whether a file can be opened, what the
output takes, how a relay ends, how a signal fares, and when a process ends by itself.
-/

namespace RepairConsole.Supervisor

structure World where
  /-- What a file holds; `none` where there is no file. -/
  files : String → Option ByteArray
  /-- The processes that were started and have not ended. -/
  running : List Nat

namespace World

def put (w : World) (path : String) (file : Option ByteArray) : World :=
  { w with files := fun p => if p = path then file else w.files p }

def without (w : World) (pid : Nat) : World :=
  { w with running := w.running.filter (· != pid) }

@[simp] theorem put_files_self (w : World) (path : String) (file : Option ByteArray) :
    (w.put path file).files path = file := by
  simp [put]

@[simp] theorem put_running (w : World) (path : String) (file : Option ByteArray) :
    (w.put path file).running = w.running := rfl

@[simp] theorem without_files (w : World) (pid : Nat) : (w.without pid).files = w.files := rfl

@[simp] theorem mem_running_without {w : World} {pid p : Nat} :
    p ∈ (w.without pid).running ↔ p ∈ w.running ∧ p ≠ pid := by
  simp [without]

/-- A world with a process on record. -/
def recorded (pidfile : String) (pid : Nat) : World where
  files path := if path = pidfile then some (PidFile.text pid).toUTF8 else none
  running := [pid]

theorem recorded_files (pidfile : String) (pid : Nat) :
    (recorded pidfile pid).files pidfile = some (PidFile.text pid).toUTF8 :=
  if_pos rfl

/-- What a request may be answered, and what that leaves. A `flaky` disk may break off in the
middle of writing a file that it opened, and fail to read a file that is there; on a sound one
neither happens. -/
def Reply (flaky : Prop) : (q : Request) → World → q.Answer → World → Prop
  | .spawn _ _, w, .ok pid, v =>
    0 < pid ∧ pid ≤ PidFile.greatestPid ∧ pid ∉ w.running ∧
      v = { w with running := pid :: w.running }
  | .spawn _ _, w, .error _, v => v = w
  | .writeFile path contents, w, .ok (), v => v = w.put path (some contents.toUTF8)
  | .writeFile path _, w, .error _, v =>
    v = w ∨ flaky ∧ ∃ torn : ByteArray, v = w.put path (some torn)
  | .readFile path, w, .ok bytes, v => w.files path = some bytes ∧ v = w
  | .readFile path, w, .error _, v => (w.files path = none ∨ flaky) ∧ v = w
  | .removeFile path, w, .ok (), v => w.files path ≠ none ∧ v = w.put path none
  | .removeFile path, w, .error error, v =>
    (error = .notFound → w.files path = none) ∧ v = w
  | .discard pid, w, (), v => v = w.without pid
  | .print _, w, _, v => v = w
  | .relay _, w, _, v => v = w
  | .await pid, w, .ok (), v => v = w.without pid
  | .await _, w, .error _, v => v = w
  | .terminate _, w, _, v => v = w

/-- Before a request is answered any processes may have ended. -/
def May (flaky : Prop) (q : Request) (w : World) (answer : q.Answer) (v : World) : Prop :=
  ∃ left : List Nat, left ⊆ w.running ∧ Reply flaky q { w with running := left } answer v

end World

abbrev Exchange := Dialogue.Exchange Request.Answer World

/-- The process that an exchange brought to life. -/
def child? : Exchange → Option Nat
  | ⟨_, .spawn _ _, .ok pid⟩ => some pid
  | _ => none

/-- Whether an exchange replaced the contents of a file. -/
def replaces (path : String) : Exchange → Bool
  | ⟨_, .writeFile written _, .ok ()⟩ => written == path
  | _ => false

/-- The process that an exchange signalled, or tried to. -/
def signalled? : Exchange → Option Nat
  | ⟨_, .terminate pid, _⟩ => some pid
  | _ => none

/-- The child that an exchange killed. -/
def discarded? : Exchange → Option Nat
  | ⟨_, .discard pid, _⟩ => some pid
  | _ => none

/-- A request that leaves all files alone. -/
def Request.leavesFiles : Request → Prop
  | .writeFile _ _ => False
  | .removeFile _ => False
  | _ => True

namespace World

theorem May.files {flaky : Prop} {q : Request} {w v : World} {answer : q.Answer}
    (h : May flaky q w answer v) (hq : q.leavesFiles) : v.files = w.files := by
  obtain ⟨left, -, h⟩ := h
  cases q with
  | writeFile path contents => exact hq.elim
  | removeFile path => exact hq.elim
  | spawn launch foreground =>
    cases answer with
    | ok pid => rw [h.2.2.2]
    | error e => rw [h]
  | readFile path => cases answer <;> rw [h.2]
  | await pid => cases answer <;> cases h <;> rfl
  | discard pid | print bytes | relay pid | terminate pid => cases h; rfl

/-- Only a spawn brings a process to life. -/
theorem May.running {flaky : Prop} {q : Request} {w v : World} {answer : q.Answer}
    (h : May flaky q w answer v) {p : Nat} (hp : p ∈ v.running) :
    p ∈ w.running ∨ child? ⟨w, q, answer⟩ = some p := by
  obtain ⟨left, hleft, h⟩ := h
  cases q with
  | spawn launch foreground =>
    cases answer with
    | ok pid =>
      rw [h.2.2.2] at hp
      rcases List.mem_cons.1 hp with rfl | hp
      · exact Or.inr rfl
      · exact Or.inl (hleft hp)
    | error e =>
      rw [h] at hp
      exact Or.inl (hleft hp)
  | writeFile path contents =>
    left
    cases answer with
    | ok done =>
      rw [h] at hp
      exact hleft hp
    | error e =>
      rcases h with rfl | ⟨-, torn, rfl⟩
      · exact hleft hp
      · exact hleft hp
  | readFile path | removeFile path =>
    left
    cases answer <;> exact hleft (by rw [h.2] at hp; exact hp)
  | discard pid =>
    left
    cases h
    exact hleft (mem_running_without.1 hp).1
  | await pid =>
    left
    cases answer with
    | ok ended =>
      cases h
      exact hleft (mem_running_without.1 hp).1
    | error e =>
      cases h
      exact hleft hp
  | print bytes | relay pid | terminate pid =>
    left
    cases h
    exact hleft hp

/-- A conversation that leaves all files alone finds them the same throughout. -/
theorem files_eq_of_goes {α : Type} {flaky : Prop} {d : Conversation α} {w v : World}
    {exchanges : List Exchange} {result : α} (h : d.Goes (May flaky) w exchanges result v)
    (hd : d.Asks Request.leavesFiles) :
    v.files = w.files ∧ ∀ e ∈ exchanges, e.before.files = w.files :=
  h.keeps (fun _ _ _ _ hq hmay => hmay.files hq) hd

/-- A process that runs in the end ran in the beginning, or was brought to life on the way. -/
theorem running_of_goes {α : Type} {flaky : Prop} {d : Conversation α} {w v : World}
    {exchanges : List Exchange} {result : α} (h : d.Goes (May flaky) w exchanges result v)
    {p : Nat} (hp : p ∈ v.running) : p ∈ w.running ∨ ∃ e ∈ exchanges, child? e = some p := by
  induction d generalizing w exchanges with
  | done r =>
    obtain ⟨-, -, rfl⟩ := h
    exact Or.inl hp
  | ask q next ih =>
    obtain ⟨answer, u, rest, hmay, rfl, hgo⟩ := h
    rcases ih answer hgo with hu | ⟨e, he, hchild⟩
    · rcases hmay.running hu with hw | hchild
      · exact Or.inl hw
      · exact Or.inr ⟨_, List.mem_cons_self, hchild⟩
    · exact Or.inr ⟨e, List.mem_cons_of_mem _ he, hchild⟩

end World
end RepairConsole.Supervisor
