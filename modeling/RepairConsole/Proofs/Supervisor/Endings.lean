import RepairConsole.Proofs.Supervisor.PidFile
import RepairConsole.Proofs.Supervisor.World
/-!
# How starts and stops end

One statement for each of the two that says all they can do: what they ask, which process they
touch, what they leave in the pid file and what they return. All that holds of every run is
derived from these two.
-/

namespace RepairConsole.Supervisor

open Dialogue

variable {flaky : Prop} {pidfile : String} {w v : World} {exchanges : List Exchange}

def FailsAs {α : Type} (kind : FailureKind) (result : Except Fault α) : Prop :=
  ∃ fault, result = .error fault ∧ fault.failure.kind = kind

/-! ## Lines -/

/-- A request that only prints. -/
def Request.prints : Request → Prop
  | .print _ => True
  | _ => False

theorem announce_asks (line : String) : (announce line).Asks Request.prints := by
  refine ⟨trivial, fun answer => ?_⟩
  cases answer with
  | error e => exact trivial
  | ok done =>
    refine ⟨trivial, fun answer => ?_⟩
    cases answer <;> exact trivial

theorem announce_goes {line : String} {result : Except Fault Unit}
    (h : (announce line).Goes (World.May flaky) w exchanges result v) :
    result = .ok () ∨ ∃ e, result = .error (.outputFailed e) := by
  obtain ⟨answer, u, rest, -, -, h⟩ := h
  cases answer with
  | error e => exact Or.inr ⟨e, h.2.1⟩
  | ok done =>
    obtain ⟨answer, u, rest, -, -, h⟩ := h
    cases answer with
    | error e => exact Or.inr ⟨e, h.2.1⟩
    | ok done => exact Or.inl h.2.1

/-! ## Starts -/

/-- What is left to ask once a child is on record. -/
def Request.attends (pid : Nat) : Request → Prop
  | .print _ => True
  | .relay p => p = pid
  | .await p => p = pid
  | _ => False

theorem Request.attends.leavesFiles {pid : Nat} {q : Request} (h : q.attends pid) :
    q.leavesFiles := by
  cases q <;> trivial

theorem attend_asks (pid : Nat) : (attend pid).Asks (Request.attends pid) := by
  refine ⟨rfl, fun answer => ?_⟩
  cases answer with
  | error e => exact trivial
  | ok ending =>
    cases ending with
    | finished => exact ⟨rfl, fun answer => by cases answer <;> trivial⟩
    | cancelled | failed e => exact trivial

theorem present_asks (pid : Nat) (foreground : Bool) :
    (present pid foreground).Asks (Request.attends pid) := by
  refine ⟨trivial, fun answer => ?_⟩
  cases answer with
  | error e => exact trivial
  | ok done =>
    refine ⟨trivial, fun answer => ?_⟩
    cases answer with
    | error e => exact trivial
    | ok done =>
      cases foreground with
      | true => exact attend_asks pid
      | false => exact trivial

/-- Something went wrong while a child on record was announced or attended to. -/
def Breaks : Exchange → Prop
  | ⟨_, .print _, .error _⟩ => True
  | ⟨_, .relay _, .error _⟩ => True
  | ⟨_, .relay _, .ok (.failed _)⟩ => True
  | ⟨_, .await _, .error _⟩ => True
  | _ => False

/-- Where nothing went wrong there is a value, else an error of input or output. -/
def Concludes {α : Type} (exchanges : List Exchange) (value : α) (result : Except Fault α) :
    Prop :=
  result = .ok value ∧ (∀ e ∈ exchanges, ¬Breaks e) ∨
    FailsAs .io result ∧ ∃ e ∈ exchanges, Breaks e

theorem Concludes.of_breaks {α : Type} {value : α} {result : Except Fault α} {e : Exchange}
    (hresult : FailsAs .io result) (he : e ∈ exchanges) (hbreaks : Breaks e) :
    Concludes exchanges value result :=
  Or.inr ⟨hresult, e, he, hbreaks⟩

theorem Concludes.cons {α : Type} {value : α} {result : Except Fault α} {e : Exchange}
    (h : Concludes exchanges value result) (he : ¬Breaks e) :
    Concludes (e :: exchanges) value result := by
  rcases h with ⟨hresult, hnone⟩ | ⟨hresult, b, hb, hbreaks⟩
  · exact Or.inl ⟨hresult, List.forall_mem_cons.2 ⟨he, hnone⟩⟩
  · exact .of_breaks hresult (List.mem_cons_of_mem _ hb) hbreaks

theorem attend_concludes {pid : Nat} {result : Except Fault Unit}
    (h : (attend pid).Goes (World.May flaky) w exchanges result v) :
    Concludes exchanges () result := by
  obtain ⟨answer, u, rest, -, rfl, h⟩ := h
  cases answer with
  | error e =>
    obtain ⟨rfl, rfl, -⟩ := h
    exact .of_breaks ⟨_, rfl, rfl⟩ List.mem_cons_self trivial
  | ok ending =>
    cases ending with
    | finished =>
      obtain ⟨answer, x, rest, -, rfl, h⟩ := h
      refine Concludes.cons ?_ id
      cases answer with
      | error e =>
        obtain ⟨rfl, rfl, -⟩ := h
        exact .of_breaks ⟨_, rfl, rfl⟩ List.mem_cons_self trivial
      | ok ended =>
        obtain ⟨rfl, rfl, -⟩ := h
        exact Or.inl ⟨rfl, by simp [Breaks]⟩
    | cancelled =>
      obtain ⟨rfl, rfl, -⟩ := h
      exact Or.inl ⟨rfl, by simp [Breaks]⟩
    | failed e =>
      obtain ⟨rfl, rfl, -⟩ := h
      exact .of_breaks ⟨_, rfl, rfl⟩ List.mem_cons_self trivial

theorem present_concludes {pid : Nat} {foreground : Bool} {result : Except Fault Unit}
    (h : (present pid foreground).Goes (World.May flaky) w exchanges result v) :
    Concludes exchanges () result := by
  obtain ⟨answer, u, rest, -, rfl, h⟩ := h
  cases answer with
  | error e =>
    obtain ⟨rfl, rfl, -⟩ := h
    exact .of_breaks ⟨_, rfl, rfl⟩ List.mem_cons_self trivial
  | ok done =>
    obtain ⟨answer, x, rest, -, rfl, h⟩ := h
    refine Concludes.cons ?_ id
    cases answer with
    | error e =>
      obtain ⟨rfl, rfl, -⟩ := h
      exact .of_breaks ⟨_, rfl, rfl⟩ List.mem_cons_self trivial
    | ok done =>
      refine Concludes.cons ?_ id
      cases foreground with
      | true => exact attend_concludes h
      | false =>
        obtain ⟨rfl, rfl, -⟩ := h
        exact Or.inl ⟨rfl, nofun⟩

/-- All that a start can do. -/
inductive StartEnds (flaky : Prop) (pidfile : String) (launch : Launch) (foreground : Bool)
    (w : World) : List Exchange → Except Fault Started → World → Prop
  /-- No child came to life. -/
  | unlaunched (error : SystemError) (v : World) (files : v.files = w.files) :
    StartEnds flaky pidfile launch foreground w
      [⟨w, .spawn launch foreground, .error error⟩]
      (.error (.launchFailed launch.program error)) v
  /-- Its number could not be written down, so the child was killed. -/
  | unrecorded (pid : Nat) (error : SystemError) (u₁ u₂ v : World)
    (files : v.files = w.files ∨
      flaky ∧ ∃ torn : ByteArray, v.files = (w.put pidfile (some torn)).files)
    (gone : pid ∉ v.running) :
    StartEnds flaky pidfile launch foreground w
      [⟨w, .spawn launch foreground, .ok pid⟩,
        ⟨u₁, .writeFile pidfile (PidFile.text pid), .error error⟩, ⟨u₂, .discard pid, ()⟩]
      (.error (.recordUnwritten pidfile error)) v
  /-- The child is on record, whatever came afterwards. -/
  | recorded (pid : Nat) (u v : World) (rest : List Exchange) (result : Except Fault Started)
    (asked : ∀ e ∈ rest, e.request.attends pid)
    (files : v.files = (w.put pidfile (some (Nat.repr pid).toUTF8)).files)
    (positive : 0 < pid) (bounded : pid ≤ PidFile.greatestPid)
    (returned : Concludes rest ⟨pid, pidfile, launch.workingDirectory⟩ result) :
    StartEnds flaky pidfile launch foreground w
      (⟨w, .spawn launch foreground, .ok pid⟩ ::
        ⟨u, .writeFile pidfile (PidFile.text pid), .ok ()⟩ :: rest) result v

theorem start_ends {launch : Launch} {foreground : Bool} {result : Except Fault Started}
    (h : (start pidfile launch foreground).Goes (World.May flaky) w exchanges result v) :
    StartEnds flaky pidfile launch foreground w exchanges result v := by
  obtain ⟨answer, u, rest, hspawn, rfl, h⟩ := h
  have hu : u.files = w.files := hspawn.files trivial
  cases answer with
  | error e =>
    obtain ⟨rfl, rfl, rfl⟩ := h
    exact .unlaunched e v hu
  | ok pid =>
    obtain ⟨-, -, hpos, hle, -, -⟩ := hspawn
    obtain ⟨answer, m, rest, ⟨left, -, hwrite⟩, rfl, h⟩ := h
    cases answer with
    | error e =>
      obtain ⟨answer, n, rest, hdiscard, rfl, rfl, rfl, rfl⟩ := h
      refine .unrecorded pid e u m v ?_ ?_
      · rw [hdiscard.files trivial, ← hu]
        rcases hwrite with rfl | ⟨hflaky, torn, rfl⟩
        · exact Or.inl rfl
        · exact Or.inr ⟨hflaky, torn, by simp [World.put, hu]⟩
      · obtain ⟨left, -, rfl⟩ := hdiscard
        simp
    | ok done =>
      obtain ⟨first, r, n, last, rfl, hpresent, h⟩ :=
        goes_bind.1 (show ((present pid foreground).bind _).Goes _ m rest result v from h)
      have hlast : last = [] ∧ v = n ∧
          Concludes first ⟨pid, pidfile, launch.workingDirectory⟩ result := by
        rcases present_concludes hpresent with ⟨rfl, hnone⟩ | ⟨⟨fault, rfl, hkind⟩, hbreaks⟩
        · obtain ⟨rfl, rfl, rfl⟩ := h
          exact ⟨rfl, rfl, Or.inl ⟨rfl, hnone⟩⟩
        · obtain ⟨rfl, rfl, rfl⟩ := h
          exact ⟨rfl, rfl, Or.inr ⟨⟨fault, rfl, hkind⟩, hbreaks⟩⟩
      obtain ⟨rfl, rfl, hreturned⟩ := hlast
      have hn : v.files = m.files :=
        (World.files_eq_of_goes hpresent
          ((present_asks pid foreground).mono fun _ hq => hq.leavesFiles)).1
      rw [List.append_nil]
      refine .recorded pid u v first result (hpresent.asked (present_asks pid foreground)) ?_ hpos
        hle hreturned
      rw [hn, hwrite, World.put, World.put, hu]
      rfl

/-! ## Stops -/

/-- The process that the pid file names. -/
def World.pid? (w : World) (pidfile : String) : Option Nat :=
  (w.files pidfile).bind fun bytes => (SystemError.textOf bytes).toOption.bind PidFile.read?

theorem World.pid?_congr (h : v.files pidfile = w.files pidfile) :
    v.pid? pidfile = w.pid? pidfile := by
  rw [World.pid?, World.pid?, h]

theorem World.pid?_of_text {w : World} {pid : Nat} (hpos : 0 < pid)
    (hle : pid ≤ PidFile.greatestPid)
    (h : w.files pidfile = some (Nat.repr pid).toUTF8) : w.pid? pidfile = some pid := by
  rw [World.pid?, h, Option.bind_some, SystemError.textOf_toUTF8, Except.toOption,
    Option.bind_some]
  exact PidFile.read?_text hpos hle

/-- What is asked once the pid file was read. The file is removed at the very end, if at all. -/
def Request.ends (pidfile : String) (pid : Nat) : Request → Prop
  | .print _ => True
  | .terminate p => p = pid
  | .removeFile path => path = pidfile
  | _ => False

/-- What is made of the contents of the pid file. -/
def pidOf (pidfile : String) (answer : Except SystemError ByteArray) : Except Fault Nat :=
  match answer.bind SystemError.textOf with
  | .error error => .error (.recordUnread pidfile error)
  | .ok contents =>
    match PidFile.read? contents with
    | none => .error (.recordMalformed pidfile)
    | some pid => .ok pid

theorem readPid_eq (pidfile : String) :
    readPid pidfile = .ask (.readFile pidfile) fun answer => .done (pidOf pidfile answer) := by
  change Dialogue.ask (Request.readFile pidfile) _ = _
  congr 1
  funext answer
  unfold pidOf
  change (match answer.bind SystemError.textOf with
    | .error error => Dialogue.done (Except.error (Fault.recordUnread pidfile error))
    | .ok contents => _) = _
  cases answer.bind SystemError.textOf with
  | error e => rfl
  | ok contents => cases h : PidFile.read? contents <;> simp only [h] <;> rfl

/-- What is left to do for a stop that has reached its process. -/
def leave (pidfile : String) (pid : Nat) : Conversation (Except Fault Nat) :=
  (forget pidfile).bind fun
    | .error fault => .done (.error fault)
    | .ok () => .done (.ok pid)

/-- What a stop does once it has told the operator. -/
def settle (pidfile : String) (pid : Nat) : Conversation (Except Fault Nat) :=
  (signal pidfile pid).bind fun
    | .error fault => .done (.error fault)
    | .ok () => leave pidfile pid

/-- What a stop does once it has read the pid file. -/
def proceed (pidfile : String) : Except Fault Nat → Conversation (Except Fault Nat)
  | .error fault => .done (.error fault)
  | .ok pid => (announce (stopLine pid)).bind fun
    | .error fault => .done (.error fault)
    | .ok () => settle pidfile pid

theorem stop_eq (pidfile : String) :
    stop pidfile =
      .ask (.readFile pidfile) fun answer => proceed pidfile (pidOf pidfile answer) := by
  change (readPid pidfile).bind (proceed pidfile) = _
  rw [readPid_eq]
  rfl

theorem pidOf_ok (pidfile : String) (bytes : ByteArray) :
    (∃ pid, pidOf pidfile (.ok bytes) = .ok pid ∧
      (SystemError.textOf bytes).toOption.bind PidFile.read? = some pid) ∨
    ∃ fault, pidOf pidfile (.ok bytes) = .error fault ∧ fault.failure.kind = .notRunning ∧
      (SystemError.textOf bytes).toOption.bind PidFile.read? = none := by
  simp only [pidOf, Except.bind]
  cases SystemError.textOf bytes with
  | error e => exact Or.inr ⟨_, rfl, rfl, rfl⟩
  | ok contents =>
    simp only [Except.toOption, Option.bind_some]
    cases PidFile.read? contents with
    | none => exact Or.inr ⟨_, rfl, rfl, rfl⟩
    | some pid => exact Or.inl ⟨pid, rfl, rfl⟩

theorem readPid_goes {result : Except Fault Nat}
    (h : (readPid pidfile).Goes (World.May flaky) w exchanges result v) :
    (∃ answer, exchanges = [⟨w, .readFile pidfile, answer⟩]) ∧ v.files = w.files ∧
      ((∃ pid, result = .ok pid ∧ w.pid? pidfile = some pid) ∨
        (∃ fault, result = .error fault ∧ fault.failure.kind = .notRunning) ∧
          (w.pid? pidfile = none ∨ flaky)) := by
  rw [readPid_eq] at h
  obtain ⟨answer, u, rest, hmay, rfl, rfl, rfl, rfl⟩ := h
  refine ⟨⟨answer, rfl⟩, hmay.files trivial, ?_⟩
  obtain ⟨left, -, hread⟩ := hmay
  cases answer with
  | error e =>
    refine Or.inr ⟨⟨_, rfl, rfl⟩, ?_⟩
    rcases hread.1 with hnone | hflaky
    · exact Or.inl (by rw [World.pid?, hnone]; rfl)
    · exact Or.inr hflaky
  | ok bytes =>
    have hpid : w.pid? pidfile = (SystemError.textOf bytes).toOption.bind PidFile.read? := by
      rw [World.pid?, hread.1]
      rfl
    rw [hpid]
    rcases pidOf_ok pidfile bytes with ⟨pid, hok, hsome⟩ | ⟨fault, herror, hkind, hnone⟩
    · exact Or.inl ⟨pid, hok, hsome⟩
    · exact Or.inr ⟨⟨fault, herror, hkind⟩, Or.inl hnone⟩

theorem signal_goes {pid : Nat} {result : Except Fault Unit}
    (h : (signal pidfile pid).Goes (World.May flaky) w exchanges result v) :
    (∃ answer, exchanges = [⟨w, .terminate pid, answer⟩]) ∧ v.files = w.files ∧
      (result = .ok () ∨ ∃ fault, result = .error fault ∧ fault.failure.kind ≠ .notRunning) := by
  obtain ⟨answer, u, rest, hmay, rfl, h⟩ := h
  have hu : u.files = w.files := hmay.files trivial
  cases answer with
  | ok done =>
    obtain ⟨rfl, rfl, rfl⟩ := h
    exact ⟨⟨_, rfl⟩, hu, Or.inl rfl⟩
  | error e =>
    change Goes _ (if e = .noSuchProcess then _ else if e.isDenial then _ else _) _ _ _ _ at h
    split at h
    · obtain ⟨rfl, rfl, rfl⟩ := h
      exact ⟨⟨_, rfl⟩, hu, Or.inl rfl⟩
    · split at h
      · obtain ⟨rfl, rfl, rfl⟩ := h
        exact ⟨⟨_, rfl⟩, hu, Or.inr ⟨_, rfl, by simp [Fault.failure]⟩⟩
      · obtain ⟨rfl, rfl, rfl⟩ := h
        exact ⟨⟨_, rfl⟩, hu, Or.inr ⟨_, rfl, by simp [Fault.failure]⟩⟩

theorem forget_goes {result : Except Fault Unit}
    (h : (forget pidfile).Goes (World.May flaky) w exchanges result v) :
    (∃ answer, exchanges = [⟨w, .removeFile pidfile, answer⟩]) ∧
      (result = .ok () ∧ v.files = (w.put pidfile none).files ∨
        (∃ fault, result = .error fault ∧ fault.failure.kind ≠ .notRunning) ∧
          v.files = w.files) := by
  obtain ⟨answer, u, rest, ⟨left, -, hremove⟩, rfl, h⟩ := h
  refine ⟨⟨answer, ?_⟩, ?_⟩
  · cases answer with
    | ok done => rw [h.1]
    | error e =>
      change Goes _ (if e = .notFound then _ else _) _ _ _ _ at h
      split at h <;> rw [h.1]
  · cases answer with
    | ok done =>
      obtain ⟨rfl, rfl, rfl⟩ := h
      exact Or.inl ⟨rfl, by rw [hremove.2]; rfl⟩
    | error e =>
      obtain ⟨hnone, rfl⟩ := hremove
      change Goes _ (if e = .notFound then _ else _) _ _ _ _ at h
      split at h
      · next he =>
        obtain ⟨rfl, rfl, rfl⟩ := h
        refine Or.inl ⟨rfl, ?_⟩
        funext path
        -- There was no file to begin with.
        by_cases hp : path = pidfile
        · rw [hp, World.put_files_self]
          exact hnone he
        · simp [World.put, hp]
      · obtain ⟨rfl, rfl, rfl⟩ := h
        exact Or.inr ⟨⟨_, rfl, by simp [Fault.failure]⟩, rfl⟩

/-- All that a stop can do. -/
inductive StopEnds (flaky : Prop) (pidfile : String) (w : World) :
    List Exchange → Except Fault Nat → World → Prop
  /-- The pid file names no process. -/
  | unread (answer : Except SystemError ByteArray) (fault : Fault) (v : World)
    (kind : fault.failure.kind = .notRunning) (files : v.files = w.files)
    (unnamed : w.pid? pidfile = none ∨ flaky) :
    StopEnds flaky pidfile w [⟨w, .readFile pidfile, answer⟩] (.error fault) v
  /-- The process could not be announced or reached, or the file not removed. -/
  | kept (pid : Nat) (answer : Except SystemError ByteArray) (rest : List Exchange) (fault : Fault)
    (v : World) (named : w.pid? pidfile = some pid)
    (asked : ∀ e ∈ rest, e.request.ends pidfile pid ∧ e.before.files = w.files)
    (kind : fault.failure.kind ≠ .notRunning) (files : v.files = w.files) :
    StopEnds flaky pidfile w (⟨w, .readFile pidfile, answer⟩ :: rest) (.error fault) v
  /-- The process was signalled and its record is gone. -/
  | removed (pid : Nat) (answer : Except SystemError ByteArray) (rest : List Exchange) (v : World)
    (named : w.pid? pidfile = some pid)
    (asked : ∀ e ∈ rest, e.request.ends pidfile pid ∧ e.before.files = w.files)
    (signalled : ∃ e ∈ rest, signalled? e = some pid)
    (files : v.files = (w.put pidfile none).files) :
    StopEnds flaky pidfile w (⟨w, .readFile pidfile, answer⟩ :: rest) (.ok pid) v

theorem Request.prints.leavesFiles {q : Request} (h : q.prints) : q.leavesFiles := by
  cases q <;> trivial

theorem Request.prints.ends {pid : Nat} {q : Request} (h : q.prints) : q.ends pidfile pid := by
  cases q <;> trivial

theorem announce_keeps (pidfile : String) (pid : Nat) {line : String} {result : Except Fault Unit}
    (h : (announce line).Goes (World.May flaky) w exchanges result v) :
    v.files = w.files ∧
      ∀ e ∈ exchanges, e.request.ends pidfile pid ∧ e.before.files = w.files := by
  have hasks := announce_asks line
  obtain ⟨hv, hbefore⟩ := World.files_eq_of_goes h (hasks.mono fun _ hq => hq.leavesFiles)
  exact ⟨hv, fun e he => ⟨(h.asked hasks e he).ends, hbefore e he⟩⟩

theorem stop_ends {result : Except Fault Nat}
    (h : (stop pidfile).Goes (World.May flaky) w exchanges result v) :
    StopEnds flaky pidfile w exchanges result v := by
  obtain ⟨es₁, r₁, w₁, rest, rfl, hread, h⟩ :=
    goes_bind.1 (show ((readPid pidfile).bind _).Goes _ w exchanges result v from h)
  obtain ⟨⟨answer, rfl⟩, hw₁, hr₁⟩ := readPid_goes hread
  -- Each stage that fails ends the stop with the file as it was.
  rcases hr₁ with ⟨pid, rfl, hpid⟩ | ⟨⟨fault, rfl, hkind⟩, hunnamed⟩
  case inr =>
    obtain ⟨rfl, rfl, rfl⟩ := h
    exact .unread answer fault v hkind hw₁ hunnamed
  obtain ⟨es₂, r₂, w₂, rest₂, rfl, hannounce, h⟩ :=
    goes_bind.1 (show ((announce (stopLine pid)).bind _).Goes _ w₁ rest result v from h)
  obtain ⟨hw₂, hes₂⟩ := announce_keeps pidfile pid hannounce
  rw [hw₁] at hw₂ hes₂
  rcases announce_goes hannounce with rfl | ⟨e, rfl⟩
  case inr =>
    obtain ⟨rfl, rfl, rfl⟩ := h
    rw [List.append_nil]
    exact .kept pid answer es₂ _ v hpid hes₂ (by simp [Fault.failure]) hw₂
  obtain ⟨es₃, r₃, w₃, rest₃, rfl, hsignal, h⟩ :=
    goes_bind.1 (show ((signal pidfile pid).bind _).Goes _ w₂ rest₂ result v from h)
  obtain ⟨⟨reply, rfl⟩, hw₃, hr₃⟩ := signal_goes hsignal
  have hes₃ : ∀ e ∈ es₂ ++ [⟨w₂, .terminate pid, reply⟩],
      e.request.ends pidfile pid ∧ e.before.files = w.files :=
    List.forall_mem_append.2 ⟨hes₂, List.forall_mem_singleton.2 ⟨rfl, hw₂⟩⟩
  rw [hw₂] at hw₃
  rcases hr₃ with rfl | ⟨fault, rfl, hkind⟩
  case inr =>
    obtain ⟨rfl, rfl, rfl⟩ := h
    rw [List.append_nil]
    exact .kept pid answer _ fault v hpid hes₃ hkind hw₃
  obtain ⟨es₄, r₄, w₄, rest₄, rfl, hforget, h⟩ :=
    goes_bind.1 (show ((forget pidfile).bind _).Goes _ w₃ rest₃ result v from h)
  obtain ⟨⟨removal, rfl⟩, hr₄⟩ := forget_goes hforget
  have hes₄ : ∀ e ∈ es₂ ++ ([⟨w₂, .terminate pid, reply⟩] ++ [⟨w₃, .removeFile pidfile, removal⟩]),
      e.request.ends pidfile pid ∧ e.before.files = w.files := by
    rw [← List.append_assoc]
    exact List.forall_mem_append.2 ⟨hes₃, List.forall_mem_singleton.2 ⟨rfl, hw₃⟩⟩
  rcases hr₄ with ⟨rfl, hw₄⟩ | ⟨⟨fault, rfl, hkind⟩, hw₄⟩
  · obtain ⟨rfl, rfl, rfl⟩ := h
    rw [List.append_nil]
    refine .removed pid answer _ v hpid hes₄ ⟨⟨w₂, .terminate pid, reply⟩, by simp, rfl⟩ ?_
    rw [hw₄]
    simp [World.put, hw₃]
  · obtain ⟨rfl, rfl, rfl⟩ := h
    rw [List.append_nil]
    exact .kept pid answer _ fault v hpid hes₄ hkind (hw₄.trans hw₃)

end RepairConsole.Supervisor
