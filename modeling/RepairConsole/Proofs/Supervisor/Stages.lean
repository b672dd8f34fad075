import RepairConsole.Proofs.Supervisor.Endings
/-!
# The stages of a stop

A stop reads the record, tells the operator, signals the process and removes the record. Each stage
is entered only if the one before went well, and only the last one changes a file. This holds
whoever answers.
-/

namespace RepairConsole.Supervisor

open Dialogue

/-! ## What exchanges show -/

/-- The process that an exchange found on record. -/
def pidRead? : Exchange → Option Nat
  | ⟨_, .readFile _, .ok bytes⟩ => (SystemError.textOf bytes).toOption.bind PidFile.read?
  | _ => none

def printed? : Exchange → Option ByteArray
  | ⟨_, .print bytes, .ok ()⟩ => some bytes
  | _ => none

/-- The output did not take what was printed. -/
def Refuses : Exchange → Prop
  | ⟨_, .print _, .error _⟩ => True
  | _ => False

/-- Why a signal was not sent. -/
def signalError? : Exchange → Option SystemError
  | ⟨_, .terminate _, .error error⟩ => some error
  | _ => none

/-- The process that was signalled, or does not exist. -/
def reached? : Exchange → Option Nat
  | ⟨_, .terminate pid, .ok ()⟩ => some pid
  | ⟨_, .terminate pid, .error error⟩ => if error = .noSuchProcess then some pid else none
  | _ => none

def output (exchanges : List Exchange) : ByteArray :=
  (exchanges.filterMap printed?).foldr (· ++ ·) ByteArray.empty

/-- Nothing was asked for that changes a file. -/
def Untouched (exchanges : List Exchange) : Prop := ∀ e ∈ exchanges, e.request.leavesFiles

/-! ## Stages -/

inductive Announced (line : String) : List Exchange → Except Fault Unit → Prop
  | refused (u : World) (error : SystemError) :
    Announced line [⟨u, .print line.toUTF8, .error error⟩] (.error (.outputFailed error))
  | brokenOff (u v : World) (error : SystemError) :
    Announced line [⟨u, .print line.toUTF8, .ok ()⟩, ⟨v, .print "\n".toUTF8, .error error⟩]
      (.error (.outputFailed error))
  | told (u v : World) :
    Announced line [⟨u, .print line.toUTF8, .ok ()⟩, ⟨v, .print "\n".toUTF8, .ok ()⟩] (.ok ())

def refusal (pidfile : String) (pid : Nat) (error : SystemError) : Fault :=
  if error.isDenial then .signalDenied pid pidfile error else .signalFailed pid error

/-- What a stop makes of the answer to its signal. -/
def signalled (pidfile : String) (pid : Nat) : Except SystemError Unit → Except Fault Unit
  | .ok () => .ok ()
  | .error error =>
    if error = .noSuchProcess then .ok () else .error (refusal pidfile pid error)

/-- What a stop that has reached its process makes of the removal. -/
def conclusion (pidfile : String) (pid : Nat) : Except SystemError Unit → Except Fault Nat
  | .ok () => .ok pid
  | .error error => if error = .notFound then .ok pid else .error (.recordUnremoved pidfile error)

variable {may : (q : Request) → World → q.Answer → World → Prop} {pidfile : String} {w v : World}
  {exchanges : List Exchange}

/-- How far a stop gets, whoever answers it. -/
inductive Stages (may : (q : Request) → World → q.Answer → World → Prop) (pidfile : String)
    (w v : World) : List Exchange → Except Fault Nat → Prop
  | unread {answer : Except SystemError ByteArray} {fault : Fault}
    (reading : may (.readFile pidfile) w answer v)
    (unnamed : pidOf pidfile answer = .error fault) :
    Stages may pidfile w v [⟨w, .readFile pidfile, answer⟩] (.error fault)
  | untold {answer : Except SystemError ByteArray} {u : World} {pid : Nat} {prints : List Exchange}
    {fault : Fault} (reading : may (.readFile pidfile) w answer u)
    (named : pidOf pidfile answer = .ok pid)
    (announced : Announced (stopLine pid) prints (.error fault)) :
    Stages may pidfile w v (⟨w, .readFile pidfile, answer⟩ :: prints) (.error fault)
  | unreached {answer : Except SystemError ByteArray} {u x : World} {pid : Nat}
    {prints : List Exchange} {error : SystemError} (reading : may (.readFile pidfile) w answer u)
    (named : pidOf pidfile answer = .ok pid)
    (announced : Announced (stopLine pid) prints (.ok ())) (refused : error ≠ .noSuchProcess) :
    Stages may pidfile w v
      (⟨w, .readFile pidfile, answer⟩ :: (prints ++ [⟨x, .terminate pid, .error error⟩]))
      (.error (refusal pidfile pid error))
  | reached {answer : Except SystemError ByteArray} {u x y : World} {pid : Nat}
    {prints : List Exchange} {reply removal : Except SystemError Unit}
    (reading : may (.readFile pidfile) w answer u) (named : pidOf pidfile answer = .ok pid)
    (announced : Announced (stopLine pid) prints (.ok ()))
    (reached : reached? ⟨x, .terminate pid, reply⟩ = some pid)
    (removing : may (.removeFile pidfile) y removal v) :
    Stages may pidfile w v
      (⟨w, .readFile pidfile, answer⟩ ::
        (prints ++ [⟨x, .terminate pid, reply⟩, ⟨y, .removeFile pidfile, removal⟩]))
      (conclusion pidfile pid removal)

theorem announced_of_goes {line : String} {result : Except Fault Unit}
    (h : (announce line).Goes may w exchanges result v) : Announced line exchanges result := by
  obtain ⟨answer, u, rest, -, rfl, h⟩ := h
  cases answer with
  | error e =>
    obtain ⟨rfl, rfl, -⟩ := h
    exact .refused w e
  | ok done =>
    obtain ⟨answer, x, rest, -, rfl, h⟩ := h
    cases answer with
    | error e =>
      obtain ⟨rfl, rfl, -⟩ := h
      exact .brokenOff w u e
    | ok done =>
      obtain ⟨rfl, rfl, -⟩ := h
      exact .told w u

theorem signal_eq (pidfile : String) (pid : Nat) :
    signal pidfile pid =
      .ask (.terminate pid) fun reply => .done (signalled pidfile pid reply) := by
  change Dialogue.ask (Request.terminate pid) _ = _
  congr 1
  funext reply
  cases reply with
  | ok done => rfl
  | error e =>
    change (if e = .noSuchProcess then _ else if e.isDenial then _ else _) = _
    simp only [signalled, refusal]
    split
    · rfl
    · split <;> rfl

theorem leave_eq (pidfile : String) (pid : Nat) :
    leave pidfile pid =
      .ask (.removeFile pidfile) fun removal => .done (conclusion pidfile pid removal) := by
  change Dialogue.ask (Request.removeFile pidfile) _ = _
  congr 1
  funext removal
  cases removal with
  | ok done => rfl
  | error e =>
    change Dialogue.bind (if e = .notFound then _ else _) _ = _
    simp only [conclusion]
    split <;> rfl

theorem removal_of_goes {pid : Nat} {result : Except Fault Nat}
    (h : (leave pidfile pid).Goes may w exchanges result v) :
    ∃ removal, may (.removeFile pidfile) w removal v ∧
      exchanges = [⟨w, .removeFile pidfile, removal⟩] ∧
      result = conclusion pidfile pid removal := by
  rw [leave_eq] at h
  obtain ⟨removal, x, last, removing, rfl, rfl, rfl, rfl⟩ := h
  exact ⟨removal, removing, rfl, rfl⟩

theorem reached_of_goes {pid : Nat} {rest : List Exchange} {result : Except Fault Nat}
    (h : (settle pidfile pid).Goes may w rest result v) :
    (∃ error, error ≠ .noSuchProcess ∧ rest = [⟨w, .terminate pid, .error error⟩] ∧
      result = .error (refusal pidfile pid error)) ∨
    ∃ reply y removal, reached? ⟨w, .terminate pid, reply⟩ = some pid ∧
      may (.removeFile pidfile) y removal v ∧
      rest = [⟨w, .terminate pid, reply⟩, ⟨y, .removeFile pidfile, removal⟩] ∧
      result = conclusion pidfile pid removal := by
  rw [settle, signal_eq] at h
  obtain ⟨reply, y, rest, -, rfl, h⟩ := h
  cases reply with
  | ok done =>
    obtain ⟨removal, removing, rfl, hresult⟩ := removal_of_goes h
    exact Or.inr ⟨_, y, removal, rfl, removing, rfl, hresult⟩
  | error e =>
    -- A process that does not exist counts as reached.
    by_cases hgone : e = .noSuchProcess
    · subst hgone
      obtain ⟨removal, removing, rfl, hresult⟩ := removal_of_goes h
      exact Or.inr ⟨_, y, removal, rfl, removing, rfl, hresult⟩
    · have hfailed : signalled pidfile pid (.error e) = .error (refusal pidfile pid e) :=
        if_neg hgone
      change Goes may (Dialogue.bind (.done (signalled pidfile pid (.error e))) _) _ _ _ _ at h
      rw [hfailed] at h
      obtain ⟨rfl, rfl, rfl⟩ := h
      exact Or.inl ⟨e, hgone, rfl, rfl⟩

theorem stages_of_goes {result : Except Fault Nat}
    (h : (stop pidfile).Goes may w exchanges result v) :
    Stages may pidfile w v exchanges result := by
  rw [stop_eq] at h
  obtain ⟨answer, u, rest, reading, rfl, h⟩ := h
  change (proceed pidfile (pidOf pidfile answer)).Goes may u rest result v at h
  cases named : pidOf pidfile answer with
  | error fault =>
    rw [named] at h
    obtain ⟨rfl, rfl, rfl⟩ := h
    exact .unread reading named
  | ok pid =>
    rw [named] at h
    obtain ⟨prints, told, x, rest, rfl, hannounce, h⟩ := goes_bind.1 h
    have announced := announced_of_goes hannounce
    cases told with
    | error fault =>
      obtain ⟨rfl, rfl, rfl⟩ := h
      rw [List.append_nil]
      exact .untold reading named announced
    | ok done =>
      rcases reached_of_goes h with
        ⟨e, hgone, rfl, rfl⟩ | ⟨reply, y, removal, hreached, removing, rfl, rfl⟩
      · exact .unreached reading named announced hgone
      · exact .reached reading named announced hreached removing

/-! ## What each stage shows -/

theorem pidOf_eq_ok_iff {answer : Except SystemError ByteArray} {pid : Nat} :
    pidOf pidfile answer = .ok pid ↔ pidRead? ⟨w, .readFile pidfile, answer⟩ = some pid := by
  cases answer with
  | error e => exact iff_of_false nofun nofun
  | ok bytes =>
    rcases pidOf_ok pidfile bytes with ⟨p, hok, hsome⟩ | ⟨fault, herror, -, hnone⟩
    · simp [pidRead?, hok, hsome]
    · simp [pidRead?, herror, hnone]

theorem kind_of_pidOf {answer : Except SystemError ByteArray} {fault : Fault}
    (h : pidOf pidfile answer = .error fault) : fault.failure.kind = .notRunning := by
  cases answer with
  | error e =>
    cases h
    rfl
  | ok bytes =>
    rcases pidOf_ok pidfile bytes with ⟨p, hok, -⟩ | ⟨f, herror, hkind, -⟩
    · rw [hok] at h
      cases h
    · rw [herror] at h
      cases h
      exact hkind

theorem kind_refusal (pid : Nat) (error : SystemError) :
    (refusal pidfile pid error).failure.kind =
      if error = .notPermitted ∨ error = .accessDenied then .permission else .io := by
  unfold refusal
  by_cases h : error = .notPermitted ∨ error = .accessDenied
  · rw [if_pos h, if_pos (by simpa [SystemError.isDenial] using h)]
    rfl
  · rw [if_neg h, if_neg (by simpa [SystemError.isDenial] using h)]
    rfl

/-- Reading the record and announcing a line signals nothing. -/
theorem Announced.unsignalled_or_mem {line : String} {told : Except Fault Unit}
    {prints rest : List Exchange} (h : Announced line prints told) {e : Exchange}
    {answer : Except SystemError ByteArray}
    (he : e ∈ ⟨w, .readFile pidfile, answer⟩ :: (prints ++ rest)) :
    (signalled? e = none ∧ signalError? e = none ∧ reached? e = none) ∨ e ∈ rest := by
  rcases List.mem_cons.1 he with rfl | he
  · exact Or.inl ⟨rfl, rfl, rfl⟩
  · refine (List.mem_append.1 he).imp_left fun he => ?_
    cases h <;> simp only [List.mem_cons, List.not_mem_nil, or_false] at he <;>
      rcases he with rfl | rfl <;> exact ⟨rfl, rfl, rfl⟩

namespace Stages

variable {result : Except Fault Nat}

theorem of_unread (h : Stages may pidfile w v exchanges result)
    (hnone : ∀ e ∈ exchanges, pidRead? e = none) :
    FailsAs .notRunning result ∧ ∃ answer, exchanges = [⟨w, .readFile pidfile, answer⟩] := by
  cases h with
  | unread reading unnamed => exact ⟨⟨_, rfl, kind_of_pidOf unnamed⟩, _, rfl⟩
  | untold reading named | unreached reading named | reached reading named =>
    have hread := hnone _ List.mem_cons_self
    rw [pidOf_eq_ok_iff.1 named] at hread
    cases hread

theorem of_refuses (h : Stages may pidfile w v exchanges result)
    (hrefuses : ∃ e ∈ exchanges, Refuses e) :
    FailsAs .io result ∧ Untouched exchanges ∧ ∀ e ∈ exchanges, signalled? e = none := by
  cases h with
  | unread reading unnamed => simp [Refuses] at hrefuses
  | untold reading named announced =>
    cases announced <;>
      simp [FailsAs, Fault.failure, Untouched, Request.leavesFiles, signalled?]
  | unreached reading named announced refused =>
    cases announced
    simp [Refuses] at hrefuses
  | reached reading named announced reached removing =>
    cases announced
    simp [Refuses] at hrefuses

theorem of_signalError {e : Exchange} {error : SystemError}
    (h : Stages may pidfile w v exchanges result) (he : e ∈ exchanges)
    (herror : signalError? e = some error) (hgone : error ≠ .noSuchProcess) :
    FailsAs (if error = .notPermitted ∨ error = .accessDenied then .permission else .io) result ∧
      Untouched exchanges := by
  cases h with
  | unread reading unnamed =>
    rw [List.mem_singleton.1 he] at herror
    cases herror
  | untold reading named announced =>
    rw [← List.append_nil (_ :: _)] at he
    rcases announced.unsignalled_or_mem he with ⟨-, hnone, -⟩ | he
    · rw [hnone] at herror
      cases herror
    · cases he
  | unreached reading named announced refused =>
    rcases announced.unsignalled_or_mem he with ⟨-, hnone, -⟩ | he
    · rw [hnone] at herror
      cases herror
    · rw [List.mem_singleton.1 he] at herror
      cases herror
      cases announced
      exact ⟨⟨_, rfl, kind_refusal _ _⟩, by simp [Untouched, Request.leavesFiles]⟩
  | @reached answer u x y pid prints reply removal reading named announced reached removing =>
    rcases announced.unsignalled_or_mem he with ⟨-, hnone, -⟩ | he
    · rw [hnone] at herror
      cases herror
    · simp only [List.mem_cons, List.not_mem_nil, or_false] at he
      rcases he with rfl | rfl
      · cases reply <;> cases herror
        simp [reached?, hgone] at reached
      · cases herror

theorem length_signalled (h : Stages may pidfile w v exchanges result) :
    (exchanges.filterMap signalled?).length ≤ 1 := by
  cases h with
  | unread reading unnamed => exact Nat.zero_le 1
  | untold reading named announced => cases announced <;> exact Nat.zero_le 1
  | unreached reading named announced refused =>
    cases announced
    exact Nat.le_refl 1
  | reached reading named announced reached removing =>
    cases announced
    exact Nat.le_refl 1

theorem output_line (line : String) :
    line.toUTF8 ++ ("\n".toUTF8 ++ ByteArray.empty) = (line ++ "\n").toUTF8 := by
  simp

theorem exists_reading (h : Stages may pidfile w v exchanges result) :
    ∃ answer u rest, may (.readFile pidfile) w answer u ∧
      exchanges = ⟨w, .readFile pidfile, answer⟩ :: rest ∧ ∀ e ∈ rest, pidRead? e = none := by
  cases h with
  | unread reading unnamed => exact ⟨_, _, _, reading, rfl, nofun⟩
  | untold reading named announced =>
    refine ⟨_, _, _, reading, rfl, ?_⟩
    cases announced <;> simp [pidRead?]
  | unreached reading named announced refused =>
    refine ⟨_, _, _, reading, rfl, ?_⟩
    cases announced
    simp [pidRead?]
  | reached reading named announced reached removing =>
    refine ⟨_, _, _, reading, rfl, ?_⟩
    cases announced
    simp [pidRead?]

theorem told_before_signal (h : Stages may pidfile w v exchanges result) {e : Exchange} {pid : Nat}
    (he : e ∈ exchanges) (hpid : signalled? e = some pid) :
    output (exchanges.takeWhile fun e => (signalled? e).isNone) = (stopLine pid ++ "\n").toUTF8 ∧
      ∃ e ∈ exchanges, pidRead? e = some pid := by
  cases h with
  | unread reading unnamed =>
    rw [List.mem_singleton.1 he] at hpid
    cases hpid
  | untold reading named announced =>
    rw [← List.append_nil (_ :: _)] at he
    rcases announced.unsignalled_or_mem he with ⟨hnone, -, -⟩ | he
    · rw [hnone] at hpid
      cases hpid
    · cases he
  | unreached reading named announced refused =>
    rcases announced.unsignalled_or_mem he with ⟨hnone, -, -⟩ | he
    · rw [hnone] at hpid
      cases hpid
    · rw [List.mem_singleton.1 he] at hpid
      cases hpid
      cases announced
      exact ⟨output_line _, _, List.mem_cons_self, pidOf_eq_ok_iff.1 named⟩
  | reached reading named announced reached removing =>
    rcases announced.unsignalled_or_mem he with ⟨hnone, -, -⟩ | he
    · rw [hnone] at hpid
      cases hpid
    · simp only [List.mem_cons, List.not_mem_nil, or_false] at he
      rcases he with rfl | rfl <;> cases hpid
      cases announced
      exact ⟨output_line _, _, List.mem_cons_self, pidOf_eq_ok_iff.1 named⟩

end Stages

theorem conclusion_eq_ok_iff {p pid : Nat} {removal : Except SystemError Unit} :
    conclusion pidfile p removal = .ok pid ↔
      p = pid ∧ (removal = .ok () ∨ removal = .error .notFound) := by
  cases removal with
  | ok done => simp [conclusion]
  | error e =>
    by_cases h : e = .notFound
    · simp [conclusion, h]
    · simp [conclusion, h]

end RepairConsole.Supervisor
