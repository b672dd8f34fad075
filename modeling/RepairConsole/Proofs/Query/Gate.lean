import RepairConsole.Proofs.Course
import RepairConsole.Proofs.Query.Rules
import RepairConsole.Query.Run
/-!
# The gate before every query

Whatever an operator asks, the service is called first to see whether it is there. One that does
not answer ends the query, whatever the command says; one that does lets the command be looked at,
and a command that keeps its rules makes one more call.
-/

namespace RepairConsole.Query

open Dialogue

abbrev Exchange (σ : Type) := Dialogue.Exchange Request.Answer σ

variable {σ : Type}

/-- The call that an exchange made. -/
def call? : Exchange σ → Option Call
  | ⟨_, .call c, _⟩ => some c
  | _ => none

/-- The bytes that an exchange printed, or tried to. -/
def printed? : Exchange σ → Option ByteArray
  | ⟨_, .print bytes, _⟩ => some bytes
  | _ => none

variable (answer : (q : Request) → σ → q.Answer × σ) (s : σ)

/-- The calls that a conversation makes. -/
def calls {α : Type} (d : Conversation α) : List Call := (d.course answer s).filterMap call?

/-- What a conversation prints, write by write. -/
def prints {α : Type} (d : Conversation α) : List ByteArray :=
  (d.course answer s).filterMap printed?

/-- The service answers the call that asks whether it is there. -/
def Reachable : Prop := ∃ payload, (answer (.call Call.probe) s).1 = .ok payload

/-! ## Conversations of a query -/

/-- What is left to do once a command was looked at. -/
def obey : Except Fault (Option Plan) → Conversation (Except Fault Unit)
  | .error fault => .done (.error fault)
  | .ok none => printLines [running]
  | .ok (some plan) => carryOut plan

theorem run_eq (command : Command) :
    run command = .ask (.call Call.probe) fun
      | .error _ => .done (.error .unreachable)
      | .ok _ => .ask .clock fun now => obey (command.plan now) := rfl

/-- A request that only prints. -/
def Request.prints : Request → Prop
  | .print _ => True
  | _ => False

/-- Writes one after the other, up to the first that the output does not take. -/
def printPieces : List ByteArray → Conversation (Except Fault Unit)
  | [] => .done (.ok ())
  | bytes :: rest =>
    .ask (.print bytes) fun
      | .ok () => printPieces rest
      | .error error => .done (.error (.outputFailed error))

theorem printLines_eq (lines : List String) : printLines lines = printPieces (lineWrites lines) := by
  induction lines with
  | nil => rfl
  | cons line rest ih =>
    refine ask_congr fun taken => ?_
    cases taken with
    | error error => rfl
    | ok done => exact ih

theorem printPieces_asks (pieces : List ByteArray) : (printPieces pieces).Asks Request.prints := by
  induction pieces with
  | nil => exact trivial
  | cons bytes rest ih =>
    refine ⟨trivial, fun answer => ?_⟩
    cases answer with
    | ok done => exact ih
    | error e => exact trivial

theorem printLines_asks (lines : List String) : (printLines lines).Asks Request.prints := by
  rw [printLines_eq]
  exact printPieces_asks _

theorem calls_printLines (lines : List String) : calls answer s (printLines lines) = [] := by
  rw [calls, List.filterMap_eq_nil_iff]
  intro e he
  have hprints := (printLines_asks lines).course answer s e he
  obtain ⟨before, q, reply⟩ := e
  cases q with
  | print bytes => rfl
  | call c | clock => exact hprints.elim

theorem calls_carryOut (plan : Plan) : calls answer s (carryOut plan) = [plan.call] := by
  change plan.call :: List.filterMap call? (course answer _ _) = _
  congr 1
  cases (answer (.call plan.call) s).1 with
  | error trouble => exact calls_printLines answer _ _
  | ok payload => exact calls_printLines answer _ _

/-! ## The gate -/

theorem unreachable_eq {trouble : Trouble} (h : (answer (.call Call.probe) s).1 = .error trouble)
    (command : Command) :
    (run command).course answer s = [⟨s, .call Call.probe, .error trouble⟩] ∧
      ((run command).run answer s).1 = .error .unreachable := by
  rw [run_eq, course_ask, run_ask, h]
  exact ⟨rfl, rfl⟩

/-- What a query does after its service has answered. -/
theorem reachable_eq (h : Reachable answer s) (command : Command) :
    ∃ now t, calls answer s (run command) = Call.probe :: calls answer t (obey (command.plan now)) ∧
      prints answer s (run command) = prints answer t (obey (command.plan now)) ∧
      ((run command).run answer s).1 = ((obey (command.plan now)).run answer t).1 := by
  obtain ⟨payload, h⟩ := h
  refine ⟨(answer .clock (answer (.call Call.probe) s).2).1,
    (answer .clock (answer (.call Call.probe) s).2).2, ?_, ?_, ?_⟩
  · rw [calls, run_eq, course_ask, h]
    rfl
  · rw [prints, run_eq, course_ask, h]
    rfl
  · rw [run_eq, run_ask, h]
    rfl

/-- The calls that are made once a command was looked at. -/
def callsOf : Except Fault (Option Plan) → List Call
  | .ok (some plan) => [plan.call]
  | _ => []

theorem calls_obey (x : Except Fault (Option Plan)) : calls answer s (obey x) = callsOf x := by
  match x with
  | .error fault => rfl
  | .ok none => exact calls_printLines answer s _
  | .ok (some plan) => exact calls_carryOut answer s plan

theorem prints_running : prints answer s (printLines [running]) = [(running ++ "\n").toUTF8] := by
  rw [prints, printLines, course_ask]
  cases (answer (.print (running ++ "\n").toUTF8) s).1 <;> rfl

theorem callsOf_plan_length (now : Calendar.Moment) (command : Command) :
    (callsOf (command.plan now)).length ≤ 1 ∧
      ((callsOf (command.plan now)).length = 1 ↔
        command ≠ .status ∧ ∀ rule ∈ command.rules, ¬ rule.broken) := by
  have hmeets := meets_plan now command
  by_cases hstatus : command = .status
  · subst hstatus
    exact ⟨Nat.zero_le 1, iff_of_false nofun fun h => h.1 rfl⟩
  · have hnone : command.plan now ≠ .ok none := plan_ne_none hstatus
    generalize command.plan now = x at hmeets hnone ⊢
    cases hmeets with
    | ok p kept =>
      cases p with
      | none => exact absurd rfl hnone
      | some plan => exact ⟨Nat.le_refl 1, iff_of_true rfl ⟨hstatus, kept⟩⟩
    | error first blames =>
      obtain ⟨before, after, hrules, hbroken, -⟩ := first
      refine ⟨Nat.zero_le 1, iff_of_false nofun fun h => ?_⟩
      exact h.2 _ (by simp [hrules]) hbroken

theorem probe_gates_query (command : Command) :
    (∃ rest, (run command).course answer s =
      ⟨s, .call Call.probe, (answer (.call Call.probe) s).1⟩ :: rest) ∧
    Call.probe = .listSchedules none none ∧
    Call.probe.requestLine = "GET /repair-management/v2/schedules HTTP/1.1" ∧
    (∀ trouble, (answer (.call Call.probe) s).1 = .error trouble →
      (run command).course answer s = [⟨s, .call Call.probe, .error trouble⟩] ∧
      ((run command).run answer s).1 = .error .unreachable) ∧
    Fault.unreachable.failure =
      { kind := .serviceUnreachable, message := some "ecChronos is not running" } ∧
    (calls answer s (run command)).length ≤ 2 ∧
    ((calls answer s (run command)).length = 2 ↔
      Reachable answer s ∧ command ≠ .status ∧ ∀ rule ∈ command.rules, ¬ rule.broken) ∧
    (Reachable answer s → command = .status →
      calls answer s (run command) = [Call.probe] ∧
      prints answer s (run command) = ["ecChronos is running\n".toUTF8]) := by
  have hcalls : Reachable answer s → ∃ now,
      calls answer s (run command) = Call.probe :: callsOf (command.plan now) := by
    intro h
    obtain ⟨now, t, hcalls, -⟩ := reachable_eq answer s h command
    exact ⟨now, by rw [hcalls, calls_obey]⟩
  have hsilent : ¬ Reachable answer s → calls answer s (run command) = [Call.probe] := by
    intro h
    cases hprobe : (answer (.call Call.probe) s).1 with
    | ok payload => exact absurd ⟨payload, hprobe⟩ h
    | error trouble =>
      rw [calls, (unreachable_eq answer s hprobe command).1]
      rfl
  refine ⟨⟨_, by rw [run_eq, course_ask]⟩, rfl, by decide +kernel,
    fun trouble h => unreachable_eq answer s h command, rfl, ?_, ?_, ?_⟩
  · by_cases h : Reachable answer s
    · obtain ⟨now, hnow⟩ := hcalls h
      rw [hnow]
      exact Nat.succ_le_succ (callsOf_plan_length now command).1
    · rw [hsilent h]
      exact Nat.le_succ 1
  · by_cases h : Reachable answer s
    · obtain ⟨now, hnow⟩ := hcalls h
      rw [hnow, List.length_cons, ← (callsOf_plan_length now command).2]
      exact ⟨fun hlength => ⟨h, Nat.succ.inj hlength⟩, fun hlength => congrArg Nat.succ hlength.2⟩
    · rw [hsilent h]
      exact iff_of_false nofun fun hall => h hall.1
  · rintro h rfl
    obtain ⟨now, t, hnow, hprints, -⟩ := reachable_eq answer s h .status
    refine ⟨?_, ?_⟩
    · rw [hnow, calls_obey]
      rfl
    · rw [hprints]
      exact prints_running answer t

end RepairConsole.Query
