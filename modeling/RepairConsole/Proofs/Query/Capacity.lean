import RepairConsole.Proofs.Query.Endings
import RepairConsole.Proofs.Sink
/-!
# Queries on a full output

A query is done with the service before it prints anything: first it finds out what there is to
print, and then it prints that. So an output that takes only so many bytes can cut the report off
and fail the query, but the service is asked the same and answers the same.
-/

namespace RepairConsole.Query

open Dialogue

/-! ## Reports in pieces -/

/-- What comes of a report of which all that can be set was written so. -/
def reportEnd {ε : Type} (whole : Bool) : Except ε Unit → Option (Except ε Unit)
  | .error e => some (.error e)
  | .ok () => if whole then some (.ok ()) else none

theorem reportEnd_mapError {ε δ : Type} (f : ε → δ) (whole : Bool) (written : Except ε Unit) :
    reportEnd whole (written.mapError f) = (reportEnd whole written).map (Except.mapError f) := by
  cases written with
  | error e => rfl
  | ok done => cases whole <;> rfl

/-- Writes as much of a report as can be set, cut in this way. -/
def writeReport (cutting : Cutting) (parts : List Report.Part) (sink : Sink) :
    Option (Except SystemError Unit) × Sink :=
  let (written, sink) := sink.writeAll (cutting.pieces (Report.set parts).1)
  (reportEnd (Report.set parts).2 written, sink)

/-- An output without a bound takes all that can be set, and only a table that cannot be set breaks
the report off. -/
theorem writeReport_boundless (cutting : Cutting) (parts : List Report.Part) :
    writeReport cutting parts (.empty none) =
      (if (Report.set parts).2 then some (.ok ()) else none,
        ⟨none, (textOf (Report.set parts).1).toUTF8⟩) := by
  rw [writeReport, Sink.writeAll_cutting]
  rfl

theorem curbed_writeReport (cutting : Cutting) (parts : List Report.Part) (room : Nat) :
    Sink.Curbed (some (.error .sinkFull)) room
      (if (Report.set parts).2 then some (.ok ()) else none,
        ⟨none, (textOf (Report.set parts).1).toUTF8⟩)
      (writeReport cutting parts (.empty (some room))) :=
  (Sink.curbed_cutting cutting (Report.set parts).1 room).map (reportEnd (Report.set parts).2)

/-! ## First the service, then the output -/

/-- A plan up to its printing: the report that is to be printed. -/
def prepareReport (plan : Plan) : Conversation (List Report.Part) := do
  match ← call plan.call with
  | .error trouble => return [.text [trouble.text]]
  | .ok payload => return plan.parts (← clock) payload

/-- What is left to do up to the printing once a command was looked at. -/
def prepareObeying :
    Except Fault (Option Plan) → Conversation (Except Fault (List Report.Part))
  | .error fault => .done (.error fault)
  | .ok none => .done (.ok [.text [running]])
  | .ok (some plan) => .ok <$> prepareReport plan

/-- A query up to its printing: the report that is to be printed, if it comes to that. -/
def prepare (command : Command) : Conversation (Except Fault (List Report.Part)) := do
  match ← call Call.probe with
  | .error _ => return .error .unreachable
  | .ok _ => prepareObeying (command.plan (← clock))

/-- Prints as much as can be set of what there is to print. -/
def say (cutting : Cutting) :
    Except Fault (List Report.Part) → Conversation (Option (Except Fault Unit))
  | .error fault => .done (some (.error fault))
  | .ok parts => (printPieces (cutting.pieces (Report.set parts).1)).bind fun result =>
    .done (reportEnd (Report.set parts).2 result)

/-- Attempts a command whose report is cut into writes in this way. -/
def attemptIn (cutting : Cutting) (command : Command) :
    Conversation (Option (Except Fault Unit)) :=
  (prepare command).bind (say cutting)

theorem printParts_prepared (parts : List Report.Part) :
    printParts parts = say .byLines (.ok parts) := by
  rw [printParts_eq, printLines_eq]
  refine congrArg (Dialogue.bind _) (funext fun result => ?_)
  cases result <;> rfl

theorem attemptPlan_prepared (plan : Plan) :
    attemptPlan plan = (prepareObeying (.ok (some plan))).bind (say .byLines) := by
  rw [attemptPlan_eq]
  refine ask_congr fun outcome => ?_
  cases outcome with
  | error trouble => exact printParts_prepared _
  | ok payload => exact ask_congr fun now => printParts_prepared _

theorem attemptObeying_prepared (looked : Except Fault (Option Plan)) :
    attemptObeying looked = (prepareObeying looked).bind (say .byLines) := by
  match looked with
  | .error fault => rfl
  | .ok none => exact attemptObeying_none.trans (printParts_prepared _)
  | .ok (some plan) => exact attemptPlan_prepared plan

/-- A query is one that writes line by line. -/
theorem attempt_eq_attemptIn (command : Command) :
    attempt command = attemptIn .byLines command := by
  rw [attempt_eq]
  refine ask_congr fun outcome => ?_
  cases outcome with
  | error trouble => rfl
  | ok listed => exact ask_congr fun now => attemptObeying_prepared _

/-! ## A service and an output -/

/-- A service and a clock. What they answer may hang on all that they were asked before, but not on
what became of the output. -/
structure Remote (τ : Type) where
  call : (c : Call) → τ → Outcome c.Payload × τ
  clock : τ → Calendar.Moment × τ

namespace Remote

variable {τ : Type} (remote : Remote τ)

/-- Answers what a query asks, with an output beside the service. -/
def answer : (q : Request) → τ × Sink → q.Answer × (τ × Sink)
  | .call c, (t, sink) => ((remote.call c t).1, (remote.call c t).2, sink)
  | .clock, (t, sink) => ((remote.clock t).1, (remote.clock t).2, sink)
  | .print bytes, (t, sink) => ((sink.write bytes).1, t, (sink.write bytes).2)

section Runs

variable {α : Type} (d : Conversation α) (t : τ) (sink : Sink)

/-- The calls of a conversation with their outcomes. -/
def made : List (Σ c : Call, Outcome c.Payload) :=
  (d.course remote.answer (t, sink)).filterMap made?

/-- The service after a conversation. -/
def left : τ := (d.run remote.answer (t, sink)).2.1

/-- What came of a conversation, and the output after it. -/
def reported : α × Sink :=
  ((d.run remote.answer (t, sink)).1, (d.run remote.answer (t, sink)).2.2)

end Runs

/-- A conversation that prints nothing leaves the output alone and goes the same way on any. -/
theorem run_of_silent {α : Type} {d : Conversation α} (h : d.Asks fun q => ¬ q.prints) (t : τ) :
    ∃ result t' made, ∀ sink, d.run remote.answer (t, sink) = (result, t', sink) ∧
      remote.made d t sink = made := by
  induction d generalizing t with
  | done result => exact ⟨result, t, [], fun sink => ⟨rfl, rfl⟩⟩
  | ask q next ih =>
    obtain ⟨hsilent, hnext⟩ := h
    cases q with
    | print bytes => exact absurd trivial hsilent
    | clock => exact ih _ (hnext _) _
    | call c =>
      obtain ⟨result, t', rest, hrest⟩ := ih _ (hnext (remote.call c t).1) (remote.call c t).2
      refine ⟨result, t', ⟨c, (remote.call c t).1⟩ :: rest, fun sink => ⟨(hrest sink).1, ?_⟩⟩
      exact congrArg (_ :: ·) (hrest sink).2

theorem run_printPieces (pieces : List ByteArray) (t : τ) (sink : Sink) :
    (printPieces pieces).run remote.answer (t, sink) =
      ((sink.writeAll pieces).1.mapError .outputFailed, t, (sink.writeAll pieces).2) := by
  induction pieces generalizing sink with
  | nil => rfl
  | cons bytes rest ih =>
    obtain ⟨taken, sink', hwrite⟩ : ∃ taken sink', sink.write bytes = (taken, sink') := ⟨_, _, rfl⟩
    have hanswer : remote.answer (.print bytes) (t, sink) = (taken, t, sink') := by
      rw [answer, hwrite]
    rw [printPieces, run_ask, hanswer, Sink.writeAll, hwrite]
    cases taken with
    | error error => rfl
    | ok done => exact ih sink'

theorem made_printPieces (pieces : List ByteArray) (t : τ) (sink : Sink) :
    remote.made (printPieces pieces) t sink = [] :=
  made_of_prints ((printPieces_asks pieces).course _ _)

theorem made_bind {α β : Type} (d : Conversation α) (next : α → Conversation β) (t : τ)
    (sink : Sink) :
    remote.made (d.bind next) t sink = remote.made d t sink ++
      remote.made (next (d.run remote.answer (t, sink)).1) (d.run remote.answer (t, sink)).2.1
        (d.run remote.answer (t, sink)).2.2 := by
  rw [made, course_bind, List.filterMap_append]
  rfl

end Remote

theorem prepareObeying_silent (looked : Except Fault (Option Plan)) :
    (prepareObeying looked).Asks fun q => ¬ q.prints := by
  match looked with
  | .error fault => trivial
  | .ok none => trivial
  | .ok (some plan) =>
    refine ⟨id, fun outcome => ?_⟩
    cases outcome with
    | error trouble => trivial
    | ok payload => exact ⟨id, fun now => trivial⟩

theorem prepare_silent (command : Command) : (prepare command).Asks fun q => ¬ q.prints := by
  refine ⟨id, fun outcome => ?_⟩
  cases outcome with
  | error trouble => trivial
  | ok listed => exact ⟨id, fun now => prepareObeying_silent _⟩

/-! ## Small outputs -/

/-- What becomes of a conversation on an output with only so much room, beside what becomes of a
command on one without a bound: the service hears and answers the same, and only the report
suffers. -/
structure OnlyReportSuffers {τ : Type} (remote : Remote τ) (t : τ) (command : Command) (room : Nat)
    (d : Conversation (Option (Except Fault Unit))) : Prop where
  made : remote.made d t (.empty (some room)) = remote.made (attempt command) t (.empty none)
  left : remote.left d t (.empty (some room)) = remote.left (attempt command) t (.empty none)
  report : Sink.Curbed (some (.error (.outputFailed .sinkFull))) room
    (remote.reported (attempt command) t (.empty none))
    (remote.reported d t (.empty (some room)))

section Saying

variable {τ : Type} (remote : Remote τ) (t : τ) (cutting : Cutting)
  (prepared : Except Fault (List Report.Part))

theorem made_say (sink : Sink) : remote.made (say cutting prepared) t sink = [] := by
  cases prepared with
  | error fault => rfl
  | ok parts =>
    rw [say, remote.made_bind, remote.made_printPieces]
    rfl

theorem run_say (parts : List Report.Part) (sink : Sink) :
    (say cutting (.ok parts)).run remote.answer (t, sink) =
      ((writeReport cutting parts sink).1.map (Except.mapError .outputFailed), t,
        (writeReport cutting parts sink).2) := by
  rw [say, run_bind, remote.run_printPieces, run_done, reportEnd_mapError]
  rfl

theorem left_say (sink : Sink) : remote.left (say cutting prepared) t sink = t := by
  cases prepared with
  | error fault => rfl
  | ok parts => rw [Remote.left, run_say]

theorem curbed_say (room : Nat) :
    Sink.Curbed (some (.error (.outputFailed .sinkFull))) room
      (remote.reported (say .byLines prepared) t (.empty none))
      (remote.reported (say cutting prepared) t (.empty (some room))) := by
  cases prepared with
  | error fault => exact ⟨fun _ => ⟨rfl, rfl⟩, fun hover => absurd hover (Nat.not_lt_zero room)⟩
  | ok parts =>
    rw [Remote.reported, Remote.reported, run_say, run_say, writeReport_boundless]
    have hcurbed := curbed_writeReport cutting parts room
    exact hcurbed.map (Option.map (Except.mapError Fault.outputFailed))

end Saying

theorem onlyReportSuffers_attemptIn {τ : Type} (remote : Remote τ) (t : τ) (command : Command)
    (room : Nat) (cutting : Cutting) :
    OnlyReportSuffers remote t command room (attemptIn cutting command) := by
  obtain ⟨prepared, t', made, hprepare⟩ := remote.run_of_silent (prepare_silent command) t
  have hrun (cutting : Cutting) (sink : Sink) :
      (attemptIn cutting command).run remote.answer (t, sink) =
        (say cutting prepared).run remote.answer (t', sink) := by
    rw [attemptIn, run_bind, (hprepare sink).1]
  have hmade (cutting : Cutting) (sink : Sink) :
      remote.made (attemptIn cutting command) t sink = made := by
    rw [attemptIn, remote.made_bind, (hprepare sink).2, made_say, List.append_nil]
  have hleft (cutting : Cutting) (sink : Sink) :
      remote.left (attemptIn cutting command) t sink = t' := by
    rw [Remote.left, hrun]
    exact left_say remote t' cutting prepared sink
  refine ⟨?_, ?_, ?_⟩
  · rw [attempt_eq_attemptIn, hmade, hmade]
  · rw [attempt_eq_attemptIn, hleft, hleft]
  · rw [attempt_eq_attemptIn, Remote.reported, Remote.reported, hrun, hrun]
    exact curbed_say remote t' cutting prepared room

/-- However a report is cut into writes, an output without a bound gets all of it that can be set,
and one with only so much room takes the same or refuses it with the front of it taken. -/
def Fills (room : Nat) (parts : List Report.Part) : Prop :=
  ∀ cutting : Cutting,
    writeReport cutting parts (.empty none) =
      (if (Report.set parts).2 then some (.ok ()) else none,
        ⟨none, (textOf (Report.set parts).1).toUTF8⟩) ∧
    Sink.Curbed (some (.error .sinkFull)) room (writeReport cutting parts (.empty none))
      (writeReport cutting parts (.empty (some room)))

theorem fills (room : Nat) (parts : List Report.Part) : Fills room parts := by
  intro cutting
  rw [writeReport_boundless]
  exact ⟨rfl, curbed_writeReport cutting parts room⟩

/-- An output that takes only so many bytes costs the end of the report and the success of the
query, and nothing else: whatever the service answers, it is asked the same. A report that breaks
off, because a table cannot be set, breaks off on a small output too if its front fits. -/
theorem full_output_curbs_report {τ : Type} (remote : Remote τ) (t : τ) (command : Command)
    (room : Nat) :
    OnlyReportSuffers remote t command room (attempt command) ∧
    (∀ cutting, OnlyReportSuffers remote t command room (attemptIn cutting command)) ∧
    (Fault.outputFailed .sinkFull).failure.kind = .io ∧
    (Fault.outputFailed .sinkFull).failure.text = "failed to write output: sink full" ∧
    (∀ now limit all, Fills room (Report.schedulesParts now limit all)) ∧
    (∀ limit full s, Fills room (Report.scheduleParts limit full s)) ∧
    (∀ limit all, Fills room (Report.repairsParts limit all)) ∧
    ∀ limit info, Fills room (Report.repairInfoParts limit info) := by
  have hcut : ∀ cutting, OnlyReportSuffers remote t command room (attemptIn cutting command) :=
    onlyReportSuffers_attemptIn remote t command room
  refine ⟨?_, hcut, rfl, by decide +kernel, ?_, ?_, ?_, ?_⟩
  · rw [attempt_eq_attemptIn]
    exact hcut .byLines
  · exact fun now limit all => fills room _
  · exact fun limit full s => fills room _
  · exact fun limit all => fills room _
  · exact fun limit info => fills room _

end RepairConsole.Query
