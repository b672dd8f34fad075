import RepairConsole.Proofs.Query.Endings
/-!
# Attempts and runs

What is proved of the calls of a run holds of an attempt: it goes as the run does and breaks off, if
at all, where nothing is left but to print.
-/

namespace RepairConsole.Query

open Dialogue

/-! ## Printing -/

/-- Printing the front of a report is the beginning of printing it. -/
theorem follows_printLines {last : Conversation (Option (Except Fault Unit))}
    (front : List String) {back : List String}
    (h : Follows Request.prints last (printLines back)) :
    Follows Request.prints ((printLines front).bind fun
      | .error fault => done (some (.error fault))
      | .ok () => last) (printLines (front ++ back)) := by
  induction front with
  | nil => exact h
  | cons line front ih =>
    refine .ask fun taken => ?_
    cases taken with
    | error error => exact .through _
    | ok => exact ih

theorem follows_printParts (parts : List Report.Part) :
    Follows Request.prints (printParts parts) (printLines (Report.inFull parts)) := by
  have hsplit := List.takeWhile_append_dropWhile (p := Report.Part.isSettable) (l := parts)
  have hfull : Report.inFull parts = (Report.set parts).1 ++
      Report.inFull (parts.dropWhile Report.Part.isSettable) := by
    rw [Report.set, Report.inFull, Report.inFull, Report.inFull, ← List.flatMap_append, hsplit]
  rw [printParts_eq]
  cases hset : (Report.set parts).2 with
  | true =>
    have hnothing : Follows Request.prints (done (some (Except.ok ()))) (printLines []) :=
      .through _
    have hfollows := follows_printLines (Report.set parts).1 hnothing
    have hall : Report.set parts = (Report.inFull parts, true) := by
      exact Report.set_of_settable (List.all_eq_true.1 hset)
    rw [List.append_nil] at hfollows
    rw [hall] at hfollows ⊢
    exact hfollows
  | false =>
    rw [hfull]
    exact follows_printLines _ (.off _ (printLines_asks _))

/-! ## Queries -/

theorem follows_attemptPlan (plan : Plan) :
    Follows Request.prints (attemptPlan plan) (carryOut plan) := by
  refine .ask fun outcome => ?_
  cases outcome with
  | error trouble => exact .all _
  | ok payload => exact .ask fun now => follows_printParts (plan.parts now payload)

/-- An attempt goes as the run does, or breaks off while it prints. -/
theorem follows_attempt (command : Command) :
    Follows Request.prints (attempt command) (run command) := by
  rw [attempt_eq, run_eq]
  refine .ask fun outcome => ?_
  cases outcome with
  | error trouble => exact .through _
  | ok listed =>
    refine .ask fun now => ?_
    match command.plan now with
    | .error fault => exact .through _
    | .ok none => exact .all _
    | .ok (some plan) => exact follows_attemptPlan plan

section Runs

variable {σ : Type} (answer : (q : Request) → σ → q.Answer × σ) (command : Command) (s : σ)

/-- What comes of an attempt that does not break off is what comes of the run. -/
theorem attempt_none_or_run :
    ((attempt command).run answer s).1 = none ∨
      ((attempt command).run answer s).1 = some ((run command).run answer s).1 :=
  ((follows_attempt command).run answer s).1

/-- An attempt makes the calls of the run. -/
theorem made_attempt :
    ((attempt command).course answer s).filterMap made? =
      ((run command).course answer s).filterMap made? := by
  obtain ⟨-, rest, hcourse, hprints⟩ := (follows_attempt command).run answer s
  rw [hcourse, List.filterMap_append, made_of_prints hprints, List.append_nil]

end Runs

end RepairConsole.Query
