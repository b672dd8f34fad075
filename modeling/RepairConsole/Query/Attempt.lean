import RepairConsole.Query.Run
/-!
# Attempting a query

A query is run as far as its report can be set. Where a table cannot, the program breaks off: what
was printed before stays, and no fault is told.
-/

namespace RepairConsole.Query

/-- Prints what can be set of a report; nothing comes of it if that is not all. -/
def printParts (parts : List Report.Part) : Conversation (Option (Except Fault Unit)) := do
  let (lines, whole) := Report.set parts
  match ← printLines lines with
  | .error fault => return some (.error fault)
  | .ok () => return if whole then some (.ok ()) else none

/-- Makes the call of a plan and prints what comes of it, as far as it goes. -/
def attemptPlan (plan : Plan) : Conversation (Option (Except Fault Unit)) := do
  match ← call plan.call with
  | .error trouble => return some (← printLines [trouble.text])
  | .ok payload => printParts (plan.parts (← clock) payload)

/-- Runs a command as far as it goes. -/
def attempt (command : Command) : Conversation (Option (Except Fault Unit)) := do
  match ← call Call.probe with
  | .error _ => return some (.error .unreachable)
  | .ok _ =>
    match command.plan (← clock) with
    | .error fault => return some (.error fault)
    | .ok none => return some (← printLines [running])
    | .ok (some plan) => attemptPlan plan

end RepairConsole.Query
