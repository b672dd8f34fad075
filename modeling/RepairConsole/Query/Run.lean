import RepairConsole.Dialogue
import RepairConsole.Output
import RepairConsole.Query.Command
import RepairConsole.Remote.Client
/-!
# Running a query

First the service is asked whether it is there; only then is the command looked at, and at
most one more call is made. What the service refuses is printed and is no failure of the
command. Reports are printed in full here, as if there were no widest column.
-/

namespace RepairConsole.Query

/-- What a query asks of the world. -/
inductive Request where
  | call (call : Call)
  | clock
  | print (bytes : ByteArray)

abbrev Request.Answer : Request → Type
  | .call c => Outcome c.Payload
  | .clock => Calendar.Moment
  | .print _ => Except SystemError Unit

abbrev Conversation := Dialogue Request Request.Answer

def call (c : Call) : Conversation (Outcome c.Payload) := .ask (.call c) .done

def clock : Conversation Calendar.Moment := .ask .clock .done

/-- What `status` prints. -/
def running : String := "ecChronos is running"

/-- Prints lines, up to the first that the output does not take. -/
def printLines : List String → Conversation (Except Fault Unit)
  | [] => .done (.ok ())
  | line :: rest =>
    .ask (.print (line ++ "\n").toUTF8) fun
      | .ok () => printLines rest
      | .error error => .done (.error (.outputFailed error))

/-- Makes the call of a plan and prints what comes of it. -/
def carryOut (plan : Plan) : Conversation (Except Fault Unit) := do
  match ← call plan.call with
  | .error trouble => printLines [trouble.text]
  | .ok payload => printLines (Report.inFull (plan.parts (← clock) payload))

/-- Runs a command. -/
def run (command : Command) : Conversation (Except Fault Unit) := do
  match ← call Call.probe with
  | .error _ => return .error .unreachable
  | .ok _ =>
    match command.plan (← clock) with
    | .error fault => return .error fault
    | .ok none => printLines [running]
    | .ok (some plan) => carryOut plan

end RepairConsole.Query
