import RepairConsole.Fault
import RepairConsole.Remote.Call
import RepairConsole.Report.Listings
import RepairConsole.Window
/-!
# Query commands

What an operator can ask the service, the rules that such a question has to keep, the call
it comes to and the report of the answer.
-/

namespace RepairConsole.Query

/-- A question to the service. Empty texts count as not given. -/
inductive Command where
  | repairs (keyspace table id hostId : Option String) (limit : Int)
  | schedules (keyspace table id : Option String) (full : Bool) (limit : Int)
  | runRepair (keyspace table : Option String) (localOnly : Bool)
  | repairInfo (keyspace table since duration : Option String) (localOnly : Bool) (limit : Int)
  | status
  deriving DecidableEq, Repr

/-- The name of a command. -/
def Command.name : Command → String
  | .repairs .. => "repairs"
  | .schedules .. => "schedules"
  | .runRepair .. => "run-repair"
  | .repairInfo .. => "repair-info"
  | .status => "status"

/-- A call, and the parts of the report of its answer at a given time. -/
structure Plan where
  call : Call
  parts : Calendar.Moment → call.Payload → List Report.Part

/-- The keyspace and the table of a command, if a table does not come alone. -/
def scope (alone : Fault) (keyspace table : Option String) :
    Except Fault (Option String × Option String) :=
  if (given table).isSome ∧ (given keyspace).isNone then .error alone
  else .ok (given keyspace, given table)

/-- What a command comes to: nothing more to ask, or one call. With an id neither the
keyspace nor the table matters. -/
def Command.plan (now : Calendar.Moment) : Command → Except Fault (Option Plan)
  | .status => .ok none
  | .schedules keyspace table id full limit =>
    match given id with
    | some id =>
      .ok (some ⟨.getSchedule id full, fun _ => Report.scheduleParts (Report.limitOf limit) full⟩)
    | none => do
      if full then .error .fullWithoutId
      let (keyspace, table) ← scope .tableAlone keyspace table
      return some
        ⟨.listSchedules keyspace table,
          fun now => Report.schedulesParts now (Report.limitOf limit)⟩
  | .repairs keyspace table id hostId limit =>
    match given id with
    | some id =>
      .ok (some ⟨.getRepair id (given hostId), fun _ => Report.repairsParts (Report.limitOf limit)⟩)
    | none => do
      let (keyspace, table) ← scope .tableAlone keyspace table
      return some
        ⟨.listRepairs keyspace table (given hostId),
          fun _ => Report.repairsParts (Report.limitOf limit)⟩
  | .runRepair keyspace table localOnly => do
    let (keyspace, table) ← scope .repairTableAlone keyspace table
    return some ⟨.triggerRepair keyspace table localOnly, fun _ => Report.repairsParts none⟩
  | .repairInfo keyspace table since duration localOnly limit => do
    let (keyspace, table) ← scope .repairTableAlone keyspace table
    let window ← Window.resolve since duration now
    return some
      ⟨.repairInfo keyspace table window.since (window.duration.map Duration.token) localOnly,
        fun _ => Report.repairInfoParts (Report.limitOf limit)⟩

end RepairConsole.Query
