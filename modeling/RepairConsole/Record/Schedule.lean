import RepairConsole.Json.Record
/-!
# Schedules

A table that is kept repaired: how far that is, when it was last done and is due next, how
it is done, and where asked for the state of each virtual node.
-/

namespace RepairConsole

/-- How a schedule is carried out. -/
structure ScheduleConfig where
  intervalInMs : Int := 0
  unwindRatio : Float := 0.0
  warningTimeInMs : Int := 0
  errorTimeInMs : Int := 0
  parallelism : String := ""

/-- A range of tokens, the hosts that hold it, and when it was last repaired. -/
structure VirtualNode where
  startToken : Int := 0
  endToken : Int := 0
  replicas : List String := []
  lastRepairedAtInMs : Int := 0
  repaired : Bool := false

structure Schedule where
  id : String := ""
  keyspace : String := ""
  table : String := ""
  status : String := ""
  repairedRatio : Float := 0.0
  lastRepairedAtInMs : Int := 0
  nextRepairInMs : Int := 0
  config : ScheduleConfig := {}
  repairType : String := ""
  virtualNodeStates : Option (List VirtualNode) := none

namespace ScheduleConfig

def fields : List (Json.Field ScheduleConfig) :=
  [ .of "intervalInMs" Json.asInt64? fun v r => { r with intervalInMs := v },
    .of "unwindRatio" Json.asFloat? fun v r => { r with unwindRatio := v },
    .of "warningTimeInMs" Json.asInt64? fun v r => { r with warningTimeInMs := v },
    .of "errorTimeInMs" Json.asInt64? fun v r => { r with errorTimeInMs := v },
    .of "parallelism" Json.asText? fun v r => { r with parallelism := v } ]

def ofJson? : Json → Option ScheduleConfig := Json.asRecord? fields {}

end ScheduleConfig

namespace VirtualNode

def fields : List (Json.Field VirtualNode) :=
  [ .of "startToken" Json.asInt64? fun v r => { r with startToken := v },
    .of "endToken" Json.asInt64? fun v r => { r with endToken := v },
    .of "replicas" (Json.asList? Json.asText?) fun v r => { r with replicas := v },
    .of "lastRepairedAtInMs" Json.asInt64? fun v r => { r with lastRepairedAtInMs := v },
    .of "repaired" Json.asBool? fun v r => { r with repaired := v } ]

def ofJson? : Json → Option VirtualNode := Json.asRecord? fields {}

end VirtualNode

namespace Schedule

def fields : List (Json.Field Schedule) :=
  [ .of "id" Json.asText? fun v r => { r with id := v },
    .of "keyspace" Json.asText? fun v r => { r with keyspace := v },
    .of "table" Json.asText? fun v r => { r with table := v },
    .of "status" Json.asText? fun v r => { r with status := v },
    .of "repairedRatio" Json.asFloat? fun v r => { r with repairedRatio := v },
    .of "lastRepairedAtInMs" Json.asInt64? fun v r => { r with lastRepairedAtInMs := v },
    .of "nextRepairInMs" Json.asInt64? fun v r => { r with nextRepairInMs := v },
    .of "config" ScheduleConfig.ofJson? fun v r => { r with config := v },
    .of "repairType" Json.asText? fun v r => { r with repairType := v },
    .of "virtualNodeStates" (Json.asOptional? (Json.asList? VirtualNode.ofJson?))
      fun v r => { r with virtualNodeStates := v } ]

def ofJson? : Json → Option Schedule := Json.asRecord? fields {}

end Schedule
end RepairConsole
