import RepairConsole.Json.Record
/-! # Repairs that were triggered by hand -/

namespace RepairConsole

/-- A repair of one table on one host, outside of its schedule. -/
structure OnDemandRepair where
  id : String := ""
  hostId : String := ""
  keyspace : String := ""
  table : String := ""
  status : String := ""
  repairedRatio : Float := 0.0
  completedAt : Int := 0
  repairType : String := ""

namespace OnDemandRepair

def fields : List (Json.Field OnDemandRepair) :=
  [ .of "id" Json.asText? fun v r => { r with id := v },
    .of "hostId" Json.asText? fun v r => { r with hostId := v },
    .of "keyspace" Json.asText? fun v r => { r with keyspace := v },
    .of "table" Json.asText? fun v r => { r with table := v },
    .of "status" Json.asText? fun v r => { r with status := v },
    .of "repairedRatio" Json.asFloat? fun v r => { r with repairedRatio := v },
    .of "completedAt" Json.asInt64? fun v r => { r with completedAt := v },
    .of "repairType" Json.asText? fun v r => { r with repairType := v } ]

def ofJson? : Json → Option OnDemandRepair := Json.asRecord? fields {}

end OnDemandRepair
end RepairConsole
