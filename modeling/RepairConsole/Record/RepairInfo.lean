import RepairConsole.Json.Record
/-! # What was repaired in a window of time -/

namespace RepairConsole

/-- How much of a table was repaired, and how long that took. -/
structure RepairStats where
  keyspace : String := ""
  table : String := ""
  repairedRatio : Float := 0.0
  repairTimeTakenMs : Int := 0

/-- The window that the service settled on, and its tables. -/
structure RepairInfo where
  sinceInMs : Int := 0
  toInMs : Int := 0
  repairStats : List RepairStats := []

namespace RepairStats

def fields : List (Json.Field RepairStats) :=
  [ .of "keyspace" Json.asText? fun v r => { r with keyspace := v },
    .of "table" Json.asText? fun v r => { r with table := v },
    .of "repairedRatio" Json.asFloat? fun v r => { r with repairedRatio := v },
    .of "repairTimeTakenMs" Json.asInt64? fun v r => { r with repairTimeTakenMs := v } ]

def ofJson? : Json → Option RepairStats := Json.asRecord? fields {}

end RepairStats

namespace RepairInfo

def fields : List (Json.Field RepairInfo) :=
  [ .of "sinceInMs" Json.asInt64? fun v r => { r with sinceInMs := v },
    .of "toInMs" Json.asInt64? fun v r => { r with toInMs := v },
    .of "repairStats" (Json.asList? RepairStats.ofJson?) fun v r => { r with repairStats := v } ]

def ofJson? : Json → Option RepairInfo := Json.asRecord? fields {}

end RepairInfo
end RepairConsole
