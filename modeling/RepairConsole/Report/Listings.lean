import RepairConsole.Record.OnDemandRepair
import RepairConsole.Record.RepairInfo
import RepairConsole.Record.Schedule
import RepairConsole.Report.Arrange
import RepairConsole.Report.Setting
import RepairConsole.Report.Summary
/-!
# Listings

What is to be printed for the records that the service sends, part by part. How much of it is
printed tells its setting.
-/

namespace RepairConsole.Report

/-! ## Schedules -/

/-- Schedules are listed by keyspace, table and id. -/
def scheduleKey (s : Schedule) : List String := [s.keyspace, s.table, s.id]

def scheduleHeaders : List String :=
  [ "Id", "Keyspace", "Table", "Status", "Repaired(%)", "Completed at", "Next repair",
    "Repair type" ]

/-- What a listing and the details say about a schedule alike. -/
def scheduleRow (s : Schedule) : List String :=
  [ s.id, s.keyspace, s.table, s.status, percent s.repairedRatio, time s.lastRepairedAtInMs,
    time s.nextRepairInMs, s.repairType ]

def snapshotLine (now : Calendar.Moment) : String :=
  let taken := Calendar.stampOfSeconds (now.nanos / 1000000000).toNat
  s!"Snapshot as of {taken}"

/-- A listing of schedules as of now. -/
def schedulesParts (now : Calendar.Moment) (limit : Option Nat) (all : List Schedule) :
    List Part :=
  [ .text [snapshotLine now],
    .table scheduleHeaders ((upTo limit (sortOn textsInOrder scheduleKey all)).map scheduleRow),
    .text [summaryLine scheduleStatuses (all.map (·.status))] ]

def schedules (now : Calendar.Moment) (limit : Option Nat) (all : List Schedule) :
    List String :=
  inFull (schedulesParts now limit all)

/-! ## One schedule -/

def virtualNodeHeaders : List String :=
  ["Start token", "End token", "Replicas", "Repaired at", "Repaired"]

def virtualNodeRow (node : VirtualNode) : List String :=
  let replicas := sortOn (fun a b => decide (a ≤ b)) id node.replicas
  [ toString node.startToken, toString node.endToken, ", ".intercalate replicas,
    time node.lastRepairedAtInMs, flag node.repaired ]

def configFields (c : ScheduleConfig) : List (String × String) :=
  [ ("Interval", elapsed c.intervalInMs), ("Unwind ratio", Decimal.floatText c.unwindRatio),
    ("Warning time", elapsed c.warningTimeInMs), ("Error time", elapsed c.errorTimeInMs),
    ("Parallelism", c.parallelism) ]

def detailLines (s : Schedule) : List String :=
  fieldLines "" (List.zip scheduleHeaders (scheduleRow s)) ++ ["Config:"] ++
    fieldLines "  " (configFields s.config)

/-- The virtual nodes, those first that were repaired longest ago. -/
def virtualNodesPart (limit : Option Nat) (nodes : List VirtualNode) : Part :=
  let inOrder := sortOn (fun a b => decide (a ≤ b)) (·.lastRepairedAtInMs) nodes
  .table virtualNodeHeaders ((upTo limit inOrder).map virtualNodeRow)

/-- The details of a schedule, and in full its virtual nodes if it came with any. -/
def scheduleParts (limit : Option Nat) (full : Bool) (s : Schedule) : List Part :=
  .text (detailLines s) ::
    match full, s.virtualNodeStates with
    | true, some nodes => [.text [""], virtualNodesPart limit nodes]
    | _, _ => []

def schedule (limit : Option Nat) (full : Bool) (s : Schedule) : List String :=
  inFull (scheduleParts limit full s)

/-! ## Repairs -/

/-- Repairs are listed by keyspace, table and id. -/
def repairKey (r : OnDemandRepair) : List String := [r.keyspace, r.table, r.id]

def repairHeaders : List String :=
  [ "Id", "Host Id", "Keyspace", "Table", "Status", "Repaired(%)", "Completed at",
    "Repair type" ]

def repairRow (r : OnDemandRepair) : List String :=
  [ r.id, r.hostId, r.keyspace, r.table, r.status, percent r.repairedRatio,
    time r.completedAt, r.repairType ]

/-- A listing of repairs. -/
def repairsParts (limit : Option Nat) (all : List OnDemandRepair) : List Part :=
  [ .table repairHeaders ((upTo limit (sortOn textsInOrder repairKey all)).map repairRow),
    .text [summaryLine repairStatuses (all.map (·.status))] ]

def repairs (limit : Option Nat) (all : List OnDemandRepair) : List String :=
  inFull (repairsParts limit all)

/-! ## Repairs in a window -/

/-- Statistics are listed by keyspace and table. -/
def statsKey (s : RepairStats) : List String := [s.keyspace, s.table]

def statsHeaders : List String := ["Keyspace", "Table", "Repaired (%)", "Repair time taken"]

def statsRow (s : RepairStats) : List String :=
  [s.keyspace, s.table, percent s.repairedRatio, elapsed s.repairTimeTakenMs]

def windowLine (info : RepairInfo) : String :=
  let start := time info.sinceInMs
  let finish := time info.toInMs
  s!"Time window ({start} - {finish})"

/-- What was repaired in a window of time. -/
def repairInfoParts (limit : Option Nat) (info : RepairInfo) : List Part :=
  let shown := upTo limit (sortOn textsInOrder statsKey info.repairStats)
  [.text [windowLine info], .table statsHeaders (shown.map statsRow)]

def repairInfo (limit : Option Nat) (info : RepairInfo) : List String :=
  inFull (repairInfoParts limit info)

end RepairConsole.Report
