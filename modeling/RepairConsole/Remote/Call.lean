import RepairConsole.Record.OnDemandRepair
import RepairConsole.Record.RepairInfo
import RepairConsole.Record.Schedule
import RepairConsole.Url.Base
/-!
# Calls

The six operations of the repair service, version 2 of its interface, and the request that
each of them is.
-/

namespace RepairConsole

/-- An operation with its arguments. What is `none` is left out of the request; an empty
text is sent. -/
inductive Call where
  | listSchedules (keyspace table : Option String)
  | getSchedule (id : String) (full : Bool)
  | listRepairs (keyspace table hostId : Option String)
  | getRepair (id : String) (hostId : Option String)
  | triggerRepair (keyspace table : Option String) (localOnly : Bool)
  | repairInfo (keyspace table since duration : Option String) (localOnly : Bool)
  deriving DecidableEq, Repr

namespace Call

/-- What a successful operation answers with. -/
def Payload : Call → Type
  | listSchedules .. => List Schedule
  | getSchedule .. => Schedule
  | listRepairs .. => List OnDemandRepair
  | getRepair .. => List OnDemandRepair
  | triggerRepair .. => List OnDemandRepair
  | repairInfo .. => RepairInfo

/-- Reads the answer of an operation from its JSON. -/
def payload? : (c : Call) → Json → Option c.Payload
  | listSchedules .. => Json.asList? Schedule.ofJson?
  | getSchedule .. => Schedule.ofJson?
  | listRepairs .. => Json.asList? OnDemandRepair.ofJson?
  | getRepair .. => Json.asList? OnDemandRepair.ofJson?
  | triggerRepair .. => Json.asList? OnDemandRepair.ofJson?
  | repairInfo .. => RepairInfo.ofJson?

/-- Only triggering a repair changes anything. -/
def method : Call → String
  | triggerRepair .. => "POST"
  | _ => "GET"

/-- Where all operations live. -/
def interface : List String := ["repair-management", "v2"]

/-- The resource that an operation is about. -/
def resource : Call → List String
  | listSchedules .. => ["schedules"]
  | getSchedule id _ => ["schedules", id]
  | listRepairs .. => ["repairs"]
  | getRepair id _ => ["repairs", id]
  | triggerRepair .. => ["repairs"]
  | repairInfo .. => ["repairInfo"]

def truth (value : Bool) : String := if value then "true" else "false"

/-- The parameters of an operation, in the order in which they are sent. -/
def parameters : Call → List (String × Option String)
  | listSchedules keyspace table => [("keyspace", keyspace), ("table", table)]
  | getSchedule _ full => [("full", if full then some (truth true) else none)]
  | listRepairs keyspace table hostId =>
    [("keyspace", keyspace), ("table", table), ("hostId", hostId)]
  | getRepair _ hostId => [("hostId", hostId)]
  | triggerRepair keyspace table localOnly =>
    [("keyspace", keyspace), ("table", table), ("isLocal", some (truth localOnly))]
  | repairInfo keyspace table since duration localOnly =>
    [("keyspace", keyspace), ("table", table), ("since", since), ("duration", duration),
      ("isLocal", some (truth localOnly))]

/-! ## The request -/

/-- Adds a segment to a path, of which the last segment comes first. Tabs and line breaks
are dropped from it. A segment of one or two dots adds nothing, and one that becomes so by
what is dropped means a directory. -/
def addSegment (path : List (List Char)) (segment : String) : List (List Char) :=
  if segment = "." ∨ segment = ".." then path
  else
    let written :=
      Url.encodeSegment (segment.toList.filter fun c => !(['\t', '\n', '\r'].contains c))
    if written = ['.'] then [] :: path
    else if written = ['.', '.'] then [] :: Url.goUp path
    else written :: path

/-- The segments of an operation's path. -/
def segments (c : Call) : List (List Char) :=
  ((interface ++ c.resource).foldl addSegment []).reverse

/-- The parameters that are given. -/
def given (c : Call) : List (String × String) :=
  c.parameters.filterMap fun (name, value) => value.map (name, ·)

theorem mem_given {c : Call} {name value : String} :
    (name, value) ∈ c.given ↔ (name, some value) ∈ c.parameters := by
  simp only [given, List.mem_filterMap, Option.map_eq_some_iff, Prod.mk.injEq]
  constructor
  · rintro ⟨⟨n, v⟩, hmem, w, rfl, rfl, rfl⟩
    exact hmem
  · intro h
    exact ⟨_, h, value, rfl, rfl, rfl⟩

/-- The path and the query of an operation. -/
def target (c : Call) : List Char :=
  (c.segments.flatMap fun segment => '/' :: segment) ++
    if c.given.isEmpty then [] else '?' :: Url.encodeQuery c.given

/-- The first line of the request. -/
def requestLine (c : Call) : String :=
  c.method ++ " " ++ String.ofList c.target ++ " HTTP/1.1"

/-- The URL that an operation is sent to. -/
def url (origin : Url.Origin) (c : Call) : String := String.ofList (origin.chars ++ c.target)

example : (listSchedules (some "k s") none).requestLine =
    "GET /repair-management/v2/schedules?keyspace=k+s HTTP/1.1" := by decide +kernel
example : (getRepair "a/b" none).requestLine =
    "GET /repair-management/v2/repairs/a%2Fb HTTP/1.1" := by decide +kernel

end Call
end RepairConsole
