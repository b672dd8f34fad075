/-!
# Commands and their options

What can be written on the command line: the commands, the options of each, and what an
option takes.
-/

namespace RepairConsole.CommandLine

/-- What has to follow an option. -/
inductive Takes where
  | nothing
  | text
  /-- A text that is not empty. -/
  | path
  /-- A whole number, which may be negative. -/
  | number
  /-- A text that may look like an option. -/
  | anything
  deriving DecidableEq, Repr

/-- An option, by its long name and the letter that stands for it. -/
structure Choice where
  letter : Option Char
  name : String
  takes : Takes
  deriving DecidableEq, Repr

/-- The commands. -/
inductive Verb where
  | repairs
  | schedules
  | runRepair
  | repairInfo
  | start
  | stop
  | status
  | completion
  deriving DecidableEq, Repr

namespace Choice

def keyspace : Choice := ⟨some 'k', "keyspace", .text⟩
def table : Choice := ⟨some 't', "table", .text⟩
def url : Choice := ⟨some 'u', "url", .text⟩
def id : Choice := ⟨some 'i', "id", .text⟩
def limit : Choice := ⟨some 'l', "limit", .number⟩
def hostId : Choice := ⟨none, "hostid", .text⟩
def full : Choice := ⟨some 'f', "full", .nothing⟩
def localOnly : Choice := ⟨none, "local", .nothing⟩
def since : Choice := ⟨some 's', "since", .text⟩
def duration : Choice := ⟨some 'd', "duration", .anything⟩
def foreground : Choice := ⟨some 'f', "foreground", .nothing⟩
def pidfile : Choice := ⟨some 'p', "pidfile", .path⟩

end Choice

namespace Verb

def all : List Verb :=
  [repairs, schedules, runRepair, repairInfo, start, stop, status, completion]

def name : Verb → String
  | repairs => "repairs"
  | schedules => "schedules"
  | runRepair => "run-repair"
  | repairInfo => "repair-info"
  | start => "start"
  | stop => "stop"
  | status => "status"
  | completion => "completion"

/-- What a command is for. -/
def purpose : Verb → String
  | repairs => "Show status of triggered repairs"
  | schedules => "Show status of schedules"
  | runRepair => "Run a single repair on a table"
  | repairInfo => "Show information about repairs per table"
  | start => "Start ecChronos service"
  | stop => "Stop ecChronos service"
  | status => "Show status of ecChronos service"
  | completion => "Generate shell completion scripts"

def choices : Verb → List Choice
  | repairs => [.keyspace, .table, .url, .id, .limit, .hostId]
  | schedules => [.keyspace, .table, .url, .id, .full, .limit]
  | runRepair => [.url, .localOnly, .keyspace, .table]
  | repairInfo => [.keyspace, .table, .since, .duration, .localOnly, .url, .limit]
  | start => [.foreground, .pidfile]
  | stop => [.pidfile]
  | status => [.url]
  | completion => []

/-- The command of a name, which has to be written out in full. -/
def named? (text : String) : Option Verb := all.find? fun verb => verb.name == text

theorem named?_name (verb : Verb) : named? verb.name = some verb := by
  cases verb <;> decide

end Verb
end RepairConsole.CommandLine
