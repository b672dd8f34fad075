import RepairConsole.CommandLine.Attempt
import RepairConsole.Rehearsal.Service
import RepairConsole.Rehearsal.Shell.Run
/-!
# A rehearsed host

Answers all that the console asks, without a network, a disk or processes of its own. What
would be chance on a real host is planned: when somebody tells a relay to leave, how the
system takes a signal, what happens to a file behind the console's back.
-/

namespace RepairConsole.Rehearsal

/-- What happens besides. -/
structure Plan where
  /-- A relay is told to leave from the start. -/
  told : Bool := false
  /-- It is told when the output holds this text. -/
  tellAt : Option String := none
  /-- Signals are not sent, but refused with this error number. -/
  refusal : Option Nat := none
  /-- What becomes of the disk while something is printed. -/
  meanwhile : Disk → Disk := id

/-- A program that was started and has not done anything yet. -/
structure Newborn where
  here : List String
  /-- As what it was called. -/
  name : String
  program : Disk.Program
  arguments : List String
  stream : Shell.Stream

structure Host where
  here : List String
  home : Option String
  executable : String
  searchPath : String
  disk : Disk
  /-- The processes that were started, the newest first. -/
  processes : List Process
  /-- What the newest process is to do, until it is its turn. -/
  newborn : Option Newborn := none
  nextPid : Nat
  output : Sink
  service : Service
  /-- Where the service is. -/
  origin : Url.Origin
  clock : Calendar.Moment
  plan : Plan

namespace Host

def withDisk (result : Except SystemError Disk) (h : Host) : Except SystemError Unit × Host :=
  match result with
  | .ok disk => (.ok (), { h with disk })
  | .error error => (.error error, h)

/-- Whether a relay has been told to leave. -/
def told (h : Host) : Bool :=
  h.plan.told ||
    match h.plan.tellAt with
    | some mark =>
      let text := (Text.Utf8.decode h.output.written).toList
      !text.isEmpty && Text.isWithin mark.toList text
    | none => false

/-! ## Processes -/

def find? (pid : Nat) (h : Host) : Option Process := h.processes.find? (·.pid == pid)

def update (pid : Nat) (f : Process → Process) (h : Host) : Host :=
  { h with processes := h.processes.map fun p => if p.pid == pid then f p else p }

def change (changes : List Disk.Change) (h : Host) : Host :=
  { h with disk := changes.foldl Disk.apply h.disk }

/-- Lets a process get on, and what it changes happen. -/
def advance (pid : Nat) (step : Process → List Disk.Change × Process) (h : Host) : Host :=
  match h.find? pid with
  | some process =>
    let (changes, process) := step process
    (h.change changes).update pid fun _ => process
  | none => h

/-- The bound on what a script can do. -/
def patience : Nat := 20000

/-- All that a program will do. -/
def conduct (h : Host) (pid : Nat) (born : Newborn) (conditions : Conditions) : Course :=
  let s : Shell.State :=
    { disk := h.disk, seen := h.disk, here := born.here, pid, self := pid, name := born.name
      arguments := [], out := born.stream, err := born.stream, unread := conditions.unread
      coming := conditions.asked.map (·, Process.terminateSignal)
      bindings := [("PATH", h.searchPath), ("PWD", Path.ofPlace born.here)]
      exported := ["PATH", "PWD"] }
  let s := (Shell.program patience born.name born.program born.arguments s).settle
  ⟨Event.inOrder (s.events.reverse ++ s.besides.reverse.map (·.2)),
    s.fate.getD (.exited s.status)⟩

/-- The newest process has its turn: it does what it does before it first waits. -/
def wake (conditions : Conditions) (h : Host) : Host :=
  match h.newborn, h.processes.head? with
  | some born, some process =>
    let process := Process.start process.pid conditions (h.conduct process.pid born)
    let h : Host := { h with newborn := none }
    (h.update process.pid fun _ => process).advance process.pid Process.settle
  | _, _ => h

/-- Starts a program in a directory. -/
def begin (launch : Launch) (foreground : Bool) (h : Host) : Except SystemError Newborn := do
  let texts := launch.program :: launch.workingDirectory :: launch.arguments
  if texts.any (·.toList.contains (Char.ofNat 0)) then .error .zeroByte
  match ← h.disk.find h.here launch.workingDirectory with
  | (here, .directory) =>
    let program ← h.disk.program false here h.searchPath launch.program
    let stream := if foreground then Shell.Stream.outside else .lost
    return ⟨here, launch.program, program, launch.arguments, stream⟩
  | _ => .error .notDirectory

/-- Starts a process. It is not its turn yet. -/
def spawn (launch : Launch) (foreground : Bool) (h : Host) : Except SystemError Nat × Host :=
  match h.begin launch foreground with
  | .error error => (.error error, h)
  | .ok newborn =>
    let h := h.wake {}
    let process := Process.unborn h.nextPid
    (.ok process.pid,
      { h with
        newborn, processes := process :: h.processes, nextPid := h.nextPid + 1 })

/-- Takes a child away that nobody shall hear of. -/
def discard (pid : Nat) (h : Host) : Host :=
  { h with newborn := none, processes := h.processes.filter (·.pid != pid) }

/-- Asks a process to end. One whose turn has not come yet never has it. -/
def terminate (target : Int32) (h : Host) : Except SystemError Unit × Host :=
  match h.plan.refusal with
  | some number => (.error (.errno number), h)
  | none =>
    let pid := target.toInt.toNat
    match h.find? pid with
    | some process =>
      if process.reaped then (.error .noSuchProcess, h)
      else
        let isNewest := h.processes.head?.any (·.pid == pid)
        let h : Host := { h with newborn := if isNewest then none else h.newborn }
        (.ok (), h.update pid Process.terminated)
    | none => (.error .noSuchProcess, h)

/-- Prints. Where that fails nobody will read what a process prints that has just been
started. -/
def print (bytes : ByteArray) (h : Host) : Except SystemError Unit × Host :=
  match h.output.write bytes with
  | (.ok (), output) => (.ok (), { h with output, disk := h.plan.meanwhile h.disk })
  | (.error error, _) =>
    let isHeard := h.newborn.any (·.stream == .outside)
    (.error error, if isHeard then h.wake { unread := some 0 } else h)

/-- Relays what a process prints. That takes time, so that the process gets going. -/
def relay (pid : Nat) (h : Host) : Relay.Ending × Host :=
  let h := h.wake {}
  match h.find? pid with
  | none => (.finished, h)
  | some process =>
    let (ending, after) :=
      Relay.relay told (fun line h => h.print ⟨line.toArray⟩) (Relay.lines process.stream) h
    let taken := after.output.written.size - h.output.written.size
    let after := after.advance pid (Process.taken taken)
    match ending with
    | .finished => (ending, after)
    | .cancelled => (ending, after.update pid (Process.abandoned (taken == 0)))
    | .failed _ => (ending, after.update pid (Process.abandoned false))

/-- How a child ended, for the first who waits for it. -/
def wait (pid : Nat) (h : Host) : Option Fate × Host :=
  let h := h.wake {}
  match h.find? pid with
  | some process =>
    if process.reaped then (none, h)
    else (some process.fate, h.advance pid Process.finish)
  | none => (none, h)

/-! ## Answers -/

def answerLaunch : (q : Launch.Request) → Host → q.Answer × Host
  | .readFile path, h => (h.disk.read h.here path, h)
  | .listNames path, h => ((h.disk.list h.here path).map (·.map .ok), h)

def answerSupervisor : (q : Supervisor.Request) → Host → q.Answer × Host
  | .spawn launch foreground, h => h.spawn launch foreground
  | .writeFile path contents, h => h.withDisk (h.disk.write h.here path contents.toUTF8)
  | .readFile path, h => (h.disk.read h.here path, h)
  | .removeFile path, h => h.withDisk (h.disk.remove h.here path)
  | .discard pid, h => ((), h.discard pid)
  | .print bytes, h => h.print bytes
  | .relay pid, h =>
    let (ending, h) := h.relay pid
    (.ok ending, h)
  | .await pid, h => (.ok (), (h.wait pid).2)
  | .terminate pid, h => h.terminate (Supervisor.signalTarget pid)

/-- Whether an address is that of the service. -/
def serves (h : Host) (origin : Url.Origin) : Bool :=
  h.origin.scheme == origin.scheme && h.origin.host == origin.host && h.origin.port == origin.port

def answerQuery (origin : Url.Origin) : (q : Query.Request) → Host → q.Answer × Host
  | .call c, h =>
    if h.serves origin then
      let (outcome, service) := h.service.call origin c
      (outcome, { h with service })
    else (c.outcome origin (.unanswered "connection refused"), h)
  | .clock, h => (h.clock, h)
  | .print bytes, h => h.print bytes

def answer : (q : CommandLine.Request) → Host → q.Answer × Host
  | .home, h => (h.home, h)
  | .executable, h => (h.executable, h)
  | .launch q, h => h.answerLaunch q
  | .supervise q, h => h.answerSupervisor q
  | .query origin q, h => h.answerQuery origin q
  | .print bytes, h => h.print bytes

end Host
end RepairConsole.Rehearsal
