import RepairConsole.Rehearsal.Process
import RepairConsole.Rehearsal.Shell.Options
import RepairConsole.Rehearsal.Shell.Signal
import RepairConsole.Rehearsal.Shell.Syntax
import RepairConsole.Rehearsal.Tool
/-!
# The state of a shell

What a script sees and changes while it runs: the disk, its variables, where its output
goes, the processes that it set off, and a record of what it did and when.
-/

namespace RepairConsole.Rehearsal.Shell

/-- Where what is printed goes. -/
inductive Stream where
  /-- To whoever started the process. -/
  | outside
  /-- To the next statement of a pipeline, or into a word. -/
  | held
  | file (place : List String)
  | lost
  /-- Nowhere, which is a mistake. -/
  | shut
  deriving DecidableEq, Repr

/-- What is on its way out of the statements around it. -/
inductive Leaving where
  /-- So many loops are left. -/
  | loops (count : Nat)
  /-- So many loops are left, and the next one around them takes its next turn. -/
  | turn (count : Nat)
  /-- The function is left, or the script. -/
  | call
  deriving DecidableEq, Repr

/-- A process that was set off to run aside. -/
structure Aside where
  id : Nat
  /-- When it ends, and how. -/
  ends : Nat
  fate : Fate
  deriving DecidableEq

/-- A signal on its way to a process that is not the one at hand. -/
structure Sent where
  target : Nat
  signal : Nat
  time : Nat
  deriving DecidableEq

structure State where
  disk : Disk
  /-- The disk when changes were put on record last. -/
  seen : Disk
  here : List String
  /-- The number of the shell, which is that of the parts of it that run on their own too. -/
  pid : Nat
  /-- The number of the process itself. -/
  self : Nat
  /-- Those of the processes around it, the nearest first. -/
  around : List Nat := []
  /-- How many processes were started. -/
  births : Nat := 0
  /-- The name that the shell goes by. -/
  name : String
  arguments : List String
  bindings : List (String × String)
  /-- The variables that programs see. -/
  exported : List String := []
  /-- The variables that cannot be set. -/
  fixed : List String := []
  functions : List (String × Statement) := []
  /-- What the variables of a function hid. -/
  hidden : List (String × Option String) := []
  /-- How many functions and loops are under way. -/
  calls : Nat := 0
  loops : Nat := 0
  options : Options := {}
  /-- Somebody looks whether the statement does well. -/
  tested : Bool := false
  /-- What is run when a signal comes. Zero stands for the end of the script. -/
  traps : List (Nat × String) := []
  status : Nat := 0
  /-- How the last script ended whose output was put into a word. -/
  answered : Nat := 0
  line : Nat := 1
  /-- How far the options of a word were looked at, and of which word. -/
  letter : Nat := 0
  letterOf : Nat := 0
  input : List UInt8 := []
  /-- What the streams with other numbers read. -/
  inputs : List (Nat × List UInt8) := []
  /-- The number of the stream whose input is read, if it is another's. -/
  inputOf : Option Nat := none
  out : Stream
  err : Stream
  /-- Where the streams with other numbers lead. -/
  others : List (Nat × Stream) := []
  held : List UInt8 := []
  clock : Nat := 0
  /-- Nobody waits for the process. -/
  background : Bool := false
  /-- From this time on nobody reads what goes outside. -/
  unread : Option Nat := none
  /-- What was done, the last first. -/
  events : List Event := []
  /-- What is done aside, each by the process of a number. -/
  besides : List (Nat × Event) := []
  asides : List Aside := []
  /-- The number of the process that was set off last. -/
  lastAside : Option Nat := none
  /-- The signals that will come, with their times. -/
  coming : List (Nat × Nat) := []
  /-- The signals whose traps are to be run next. -/
  due : List Nat := []
  sent : List Sent := []
  fate : Option Fate := none
  leaving : Option Leaving := none

namespace State

def stopped (s : State) : Bool := s.fate.isSome || s.leaving.isSome

/-! ## Signals -/

/-- A signal comes. -/
def receive (signal : Nat) (s : State) : State :=
  if s.fate.isSome then s
  else
    match if signal = Signal.kill then none else s.traps.lookup signal with
    | some action =>
      if action.isEmpty || s.due.contains signal then s else { s with due := s.due ++ [signal] }
    | none =>
      if Signal.isHarmless signal then s else { s with fate := some (.killed signal) }

/-- Takes the signals that have come by now. -/
def collect (s : State) : State :=
  if s.coming.isEmpty then s
  else
    let (here, later) := s.coming.partition fun c => decide (c.1 ≤ s.clock)
    here.foldl (fun s c => s.receive c.2) { s with coming := later }

/-- Sends a signal to the process itself or one around it. -/
def send (target signal : Nat) (s : State) : State :=
  if target = s.self then s.receive signal
  else { s with sent := s.sent ++ [⟨target, signal, s.clock⟩] }

/-! ## Printing -/

/-- Prints to a stream. -/
def print (stream : Stream) (bytes : List UInt8) (s : State) : State :=
  if bytes.isEmpty then s
  else
    match stream with
    | .outside =>
      if s.unread.any (· < s.clock) then s.receive Signal.brokenPipe
      else { s with events := ⟨s.clock, .print bytes⟩ :: s.events }
    | .held => { s with held := s.held ++ bytes }
    | .file place =>
      match s.disk.entry? place with
      | some (.file contents executable) =>
        { s with disk := s.disk.put place (.file (contents ++ ⟨bytes.toArray⟩) executable) }
      | _ => s
    | .lost | .shut => s

def complain (text : String) (s : State) : State := s.print s.err (Tool.bytesOf text)

/-- The shell's own complaint. -/
def object (text : String) (code : Nat) (s : State) : State :=
  { s.complain (s.name ++ ": " ++ toString s.line ++ ": " ++ text ++ "\n") with status := code }

/-- A complaint that ends the script. -/
def fail (text : String) (code : Nat) (s : State) : State :=
  { s.object text code with fate := some (.exited code) }

/-- Says how a process ended that a signal ended. -/
def mourn (fate : Fate) (s : State) : State :=
  match fate with
  | .killed signal => { s.complain (Signal.said signal) with status := 128 + signal }
  | .exited code => { s with status := code }

/-! ## Time -/

/-- It takes so long to get a process going, and a program. -/
def birthTime : Nat := 200
def launchTime : Nat := 500

/-- And so long to run a command. -/
def stepTime : Nat := 5

/-- Puts what was changed on record. -/
def settle (s : State) : State :=
  let changes := s.seen.changes s.disk
  if changes.isEmpty then s
  else { s with events := ⟨s.clock, .change changes⟩ :: s.events, seen := s.disk }

/-- Lets time pass up to a moment. -/
def pass (time : Nat) (s : State) : State :=
  if time ≤ s.clock then s
  else
    let s := s.settle
    { s with
      clock := time
      events := if s.background then s.events else ⟨s.clock, .pause⟩ :: s.events }

/-- Waits for a moment, unless a signal comes that is minded. -/
def rest (time : Nat) (s : State) : State :=
  let isMinded (signal : Nat) : Bool :=
    match s.traps.lookup signal with
    | some action => !action.isEmpty
    | none => !Signal.isHarmless signal
  match (s.coming.filter fun c => c.1 < time && isMinded c.2).mergeSort (fun a b => a.1 ≤ b.1) with
  | [] => (s.pass time).collect
  | first :: _ => (s.pass first.1).collect

/-- A state in which the bound on steps is used up. -/
def exhausted (s : State) : State := { s.pass (s.clock + 1) with fate := some (.exited 0) }

/-- Takes over what a program did. The shell speaks for its own programs. -/
def deal (own : Bool) (called : String) (d : Deal) (s : State) : State :=
  let d := if s.out = .shut && !d.out.isEmpty then d.unheard own called else d
  let s := d.said.foldl (fun s saying =>
    match saying with
    | .out bytes => s.print s.out bytes
    | .complaint text => if own then s.object text d.code else s.complain text) s
  let s := if d.slept = 0 then s else s.rest (s.clock + d.slept)
  { s with
    status := d.code, input := if d.drained then [] else s.input
    disk := d.disk.getD s.disk }

/-! ## Processes -/

/-- A state for a part that runs in a process of its own. It has no traps but those that
ignore. -/
def apart (s : State) : State :=
  { s with
    self := s.pid + 100000 + s.births, around := s.self :: s.around, births := s.births + 1
    traps := s.traps.filter (·.2.isEmpty), loops := 0, asides := [], coming := [], due := [] }

/-- What is left when a part of the script ran on its own, and was waited for. -/
def rejoin (part s : State) : State :=
  let (mine, others) := part.sent.partition (·.target == s.self)
  let s :=
    { s with
      disk := part.disk, seen := part.seen, input := part.input, inputs := part.inputs
      held := part.held
      events := part.events, besides := part.besides, births := part.births
      clock := max s.clock part.clock, sent := others
      coming := s.coming ++ mine.map fun (one : Sent) => (one.time, one.signal) }
  (s.mourn (part.fate.getD (.exited part.status))).collect

/-- What is left when a part runs aside. -/
def setOff (part s : State) : State :=
  let part := part.settle
  let (mine, others) := part.sent.partition (·.target == s.self)
  { s with
    disk := part.disk, seen := part.seen, held := part.held, births := part.births
    sent := others, coming := s.coming ++ mine.map fun (one : Sent) => (one.time, one.signal)
    besides := part.events.map (part.self, ·) ++ part.besides
    asides := ⟨part.self, part.clock, part.fate.getD (.exited part.status)⟩ :: s.asides
    lastAside := some part.self, status := 0 }

/-- A program that takes the place of the shell has no traps, but goes on to ignore what was
ignored. -/
def disarm (s : State) : State := { s with traps := s.traps.filter (·.2.isEmpty) }

/-! ## Variables -/

/-- Sets a variable or takes it away. -/
def bind (name : String) (value : Option String) (s : State) : State :=
  let others := s.bindings.filter (·.1 != name)
  match value with
  | some value => { s with bindings := (name, value) :: others }
  | none => { s with bindings := others }

def share (name : String) (s : State) : State :=
  if s.exported.contains name then s else { s with exported := name :: s.exported }

/-- Sets a variable that a script may set. -/
def setVariable (name value : String) (s : State) : State :=
  if s.fixed.contains name then s.fail (name ++ ": is read only") 2
  else
    let s := s.bind name (some value)
    if s.options.sharing then s.share name else s

/-- What stands between the fields that a value is split into. -/
def separators (s : State) : List Char := ((s.bindings.lookup "IFS").getD " \t\n").toList

/-- The directories in which programs are looked for. -/
def searchPath (s : State) : String := (s.bindings.lookup "PATH").getD ""

/-- The value of a variable, or of one of the shell's own names; none if it is not set. -/
def lookup? (name : String) (s : State) : Option String :=
  match name with
  | "?" => some (toString s.status)
  | "$" => some (toString s.pid)
  | "#" => some (toString s.arguments.length)
  | "-" => some s.options.letters
  | "!" => s.lastAside.map toString
  | "@" => if s.arguments.isEmpty then none else some (" ".intercalate s.arguments)
  | "*" =>
    if s.arguments.isEmpty then none
    else
      let mark := match s.separators with
        | c :: _ => String.singleton c
        | [] => ""
      some (mark.intercalate s.arguments)
  | "0" => some s.name
  | "LINENO" => some (toString s.line)
  | _ =>
    match name.toNat? with
    | some n => s.arguments[n - 1]?
    | none => s.bindings.lookup name

end State

end RepairConsole.Rehearsal.Shell
