import RepairConsole.Rehearsal.Disk
/-!
# Rehearsed processes

What a process does and when, and what becomes of it. A process takes the course that it
takes when left alone, up to the moment at which somebody asks it to end or stops reading
what it prints; from then on it takes the one that it takes under these conditions.
-/

namespace RepairConsole.Rehearsal

/-- How a process ends. -/
inductive Fate where
  | exited (code : Nat)
  | killed (signal : Nat)
  deriving DecidableEq, Repr

/-- One thing that a process does. -/
inductive Deed where
  | print (bytes : List UInt8)
  /-- It waits for time to pass. -/
  | pause
  | change (changes : List Disk.Change)

/-- A deed and its time, in millionths of a second since the process was started. -/
structure Event where
  time : Nat
  deed : Deed

namespace Event

def isPause (e : Event) : Bool :=
  match e.deed with
  | .pause => true
  | _ => false

def isPrint (e : Event) : Bool :=
  match e.deed with
  | .print _ => true
  | _ => false

/-- What events change on the disk, in order. -/
def changes (events : List Event) : List Disk.Change :=
  events.flatMap fun e =>
    match e.deed with
    | .change changes => changes
    | _ => []

/-- What is printed by them. -/
def printed (events : List Event) : List UInt8 :=
  events.flatMap fun e =>
    match e.deed with
    | .print bytes => bytes
    | _ => []

/-- Events in the order of their times; of those at one time the first stays in front. -/
def inOrder (events : List Event) : List Event :=
  events.mergeSort fun a b => decide (a.time ≤ b.time)

/-- The events that are left when so many bytes of what is printed have been taken. -/
def after : Nat → List Event → List Event
  | _, [] => []
  | 0, events => events
  | n, e :: rest =>
    match e.deed with
    | .print bytes =>
      if bytes.length ≤ n then after (n - bytes.length) rest
      else { e with deed := .print (bytes.drop n) } :: rest
    | _ => after n rest

end Event

/-- What others do to a process. -/
structure Conditions where
  /-- When it is asked to end. -/
  asked : List Nat := []
  /-- From this time on nobody reads what it prints. -/
  unread : Option Nat := none

structure Course where
  events : List Event
  fate : Fate

structure Process where
  pid : Nat
  course : Conditions → Course
  conditions : Conditions
  /-- What it has not done yet, and how it ends after that. -/
  ahead : List Event
  fate : Fate
  /-- Somebody waited for its end, so that nothing is left of it. -/
  reaped : Bool

namespace Process

/-- A process at its start, under conditions. -/
def start (pid : Nat) (conditions : Conditions) (course : Conditions → Course) : Process :=
  { pid, course, conditions, ahead := (course conditions).events
    fate := (course conditions).fate, reaped := false }

/-- The signal that asks a process to end. -/
def terminateSignal : Nat := 15

/-- A process that has not come to do anything yet, and ends if it is asked to. -/
def unborn (pid : Nat) : Process :=
  start pid {} fun conditions =>
    if conditions.asked.isEmpty then ⟨[⟨0, .pause⟩], .exited 0⟩
    else ⟨[], .killed terminateSignal⟩

/-- All that it prints when left alone. -/
def stream (p : Process) : List UInt8 := Event.printed p.ahead

/-- When the pause begins that it makes. -/
def now? (p : Process) : Option Nat := (p.ahead.find? Event.isPause).map (·.time)

/-- Whether it still runs: one that waits for nothing is done at once. -/
def running (p : Process) : Bool := !p.reaped && p.now?.isSome

/-- The process under other conditions, which hold from its pause on. -/
def under (conditions : Conditions) (p : Process) : Process :=
  match p.now? with
  | none => p
  | some now =>
    let done := (p.course p.conditions).events.takeWhile fun e => !(e.isPause && e.time == now)
    let course := p.course conditions
    { p with conditions, ahead := course.events.drop done.length, fate := course.fate }

/-- What a process has changed by its next pause, and what is ahead of it then. What it has
printed by then is still to be taken. -/
def settle (p : Process) : List Disk.Change × Process :=
  let front := p.ahead.takeWhile (!·.isPause)
  (Event.changes front,
    { p with ahead := front.filter Event.isPrint ++ p.ahead.dropWhile (!·.isPause) })

/-- The process when so many bytes of its stream have been taken, and what it has changed by
then. -/
def taken (bytes : Nat) (p : Process) : List Disk.Change × Process :=
  let ahead := Event.after bytes p.ahead
  let done := p.ahead.take (p.ahead.length - ahead.length)
  let (changes, p) := { p with ahead }.settle
  (Event.changes done ++ changes, p)

/-- A process that runs is asked to end. What stands before its pause is done already. -/
def terminated (p : Process) : Process :=
  match p.now? with
  | some now => p.under { p.conditions with asked := p.conditions.asked ++ [now] }
  | none => p

/-- It takes so long until a stream is shut after something was read in vain. -/
def shutTime : Nat := 100

/-- A process whose stream is left. What it prints next is still read, and only then does
the reader find that nobody wants it. `atOnce` tells that nothing was read before. -/
def abandoned (atOnce : Bool) (p : Process) : Process :=
  let later := if atOnce then p.ahead else p.ahead.dropWhile (!·.isPause)
  match p.now?, later.find? Event.isPrint with
  | some now, some e =>
    p.under { p.conditions with unread := some (max now (e.time + shutTime)) }
  | _, _ => p

/-- A process whose end was waited for, and what it changed until then. -/
def finish (p : Process) : List Disk.Change × Process :=
  (Event.changes p.ahead, { p with ahead := [], reaped := true })

end Process
end RepairConsole.Rehearsal
