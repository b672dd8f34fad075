import RepairConsole.Rehearsal.Shell.State
/-!
# Jobs

The shell's commands for processes that run aside, and for signals.
-/

namespace RepairConsole.Rehearsal.Shell

/-! ## Sending signals -/

/-- What a `kill` is to do. -/
inductive Kill where
  | send (signal : Nat) (targets : List String)
  | list (statuses : List String)
  /-- It cannot be done, for a reason. -/
  | wrong (reason : String)

namespace Kill

def usage : String :=
  "kill: Usage: kill [-s sigspec | -signum | -sigspec] [pid | job]... or\nkill -l [exitstatus]"

def read : List String → Kill
  | [] => .wrong usage
  | "-l" :: statuses => .list statuses
  | ["-s"] => .wrong "kill: No arg for -s option"
  | "-s" :: name :: targets =>
    sending name targets ("kill: invalid signal number or name: " ++ name)
  | word :: targets =>
    match word.toList with
    | ['-', '-'] => if targets.isEmpty then .wrong usage else .send Process.terminateSignal targets
    | '-' :: c :: name =>
      sending (String.ofList (c :: name)) targets ("kill: Illegal option -" ++ String.singleton c)
    | _ => .send Process.terminateSignal (word :: targets)
where
  sending (name : String) (targets : List String) (reason : String) : Kill :=
    match Signal.number? name with
    | none => .wrong reason
    | some signal => if targets.isEmpty then .wrong usage else .send signal targets

end Kill

/-- A process aside gets a signal. If it still runs it ends, and does nothing of what it
would have done after that. -/
def strikeAside (signal : Nat) (aside : Aside) (s : State) : State :=
  if signal = 0 || aside.ends ≤ s.clock || Signal.isHarmless signal then s
  else
    let struck : Aside := { aside with ends := s.clock, fate := .killed signal }
    { s with
      asides := s.asides.map fun a => if a.id == aside.id then struck else a
      besides := s.besides.filter fun b => !(b.1 == aside.id && s.clock < b.2.time) }

/-- Sends a signal to processes, of which only those of the script are known. -/
def sendEach (signal : Nat) : List String → State → State
  | [], s => s
  | text :: rest, s =>
    match text.toNat? with
    | none =>
      if text.startsWith "%" then s.object ("kill: No such job: " ++ text) 2
      else s.object ("kill: Illegal number: " ++ text) 2
    | some target =>
      match s.asides.find? (·.id == target) with
      | some aside => sendEach signal rest (strikeAside signal aside s)
      | none =>
        if (s.self :: s.pid :: s.around).contains target then
          sendEach signal rest (if signal = 0 then s else s.send target signal)
        else sendEach signal rest (s.object "kill: No such process\n" 1)

def kill (arguments : List String) (s : State) : State :=
  match Kill.read arguments with
  | .wrong reason => s.object reason 2
  | .send signal targets => sendEach signal targets { s with status := 0 }
  | .list statuses =>
    statuses.foldl (fun s text =>
      let number := (text.toNat?.map fun n => if 128 < n then n - 128 else n).filter fun n =>
        0 < n && n < Signal.limit
      match text.toNat?, number with
      | none, _ => s.object ("kill: Illegal number: " ++ text) 2
      | _, none => s.object ("kill: invalid signal number or exit status: " ++ text) 2
      | _, some n => s.print s.out (Tool.bytesOf (Signal.nameOf n ++ "\n"))) { s with status := 0 }

/-! ## Waiting -/

/-- What `wait` ends with when a signal comes. -/
def interrupted (s : State) : State :=
  match s.due with
  | signal :: _ => { s with status := 128 + signal }
  | [] => s

/-- Waits for processes that run aside. -/
def waitEach : List String → State → State
  | [], s => s
  | text :: rest, s =>
    match text.toNat? with
    | none =>
      if text.startsWith "%" then s.object ("wait: No such job: " ++ text) 2
      else s.object ("wait: Illegal number: " ++ text) 2
    | some id =>
      match s.asides.find? (·.id == id) with
      | none => waitEach rest { s with status := 127 }
      | some aside =>
        let s := s.rest aside.ends
        if !s.due.isEmpty || s.fate.isSome then interrupted s
        else
          waitEach rest { s.mourn aside.fate with asides := s.asides.filter (·.id != id) }

def wait (arguments : List String) (s : State) : State :=
  if arguments.isEmpty then
    let s := s.rest (s.asides.foldl (fun time aside => max time aside.ends) s.clock)
    if !s.due.isEmpty || s.fate.isSome then interrupted s
    else { s with asides := [], status := 0 }
  else waitEach arguments { s with status := 0 }

/-! ## Traps -/

/-- What a trap is set for. Zero stands for the end of the script. -/
def occasion? (text : String) : Option Nat :=
  if text.toUpper = "EXIT" then some 0 else Signal.number? text

def occasionName (n : Nat) : String := if n = 0 then "EXIT" else Signal.nameOf n

/-- Runs of single quotes, and runs of what stands between them. -/
def quoteRuns (cs : List Char) : List (Bool × List Char) :=
  cs.foldr (fun c runs =>
    match runs with
    | (isQuote, run) :: rest =>
      if isQuote == (c == '\x27') then (isQuote, c :: run) :: rest
      else (c == '\x27', [c]) :: runs
    | [] => [(c == '\x27', [c])]) []

/-- A text as it can be read again: in single quotes, and those in double quotes. -/
def quotedText (text : String) : String :=
  let between (run : Bool × List Char) : String :=
    let mark := if run.1 then "\x22" else "\x27"
    mark ++ String.ofList run.2 ++ mark
  match quoteRuns text.toList with
  | (true, run) :: rest => "\x27\x27" ++ String.join (((true, run) :: rest).map between)
  | [] => "\x27\x27"
  | runs => String.join (runs.map between)

def showTraps (s : State) : State :=
  let sorted := s.traps.mergeSort fun a b => decide (a.1 ≤ b.1)
  let lines := sorted.map fun trap =>
    "trap -- " ++ quotedText trap.2 ++ " " ++ occasionName trap.1 ++ "\n"
  { s.print s.out (Tool.bytesOf (String.join lines)) with status := 0 }

/-- Sets an action for one occasion after the other; a hyphen takes it away again. -/
def setTraps (action : String) : List String → State → State
  | [], s => { s with status := 0 }
  | text :: rest, s =>
    match occasion? text with
    | none => { s.complain ("trap: " ++ text ++ ": bad trap\n") with status := 1 }
    | some occasion =>
      let others := s.traps.filter (·.1 != occasion)
      setTraps action rest
        { s with traps := if action = "-" then others else (occasion, action) :: others }

def trap : List String → State → State
  | [], s => showTraps s
  | [occasion], s =>
    match occasion.toList with
    | '-' :: c :: _ =>
      if c = '-' then showTraps s else s.fail ("trap: Illegal option -" ++ String.singleton c) 2
    | _ => setTraps "-" [occasion] s
  | "--" :: occasion :: [], s => setTraps "-" [occasion] s
  | "--" :: action :: occasions, s => setTraps action occasions s
  | action :: occasions, s =>
    match action.toList with
    | '-' :: c :: _ => s.fail ("trap: Illegal option -" ++ String.singleton c) 2
    | _ => setTraps action occasions s

/-! ## Examples -/

example : quotedText "it\x27s" = "\x27it\x27\x22\x27\x22\x27s\x27" := by decide +kernel

end RepairConsole.Rehearsal.Shell
