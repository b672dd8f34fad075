/-!
# Signals

Their names and numbers, and what is said of a process that one of them ended.
-/

namespace RepairConsole.Rehearsal.Shell

structure Signal where
  name : String
  number : Nat
  /-- What is said of a process that it ended. -/
  obituary : String
  deriving DecidableEq, Repr

namespace Signal

def all : List Signal :=
  [⟨"HUP", 1, "Hangup"⟩, ⟨"INT", 2, "Interrupt"⟩, ⟨"QUIT", 3, "Quit"⟩,
    ⟨"ILL", 4, "Illegal instruction"⟩, ⟨"TRAP", 5, "Trace/breakpoint trap"⟩,
    ⟨"ABRT", 6, "Aborted"⟩, ⟨"BUS", 7, "Bus error"⟩, ⟨"FPE", 8, "Floating point exception"⟩,
    ⟨"KILL", 9, "Killed"⟩, ⟨"USR1", 10, "User defined signal 1"⟩,
    ⟨"SEGV", 11, "Segmentation fault"⟩, ⟨"USR2", 12, "User defined signal 2"⟩,
    ⟨"PIPE", 13, "Broken pipe"⟩, ⟨"ALRM", 14, "Alarm clock"⟩, ⟨"TERM", 15, "Terminated"⟩,
    ⟨"STKFLT", 16, "Stack fault"⟩, ⟨"CHLD", 17, "Child exited"⟩, ⟨"CONT", 18, "Continued"⟩,
    ⟨"STOP", 19, "Stopped (signal)"⟩, ⟨"TSTP", 20, "Stopped"⟩, ⟨"TTIN", 21, "Stopped (tty input)"⟩,
    ⟨"TTOU", 22, "Stopped (tty output)"⟩, ⟨"URG", 23, "Urgent I/O condition"⟩,
    ⟨"XCPU", 24, "CPU time limit exceeded"⟩, ⟨"XFSZ", 25, "File size limit exceeded"⟩,
    ⟨"VTALRM", 26, "Virtual timer expired"⟩, ⟨"PROF", 27, "Profiling timer expired"⟩,
    ⟨"WINCH", 28, "Window changed"⟩, ⟨"IO", 29, "I/O possible"⟩, ⟨"PWR", 30, "Power failure"⟩,
    ⟨"SYS", 31, "Bad system call"⟩]

def interrupt : Nat := 2
def kill : Nat := 9
def brokenPipe : Nat := 13

/-- Signals have lower numbers than this. -/
def limit : Nat := 65

/-- The number of a signal, by name or in digits. -/
def number? (text : String) : Option Nat :=
  match all.find? (·.name == text.toUpper) with
  | some signal => some signal.number
  | none => text.toNat?.filter (· < limit)

def nameOf (number : Nat) : String :=
  ((all.find? (·.number == number)).map (·.name)).getD (toString number)

/-- What a shell says of a process that a signal ended; of some it says nothing. -/
def said (number : Nat) : String :=
  if number = interrupt || number = brokenPipe then ""
  else
    match all.find? (·.number == number) with
    | some signal => signal.obituary ++ "\n"
    | none => s!"Real-time signal {number - 34}\n"

/-- Signals that nobody minds who has no trap for them. -/
def isHarmless (number : Nat) : Bool := [17, 18, 19, 20, 21, 22, 23, 28].contains number

/-! ## Examples -/

example : nameOf 15 = "TERM" := by decide +kernel

example : said 9 = "Killed\n" := by decide +kernel

end Signal
end RepairConsole.Rehearsal.Shell
