import RepairConsole.CommandLine.Help
import RepairConsole.CommandLine.Invocation
import RepairConsole.Query.Attempt
import RepairConsole.Supervisor.Start
import RepairConsole.Supervisor.Stop
import RepairConsole.Url.Base
/-!
# Attempting a command line

From the words of a command line to its exit code. Starting and stopping never ask the
service, and questions never touch a process. A fault is printed where the results are, and
its kind decides the exit code. Only questions can break off; the exit code is then none that
a fault has.
-/

namespace RepairConsole.CommandLine

/-- What the console asks of its host. -/
inductive Request where
  /-- The installation that the operator has set, if any. -/
  | home
  /-- The path of the program itself, with no links and dots in it. -/
  | executable
  | launch (request : Launch.Request)
  | supervise (request : Supervisor.Request)
  | query (origin : Url.Origin) (request : Query.Request)
  | print (bytes : ByteArray)

abbrev Request.Answer : Request → Type
  | .home => Option String
  | .executable => String
  | .launch q => q.Answer
  | .supervise q => q.Answer
  | .query _ q => q.Answer
  | .print _ => Except SystemError Unit

abbrev Conversation := Dialogue Request Request.Answer

def home : Conversation (Option String) := .ask .home .done

def executable : Conversation String := .ask .executable .done

/-- Prints a text, for better or worse. -/
def print (text : String) : Conversation Unit := .ask (.print text.toUTF8) fun _ => .done ()

def launching {α : Type} (d : Launch.Conversation α) : Conversation α :=
  d.via fun q => .ask (.launch q) .done

def supervising {α : Type} (d : Supervisor.Conversation α) : Conversation α :=
  d.via fun q => .ask (.supervise q) .done

def querying {α : Type} (origin : Url.Origin) (d : Query.Conversation α) : Conversation α :=
  d.via fun q => .ask (.query origin q) .done

/-! ## The installation -/

/-- The installation that holds a program: it lies in a directory of it. -/
def rootOf (program : String) : Except Fault String :=
  match (Path.parent? program).bind Path.parent? with
  | some root => .ok root
  | none => .error (.noInstallation program)

/-- The installation: the one that was set, unless the setting is empty, else the one that
holds the program. -/
def installation : Conversation (Except Fault String) := do
  match given (← home) with
  | some root => return .ok root
  | none => return rootOf (← executable)

def defaultPidfile (root : String) : String := Path.join root "ecc.pid"

/-! ## Commands -/

def runStart (foreground : Bool) (pidfile : Option String) : Conversation (Except Fault Unit) := do
  match ← installation with
  | .error fault => return .error fault
  | .ok root =>
    match ← launching (Launch.ofInstallation root foreground) with
    | .error fault => return .error fault
    | .ok launch =>
      let pidfile := pidfile.getD (defaultPidfile root)
      return (← supervising (Supervisor.start pidfile launch foreground)).map fun _ => ()

/-- The pid file to stop by. The installation matters only where none was named. -/
def stopFile : Option String → Conversation (Except Fault String)
  | some pidfile => .done (.ok pidfile)
  | none => do return (← installation).map defaultPidfile

def runStop (pidfile : Option String) : Conversation (Except Fault Unit) := do
  match ← stopFile pidfile with
  | .error fault => return .error fault
  | .ok pidfile => return (← supervising (Supervisor.stop pidfile)).map fun _ => ()

/-- Puts a query to the service; nothing comes of it if its report breaks off. -/
def attemptQuery (url : Option String) (command : Query.Command) :
    Conversation (Option (Except Fault Unit)) := do
  match Url.baseOfOption url with
  | .error fault => return some (.error fault)
  | .ok origin => querying origin (Query.attempt command)

def Invocation.attempt : Invocation → Conversation (Option (Except Fault Unit))
  | .query url command => attemptQuery url command
  | .start foreground pidfile => do return some (← runStart foreground pidfile)
  | .stop pidfile => do return some (← runStop pidfile)
  | .completion shell => do
    print shell.script
    return some (.ok ())

/-- The exit code of a program that broke off. -/
def brokenOff : Nat := 101

/-- The exit code, after a fault has been reported. -/
def conclude : Option (Except Fault Unit) → Conversation Nat
  | none => .done brokenOff
  | some (.ok ()) => .done 0
  | some (.error fault) => do
    print fault.failure.report
    return fault.failure.exitCode

/-- Does what is done where no command is run. -/
def Halt.run : Halt → Conversation Nat
  | .help verb => do
    print (helpText verb)
    return 0
  | .version => do
    print versionLine
    return 0
  | .misuse => return FailureKind.exitCode .usage

/-- Runs the words of a command line as far as that goes, and tells the exit code. -/
def attempt (words : List String) : Conversation Nat := do
  match read words with
  | .error halt => halt.run
  | .ok invocation => conclude (← invocation.attempt)

end RepairConsole.CommandLine
