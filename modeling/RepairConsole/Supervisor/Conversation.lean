import RepairConsole.Launch
import RepairConsole.Supervisor.Relay
/-!
# What the supervisor asks of its host

Starting and stopping a service touches processes, one file and the operator's output. Each
touch is one request, so that whatever else happens on the host can come between any two.
-/

namespace RepairConsole.Supervisor

inductive Request where
  /-- Start a program. In the foreground its output goes to a stream of ours. -/
  | spawn (launch : Launch) (foreground : Bool)
  /-- Replace the whole contents of a file. -/
  | writeFile (path contents : String)
  | readFile (path : String)
  | removeFile (path : String)
  /-- Kill a child and wait for its end. -/
  | discard (pid : Nat)
  | print (bytes : ByteArray)
  /-- Relay the stream of a child in the foreground to the output, if it can be read. -/
  | relay (pid : Nat)
  /-- Wait for the end of a child. -/
  | await (pid : Nat)
  /-- Ask a process to end. -/
  | terminate (pid : Nat)

abbrev Request.Answer : Request → Type
  | .spawn .. => Except SystemError Nat
  | .writeFile .. => Except SystemError Unit
  | .readFile _ => Except SystemError ByteArray
  | .removeFile _ => Except SystemError Unit
  | .discard _ => Unit
  | .print _ => Except SystemError Unit
  | .relay _ => Except SystemError Relay.Ending
  | .await _ => Except SystemError Unit
  | .terminate _ => Except SystemError Unit

abbrev Conversation := Dialogue Request Request.Answer

/-- The number by which the system is told which process to signal. It is signed there: zero and
the numbers below stand for whole groups of processes. -/
def signalTarget (pid : Nat) : Int32 := (UInt32.ofNat pid).toInt32

def spawn (launch : Launch) (foreground : Bool) : Conversation (Except SystemError Nat) :=
  .ask (.spawn launch foreground) .done

def writeFile (path contents : String) : Conversation (Except SystemError Unit) :=
  .ask (.writeFile path contents) .done

def readFile (path : String) : Conversation (Except SystemError ByteArray) :=
  .ask (.readFile path) .done

def removeFile (path : String) : Conversation (Except SystemError Unit) :=
  .ask (.removeFile path) .done

def discard (pid : Nat) : Conversation Unit := .ask (.discard pid) .done

def print (text : String) : Conversation (Except SystemError Unit) :=
  .ask (.print text.toUTF8) .done

def relay (pid : Nat) : Conversation (Except SystemError Relay.Ending) :=
  .ask (.relay pid) .done

def await (pid : Nat) : Conversation (Except SystemError Unit) := .ask (.await pid) .done

def terminate (pid : Nat) : Conversation (Except SystemError Unit) :=
  .ask (.terminate pid) .done

/-- Prints a line: its text, then its end. -/
def announce (line : String) : Conversation (Except Fault Unit) := do
  match ← print line with
  | .error error => return .error (.outputFailed error)
  | .ok () =>
    match ← print "\n" with
    | .error error => return .error (.outputFailed error)
    | .ok () => return .ok ()

end RepairConsole.Supervisor
