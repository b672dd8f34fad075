import RepairConsole.Supervisor.Conversation
import RepairConsole.Supervisor.PidFile
/-!
# Starting the service

A child that runs is always on record: one whose pid cannot be written down is killed again
before the start gives up. What fails after that leaves the child running, since a stop can
reach it.
-/

namespace RepairConsole.Supervisor

/-- A service that was started. -/
structure Started where
  pid : Nat
  pidfile : String
  workingDirectory : String
  deriving DecidableEq, Repr

def startLine (pid : Nat) : String := "ecc started with pid " ++ Nat.repr pid

/-- Relays the output of a child until it ends, then waits for its end; or leaves it
running when told to. -/
def attend (pid : Nat) : Conversation (Except Fault Unit) := do
  match ← relay pid with
  | .error error => return .error (.streamUnread error)
  | .ok .finished =>
    match ← await pid with
    | .error error => return .error (.endUnknown error)
    | .ok () => return .ok ()
  | .ok .cancelled => return .ok ()
  | .ok (.failed error) => return .error (.relayFailed error)

/-- Announces a child that is on record, and in the foreground attends to it. -/
def present (pid : Nat) (foreground : Bool) : Conversation (Except Fault Unit) := do
  match ← announce (startLine pid) with
  | .error fault => return .error fault
  | .ok () => if foreground then attend pid else return .ok ()

/-- Starts a service and writes its pid to `pidfile`. -/
def start (pidfile : String) (launch : Launch) (foreground : Bool) :
    Conversation (Except Fault Started) := do
  match ← spawn launch foreground with
  | .error error => return .error (.launchFailed launch.program error)
  | .ok pid =>
    match ← writeFile pidfile (PidFile.text pid) with
    | .error error =>
      discard pid
      return .error (.recordUnwritten pidfile error)
    | .ok () =>
      match ← present pid foreground with
      | .error fault => return .error fault
      | .ok () => return .ok ⟨pid, pidfile, launch.workingDirectory⟩

end RepairConsole.Supervisor
