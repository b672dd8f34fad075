import RepairConsole.Supervisor.Conversation
import RepairConsole.Supervisor.PidFile
/-!
# Stopping the service

The process on record is asked to end and its record is removed; nobody waits for it. A
process that is gone already counts as stopped. Nothing is signalled before the operator has
been told, and a record is kept for as long as its process could not be reached.
-/

namespace RepairConsole.Supervisor

def stopLine (pid : Nat) : String := "Killing ecc with pid " ++ Nat.repr pid

/-- The process that the pid file names. -/
def readPid (pidfile : String) : Conversation (Except Fault Nat) := do
  match (← readFile pidfile).bind SystemError.textOf with
  | .error error => return .error (.recordUnread pidfile error)
  | .ok contents =>
    match PidFile.read? contents with
    | none => return .error (.recordMalformed pidfile)
    | some pid => return .ok pid

/-- Asks the process to end. One that does not exist needs no asking. -/
def signal (pidfile : String) (pid : Nat) : Conversation (Except Fault Unit) := do
  match ← terminate pid with
  | .ok () => return .ok ()
  | .error error =>
    if error = .noSuchProcess then return .ok ()
    else if error.isDenial then return .error (.signalDenied pid pidfile error)
    else return .error (.signalFailed pid error)

/-- Removes the record, if it is still there. -/
def forget (pidfile : String) : Conversation (Except Fault Unit) := do
  match ← removeFile pidfile with
  | .ok () => return .ok ()
  | .error error =>
    if error = .notFound then return .ok () else return .error (.recordUnremoved pidfile error)

/-- Stops the service on record and tells its pid. -/
def stop (pidfile : String) : Conversation (Except Fault Nat) := do
  match ← readPid pidfile with
  | .error fault => return .error fault
  | .ok pid =>
    match ← announce (stopLine pid) with
    | .error fault => return .error fault
    | .ok () =>
      match ← signal pidfile pid with
      | .error fault => return .error fault
      | .ok () =>
        match ← forget pidfile with
        | .error fault => return .error fault
        | .ok () => return .ok pid

end RepairConsole.Supervisor
