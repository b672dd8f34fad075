import RepairConsole.Failure
import RepairConsole.SystemError
import RepairConsole.Url.Defect
/-!
# Faults

All the causes for which an operation of the console gives up, each with what it is about.
`Fault.failure` is the one place that puts them into words.
-/

namespace RepairConsole

/-- A cause for giving up. -/
inductive Fault where
  -- What the operator asked for.
  /-- A duration that starts with a sign. -/
  | signedDuration
  /-- A text that is no duration. -/
  | badDuration (raw : String)
  /-- Neither a start nor a duration was given. -/
  | noWindow
  /-- Epoch milliseconds past the calendar. -/
  | sinceOutOfRange (raw : String)
  /-- A start that is neither epoch milliseconds nor an RFC 3339 time. -/
  | badSince (raw : String)
  /-- All details were asked for, but of no schedule in particular. -/
  | fullWithoutId
  /-- A listing of a table without its keyspace. -/
  | tableAlone
  /-- A repair, or a summary of repairs, of a table without its keyspace. -/
  | repairTableAlone
  | badUrl (raw : String) (defect : Url.Defect)
  | foreignScheme
  | urlWithPath
  -- What the service and the output did.
  /-- The service does not answer. -/
  | unreachable
  | outputFailed (error : SystemError)
  -- The installation and its process.
  | optionsUnreadable (path : String) (error : SystemError)
  | librariesUnlisted (path : String) (error : SystemError)
  | launchFailed (program : String) (error : SystemError)
  | recordUnwritten (path : String) (error : SystemError)
  | relayFailed (error : SystemError)
  /-- The output of the service cannot be read. -/
  | streamUnread (error : SystemError)
  /-- Nobody can tell whether the service has ended. -/
  | endUnknown (error : SystemError)
  /-- There is no record of a process to read. -/
  | recordUnread (path : String) (error : SystemError)
  /-- The record holds no process id. -/
  | recordMalformed (path : String)
  | signalDenied (pid : Nat) (path : String) (error : SystemError)
  | signalFailed (pid : Nat) (error : SystemError)
  | recordUnremoved (path : String) (error : SystemError)
  /-- The program lies too near the root to be inside an installation. -/
  | noInstallation (executable : String)
  deriving DecidableEq, Repr

namespace Fault

def urlHint : String := "Use the format http://<host>:<port>."

def durationHint : String :=
  "Use a simple form like 30s, 30m, 1h, 1d or an ISO-8601 form like pt30m, p1d."

def sinceHint : String :=
  "Use ISO-8601 like 2022-08-22T12:00:00.0+02:00 or epoch milliseconds."

def homeHint : String := "Set ECCHRONOS_HOME to the installation directory."

/-- The fault in words. -/
def failure : Fault → Failure
  | signedDuration =>
    { kind := .invalidArgument
      message := "'+' and '-' is not allowed in duration, check help for more information" }
  | badDuration raw =>
    { kind := .invalidArgument, message := s!"invalid duration '{raw}'", hint := durationHint }
  | noWindow =>
    { kind := .invalidArgument
      message := "Either --duration or --since or both must be provided" }
  | sinceOutOfRange raw =>
    { kind := .invalidArgument, message := s!"invalid --since value '{raw}'", hint := sinceHint }
  | badSince raw =>
    { kind := .invalidArgument, message := s!"invalid --since value '{raw}'", hint := sinceHint
      source := "not an RFC 3339 time" }
  | fullWithoutId => { kind := .invalidArgument, message := "Must specify id with full" }
  | tableAlone => { kind := .invalidArgument, message := "Must specify keyspace" }
  | repairTableAlone =>
    { kind := .invalidArgument
      message := "--keyspace must be specified if table is specified" }
  | badUrl raw defect =>
    { kind := .invalidArgument, message := s!"invalid url '{raw}'", hint := urlHint
      source := defect.text }
  | foreignScheme =>
    { kind := .invalidArgument, message := "url must use http or https scheme"
      hint := urlHint }
  | urlWithPath => { kind := .invalidArgument, message := "url must not include a path" }
  | unreachable => { kind := .serviceUnreachable, message := "ecChronos is not running" }
  | outputFailed error =>
    { kind := .io, message := "failed to write output", source := error.text }
  | optionsUnreadable path error =>
    { kind := .launchFailure, message := "failed to read jvm.options", path := path
      source := error.text }
  | librariesUnlisted path error =>
    { kind := .launchFailure, message := "failed to list service libraries", path := path
      source := error.text }
  | launchFailed program error =>
    { kind := .launchFailure, message := s!"failed to launch {program}", source := error.text }
  | recordUnwritten path error =>
    { kind := .io, message := "failed to write pid file", path := path, source := error.text }
  | relayFailed error =>
    { kind := .io, message := "failed to relay service output", source := error.text }
  | streamUnread error =>
    { kind := .io, message := "failed to read service output", source := error.text }
  | endUnknown error =>
    { kind := .io, message := "failed to wait for service", source := error.text }
  | recordUnread path error =>
    { kind := .notRunning, message := "no pid file found, is ecChronos running?", path := path
      source := error.text }
  | recordMalformed path =>
    { kind := .notRunning, message := "pid file does not contain a process id", path := path }
  | signalDenied pid path error =>
    { kind := .permission, message := s!"not permitted to signal pid {pid}", path := path
      source := error.text }
  | signalFailed pid error =>
    { kind := .io, message := s!"failed to signal pid {pid}", source := error.text }
  | recordUnremoved path error =>
    { kind := .io, message := "failed to remove pid file", path := path, source := error.text }
  | noInstallation executable =>
    { kind := .internal
      message := "cannot derive installation directory from executable path"
      path := executable, hint := homeHint }

end Fault
end RepairConsole
