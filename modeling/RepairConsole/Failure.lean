/-!
# Failures

What an operator is told when an operation fails: one kind out of a fixed list, a message,
and where there is one a hint, the path concerned and the cause below. The kind alone
decides the exit code.
-/

namespace RepairConsole

/-- The kinds of failure. -/
inductive FailureKind where
  | internal
  | usage
  | invalidArgument
  | serviceUnreachable
  | remoteFailure
  | notRunning
  | launchFailure
  | permission
  | io
  deriving DecidableEq, Repr

namespace FailureKind

/-- What a failure of this kind says when nobody gave it a message. -/
def defaultMessage : FailureKind → String
  | internal => "internal error"
  | usage => "usage error"
  | invalidArgument => "invalid argument"
  | serviceUnreachable => "ecChronos is not running"
  | remoteFailure => "remote request failed"
  | notRunning => "no running instance recorded"
  | launchFailure => "failed to launch service"
  | permission => "permission denied"
  | io => "i/o error"

/-- The exit code: two for a command line that cannot be read, one for all else. -/
def exitCode : FailureKind → Nat
  | usage => 2
  | _ => 1

end FailureKind

/-- A failure as it is shown. -/
structure Failure where
  kind : FailureKind
  message : Option String := none
  hint : Option String := none
  path : Option String := none
  source : Option String := none
  deriving DecidableEq, Repr

namespace Failure

/-- The line that an operator sees: the message, the path in brackets, and the cause. -/
def text (f : Failure) : String :=
  f.message.getD f.kind.defaultMessage ++
    (match f.path with
      | some path => s!" (path: {path})"
      | none => "") ++
    (match f.source with
      | some source => s!": {source}"
      | none => "")

def exitCode (f : Failure) : Nat := f.kind.exitCode

/-- All that the command line prints for a failure. -/
def report (f : Failure) : String :=
  f.text ++ "\n" ++
    (match f.hint with
      | some hint => s!"hint: {hint}\n"
      | none => "")

end Failure
end RepairConsole
