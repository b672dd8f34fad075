import RepairConsole.CommandLine.Arguments
import RepairConsole.Query.Command
/-!
# Invocations

What a whole command line asks for.
-/

namespace RepairConsole.CommandLine

/-- A command with its options. -/
inductive Invocation where
  | query (url : Option String) (command : Query.Command)
  | start (foreground : Bool) (pidfile : Option String)
  | stop (pidfile : Option String)
  | completion (shell : Shell)
  deriving DecidableEq, Repr

namespace Given

def value? (choice : Choice) (given : Given) : Option String := given.lookup choice.name

def has (choice : Choice) (given : Given) : Bool := (value? choice given).isSome

/-- The limit that was given, or the one that limits nothing. -/
def limit (given : Given) : Int := ((value? .limit given).bind readNumber?).getD (-1)

end Given

open Given

/-- The invocation of a command with the options that were given. -/
def Verb.invocation (verb : Verb) (given : Given) : Except Halt Invocation :=
  let value (choice : Choice) := value? choice given
  match verb with
  | .repairs =>
    .ok (.query (value .url)
      (.repairs (value .keyspace) (value .table) (value .id) (value .hostId) (limit given)))
  | .schedules =>
    .ok (.query (value .url)
      (.schedules (value .keyspace) (value .table) (value .id) (has .full given) (limit given)))
  | .runRepair =>
    .ok (.query (value .url)
      (.runRepair (value .keyspace) (value .table) (has .localOnly given)))
  | .repairInfo =>
    .ok (.query (value .url)
      (.repairInfo (value .keyspace) (value .table) (value .since) (value .duration)
        (has .localOnly given) (limit given)))
  | .status => .ok (.query (value .url) .status)
  | .start => .ok (.start (has .foreground given) (value .pidfile))
  | .stop => .ok (.stop (value .pidfile))
  | .completion =>
    match (given.lookup "shell").bind Shell.named? with
    | some shell => .ok (.completion shell)
    | none => .error .misuse

/-- What the words after `help` ask for: help on one command, or on all. -/
def readHelp : List String → Halt
  | [] => .help none
  | [word] =>
    match Verb.named? word with
    | some verb => .help (some verb)
    | none => if word = "help" then .help none else .misuse
  | _ => .misuse

/-- What is asked for before any command. -/
def readFront (word : String) : Halt :=
  match word.toList with
  | '-' :: 'h' :: _ => .help none
  | '-' :: 'V' :: _ => .version
  | _ =>
    if word = "--help" then .help none else if word = "--version" then .version else .misuse

/-- Reads a command line. -/
def read : List String → Except Halt Invocation
  | [] => .error .misuse
  | word :: rest =>
    if word = "help" then .error (readHelp rest)
    else
      match Verb.named? word with
      | none => .error (readFront word)
      | some verb => do
        let given ← readWords verb none rest []
        verb.invocation given

end RepairConsole.CommandLine
