import RepairConsole.Rehearsal.Tool.Condition
import RepairConsole.Rehearsal.Tool.Files
import RepairConsole.Rehearsal.Tool.Filter
/-!
# Programs of a rehearsed system

The few programs that rehearsed scripts call, as functions from their arguments and input to
what they print and the code they end with.
-/

namespace RepairConsole.Rehearsal.Tool

/-! ## Counting and waiting -/

def sequence (called : String) (arguments : List String) : Deal :=
  let count (first step last : Int) : Deal :=
    let turns := if step = 0 then 0 else if 0 < step then last - first else first - last
    if step = 0 || turns < 0 then {}
    else
      saying (String.join ((List.range (turns / step.natAbs + 1).toNat).map fun (i : Nat) =>
        toString (first + step * Int.ofNat i) ++ "\n"))
  match arguments.find? fun argument => argument.toInt?.isNone with
  | some bad => misused called s!"invalid floating point argument: '{bad}'"
  | none =>
    match arguments.map fun argument => (argument.toInt?).getD 0 with
    | [last] => count 1 1 last
    | [first, last] => count first 1 last
    | [first, step, last] => count first step last
    | _ => operandMissing called

/-- A time to sleep is digits with at most one point, and a unit or none. It is counted in
millionths of a second. -/
def interval? (text : String) : Option Nat :=
  let units := [('s', 1), ('m', 60), ('h', 3600), ('d', 86400)]
  let unit := text.toList.getLast?.bind fun c => units.lookup c
  let digits := if unit.isSome then text.toList.dropLast else text.toList
  if digits = "infinity".toList || digits = "inf".toList then some 1000000000000000
  else
    match Text.splitAt '.' digits with
    | [whole] => (Text.readDigits? whole).map (· * unit.getD 1 * 1000000)
    | [whole, part] =>
      (Text.readDigits? (whole ++ part)).map fun n =>
        n * unit.getD 1 * 1000000 / Decimal.powerOfTen part.length
    | _ => none

def sleep (called : String) (arguments : List String) : Deal :=
  let wrong := arguments.filter fun a => (interval? a).isNone
  let option := wrong.find? fun word => word.length > 1 && word.startsWith "-"
  match arguments, wrong.getLast?, option with
  | [], _, _ => operandMissing called
  | _, none, _ => { slept := arguments.foldl (fun sum a => sum + (interval? a).getD 0) 0 }
  | _, _, some option =>
    let letter := String.ofList ((option.toList.drop 1).take 1)
    misused called s!"invalid option -- '{letter}'"
  | _, some last, none =>
    let intervals := wrong.dropLast.map fun bad =>
      Saying.complaint s!"{called}: invalid time interval '{bad}'\n"
    let last := misused called s!"invalid time interval '{last}'"
    { last with said := intervals ++ last.said }

/-- A line over and over, as long as anybody reads on. -/
def yes (arguments : List String) : Deal :=
  let line := if arguments.isEmpty then "y" else " ".intercalate arguments
  printed (List.replicate 65536 (bytesOf (line ++ "\n"))).flatten

/-! ## Tests -/

/-- Whether a condition holds. The shell tells itself what is wrong with one. -/
def test (own closed : Bool) (called : String) (d : Disk) (here : List String)
    (arguments : List String) : Deal :=
  let wrong (reason : String) : Deal :=
    failing 2 (called ++ ": " ++ reason ++ if own then "" else "\n")
  if closed && arguments.getLast? != some "]" then wrong "missing ]"
  else
    match Condition.holds d here (if closed then arguments.dropLast else arguments) with
    | .ok value => { code := if value then 0 else 1 }
    | .error reason => wrong reason

/-! ## Paths -/

/-- The last name of a path, without an ending if it has that. -/
def lastName (path ending : String) : String :=
  let trimmed := path.toList.reverse.dropWhile (· == '/')
  if trimmed.isEmpty then if path.isEmpty then "" else "/"
  else
    let name := (trimmed.takeWhile (· != '/')).reverse
    let ending := ending.toList
    if ending != name && ending.isSuffixOf name then
      String.ofList (name.take (name.length - ending.length))
    else String.ofList name

/-- What stands in front of the last name of a path. -/
def inFront (path : String) : String :=
  let trimmed := path.toList.reverse.dropWhile (· == '/')
  let front := trimmed.dropWhile (· != '/')
  if trimmed.isEmpty then if path.isEmpty then "." else "/"
  else if front.isEmpty then "."
  else
    match front.dropWhile (· == '/') with
    | [] => "/"
    | rest => String.ofList rest.reverse

/-! ## By name -/

/-- The programs there are, apart from the shell. -/
def names : List String :=
  ["[", "basename", "cat", "chmod", "cp", "dirname", "echo", "env", "false", "head", "ls", "mkdir",
    "mv", "printf", "pwd", "rm", "rmdir", "seq", "sleep", "sort", "tail", "tee", "test", "touch",
    "tr", "true", "wc", "yes"]

/-- Those that the shell has of its own. -/
def builtIn : List String := ["true", "false", ":", "echo", "printf", "pwd", "test", "["]

/-- Runs a program that goes by a name. `own` tells the shell's own from the system's. -/
def run (own : Bool) (called : String) (d : Disk) (here : List String) (input : List UInt8)
    (tool : String) (arguments : List String) : Option Deal :=
  let (cut, files) := Cut.read arguments
  let whole := gather (fun file error =>
    s!"{called}: cannot open '{file}' for reading: " ++ reason error ++ "\n") d here input files
  match tool with
  | "true" | ":" => some {}
  | "false" => some { code := 1 }
  | "echo" => some (echo own arguments)
  | "printf" => some (printf own called arguments)
  | "cat" => some (gather (unread called) d here input arguments)
  | "pwd" => some (saying (Path.ofPlace here ++ "\n"))
  | "seq" => some (sequence called arguments)
  | "sleep" => some (sleep called arguments)
  | "tr" => some (tr called arguments input)
  | "head" => some (whole.printing (cut.apply cut.front whole.out))
  | "tail" => some (whole.printing (cut.apply cut.back whole.out))
  | "sort" => some (sort called d here input arguments)
  | "wc" => some (wc called d here input arguments)
  | "chmod" => some (chmod called d here arguments)
  | "rm" => some (rm called d here arguments)
  | "touch" => some (touch called d here arguments)
  | "mkdir" => some (mkdir called d here arguments)
  | "rmdir" => some (rmdir called d here arguments)
  | "mv" => some (transfer called true d here arguments)
  | "cp" => some (transfer called false d here arguments)
  | "ls" => some (ls called d here arguments)
  | "tee" => some (tee d here arguments input)
  | "yes" => some (yes arguments)
  | "test" | "[" => some (test own (tool == "[") called d here arguments)
  | "basename" =>
    match arguments with
    | [path] => some (saying (lastName path "" ++ "\n"))
    | [path, ending] => some (saying (lastName path ending ++ "\n"))
    | _ => some (operandMissing called)
  | "dirname" =>
    if arguments.isEmpty then some (operandMissing called)
    else some (saying (String.join (arguments.map fun path => inFront path ++ "\n")))
  | _ => none

end RepairConsole.Rehearsal.Tool
