import RepairConsole.Rehearsal.Program
import RepairConsole.Rehearsal.Shell.Job
import RepairConsole.Rehearsal.Shell.Reading
/-!
# The shell's own commands

Those that change the shell itself, and programs that it need not start since it can do as
they do.
-/

namespace RepairConsole.Rehearsal.Shell

/-- The commands whose mistakes end a script, and before which variables are set to stay. -/
def specials : List String :=
  [".", ":", "break", "continue", "eval", "exec", "exit", "export", "readonly", "return", "set",
    "shift", "times", "trap", "unset"]

/-- The shell's other commands. -/
def ordinaries : List String :=
  ["alias", "cd", "command", "getopts", "hash", "jobs", "kill", "local", "read", "type", "ulimit",
    "umask", "unalias", "wait"] ++ (Tool.builtIn.filter (· != ":"))

/-! ## Variables -/

/-- Does something with each name of a list, after setting it where a value stands with it. -/
def declare (act : String → State → State) : List String → State → State
  | [], s => s
  | word :: rest, s =>
    match word.toList.span (· != '=') with
    | (name, _ :: value) =>
      let name := String.ofList name
      declare act rest (act name (s.setVariable name (String.ofList value)))
    | _ => declare act rest (act word s)

/-- Shows the variables of a list. -/
def showVariables (front : String) (names : List String) (s : State) : State :=
  let lines := (names.mergeSort (· ≤ ·)).map fun name =>
    match s.bindings.lookup name with
    | some value => front ++ name ++ "=" ++ quotedText value ++ "\n"
    | none => front ++ name ++ "\n"
  { s.print s.out (Tool.bytesOf (String.join lines)) with status := 0 }

/-- Makes variables those of the function that runs. -/
def makeLocal (words : List String) (s : State) : State :=
  words.foldl (fun s word =>
    let name := String.ofList (word.toList.takeWhile (· != '='))
    let s := { s with hidden := (name, s.bindings.lookup name) :: s.hidden }
    declare (fun _ s => s) [word] s) { s with status := 0 }

/-- Takes variables or functions away. -/
def unset (arguments : List String) (s : State) : State :=
  match arguments with
  | "-f" :: names => { s with functions := s.functions.filter (!names.contains ·.1), status := 0 }
  | _ =>
    let names := if arguments.head? = some "-v" then arguments.tail else arguments
    match names.find? s.fixed.contains with
    | some name => s.fail ("unset: " ++ name ++ ": is read only") 2
    | none =>
      { names.foldl (fun s name => s.bind name none) s with
        exported := s.exported.filter (!names.contains ·), status := 0 }

/-- Without a terminal no jobs are watched over. -/
def unwatched (front : String) (s : State) : State :=
  if s.options.has 'm' then
    { s.object (front ++ "can't access tty; job control turned off") 0 with
      options := s.options.set 'm' false }
  else s

/-- Sets options, and arguments if there are any. -/
def setOptions (words : List String) (s : State) : State :=
  match Settings.read false s.options words with
  | .error reason => s.fail ("set: " ++ reason) 2
  | .ok settings =>
    let s := (s.print s.out (Tool.bytesOf settings.listing))
    let isKept := settings.arguments.isEmpty && !settings.marked
    { unwatched "set: " { s with options := settings.options } with
      arguments := if isKept then s.arguments else settings.arguments, status := 0 }

/-! ## Places -/

def changeDirectory (arguments : List String) (s : State) : State :=
  let target :=
    match arguments with
    | "--" :: target :: _ | "-P" :: target :: _ | "-L" :: target :: _ => target
    | "-" :: _ => (s.bindings.lookup "OLDPWD").getD ""
    | target :: _ => target
    | [] => (s.bindings.lookup "HOME").getD "/root"
  match s.disk.find s.here (if target.isEmpty then "." else target) with
  | .ok (place, .directory) =>
    let s := s.bind "OLDPWD" (some (Path.ofPlace s.here))
    let s := { s with here := place, status := 0 }.bind "PWD" (some (Path.ofPlace place))
    if arguments = ["-"] then s.print s.out (Tool.bytesOf (Path.ofPlace place ++ "\n")) else s
  | _ => s.object ("cd: can't cd to " ++ target) 2

/-! ## What names mean -/

def keywordNames : List String :=
  ["!", "case", "do", "done", "elif", "else", "esac", "fi", "for", "if", "in", "then", "until",
    "while", "\x7b", "\x7d"]

/-- What a name means, in words (`verbose`) or as it would be called. -/
def meaning? (verbose : Bool) (name : String) (s : State) : Option String :=
  let told (short long : String) : Option String := some (if verbose then name ++ long else short)
  if keywordNames.contains name then told name " is a shell keyword"
  else if (s.functions.lookup name).isSome then told name " is a shell function"
  else if specials.contains name then told name " is a special shell builtin"
  else if ordinaries.contains name then told name " is a shell builtin"
  else
    match s.disk.program true s.here s.searchPath name with
    | .ok found => told found.path (" is " ++ found.path)
    | .error _ => none

/-- Tells the meanings of names. -/
def tellMeanings (verbose : Bool) (names : List String) (s : State) : State :=
  names.foldl (fun s name =>
    match meaning? verbose name s with
    | some text => s.print s.out (Tool.bytesOf (text ++ "\n"))
    | none =>
      let s := if verbose then s.print s.out (Tool.bytesOf (name ++ ": not found\n")) else s
      { s with status := 127 }) { s with status := 0 }

/-! ## By name -/

/-- A number that a command is given, or another where it is given none. -/
def count? (arguments : List String) (other : Nat) : Option Nat :=
  match arguments with
  | [] => some other
  | text :: _ => Text.readDigits? text.toList

/-- Leaves what runs, if there is so much to be left. -/
def leave (name : String) (arguments : List String) (s : State) : State :=
  match (count? arguments 1).filter (0 < ·) with
  | none => s.fail (name ++ ": Illegal number: " ++ arguments.headD "") 2
  | some count =>
    if s.loops = 0 then { s with status := 0 }
    else
      let count := min count s.loops
      { s with
        status := 0
        leaving := some (if name = "break" then .loops count else .turn (count - 1)) }

/-- What the shell does itself; none for a program. -/
def builtIn? (name : String) (arguments : List String) (s : State) : Option State :=
  match name with
  | "exit" | "return" =>
    match count? arguments s.status with
    | none => some (s.fail (name ++ ": Illegal number: " ++ arguments.headD "") 2)
    | some status =>
      if name = "exit" then some { s with fate := some (.exited (status % 256)) }
      else some { s with status, leaving := some .call }
  | "kill" => some (kill arguments s)
  | "cd" => some (changeDirectory arguments s)
  | "shift" =>
    match count? arguments 1 with
    | none => some (s.fail ("shift: Illegal number: " ++ arguments.headD "") 2)
    | some count =>
      if s.arguments.length < count then some (s.fail "shift: can't shift that many" 2)
      else some { s with arguments := s.arguments.drop count, status := 0 }
  | "set" =>
    if arguments.isEmpty then some (showVariables "" (s.bindings.map (·.1)) s)
    else some (setOptions arguments s)
  | "export" =>
    if arguments.isEmpty || arguments = ["-p"] then some (showVariables "export " s.exported s)
    else some (declare State.share arguments { s with status := 0 })
  | "readonly" =>
    if arguments.isEmpty || arguments = ["-p"] then some (showVariables "readonly " s.fixed s)
    else
      some (declare (fun name s => { s with fixed := name :: s.fixed }) arguments
        { s with status := 0 })
  | "local" =>
    if s.calls = 0 then some (s.fail "local: not in a function" 2)
    else some (makeLocal arguments s)
  | "unset" => some (unset arguments s)
  | "read" => some (readLineInto arguments s)
  | "getopts" => some (getOption arguments s)
  | "break" | "continue" => some (leave name arguments s)
  | "type" => some (tellMeanings true arguments s)
  | "wait" => some (wait arguments s)
  | "trap" => some (trap arguments s)
  | "umask" =>
    some { (if arguments.isEmpty then s.print s.out (Tool.bytesOf "0022\n") else s) with
      status := 0 }
  | "jobs" | "ulimit" | "alias" | "unalias" | "hash" | "times" => some { s with status := 0 }
  | _ =>
    if Tool.builtIn.contains name then
      (Tool.run true name s.disk s.here s.input name arguments).map (s.deal true name)
    else none

end RepairConsole.Rehearsal.Shell
