import RepairConsole.Rehearsal.Tool.Deal
/-!
# Programs that change the disk

They make, move and take away files, one operand after the other. One that cannot be dealt
with is complained about, and the others are dealt with all the same.
-/

namespace RepairConsole.Rehearsal.Tool

def reason (error : SystemError) : String :=
  match error with
  | .errno n => SystemError.errnoName n
  | _ => error.text

/-- The options in front of the operands, as letters. -/
def splitOptions : List String → List Char × List String
  | [] => ([], [])
  | word :: rest =>
    match word.toList with
    | '-' :: '-' :: [] => ([], rest)
    | '-' :: letter :: letters =>
      let (more, operands) := splitOptions rest
      (letter :: letters ++ more, operands)
    | _ => ([], word :: rest)

/-- What a program says about an operand that it cannot deal with. -/
def refusal (called deed operand : String) (error : SystemError) : String :=
  s!"{called}: cannot {deed} '{operand}': " ++ reason error ++ "\n"

/-- Changes the disk for each operand. `act` tells the new disk, or what was in the way, and
`complain` what is said of that. -/
def changeEach (called : String) (complain : String → SystemError → String) (d : Disk)
    (act : Disk → String → Except SystemError Disk) (operands : List String) : Deal :=
  if operands.isEmpty then operandMissing called
  else
    operands.foldl (fun deal operand =>
      match act (deal.disk.getD d) operand with
      | .ok disk => { deal with disk }
      | .error error => { deal.say (.complaint (complain operand error)) with code := 1 }) {}

def rm (called : String) (d : Disk) (here : List String) (arguments : List String) : Deal :=
  let (options, operands) := splitOptions arguments
  let force := options.contains 'f'
  let deep := options.any "rR".toList.contains
  if force && operands.isEmpty then {}
  else
    changeEach called (refusal called "remove") d (fun d path =>
      match d.find here path with
      | .ok (place, .directory) => if deep then .ok (d.erase place) else .error .isDirectory
      | .ok (place, _) => .ok (d.erase place)
      | .error error => if force && error = .notFound then .ok d else .error error) operands

def touch (called : String) (d : Disk) (here : List String) (arguments : List String) : Deal :=
  changeEach called (refusal called "touch") d (fun d path =>
    match d.find here path with
    | .ok _ => .ok d
    | .error _ => d.write here path ByteArray.empty) (splitOptions arguments).2

def mkdir (called : String) (d : Disk) (here : List String) (arguments : List String) : Deal :=
  let (options, operands) := splitOptions arguments
  let deep := options.contains 'p'
  changeEach called (refusal called "create directory") d (fun d path =>
    if deep then
      let names := Path.names path
      .ok (d.makeDirectories (if Path.isAbsolute path then [] else here) names)
    else
      match d.find here path with
      | .ok _ => .error (.errno 17)
      | .error _ => (d.resolve here path).map fun place => d.put place .directory) operands

/-- Sets or takes away the mark of a program. -/
def chmod (called : String) (d : Disk) (here : List String) (arguments : List String) : Deal :=
  match arguments with
  | mode :: path :: paths =>
    let isProgram := mode.toList.any fun c => "x1357".toList.contains c
    let isPlain := mode.toList.contains '-' && isProgram
    changeEach called
      (fun path error => s!"{called}: cannot access '{path}': " ++ reason error ++ "\n") d
      (fun d path => do
        match ← d.find here path with
        | (place, .file contents marked) =>
          let isNamed := mode.toList.any Char.isAlpha
          let marked := if isPlain then false else isProgram || (isNamed && marked)
          return d.put place (.file contents marked)
        | _ => return d) (path :: paths)
  | [mode] => misused called s!"missing operand after '{mode}'"
  | [] => operandMissing called

/-- Copies a file to another name or into a directory, and takes the first away if `move`. -/
def transferOne (called : String) (move : Bool) (here : List String) (target : String)
    (d : Disk) (source : String) : Except String Disk := do
  let refused (deed path : String) (error : SystemError) : String := refusal called deed path error
  let (place, entry) ← (d.find here source).mapError (refused "stat" source)
  let path :=
    match d.find here target, place.getLast? with
    | .ok (_, .directory), some last => Path.join target last
    | _, _ => target
  let reached ← (d.resolve here path).mapError (refused "create regular file" path)
  return (if move then d.erase place else d).put reached entry

def transfer (called : String) (move : Bool) (d : Disk) (here : List String)
    (arguments : List String) : Deal :=
  let operands := (splitOptions arguments).2
  match operands.getLast?, operands.dropLast with
  | none, _ => misused called "missing file operand"
  | some only, [] => misused called s!"missing destination file operand after '{only}'"
  | some target, sources =>
    let isDirectory := match d.find here target with
      | .ok (_, .directory) => true
      | _ => false
    if 1 < sources.length && !isDirectory then
      failing 1 s!"{called}: target '{target}': No such file or directory\n"
    else
      sources.foldl (fun deal source =>
        match transferOne called move here target (deal.disk.getD d) source with
        | .ok disk => { deal with disk }
        | .error complaint => { deal.say (.complaint complaint) with code := 1 }) {}

def rmdir (called : String) (d : Disk) (here : List String) (arguments : List String) : Deal :=
  changeEach called
    (fun path error => s!"{called}: failed to remove '{path}': " ++ reason error ++ "\n") d
    (fun d path => do
      match ← d.find here path with
      | (place, .directory) =>
        if (d.names place).isEmpty then return d.erase place else .error (.errno 39)
      | _ => .error .notDirectory) arguments

/-- The names in directories, in order, one on a line. -/
def ls (called : String) (d : Disk) (here : List String) (arguments : List String) : Deal :=
  let (options, operands) := splitOptions arguments
  let hidden : List String := if options.contains 'a' then [".", ".."] else []
  let deal := (if operands.isEmpty then ["."] else operands).foldl (fun (deal : Deal) path =>
    match d.find here path with
    | .ok (place, .directory) =>
      let shown (name : String) : Bool := options.any "aA".toList.contains || !name.startsWith "."
      let names := if options.contains 'd' then [path] else (hidden ++ d.names place).filter shown
      let lines := (names.mergeSort (· ≤ ·)).map (· ++ "\n")
      deal.say (.out (bytesOf (String.join lines)))
    | .ok _ => deal.say (.out (bytesOf (path ++ "\n")))
    | .error error =>
      { deal.say (.complaint (refusal called "access" path error)) with code := 2 }) {}
  deal.printing deal.out

end RepairConsole.Rehearsal.Tool
