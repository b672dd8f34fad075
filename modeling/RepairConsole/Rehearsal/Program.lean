import RepairConsole.Rehearsal.Disk
import RepairConsole.Text.Blank
import RepairConsole.Text.Utf8
/-!
# Programs on a disk

Which file a program's name means, and whether it can run: it has to be marked as a program,
and a script has to name an interpreter that can run.
-/

namespace RepairConsole.Rehearsal

/-- Who reads a script, as its first line tells. -/
structure Interpreter where
  path : String
  /-- Given to the interpreter before the script. -/
  option : Option String
  deriving DecidableEq, Repr

namespace Interpreter

/-- So many bytes of a script are looked at. -/
def headLimit : Nat := 255

def isGap (c : Char) : Bool := c == ' ' || c == '\t'

/-- The interpreter that the first line of a script names after its mark. -/
def ofLine (line : List Char) : Option Interpreter :=
  let line := ((line.dropWhile isGap).reverse.dropWhile isGap).reverse
  let path := line.takeWhile (!isGap ·)
  let option := (line.dropWhile (!isGap ·)).dropWhile isGap
  if path.isEmpty then none
  else some ⟨String.ofList path, if option.isEmpty then none else some (String.ofList option)⟩

def of? (contents : ByteArray) : Option Interpreter :=
  match (Text.Utf8.decode (contents.extract 0 headLimit)).toList with
  | '#' :: '!' :: rest => ofLine (rest.takeWhile (· != '\n'))
  | _ => none

example : ofLine " /bin/sh -e ".toList = some ⟨"/bin/sh", some "-e"⟩ := by decide +kernel

end Interpreter

namespace Disk

/-- What stands at the path of a program, if it is marked as one. -/
def executable (d : Disk) (here : List String) (path : String) :
    Except SystemError (List String × Entry) := do
  match ← d.find here path with
  | (place, .tool name) => return (place, .tool name)
  | (place, .file contents true) => return (place, .file contents true)
  | _ => .error .accessDenied

/-- A program that was found: the path by which it was, and what stands there. -/
structure Program where
  path : String
  entry : Entry

/-- What runs for the path of a program. Where `loose` is set a script need not name its
interpreter. -/
def runnable (loose : Bool) (d : Disk) (here : List String) (path : String) :
    Except SystemError Program := do
  match (← d.executable here path).2 with
  | .file contents marked =>
    match Interpreter.of? contents with
    | none => if loose then return ⟨path, .file contents marked⟩ else .error .notExecutable
    | some interpreter =>
      let _ ← d.executable here interpreter.path
      return ⟨path, .file contents marked⟩
  | entry => return ⟨path, entry⟩

/-- Whether the search for a program goes on behind a directory where this went wrong. -/
def isPassedOver (error : SystemError) : Bool :=
  error == .notFound || error == .notDirectory || error == .accessDenied

/-- Looks for a program at one path after the other. One that may not be run is remembered,
and is the reason given if no later path has another. -/
def search (loose : Bool) (d : Disk) (here : List String) (reason : SystemError) :
    List String → Except SystemError Program
  | [] => .error reason
  | path :: rest =>
    match d.runnable loose here path with
    | .ok found => .ok found
    | .error error =>
      if isPassedOver error then
        d.search loose here (if reason = .accessDenied then reason else error) rest
      else .error error

/-- The program of a name: a path if it has a slash, else to be looked for. -/
def program (loose : Bool) (d : Disk) (here : List String) (searchPath name : String) :
    Except SystemError Program :=
  if name.isEmpty then .error .notFound
  else if name.toList.contains '/' then d.runnable loose here name
  else
    d.search loose here .notFound
      ((Text.splitAt ':' searchPath.toList).map fun directory =>
        if directory.isEmpty then name else Path.join (String.ofList directory) name)

end Disk
end RepairConsole.Rehearsal
