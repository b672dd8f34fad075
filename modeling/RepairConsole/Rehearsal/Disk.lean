import RepairConsole.Path
import RepairConsole.SystemError
/-!
# A rehearsed disk

Directories and files as a list of places. What goes wrong is answered with the error that a
real disk has for it.
-/

namespace RepairConsole.Rehearsal

inductive Entry where
  | directory
  | file (contents : ByteArray) (executable : Bool)
  /-- A program that comes with the system. -/
  | tool (name : String)
  /-- What is written here is gone. -/
  | void
  /-- Gives the same byte without end. -/
  | endless (byte : UInt8)

/-- Whether two entries are alike. -/
def Entry.isLike : Entry → Entry → Bool
  | .directory, .directory | .void, .void => true
  | .file a isProgram, .file b isProgramToo =>
    isProgram == isProgramToo && a.size == b.size && a.toList == b.toList
  | .tool a, .tool b => a == b
  | .endless a, .endless b => a == b
  | _, _ => false

/-- What stands where, apart from the root. -/
structure Disk where
  entries : List (List String × Entry)

namespace Disk

def entry? (d : Disk) (place : List String) : Option Entry :=
  if place.isEmpty then some .directory else d.entries.lookup place

def put (place : List String) (entry : Entry) (d : Disk) : Disk :=
  ⟨(place, entry) :: d.entries.filter (·.1 != place)⟩

/-- Takes away a place with all below it. -/
def erase (place : List String) (d : Disk) : Disk :=
  ⟨d.entries.filter fun e => !place.isPrefixOf e.1⟩

/-- The names in a directory. -/
def names (d : Disk) (place : List String) : List String :=
  d.entries.filterMap fun e => if e.1.dropLast == place then e.1.getLast? else none

/-! ## Changes -/

/-- What stands at a place from now on, if anything does. -/
structure Change where
  place : List String
  entry : Option Entry

def apply (d : Disk) (c : Change) : Disk :=
  match c.entry with
  | some entry => d.put c.place entry
  | none => d.erase c.place

/-- The changes that lead from one disk to another. -/
def changes (before after : Disk) : List Change :=
  (before.entries.filter fun e => (after.entries.lookup e.1).isNone).map (⟨·.1, none⟩) ++
    (after.entries.filter fun e => !(before.entries.lookup e.1).any e.2.isLike).map fun e =>
      ⟨e.1, some e.2⟩

/-- Makes the directories on the way from a place through `names`. -/
def makeDirectories (place : List String) : List String → Disk → Disk
  | [], d => d
  | name :: rest, d =>
    let next := place ++ [name]
    makeDirectories next rest (if (d.entry? next).isSome then d else d.put next .directory)

/-- Puts an entry at a place, with the directories above it. -/
def install (place : List String) (entry : Entry) (d : Disk) : Disk :=
  (d.makeDirectories [] place.dropLast).put place entry

/-! ## Following paths -/

/-- A name is no longer than so many bytes. -/
def nameLimit : Nat := 255

/-- A path is no longer than so many bytes. -/
def pathLimit : Nat := 4095

/-- Where names lead from a place, as long as directories are on the way. -/
def walk (d : Disk) : List String → List String → Except SystemError (List String)
  | place, [] => .ok place
  | place, name :: rest =>
    match d.entry? place with
    | none => .error .notFound
    | some .directory =>
      if nameLimit < name.utf8ByteSize then .error .nameTooLong
      else walk d (Path.step place name) rest
    | some _ => .error .notDirectory

/-- The place of a path for one who stands in `here`. Its directory is there, itself it need
not be, unless a dot in the path says that one goes into it. -/
def resolve (d : Disk) (here : List String) (path : String) :
    Except SystemError (List String) := do
  if path.toList.contains (Char.ofNat 0) then .error .zeroInPath
  if path.isEmpty then .error .notFound
  if pathLimit < path.utf8ByteSize then .error .nameTooLong
  let place ← d.walk (if Path.isAbsolute path then [] else here) (Path.names path)
  match d.entry? place with
  | none => if Path.endsInDots path then .error .notFound else return place
  | some .directory => return place
  | some _ => if Path.namesDirectory path then .error .notDirectory else return place

/-- What stands at the end of a path. -/
def find (d : Disk) (here : List String) (path : String) :
    Except SystemError (List String × Entry) := do
  let place ← d.resolve here path
  match d.entry? place with
  | none => .error .notFound
  | some entry => return (place, entry)

/-! ## Files -/

/-- So much is read at most of what has no end. -/
def readLimit : Nat := 1048576

def read (d : Disk) (here : List String) (path : String) : Except SystemError ByteArray := do
  match (← d.find here path).2 with
  | .directory => .error .isDirectory
  | .file contents _ => return contents
  | .endless byte => return ⟨Array.replicate readLimit byte⟩
  | .tool _ | .void => return ByteArray.empty

def list (d : Disk) (here : List String) (path : String) : Except SystemError (List String) := do
  match ← d.find here path with
  | (place, .directory) => return d.names place
  | _ => .error .notDirectory

/-- Replaces the contents of a file, or makes it. A path with a slash at its end is none of a
file, whatever stands there. -/
def write (d : Disk) (here : List String) (path : String) (contents : ByteArray) :
    Except SystemError Disk := do
  let bare := path.toList.reverse.dropWhile (· == '/') |>.reverse
  let place ← if bare.isEmpty then d.resolve here path else d.resolve here (String.ofList bare)
  if bare.length < path.length then .error .isDirectory
  match d.entry? place with
  | some .directory => .error .isDirectory
  | some (.tool _) => .error .accessDenied
  | some .void | some (.endless _) => return d
  | some (.file _ executable) => return d.put place (.file contents executable)
  | none => return d.put place (.file contents false)

def remove (d : Disk) (here : List String) (path : String) : Except SystemError Disk := do
  match ← d.find here path with
  | (_, .directory) => .error .isDirectory
  | (place, _) => return d.erase place

/-- A disk with the programs of the system and its devices, and nothing else. -/
def ofTools (tools : List String) : Disk :=
  let place (tool : String) : List (List String × Entry) :=
    [(["bin", tool], .tool tool), (["usr", "bin", tool], .tool tool)]
  tools.foldl (fun d tool => (place tool).foldl (fun d e => d.install e.1 e.2) d)
    (((Disk.mk []).install ["dev", "null"] .void).install ["dev", "zero"] (.endless 0))

end Disk
end RepairConsole.Rehearsal
