import RepairConsole.Text.Split
/-!
# Paths

Paths as the host spells them: names between slashes. A path keeps its spelling, since that
is what messages and command lines show; which place it names is found by following its
names one by one.
-/

namespace RepairConsole.Path

/-- A path that does not depend on where one stands. -/
def isAbsolute (path : String) : Bool := path.toList.head? == some '/'

/-- Goes on from `base` to `rest`. One slash is put between them where `base` has none at
its end; an absolute `rest` stands alone. -/
def join (base rest : String) : String :=
  if isAbsolute rest then rest
  else if base.isEmpty || base.toList.getLast? == some '/' then base ++ rest
  else base ++ "/" ++ rest

/-- The names that a path goes through. An empty name and a dot go nowhere. -/
def names (path : String) : List String :=
  ((Text.splitAt '/' path.toList).map String.ofList).filter fun name => name != "" && name != "."

/-- Whether a path ends in dots that go into a directory or up from it. -/
def endsInDots (path : String) : Bool :=
  match (Text.splitAt '/' path.toList).getLast? with
  | some last => last == ['.'] || last == ['.', '.']
  | none => false

/-- Whether a path can only name a directory, by ending in a slash or in dots. -/
def namesDirectory (path : String) : Bool :=
  path.toList.getLast? == some '/' || endsInDots path

/-- The place one step above, of a path without dots. There is none above the root, nor
above the empty path. -/
def parent? (path : String) : Option String :=
  let trimmed := path.toList.reverse.dropWhile (· == '/')
  match trimmed with
  | [] => none
  | _ :: _ =>
    match (trimmed.dropWhile (· != '/')) with
    | [] => some ""
    | slashes =>
      match slashes.dropWhile (· == '/') with
      | [] => some "/"
      | above => some (String.ofList above.reverse)

/-- What follows the last dot of a file's name. A dot in front of all else hides a file and
starts no extension. -/
def extension? (name : String) : Option String :=
  match name.toList.reverse.span (· != '.') with
  | (after, '.' :: _ :: _) => some (String.ofList after.reverse)
  | _ => none

/-! ## Where a path leads -/

/-- One step from a place, told by its names from the root downwards. Two dots go up, and
stay at the root. -/
def step (place : List String) (name : String) : List String :=
  if name == ".." then place.dropLast else place ++ [name]

/-- The place of a path for one who stands in `here`. -/
def place (here : List String) (path : String) : List String :=
  (names path).foldl step (if isAbsolute path then [] else here)

/-- An absolute path to a place. -/
def ofPlace (place : List String) : String := "/" ++ "/".intercalate place

end RepairConsole.Path
