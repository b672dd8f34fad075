import RepairConsole.Rehearsal.Shell.Arithmetic
import RepairConsole.Rehearsal.Shell.Parameter
import RepairConsole.Rehearsal.Shell.Pattern
import RepairConsole.Rehearsal.Shell.State
import RepairConsole.Text.Utf8
/-!
# Expanding words

The fields that the words of a command come to. Variables, sums and the output of scripts are
put in their places, what comes of them outside quotes is split, and patterns are replaced by
the names of the files that they fit.
-/

namespace RepairConsole.Rehearsal.Shell

/-! ## Fields -/

/-- The fields that words come to: those that are closed, the last first, and the one that is
still open, backwards. -/
structure Fields where
  closed : List (List Mark) := []
  current : Option (List Mark) := none
  /-- A field was ended by white space, and a mark may follow that belongs to it. -/
  ended : Bool := false

namespace Fields

def close (f : Fields) : Fields :=
  match f.current with
  | some field => { f with closed := field.reverse :: f.closed, current := none }
  | none => f

def add (marks : List Mark) (f : Fields) : Fields :=
  { f with current := some (marks.reverse ++ f.current.getD []), ended := false }

def isWhite (c : Char) : Bool := c == ' ' || c == '\t' || c == '\n'

/-- Adds one character of a value that is split. -/
def splitChar (separators : List Char) (f : Fields) (c : Char) : Fields :=
  if !separators.contains c then f.add [⟨c, false⟩]
  else if isWhite c then if f.current.isSome then { f.close with ended := true } else f
  else if f.current.isSome then { f.close with ended := false }
  else if f.ended then { f with ended := false }
  else { f with closed := [] :: f.closed }

/-- A value outside quotes is split at the separators. -/
def split (separators : List Char) (text : String) (f : Fields) : Fields :=
  text.toList.foldl (splitChar separators) f

/-- Values that stay apart from each other. -/
def addEach (put : String → Fields → Fields) (f : Fields) : List String → Fields
  | [] => f
  | [value] => put value f
  | value :: rest => addEach put (put value f).close rest

def toList (f : Fields) : List (List Mark) := f.close.closed.reverse

end Fields

/-! ## Pieces -/

/-- What a script printed, without the line feeds at its end. -/
def printed (bytes : List UInt8) : String :=
  Text.Utf8.decode ⟨(bytes.reverse.dropWhile (· == 10)).reverse.toArray⟩

/-- Runs a script for what it prints. -/
abbrev Output := String → State → List UInt8 × State

/-- How deep words may stand in words. -/
def nesting : Nat := 32

/-- The number that a variable holds for a sum. -/
def numberOf (s : State) (name : String) : Except Arithmetic.Trouble Int :=
  match s.lookup? name with
  | none => if s.options.strict then .error (.unset name) else .ok 0
  | some text =>
    if text.isEmpty then .ok 0
    else
      match Arithmetic.signed? text with
      | some n => .ok n
      | none => .error (.noNumber text)

/-- The value of an expression, in which everything is in its place. -/
def sum (text : String) (s : State) : String × State :=
  let result : Except Arithmetic.Trouble (Int × Arithmetic.Variables) := do
    let expression ← Arithmetic.read text
    Arithmetic.evaluate expression ⟨numberOf s, []⟩
  let place := ": \"" ++ text ++ "\""
  match result with
  | .ok (n, after) =>
    (toString n, after.set.foldr (fun set s => s.setVariable set.1 (toString set.2)) s)
  | .error (.unreadable reason) =>
    ("", s.fail ("arithmetic expression: " ++ reason ++ place) 2)
  | .error .divisionByZero =>
    ("", s.fail ("arithmetic expression: division by zero" ++ place) 2)
  | .error (.noNumber held) => ("", s.fail ("Illegal number: " ++ held) 2)
  | .error (.unset name) => ("", s.fail (name ++ ": parameter not set") 2)

/-- Adds a word to fields, in a state. -/
abbrev Adding := Word → Fields → State → Fields × State

/-- A word as one text. -/
def textBy (adding : Adding) (word : Word) (s : State) : String × State :=
  let (f, s) := adding word {} s
  (" ".intercalate (f.toList.map Mark.textOf), s)

/-- Adds what a parameter comes to. `put` adds a value, `whole` adds words that are not to be
split and `inside` those that stand in this one. -/
def addParameter (put : String → Fields → Fields) (whole inside : Adding) (quoted : Bool)
    (p : Parameter) (f : Fields) (s : State) : Fields × State :=
  let value := s.lookup? p.name
  let isSet := value.any fun value => !p.filled || !value.isEmpty
  let operand :=
    if quoted then quotedWordOf (p.operand.toList.filter (· != '\x22')) else wordOf p.operand
  let started (f : Fields) : Fields := if quoted then f.add [] else f
  let needed : Fields × State :=
    match value with
    | some value => (put value f, s)
    | none =>
      if s.options.strict && p.name ≠ "@" && p.name ≠ "*" then
        (f, s.fail (p.name ++ ": parameter not set") 2)
      else (put "" f, s)
  let cut (by_ : List Mark → List Char → List Char) : Fields × State :=
    match value with
    | some value =>
      let (marks, s) := whole (wordOf p.operand) {} s
      (put (String.ofList (by_ marks.toList.flatten value.toList)) f, s)
    | none => needed
  match p.use with
  | .value => needed
  | .length =>
    match value with
    | some value => (put (toString value.utf8ByteSize) f, s)
    | none => if s.options.strict then needed else (put "0" f, s)
  | .orElse => if isSet then needed else inside operand (started f) s
  | .andThen => if isSet then inside operand (started f) s else (put "" f, s)
  | .orSet =>
    if isSet then needed
    else
      let (text, s) := textBy whole operand s
      (put text f, s.setVariable p.name text)
  | .orFail =>
    if isSet then needed
    else
      let (text, s) := textBy whole operand s
      let text :=
        if !p.operand.isEmpty then text
        else if p.filled then "parameter not set or null" else "parameter not set"
      (f, s.fail (p.name ++ ": " ++ text) 2)
  | .cutFront longest => cut (Pattern.cutFront longest)
  | .cutEnd longest => cut (Pattern.cutEnd longest)

/-- Adds a piece of a word. Where `isWhole` is set nothing is split, and where `isInner` is set
the word stands in another one, so that its own text is split as well. -/
def addPiece (isWhole isInner : Bool) (whole inside : Adding) (output : Output) (piece : Piece)
    (f : Fields) (s : State) : Fields × State :=
  let put (quoted : Bool) (text : String) (f : Fields) : Fields :=
    if quoted || isWhole then f.add (Mark.ofText quoted text) else f.split s.separators text
  if s.fate.isSome then (f, s)
  else
    match piece with
    | .text text quoted =>
      if isInner && !quoted then (put false text f, s)
      else (f.add (Mark.ofText quoted text), s)
    | .sum expression quoted =>
      let (text, s) := textBy whole (quotedWordOf expression.toList) s
      let (value, s) := sum text s
      (put quoted value f, s)
    | .output script quoted =>
      let (bytes, s) := output script s
      (put quoted (printed bytes) f, s)
    | .variable "@" true => (f.addEach (put true) s.arguments, s)
    | .variable "@" false | .variable "*" false =>
      if isWhole then (put false (" ".intercalate s.arguments) f, s)
      else (f.addEach (put false) s.arguments, s)
    | .variable text quoted =>
      match Parameter.read? text with
      | none => (f, s.fail "Bad substitution" 2)
      | some p => addParameter (put quoted) whole inside quoted p f s

/-- Adds a word. The first argument bounds how deep words stand in words. -/
def expand : Nat → Bool → Bool → Output → Adding
  | 0, _, _, _, _, f, s => (f, s)
  | fuel + 1, isWhole, isInner, output, word, f, s =>
    word.foldl (fun (f, s) piece =>
      addPiece isWhole isInner (expand fuel true false output) (expand fuel isWhole true output)
        output piece f s) (f, s)

/-! ## Files -/

/-- The parts of a field between its slashes. -/
def partsOf : List Mark → List (List Mark)
  | [] => [[]]
  | m :: rest =>
    if m.char = '/' then [] :: partsOf rest
    else
      match partsOf rest with
      | [] => [[m]]
      | part :: parts => (m :: part) :: parts

/-- The names in a directory that a pattern fits. A dot in front has to be asked for. -/
def namesFitting (d : Disk) (here : List String) (front : String) (part : List Mark) :
    List String :=
  match d.list here (if front.isEmpty then "." else front) with
  | .ok names =>
    names.filter fun name =>
      Pattern.fits part name.toList && (!name.startsWith "." || part.head?.any (·.char == '.'))
  | .error _ => []

/-- The paths that a pattern leads to from a path. -/
def reach (d : Disk) (here : List String) (front : String) : List (List Mark) → List String
  | [] => [front]
  | [part] =>
    if Pattern.isPattern part then (namesFitting d here front part).map (front ++ ·)
    else
      let path := front ++ Mark.textOf part
      if (d.find here path).toOption.isSome then [path] else []
  | part :: rest =>
    if Pattern.isPattern part then
      (namesFitting d here front part).flatMap fun name => reach d here (front ++ name ++ "/") rest
    else reach d here (front ++ Mark.textOf part ++ "/") rest

/-- The paths that a field fits, in order, or the field itself where there are none. -/
def paths (s : State) (field : List Mark) : List String :=
  if s.options.plain || !Pattern.isPattern field then [Mark.textOf field]
  else
    match (reach s.disk s.here "" (partsOf field)).mergeSort (· ≤ ·) with
    | [] => [Mark.textOf field]
    | found => found

/-! ## Words -/

/-- A word as one text. -/
def expandOne (output : Output) (word : Word) (s : State) : String × State :=
  textBy (expand nesting true false output) word s

/-- The fields of some words. Those for which `kept` holds stay whole. -/
def expandAll (kept : Word → Bool) (output : Output) : List Word → State → List String × State
  | [], s => ([], s)
  | word :: rest, s =>
    let (found, s) :=
      if kept word then
        let (text, s) := expandOne output word s
        ([text], s)
      else
        let (f, s) := expand nesting false false output word {} s
        (f.toList.flatMap (paths s), s)
    let (fields, s) := expandAll kept output rest s
    (found ++ fields, s)

/-- A word as a pattern. -/
def expandPattern (output : Output) (word : Word) (s : State) : List Mark × State :=
  let (f, s) := expand nesting true false output word {} s
  (f.toList.flatten, s)

end RepairConsole.Rehearsal.Shell
