/-!
# Options of a shell

How a shell goes about its work, told by letters and names: when it starts, or while it runs.
-/

namespace RepairConsole.Rehearsal.Shell

/-- The options that are on. -/
structure Options where
  on : List Char := []
  deriving DecidableEq, Repr

namespace Options

/-- The names of the options in order, with their letters if they have any. -/
def all : List (String × Option Char) :=
  [("errexit", some 'e'), ("noglob", some 'f'), ("ignoreeof", some 'I'),
    ("interactive", some 'i'), ("monitor", some 'm'), ("noexec", some 'n'), ("stdin", some 's'),
    ("xtrace", some 'x'), ("verbose", some 'v'), ("vi", some 'V'), ("emacs", some 'E'),
    ("noclobber", some 'C'), ("allexport", some 'a'), ("notify", some 'b'),
    ("nounset", some 'u'), ("privileged", some 'p'), ("nolog", none), ("debug", none)]

def has (letter : Char) (o : Options) : Bool := o.on.contains letter

/-- The script ends where a statement fails. -/
def failing (o : Options) : Bool := o.has 'e'

/-- Variables have to be set before they are used. -/
def strict (o : Options) : Bool := o.has 'u'

/-- Commands are shown before they run. -/
def shown (o : Options) : Bool := o.has 'x'

/-- Words are no patterns of files. -/
def plain (o : Options) : Bool := o.has 'f'

/-- Nothing is run. -/
def idle (o : Options) : Bool := o.has 'n'

/-- Files that are there already are not made anew. -/
def sparing (o : Options) : Bool := o.has 'C'

/-- Programs see each variable that is set. -/
def sharing (o : Options) : Bool := o.has 'a'

def set (letter : Char) (on : Bool) (o : Options) : Options :=
  let others := o.on.filter (· != letter)
  ⟨if on then letter :: others else others⟩

/-- Sets an option by its letter; none where there is no such option. -/
def set? (letter : Char) (on : Bool) (o : Options) : Option Options :=
  if all.any (·.2 == some letter) then some (o.set letter on) else none

/-- Sets an option by its name; none where there is no such option. -/
def setNamed? (name : String) (on : Bool) (o : Options) : Option Options :=
  (all.lookup name).map fun letter =>
    match letter with
    | some letter => o.set letter on
    | none => o

/-- The letters of the options that are on, the last of all options first. -/
def letters (o : Options) : String :=
  String.ofList (all.filterMap fun (_, letter) => letter.filter (o.has ·)).reverse

/-- All options and how they are set, in lines to be read, or as commands that set them. -/
def listing (asCommands : Bool) (o : Options) : String :=
  String.join (all.map fun (name, letter) =>
    let isOn := letter.any (o.has ·)
    if asCommands then "set " ++ (if isOn then "-o " else "+o ") ++ name ++ "\n"
    else
      let gap := String.ofList (List.replicate (16 - name.length) ' ')
      name ++ gap ++ (if isOn then "on" else "off") ++ "\n")

end Options

/-! ## Words that set options -/

/-- What the words of a call ask for. -/
structure Settings where
  options : Options
  /-- The first argument is a script itself. -/
  isScript : Bool := false
  /-- What is to be listed. -/
  listing : String := ""
  /-- The arguments, and whether a mark stands in front of them. -/
  arguments : List String := []
  marked : Bool := false

namespace Settings

/-- Reads the letters of a word, some of which take a name from the words after it. -/
def readLetters (starting on : Bool) (a : Settings) :
    List Char → List String → Except String (Settings × List String)
  | [], words => .ok (a, words)
  | 'o' :: more, [] =>
    let front := if on then "Current option settings\n" else ""
    let listing := a.listing ++ front ++ a.options.listing !on
    readLetters starting on { a with listing } more []
  | 'o' :: more, name :: words =>
    match a.options.setNamed? name on with
    | some options => readLetters starting on { a with options } more words
    | none => .error ("Illegal option -o " ++ name)
  | c :: more, words =>
    if starting && c == 'c' then readLetters starting on { a with isScript := true } more words
    else if starting && c == 'l' then readLetters starting on a more words
    else
      match a.options.set? c on with
      | some options => readLetters starting on { a with options } more words
      | none => .error ("Illegal option -" ++ String.singleton c)

/-- Reads the words of a call. The first argument bounds their number. -/
def readWords (starting : Bool) : Nat → Settings → List String → Except String Settings
  | 0, a, words => .ok { a with arguments := words }
  | _, a, [] => .ok a
  | fuel + 1, a, word :: words =>
    match word.toList with
    | ['-'] =>
      let quiet := if starting then a.options else (a.options.set 'x' false).set 'v' false
      .ok { a with options := quiet, arguments := words }
    | ['-', '-'] => .ok { a with arguments := words, marked := true }
    | '-' :: letters => do
      let (a, words) ← a.readLetters starting true letters words
      readWords starting fuel a words
    | '+' :: letters => do
      let (a, words) ← a.readLetters starting false letters words
      readWords starting fuel a words
    | _ => .ok { a with arguments := word :: words }

/-- Reads the words of a call: of the shell itself (`starting`), or of its command that sets
options. What is wrong with them is told. -/
def read (starting : Bool) (options : Options) (words : List String) : Except String Settings :=
  readWords starting words.length { options } words

end Settings

/-! ## Examples -/

example : (Settings.read false {} ["-eo", "nounset", "a"]).toOption.map
    (fun a => (a.options.letters, a.arguments)) = some ("ue", ["a"]) := by decide +kernel

end RepairConsole.Rehearsal.Shell
