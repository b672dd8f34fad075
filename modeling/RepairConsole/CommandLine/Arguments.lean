import RepairConsole.CommandLine.Shell
import RepairConsole.Text.Digits
/-!
# Arguments

Reads the words after the name of a command from left to right. Options stand alone or with
their letters bundled, values follow them or are attached to them. What an option takes has
to fit it, and no option may come twice.
-/

namespace RepairConsole.CommandLine

/-- Why no command is run. -/
inductive Halt where
  | help (verb : Option Verb)
  | version
  /-- The command line cannot be understood. -/
  | misuse
  deriving DecidableEq, Repr

/-! ## Values -/

def leastNumber : Int := -9223372036854775808
def greatestNumber : Int := 9223372036854775807

/-- A number with or without a sign, within 64 bits. -/
def readNumber? (text : String) : Option Int :=
  let value : Option Int :=
    match text.toList with
    | '-' :: digits => (Text.readDigits? digits).map fun n => -(n : Int)
    | '+' :: digits => (Text.readDigits? digits).map Int.ofNat
    | digits => (Text.readDigits? digits).map Int.ofNat
  value.filter fun n => leastNumber ≤ n ∧ n ≤ greatestNumber

/-- Whether a text can be the value of an option. -/
def Takes.fits : Takes → String → Bool
  | .nothing, _ => false
  | .text, _ | .anything, _ => true
  | .path, word => word != ""
  | .number, word => (readNumber? word).isSome

/-- Whether the next word is taken for the value: a word that starts like an option is not,
unless the option takes anything, or numbers and the word is one. A dash alone is a value. -/
def Takes.admits (takes : Takes) (word : String) : Bool :=
  match takes, word.toList with
  | .anything, _ => true
  | .number, '-' :: _ => takes.fits word
  | _, '-' :: _ :: _ => false
  | _, _ => true

/-! ## Words -/

/-- The options that were given, by name, with their values; those that take none have the
empty one. -/
abbrev Given := List (String × String)

/-- Notes an option that was not given before. -/
def note (name value : String) (given : Given) : Except Halt Given :=
  if (given.lookup name).isSome then .error .misuse else .ok ((name, value) :: given)

/-- Notes an option with a value that fits it. -/
def accept (choice : Choice) (value : String) (given : Given) : Except Halt Given :=
  if choice.takes.fits value then note choice.name value given else .error .misuse

/-- The letters of a bundle. What follows a letter whose option takes a value is the value,
without an equals sign in front; if nothing follows, the option waits for the next word. -/
def readLetters (verb : Verb) : List Char → Given → Except Halt (Option Choice × Given)
  | [], given => .ok (none, given)
  | c :: rest, given =>
    match verb.choices.find? fun choice => choice.letter == some c with
    | none => .error (if c = 'h' then .help (some verb) else .misuse)
    | some choice =>
      if choice.takes = .nothing then do
        let given ← note choice.name "" given
        readLetters verb rest given
      else
        match rest with
        | [] => .ok (some choice, given)
        | '=' :: value => do
          let given ← accept choice (String.ofList value) given
          return (none, given)
        | value => do
          let given ← accept choice (String.ofList value) given
          return (none, given)

/-- An option by its long name, with its value if one is attached. -/
def readLong (verb : Verb) (cs : List Char) (given : Given) :
    Except Halt (Option Choice × Given) := do
  let name := String.ofList (cs.takeWhile (· != '='))
  let attached := (cs.dropWhile (· != '=')).tail?.map String.ofList
  match verb.choices.find? fun choice => choice.name == name with
  | none =>
    .error (if name = "help" ∧ attached.isNone then .help (some verb) else .misuse)
  | some choice =>
    match attached with
    | some value =>
      let given ← accept choice value given
      return (none, given)
    | none =>
      if choice.takes = .nothing then
        let given ← note choice.name "" given
        return (none, given)
      else return (some choice, given)

/-- A word that is no option. Only one command takes one, the name of a shell. -/
def readPlain (verb : Verb) (word : String) (given : Given) : Except Halt Given :=
  if verb = .completion ∧ (Shell.named? word).isSome then note "shell" word given
  else .error .misuse

/-- Reads words after two dashes, none of which is an option. -/
def readAllPlain (verb : Verb) : List String → Given → Except Halt Given
  | [], given => .ok given
  | word :: rest, given => do
    let given ← readPlain verb word given
    readAllPlain verb rest given

/-- Reads the words of a command. `waiting` is the option whose value the next word has to
be. -/
def readWords (verb : Verb) : Option Choice → List String → Given → Except Halt Given
  | none, [], given => .ok given
  | some _, [], _ => .error .misuse
  | some choice, word :: rest, given =>
    if choice.takes.admits word then do
      let given ← accept choice word given
      readWords verb none rest given
    else .error .misuse
  | none, word :: rest, given =>
    match word.toList with
    | ['-', '-'] => readAllPlain verb rest given
    | '-' :: '-' :: cs => do
      let (waiting, given) ← readLong verb cs given
      readWords verb waiting rest given
    | '-' :: c :: cs => do
      let (waiting, given) ← readLetters verb (c :: cs) given
      readWords verb waiting rest given
    | _ => do
      let given ← readPlain verb word given
      readWords verb none rest given

end RepairConsole.CommandLine
