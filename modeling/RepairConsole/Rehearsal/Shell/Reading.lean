import RepairConsole.Rehearsal.Shell.Expansion
/-!
# Reading lines and options

The shell's commands that take a line from the input and the options from a list of words.
-/

namespace RepairConsole.Rehearsal.Shell

/-! ## Lines -/

/-- A line of the input as marks, and the input after it; none is left if the input ended
before the line did. A backslash hides the character after it, unless `raw`. -/
def takeLine (raw : Bool) : List Char → List Mark × Option (List Char)
  | [] => ([], none)
  | '\n' :: rest => ([], some rest)
  | '\\' :: c :: rest =>
    if raw then
      let (marks, rest) := takeLine raw (c :: rest)
      (⟨'\\', false⟩ :: marks, rest)
    else
      let (marks, rest) := takeLine raw rest
      (if c = '\n' then marks else ⟨c, true⟩ :: marks, rest)
  | c :: rest =>
    let (marks, rest) := takeLine raw rest
    (⟨c, false⟩ :: marks, rest)

/-- Whether a mark separates fields, and is white space. -/
def parts (separators : List Char) (m : Mark) : Bool := !m.quoted && separators.contains m.char

def partsWhite (separators : List Char) (m : Mark) : Bool :=
  parts separators m && Fields.isWhite m.char

/-- The field at the front, and what follows the separator after it. -/
def cutField (separators : List Char) (marks : List Mark) : List Mark × List Mark :=
  let field := marks.takeWhile (!parts separators ·)
  let rest := (marks.drop field.length).dropWhile (partsWhite separators)
  match rest with
  | m :: more =>
    if parts separators m then (field, more.dropWhile (partsWhite separators)) else (field, rest)
  | [] => (field, [])

/-- The last of several variables takes all that is left, without the white space around it.
A single separator at its end goes if the field is only one. -/
def lastField (separators : List Char) (marks : List Mark) : List Mark :=
  let trimmed := (marks.reverse.dropWhile (partsWhite separators)).reverse
  match cutField separators trimmed with
  | (field, []) => field
  | _ => trimmed

/-- Fills variables with the fields of a line. -/
def fill (separators : List Char) : List String → List Mark → State → State
  | [], _, s => s
  | [name], marks, s => s.setVariable name (Mark.textOf (lastField separators marks))
  | name :: names, marks, s =>
    let (field, rest) := cutField separators marks
    fill separators names rest (s.setVariable name (Mark.textOf field))

/-- Takes a line from the input and puts its fields into variables. -/
def readLineInto (arguments : List String) (s : State) : State :=
  let raw := arguments.contains "-r"
  match arguments.dropWhile (·.startsWith "-") with
  | [] => s.object "read: arg count" 2
  | names =>
    let (marks, rest) := takeLine raw (s.input.map fun b => Char.ofNat b.toNat)
    let bytes (cs : List Char) : List UInt8 := cs.map fun c => UInt8.ofNat c.toNat
    let text := Text.Utf8.decode ⟨(bytes (marks.map (·.char))).toArray⟩
    -- Bytes above ASCII stand for themselves and are put together again at the end.
    let whole : List Mark :=
      if marks.all (·.char.toNat < 128) then marks else Mark.ofText false text
    let s :=
      { s with input := bytes (rest.getD []), status := if rest.isSome then 0 else 1 }
    let separators := s.separators
    fill separators names (whole.dropWhile (partsWhite separators)) s

/-! ## Options -/

/-- What came of the look for an option. -/
structure Found where
  name : String
  value : Option String
  complaint : String
  /-- Where to look next: the word, and the letter in it. -/
  word : Nat
  letter : Nat

/-- Looks for the next option at a letter of a word. `known` are the letters of the options,
with a colon after those that take a value, and one in front where the script complains
itself. -/
def nextOption (known : List Char) (words : List String) (word letter : Nat) : Option Found :=
  let quiet := known.head? == some ':'
  match words[word - 1]? with
  | none => none
  | some text =>
    match text.toList with
    | '-' :: c :: more =>
      if c = '-' ∧ more.isEmpty ∧ letter = 0 then none
      else
        let rest := (c :: more).drop letter
        match rest with
        | [] => none
        | c :: more =>
          let (word', letter') := if more.isEmpty then (word + 1, 0) else (word, letter + 1)
          let taken := known.dropWhile (· != c)
          if c = ':' ∨ taken.isEmpty then
            if quiet then some ⟨"?", some (String.singleton c), "", word', letter'⟩
            else
              some ⟨"?", none, "Illegal option -" ++ String.singleton c ++ "\n", word', letter'⟩
          else if (taken.drop 1).head? = some ':' then
            if !more.isEmpty then
              some ⟨String.singleton c, some (String.ofList more), "", word + 1, 0⟩
            else
              match words[word]? with
              | some value => some ⟨String.singleton c, some value, "", word + 2, 0⟩
              | none =>
                if quiet then some ⟨":", some (String.singleton c), "", word + 1, 0⟩
                else
                  some ⟨"?", none, "No arg for -" ++ String.singleton c ++ " option\n", word + 1, 0⟩
          else some ⟨String.singleton c, some "", "", word', letter'⟩
    | _ => none

/-- Puts the next option of the arguments into a variable. -/
def getOption (arguments : List String) (s : State) : State :=
  match arguments with
  | known :: name :: words =>
    let words := if words.isEmpty then s.arguments else words
    let word := (((s.bindings.lookup "OPTIND").bind String.toNat?).getD 1)
    let letter := if s.letterOf = word then s.letter else 0
    match nextOption known.toList words word letter with
    | none =>
      let word := if words[word - 1]? = some "--" then word + 1 else word
      { ((s.setVariable name "?").bind "OPTIND" (some (toString word))) with
        status := 1, letter := 0 }
    | some found =>
      let s := s.complain found.complaint
      let s := (s.setVariable name found.name).bind "OPTARG" found.value
      { s.bind "OPTIND" (some (toString found.word)) with
        status := 0, letter := found.letter, letterOf := found.word }
  | _ => s.object "getopts: Usage: getopts optstring var [arg]" 2

end RepairConsole.Rehearsal.Shell
