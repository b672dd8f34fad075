import RepairConsole.Rehearsal.Shell.Lexer
/-!
# Statements of a script

Reads the tokens of a script as statements, one complete command at a time, so that those
before a mistake can run. As with the words, the first argument of each function bounds its
steps.
-/

namespace RepairConsole.Rehearsal.Shell

/-- Why a script cannot be read, and on which line. -/
structure Mistake where
  line : Nat
  reason : String
  deriving DecidableEq, Repr

/-! ## Words at the front -/

/-- The words that the shell keeps for itself where a command may start. -/
def keywords : List String :=
  ["!", "case", "do", "done", "elif", "else", "esac", "fi", "for", "if", "in", "then", "until",
    "while", "\x7b", "\x7d"]

/-- The plain word at the front. -/
def plainWord? : Tokens → Option (String × Tokens)
  | (_, .word word) :: rest => (plain? word).map (·, rest)
  | _ => none

/-- The keyword at the front. -/
def keyword? (ts : Tokens) : Option (String × Tokens) :=
  (plainWord? ts).filter fun found => keywords.contains found.1

def dropLineEnds (ts : Tokens) : Tokens := ts.dropWhile (·.2 == .lineEnd)

/-- The token at the front as mistakes show it; `keyed` where keywords count. -/
def shownFront (keyed : Bool) (ts : Tokens) : String :=
  match ts with
  | [] => "end of file"
  | (_, .lineEnd) :: _ => "newline"
  | (_, .operator text) :: _ => "\"" ++ text ++ "\""
  | (_, .redirect ..) :: _ | (_, .hereText ..) :: _ => "redirection"
  | _ =>
    match keyed, keyword? ts with
    | true, some (word, _) => "\"" ++ word ++ "\""
    | _, _ => "word"

/-- Nothing can be made of what stands at the front, where `expected` had to stand, if that
is known. `line` is the last line of the script. -/
def unexpected {α : Type} (line : Nat) (keyed : Bool) (expected : Option String) (ts : Tokens) :
    Except Mistake α :=
  match ts with
  | (_, .broken reason) :: _ => .error ⟨line, reason⟩
  | _ =>
    let expecting :=
      match expected with
      | some text => " (expecting " ++ text ++ ")"
      | none => ""
    .error ⟨(ts.head?.map (·.1)).getD line, shownFront keyed ts ++ " unexpected" ++ expecting⟩

/-- Takes a keyword that has to stand here. -/
def expect (line : Nat) (word : String) (ts : Tokens) : Except Mistake Tokens :=
  match keyword? ts with
  | some (found, rest) =>
    if found = word then .ok rest else unexpected line true (some ("\"" ++ word ++ "\"")) ts
  | none => unexpected line true (some ("\"" ++ word ++ "\"")) ts

/-- The keywords that close what others have opened. -/
def closers : List String := ["do", "done", "then", "else", "elif", "fi", "esac", "\x7d"]

/-- Whether what stands here closes a list of statements. -/
def closes (ts : Tokens) : Bool :=
  match ts with
  | [] => true
  | (_, .operator text) :: _ => text == ")" || text == ";;"
  | _ => (keyword? ts).any fun found => closers.contains found.1

/-! ## Redirections and words -/

/-- The lead of a redirection, from its sign and the word after it. -/
def readLead (kind : String) (word : Word) : Lead :=
  match kind with
  | ">" => .toFile word .anew
  | ">|" => .toFile word .anewAlways
  | ">>" => .toFile word .further
  | "<" => .fromFile word false
  | "<>" => .fromFile word true
  | _ => .same word

/-- The redirection at the front, if one stands there. -/
def readRedirect (line : Nat) : Tokens → Except Mistake (Option (Redirect × Tokens))
  | (_, .redirect stream kind) :: (_, .word word) :: rest =>
    .ok (some (⟨stream, readLead kind word⟩, rest))
  | (_, .redirect ..) :: rest => unexpected line false none rest
  | (_, .hereText stream text) :: rest => .ok (some (⟨stream, .fromText text⟩, rest))
  | _ => .ok none

/-- The redirections after a statement in brackets or between keywords. -/
def readRedirects (line : Nat) : Nat → Tokens → Except Mistake (List Redirect × Tokens)
  | 0, ts => .ok ([], ts)
  | fuel + 1, ts => do
    match ← readRedirect line ts with
    | some (r, ts) =>
      let (more, ts) ← readRedirects line fuel ts
      return (r :: more, ts)
    | none => return ([], ts)

/-- A word that sets a variable. -/
def assignment? : Word → Option (String × Word)
  | .text text false :: rest =>
    match text.toList.span (· != '=') with
    | (name, _ :: value) =>
      if isName name then
        let value := String.ofList value
        some (String.ofList name,
          if value.isEmpty then rest else .text value false :: rest)
      else none
    | _ => none
  | _ => none

/-- The words and redirections up to the end of a simple statement. -/
def readSimple (line : Nat) : Nat → List Word → List Redirect → Tokens →
    Except Mistake ((List Word × List Redirect) × Tokens)
  | 0, words, redirects, ts => .ok ((words.reverse, redirects.reverse), ts)
  | fuel + 1, words, redirects, ts =>
    match ts with
    | (_, .word word) :: rest => readSimple line fuel (word :: words) redirects rest
    | _ => do
      match ← readRedirect line ts with
      | some (r, ts) => readSimple line fuel words (r :: redirects) ts
      | none => return ((words.reverse, redirects.reverse), ts)

/-- Words that set variables, in front of all others. -/
def splitAssignments : List Word → List (String × Word) × List Word
  | [] => ([], [])
  | word :: rest =>
    match assignment? word with
    | some a =>
      let (more, words) := splitAssignments rest
      (a :: more, words)
    | none => ([], word :: rest)

def readPlainWords : Tokens → List Word × Tokens
  | (_, .word word) :: rest =>
    let (words, rest) := readPlainWords rest
    (word :: words, rest)
  | ts => ([], ts)

/-- The patterns of an arm, and what follows the bracket after them. -/
def readPatterns (line : Nat) : Nat → Tokens → Except Mistake (List Word × Tokens)
  | 0, ts => unexpected line false none ts
  | fuel + 1, ts =>
    match ts with
    | (_, .word word) :: (_, .operator "|") :: rest => do
      let (words, ts) ← readPatterns line fuel rest
      return (word :: words, ts)
    | (_, .word word) :: (_, .operator ")") :: rest => .ok ([word], rest)
    | (_, .word _) :: rest => unexpected line false (some "\")\"") rest
    | _ => unexpected line false (some "\")\"") (ts.drop 1)

/-! ## Statements -/

mutual

/-- Statements up to what closes them. Where `first` is set there has to be one. -/
def readList (line : Nat) : Nat → Bool → Tokens → Except Mistake (Statement × Tokens)
  | 0, _, ts => unexpected line true none ts
  | fuel + 1, first, ts => do
    let ts := dropLineEnds ts
    if (closes ts && !first) || ts.isEmpty then return (.nothing, ts)
    let (statement, ts) ← readChain line fuel ts
    match ts with
    | (_, .operator ";") :: rest | (_, .lineEnd) :: rest =>
      let (second, ts) ← readList line fuel false rest
      return (.sequence statement second, ts)
    | (_, .operator "&") :: rest =>
      let (second, ts) ← readList line fuel false rest
      return (.sequence (.aside statement) second, ts)
    | _ => return (statement, ts)

/-- Pipelines joined by `&&` and `||`. -/
def readChain (line : Nat) : Nat → Tokens → Except Mistake (Statement × Tokens)
  | 0, ts => unexpected line true none ts
  | fuel + 1, ts => do
    let (first, ts) ← readPipeline line fuel ts
    readChainFrom line fuel first ts

def readChainFrom (line : Nat) : Nat → Statement → Tokens → Except Mistake (Statement × Tokens)
  | 0, _, ts => unexpected line true none ts
  | fuel + 1, first, ts =>
    match ts with
    | (_, .operator "&&") :: rest => do
      let (second, ts) ← readPipeline line fuel (dropLineEnds rest)
      readChainFrom line fuel (.unless false first second) ts
    | (_, .operator "||") :: rest => do
      let (second, ts) ← readPipeline line fuel (dropLineEnds rest)
      readChainFrom line fuel (.unless true first second) ts
    | _ => .ok (first, ts)

def readPipeline (line : Nat) : Nat → Tokens → Except Mistake (Statement × Tokens)
  | 0, ts => unexpected line true none ts
  | fuel + 1, ts =>
    match keyword? ts with
    | some ("!", rest) => do
      let (body, ts) ← readPipes line fuel rest
      return (.negated body, ts)
    | _ => readPipes line fuel ts

def readPipes (line : Nat) : Nat → Tokens → Except Mistake (Statement × Tokens)
  | 0, ts => unexpected line true none ts
  | fuel + 1, ts => do
    let (first, ts) ← readStatement line fuel ts
    match ts with
    | (_, .operator "|") :: rest =>
      let (second, ts) ← readPipes line fuel (dropLineEnds rest)
      return (.piped first second, ts)
    | _ => return (first, ts)

def readStatement (line : Nat) : Nat → Tokens → Except Mistake (Statement × Tokens)
  | 0, ts => unexpected line true none ts
  | fuel + 1, ts =>
    match ts with
    | (_, .operator "(") :: rest => do
      let (body, ts) ← readList line fuel true rest
      match ts with
      | (_, .operator ")") :: rest =>
        let (redirects, ts) ← readRedirects line rest.length rest
        return (.nested body redirects, ts)
      | _ => unexpected line true (some "\")\"") ts
    | _ =>
      match keyword? ts with
      | some ("\x7b", rest) => do
        let (body, ts) ← readList line fuel true rest
        let ts ← expect line "\x7d" ts
        let (redirects, ts) ← readRedirects line ts.length ts
        return (.grouped body redirects, ts)
      | some ("while", rest) => readLoop line fuel true rest
      | some ("until", rest) => readLoop line fuel false rest
      | some ("if", rest) => readChoice line fuel rest
      | some ("for", rest) => readFor line fuel rest
      | some ("case", rest) => readCase line fuel rest
      | some _ => unexpected line true none ts
      | none => readCommand line fuel ts

/-- A simple statement, or the definition of a function. -/
def readCommand (line : Nat) : Nat → Tokens → Except Mistake (Statement × Tokens)
  | 0, ts => unexpected line true none ts
  | fuel + 1, ts =>
    match ts with
    | (_, .word word) :: (_, .operator "(") :: rest =>
      if (assignment? word).isSome then unexpected line false none (ts.drop 1)
      else
        match rest with
        | (at_, .operator ")") :: rest =>
          match (plain? word).filter fun name => isName name.toList with
          | some name => do
            let (body, ts) ← readStatement line fuel (dropLineEnds rest)
            return (.definition name body, ts)
          | none => .error ⟨at_, "Bad function name"⟩
        | _ => unexpected line false (some "\")\"") rest
    | (at_, _) :: _ => do
      let ((words, redirects), rest) ← readSimple line (ts.length + 1) [] [] ts
      if words.isEmpty && redirects.isEmpty then unexpected line true none ts
      else
        let (assignments, words) := splitAssignments words
        return (.simple at_ assignments words redirects, rest)
    | [] => unexpected line true none ts

def readLoop (line : Nat) : Nat → Bool → Tokens → Except Mistake (Statement × Tokens)
  | 0, _, ts => unexpected line true none ts
  | fuel + 1, well, ts => do
    let (condition, ts) ← readList line fuel true ts
    let (body, ts) ← readList line fuel true (← expect line "do" ts)
    let ts ← expect line "done" ts
    let (redirects, ts) ← readRedirects line ts.length ts
    return (.whileDoing well condition body redirects, ts)

def readFor (line : Nat) : Nat → Tokens → Except Mistake (Statement × Tokens)
  | 0, ts => unexpected line true none ts
  | fuel + 1, ts =>
    match (plainWord? ts).filter fun found => isName found.1.toList with
    | none => .error ⟨(ts.head?.map (·.1)).getD line, "Bad for loop variable"⟩
    | some (name, ts) => do
      let (words, ts) ←
        match keyword? (dropLineEnds ts) with
        | some ("in", rest) =>
          let (words, ts) := readPlainWords rest
          match ts with
          | (_, .operator ";") :: rest | (_, .lineEnd) :: rest => pure (words, rest)
          | _ => unexpected line false none ts
        | _ =>
          match ts with
          | (_, .operator ";") :: rest => pure ([[.variable "@" true]], rest)
          | _ => pure ([[.variable "@" true]], ts)
      let ts ← expect line "do" (dropLineEnds ts)
      let (body, ts) ← readList line fuel true ts
      let ts ← expect line "done" ts
      let (redirects, ts) ← readRedirects line ts.length ts
      return (.forEach name words body redirects, ts)

/-- The rest of a choice, after its first word. -/
def readChoice (line : Nat) : Nat → Tokens → Except Mistake (Statement × Tokens)
  | 0, ts => unexpected line true none ts
  | fuel + 1, ts => do
    let (condition, ts) ← readList line fuel true ts
    let (yes, ts) ← readList line fuel true (← expect line "then" ts)
    match keyword? ts with
    | some ("elif", rest) =>
      let (no, ts) ← readChoice line fuel rest
      return (.choice condition yes no [], ts)
    | some ("else", rest) =>
      let (no, ts) ← readList line fuel true rest
      let ts ← expect line "fi" ts
      let (redirects, ts) ← readRedirects line ts.length ts
      return (.choice condition yes no redirects, ts)
    | _ =>
      let ts ← expect line "fi" ts
      let (redirects, ts) ← readRedirects line ts.length ts
      return (.choice condition yes .nothing redirects, ts)

def readCase (line : Nat) : Nat → Tokens → Except Mistake (Statement × Tokens)
  | 0, ts => unexpected line true none ts
  | fuel + 1, ts =>
    match ts with
    | (_, .word word) :: rest => do
      let ts ← expect line "in" (dropLineEnds rest)
      let (arms, ts) ← readArms line fuel ts
      let ts ← expect line "esac" ts
      let (redirects, ts) ← readRedirects line ts.length ts
      return (.cases word arms redirects, ts)
    | _ => unexpected line false (some "word") ts

/-- The arms up to the last word of a case. -/
def readArms (line : Nat) : Nat → Tokens → Except Mistake (Arms × Tokens)
  | 0, ts => unexpected line true none ts
  | fuel + 1, ts => do
    let ts := dropLineEnds ts
    match keyword? ts with
    | some ("esac", _) => return (.none, ts)
    | _ =>
      let ts := match ts with
        | (_, .operator "(") :: rest => rest
        | _ => ts
      let (patterns, ts) ← readPatterns line fuel ts
      let (body, ts) ← readList line fuel false ts
      match ts with
      | (_, .operator ";;") :: rest =>
        let (more, ts) ← readArms line fuel rest
        return (.arm patterns body more, ts)
      | _ =>
        match keyword? ts with
        | some ("esac", _) => return (.arm patterns body .none, ts)
        | _ => unexpected line true (some "\";;\"") ts

end

/-- The next complete command: all up to the end of the line on which it ends. -/
def readLine (line : Nat) : Nat → Tokens → Except Mistake (Statement × Tokens)
  | 0, ts => unexpected line true none ts
  | fuel + 1, ts => do
    let (statement, ts) ← readChain line (8 * ts.length + 16) ts
    let follow (statement : Statement) (rest : Tokens) : Except Mistake (Statement × Tokens) := do
      match rest with
      | [] | (_, .lineEnd) :: _ => return (statement, rest)
      | _ =>
        let (second, ts) ← readLine line fuel rest
        return (.sequence statement second, ts)
    match ts with
    | [] | (_, .lineEnd) :: _ => return (statement, ts)
    | (_, .operator ";") :: rest => follow statement rest
    | (_, .operator "&") :: rest => follow (.aside statement) rest
    | _ => unexpected line true none ts

/-- The next complete command of a script, and what follows its line. -/
def readNext (line : Nat) (ts : Tokens) : Except Mistake (Statement × Tokens) := do
  let (statement, ts) ← readLine line (ts.length + 1) ts
  return (statement, ts.drop 1)

end RepairConsole.Rehearsal.Shell
