import RepairConsole.Rehearsal.Shell.Syntax
/-!
# Words of a script

Cuts the text of a script into words and operators. The first argument of each function
bounds its steps; the length of the text is always enough. A script that breaks off inside a
word has the words before it all the same, and then the reason.
-/

namespace RepairConsole.Rehearsal.Shell

/-- A character that ends a word. -/
def endsWord (c : Char) : Bool := " \t\n;&|()<>".toList.contains c

/-- Adds a character to the pieces, which are kept backwards. -/
def addChar (c : Char) (quoted : Bool) : List Piece → List Piece
  | .text text q :: rest =>
    if q = quoted then .text (text.push c) q :: rest
    else .text (String.singleton c) quoted :: .text text q :: rest
  | pieces => .text (String.singleton c) quoted :: pieces

/-! ## What is enclosed -/

/-- The text up to the character that closes `depth` opened ones, and what follows it.
`opens` tells where another is opened, `single` whether single quotes count, `quote` is the
quote that is open, and `seen` what was read, backwards. -/
def untilClosed (opens : Char → Char → Bool) (closing : Char) (single : Bool) (depth : Nat)
    (quote : Option Char) (seen : List Char) : List Char → Option (List Char × List Char)
  | [] => none
  | c :: rest =>
    let escaped := seen.head? == some '\\' && quote != some '\x27' &&
      (seen.takeWhile (· == '\\')).length % 2 == 1
    if escaped then untilClosed opens closing single depth quote (c :: seen) rest
    else if quote = some c then untilClosed opens closing single depth none (c :: seen) rest
    else if quote.isSome then untilClosed opens closing single depth quote (c :: seen) rest
    else if c = '\x22' ∨ (c = '\x27' ∧ single) then
      untilClosed opens closing single depth c (c :: seen) rest
    else if opens (seen.headD ' ') c then
      untilClosed opens closing single (depth + 1) none (c :: seen) rest
    else if c = closing then
      if depth ≤ 1 then some (seen.reverse, rest)
      else untilClosed opens closing single (depth - 1) none (c :: seen) rest
    else untilClosed opens closing single depth none (c :: seen) rest

/-- What two round brackets enclose. -/
def untilBrackets (cs : List Char) : Option (List Char × List Char) :=
  untilClosed (fun _ c => c == '(') ')' true 2 none [] cs

/-- A round bracket that is open. -/
structure Level where
  /-- How many choices are open in it, whose patterns end in a closing bracket. -/
  cases : Nat := 0
  /-- The quote in which it was opened. -/
  outer : Option Char := none

/-- How a script between brackets stands. -/
structure Scan where
  levels : List Level := [{}]
  quote : Option Char := none
  /-- The word under way, backwards. -/
  word : List Char := []
  /-- A command may begin here. -/
  atStart : Bool := true
  /-- The character before hides this one. -/
  isHidden : Bool := false
  inComment : Bool := false

namespace Scan

def countCases (f : Nat → Nat) (s : Scan) : Scan :=
  match s.levels with
  | level :: levels => { s with levels := { level with cases := f level.cases } :: levels }
  | [] => s

/-- The words after which a command may begin. -/
def openers : List String := ["!", "do", "elif", "else", "if", "then", "until", "while", "\x7b"]

def endWord (s : Scan) : Scan :=
  let word := String.ofList s.word.reverse
  if word.isEmpty then s
  else if s.atStart && word = "case" then
    { s.countCases (· + 1) with word := [], atStart := false }
  else if s.atStart && word = "esac" then
    { s.countCases (· - 1) with word := [], atStart := false }
  else { s with word := [], atStart := s.atStart && openers.contains word }

/-- A bracket is closed, or a pattern ends. -/
def close (s : Scan) : Scan :=
  match s.endWord.levels with
  | level :: levels =>
    if 0 < level.cases then { s.endWord with atStart := true }
    else { s.endWord with levels, quote := level.outer, atStart := false }
  | [] => s

/-- Reads a character. -/
def step (s : Scan) (before c : Char) : Scan :=
  if s.inComment then { s with inComment := c != '\n', atStart := true }
  else if s.isHidden then { s with isHidden := false, word := c :: s.word }
  else if c = '\\' ∧ s.quote ≠ some '\x27' then { s with isHidden := true }
  else if s.quote.isSome then
    if s.quote = some c then { s with quote := none }
    else if c = '(' ∧ before = '$' ∧ s.quote = some '\x22' then
      { s with levels := { outer := s.quote } :: s.levels, quote := none, atStart := true }
    else s
  else if c = '\x22' ∨ c = '\x27' then { s with quote := some c, word := c :: s.word }
  else if c = '(' then { s.endWord with levels := {} :: s.levels, atStart := true }
  else if c = ')' then s.close
  else if "\n;&|".toList.contains c then { s.endWord with atStart := true }
  else if c = ' ' ∨ c = '\t' then s.endWord
  else if c = '#' ∧ s.word.isEmpty ∧ " \t\n;&|(".toList.contains before then
    { s with inComment := true }
  else { s with word := c :: s.word }

end Scan

/-- The script that a round bracket encloses, after the bracket. -/
def untilScriptEnd (s : Scan) (seen : List Char) : List Char → Option (List Char × List Char)
  | [] => none
  | c :: rest =>
    let s := s.step (seen.headD ' ') c
    if s.levels.isEmpty then some (seen.reverse, rest) else untilScriptEnd s (c :: seen) rest

/-- What the braces after a dollar sign enclose. -/
def untilBrace (quoted : Bool) (cs : List Char) : Option (List Char × List Char) :=
  untilClosed (fun before c => before == '$' && c == '\x7b') '\x7d' (!quoted) 1 none [] cs

/-- The script between two backquotes, after the first of them. A backslash in it hides
another one, a dollar sign or a backquote. -/
def untilBackquote (quoted : Bool) (seen : List Char) :
    List Char → Option (List Char × List Char)
  | [] => none
  | '\x60' :: rest => some (seen.reverse, rest)
  | '\\' :: d :: rest =>
    if d = '$' ∨ d = '\x60' ∨ d = '\\' ∨ (quoted ∧ d = '\x22') then
      untilBackquote quoted (d :: seen) rest
    else untilBackquote quoted (d :: '\\' :: seen) rest
  | c :: rest => untilBackquote quoted (c :: seen) rest

/-- What follows a dollar sign: a piece, and the rest. A dollar sign alone is text. -/
def readDollar (quoted : Bool) (cs : List Char) : Except String (Piece × List Char) :=
  match cs with
  | '(' :: '(' :: rest =>
    match untilBrackets rest with
    | some (inside, rest) => .ok (.sum (String.ofList inside.dropLast) quoted, rest)
    | none => .error "Missing '))'"
  | '(' :: rest =>
    match untilScriptEnd {} [] rest with
    | some (inside, rest) => .ok (.output (String.ofList inside) quoted, rest)
    | none => .error "end of file unexpected (expecting \")\")"
  | '\x7b' :: rest =>
    match untilBrace quoted rest with
    | some (name, rest) => .ok (.variable (String.ofList name) quoted, rest)
    | none => .error "Missing '\x7d'"
  | c :: rest =>
    if isNameStart c then
      let (name, rest) := (c :: rest).span isNameChar
      .ok (.variable (String.ofList name) quoted, rest)
    else if isSpecialName c then .ok (.variable (String.singleton c) quoted, rest)
    else .ok (.text "$" quoted, c :: rest)
  | [] => .ok (.text "$" quoted, [])

def readBackquote (quoted : Bool) (cs : List Char) : Except String (Piece × List Char) :=
  match untilBackquote quoted [] cs with
  | some (script, rest) => .ok (.output (String.ofList script) quoted, rest)
  | none => .error "EOF in backquote substitution"

/-! ## Words -/

def unterminated : String := "Unterminated quoted string"

/-- A text in which dollar signs and backquotes keep their meaning: in double quotes, after
the first of them, or up to its end where there are none (`bare`). -/
def readQuoted (bare : Bool) : Nat → List Piece → List Char →
    Except String (List Piece × List Char)
  | 0, _, _ => .error unterminated
  | _ + 1, pieces, [] => if bare then .ok (pieces, []) else .error unterminated
  | fuel + 1, pieces, c :: rest =>
    match c, rest with
    | '\\', d :: more =>
      if d = '\n' then readQuoted bare fuel pieces more
      else if "$\x60\\".toList.contains d ∨ (d = '\x22' ∧ !bare) then
        readQuoted bare fuel (addChar d true pieces) more
      else readQuoted bare fuel (addChar d true (addChar c true pieces)) more
    | '$', _ => do
      let (piece, rest) ← readDollar true rest
      readQuoted bare fuel (piece :: pieces) rest
    | '\x60', _ => do
      let (piece, rest) ← readBackquote true rest
      readQuoted bare fuel (piece :: pieces) rest
    | _, _ =>
      if c = '\x22' ∧ !bare then .ok (pieces, rest)
      else readQuoted bare fuel (addChar c true pieces) rest

/-- The pieces of a word, backwards, and what follows it. `ends` tells the characters that
end it. -/
def readWord (ends : Char → Bool) : Nat → List Piece → List Char →
    Except String (List Piece × List Char)
  | 0, _, _ => .error unterminated
  | _ + 1, pieces, [] => .ok (pieces, [])
  | fuel + 1, pieces, c :: rest =>
    if ends c then .ok (pieces, c :: rest)
    else
      match c, rest with
      | '\\', '\n' :: more => readWord ends fuel pieces more
      | '\\', d :: more => readWord ends fuel (addChar d true pieces) more
      | '\x27', _ =>
        match rest.span (· != '\x27') with
        | (text, _ :: rest) =>
          readWord ends fuel (.text (String.ofList text) true :: pieces) rest
        | _ => .error unterminated
      | '\x22', _ => do
        let (inside, rest) ← readQuoted false (rest.length + 1) [] rest
        let inside := if inside.isEmpty then [.text "" true] else inside
        readWord ends fuel (inside ++ pieces) rest
      | '$', _ => do
        let (piece, rest) ← readDollar false rest
        readWord ends fuel (piece :: pieces) rest
      | '\x60', _ => do
        let (piece, rest) ← readBackquote false rest
        readWord ends fuel (piece :: pieces) rest
      | _, _ => readWord ends fuel (addChar c false pieces) rest

/-- A text as one word, whatever is in it. -/
def wordOf (text : String) : Word :=
  match readWord (fun _ => false) (text.length + 2) [] text.toList with
  | .ok (pieces, _) => pieces.reverse
  | .error _ => [.text text true]

/-- A text as one word, as it stands in double quotes. -/
def quotedWordOf (text : List Char) : Word :=
  match readQuoted true (text.length + 2) [] text with
  | .ok (pieces, _) => pieces.reverse
  | .error _ => [.text (String.ofList text) true]

/-! ## Texts in the script -/

/-- The lines up to the one that is the mark, and what follows that. Where `strip` is set
the tabs in front of lines do not count. The first argument bounds the number of lines. -/
def readHere (strip : Bool) (mark : List Char) : Nat → List Char → List Char × List Char
  | 0, cs => (cs, [])
  | fuel + 1, cs =>
    match cs with
    | [] => ([], [])
    | _ =>
      let line := cs.takeWhile (· != '\n')
      let rest := (cs.dropWhile (· != '\n')).drop 1
      let line := if strip then line.dropWhile (· == '\t') else line
      if line = mark then ([], rest)
      else if cs.any (· == '\n') then
        let (text, rest) := readHere strip mark fuel rest
        (line ++ '\n' :: text, rest)
      else (line, [])

/-- The text of a word whose quotes do not matter, and whether it has any. -/
def markOf (word : Word) : List Char × Bool :=
  (word.flatMap fun piece =>
    match piece with
    | .text text _ => text.toList
    | .variable name _ => '$' :: name.toList
    | _ => [],
    word.any fun piece =>
      match piece with
      | .text _ quoted => quoted
      | _ => false)

/-- The text after the rest of a line, as a word, the script without it, and how many lines
were taken. -/
def takeHere (strip : Bool) (mark : Word) (cs : List Char) : Word × List Char × Nat :=
  let (mark, asIs) := markOf mark
  let line := cs.takeWhile (· != '\n')
  let below := (cs.dropWhile (· != '\n')).drop 1
  let (text, rest) := readHere strip mark (below.length + 1) below
  let word :=
    if asIs then [.text (String.ofList text) true]
    else quotedWordOf text
  (word, line ++ '\n' :: rest, (below.take (below.length - rest.length)).count '\n')

/-! ## Tokens -/

/-- An operator at the front, and what follows it. -/
def readOperator (cs : List Char) : Option (Token × List Char) :=
  match cs with
  | '\n' :: rest => some (.lineEnd, rest)
  | '&' :: '&' :: rest => some (.operator "&&", rest)
  | '|' :: '|' :: rest => some (.operator "||", rest)
  | ';' :: ';' :: rest => some (.operator ";;", rest)
  | '>' :: '>' :: rest => some (.redirect 1 ">>", rest)
  | '>' :: '&' :: rest => some (.redirect 1 ">&", rest)
  | '>' :: '|' :: rest => some (.redirect 1 ">|", rest)
  | '<' :: '<' :: '-' :: rest => some (.redirect 0 "<<-", rest)
  | '<' :: '<' :: rest => some (.redirect 0 "<<", rest)
  | '<' :: '&' :: rest => some (.redirect 0 "<&", rest)
  | '<' :: '>' :: rest => some (.redirect 0 "<>", rest)
  | '>' :: rest => some (.redirect 1 ">", rest)
  | '<' :: rest => some (.redirect 0 "<", rest)
  | c :: rest => if endsWord c then some (.operator (String.singleton c), rest) else none
  | [] => none

/-- Tokens with the lines they stand on. -/
abbrev Tokens := List (Nat × Token)

/-- The number of lines that end in what was read of a text. -/
def linesIn (before after : List Char) : Nat :=
  (before.take (before.length - after.length)).count '\n'

mutual

/-- The tokens of a script from a line on. After that `taken` lines were taken already. -/
def tokens : Nat → Nat → Nat → List Char → Tokens
  | 0, _, _, _ => []
  | _ + 1, _, _, [] => []
  | fuel + 1, line, taken, c :: rest =>
    if c = ' ' ∨ c = '\t' then tokens fuel line taken rest
    else if c = '#' then tokens fuel line taken (rest.dropWhile (· != '\n'))
    else if c = '\\' ∧ rest.head? = some '\n' then tokens fuel (line + 1) taken (rest.drop 1)
    else
      match readOperator (c :: rest) with
      | some (token, rest) => tokensFrom fuel line taken token rest
      | none =>
        match (c :: rest).span Char.isDigit, readOperator ((c :: rest).dropWhile Char.isDigit) with
        | (digit :: digits, _), some (.redirect _ kind, rest) =>
          let stream := (digit :: digits).foldl (fun n d => 10 * n + (d.toNat - 48)) 0
          tokensFrom fuel line taken (.redirect stream kind) rest
        | _, _ =>
          match readWord endsWord (rest.length + 2) [] (c :: rest) with
          | .error reason => [(line + rest.count '\n', .broken reason)]
          | .ok (pieces, after) =>
            (line, .word pieces.reverse) ::
              tokens fuel (line + linesIn (c :: rest) after) taken after

/-- The tokens from an operator on. -/
def tokensFrom : Nat → Nat → Nat → Token → List Char → Tokens
  | 0, _, _, _, _ => []
  | fuel + 1, line, taken, token, rest =>
    match token with
    | .lineEnd => (line, .lineEnd) :: tokens fuel (line + taken + 1) 0 rest
    | .redirect stream kind =>
      if kind = "<<" ∨ kind = "<<-" then
        let rest := rest.dropWhile fun c => c == ' ' || c == '\t'
        match readWord endsWord (rest.length + 2) [] rest with
        | .ok (piece :: pieces, rest) =>
          let (text, rest, lines) := takeHere (kind == "<<-") (piece :: pieces).reverse rest
          (line, .hereText stream text) :: tokens fuel line (taken + lines) rest
        | _ => (line, token) :: tokens fuel line taken rest
      else (line, token) :: tokens fuel line taken rest
    | _ => (line, token) :: tokens fuel line taken rest

end

/-- The tokens of a script. -/
def tokensOf (text : String) : Tokens := tokens (2 * text.length + 2) 1 0 text.toList

end RepairConsole.Rehearsal.Shell
