/-!
# The language of rehearsed scripts

What the scripts that stand in for a service are written in: the shell language, as far as
such scripts need it.
-/

namespace RepairConsole.Rehearsal.Shell

/-! ## Names -/

def isNameStart (c : Char) : Bool := c.isAlpha || c == '_'

def isNameChar (c : Char) : Bool := c.isAlphanum || c == '_'

/-- Whether a text can name a variable or a function. -/
def isName (text : List Char) : Bool :=
  match text with
  | c :: rest => isNameStart c && rest.all isNameChar
  | [] => false

/-- The one-character names of what the shell itself knows. -/
def isSpecialName (c : Char) : Bool := c.isDigit || "@*#?$!-".toList.contains c

/-! ## Words -/

/-- A piece of a word. What is quoted is neither split nor dropped when empty. -/
inductive Piece where
  | text (text : String) (quoted : Bool)
  /-- A variable, with all that stands in its braces. -/
  | variable (name : String) (quoted : Bool)
  /-- What another script prints. -/
  | output (script : String) (quoted : Bool)
  /-- The value of an arithmetic expression. -/
  | sum (expression : String) (quoted : Bool)
  deriving DecidableEq, Repr

abbrev Word := List Piece

/-- What a word says if it is plain text without quotes. -/
def plain? : Word → Option String
  | [.text text false] => some text
  | _ => none

/-! ## Statements -/

/-- How a file is written to. -/
inductive Manner where
  /-- It is made anew, if that is allowed. -/
  | anew
  | anewAlways
  /-- What is written follows what is there. -/
  | further
  deriving DecidableEq, Repr

/-- Where a stream is led. -/
inductive Lead where
  | toFile (path : Word) (manner : Manner)
  /-- A file is read; one that is not there may be made. -/
  | fromFile (path : Word) (making : Bool)
  /-- A text that stands in the script. -/
  | fromText (text : Word)
  /-- Where another stream leads, or nowhere. -/
  | same (stream : Word)

structure Redirect where
  stream : Nat
  lead : Lead

mutual

inductive Statement where
  | nothing
  | simple (line : Nat) (assignments : List (String × Word)) (words : List Word)
      (redirects : List Redirect)
  | sequence (first second : Statement)
  /-- The second only if the first did well, or only if it did not. -/
  | unless (did : Bool) (first second : Statement)
  | negated (body : Statement)
  | piped (first second : Statement)
  | aside (body : Statement)
  | nested (body : Statement) (redirects : List Redirect)
  | grouped (body : Statement) (redirects : List Redirect)
  | forEach (name : String) (words : List Word) (body : Statement) (redirects : List Redirect)
  | whileDoing (well : Bool) (condition body : Statement) (redirects : List Redirect)
  | choice (condition yes no : Statement) (redirects : List Redirect)
  | cases (word : Word) (arms : Arms) (redirects : List Redirect)
  | definition (name : String) (body : Statement)

/-- What is done for the first pattern that fits. -/
inductive Arms where
  | none
  | arm (patterns : List Word) (body : Statement) (rest : Arms)

end

/-! ## Tokens -/

inductive Token where
  | word (word : Word)
  | operator (text : String)
  | redirect (stream : Nat) (kind : String)
  /-- A text in the script that a stream reads. -/
  | hereText (stream : Nat) (text : Word)
  | lineEnd
  /-- The script breaks off, for a reason that the shell tells. -/
  | broken (reason : String)
  deriving DecidableEq, Repr

end RepairConsole.Rehearsal.Shell
