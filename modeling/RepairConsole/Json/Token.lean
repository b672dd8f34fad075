import RepairConsole.Decimal.Numeral
/-!
# The tokens of JSON

A text is cut into tokens by one step per character. A token keeps what its use may depend
on: a string that holds half of a surrogate pair is well-formed JSON but no text, and a
number is kept as it was written.
-/

namespace RepairConsole.Json

inductive Token where
  | openArray
  | closeArray
  | openObject
  | closeObject
  | colon
  | comma
  | null
  | bool (value : Bool)
  | number (value : Decimal.Numeral)
  /-- A string; `none` if it escapes half of a surrogate pair without the other half. -/
  | text (value : Option String)
  deriving DecidableEq, Repr

/-! ## Strings -/

/-- A string under way: what was read of it, unless that is no text, and the first half of
a surrogate pair if that came last. -/
structure Quoted where
  read : Option String
  high : Option Nat

namespace Quoted

def start : Quoted := ⟨some "", none⟩

/-- The next character. A half pair before it stays alone. -/
def push (q : Quoted) (c : Char) : Quoted :=
  ⟨if q.high.isSome then none else q.read.map (·.push c), none⟩

/-- The next escaped UTF-16 unit. -/
def pushUnit (q : Quoted) (unit : Nat) : Quoted :=
  match q.high with
  | some high =>
    if 0xDC00 ≤ unit ∧ unit < 0xE000 then
      let c := Char.ofNat (0x10000 + (high - 0xD800) * 0x400 + (unit - 0xDC00))
      ⟨q.read.map (·.push c), none⟩
    else ⟨none, none⟩
  | none =>
    if unit < 0xD800 ∨ 0xE000 ≤ unit then ⟨q.read.map (·.push (Char.ofNat unit)), none⟩
    else if unit < 0xDC00 then ⟨q.read, some unit⟩
    else ⟨none, none⟩

/-- The string at its closing quote. -/
def close (q : Quoted) : Option String := if q.high.isSome then none else q.read

end Quoted

/-- What a character stands for after a backslash, the `u` of a unit apart. -/
def escaped? : Char → Option Char
  | '"' => some '"'
  | '\\' => some '\\'
  | '/' => some '/'
  | 'b' => some '\x08'
  | 'f' => some '\x0c'
  | 'n' => some '\n'
  | 'r' => some '\r'
  | 't' => some '\t'
  | _ => none

/-- The value of a hexadecimal digit. -/
def hexValue? (c : Char) : Option Nat :=
  let n := c.toNat
  if 48 ≤ n ∧ n ≤ 57 then some (n - 48)
  else if 65 ≤ n ∧ n ≤ 70 then some (n - 55)
  else if 97 ≤ n ∧ n ≤ 102 then some (n - 87)
  else none

/-! ## Numbers -/

/-- How far a number has been read. -/
inductive Phase where
  | minus
  | zero
  | whole
  | point
  | fraction
  | mark
  | markSign
  | exponent
  deriving DecidableEq, Repr

/-- Whether a number may end here. -/
def Phase.complete : Phase → Bool
  | zero | whole | fraction | exponent => true
  | _ => false

/-- A number under way. -/
structure Digits where
  negative : Bool
  mantissa : Nat
  scale : Nat
  exponentNegative : Bool
  exponent : Nat

namespace Digits

def start (negative : Bool) (digit : Nat) : Digits := ⟨negative, digit, 0, false, 0⟩

def numeral (d : Digits) (phase : Phase) : Decimal.Numeral :=
  { negative := d.negative
    mantissa := d.mantissa
    scale := d.scale
    exponent := if d.exponentNegative then -d.exponent else d.exponent
    plain := phase = .zero ∨ phase = .whole }

/-- Reads one more character of a number; `none` if it does not belong to one. -/
def next? (d : Digits) (phase : Phase) (c : Char) : Option (Digits × Phase) :=
  let digit := c.toNat - 48
  let isMark := c = 'e' ∨ c = 'E'
  match phase with
  | .minus =>
    if c = '0' then some (d, .zero)
    else if c.isDigit then some ({ d with mantissa := digit }, .whole)
    else none
  | .zero =>
    if c = '.' then some (d, .point) else if isMark then some (d, .mark) else none
  | .whole =>
    if c.isDigit then some ({ d with mantissa := 10 * d.mantissa + digit }, .whole)
    else if c = '.' then some (d, .point)
    else if isMark then some (d, .mark)
    else none
  | .point | .fraction =>
    if c.isDigit then
      some ({ d with mantissa := 10 * d.mantissa + digit, scale := d.scale + 1 }, .fraction)
    else if phase = .fraction ∧ isMark then some (d, .mark)
    else none
  | .mark =>
    if c = '+' then some (d, .markSign)
    else if c = '-' then some ({ d with exponentNegative := true }, .markSign)
    else if c.isDigit then some ({ d with exponent := digit }, .exponent)
    else none
  | .markSign | .exponent =>
    if c.isDigit then some ({ d with exponent := 10 * d.exponent + digit }, .exponent)
    else none

end Digits

/-! ## Cutting -/

/-- What is being read. -/
inductive Reading where
  | gap
  /-- A word of which these letters are to come. -/
  | word (letters : List Char) (token : Token)
  | quoted (text : Quoted)
  | escape (text : Quoted)
  /-- An escaped unit with so many digits to come. -/
  | unit (text : Quoted) (missing value : Nat)
  | number (digits : Digits) (phase : Phase)

/-- A text read so far: its tokens, the last one first, and what is under way. -/
structure Lexer where
  done : List Token
  reading : Reading

namespace Lexer

def start : Lexer := ⟨[], .gap⟩

/-- A character between two tokens. -/
def stepGap (done : List Token) (c : Char) : Option Lexer :=
  match c with
  | ' ' | '\t' | '\n' | '\r' => some ⟨done, .gap⟩
  | '[' => some ⟨.openArray :: done, .gap⟩
  | ']' => some ⟨.closeArray :: done, .gap⟩
  | '\x7b' => some ⟨.openObject :: done, .gap⟩
  | '\x7d' => some ⟨.closeObject :: done, .gap⟩
  | ':' => some ⟨.colon :: done, .gap⟩
  | ',' => some ⟨.comma :: done, .gap⟩
  | '"' => some ⟨done, .quoted .start⟩
  | 'n' => some ⟨done, .word ['u', 'l', 'l'] .null⟩
  | 't' => some ⟨done, .word ['r', 'u', 'e'] (.bool true)⟩
  | 'f' => some ⟨done, .word ['a', 'l', 's', 'e'] (.bool false)⟩
  | '-' => some ⟨done, .number (.start true 0) .minus⟩
  | '0' => some ⟨done, .number (.start false 0) .zero⟩
  | _ => if c.isDigit then some ⟨done, .number (.start false (c.toNat - 48)) .whole⟩ else none

/-- One character; `none` where no JSON goes on like that. -/
def step (lexer : Lexer) (c : Char) : Option Lexer :=
  match lexer.reading with
  | .gap => stepGap lexer.done c
  | .word [] token => stepGap (token :: lexer.done) c
  | .word [last] token => if c = last then some ⟨token :: lexer.done, .gap⟩ else none
  | .word (letter :: letters) token =>
    if c = letter then some ⟨lexer.done, .word letters token⟩ else none
  | .quoted text =>
    if c = '"' then some ⟨.text text.close :: lexer.done, .gap⟩
    else if c = '\\' then some ⟨lexer.done, .escape text⟩
    else if c.toNat < 0x20 then none
    else some ⟨lexer.done, .quoted (text.push c)⟩
  | .escape text =>
    if c = 'u' then some ⟨lexer.done, .unit text 4 0⟩
    else (escaped? c).map fun d => ⟨lexer.done, .quoted (text.push d)⟩
  | .unit text missing value =>
    (hexValue? c).map fun digit =>
      let value := 16 * value + digit
      if missing ≤ 1 then ⟨lexer.done, .quoted (text.pushUnit value)⟩
      else ⟨lexer.done, .unit text (missing - 1) value⟩
  | .number digits phase =>
    match digits.next? phase c with
    | some (digits, phase) => some ⟨lexer.done, .number digits phase⟩
    | none =>
      if phase.complete then stepGap (.number (digits.numeral phase) :: lexer.done) c else none

/-- The tokens in order, if the text may end here. -/
def finish (lexer : Lexer) : Option (List Token) :=
  match lexer.reading with
  | .gap => some lexer.done.reverse
  | .number digits phase =>
    if phase.complete then some (.number (digits.numeral phase) :: lexer.done).reverse else none
  | _ => none

end Lexer

/-- The tokens of a text; `none` if it cannot be cut into any. -/
def tokens (cs : List Char) : Option (List Token) :=
  (cs.foldlM Lexer.step Lexer.start).bind Lexer.finish

end RepairConsole.Json
