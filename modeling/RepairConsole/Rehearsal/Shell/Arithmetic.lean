import RepairConsole.Rehearsal.Shell.Lexer
import RepairConsole.Text.Digits
/-!
# Arithmetic in scripts

Expressions over whole numbers of 64 bits and over variables, which they may also set. An
expression is read as a tree first, so that what is not chosen is not done.
-/

namespace RepairConsole.Rehearsal.Shell.Arithmetic

inductive Expression where
  | number (n : Int)
  | name (name : String)
  | unary (sign : String) (body : Expression)
  | binary (sign : String) (left right : Expression)
  | choice (condition yes no : Expression)
  /-- Sets a variable to what the sign makes of its value and another. -/
  | setting (name sign : String) (value : Expression)
  deriving Repr

/-- Why an expression has no value. -/
inductive Trouble where
  /-- The expression says nothing, for this reason. -/
  | unreadable (reason : String)
  | divisionByZero
  /-- A variable holds something else. -/
  | noNumber (text : String)
  /-- A variable that has to be set is not. -/
  | unset (name : String)
  deriving DecidableEq, Repr

/-! ## Reading -/

/-- The value of a number: decimal, octal after a zero, hexadecimal after `0x`. -/
def number? (cs : List Char) : Option Int :=
  let digits (base : Nat) (cs : List Char) : Option Int :=
    let value (c : Char) : Nat :=
      if c.isDigit then c.toNat - 48
      else if 'a' ≤ c ∧ c ≤ 'z' then c.toNat - 87
      else if 'A' ≤ c ∧ c ≤ 'Z' then c.toNat - 55 else 99
    if cs.isEmpty || cs.any (base ≤ value ·) then none
    else some (Int.ofNat (cs.foldl (fun n c => base * n + value c) 0))
  match cs with
  | '0' :: 'x' :: rest | '0' :: 'X' :: rest => digits 16 rest
  | '0' :: _ :: _ => digits 8 cs
  | _ => digits 10 cs

/-- The least and the greatest number of 64 bits. -/
def least : Int := -0x8000000000000000

def greatest : Int := 0x7FFFFFFFFFFFFFFF

/-- Whole numbers of 64 bits with a sign or none, and blanks around them. -/
def signed? (text : String) : Option Int :=
  let isBlank (c : Char) : Bool := c == ' ' || c == '\t' || c == '\n'
  let cs := ((text.toList.dropWhile isBlank).reverse.dropWhile isBlank).reverse
  let value :=
    match cs with
    | '-' :: rest => (number? rest).map (- ·)
    | '+' :: rest => number? rest
    | _ => number? cs
  value.filter fun n => least ≤ n && n ≤ greatest

/-- The signs, the longer ones first. -/
def signs : List String :=
  ["<<=", ">>=", "&&", "||", "==", "!=", "<=", ">=", "<<", ">>", "+=", "-=", "*=", "/=", "%=",
    "&=", "|=", "^=", "+", "-", "*", "/", "%", "<", ">", "=", "!", "~", "&", "|", "^", "?", ":",
    "(", ")"]

/-- How many characters of a number stand at the front. -/
def numberLength (cs : List Char) : Nat :=
  let isOctal (c : Char) : Bool := '0' ≤ c && c ≤ '7'
  let isHex (c : Char) : Bool := c.isDigit || ('a' ≤ c && c ≤ 'f') || ('A' ≤ c && c ≤ 'F')
  let hex (rest : List Char) : Nat :=
    let digits := (rest.takeWhile isHex).length
    if digits = 0 then 1 else digits + 2
  match cs with
  | '0' :: 'x' :: rest | '0' :: 'X' :: rest => hex rest
  | '0' :: _ => (cs.takeWhile isOctal).length
  | _ => (cs.takeWhile Char.isDigit).length

/-- The words of an expression. The first argument bounds their number. -/
def words : Nat → List Char → List String
  | 0, _ => []
  | _ + 1, [] => []
  | fuel + 1, c :: rest =>
    if c = ' ' ∨ c = '\t' ∨ c = '\n' then words fuel rest
    else if c.isDigit then
      let length := numberLength (c :: rest)
      String.ofList ((c :: rest).take length) :: words fuel ((c :: rest).drop length)
    else if isNameChar c then
      String.ofList ((c :: rest).takeWhile isNameChar) ::
        words fuel ((c :: rest).dropWhile isNameChar)
    else
      match signs.find? fun sign => sign.toList.isPrefixOf (c :: rest) with
      | some sign => sign :: words fuel ((c :: rest).drop sign.length)
      | none => [String.singleton c]

/-- How tightly a sign between two values binds them. -/
def rank? (sign : String) : Option Nat :=
  match sign with
  | "||" => some 1
  | "&&" => some 2
  | "|" => some 3
  | "^" => some 4
  | "&" => some 5
  | "==" | "!=" => some 6
  | "<" | "<=" | ">" | ">=" => some 7
  | "<<" | ">>" => some 8
  | "+" | "-" => some 9
  | "*" | "/" | "%" => some 10
  | _ => none

/-- The signs that set a variable. -/
def settingSigns : List String :=
  ["=", "+=", "-=", "*=", "/=", "%=", "<<=", ">>=", "&=", "|=", "^="]

def missing : Trouble := .unreadable "expecting primary"

mutual

/-- A whole expression. The first argument of each function bounds its steps. -/
def readSetting : Nat → List String → Except Trouble (Expression × List String)
  | 0, _ => .error missing
  | fuel + 1, ws =>
    match ws with
    | name :: sign :: rest =>
      if isName name.toList && settingSigns.contains sign then do
        let (value, rest) ← readSetting fuel rest
        return (.setting name (String.ofList sign.toList.dropLast) value, rest)
      else readChoice fuel ws
    | _ => readChoice fuel ws

def readChoice : Nat → List String → Except Trouble (Expression × List String)
  | 0, _ => .error missing
  | fuel + 1, ws => do
    let (condition, rest) ← readValue fuel ws
    let (condition, rest) ← readBinary fuel 1 condition rest
    match rest with
    | "?" :: rest =>
      let (yes, rest) ← readSetting fuel rest
      match rest with
      | ":" :: rest =>
        let (no, rest) ← readChoice fuel rest
        return (.choice condition yes no, rest)
      | _ => .error (.unreadable "expecting ':'")
    | _ => return (condition, rest)

/-- Goes on from a value with the signs of a rank and above. -/
def readBinary : Nat → Nat → Expression → List String →
    Except Trouble (Expression × List String)
  | 0, _, _, _ => .error missing
  | fuel + 1, least, left, ws =>
    match ws with
    | sign :: rest =>
      match (rank? sign).filter (least ≤ ·) with
      | some rank => do
        let (right, rest) ← readValue fuel rest
        let (right, rest) ← readBinary fuel (rank + 1) right rest
        readBinary fuel least (.binary sign left right) rest
      | none => .ok (left, ws)
    | [] => .ok (left, [])

def readValue : Nat → List String → Except Trouble (Expression × List String)
  | 0, _ => .error missing
  | fuel + 1, ws =>
    match ws with
    | "(" :: rest => do
      let (inside, rest) ← readSetting fuel rest
      match rest with
      | ")" :: rest => return (inside, rest)
      | _ => .error (.unreadable "expecting ')'")
    | word :: rest =>
      if ["-", "+", "!", "~"].contains word then do
        let (body, rest) ← readValue fuel rest
        return (.unary word body, rest)
      else if isName word.toList then .ok (.name word, rest)
      else
        match number? word.toList with
        | some n => .ok (.number (min n greatest), rest)
        | none => .error missing
    | [] => .error missing

end

/-- The tree of an expression. One that says nothing is zero. -/
def read (text : String) : Except Trouble Expression := do
  let ws := words (text.length + 1) text.toList
  if ws.isEmpty then return .number 0
  match ← readSetting (16 * ws.length + 16) ws with
  | (expression, []) => return expression
  | _ => .error (.unreadable "expecting EOF")

/-! ## Values -/

/-- The number of 64 bits that is left of one. -/
def wrap (n : Int) : Int := Int.bmod n 0x10000000000000000

def truth (b : Bool) : Int := if b then 1 else 0

/-- The bits of a number, as one without a sign. -/
def bits (n : Int) : Nat := (n % 0x10000000000000000).toNat

def combine (sign : String) (a b : Int) : Except Trouble Int :=
  match sign with
  | "+" => .ok (wrap (a + b))
  | "-" => .ok (wrap (a - b))
  | "*" => .ok (wrap (a * b))
  | "/" => if b = 0 then .error .divisionByZero else .ok (wrap (Int.tdiv a b))
  | "%" => if b = 0 then .error .divisionByZero else .ok (Int.tmod a b)
  | "<<" => .ok (wrap (a * Int.ofNat (1 <<< (bits b % 64))))
  | ">>" => .ok (Int.fdiv a (Int.ofNat (1 <<< (bits b % 64))))
  | "<" => .ok (truth (a < b))
  | "<=" => .ok (truth (a ≤ b))
  | ">" => .ok (truth (b < a))
  | ">=" => .ok (truth (b ≤ a))
  | "==" => .ok (truth (a = b))
  | "!=" => .ok (truth (a ≠ b))
  | "&" => .ok (wrap (Int.ofNat (bits a &&& bits b)))
  | "|" => .ok (wrap (Int.ofNat (bits a ||| bits b)))
  | "^" => .ok (wrap (Int.ofNat (Nat.xor (bits a) (bits b))))
  | _ => .ok b

/-- What the variables hold, and those that were set, the last first. -/
structure Variables where
  value : String → Except Trouble Int
  set : List (String × Int)

def Variables.get (v : Variables) (name : String) : Except Trouble Int :=
  match v.set.lookup name with
  | some n => .ok n
  | none => v.value name

/-- The value of an expression, and the variables after it. -/
def evaluate : Expression → Variables → Except Trouble (Int × Variables)
  | .number n, v => .ok (n, v)
  | .name name, v => do return (← v.get name, v)
  | .unary sign body, v => do
    let (n, v) ← evaluate body v
    match sign with
    | "-" => return (wrap (-n), v)
    | "!" => return (truth (n = 0), v)
    | "~" => return (-n - 1, v)
    | _ => return (n, v)
  | .binary "&&" left right, v => do
    let (a, v) ← evaluate left v
    if a = 0 then return (0, v)
    let (b, v) ← evaluate right v
    return (truth (b ≠ 0), v)
  | .binary "||" left right, v => do
    let (a, v) ← evaluate left v
    if a ≠ 0 then return (1, v)
    let (b, v) ← evaluate right v
    return (truth (b ≠ 0), v)
  | .binary sign left right, v => do
    let (a, v) ← evaluate left v
    let (b, v) ← evaluate right v
    return (← combine sign a b, v)
  | .choice condition yes no, v => do
    let (c, v) ← evaluate condition v
    if c ≠ 0 then evaluate yes v else evaluate no v
  | .setting name sign value, v => do
    let (b, v) ← evaluate value v
    let n ← if sign = "" then pure b else combine sign (← v.get name) b
    return (n, { v with set := (name, n) :: v.set })

/-! ## Examples -/

def valueOf (text : String) : Except Trouble Int := do
  let expression ← read text
  let (n, _) ← evaluate expression ⟨fun name => .error (.unset name), []⟩
  return n

example : (valueOf "1 + 2 * (3 - -4) % 5").toOption = some 5 := by decide +kernel

example : (valueOf "0 && 1 / 0").toOption = some 0 := by decide +kernel

end RepairConsole.Rehearsal.Shell.Arithmetic
