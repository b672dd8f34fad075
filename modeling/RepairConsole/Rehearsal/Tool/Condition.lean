import RepairConsole.Rehearsal.Program
import RepairConsole.Rehearsal.Tool.Format
/-!
# Conditions

The expressions of `test`: about files, texts and numbers, joined by "and" and "or". The
first argument of the functions that read them bounds their steps.
-/

namespace RepairConsole.Rehearsal.Tool.Condition

/-- What is asked about the entry at a path. -/
def entryTest (operator : String) : Option (Entry → Bool) :=
  match operator with
  | "-e" | "-r" | "-w" => some fun _ => true
  | "-d" => some fun e => match e with | .directory => true | _ => false
  | "-f" => some fun e => match e with | .file .. | .tool _ => true | _ => false
  | "-s" => some fun e => match e with | .file c _ => c.size > 0 | .directory => true | _ => false
  | "-x" =>
    some fun e => match e with | .directory | .tool _ | .file _ true => true | _ => false
  | "-c" => some fun e => match e with | .void | .endless _ => true | _ => false
  | "-h" | "-L" | "-p" | "-S" | "-b" | "-u" | "-g" | "-k" => some fun _ => false
  | _ => none

def isUnary (operator : String) : Bool :=
  (entryTest operator).isSome || ["-z", "-n", "-t", "-O", "-G"].contains operator

def unary (d : Disk) (here : List String) (operator operand : String) : Bool :=
  match operator with
  | "-z" => operand.isEmpty
  | "-n" => !operand.isEmpty
  | "-t" => false
  | _ =>
    match d.find here operand with
    | .ok (_, entry) => ((entryTest operator).getD fun _ => true) entry
    | .error _ => false

def numberSigns : List String := ["-eq", "-ne", "-lt", "-le", "-gt", "-ge"]

def isBinary (operator : String) : Bool :=
  ["=", "!=", "<", ">"].contains operator || numberSigns.contains operator

/-- A whole number as operands of conditions are written. -/
def number (text : String) : Except String Int :=
  let isBlank (c : Char) : Bool := c == ' ' || c == '\t' || c == '\n'
  let cs := ((text.toList.dropWhile isBlank).reverse.dropWhile isBlank).reverse
  let (negative, digits) :=
    match cs with
    | '-' :: rest => (true, rest)
    | '+' :: rest => (false, rest)
    | _ => (false, cs)
  match Text.readDigits? digits with
  | some n => .ok (if negative then -Int.ofNat n else Int.ofNat n)
  | none => .error ("Illegal number: " ++ text)

def binary (operator a b : String) : Except String Bool := do
  match operator with
  | "=" => return a == b
  | "!=" => return a != b
  | "<" => return decide (a < b)
  | ">" => return decide (b < a)
  | _ =>
    let m ← number a
    let n ← number b
    match operator with
    | "-eq" => return m == n
    | "-ne" => return m != n
    | "-lt" => return m < n
    | "-le" => return m ≤ n
    | "-gt" => return n < m
    | _ => return n ≤ m

mutual

def readOr (d : Disk) (here : List String) : Nat → List String →
    Except String (Bool × List String)
  | 0, ws => .ok (false, ws)
  | fuel + 1, ws => do
    let (a, ws) ← readAnd d here fuel ws
    match ws with
    | "-o" :: rest =>
      let (b, ws) ← readOr d here fuel rest
      return (a || b, ws)
    | _ => return (a, ws)

def readAnd (d : Disk) (here : List String) : Nat → List String →
    Except String (Bool × List String)
  | 0, ws => .ok (false, ws)
  | fuel + 1, ws => do
    let (a, ws) ← readNot d here fuel ws
    match ws with
    | "-a" :: rest =>
      let (b, ws) ← readAnd d here fuel rest
      return (a && b, ws)
    | _ => return (a, ws)

def readNot (d : Disk) (here : List String) : Nat → List String →
    Except String (Bool × List String)
  | 0, ws => .ok (false, ws)
  | fuel + 1, ws =>
    match ws with
    | "!" :: next :: rest =>
      if isBinary next && !rest.isEmpty then readPrimary d here fuel ws
      else do
        let (a, ws) ← readNot d here fuel (next :: rest)
        return (!a, ws)
    | _ => readPrimary d here fuel ws

def readPrimary (d : Disk) (here : List String) : Nat → List String →
    Except String (Bool × List String)
  | 0, ws => .ok (false, ws)
  | fuel + 1, ws =>
    match ws with
    | [] => .ok (false, [])
    | [a] => .ok (!a.isEmpty, [])
    | a :: b :: rest =>
      match isBinary b, rest with
      | true, c :: rest => do return (← binary b a c, rest)
      | true, [] => .error (b ++ ": argument expected")
      | false, _ =>
        if a = "(" then
          if b = ")" then .ok (false, rest)
          else do
            let (value, ws) ← readOr d here fuel (b :: rest)
            match ws with
            | ")" :: rest => return (value, rest)
            | _ => .error "closing paren expected"
        else if isUnary a then .ok (unary d here a b, rest)
        else .ok (!a.isEmpty, b :: rest)

end

/-- Whether a condition holds, or what is wrong with it. -/
def holds (d : Disk) (here : List String) (words : List String) : Except String Bool := do
  match ← readOr d here (8 * words.length + 8) words with
  | (value, []) => return value
  | _ => .error (words.headD "" ++ ": unexpected operator")

end RepairConsole.Rehearsal.Tool.Condition
