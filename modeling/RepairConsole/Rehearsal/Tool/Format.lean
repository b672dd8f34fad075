import RepairConsole.Decimal.Numeral
import RepairConsole.Decimal.Rounded
import RepairConsole.Rehearsal.Tool.Escape
import RepairConsole.Text.Digits
/-!
# Printing with formats

A format has a directive for each argument, and is used over and over for as long as there
are arguments.
-/

namespace RepairConsole.Rehearsal.Tool

/-! ## Directives -/

/-- A directive of a format. -/
structure Directive where
  flags : List Char
  width : Nat
  precision : Option Nat
  kind : Char

namespace Directive

def has (flag : Char) (d : Directive) : Bool := d.flags.contains flag

def pad (d : Directive) (bytes : List UInt8) : List UInt8 :=
  let blanks := List.replicate (d.width - bytes.length) 32
  if d.has '-' then bytes ++ blanks else blanks ++ bytes

/-- The sign of a number. -/
def sign (d : Directive) (negative : Bool) : String :=
  if negative then "-" else if d.has '+' then "+" else if d.has ' ' then " " else ""

/-- A number, with zeros between its sign and its digits where they are to fill it up. -/
def fill (d : Directive) (zeros : Bool) (sign digits : String) : List UInt8 :=
  let missing :=
    if zeros && d.has '0' && !d.has '-' then d.width - sign.length - digits.length else 0
  d.pad (bytesOf (sign ++ String.ofList (List.replicate missing '0') ++ digits))

/-- A whole number in digits of a base, at least so many as the directive asks for. -/
def whole (d : Directive) (sign : String) (base n : Nat) : List UInt8 :=
  let digits := if n = 0 && d.precision = some 0 then [] else Nat.toDigits base n
  let zeros := List.replicate (d.precision.getD 1 - digits.length) '0'
  d.fill d.precision.isNone sign (String.ofList (zeros ++ digits))

/-- The short kinds of number lose the zeros at the end of their fraction. -/
def trimmed (d : Directive) (text : String) : String :=
  if d.has '#' || !text.toList.contains '.' then text
  else
    String.ofList
      ((text.toList.reverse.dropWhile (· == '0')).dropWhile (· == '.')).reverse

/-- A number with so many decimal places. -/
def fixedText (d : Directive) (places : Nat) (b : Decimal.Binary) : String :=
  let text := Decimal.positional (b.scaled places) (-places)
  if places = 0 && d.has '#' then text ++ "." else text

/-- A number with one digit in front of the point, and a power of ten. -/
def scientificText (d : Directive) (trim : Bool) (places : Nat) (b : Decimal.Binary) : String :=
  let (n, power) := b.digits places
  let text := Decimal.positional n (-places)
  let text := if places = 0 && d.has '#' then text ++ "." else text
  (if trim then d.trimmed text else text) ++
    (if power < 0 then "e-" else "e+") ++ Text.padDigits 2 power.natAbs

/-- A number that is no whole one. -/
def fractionText (d : Directive) (b : Decimal.Binary) : String :=
  let places := d.precision.getD 6
  match d.kind.toLower with
  | 'f' => d.fixedText places b
  | 'e' => d.scientificText false places b
  | _ =>
    let count := max places 1
    let power := (b.digits (count - 1)).2
    if -4 ≤ power ∧ power < count then d.trimmed (d.fixedText (count - 1 - power).toNat b)
    else d.scientificText true (count - 1) b

end Directive

/-! ## Arguments -/

/-- What is wrong with an argument that is to be a number. -/
inductive Misfit where
  | noNumber
  | moreThanNumber
  | tooLarge
  deriving DecidableEq, Repr

namespace Misfit

/-- How the shell tells it, and how other programs do. -/
def text (own : Bool) (argument : String) : Misfit → String
  | .noNumber =>
    if own then argument ++ ": expected numeric value"
    else s!"'{argument}': expected a numeric value"
  | .moreThanNumber =>
    if own then argument ++ ": not completely converted"
    else s!"'{argument}': value not completely converted"
  | .tooLarge =>
    (if own then argument else s!"'{argument}'") ++ ": Numerical result out of range"

/-- What is wrong with a number of which so much is left. -/
def of? (digits rest : List Char) (tooLarge : Bool) : Option Misfit :=
  if digits.isEmpty then some .noNumber
  else if !rest.isEmpty then some .moreThanNumber
  else if tooLarge then some .tooLarge else none

end Misfit

/-- A sign, and what follows it and the white space in front. -/
def readSign (cs : List Char) : Bool × List Char :=
  match cs.dropWhile fun c => c == ' ' || c == '\t' || c == '\n' with
  | '-' :: rest => (true, rest)
  | '+' :: rest => (false, rest)
  | rest => (false, rest)

/-- The code of the character after a quote. -/
def quotedCode? (argument : String) : Option Nat :=
  match argument.toList with
  | '\x27' :: rest | '\x22' :: rest =>
    some (((bytesOf (String.ofList rest)).headD 0).toNat)
  | _ => none

/-- A whole number, which may be octal or hexadecimal. -/
def readWhole (isSigned : Bool) (argument : String) : Int × Option Misfit :=
  match quotedCode? argument with
  | some code => (code, none)
  | none =>
    if argument.isEmpty then (0, none)
    else
      let (negative, rest) := readSign argument.toList
      let (base, rest) :=
        match rest with
        | '0' :: 'x' :: more | '0' :: 'X' :: more => (16, more)
        | '0' :: more => (8, '0' :: more)
        | _ => (10, rest)
      let value? (c : Char) : Option Nat := (hexDigit? c).filter (· < base)
      let digits := rest.takeWhile fun c => (value? c).isSome
      let n := digits.foldl (fun n c => base * n + (value? c).getD 0) 0
      let limit :=
        if !isSigned then 0xFFFFFFFFFFFFFFFF
        else if negative then 0x8000000000000000 else 0x7FFFFFFFFFFFFFFF
      let value := if isSigned || n ≤ limit then min n limit else limit
      (if negative && (isSigned || n ≤ limit) then -Int.ofNat value else value,
        Misfit.of? digits (rest.drop digits.length) (limit < n))

/-- The double of an argument, and whether it has a sign. -/
def readFraction (argument : String) : Bool × Float × Option Misfit :=
  match quotedCode? argument with
  | some code => (false, Float.ofNat code, none)
  | none =>
    if argument.isEmpty then (false, 0.0, none)
    else
      let (negative, rest) := readSign argument.toList
      match rest with
      | '0' :: 'x' :: more | '0' :: 'X' :: more =>
        let digits := more.takeWhile fun c => (hexDigit? c).isSome
        let n := digits.foldl (fun n c => 16 * n + (hexDigit? c).getD 0) 0
        (negative, Float.ofNat n, Misfit.of? digits (more.drop digits.length) false)
      | _ =>
        let front := rest.takeWhile Char.isDigit
        let (places, rest) :=
          match rest.drop front.length with
          | '.' :: more => (more.takeWhile Char.isDigit, more.dropWhile Char.isDigit)
          | more => ([], more)
        let (power, rest) :=
          match rest with
          | 'e' :: more | 'E' :: more =>
            let (isDown, more) :=
              match more with
              | '-' :: more => (true, more)
              | '+' :: more => (false, more)
              | _ => (false, more)
            let digits := more.takeWhile Char.isDigit
            let power := Int.ofNat (Text.digitsValue digits)
            if digits.isEmpty then (0, rest)
            else (if isDown then -power else power, more.drop digits.length)
          | _ => (0, rest)
        let digits := front ++ places
        let value := Decimal.Numeral.magnitude? (Text.digitsValue digits) (power - places.length)
        (negative, value.getD 0.0, Misfit.of? digits rest value.isNone)

/-! ## Formats -/

/-- The number at the front of a directive, or the next argument where a star stands. -/
def readNumber (cs : List Char) (arguments : List String) :
    Option Int × List Char × List String :=
  match cs with
  | '*' :: rest => (some (readWhole true (arguments.headD "")).1, rest, arguments.tail)
  | _ =>
    let digits := cs.takeWhile Char.isDigit
    ((Text.readDigits? digits).map Int.ofNat, cs.drop digits.length, arguments)

/-- The directive after a percent sign, and what follows. Programs other than the shell pass
over letters that tell the size of a number. -/
def readDirective (own : Bool) (cs : List Char) (arguments : List String) :
    Option (Directive × List Char × List String) :=
  let flags := cs.takeWhile "-0+ #".toList.contains
  let (width, rest, arguments) := readNumber (cs.drop flags.length) arguments
  let (precision, rest, arguments) :=
    match rest with
    | '.' :: rest =>
      let (precision, rest, arguments) := readNumber rest arguments
      ((precision.getD 0).toNat?, rest, arguments)
    | _ => (none, rest, arguments)
  let width := width.getD 0
  let flags := if width < 0 then '-' :: flags else flags
  match if own then rest else rest.dropWhile "hlLjtz".toList.contains with
  | kind :: rest => some (⟨flags, width.natAbs, precision, kind⟩, rest, arguments)
  | [] => none

/-- Why printing ends before the format does. -/
inductive Stop where
  | asked
  | fault
  deriving DecidableEq, Repr

/-- An argument as a directive shows it. -/
structure Shown where
  bytes : List UInt8
  misfit : Option Misfit := none
  ended : Bool := false

namespace Directive

/-- Shows an argument; none where the directive means nothing. -/
def shown (d : Directive) (own : Bool) (argument : String) : Option Shown :=
  let short (bytes : List UInt8) : List UInt8 :=
    match d.precision with
    | some n => bytes.take n
    | none => bytes
  let unsigned (base : Nat) (mark : String) (upper : Bool) : Option Shown :=
    let (n, misfit) := readWhole false argument
    let n := (n % 0x10000000000000000).toNat
    let bytes := d.whole (if d.has '#' && n ≠ 0 then mark else "") base n
    some ⟨if upper then bytes.map fun b => if 97 ≤ b && b ≤ 102 then b - 32 else b else bytes,
      misfit, false⟩
  match d.kind with
  | 's' => some { bytes := d.pad (short (bytesOf argument)) }
  | 'b' =>
    let (bytes, ended) := (Escapes.inText own).bytes argument
    some { bytes := d.pad (short bytes), ended }
  | 'c' => some { bytes := d.pad [(bytesOf argument).headD 0] }
  | 'd' | 'i' =>
    let (n, misfit) := readWhole true argument
    some { bytes := d.whole (d.sign (n < 0)) 10 n.natAbs, misfit }
  | 'u' => unsigned 10 "" false
  | 'o' => unsigned 8 "0" false
  | 'x' => unsigned 16 "0x" false
  | 'X' => unsigned 16 "0X" true
  | 'f' | 'F' | 'e' | 'E' | 'g' | 'G' =>
    let (negative, x, misfit) := readFraction argument
    let text := d.fractionText (Decimal.Binary.ofFloat x)
    let text := if d.kind.isUpper then text.toUpper else text
    some { bytes := d.fill true (d.sign negative) text, misfit }
  | _ => none

end Directive

/-- What a format came to: the bytes, the complaints, and the arguments that are left. -/
structure Formatted where
  bytes : List UInt8 := []
  faults : List String := []
  left : List String
  stop : Option Stop := none

namespace Formatted

/-- Puts what came before in front. -/
def after (bytes : List UInt8) (fault : Option String) (f : Formatted) : Formatted :=
  { f with bytes := bytes ++ f.bytes, faults := fault.toList ++ f.faults }

end Formatted

/-- A format once through. The first argument bounds the steps. -/
def formatOnce (own : Bool) : Nat → List Char → List String → Formatted
  | 0, _, arguments => { left := arguments }
  | _ + 1, [], arguments => { left := arguments }
  | fuel + 1, '\\' :: rest, arguments =>
    match (Escapes.inFormat own).read rest with
    | some (bytes, rest) => (formatOnce own fuel rest arguments).after bytes none
    | none => { left := arguments, stop := some .asked }
  | fuel + 1, '%' :: '%' :: rest, arguments => (formatOnce own fuel rest arguments).after [37] none
  | fuel + 1, '%' :: rest, arguments =>
    let meaningless (spelt : List Char) : String :=
      "%" ++ String.ofList spelt ++
        if own then ": invalid directive" else ": invalid conversion specification"
    match readDirective own rest arguments with
    | none =>
      let fault := if own then "missing format character" else meaningless rest
      { faults := [fault], left := arguments, stop := some .fault }
    | some (d, after, arguments) =>
      let argument := arguments.headD ""
      match d.shown own argument with
      | none =>
        let fault := meaningless (rest.take (rest.length - after.length))
        { faults := [fault], left := arguments, stop := some .fault }
      | some shown =>
        let fault := shown.misfit.map (Misfit.text own argument)
        if shown.ended then
          ({ left := arguments.tail, stop := some .asked } : Formatted).after shown.bytes fault
        else (formatOnce own fuel after arguments.tail).after shown.bytes fault
  | fuel + 1, c :: rest, arguments =>
    (formatOnce own fuel rest arguments).after (bytesOf (String.singleton c)) none

/-- A format over and over, for as long as it takes arguments up. -/
def format (own : Bool) (pattern : String) : Nat → List String → Formatted
  | 0, arguments => { left := arguments }
  | fuel + 1, arguments =>
    let first := formatOnce own (pattern.length + 1) pattern.toList arguments
    if first.stop.isSome || first.left.isEmpty || first.left.length == arguments.length then first
    else
      let more := format own pattern fuel first.left
      { more with bytes := first.bytes ++ more.bytes, faults := first.faults ++ more.faults }

/-- Prints with a format. `own` tells the shell's own program from the system's. -/
def printf (own : Bool) (called : String) (arguments : List String) : Deal :=
  let said (text : String) : String := called ++ ": " ++ text
  let option? : Option Char :=
    match (arguments.headD "").toList with
    | '-' :: c :: _ => if own && c != '-' then some c else none
    | _ => none
  match option?, if arguments.head? == some "--" then arguments.tail else arguments with
  | some c, _ => failing 2 (said "Illegal option -" ++ String.singleton c)
  | none, [] =>
    if own then failing 2 (said "usage: printf format [arg ...]") else operandMissing called
  | none, pattern :: rest =>
    let f := format own pattern (rest.length + 1) rest
    let excess :=
      match f.stop, own, f.left with
      | none, false, word :: _ =>
        [s!"warning: ignoring excess arguments, starting with '{word}'"]
      | _, _, _ => []
    let ends := if own then "" else "\n"
    let complaints := (f.faults ++ excess).map fun text => Saying.complaint (said text ++ ends)
    { said := complaints ++ [.out f.bytes]
      code := if f.stop = some .fault && own then 2 else if f.faults.isEmpty then 0 else 1 }

end RepairConsole.Rehearsal.Tool
