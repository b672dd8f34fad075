import RepairConsole.Rehearsal.Tool.Files
import RepairConsole.Rehearsal.Tool.Format
/-!
# Programs that pass bytes on

They read the files they are given, or else their input, and print some of it or all of it
changed.
-/

namespace RepairConsole.Rehearsal.Tool

/-- The bytes of the named files, or of the input where none is named. `complain` tells what
is said of a file that cannot be read. -/
def gather (complain : String → SystemError → String) (d : Disk) (here : List String)
    (input : List UInt8) (files : List String) : Deal :=
  if files.isEmpty then { printed input with drained := true }
  else
    files.foldl (fun (deal : Deal) file =>
      if file == "-" then deal.say (.out input)
      else
        match d.read here file with
        | .ok contents => deal.say (.out contents.toList)
        | .error error => { deal.say (.complaint (complain file error)) with code := 1 }) {}

/-- What most programs say of a file that they cannot read. -/
def unread (called file : String) (error : SystemError) : String :=
  s!"{called}: {file}: " ++ reason error ++ "\n"

def linesOf (bytes : List UInt8) : List (List UInt8) :=
  let (last, lines) := bytes.foldr (fun b (line, lines) =>
    if b = 10 then ([10], if line.isEmpty then lines else line :: lines)
    else (b :: line, lines)) (([] : List UInt8), ([] : List (List UInt8)))
  if last.isEmpty then lines else last :: lines

/-- How much of the front or of the end is meant. -/
structure Cut where
  byBytes : Bool := false
  /-- The sign of the count, if it has one. -/
  sign : Option Char := none
  count : Nat := 10

namespace Cut

def ofText (byBytes : Bool) (text : List Char) : Cut :=
  match text with
  | '+' :: digits => ⟨byBytes, some '+', Text.digitsValue digits⟩
  | '-' :: digits => ⟨byBytes, some '-', Text.digitsValue digits⟩
  | digits => ⟨byBytes, none, (Text.readDigits? digits).getD 10⟩

/-- What is meant, and the arguments after that. -/
def read (arguments : List String) : Cut × List String :=
  match arguments with
  | "-n" :: n :: files => (ofText false n.toList, files)
  | "-c" :: n :: files => (ofText true n.toList, files)
  | first :: files =>
    match first.toList with
    | '-' :: 'n' :: text => (ofText false text, files)
    | '-' :: 'c' :: text => (ofText true text, files)
    | '-' :: text => (ofText false text, files)
    | _ => ({}, arguments)
  | [] => ({}, [])

/-- So many at the front, or all but so many at the end. -/
def front {α : Type} (c : Cut) (items : List α) : List α :=
  if c.sign = some '-' then items.take (items.length - c.count) else items.take c.count

/-- So many at the end, or all from one on. -/
def back {α : Type} (c : Cut) (items : List α) : List α :=
  if c.sign = some '+' then items.drop (c.count - 1) else items.drop (items.length - c.count)

/-- Cuts bytes or lines. -/
def apply (c : Cut) (cut : {α : Type} → List α → List α) (bytes : List UInt8) : List UInt8 :=
  if c.byBytes then cut bytes else (cut (linesOf bytes)).flatten

end Cut

/-! ## Order -/

/-- The number that a line begins with, with its sign. -/
def leadingNumber (line : List UInt8) : Int :=
  let text := line.dropWhile fun b => b = 32 || b = 9
  let (isNegative, digits) := if text.head? = some 45 then (true, text.tail) else (false, text)
  let value := (digits.takeWhile fun b => 48 ≤ b && b ≤ 57).foldl
    (fun n b => 10 * n + (b.toNat - 48)) 0
  if isNegative then -Int.ofNat value else value

/-- Drops a line that has the same key as the one before. -/
def dropRepeated {α : Type} [DecidableEq α] (key : List UInt8 → α) :
    List (List UInt8) → List (List UInt8)
  | a :: b :: rest =>
    if key a = key b then dropRepeated key (a :: rest) else a :: dropRepeated key (b :: rest)
  | lines => lines
termination_by lines => lines.length

def sort (called : String) (d : Disk) (here : List String) (input : List UInt8)
    (arguments : List String) : Deal :=
  let (options, files) := splitOptions arguments
  let byNumber := options.contains 'n'
  let deal := gather (fun file error =>
    s!"{called}: cannot read: {file}: " ++ reason error ++ "\n") d here input files
  let lines := (linesOf deal.out).map fun line => line.filter (· != 10)
  let isBefore (a b : List UInt8) : Bool :=
    if byNumber && leadingNumber a != leadingNumber b then leadingNumber a < leadingNumber b
    else byNumber && options.contains 'u' || decide (a ≤ b)
  let isReversed := options.contains 'r'
  let sorted := lines.mergeSort fun a b => if isReversed then isBefore b a else isBefore a b
  let kept :=
    if !options.contains 'u' then sorted
    else if byNumber then dropRepeated leadingNumber sorted
    else dropRepeated id sorted
  if deal.code = 0 then deal.printing (kept.map (· ++ [10])).flatten
  else { deal with said := deal.complaints, code := 2 }

/-! ## Counting -/

def isGapByte (b : UInt8) : Bool := b = 32 || (9 ≤ b && b ≤ 13)

def countWords (bytes : List UInt8) : Nat :=
  (bytes.foldl (fun (count, inWord) b =>
    (if !isGapByte b && !inWord then count + 1 else count, !isGapByte b)) (0, false)).1

/-- Lines, words and bytes, of each file and in all. -/
def wc (called : String) (d : Disk) (here : List String) (input : List UInt8)
    (arguments : List String) : Deal :=
  let (options, files) := splitOptions arguments
  let isAsked (letter : Char) : Bool := options.isEmpty || options.contains letter
  let counts (bytes : List UInt8) : List Nat :=
    (if isAsked 'l' then [bytes.count 10] else []) ++
      (if isAsked 'w' then [countWords bytes] else []) ++
      if isAsked 'c' then [bytes.length] else []
  let shown (width : Nat) (numbers : List Nat) (name : String) : List UInt8 :=
    let texts := numbers.map fun n =>
      String.ofList (List.replicate (width - (toString n).length) ' ') ++ toString n
    bytesOf (" ".intercalate (texts ++ if name.isEmpty then [] else [name]) ++ "\n")
  if files.isEmpty then
    let numbers := counts input
    { printed (shown (if numbers.length = 1 then 1 else 7) numbers "") with drained := true }
  else
    let deals := files.map fun file => (file, gather (unread called) d here input [file])
    let all := (deals.map (·.2.out)).flatten
    let isSingle := files.length = 1 && (counts []).length = 1
    let width := if isSingle then 1 else (toString all.length).length
    let total : List UInt8 := if files.length < 2 then [] else shown width (counts all) "total"
    let lines := deals.map fun (name, deal) =>
      if deal.code = 0 then { deal with said := [.out (shown width (counts deal.out) name)] }
      else deal
    { said := lines.flatMap (·.said) ++ [.out total]
      code := if deals.all (·.2.code = 0) then 0 else 1 }

/-! ## Characters -/

/-- The characters of a set of `tr`, with its ranges written out. -/
def charSet : List Char → List UInt8
  | a :: '-' :: b :: rest =>
    if a ≤ b then
      (List.range (b.toNat - a.toNat + 1)).map (fun i => UInt8.ofNat (a.toNat + i)) ++
        charSet rest
    else charSet rest
  | '\\' :: c :: rest =>
    let digits := ((c :: rest).take 3).takeWhile isOctal
    if digits.isEmpty then (control? c).getD (UInt8.ofNat c.toNat) :: charSet rest
    else octalByte digits :: charSet (rest.drop (digits.length - 1))
  | c :: rest => UInt8.ofNat c.toNat :: charSet rest
  | [] => []
termination_by cs => cs.length
decreasing_by all_goals simp only [List.length_cons, List.length_drop]; omega

def charClasses : List (String × String) :=
  [("[:lower:]", "a-z"), ("[:upper:]", "A-Z"), ("[:digit:]", "0-9"), ("[:alpha:]", "A-Za-z"),
    ("[:alnum:]", "0-9A-Za-z"), ("[:space:]", "\t-\r "), ("[:blank:]", "\t ")]

def bytesIn (set : String) : List UInt8 :=
  charSet (charClasses.foldl (fun set (name, range) => set.replace name range) set).toList

/-- Of several equal bytes of a set in a row only the first. -/
def squeeze (set : List UInt8) : List UInt8 → List UInt8
  | a :: b :: rest =>
    if a = b && set.contains a then squeeze set (a :: rest) else a :: squeeze set (b :: rest)
  | bytes => bytes
termination_by bytes => bytes.length

/-- Replaces, deletes or squeezes bytes. -/
def tr (called : String) (arguments : List String) (input : List UInt8) : Deal :=
  let (options, sets) := splitOptions arguments
  let source (set : String) : List UInt8 :=
    if options.any "cC".toList.contains then
      ((List.range 256).map UInt8.ofNat).filter (!(bytesIn set).contains ·)
    else bytesIn set
  match sets, options.contains 'd', options.contains 's' with
  | [set], true, false =>
    let set := source set
    { printed (input.filter (!set.contains ·)) with drained := true }
  | [set], false, true => { printed (squeeze (source set) input) with drained := true }
  | [set, squeezed], true, true =>
    let set := source set
    let kept := input.filter (!set.contains ·)
    { printed (squeeze (bytesIn squeezed) kept) with drained := true }
  | [set, target], false, squeezes =>
    let target := bytesIn target
    let pairs := (source set).zipIdx
    let change (b : UInt8) : UInt8 :=
      match pairs.lookup b with
      | some i => (target[i]?).getD ((target.getLast?).getD b)
      | none => b
    let out := input.map change
    { printed (if squeezes then squeeze target out else out) with drained := true }
  | _, _, _ => operandMissing called

/-- Passes the input on, and writes it to files as well. -/
def tee (d : Disk) (here : List String) (arguments : List String) (input : List UInt8) : Deal :=
  let (options, files) := splitOptions arguments
  let disk := files.foldl (fun d file =>
    let kept :=
      match options.contains 'a', d.read here file with
      | true, .ok contents => contents
      | _, _ => ByteArray.empty
    ((d.write here file (kept ++ ⟨input.toArray⟩)).toOption).getD d) d
  { printed input with drained := true, disk }

end RepairConsole.Rehearsal.Tool
