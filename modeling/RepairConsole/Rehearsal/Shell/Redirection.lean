import RepairConsole.Rehearsal.Shell.Expansion
/-!
# Redirections

Where the streams of a statement lead. They are led elsewhere in order, before the statement
runs, and back after it.
-/

namespace RepairConsole.Rehearsal.Shell

/-- Why a file cannot be made or opened, in the shell's words. -/
def openFailure (making : Bool) (error : SystemError) : String :=
  match error with
  | .errno 2 => if making then "Directory nonexistent" else "No such file"
  | .errno n => SystemError.errnoName n
  | _ => error.text

/-- Where a stream leads; none where it is shut. -/
def State.stream? (number : Nat) (s : State) : Option Stream :=
  let stream :=
    match number with
    | 1 => some s.out
    | 2 => some s.err
    | _ => s.others.lookup number
  stream.filter (· != Stream.shut)

/-- What a stream reads; none where it is shut. -/
def State.input? (number : Nat) (s : State) : Option (List UInt8) :=
  match number with
  | 0 => some s.input
  | _ => s.inputs.lookup number

def lead (stream : Nat) (target : Stream) (s : State) : State :=
  match stream with
  | 1 => { s with out := target }
  | 2 => { s with err := target }
  | _ =>
    { s with
      others := (stream, target) :: s.others.filter (·.1 != stream)
      inputs := s.inputs.filter (·.1 != stream) }

/-- Lets a stream read something, which may be what another stream reads. -/
def feed (stream : Nat) (bytes : List UInt8) (source : Option Nat) (s : State) : State :=
  match stream with
  | 0 => { s with input := bytes, inputOf := source }
  | _ =>
    { s with
      inputs := (stream, bytes) :: s.inputs.filter (·.1 != stream)
      others := s.others.filter (·.1 != stream) }

def shut (stream : Nat) (s : State) : State :=
  match stream with
  | 0 => { s with input := [], inputOf := none }
  | 1 | 2 => lead stream .shut s
  | _ =>
    { s with
      others := s.others.filter (·.1 != stream), inputs := s.inputs.filter (·.1 != stream) }

/-- Opens a file to be written to. The shell's own streams have names among the files. -/
def openForWriting (manner : Manner) (path : String) (s : State) :
    Except SystemError (Stream × State) :=
  match path with
  | "/dev/stdout" => .ok (s.out, s)
  | "/dev/stderr" => .ok (s.err, s)
  | _ => do
    let found : Option ByteArray :=
      match s.disk.find s.here path with
      | .ok (_, .file contents _) => some contents
      | _ => none
    if manner = .anew && s.options.sparing && found.isSome then .error (.errno 17)
    let kept := if manner = .further then found.getD ByteArray.empty else ByteArray.empty
    let disk ← s.disk.write s.here path kept
    return (.file (← s.disk.resolve s.here path), { s with disk })

/-- Leads a stream elsewhere; none where that cannot be. -/
def redirect (output : Output) (r : Redirect) (s : State) : Option State × State :=
  match r.lead with
  | .same word =>
    let (text, s) := expandOne output word s
    match text.toNat? with
    | some number =>
      match s.input? number, s.stream? number with
      | some bytes, _ => (some (feed r.stream bytes (some number) s), s)
      | none, some target => (some (lead r.stream target s), s)
      | none, none => (none, s.object (text ++ ": Bad file descriptor") 2)
    | none =>
      if text = "-" then (some (shut r.stream s), s)
      else (none, s.fail "Syntax error: Bad fd number" 2)
  | .fromText word =>
    let (text, s) := expandOne output word s
    (some (feed r.stream text.toUTF8.toList none s), s)
  | .fromFile word making =>
    let (path, s) := expandOne output word s
    match s.disk.read s.here path, making with
    | .ok contents, _ => (some (feed r.stream contents.toList none s), s)
    | .error _, true =>
      match s.disk.write s.here path ByteArray.empty with
      | .ok disk => (some (feed r.stream [] none { s with disk }), s)
      | .error error =>
        (none, s.object ("cannot create " ++ path ++ ": " ++ openFailure true error) 2)
    | .error error, false =>
      (none, s.object ("cannot open " ++ path ++ ": " ++ openFailure false error) 2)
  | .toFile word manner =>
    let (path, s) := expandOne output word s
    match openForWriting manner path s with
    | .ok (target, led) => (some (lead r.stream target led), s)
    | .error error =>
      (none, s.object ("cannot create " ++ path ++ ": " ++ openFailure true error) 2)

def redirectAll (output : Output) : List Redirect → State → Option State × State
  | [], s => (some s, s)
  | r :: rest, s =>
    match redirect output r s with
    | (some s, _) => if s.fate.isSome then (none, s) else redirectAll output rest s
    | (none, s) => (none, s)

/-- Puts the streams of `before` back after a statement with redirections. What was not read
of another stream's input is left to that. -/
def restore (redirects : List Redirect) (before s : State) : State :=
  if redirects.isEmpty then s
  else
    let isLed (stream : Nat) : Bool := redirects.any (·.stream == stream)
    let left (stream : Nat × List UInt8) : Nat × List UInt8 :=
      if isLed 0 && s.inputOf == some stream.1 then (stream.1, s.input) else stream
    let inputs :=
      (s.inputs.map left).filter (!isLed ·.1) ++ before.inputs.filter (isLed ·.1)
    { s with
      out := before.out, err := before.err, others := before.others, inputs
      input := if isLed 0 then before.input else s.input
      inputOf := if isLed 0 then before.inputOf else s.inputOf }

end RepairConsole.Rehearsal.Shell
