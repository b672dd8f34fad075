import RepairConsole.Rehearsal.Shell.BuiltIn
import RepairConsole.Rehearsal.Shell.Parser
import RepairConsole.Rehearsal.Shell.Redirection
/-!
# Running scripts

A script runs on a state of its own and leaves behind what it did. The first argument of the
functions that run statements bounds their nesting and the turns of loops; a script that
uses it up counts as one that goes on for ever.
-/

namespace RepairConsole.Rehearsal.Shell

def shells : List String := ["sh", "dash", "bash"]

/-- Where a shell looks for programs if nobody tells it. -/
def standardPath : String := "/usr/local/sbin:/usr/local/bin:/usr/sbin:/usr/bin:/sbin:/bin"

/-! ## Around statements -/

/-- Runs something while somebody looks whether it does well. -/
def asked (run : State → State) (s : State) : State :=
  { run { s with tested := true } with tested := s.tested }

/-- A script that is to end where a statement fails ends here. -/
def check (s : State) : State :=
  if s.options.failing && !s.tested && s.status ≠ 0 && !s.stopped then
    { s with fate := some (.exited s.status) }
  else s

/-- A loop was left as far as it goes: it is over, or takes its next turn. -/
def atTurn (s : State) : Bool × State :=
  match s.leaving with
  | some (.turn 0) => (true, { s with leaving := none })
  | some (.turn (count + 1)) => (false, { s with leaving := some (.turn count) })
  | some (.loops count) =>
    (false, { s with leaving := if count ≤ 1 then none else some (.loops (count - 1)) })
  | some .call => (false, s)
  | none => (s.fate.isNone, s)

/-- A state for another program. It sees the variables that are shared, and nothing else. -/
def fresh (name : String) (arguments : List String) (s : State) : State :=
  { s with
    name, arguments, status := 0, options := {}, tested := false, fixed := [], functions := []
    hidden := [], calls := 0, loops := 0, leaving := none, asides := [], lastAside := none
    line := 1, clock := s.clock + State.launchTime
    bindings := s.bindings.filter fun binding => s.exported.contains binding.1 }

/-- Sets variables for the time of a command, which sees them. -/
def lend (values : List (String × String)) (s : State) : State :=
  values.foldl (fun s (name, value) => (s.setVariable name value).share name) s

/-- Takes back what was lent. -/
def takeBack (values : List (String × String)) (before s : State) : State :=
  { values.foldl (fun s (name, _) => s.bind name (before.bindings.lookup name)) s with
    exported := if values.isEmpty then s.exported else before.exported }

/-- Takes back what a function hid. -/
def uncover (before s : State) : State :=
  { s.hidden.foldl (fun s (name, value) => s.bind name value) s with
    hidden := before.hidden, calls := before.calls, loops := before.loops
    arguments := before.arguments
    leaving := if s.leaving = some .call then none else s.leaving }

/-- Shows a command before it runs. -/
def show_ (values : List (String × String)) (fields : List String) (s : State) : State :=
  if s.options.shown then
    let words := values.map (fun (name, value) => name ++ "=" ++ value) ++ fields
    s.complain ("+ " ++ " ".intercalate words ++ "\n")
  else s

/-- Whether a word stays whole in a command that sets variables. -/
def staysWhole (words : List Word) (word : Word) : Bool :=
  match words.head?.bind plain? with
  | some name => ["export", "readonly", "local"].contains name && (assignment? word).isSome
  | none => false

/-- What is said of a program that cannot be run, and the status that stands for it. -/
def unfound (name : String) (error : SystemError) : String × Nat :=
  if error = .accessDenied then (name ++ ": Permission denied", 126)
  else if error = .nameTooLong then (name ++ ": " ++ Tool.reason error, 127)
  else (name ++ ": not found", 127)

/-! ## Running -/

mutual

/-- Runs a statement, and then what signals have set off. -/
def perform : Nat → Statement → State → State
  | 0, _, s => s.exhausted
  | fuel + 1, statement, s =>
    if s.stopped || s.options.idle then s
    else attend fuel <|
      match statement with
      | .nothing => s
      | .sequence first second => perform fuel second (perform fuel first s)
      | .unless did first second =>
        let s := asked (perform fuel first) s
        if s.stopped || (s.status == 0) == did then s else perform fuel second s
      | .negated body =>
        let s := asked (perform fuel body) s
        if s.stopped then s else { s with status := if s.status = 0 then 1 else 0 }
      | .piped first second =>
        let left := perform fuel first { s.apart with out := .held, held := [] }
        let between := left.rejoin s
        let right := perform fuel second { between.apart with input := left.held, held := s.held }
        check ({ right with input := left.input }.rejoin { between with status := s.status })
      | .aside body =>
        let s := s.settle
        let part := perform fuel body
          { s.apart with
            input := [], events := [], besides := s.besides, background := true
            clock := s.clock + State.birthTime }
        (finish fuel part).setOff s
      | .nested body redirects =>
        match redirectAll (output fuel) redirects s with
        | (some inner, _) =>
          check (restore redirects s ((finish fuel (perform fuel body inner.apart)).rejoin s))
        | (none, s) => check s
      | .grouped body redirects =>
        match redirectAll (output fuel) redirects s with
        | (some inner, _) => restore redirects s (perform fuel body inner)
        | (none, s) => check s
      | .forEach name words body redirects =>
        match redirectAll (output fuel) redirects s with
        | (some inner, _) =>
          let (fields, inner) := expandAll (fun _ => false) (output fuel) words inner
          let inner := { inner with status := 0, loops := inner.loops + 1 }
          let after := forTurn fuel name fields body inner
          restore redirects s { after with loops := s.loops }
        | (none, s) => check s
      | .whileDoing well condition body redirects =>
        match redirectAll (output fuel) redirects s with
        | (some inner, _) =>
          let after := turn fuel well condition body 0 { inner with loops := inner.loops + 1 }
          restore redirects s { after with loops := s.loops }
        | (none, s) => check s
      | .choice condition yes no redirects =>
        match redirectAll (output fuel) redirects s with
        | (some inner, _) =>
          let after := asked (perform fuel condition) inner
          restore redirects s
            (if after.stopped then after
              else if after.status = 0 then perform fuel yes after
              else
                match no with
                | .nothing => { after with status := 0 }
                | _ => perform fuel no after)
        | (none, s) => check s
      | .cases word arms redirects =>
        match redirectAll (output fuel) redirects s with
        | (some inner, _) =>
          let (text, inner) := expandOne (output fuel) word inner
          restore redirects s (choose fuel text arms { inner with status := 0 })
        | (none, s) => check s
      | .definition name body =>
        { s with functions := (name, body) :: s.functions.filter (·.1 != name), status := 0 }
      | .simple line assignments words redirects =>
        check (simple fuel assignments words redirects
          { s with line, answered := 0, clock := s.clock + State.stepTime })

/-- Runs a simple statement: words are expanded, streams led, variables set, and the command
is called. -/
def simple : Nat → List (String × Word) → List Word → List Redirect → State → State
  | 0, _, _, _, s => s.exhausted
  | fuel + 1, assignments, words, redirects, s =>
    let (fields, s) := expandAll (staysWhole words) (output fuel) words s
    let special := fields.head?.any specials.contains
    let early (s : State) : State :=
      if special && s.fate.isNone then { s with fate := some (.exited s.status) } else s
    if s.fate.isSome then s
    else
      match redirectAll (output fuel) redirects s with
      | (none, s) => early s
      | (some inner, _) =>
        let (values, named) := assignments.foldl (fun (values, s) (name, word) =>
          let (value, s) := expandOne (output fuel) word s
          (values ++ [(name, value)], s.bind name (some value)))
          (([] : List (String × String)), inner)
        let inner := takeBack values inner named
        let setAll (s : State) : State :=
          values.foldl (fun s (name, value) => s.setVariable name value) s
        if inner.fate.isSome then restore redirects s inner
        else
          let inner := { show_ values fields { inner with err := s.err } with err := inner.err }
          match fields with
          | [] => restore redirects s (setAll { inner with status := inner.answered })
          | ["exec"] => { setAll inner with status := 0 }
          | "exec" :: name :: arguments =>
            match inner.disk.program true inner.here inner.searchPath name with
            | .ok found =>
              let s := program fuel name found arguments (lend values inner).disarm
              if s.fate.isSome then s else { s with fate := some (.exited s.status) }
            | .error error => inner.fail (unfound ("exec: " ++ name) error).1 (unfound name error).2
          | name :: arguments =>
            if special then restore redirects s (call fuel true name arguments (setAll inner))
            else
              let after := call fuel true name arguments (lend values inner)
              restore redirects s (takeBack values s after)

/-- Takes the turns of a loop over fields. -/
def forTurn : Nat → String → List String → Statement → State → State
  | 0, _, _, _, s => s.exhausted
  | _, _, [], _, s => s
  | fuel + 1, name, field :: fields, body, s =>
    let s := s.setVariable name field
    match atTurn (perform fuel body s) with
    | (true, s) => forTurn fuel name fields body s
    | (false, s) => s

/-- Turns a loop until its condition fails. `status` is that of the last turn. -/
def turn : Nat → Bool → Statement → Statement → Nat → State → State
  | 0, _, _, _, _, s => s.exhausted
  | fuel + 1, well, condition, body, status, s =>
    match atTurn (asked (perform fuel condition) s) with
    | (false, s) => s
    | (true, after) =>
      if (after.status == 0) != well then { after with status }
      else
        match atTurn (perform fuel body after) with
        | (true, s) => turn fuel well condition body s.status s
        | (false, s) => s

/-- Runs the first arm with a pattern that fits. -/
def choose : Nat → String → Arms → State → State
  | 0, _, _, s => s.exhausted
  | _, _, .none, s => s
  | fuel + 1, text, .arm patterns body rest, s =>
    let (fits, s) := patterns.foldl (fun (fits, s) word =>
      if fits then (fits, s)
      else
        let (pattern, s) := expandPattern (output fuel) word s
        (Pattern.fits pattern text.toList, s)) (false, s)
    if fits then perform fuel body s else choose fuel text rest s

/-- Runs a command: a function (unless those are passed over), the shell's own, or a
program. -/
def call : Nat → Bool → String → List String → State → State
  | 0, _, _, _, s => s.exhausted
  | fuel + 1, functions, name, arguments, s =>
    match (s.functions.lookup name).filter fun _ => functions && !specials.contains name with
    | some body =>
      uncover s (perform fuel body
        { s with arguments, calls := s.calls + 1, loops := 0, hidden := [] })
    | none =>
      match name, arguments with
      | "eval", _ =>
        script fuel "eval: " (" ".intercalate arguments) { s with status := 0 }
      | "command", "-v" :: names => tellMeanings false (names.take 1) s
      | "command", "-V" :: names => tellMeanings true (names.take 1) s
      | "command", "--" :: name :: arguments | "command", name :: arguments =>
        call fuel false name arguments s
      | "command", [] => { s with status := 0 }
      | ".", path :: _ => source fuel path s
      | _, _ =>
        match builtIn? name arguments s with
        | some s => s
        | none =>
          match s.disk.program true s.here s.searchPath name with
          | .ok found => (program fuel name found arguments s.apart).rejoin s
          | .error error => s.object (unfound name error).1 (unfound name error).2

/-- Runs a script in the shell itself. -/
def source : Nat → String → State → State
  | 0, _, s => s.exhausted
  | fuel + 1, path, s =>
    let found : Except String ByteArray :=
      if path.toList.contains '/' then
        (s.disk.read s.here path).mapError fun error =>
          ".: cannot open " ++ path ++ ": " ++ openFailure false error
      else
        let paths := (Text.splitAt ':' s.searchPath.toList).map fun directory =>
          Path.join (if directory.isEmpty then "." else String.ofList directory) path
        match paths.filterMap fun path => (s.disk.read s.here path).toOption with
        | contents :: _ => .ok contents
        | [] => .error (".: " ++ path ++ ": not found")
    match found with
    | .ok contents =>
      let after := script fuel "" (Text.Utf8.decode contents) { s with status := 0 }
      { after with leaving := if after.leaving = some .call then none else after.leaving }
    | .error reason => s.fail reason 2

/-- Runs the traps of the signals that have come. The status stays as it was. -/
def attend : Nat → State → State
  | 0, s => s.exhausted
  | fuel + 1, s =>
    let s := s.collect
    if s.stopped then s
    else
      match s.due with
      | [] => s
      | signal :: due =>
        match s.traps.lookup signal with
        | some action =>
          let after := script fuel "" action { s with due }
          if after.stopped then after else attend fuel { after with status := s.status }
        | none => attend fuel { s with due }

/-- Does what is set for the end of a script. -/
def finish : Nat → State → State
  | 0, s => s.exhausted
  | fuel + 1, s =>
    match s.fate, s.traps.lookup 0 with
    | some (.killed _), _ | _, none => s
    | fate, some action =>
      let status := match fate with
        | some (.exited code) => code
        | _ => s.status
      let after :=
        script fuel "" action { s with fate := none, leaving := none, traps := [], status }
      { after with fate := after.fate.or fate, status := s.status }

/-- Runs a program that was found, and was called by a name. -/
def program : Nat → String → Disk.Program → List String → State → State
  | 0, _, _, _, s => s.exhausted
  | fuel + 1, name, found, arguments, s =>
    let s := fresh name arguments s
    match found.entry with
    | .tool tool =>
      if shells.contains tool then shell fuel name arguments s
      else if tool = "env" then environment fuel arguments s
      else
        match Tool.run false name s.disk s.here s.input tool arguments with
        | some d => s.deal false name d
        | none => s
    | .file contents _ =>
      match Interpreter.of? contents with
      | none =>
        finish fuel (script fuel "" (Text.Utf8.decode contents) { s with name := found.path })
      | some interpreter =>
        match s.disk.executable s.here interpreter.path with
        | .ok (_, entry) =>
          program fuel interpreter.path ⟨interpreter.path, entry⟩
            (interpreter.option.toList ++ found.path :: arguments) s
        | .error _ => s
    | _ => s

/-- Sets variables and runs a program with them. -/
def environment : Nat → List String → State → State
  | 0, _, s => s.exhausted
  | fuel + 1, words, s =>
    match words with
    | [] =>
      let lines := s.bindings.map fun (name, value) => name ++ "=" ++ value ++ "\n"
      s.deal false s.name (Tool.saying (String.join lines))
    | "-i" :: rest => environment fuel rest { s with bindings := [], exported := [] }
    | word :: rest =>
      match word.toList.span (· != '=') with
      | (name, _ :: value) =>
        environment fuel rest (lend [(String.ofList name, String.ofList value)] s)
      | _ =>
        match s.disk.program true s.here s.searchPath word with
        | .ok found => program fuel word found rest s
        | .error error =>
          { s.complain (s.name ++ ": '" ++ word ++ "': " ++ Tool.reason error ++ "\n") with
            status := if error = .accessDenied then 126 else 127 }

/-- Runs the shell with its arguments: a script among them, or the path of one. -/
def shell : Nat → String → List String → State → State
  | 0, _, _, s => s.exhausted
  | fuel + 1, name, arguments, s =>
    let s := { s with pid := s.self, name, arguments := [], line := 0 }.bind "PPID"
      (some (toString (s.around.headD 1)))
    match Settings.read true {} arguments with
    | .error reason => s.fail reason 2
    | .ok settings =>
      let readsInput := !settings.isScript &&
        (settings.options.has 's' || settings.arguments.isEmpty)
      let options := if readsInput then settings.options.set 's' true else settings.options
      let s := { unwatched "" { s with options } with line := 1 }
      let s := if (s.bindings.lookup "PATH").isSome then s else s.bind "PATH" (some standardPath)
      let s := s.bind "OPTIND" (some "1")
      let rest := settings.arguments
      match settings.isScript, if readsInput then [] else rest with
      | true, [] => { s.complain (name ++ ": 0: -c requires an argument\n") with status := 2 }
      | true, [text] => finish fuel (script fuel "" text s)
      | true, text :: name :: arguments =>
        finish fuel (script fuel "" text { s with name, arguments })
      | false, [] =>
        let text := Text.Utf8.decode ⟨s.input.toArray⟩
        finish fuel (script fuel "" text { s with input := [], arguments := rest })
      | false, path :: arguments =>
        match s.disk.read s.here path with
        | .ok contents =>
          let text := Text.Utf8.decode contents
          finish fuel (script fuel "" text { s with name := path, arguments })
        | .error error =>
          { s.complain
              (name ++ ": 0: cannot open " ++ path ++ ": " ++ openFailure false error ++ "\n")
            with status := 2 }

/-- Runs the text of a script. What is wrong with it is told after `front`. -/
def script : Nat → String → String → State → State
  | 0, _, _, s => s.exhausted
  | fuel + 1, front, text, s =>
    commands fuel front (1 + text.toList.count '\n') (tokensOf text) s

/-- Runs the commands of a script one after the other, up to the first that is no command.
`line` is the last line of the script. -/
def commands : Nat → String → Nat → Tokens → State → State
  | 0, _, _, _, s => s.exhausted
  | fuel + 1, front, line, ts, s =>
    let ts := dropLineEnds ts
    if ts.isEmpty || s.stopped then s
    else
      match readNext line ts with
      | .ok (statement, ts) => commands fuel front line ts (perform fuel statement s)
      | .error mistake =>
        { s with line := mistake.line }.fail (front ++ "Syntax error: " ++ mistake.reason) 2

/-- What a script prints, run on its own. -/
def output : Nat → String → State → List UInt8 × State
  | 0, _, s => ([], s.exhausted)
  | fuel + 1, text, s =>
    let part := finish fuel (script fuel "" text
      { s.apart with out := .held, held := [], tested := false })
    let after := { part with held := s.held }.rejoin s
    (part.held, { after with status := s.status, answered := after.status })

end

end RepairConsole.Rehearsal.Shell
