import RepairConsole.Dialogue
import RepairConsole.Fault
import RepairConsole.Path
import RepairConsole.Text.Blank
import RepairConsole.Text.Lines
/-!
# Launching the service

The command line that starts the service of an installation. Its options stand in a file
under `conf`, its libraries under `lib`; the main class is always the same.
-/

namespace RepairConsole

/-- A program to start, what it is given, and where it is to stand. -/
structure Launch where
  program : String
  arguments : List String
  workingDirectory : String
  deriving DecidableEq, Repr

namespace Launch

def mainClass : String :=
  "com.ericsson.bss.cassandra.ecchronos.application.spring.SpringBooter"

/-! ## The parts of the command line -/

/-- The options in the text of an options file: its lines that start with a dash, without
the blanks around them. All other lines are remarks. -/
def options (text : String) : List String :=
  ((Text.lines text).map Text.trim).filter fun line => line.toList.head? == some '-'

/-- The libraries among the files of a directory, in the order of their names. -/
def libraries (files : List String) : List String :=
  (files.filter fun name => Path.extension? name == some "jar").mergeSort (· ≤ ·)

def configuration (home : String) : String := Path.join home "conf"

def libraryDirectory (home : String) : String := Path.join home "lib"

/-- The configuration and the libraries, with colons between them. -/
def classPath (home : String) (files : List String) : String :=
  ":".intercalate
    (configuration home :: (libraries files).map (Path.join (libraryDirectory home)))

/-- The command line, from the text of the options file and the names under `lib`. -/
def assemble (home optionsText : String) (files : List String) (foreground : Bool) : Launch where
  program := "java"
  arguments :=
    options optionsText ++
      ["-Decchronos.config=" ++ configuration home, "-cp", classPath home files, mainClass] ++
      (if foreground then ["-f"] else [])
  workingDirectory := home

/-! ## Reading an installation -/

/-- What is asked of the host. Nothing is changed. -/
inductive Request where
  | readFile (path : String)
  /-- The names in a directory, in the order in which the disk has them. -/
  | listNames (path : String)

abbrev Request.Answer : Request → Type
  | .readFile _ => Except SystemError ByteArray
  | .listNames _ => Except SystemError (List (Except SystemError String))

abbrev Conversation := Dialogue Request Request.Answer

def readFile (path : String) : Conversation (Except SystemError ByteArray) :=
  .ask (.readFile path) .done

def listNames (path : String) :
    Conversation (Except SystemError (List (Except SystemError String))) :=
  .ask (.listNames path) .done

/-- The text of the options file. -/
def readOptions (home : String) : Conversation (Except Fault String) := do
  let path := Path.join (configuration home) "jvm.options"
  match (← readFile path).bind SystemError.textOf with
  | .error error => return .error (.optionsUnreadable path error)
  | .ok text => return .ok text

/-- The names under `lib`. An installation without that directory has no libraries, and an entry
that the disk cannot read is passed over. -/
def readLibraries (home : String) : Conversation (Except Fault (List String)) := do
  let path := libraryDirectory home
  match ← listNames path with
  | .ok entries => return .ok (entries.filterMap Except.toOption)
  | .error error =>
    if error = .notFound then return .ok []
    else return .error (.librariesUnlisted path error)

/-- The command line for the installation at `home`. -/
def ofInstallation (home : String) (foreground : Bool) : Conversation (Except Fault Launch) := do
  match ← readOptions home with
  | .error fault => return .error fault
  | .ok text =>
    match ← readLibraries home with
    | .error fault => return .error fault
    | .ok files => return .ok (assemble home text files foreground)

end Launch
end RepairConsole
