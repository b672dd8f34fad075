import RepairConsole.CommandLine.Verb
/-!
# Help

The texts that tell an operator what can be written on the command line.
-/

namespace RepairConsole.CommandLine

def versionLine : String := "ecctool 0.1.0\n"

/-- A column and a remark beside it. -/
def helpLine (width : Nat) (left right : String) : String :=
  "  " ++ left.pushn ' ' (width - left.length) ++ "  " ++ right ++ "\n"

namespace Choice

/-- How an option is written. -/
def spelling (choice : Choice) : String :=
  (match choice.letter with
    | some letter => "-" ++ String.singleton letter ++ ", "
    | none => "    ") ++
  "--" ++ choice.name ++ (if choice.takes = .nothing then "" else " <VALUE>")

end Choice

/-- Help on all commands. -/
def overview : String :=
  "ecChronos utility command\n\nUsage: ecctool <COMMAND>\n\nCommands:\n" ++
    String.join (Verb.all.map fun verb => helpLine 11 verb.name verb.purpose) ++
    helpLine 11 "help" "Print this text, or help on one command" ++
    "\nOptions:\n  -h, --help     Print help\n  -V, --version  Print version\n\n" ++
    "ENVIRONMENT\n" ++
    "  ECCHRONOS_HOME   Installation directory (default: parent of the bin/ directory)\n"

/-- Help on one command. -/
def Verb.help (verb : Verb) : String :=
  verb.purpose ++ "\n\nUsage: ecctool " ++ verb.name ++
    (if verb = .completion then " <SHELL>" else " [OPTIONS]") ++ "\n\nOptions:\n" ++
    String.join (verb.choices.map fun choice => "  " ++ choice.spelling ++ "\n") ++
    "  -h, --help\n"

def helpText : Option Verb → String
  | none => overview
  | some verb => verb.help

end RepairConsole.CommandLine
