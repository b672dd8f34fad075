import RepairConsole.CommandLine.Verb
/-!
# Completion scripts

For each shell a script that makes it complete the names of the commands.
-/

namespace RepairConsole.CommandLine

/-- The shells that scripts are made for. -/
inductive Shell where
  | bash
  | elvish
  | fish
  | powershell
  | zsh
  deriving DecidableEq, Repr

namespace Shell

def all : List Shell := [bash, elvish, fish, powershell, zsh]

def name : Shell → String
  | bash => "bash"
  | elvish => "elvish"
  | fish => "fish"
  | powershell => "powershell"
  | zsh => "zsh"

def named? (text : String) : Option Shell := all.find? fun shell => shell.name == text

/-- The words to complete. -/
def words : List String := Verb.all.map Verb.name ++ ["help"]

/-- The script. -/
def script : Shell → String
  | bash => "complete -W '" ++ " ".intercalate words ++ "' ecctool\n"
  | zsh => "#compdef ecctool\n_arguments '1:command:(" ++ " ".intercalate words ++ ")'\n"
  | fish => "complete -c ecctool -f -a '" ++ " ".intercalate words ++ "'\n"
  | elvish =>
    "set edit:completion:arg-completer[ecctool] = \x7b|@words| put " ++
      " ".intercalate words ++ " \x7d\n"
  | powershell =>
    "Register-ArgumentCompleter -Native -CommandName ecctool -ScriptBlock \x7b\n" ++
      "  param($word)\n  '" ++ "', '".intercalate words ++
      "' | Where-Object \x7b $_ -like \"$word*\" \x7d\n\x7d\n"

theorem named?_name (shell : Shell) : named? shell.name = some shell := by
  cases shell <;> decide

end Shell
end RepairConsole.CommandLine
