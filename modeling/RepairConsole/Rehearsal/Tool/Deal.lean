import RepairConsole.Rehearsal.Disk
/-!
# What a program did

The outcome of one call of a program: what it printed, what it complained about, and the
code it ended with.
-/

namespace RepairConsole.Rehearsal

/-- Something that a program says. -/
inductive Saying where
  | out (bytes : List UInt8)
  | complaint (text : String)

/-- What a program did. -/
structure Deal where
  /-- What it said, in order. The shell's own programs leave the ends of the lines of their
  complaints to the shell. -/
  said : List Saying := []
  code : Nat := 0
  /-- It took so many millionths of a second. -/
  slept : Nat := 0
  /-- It read its input to the end. -/
  drained : Bool := false
  /-- The disk, if it was changed. -/
  disk : Option Disk := none

namespace Deal

/-- What it printed. -/
def out (d : Deal) : List UInt8 :=
  d.said.flatMap fun saying =>
    match saying with
    | .out bytes => bytes
    | .complaint _ => []

/-- What it complained about. -/
def complaints (d : Deal) : List Saying :=
  d.said.filter fun saying =>
    match saying with
    | .out _ => false
    | .complaint _ => true

/-- Says something more. -/
def say (saying : Saying) (d : Deal) : Deal := { d with said := d.said ++ [saying] }

/-- What becomes of a program that has nowhere to print. -/
def unheard (own : Bool) (called : String) (d : Deal) : Deal :=
  let complaint :=
    if own then s!"{called}: {called}: I/O error"
    else
      let place := if called = "cat" then "standard output" else "write error"
      s!"{called}: {place}: Bad file descriptor\n"
  { d with
    said := d.complaints ++ [.complaint complaint]
    code := if own then 1 else if called = "ls" then 2 else if called = "env" then 125 else 1 }

/-- A program that keeps what it prints to its end changes it. -/
def printing (out : List UInt8) (d : Deal) : Deal := { d with said := d.complaints ++ [.out out] }

end Deal

namespace Tool

def bytesOf (text : String) : List UInt8 := text.toUTF8.toList

def printed (bytes : List UInt8) : Deal := { said := [.out bytes] }

def saying (text : String) : Deal := printed (bytesOf text)

def failing (code : Nat) (complaint : String) : Deal := { said := [.complaint complaint], code }

/-- What is said of a call that cannot be understood. -/
def misused (called reason : String) : Deal :=
  failing 1 s!"{called}: {reason}\nTry '{called} --help' for more information.\n"

/-- What an operand that is missing is answered with. -/
def operandMissing (called : String) : Deal := misused called "missing operand"

end Tool
end RepairConsole.Rehearsal
