/-!
# Errors of the operating system

What the host answers when it cannot do what it was asked, in its own words. Numbers and
names are those of Linux.
-/

namespace RepairConsole

/-- Why the host did not do it. -/
inductive SystemError where
  /-- A failed system call, by its error number. -/
  | errno (number : Nat)
  /-- A file that was read as text is not UTF-8. -/
  | notText
  /-- A program or an argument holds a zero character, which no program can be given. -/
  | zeroByte
  /-- A path holds a zero character. -/
  | zeroInPath
  /-- The output takes no more. -/
  | sinkFull
  deriving DecidableEq, Repr

namespace SystemError

def notPermitted : SystemError := errno 1
def notFound : SystemError := errno 2
def noSuchProcess : SystemError := errno 3
def notExecutable : SystemError := errno 8
def accessDenied : SystemError := errno 13
def notDirectory : SystemError := errno 20
def isDirectory : SystemError := errno 21
def nameTooLong : SystemError := errno 36
def unsupported : SystemError := errno 38

/-- The name of an error number. -/
def errnoName : Nat → String
  | 1 => "Operation not permitted"
  | 2 => "No such file or directory"
  | 3 => "No such process"
  | 4 => "Interrupted system call"
  | 5 => "Input/output error"
  | 7 => "Argument list too long"
  | 8 => "Exec format error"
  | 9 => "Bad file descriptor"
  | 11 => "Resource temporarily unavailable"
  | 12 => "Cannot allocate memory"
  | 13 => "Permission denied"
  | 14 => "Bad address"
  | 16 => "Device or resource busy"
  | 17 => "File exists"
  | 20 => "Not a directory"
  | 21 => "Is a directory"
  | 22 => "Invalid argument"
  | 23 => "Too many open files in system"
  | 24 => "Too many open files"
  | 26 => "Text file busy"
  | 27 => "File too large"
  | 28 => "No space left on device"
  | 30 => "Read-only file system"
  | 32 => "Broken pipe"
  | 36 => "File name too long"
  | 38 => "Function not implemented"
  | 39 => "Directory not empty"
  | 40 => "Too many levels of symbolic links"
  | n => s!"Unknown error {n}"

/-- The error as it is shown after a failure's message. -/
def text : SystemError → String
  | errno number =>
    let name := errnoName number
    s!"{name} (os error {number})"
  | notText => "stream did not contain valid UTF-8"
  | zeroByte => "nul byte found in provided data"
  | zeroInPath => "file name contained an unexpected NUL byte"
  | sinkFull => "sink full"

/-- The text of a file, if its bytes are UTF-8. -/
def textOf (bytes : ByteArray) : Except SystemError String :=
  match String.fromUTF8? bytes with
  | some text => .ok text
  | none => .error notText

/-- The two errors that mean a lack of rights. -/
def isDenial (e : SystemError) : Bool := e == notPermitted || e == accessDenied

end SystemError
end RepairConsole
