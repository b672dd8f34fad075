import RepairConsole.CommandLine.Attempt
import RepairConsole.Remote.Wire
import Std.Async.DNS
import Std.Async.TCP
import Std.Time.DateTime.Timestamp
/-!
# The program

Answers the requests of the console on the machine that it runs on: files and the terminal
as they are, the service over plain TCP. Starting and signalling processes is answered with
the error of a system that has no such calls.
-/

namespace RepairConsole.Machine

open Std.Async

/-- The error number in a code, which may have been told with a minus sign. -/
def errorNumber (code : UInt32) : Nat :=
  if code < 0x80000000 then code.toNat else (-code).toNat

/-- The system's error in an error that was thrown. -/
def systemError : IO.Error → SystemError
  | .alreadyExists _ code _ | .otherError code _ | .resourceBusy code _
  | .resourceVanished code _ | .unsupportedOperation code _ | .hardwareFault code _
  | .unsatisfiedConstraints code _ | .illegalOperation code _ | .protocolError code _
  | .timeExpired code _ | .interrupted _ code _ | .noFileOrDirectory _ code _
  | .invalidArgument _ code _ | .permissionDenied _ code _ | .resourceExhausted _ code _
  | .inappropriateType _ code _ | .noSuchThing _ code _ => .errno (errorNumber code)
  | .unexpectedEof | .userError _ => .errno 5

def attempt {α : Type} (act : IO α) : IO (Except SystemError α) :=
  try return .ok (← act) catch error => return .error (systemError error)

def printBytes (bytes : ByteArray) : IO (Except SystemError Unit) :=
  attempt do
    let stdout ← IO.getStdout
    stdout.write bytes
    stdout.flush

def namesIn (path : String) : IO (List String) := do
  let entries ← (← IO.FS.realPath path).readDir
  return entries.toList.map (·.fileName)

def now : IO Calendar.Moment := do
  let t ← Std.Time.Timestamp.now
  return Calendar.Moment.ofMillis t.toMillisecondsSinceUnixEpoch.val

/-! ## The service -/

/-- Takes all that comes until the other side closes. -/
partial def receive (socket : TCP.Socket.Client) (taken : ByteArray) : Async ByteArray := do
  match ← socket.recv? 65536 with
  | some bytes =>
    if taken.size > 2 * Response.bodyLimit then return taken
    else receive socket (taken ++ bytes)
  | none => return taken

def socketAddress (address : Std.Net.IPAddr) (port : Nat) : Std.Net.SocketAddress :=
  match address with
  | .v4 addr => .v4 ⟨addr, UInt16.ofNat port⟩
  | .v6 addr => .v6 ⟨addr, UInt16.ofNat port⟩

/-- Makes a request and waits for the response. -/
def exchange (origin : Url.Origin) (c : Call) : IO Exchange := do
  if origin.scheme ≠ "http" then return .unanswered "only plain http is spoken"
  let port := (origin.port.or (Url.defaultPort origin.scheme)).getD 80
  let host := String.ofList (origin.host.text.filter fun ch => ch != '[' && ch != ']')
  try
    let bytes ← Async.block do
      let addresses ← DNS.getAddrInfo host (toString port)
      match addresses.toList with
      | [] => return ByteArray.empty
      | address :: _ =>
        let socket ← TCP.Socket.Client.mk
        socket.connect (socketAddress address port)
        socket.send (Wire.request origin c)
        receive socket ByteArray.empty
    return Wire.exchange bytes
  catch error => return .unanswered (toString error)

/-! ## Answers -/

def answerLaunch : (q : Launch.Request) → IO q.Answer
  | .readFile path => attempt (IO.FS.readBinFile path)
  | .listNames path => return (← attempt (namesIn path)).map (·.map .ok)

def answerSupervisor : (q : Supervisor.Request) → IO q.Answer
  | .spawn _ _ => return .error .unsupported
  | .writeFile path contents => attempt (IO.FS.writeFile path contents)
  | .readFile path => attempt (IO.FS.readBinFile path)
  | .removeFile path => attempt (IO.FS.removeFile path)
  | .discard _ => return ()
  | .print bytes => printBytes bytes
  | .relay _ => return .ok .finished
  | .await _ => return .ok ()
  | .terminate _ => return .error .unsupported

def answerQuery (origin : Url.Origin) : (q : Query.Request) → IO q.Answer
  | .call c => return c.outcome origin (← exchange origin c)
  | .clock => now
  | .print bytes => printBytes bytes

def answer : (q : CommandLine.Request) → IO q.Answer
  | .home => IO.getEnv "ECCHRONOS_HOME"
  | .executable => return (← IO.FS.realPath (← IO.appPath)).toString
  | .launch q => answerLaunch q
  | .supervise q => answerSupervisor q
  | .query origin q => answerQuery origin q
  | .print bytes => printBytes bytes

end RepairConsole.Machine

def main (arguments : List String) : IO UInt32 := do
  let code ← (RepairConsole.CommandLine.attempt arguments).runM RepairConsole.Machine.answer
  if code = RepairConsole.FailureKind.exitCode .usage then
    IO.eprint RepairConsole.CommandLine.overview
  return UInt32.ofNat code
