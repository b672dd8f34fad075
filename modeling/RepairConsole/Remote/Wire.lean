import RepairConsole.Remote.Client
import RepairConsole.Text.Digits
/-!
# Requests and responses on the wire

The bytes of a request, and a response read from the bytes that came back until the
connection was closed. A head that breaks the rules of HTTP is no response at all.
-/

namespace RepairConsole.Wire

/-! ## Requests -/

/-- What a request is addressed to: the host, and the port where it is not the usual one. -/
def authority (origin : Url.Origin) : String := String.ofList (origin.host.text ++ origin.portText)

/-- A request. The connection is not used again. -/
def request (origin : Url.Origin) (c : Call) : ByteArray :=
  let lines :=
    [c.requestLine, "Host: " ++ authority origin, "Accept: application/json", "Connection: close"] ++
      (if c.method = "POST" then ["Content-Length: 0"] else [])
  (String.join (lines.map (· ++ "\r\n")) ++ "\r\n").toUTF8

/-! ## The head of a response -/

/-- A line of a head, its end included, is no longer than this. -/
def lineLimit : Nat := 100 * 1024

/-- A head has no more headers than this. -/
def headerLimit : Nat := 100

/-- A line without the carriage return that belongs to its end; both are backwards. -/
def dropReturn (line : List UInt8) : List UInt8 :=
  if line.head? = some 13 then line.tail else line

/-- The lines of a response's head from `i` on, without their ends, and where the empty line
that closes it ends. `line` is the line under way, backwards, and `lines` those before it,
the last one first. -/
def readLines (bytes : ByteArray) (i : Nat) (line : List UInt8) (lines : List (List UInt8)) :
    Option (List (List UInt8) × Nat) :=
  if h : i < bytes.size then
    let b := bytes[i]
    if b = 10 then
      if lineLimit < line.length + 1 then none
      else if (dropReturn line).isEmpty then some (lines.reverse, i + 1)
      else readLines bytes (i + 1) [] ((dropReturn line).reverse :: lines)
    else readLines bytes (i + 1) (b :: line) lines
  else none
termination_by bytes.size - i

/-- Characters that the name of a header is made of. -/
def isNameChar (c : Char) : Bool :=
  c.isAlphanum || ("!#$%&*+-.^_|~\x27\x60".toList.contains c)

/-- A header; the letters of its name are small. -/
structure Header where
  name : String
  value : List UInt8

/-- The header on a line; `none` if there is none on it. -/
def readHeader? (line : List UInt8) : Option Header :=
  let name := (line.takeWhile (· != 58)).map fun b => Char.ofNat b.toNat
  if name.all isNameChar then
    some ⟨String.ofList (name.map Char.toLower), (line.dropWhile (· != 58)).drop 1⟩
  else none

/-- The text of the first header of a name, unless it is no text. -/
def header? (name : String) (headers : List Header) : Option String := do
  let header ← headers.find? (·.name = name)
  let text ← String.fromUTF8? ⟨header.value.toArray⟩
  return Text.trim text

/-- Whether a protocol version is named, such as `HTTP/1.1`. -/
def isVersion (cs : List Char) : Bool :=
  cs.length == 8 && cs.take 5 == "HTTP/".toList && (cs.drop 5).head?.any Char.isDigit &&
    (cs.drop 7).all Char.isDigit

/-- The status and the reason on a response's first line, which is ASCII: the version, the
three digits of the status, and whatever else stands there. -/
def readStatus? (line : List UInt8) : Option (Nat × String) :=
  let cs := line.map fun b => Char.ofNat b.toNat
  let version := cs.takeWhile (· != ' ')
  let afterVersion := (cs.dropWhile (· != ' ')).drop 1
  let status := afterVersion.takeWhile (· != ' ')
  let reason := (afterVersion.dropWhile (· != ' ')).drop 1
  if line.all (· < 128) && isVersion version && status.length == 3 then
    (Text.readDigits? status).map fun n => (n, Text.trim (String.ofList reason))
  else none

/-- How the end of the body is told. Chunks go before a length. -/
def framing (headers : List Header) : Framing :=
  if ((header? "transfer-encoding" headers).getD "") ≠ "" then .chunked
  else
    match (header? "content-length" headers).bind fun n => Text.readDigits? n.toList with
    | some length => .counted length
    | none => .untilClosed

/-! ## Responses -/

/-- A response from all that came back. Lines that are no headers do not count. -/
def readResponse? (bytes : ByteArray) : Option Response := do
  let (lines, bodyStart) ← readLines bytes 0 [] []
  let (status, reason) ← readStatus? (← lines.head?)
  let headers := lines.tail.filterMap readHeader?
  if headerLimit < headers.length then none
  else
    return { status, reason, framing := framing headers,
             body := bytes.extract bodyStart bytes.size }

/-- What came of a request. -/
def exchange (bytes : ByteArray) : Exchange :=
  match readResponse? bytes with
  | some response => .answered response
  | none => .unanswered "no response"

end RepairConsole.Wire
