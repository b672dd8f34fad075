import RepairConsole.Json.Value
import RepairConsole.Remote.Chunks
import RepairConsole.Text.Blank
import RepairConsole.Text.Utf8
/-!
# Responses

What comes back for a request, as far as it can be read, and what a refusal says about its
reason.
-/

namespace RepairConsole

/-- How the end of a body is told. -/
inductive Framing where
  /-- The body ends with the connection. -/
  | untilClosed
  /-- The body is as long as was announced. -/
  | counted (length : Nat)
  /-- The body comes in chunks. -/
  | chunked

/-- The bytes of a body; `none` if fewer arrived than were announced, or damaged ones. -/
def Framing.cut? (body : ByteArray) : Framing → Option ByteArray
  | .untilClosed => some body
  | .counted length => if body.size < length then none else some (body.extract 0 length)
  | .chunked => Chunks.join? body

/-- An HTTP response: the body is what arrived, before its end was looked for. -/
structure Response where
  status : Nat
  reason : String
  framing : Framing
  body : ByteArray

/-- What becomes of a request: an answer, or none, for a reason that the host gives. -/
inductive Exchange where
  | answered (response : Response)
  | unanswered (cause : String)

namespace Response

/-- Bodies longer than this are not read. -/
def bodyLimit : Nat := 10 * 1024 * 1024

/-- Whether responses of this status come without a body. -/
def isBodiless (status : Nat) : Bool := status == 204 || status == 304

/-- The bytes of the body; `none` if they cannot be had or are too many. -/
def content? (r : Response) : Option ByteArray :=
  if isBodiless r.status then some ByteArray.empty
  else (r.framing.cut? r.body).filter (·.size ≤ bodyLimit)

/-- The body as text. -/
def text? (r : Response) : Option String := r.content?.map Text.Utf8.decode

/-- Whether the response refuses the request. -/
def isRefusal (r : Response) : Bool := 400 ≤ r.status

/-! ## The reason of a refusal -/

/-- A member that is text and not empty; of several with one name the last one counts. -/
def textMember? (name : String) (members : List (Option String × Json)) : Option String :=
  match members.reverse.find? (·.1 == some name) with
  | some (_, .text (some value)) => if value = "" then none else some value
  | _ => none

/-- What a body says: its `message`, or else its `error`, if it is a JSON object, and
otherwise all of it. -/
def bodyDetail? (body : String) : Option String :=
  let trimmed := Text.trim body
  if trimmed = "" then none
  else
    match Json.parseWhole? trimmed with
    | some (.object members) => (textMember? "message" members).or (textMember? "error" members)
    | _ => some trimmed

/-- What a refusal says. A body that cannot be read counts as empty. -/
def detail (r : Response) : String := (bodyDetail? (r.text?.getD "")).getD r.reason

end Response
end RepairConsole
