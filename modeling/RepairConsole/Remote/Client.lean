import RepairConsole.Remote.Call
import RepairConsole.Remote.Response
/-!
# The outcome of a call

What a response, or the lack of one, means for the operation that was asked for. A failure
is a text for the operator and not the end of the program.
-/

namespace RepairConsole

/-- Why an operation failed. -/
inductive Trouble where
  /-- Nobody answers at the base URL. -/
  | unanswered (base cause : String)
  /-- The body did not arrive as announced. -/
  | unreadable (url : String)
  /-- The body is not what the operation answers with. -/
  | undecodable (url : String)
  /-- The service refuses. -/
  | refused (status : Nat) (detail : String)
  deriving DecidableEq, Repr

/-- The trouble in words. -/
def Trouble.text : Trouble → String
  | unanswered base cause => s!"Unable to connect to {base}: {cause}"
  | unreadable url => s!"Unable to read response from {url}: incomplete or too long"
  | undecodable url => s!"Unable to decode response from {url}: not the expected JSON"
  | refused status detail =>
    if detail = "" then s!"Request failed with status {status}"
    else s!"Request failed with status {status}: {detail}"

/-- What a call comes to. -/
abbrev Outcome (α : Type) : Type := Except Trouble α

namespace Call

/-- Reads the body of a response that does not refuse. -/
def ofBody (origin : Url.Origin) (c : Call) (body : Option String) : Outcome c.Payload :=
  match body with
  | none => .error (.unreadable (c.url origin))
  | some text =>
    match (Json.parse? text).bind c.payload? with
    | some payload => .ok payload
    | none => .error (.undecodable (c.url origin))

/-- The outcome of a call. -/
def outcome (origin : Url.Origin) (c : Call) : Exchange → Outcome c.Payload
  | .unanswered cause => .error (.unanswered origin.baseText cause)
  | .answered response =>
    if response.isRefusal then .error (.refused response.status response.detail)
    else c.ofBody origin response.text?

/-- The call that tells whether the service is there. -/
def probe : Call := listSchedules none none

end Call
end RepairConsole
