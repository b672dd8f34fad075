import RepairConsole.Fault
import RepairConsole.Url.Address
/-!
# The service's base URL

Where the service is: a web address with scheme `http` or `https` and nothing after the
host and port. All requests go to addresses below it.
-/

namespace RepairConsole.Url

/-- The address that is used where the operator gives none. -/
def defaultBase : String := "http://localhost:8080"

namespace Origin

/-- The user and password with their `@`, or nothing. -/
def userText (o : Origin) : List Char :=
  if o.user.isEmpty ∧ o.password.isEmpty then []
  else o.user ++ (if o.password.isEmpty then [] else ':' :: o.password) ++ ['@']

/-- The port with its colon, or nothing. -/
def portText (o : Origin) : List Char :=
  match o.port with
  | some port => ':' :: (Nat.repr port).toList
  | none => []

/-- The origin without a slash at its end. -/
def chars (o : Origin) : List Char :=
  o.scheme.toList ++ ':' :: '/' :: '/' :: o.userText ++ o.host.text ++ o.portText

/-- The base URL itself. -/
def baseText (o : Origin) : String := String.ofList (o.chars ++ ['/'])

end Origin

/-- The base URL that an operator means. A query and a fragment are dropped; a path is
refused, because it would not be asked for. -/
def parseBase (raw : String) : Except Fault Origin :=
  match Address.parse raw with
  | .error defect => .error (.badUrl raw defect)
  | .ok .foreign => .error .foreignScheme
  | .ok (.web origin path) =>
    if origin.scheme ≠ "http" ∧ origin.scheme ≠ "https" then .error .foreignScheme
    else if path ≠ [[]] then .error .urlWithPath
    else .ok origin

/-- The base URL of an option, or the default one. -/
def baseOfOption (raw : Option String) : Except Fault Origin :=
  parseBase (raw.getD defaultBase)

end RepairConsole.Url
