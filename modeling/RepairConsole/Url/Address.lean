import RepairConsole.Url.Host
/-!
# Addresses

Reading a URL as the WHATWG standard has it. Spellings that a browser forgives are forgiven:
blanks around the URL, line breaks and tabs inside, back slashes, any number of slashes
after the scheme, dots in the path.
-/

namespace RepairConsole.Url

/-- What stands in front of the path of a web address. The user and the password are kept
as they are written in a URL; the port is absent where it is the scheme's own. -/
structure Origin where
  scheme : String
  user : List Char
  password : List Char
  host : Host
  port : Option Nat
  deriving DecidableEq, Repr

/-- A URL that was read: a web address with the segments of its path, or one of another
scheme, of which nothing is needed. -/
inductive Address where
  | web (origin : Origin) (path : List (List Char))
  | foreign

/-! ## The text -/

/-- A URL without control characters and spaces around it, and without tabs and line breaks
anywhere. -/
def tidy (cs : List Char) : List Char :=
  let isEdge (c : Char) : Bool := c.toNat ≤ 0x20
  let trimmed := ((cs.dropWhile isEdge).reverse.dropWhile isEdge).reverse
  trimmed.filter fun c => !(['\t', '\n', '\r'].contains c)

def isSchemeChar (c : Char) : Bool := c.isAlphanum || c == '+' || c == '-' || c == '.'

/-- The scheme in lower case, and what follows the colon. -/
def splitScheme (cs : List Char) : Option (String × List Char) :=
  match cs.span isSchemeChar with
  | (c :: scheme, ':' :: rest) =>
    if c.isAlpha then some (String.ofList ((c :: scheme).map Char.toLower), rest) else none
  | _ => none

/-- The port that a scheme of the web uses where none is given. -/
def defaultPort : String → Option Nat
  | "http" | "ws" => some 80
  | "https" | "wss" => some 443
  | "ftp" => some 21
  | _ => none

/-! ## The authority -/

/-- A character that ends the authority, or a segment of the path. -/
def isSlash (special : Bool) (c : Char) : Bool := c == '/' || (special && c == '\\')

/-- A character that ends the authority. -/
def endsAuthority (special : Bool) (c : Char) : Bool :=
  isSlash special c || c == '?' || c == '#'

/-- The text before the last `@`, if there is one, and the text after it. -/
def splitUser (cs : List Char) : Option (List Char) × List Char :=
  match cs.reverse.span (· != '@') with
  | (after, _ :: before) => (some before.reverse, after.reverse)
  | (_, []) => (none, cs)

/-- The host, up to a colon that stands in no brackets. -/
def splitHost (bracketed : Bool) : List Char → List Char × List Char
  | [] => ([], [])
  | c :: rest =>
    if c = ':' ∧ !bracketed then ([], c :: rest)
    else
      let inside := c = '[' ∨ (bracketed ∧ c ≠ ']')
      let (host, port) := splitHost inside rest
      (c :: host, port)

/-- The port after the host, with its colon. None is given where there are no digits. -/
def parsePort (cs : List Char) : Except Defect (Option Nat) :=
  match cs with
  | [] | [_] => .ok none
  | _ :: digits =>
    match Text.readDigits? digits with
    | some n => if n ≤ 65535 then .ok (some n) else .error .badPort
    | none => .error .badPort

/-- The user and the password of user information. -/
def splitPassword (cs : List Char) : List Char × List Char :=
  match cs.span (· != ':') with
  | (user, _ :: password) => (user, password)
  | (user, []) => (user, [])

/-- The origin of a scheme of the web, from its authority. -/
def parseAuthority (scheme : String) (cs : List Char) : Except Defect Origin := do
  let (userinfo, hostAndPort) := splitUser cs
  let (user, password) := splitPassword (userinfo.getD [])
  let (hostText, portText) := splitHost false hostAndPort
  if hostText.isEmpty then .error .emptyHost
  else
    let host ← Host.parse hostText
    let port ← parsePort portText
    let port := if port = defaultPort scheme then none else port
    return { scheme, user := encodeUser user, password := encodeUser password, host, port }

/-- Whether an authority of an unknown scheme has the right form. It may have no host, but
then neither a user nor a port; `followed` says that a path or a query comes after it. -/
def checkAuthority (followed : Bool) (cs : List Char) : Except Defect Unit := do
  let (userinfo, hostAndPort) := splitUser cs
  let (hostText, portText) := splitHost false hostAndPort
  if userinfo = some [] ∧ hostAndPort.isEmpty ∧ followed then .error .emptyHost
  Host.checkOpaque hostText
  if hostText.isEmpty ∧ !portText.isEmpty then .error .emptyHost
  let _ ← parsePort (portText.takeWhile (· != '\\'))
  if hostText.isEmpty ∧ !([none, some [], some [':']].contains userinfo) then .error .emptyHost
  return

/-- Whether the text is a drive letter with its colon. -/
def isDrive : List Char → Bool
  | [c, d] => c.isAlpha && (d == ':' || d == '|')
  | _ => false

/-- Whether the host of a file has the right form; it may be empty, or a drive. -/
def checkFileHost (cs : List Char) : Except Defect Unit :=
  if cs.isEmpty || isDrive cs then .ok () else (Host.parse cs).map fun _ => ()

/-! ## The path -/

/-- Whether a segment means the directory it stands in. -/
def isDot (segment : List Char) : Bool := ["." , "%2e"].contains (lowered segment)
where
  lowered (cs : List Char) : String := String.ofList (cs.map Char.toLower)

/-- Whether a segment means the directory above. -/
def isDotDot (segment : List Char) : Bool :=
  ["..", "%2e.", ".%2e", "%2e%2e"].contains (isDot.lowered segment)

/-- Leaves the last segment, which comes first here. A drive is never left. -/
def goUp : List (List Char) → List (List Char)
  | [] => []
  | segment :: before => if isDrive segment then segment :: before else before

/-- The segments without those that are dots; `walked` holds those passed, the last one
first. Dots at the end leave an empty segment, so that the path still ends in a slash. -/
def resolveDots (walked : List (List Char)) : List (List Char) → List (List Char)
  | [] => walked.reverse
  | segment :: rest =>
    let walked :=
      if isDotDot segment then goUp walked
      else if isDot segment then walked
      else segment :: walked
    if rest.isEmpty ∧ (isDot segment ∨ isDotDot segment) then ([] :: walked).reverse
    else resolveDots walked rest

/-- The segments of the path that follows an authority. -/
def pathSegments (cs : List Char) : List (List Char) :=
  let path := cs.takeWhile fun c => c != '?' && c != '#'
  resolveDots [] (path.tail.splitOnP (isSlash true))

/-! ## Reading -/

/-- Reads a URL. -/
def Address.parse (raw : String) : Except Defect Address :=
  match splitScheme (tidy raw.toList) with
  | none => .error .noScheme
  | some (scheme, rest) =>
    if (defaultPort scheme).isSome then do
      let (authority, path) := (rest.dropWhile (isSlash true)).span (!endsAuthority true ·)
      let origin ← parseAuthority scheme authority
      return .web origin (pathSegments path)
    else if scheme = "file" then
      match rest with
      | a :: b :: rest =>
        if isSlash true a ∧ isSlash true b then do
          checkFileHost (rest.takeWhile (!endsAuthority true ·))
          return .foreign
        else .ok .foreign
      | _ => .ok .foreign
    else
      match rest with
      | '/' :: '/' :: rest => do
        let (authority, path) := rest.span (!endsAuthority false ·)
        checkAuthority (!path.isEmpty) authority
        return .foreign
      | _ => .ok .foreign

end RepairConsole.Url
