import RepairConsole.Url.Defect
import RepairConsole.Url.Host.IPv4
import RepairConsole.Url.Host.IPv6
import RepairConsole.Url.Host.Label
import RepairConsole.Url.Host.Mapping
/-!
# Hosts

The host part of a URL: an IPv6 address in brackets, an IPv4 address in any notation, or a
name. A name may be typed in any script; as it is read it is ASCII, and its labels spell other
scripts in it.
-/

namespace RepairConsole.Url

inductive Host where
  | name (text : List Char)
  | ipv4 (address : Nat)
  | ipv6 (pieces : List Nat)
  deriving DecidableEq, Repr

namespace Host

/-- The host as it stands in a URL. -/
def text : Host → List Char
  | name text => text
  | ipv4 address => IPv4.text address
  | ipv6 pieces => '[' :: IPv6.text pieces ++ [']']

/-- A character that no host can hold. -/
def isForbidden (c : Char) : Bool :=
  c.toNat ≤ 0x20 || c.toNat == 0x7F ||
    ['%', '#', '/', ':', '<', '>', '?', '@', '[', '\\', ']', '^', '|'].contains c

/-- Whether a character of ASCII may stand in a name. Capital letters are none of the
repertoire. -/
def mayStand (c : Char) : Bool := !isForbidden c && (Role.of? c.toNat).isSome

/-- The characters that the bytes of a host write, each as host names have it. -/
def characters? (bytes : List UInt8) : Option (List Char) :=
  if bytes.all (· < 0x80) then some (bytes.map fun b => (Char.ofNat b.toNat).toLower)
  else (String.fromUTF8? ⟨bytes.toArray⟩).map fun text =>
    (Mapping.fold (text.toList.map Char.toNat)).map Char.ofNat

/-- The name that the bytes of a host write, in ASCII. -/
def name? (bytes : List UInt8) : Option (List Char) := do
  let labels := (← characters? bytes).splitOn '.'
  let name := List.intercalate ['.'] (labels.map Label.spelling)
  if Label.areSound labels && name.all mayStand then some name else none

/-- An address in brackets, from the first bracket on. -/
def parseBracketed (cs : List Char) : Except Defect Host :=
  if cs.getLast? = some ']' then
    match IPv6.parse? (cs.tail.dropLast) with
    | some pieces => .ok (ipv6 pieces)
    | none => .error .badIPv6
  else .error .badIPv6

/-- The host of a URL with a scheme of the web. -/
def parse (cs : List Char) : Except Defect Host :=
  if cs.head? = some '[' then parseBracketed cs
  else
    match name? (decode (utf8 cs)) with
    | none => .error .badDomain
    | some [] => .error .emptyHost
    | some text =>
      if IPv4.endsInNumber text then
        match IPv4.parse? text with
        | some address => .ok (ipv4 address)
        | none => .error .badIPv4
      else .ok (name text)

/-- A character that a host of an unknown scheme cannot hold. -/
def isForbiddenOpaque (c : Char) : Bool :=
  ['\x00', '\t', '\n', '\r', ' ', '#', '/', ':', '<', '>', '?', '@', '[', '\\', ']', '^',
    '|'].contains c

/-- The host of a URL with an unknown scheme, of which only the form is looked at. -/
def checkOpaque (cs : List Char) : Except Defect Unit :=
  if cs.head? = some '[' then (parseBracketed cs).map fun _ => ()
  else if cs.any isForbiddenOpaque then .error .badOpaqueHost
  else .ok ()

end Host
end RepairConsole.Url
