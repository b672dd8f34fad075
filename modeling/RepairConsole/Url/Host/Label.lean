import RepairConsole.Url.Host.Joining
import RepairConsole.Url.Host.Punycode
import RepairConsole.Url.Host.Repertoire
/-!
# Labels

The parts of a host name between its dots. A label in another script than ASCII is spelt in
ASCII after the mark `xn--`. It has to be made of characters that a host name may hold, and
where a name is read in both directions each of its labels keeps to one of them.
-/

namespace RepairConsole.Url.Host

namespace Label

def isAscii (label : List Char) : Bool := label.all (·.toNat < 128)

/-- What a spelling begins with. -/
def mark : List Char := ['x', 'n', '-', '-']

/-- Whether a text may be spelt by a label. It goes beyond ASCII, begins with no mark and not
as a spelling does, and is made of characters of the repertoire in their one form. -/
def isSpellable (text : List Nat) : Bool :=
  text.any (128 ≤ ·) &&
    text.all (fun point => (Role.of? point).isSome) &&
    !(text.head?.bind Role.of?).any Role.isMark &&
    !(mark.map Char.toNat).isPrefixOf text &&
    Composition.isComposed text &&
    Joining.areInPlace [] text

/-- The code points of a label; `none` if it holds or spells what it may not. -/
def text? (label : List Char) : Option (List Nat) :=
  let text := label.map Char.toNat
  if !isAscii label then if isSpellable text then some text else none
  else if mark.isPrefixOf label then
    (Punycode.decode? (label.drop mark.length)).filter isSpellable
  else some text

/-- A label in ASCII. -/
def spelling (label : List Char) : List Char :=
  if isAscii label then label else mark ++ Punycode.encode (label.map Char.toNat)

/-! ## Directions -/

/-- The roles of a label without the marks at its end, backwards. -/
def rolesBackwards (text : List Nat) : List Role :=
  ((text.filterMap Role.of?).reverse).dropWhile (· == .mark)

/-- Whether a label is read from left to right throughout. -/
def runsRight (text : List Nat) : Bool :=
  let roles := rolesBackwards text
  roles.all (!·.turns) &&
    roles.getLast?.any (fun r => r == .leftToRight || r == .spacingMark) &&
    roles.head?.any (fun r => r == .leftToRight || r == .spacingMark || r == .digit)

/-- Whether a label is read from right to left throughout, with numbers of one kind. -/
def runsLeft (text : List Nat) : Bool :=
  let roles := rolesBackwards text
  roles.all (fun r => r != .leftToRight && r != .spacingMark) &&
    roles.getLast?.any (fun r => r == .rightToLeft || r == .arabic) &&
    roles.head?.any (fun r => r.turns || r == .digit) &&
    !(roles.contains .digit && roles.contains .arabicDigit)

/-- Whether the labels of one name can be read: none of them turns, or each keeps its
direction. -/
def areDirected (labels : List (List Nat)) : Bool :=
  labels.all (fun text => text.all fun point => !(Role.of? point).any Role.turns) ||
    labels.all fun text => text.isEmpty || runsRight text || runsLeft text

/-- Whether labels can stand in one host name. -/
def areSound (labels : List (List Char)) : Bool := (labels.mapM text?).any areDirected

end Label
end RepairConsole.Url.Host
