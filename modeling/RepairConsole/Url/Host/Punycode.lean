/-!
# Punycode

The ASCII spelling of a host label in another script, as RFC 3492 defines it. The characters
beyond ASCII are put into the ASCII ones of the text one by one, by code points and from left
to right: for each of them a number tells how far it stands from the one before.
-/

namespace RepairConsole.Url.Punycode

/-- The state between two characters: the text so far, the last code point and position
inserted, and the number under way with the worth of its next digit. -/
structure Reader where
  text : List Nat
  point : Nat
  position : Nat
  started : Nat
  weight : Nat
  step : Nat
  bias : Nat

/-- The value of a digit: letters count from zero, then the digits. -/
def digit? (c : Char) : Option Nat :=
  let n := c.toNat
  if 97 ≤ n ∧ n ≤ 122 then some (n - 97)
  else if 65 ≤ n ∧ n ≤ 90 then some (n - 65)
  else if 48 ≤ n ∧ n ≤ 57 then some (n - 22)
  else none

/-- The digit value below which a number ends at a step. -/
def threshold (step bias : Nat) : Nat :=
  if step ≤ bias then 1 else if bias + 26 ≤ step then 26 else step - bias

theorem threshold_bounds (step bias : Nat) :
    0 < threshold step bias ∧ threshold step bias ≤ 26 := by
  unfold threshold
  split
  · exact ⟨Nat.one_pos, by decide⟩
  · split
    · decide
    · omega

/-- Divides a delta down until it is small, counting the steps of 36. -/
def settle (delta steps : Nat) : Nat :=
  if h : 455 < delta then settle (delta / 35) (steps + 36)
  else steps + 36 * delta / (delta + 38)
termination_by delta
decreasing_by omega

/-- The bias after a delta was read. -/
def adapt (delta count : Nat) (first : Bool) : Nat :=
  let delta := if first then delta / 700 else delta / 2
  settle (delta + delta / count) 0

def start (basic : List Nat) : Reader := ⟨basic, 128, 0, 0, 1, 36, 72⟩

/-- Whether a number is a code point of a character. -/
def isScalar (n : Nat) : Bool := n < 0xD800 || (0xE000 ≤ n && n < 0x110000)

/-- Puts in the character that a position counts up to from the last code point. -/
def Reader.insert? (r : Reader) (position : Nat) : Option Reader :=
  let count := r.text.length + 1
  let point := r.point + position / count
  let place := position % count
  if isScalar point then
    some
      { text := r.text.take place ++ point :: r.text.drop place
        point
        position := place + 1
        started := place + 1
        weight := 1
        step := 36
        bias := adapt (position - r.started) count (r.started == 0) }
  else none

/-- Reads one digit. The number's last digit inserts a character. -/
def Reader.next? (r : Reader) (c : Char) : Option Reader := do
  let digit ← digit? c
  let position := r.position + digit * r.weight
  let limit := threshold r.step r.bias
  if limit ≤ digit then
    some { r with position, weight := r.weight * (36 - limit), step := r.step + 36 }
  else r.insert? position

/-- The characters before the last hyphen, and those after it. -/
def splitBasic (cs : List Char) : List Char × List Char :=
  match cs.reverse.span (· != '-') with
  | (_, []) => ([], cs)
  | (after, _ :: before) => if before.isEmpty then ([], cs) else (before.reverse, after.reverse)

/-- The code points that a label spells, without its `xn--`. -/
def decode? (cs : List Char) : Option (List Nat) := do
  let (basic, coded) := splitBasic cs
  let r ← coded.foldlM Reader.next? (start (basic.map Char.toNat))
  if r.weight = 1 then some r.text else none

/-! ## Spelling -/

/-- The digit of a value. -/
def digit (n : Nat) : Char := Char.ofNat (if n < 26 then n + 97 else n + 22)

/-- The digits of a number, from the step on. -/
def digits (bias step n : Nat) : List Char :=
  let limit := threshold step bias
  if n < limit then [digit n]
  else
    digit (limit + (n - limit) % (36 - limit)) ::
      digits bias (step + 36) ((n - limit) / (36 - limit))
termination_by n
decreasing_by
  have hpos := (threshold_bounds step bias).1
  have hle := Nat.div_le_self (n - threshold step bias) (36 - threshold step bias)
  omega

/-- The state between two characters: the digits so far, the code point under way and how many
places were passed since the last character, the number of characters that a reader has by
then, and whether it has only those of ASCII. -/
structure Writer where
  coded : List Char
  point : Nat
  passed : Nat
  count : Nat
  bias : Nat
  first : Bool

namespace Writer

/-- A writer whose reader has this many characters of ASCII. -/
def start (count : Nat) : Writer := ⟨[], 128, 0, count, 72, true⟩

/-- Writes how many places were passed. -/
def write (w : Writer) : Writer :=
  { w with
    coded := w.coded ++ digits w.bias 36 w.passed
    passed := 0
    count := w.count + 1
    bias := adapt w.passed (w.count + 1) w.first
    first := false }

/-- Goes by a character of the text: one that comes later is not there yet. -/
def pass (w : Writer) (point : Nat) : Writer :=
  if point < w.point then { w with passed := w.passed + 1 }
  else if point = w.point then w.write
  else w

/-- Goes on to the beginning of the text and to a later code point there. -/
def goTo (w : Writer) (point : Nat) : Writer :=
  { w with point, passed := w.passed + (point - w.point) * (w.count + 1) }

/-- Writes all characters of a text that have the code point. -/
def round (text : List Nat) (w : Writer) (point : Nat) : Writer :=
  let w := text.foldl pass (w.goTo point)
  { w with point := point + 1, passed := w.passed + 1 }

end Writer

/-- Puts a number where it belongs in a list in order, if it is not there. -/
def insertInOrder (n : Nat) : List Nat → List Nat
  | [] => [n]
  | next :: rest =>
    if n < next then n :: next :: rest
    else if n = next then next :: rest
    else next :: insertInOrder n rest

/-- The code points of a text beyond ASCII, each once and in order. -/
def foreign (text : List Nat) : List Nat := (text.filter (128 ≤ ·)).foldr insertInOrder []

/-- The code points of a text in ASCII. -/
def basic (text : List Nat) : List Nat := text.filter (· < 128)

/-- The numbers that are written for the others. -/
def coded (text : List Nat) : List Char :=
  ((foreign text).foldl (Writer.round text) (.start (basic text).length)).coded

/-- The spelling of a text, without its `xn--`. -/
def encode (text : List Nat) : List Char :=
  if (basic text).isEmpty then coded text
  else (basic text).map Char.ofNat ++ '-' :: coded text

/-! ## Examples -/

example : decode? "bcher-kva".toList = some ("bücher".toList.map Char.toNat) := by cbv

example : encode ("bücher".toList.map Char.toNat) = "bcher-kva".toList := by cbv

end RepairConsole.Url.Punycode
