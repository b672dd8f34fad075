import RepairConsole.Calendar.Moment
/-!
# Times in RFC 3339

`2022-08-22T12:00:00.0+02:00`: a date, one ASCII character of any kind, a time of day with
an optional fraction, and an offset that is `Z` or signed hours and minutes.

The second 60 is a leap second. It is read as the last nanosecond before it, and only
where one can be put in: at the end of a month of UTC.
-/

namespace RepairConsole.Calendar.Rfc3339

/-- Takes exactly `count` digits off the front. -/
def takeDigits (count : Nat) (cs : List Char) : Option (Nat × List Char) :=
  let front := cs.take count
  if front.length = count ∧ front.all Char.isDigit then
    some (Text.digitsValue front, cs.drop count)
  else none

/-- Takes the character `c` off the front. -/
def takeChar (c : Char) : List Char → Option (List Char)
  | [] => none
  | d :: rest => if d = c then some rest else none

/-- The nanoseconds that the digits of a fraction stand for; those after the ninth do not
count. -/
def fractionNanos (digits : List Char) : Nat :=
  let kept := digits.take 9
  Text.digitsValue (kept ++ List.replicate (9 - kept.length) '0')

/-- Takes the fraction off the front, if there is one: a point and at least one digit. -/
def takeFraction : List Char → Option (Nat × List Char)
  | '.' :: rest =>
    let digits := rest.takeWhile Char.isDigit
    if digits.isEmpty then none else some (fractionNanos digits, rest.dropWhile Char.isDigit)
  | cs => some (0, cs)

/-- The offset from UTC in seconds, which must be all of the text. -/
def readOffset (cs : List Char) : Option Int :=
  match cs with
  | ['Z'] => some 0
  | ['z'] => some 0
  | sign :: rest => do
    let (hours, rest) ← takeDigits 2 rest
    let rest ← takeChar ':' rest
    let (minutes, rest) ← takeDigits 2 rest
    if hours ≤ 23 ∧ minutes ≤ 59 ∧ rest.isEmpty then
      let seconds : Int := hours * 3600 + minutes * 60
      if sign = '+' then some seconds else if sign = '-' then some (-seconds) else none
    else none
  | [] => none

/-- The date, which must exist. -/
def takeDate (cs : List Char) : Option (Date × List Char) := do
  let (year, cs) ← takeDigits 4 cs
  let cs ← takeChar '-' cs
  let (month, cs) ← takeDigits 2 cs
  let cs ← takeChar '-' cs
  let (day, cs) ← takeDigits 2 cs
  let date : Date := ⟨year, month, day⟩
  if date.valid then some (date, cs) else none

/-- One ASCII character, whichever it is. -/
def takeSeparator : List Char → Option (List Char)
  | c :: rest => if c.toNat < 128 then some rest else none
  | [] => none

/-- Hours, minutes and seconds. -/
def takeClock (cs : List Char) : Option ((Nat × Nat × Nat) × List Char) := do
  let (hour, cs) ← takeDigits 2 cs
  let cs ← takeChar ':' cs
  let (minute, cs) ← takeDigits 2 cs
  let cs ← takeChar ':' cs
  let (second, cs) ← takeDigits 2 cs
  if hour ≤ 23 ∧ minute ≤ 59 ∧ second ≤ 60 then some ((hour, minute, second), cs) else none

/-- Whether a leap second can follow this second of UTC: the last one of a month. Seconds
count from the start of the year 0, and may lie a day before it. -/
def endsMonth (second : Int) : Bool :=
  second.emod 86400 == 86399 && (Date.ofNumber (second.ediv 86400 + 1).toNat).day == 1

/-- Reads all of a text as a time. -/
def read (cs : List Char) : Option Moment := do
  let (date, cs) ← takeDate cs
  let cs ← takeSeparator cs
  let ((hour, minute, second), cs) ← takeClock cs
  let (nanos, cs) ← takeFraction cs
  let offset ← readOffset cs
  let leap := second == 60
  let second := if leap then 59 else second
  let nanos := if leap then 999999999 else nanos
  let utc : Int := date.number * 86400 + (hour * 3600 + minute * 60 + second : Nat) - offset
  if leap && !endsMonth utc then none
  else some ⟨(utc - epochDay * 86400) * 1000000000 + nanos, offset⟩

end RepairConsole.Calendar.Rfc3339
