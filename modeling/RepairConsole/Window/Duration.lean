import RepairConsole.Fault
import RepairConsole.Text.Blank
import RepairConsole.Text.Digits
/-!
# Durations

How long a window is: `30m`, or ISO 8601 such as `P1DT2H30M4.5S`. Both notations are read
as the same components, and the components have one written form, the token that is sent.
Nothing is converted: `60s` and `1m` stay different.
-/

namespace RepairConsole

/-- A number as it was written, and the unit after it. -/
structure Component where
  number : List Char
  unit : Char
  deriving DecidableEq, Repr

/-- The components of a duration: days, then hours, minutes and seconds. -/
structure Duration where
  date : List Component
  time : List Component
  deriving DecidableEq, Repr

namespace Duration

/-! ## The components -/

/-- A character that may stand in a number. -/
def isNumberChar (c : Char) : Bool := c.isDigit || c == '.'

/-- A run of digits, or two with one point between them if a fraction is allowed. -/
def isNumber (fraction : Bool) (cs : List Char) : Bool :=
  match cs.span (· != '.') with
  | (whole, []) => !whole.isEmpty
  | (whole, _ :: rest) => fraction && !whole.isEmpty && !rest.isEmpty && !rest.contains '.'

/-- The units that may still come once `unit` has; `none` if it may not come itself. -/
def unitsAfter (unit : Char) : List Char → Option (List Char)
  | [] => none
  | u :: later => if u = unit then some later else unitsAfter unit later

/-- The components of the rest of a text, after the characters of a number collected
backwards in `reversed`. Each of `units` may come once and in that order, and only seconds
may have a fraction. -/
def componentsFrom (reversed : List Char) (units : List Char) :
    List Char → Option (List Component)
  | [] => if reversed.isEmpty then some [] else none
  | c :: rest =>
    if isNumberChar c then componentsFrom (c :: reversed) units rest
    else
      match unitsAfter c units with
      | none => none
      | some later =>
        if isNumber (c == 'S') reversed.reverse then
          (componentsFrom [] later rest).map (⟨reversed.reverse, c⟩ :: ·)
        else none

/-- The components of a text with the given units. -/
def components (units : List Char) (cs : List Char) : Option (List Component) :=
  componentsFrom [] units cs

/-! ## The two notations -/

/-- The unit a simple duration ends in. -/
def ofSimple? (upper : List Char) : Option Duration :=
  match upper.reverse with
  | [] => none
  | unit :: reversed =>
    let digits := reversed.reverse
    if Text.allDigits digits then
      if unit = 'D' then some ⟨[⟨digits, unit⟩], []⟩
      else if unit = 'S' ∨ unit = 'M' ∨ unit = 'H' then some ⟨[], [⟨digits, unit⟩]⟩
      else none
    else none

/-- What follows the first `T`, and what stands before it. -/
def splitTime (body : List Char) : List Char × Option (List Char) :=
  match body.span (· != 'T') with
  | (date, []) => (date, none)
  | (date, _ :: time) => (date, some time)

/-- ISO 8601: `P`, the days, and after a `T` hours, minutes and seconds. Where there is a
`T` something follows it, and there is at least one component in all. -/
def ofIso? : List Char → Option Duration
  | 'P' :: body => do
    let (dateText, timeText) := splitTime body
    let date ← components ['D'] dateText
    match timeText with
    | none => if date.isEmpty then none else some ⟨date, []⟩
    | some text =>
      let time ← components ['H', 'M', 'S'] text
      if time.isEmpty then none else some ⟨date, time⟩
  | _ => none

/-- A duration as an operator writes it. Blanks around it and the case of ASCII letters do
not matter; a sign is refused before anything else is looked at. -/
def parse (raw : String) : Except Fault Duration :=
  match raw.toList with
  | '+' :: _ => .error .signedDuration
  | '-' :: _ => .error .signedDuration
  | _ =>
    let upper := (Text.trim raw).toList.map Char.toUpper
    match (ofSimple? upper).or (ofIso? upper) with
    | some duration => .ok duration
    | none => .error (.badDuration raw)

/-! ## The token -/

/-- The written form of some components. -/
def written (components : List Component) : List Char :=
  components.flatMap fun c => c.number ++ [c.unit]

/-- The one spelling of a duration, such as `PT30M` or `P1D`. -/
def token (d : Duration) : String :=
  String.ofList ('P' :: written d.date ++ if d.time.isEmpty then [] else 'T' :: written d.time)

example : (parse "30m").toOption.map token = some "PT30M" := by decide +kernel
example : (parse " p1dt2h ").toOption.map token = some "P1DT2H" := by decide +kernel
example : (parse "-1d").toOption = none := by decide +kernel
example : (parse "PT1M1H").toOption = none := by decide +kernel

end Duration
end RepairConsole
