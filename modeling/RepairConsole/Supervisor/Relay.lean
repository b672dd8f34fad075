import RepairConsole.SystemError
/-!
# Relaying a service's output

A service in the foreground writes to a stream. One hand reads the stream line by line and
puts the lines on a channel; the other takes them from the channel and writes them out, and
looks up before each whether it has been told to leave. The two hands work at their own
pace, so the relay is described by the steps that each of them can take.
-/

namespace RepairConsole.Relay

/-- How a relay ends. -/
inductive Ending where
  /-- The stream ended, and all of it was written. -/
  | finished
  /-- It was told to leave. -/
  | cancelled
  | failed (error : SystemError)
  deriving DecidableEq, Repr

/-! ## Lines -/

def lineFeed : UInt8 := 10

/-- The first line of a stream with its line feed, and what follows it. -/
def cutLine (stream : List UInt8) : List UInt8 × List UInt8 :=
  let front := stream.takeWhile (· != lineFeed)
  match stream.dropWhile (· != lineFeed) with
  | [] => (front, [])
  | feed :: rest => (front ++ [feed], rest)

/-- The lines of a stream, each with its line feed; the last one may lack it. `held` are the
bytes before, backwards. -/
def linesFrom (held : List UInt8) : List UInt8 → List (List UInt8)
  | [] => if held.isEmpty then [] else [held.reverse]
  | byte :: rest =>
    if byte = lineFeed then (byte :: held).reverse :: linesFrom [] rest
    else linesFrom (byte :: held) rest

def lines (stream : List UInt8) : List (List UInt8) := linesFrom [] stream

theorem cutLine_append (stream : List UInt8) :
    (cutLine stream).1 ++ (cutLine stream).2 = stream := by
  have h := List.takeWhile_append_dropWhile (p := (· != lineFeed)) (l := stream)
  unfold cutLine
  cases hd : stream.dropWhile (· != lineFeed) with
  | nil => rw [hd] at h; simpa using h
  | cons feed rest => rw [hd] at h; simpa using h

theorem flatten_linesFrom (held stream : List UInt8) :
    (linesFrom held stream).flatten = held.reverse ++ stream := by
  induction stream generalizing held with
  | nil =>
    unfold linesFrom
    split
    · next h => simp [List.isEmpty_iff.1 h]
    · simp
  | cons byte rest ih =>
    unfold linesFrom
    split <;> simp [ih]

theorem flatten_lines (stream : List UInt8) : (lines stream).flatten = stream := by
  simp [lines, flatten_linesFrom]

/-! ## Steps -/

/-- What the writing hand is about to do. -/
inductive Stage where
  /-- To see whether it shall leave. -/
  | looking
  /-- To take a line from the channel. -/
  | waiting
  /-- To write the line in its hand. -/
  | writing
  | ended (ending : Ending)
  deriving DecidableEq, Repr

structure State where
  /-- What the stream still holds. -/
  unread : List UInt8
  /-- The line in the reading hand. -/
  caught : List UInt8
  /-- The reading hand has not stopped. -/
  reading : Bool
  /-- The lines on the channel, the oldest first. -/
  channel : List (List UInt8)
  stage : Stage
  /-- What is still to be written of the line in the writing hand. -/
  inHand : List UInt8
  written : List UInt8
  /-- The relay has been told to leave. -/
  told : Bool
  deriving DecidableEq, Repr

/-- What can happen next. Any of these may come at any time; one that does not fit the
state changes nothing. -/
inductive Event where
  /-- The reading hand takes a line from the stream, or finds its end. -/
  | read
  /-- The reading hand puts its line on the channel, or finds that nobody takes lines any
  more. -/
  | send
  /-- The relay is told to leave. -/
  | tell
  | look
  /-- The writing hand takes a line, or finds that none will come. -/
  | receive
  /-- The writing hand has waited long enough for this time. -/
  | giveUp
  /-- The output takes this many bytes of the line. -/
  | write (count : Nat)
  /-- The output has taken the whole line. -/
  | flush
  /-- The output fails, within a line or after it. -/
  | refuse (error : SystemError)
  deriving DecidableEq, Repr

/-- A relay at its start. -/
def State.start (stream : List UInt8) : State where
  unread := stream
  caught := []
  reading := true
  channel := []
  stage := .looking
  inHand := []
  written := []
  told := false

/-- The state after an event. -/
def State.step (s : State) : Event → State
  | .read =>
    match s.reading, s.caught, s.unread with
    | true, [], [] => { s with reading := false }
    | true, [], _ :: _ => { s with unread := (cutLine s.unread).2, caught := (cutLine s.unread).1 }
    | _, _, _ => s
  | .send =>
    match s.reading, s.caught, s.stage with
    | true, _ :: _, .ended _ => { s with reading := false }
    | true, _ :: _, _ => { s with channel := s.channel ++ [s.caught], caught := [] }
    | _, _, _ => s
  | .tell => { s with told := true }
  | .look =>
    match s.stage with
    | .looking => { s with stage := if s.told then .ended .cancelled else .waiting }
    | _ => s
  | .receive =>
    match s.stage, s.channel with
    | .waiting, line :: rest => { s with channel := rest, inHand := line, stage := .writing }
    | .waiting, [] => if s.reading then s else { s with stage := .ended .finished }
    | _, _ => s
  | .giveUp =>
    match s.stage with
    | .waiting => { s with stage := .looking }
    | _ => s
  | .write count =>
    match s.stage with
    | .writing =>
      { s with written := s.written ++ s.inHand.take count, inHand := s.inHand.drop count }
    | _ => s
  | .flush =>
    match s.stage, s.inHand with
    | .writing, [] => { s with stage := .looking }
    | _, _ => s
  | .refuse error =>
    match s.stage with
    | .writing => { s with stage := .ended (.failed error) }
    | _ => s

/-- The state after some events in a row. -/
def State.run (s : State) (events : List Event) : State := events.foldl State.step s

/-! ## A relay from end to end -/

/-- Relays lines to a host that takes them one at a time and says before each whether to
leave. -/
def relay {σ : Type} (told : σ → Bool) (write : List UInt8 → σ → Except SystemError Unit × σ) :
    List (List UInt8) → σ → Ending × σ
  | [], world => (if told world then .cancelled else .finished, world)
  | line :: rest, world =>
    if told world then (.cancelled, world)
    else
      match write line world with
      | (.ok (), world) => relay told write rest world
      | (.error error, world) => (.failed error, world)

end RepairConsole.Relay
