import RepairConsole.Remote.Wire
/-!
# A rehearsed service

Stands in for the repair service: it has its answers ready, one for each request in turn,
sends them as they are, and notes what it was asked. What an answer comes to is for the
reader of the wire to say.
-/

namespace RepairConsole.Rehearsal

/-- An answer that a service has ready, sound or not. The length that it announces is that of
its body, unless another is given. -/
structure Reply where
  status : Nat
  reason : String
  body : ByteArray
  announced : Option Nat := none

/-- An answer as it is sent. -/
def Reply.bytes (r : Reply) : ByteArray :=
  let length := r.announced.getD r.body.size
  s!"HTTP/1.1 {r.status} {r.reason}\r\nContent-Length: {length}\r\nConnection: close\r\n\r\n".toUTF8
    ++ r.body

/-- A service with its answers. An answer that is missing, and any after the last, leaves the
request unanswered. One that is down notes nothing. -/
structure Service where
  down : Bool
  answers : List (Option Reply)
  /-- The first lines of the requests, the last one first. -/
  noted : List String

namespace Service

def ready (answers : List (Option Reply)) : Service := ⟨false, answers, []⟩

/-- One request, by its first line. -/
def exchange (line : String) (s : Service) : Exchange × Service :=
  if s.down then (.unanswered "connection refused", s)
  else
    let s' : Service := { s with answers := s.answers.tail, noted := line :: s.noted }
    match s.answers with
    | some reply :: _ => (Wire.exchange reply.bytes, s')
    | _ => (.unanswered "connection closed", s')

/-- The outcome of a call to the service at an origin. -/
def call (origin : Url.Origin) (c : Call) (s : Service) : Outcome c.Payload × Service :=
  let (reply, s) := s.exchange c.requestLine
  (c.outcome origin reply, s)

/-- The requests in order. -/
def requests (s : Service) : List String := s.noted.reverse

end Service
end RepairConsole.Rehearsal
