import RepairConsole.SystemError
/-!
# Output

Where an operator's text goes. A sink may have room for only so many bytes; a write that
would pass that fails as a whole and leaves nothing behind.
-/

namespace RepairConsole

/-- A sink with room for so many bytes in all, or without a bound, and what it holds. -/
structure Sink where
  room : Option Nat
  written : ByteArray

namespace Sink

def empty (room : Option Nat) : Sink := ⟨room, ByteArray.empty⟩

/-- Writes all of the bytes or none. -/
def write (sink : Sink) (bytes : ByteArray) : Except SystemError Unit × Sink :=
  let after := sink.written ++ bytes
  match sink.room with
  | none => (.ok (), { sink with written := after })
  | some room =>
    if after.size ≤ room then (.ok (), { sink with written := after })
    else (.error .sinkFull, sink)

/-- Writes one after the other, up to the first that fails. -/
def writeAll (sink : Sink) : List ByteArray → Except SystemError Unit × Sink
  | [] => (.ok (), sink)
  | bytes :: rest =>
    match sink.write bytes with
    | (.ok (), sink) => writeAll sink rest
    | (.error error, sink) => (.error error, sink)

end Sink

/-- The writes that put a text out line by line. -/
def lineWrites (lines : List String) : List ByteArray :=
  lines.map fun line => (line ++ "\n").toUTF8

end RepairConsole
