/-
Writing bytes through a buffer.

A byte that was accepted stays accepted: a write that fails leaves the buffer as
it was, and the next flush tries the same bytes again.
-/
import ScriptPress.Character
import ScriptPress.Halt

namespace ScriptPress

structure Sink where
  output : Stream.Output := {}
  /-- Buffered bytes at which the buffer is flushed. -/
  chunkSize : Int := 65536
  /-- Bytes accepted and not yet stored. -/
  buffer : Array UInt8 := #[]
  /-- Bytes accepted so far, stored or not. -/
  written : Nat := 0
  deriving Repr

namespace Sink

/-- Store what is buffered.  An empty buffer makes no write. -/
def flush (s : Sink) : Outcome Sink Unit :=
  if s.buffer.isEmpty then .ok () s
  else
    match s.output.write s.buffer with
    | .error fault output => .error (.device fault) { s with output }
    | .ok _ output => .ok () { s with output, buffer := #[] }

def push (byte : UInt8) (s : Sink) : Sink :=
  { s with buffer := s.buffer.push byte, written := s.written + 1 }

/-- Accept a character that is a byte, and flush once a chunk is full. -/
def put (c : Symbol) (s : Sink) : Outcome Sink Unit :=
  match c with
  | none => .error .notByte s
  | some code =>
    if code < 256 then
      let s := s.push code.toUInt8
      if s.chunkSize ≤ s.buffer.size then s.flush else .ok () s
    else .error .notByte s

end Sink
end ScriptPress
