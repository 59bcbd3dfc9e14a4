/-
The two streams of a run.

A stream is a value, and calls on it return the stream left behind.  Calls that
are going to fail are part of that value, by number, so that what a run does
under a fault is a matter of definition.
-/

namespace ScriptPress

abbrev Bytes := List UInt8

namespace Stream

inductive Fault where
  | read
  | write
  | close
  | noSpace
  deriving DecidableEq, Repr

def Fault.message : Fault → String
  | .read => "injected read fault"
  | .write => "injected write fault"
  | .close => "injected close fault"
  | .noSpace => "[Errno 28] No space left on device"

/-! ## Input -/

/-- What the reads of an input stream return. -/
inductive Supply where
  /-- As many of these bytes as a read asks for. -/
  | bytes (rest : Bytes)
  /-- One piece for each read, whatever it asks for. -/
  | pieces (rest : List Bytes)
  deriving Repr

namespace Supply

/-- Bytes that reads can still return. -/
def remaining : Supply → Nat
  | bytes rest => rest.length
  | pieces rest => rest.flatten.length

/-- Serve one read of at most `count` bytes, or of all when `count` is negative. -/
def serve (count : Int) : Supply → Bytes × Supply
  | bytes rest =>
    if count < 0 then (rest, bytes [])
    else (rest.take count.toNat, bytes (rest.drop count.toNat))
  | pieces [] => ([], pieces [])
  | pieces (piece :: rest) => (piece, pieces rest)

theorem remaining_serve (count : Int) (supply : Supply) :
    (supply.serve count).1.length + (supply.serve count).2.remaining = supply.remaining := by
  cases supply with
  | bytes rest =>
    simp only [serve]
    split
    · simp [remaining]
    · simp only [remaining, List.length_take, List.length_drop]; omega
  | pieces rest =>
    cases rest with
    | nil => simp [serve, remaining]
    | cons piece rest => simp [serve, remaining]

end Supply

structure Input where
  supply : Supply
  /-- Number of the read that fails.  Reads count from one, so zero is never. -/
  failingRead : Nat := 0
  reads : Nat := 0
  deriving Repr

namespace Input

def remaining (input : Input) : Nat := input.supply.remaining

/-- Read at most `count` bytes, or all when `count` is negative. -/
def read (count : Int) : EStateM Fault Input Bytes := fun input =>
  let input := { input with reads := input.reads + 1 }
  if input.reads = input.failingRead then .error .read input
  else
    let (piece, supply) := input.supply.serve count
    .ok piece { input with supply }

theorem remaining_read {count : Int} {input input' : Input} {piece : Bytes}
    (h : input.read count = .ok piece input') :
    piece.length + input'.remaining = input.remaining := by
  simp only [read] at h
  split at h
  · cases h
  · cases h
    exact Supply.remaining_serve count input.supply

end Input

/-! ## Output -/

structure Output where
  stored : Array UInt8 := #[]
  /-- Sizes of the writes tried, in order. -/
  writes : Array Nat := #[]
  /-- Numbers of the writes that fail, counted from one. -/
  failingWrites : List Nat := []
  failingClose : Bool := false
  /-- For a device that takes nothing, the bytes that a buffer before it holds. -/
  room : Option Nat := none
  deriving Repr

namespace Output

def fits (output : Output) (count : Nat) : Bool :=
  output.room.all (output.stored.size + count ≤ ·)

/-- Write `bytes`, all or none of them. -/
def write (bytes : Array UInt8) : EStateM Fault Output Unit := fun output =>
  let output := { output with writes := output.writes.push bytes.size }
  if output.failingWrites.contains output.writes.size then .error .write output
  else if output.fits bytes.size then .ok () { output with stored := output.stored ++ bytes }
  else .error .noSpace output

/-- Close the stream.  What a buffer holds for a device that takes nothing is
lost here. -/
def close (output : Output) : Except Fault Unit :=
  if output.room.isSome && !output.stored.isEmpty then .error .noSpace
  else if output.failingClose then .error .close
  else .ok ()

end Output
end Stream
end ScriptPress
