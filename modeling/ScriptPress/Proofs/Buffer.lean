/-
Bytes on their way through a sink.

A sink takes bytes one at a time and hands them on in chunks.  A write that fails
stores nothing and leaves the buffer as it is, so that the next write is tried with
the same bytes again.  Whatever the chunk size, the calls and the writes that fail,
the bytes stored and the bytes buffered are those that were put, in this order.
-/
import ScriptPress.Proofs.Faults

namespace ScriptPress
namespace Sink

/-- A new sink whose output fails at these writes. -/
def withFaults (failing : List Nat) (chunkSize : Int) : Sink :=
  { output := { failingWrites := failing }, chunkSize }

/-! ## Calls -/

/-- What can be asked of a sink.  Any number can be put. -/
inductive Call where
  | put (n : Int)
  | flush
  deriving DecidableEq, Repr

def Call.run : Call → Sink → Outcome Sink Unit
  | put n => Sink.put (.ofInt n)
  | flush => Sink.flush

/-- The numbers that a call puts and a sink has to accept. -/
def Call.bytes : Call → List Int
  | put n => if 0 ≤ n ∧ n ≤ 255 then [n] else []
  | flush => []

/-- The sink left after calls in a row, of which any may fail. -/
def after (s : Sink) (calls : List Call) : Sink :=
  calls.foldl (fun s call => Outcome.state (call.run s)) s

/-! ## One call -/

variable {s s' : Sink}

theorem put_of_byte {n : Int} (h : 0 ≤ n ∧ n ≤ 255) (s : Sink) :
    s.put (.ofInt n) =
      if s.chunkSize ≤ (s.push n.toNat.toUInt8).buffer.size then (s.push n.toNat.toUInt8).flush
      else .ok () (s.push n.toNat.toUInt8) := by
  have nonneg : ¬ n < 0 := by omega
  have small : n.toNat < 256 := by omega
  rw [Symbol.ofInt, if_neg nonneg, put, if_pos small]
  rfl

theorem put_of_not_byte {n : Int} (h : ¬ (0 ≤ n ∧ n ≤ 255)) (s : Sink) :
    s.put (.ofInt n) = .error .notByte s := by
  by_cases negative : n < 0
  · rw [Symbol.ofInt, if_pos negative]
    rfl
  · have large : ¬ n.toNat < 256 := by omega
    rw [Symbol.ofInt, if_neg negative, put, if_neg large]

/-- What a flush leaves as it is. -/
theorem state_flush (s : Sink) :
    (Outcome.state s.flush).written = s.written ∧
      (Outcome.state s.flush).chunkSize = s.chunkSize ∧
      (Outcome.state s.flush).output.failingWrites = s.output.failingWrites := by
  have flushes := s.flushes
  generalize s.flush = flushed at flushes
  cases flushes <;> exact ⟨rfl, rfl, rfl⟩

theorem buffer_of_flush (h : s.flush = .ok () s') : s'.buffer = #[] := by
  have flushes := s.flushes
  rw [h] at flushes
  cases flushes with
  | idle empty => exact Array.isEmpty_iff.mp empty
  | stored => rfl

/-- A flush is stopped only by a write that fails. -/
theorem error_of_flush (roomy : s.output.room = none) {e : Halt} (h : s.flush = .error e s') :
    e = .device .write ∧ s.output.writes.size + 1 ∈ s.output.failingWrites := by
  have flushes := s.flushes
  rw [h] at flushes
  cases flushes with
  | failed filled failing => exact ⟨rfl, failing⟩
  | full narrow => exact absurd roomy narrow

/-- The numbers `given` have been accepted by a sink with chunks of this size, whose
output fails at these writes. -/
structure Accepts (s : Sink) (chunkSize : Int) (failing : List Nat) (given : List Int) : Prop where
  chunkSize_eq : s.chunkSize = chunkSize
  failing_eq : s.output.failingWrites = failing
  roomy : s.output.room = none
  accepted_eq : s.accepted.map (fun byte => (byte.toNat : Int)) = given
  written_eq : s.written = given.length

namespace Accepts

variable {chunkSize : Int} {failing : List Nat} {given : List Int}

theorem push (h : s.Accepts chunkSize failing given) {n : Int} (byte : 0 ≤ n ∧ n ≤ 255) :
    (s.push n.toNat.toUInt8).Accepts chunkSize failing (given ++ [n]) := by
  have same : (n.toNat.toUInt8.toNat : Int) = n := by
    have small : n.toNat.toUInt8.toNat = n.toNat := Nat.mod_eq_of_lt (by omega)
    omega
  refine ⟨h.chunkSize_eq, h.failing_eq, h.roomy, ?_, ?_⟩
  · have pushed : (s.push n.toNat.toUInt8).accepted = s.accepted ++ [n.toNat.toUInt8] := by
      simp [accepted, Sink.push]
    rw [pushed, List.map_append, h.accepted_eq, List.map_singleton, same]
  · show s.written + 1 = _
    rw [h.written_eq, List.length_append, List.length_singleton]

theorem flush (h : s.Accepts chunkSize failing given) :
    (Outcome.state s.flush).Accepts chunkSize failing given := by
  obtain ⟨written, chunk, fails⟩ := s.state_flush
  refine ⟨?_, ?_, ?_, ?_, ?_⟩
  · rw [chunk, h.chunkSize_eq]
  · rw [fails, h.failing_eq]
  · rw [room_flush, h.roomy]
  · rw [accepted_flush, h.accepted_eq]
  · rw [written, h.written_eq]

/-- A call adds what it puts, also if it is stopped by a write. -/
theorem run (h : s.Accepts chunkSize failing given) (call : Call) :
    (Outcome.state (call.run s)).Accepts chunkSize failing (given ++ call.bytes) := by
  cases call with
  | flush =>
    rw [Call.bytes, List.append_nil]
    exact h.flush
  | put n =>
    rw [Call.run, Call.bytes]
    by_cases byte : 0 ≤ n ∧ n ≤ 255
    · rw [put_of_byte byte, if_pos byte]
      split
      · exact (h.push byte).flush
      · exact h.push byte
    · rw [put_of_not_byte byte, if_neg byte, List.append_nil]
      exact h

theorem after (h : s.Accepts chunkSize failing given) (calls : List Call) :
    (s.after calls).Accepts chunkSize failing (given ++ calls.flatMap Call.bytes) := by
  induction calls generalizing s given with
  | nil =>
    rw [List.flatMap_nil, List.append_nil]
    exact h
  | cons call calls ih =>
    rw [List.flatMap_cons, ← List.append_assoc]
    exact ih (h.run call)

theorem fresh (chunkSize : Int) (failing : List Nat) :
    (withFaults failing chunkSize).Accepts chunkSize failing [] :=
  ⟨rfl, rfl, rfl, rfl, rfl⟩

/-- A call that is not stopped leaves less than a chunk in the buffer. -/
theorem buffer_of_ok (h : s.Accepts chunkSize failing given) {call : Call}
    (ended : call.run s = .ok () s') :
    (s'.buffer.size : Int) < max 1 chunkSize ∧ (call = .flush → s'.buffer = #[]) := by
  have emptied (empty : s'.buffer = #[]) : (s'.buffer.size : Int) < max 1 chunkSize := by
    rw [empty, Array.size_empty]
    omega
  cases call with
  | flush => exact ⟨emptied (buffer_of_flush ended), fun _ => buffer_of_flush ended⟩
  | put n =>
    refine ⟨?_, nofun⟩
    rw [Call.run] at ended
    by_cases byte : 0 ≤ n ∧ n ≤ 255
    · rw [put_of_byte byte, h.chunkSize_eq] at ended
      split at ended
      · exact emptied (buffer_of_flush ended)
      next short =>
        cases ended
        omega
    · rw [put_of_not_byte byte] at ended
      cases ended

/-- A call is stopped by a number that is not a byte, or by a write that fails. -/
theorem error_of_run (h : s.Accepts chunkSize failing given) {call : Call} {e : Halt}
    (stopped : call.run s = .error e s') (byte : e ≠ .notByte) :
    e = .device .write ∧ s.output.writes.size + 1 ∈ failing := by
  rw [← h.failing_eq]
  cases call with
  | flush => exact error_of_flush h.roomy stopped
  | put n =>
    rw [Call.run] at stopped
    by_cases within : 0 ≤ n ∧ n ≤ 255
    · rw [put_of_byte within] at stopped
      split at stopped
      · -- the byte is buffered before the write that fails
        have roomy : (s.push n.toNat.toUInt8).output.room = none := h.roomy
        exact error_of_flush roomy stopped
      · cases stopped
    · rw [put_of_not_byte within] at stopped
      cases stopped
      exact absurd rfl byte

end Accepts

/-- After any calls on a new sink, with chunks of any size and whichever writes fail,
the bytes stored and then those buffered are the bytes that were put, in order, and
they are counted.  A number that is not a byte changes nothing.  A call that is not
stopped leaves less than a chunk in the buffer, and nothing if it is a flush; and only
a write that fails stops one that puts a byte or flushes. -/
theorem calls_account (failing : List Nat) (chunkSize : Int) (calls : List Call) {s : Sink}
    (left : (withFaults failing chunkSize).after calls = s) :
    (s.output.stored.toList ++ s.buffer.toList).map (fun byte => (byte.toNat : Int)) =
        calls.flatMap Call.bytes ∧
      s.written = (calls.flatMap Call.bytes).length ∧
      (∀ n, ¬ (0 ≤ n ∧ n ≤ 255) → (Call.put n).run s = .error .notByte s) ∧
      (∀ (call : Call) (s' : Sink), call.run s = .ok () s' →
        (s'.buffer.size : Int) < max 1 chunkSize ∧ (call = .flush → s'.buffer = #[])) ∧
      ∀ (call : Call) (e : Halt) (s' : Sink), call.run s = .error e s' → e ≠ .notByte →
        e = .device .write ∧ s.output.writes.size + 1 ∈ failing := by
  have accepts := (Accepts.fresh chunkSize failing).after calls
  rw [left, List.nil_append] at accepts
  exact ⟨accepts.accepted_eq, accepts.written_eq, fun n outside => put_of_not_byte outside s,
    fun _ _ ended => accepts.buffer_of_ok ended,
    fun _ _ _ stopped byte => accepts.error_of_run stopped byte⟩

/-- Chunks of two bytes, and the first two writes fail: the bytes of the calls that fail
are stored by the third write, each once, and the number 256 is not. -/
theorem calls_account_retries :
    ∃ s, (withFaults [1, 2] 2).after
        [.put 97, .put 98, .put 256, .put 99, .put 100, .put 101] = s ∧
      (s.output.stored.toList ++ s.buffer.toList).map (fun byte => (byte.toNat : Int)) =
        [97, 98, 99, 100, 101] ∧
      s.written = 5 ∧ s.output.stored.toList = [97, 98, 99, 100] := by
  obtain ⟨accepted, written, _⟩ := calls_account [1, 2] 2
    [.put 97, .put 98, .put 256, .put 99, .put 100, .put 101] rfl
  exact ⟨_, rfl, accepted, written, by decide +kernel⟩

end Sink
end ScriptPress
