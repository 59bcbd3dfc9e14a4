/-
Chunks that do not show.

A run does not depend on how its script is cut into reads, and it writes in full
chunks, with what is left over in the last write.  The first holds because a run
ends as the plain run on the characters served does; the second because every
call on a sink keeps the buffer at what the full chunks leave over.
-/
import ScriptPress.Proofs.Dialogue
import ScriptPress.Proofs.Passes

namespace ScriptPress

open Code

namespace Sink

/-- Sizes of the writes by which `count` bytes are stored. -/
def chunks (count : Nat) : List Nat :=
  List.replicate (count / 65536) 65536 ++ if count % 65536 = 0 then [] else [count % 65536]

/-- A sink that meets no fault has stored full chunks, and buffers what they leave
over. -/
structure Chunked (s : Sink) : Prop where
  quiet : s.output.failingWrites = []
  roomy : s.output.room = none
  chunkSize_eq : s.chunkSize = 65536
  buffered : s.buffer.size = s.written % 65536
  accepted : s.output.stored.size + s.buffer.size = s.written
  writes_eq : s.output.writes.toList = List.replicate (s.written / 65536) 65536

namespace Chunked

variable {s : Sink}

theorem fresh : ({} : Sink).Chunked := ⟨rfl, rfl, rfl, rfl, rfl, by simp⟩

theorem stow (h : s.Chunked) (byte : UInt8) (full : 65536 ≤ (s.push byte).buffer.size) :
    (s.push byte).stow.Chunked := by
  have size : (s.push byte).buffer.size = s.buffer.size + 1 := Array.size_push byte
  have buffered := h.buffered
  have accepted := h.accepted
  refine ⟨h.quiet, h.roomy, h.chunkSize_eq, ?_, ?_, ?_⟩
  · show 0 = (s.written + 1) % 65536
    omega
  · show (s.output.stored ++ (s.push byte).buffer).size + 0 = s.written + 1
    rw [Array.size_append]
    omega
  · show (s.output.writes.push (s.push byte).buffer.size).toList =
      List.replicate ((s.written + 1) / 65536) 65536
    have one : (s.written + 1) / 65536 = s.written / 65536 + 1 := by omega
    have whole : (s.push byte).buffer.size = 65536 := by omega
    rw [Array.toList_push, h.writes_eq, one, whole, List.replicate_succ']

theorem push (h : s.Chunked) (byte : UInt8) (short : ¬ 65536 ≤ (s.push byte).buffer.size) :
    (s.push byte).Chunked := by
  have size : (s.push byte).buffer.size = s.buffer.size + 1 := Array.size_push byte
  have buffered := h.buffered
  have accepted := h.accepted
  refine ⟨h.quiet, h.roomy, h.chunkSize_eq, ?_, ?_, ?_⟩
  · show (s.push byte).buffer.size = (s.written + 1) % 65536
    omega
  · show s.output.stored.size + (s.push byte).buffer.size = s.written + 1
    omega
  · have same : (s.written + 1) / 65536 = s.written / 65536 := by omega
    show s.output.writes.toList = List.replicate ((s.written + 1) / 65536) 65536
    rw [h.writes_eq, same]

theorem put (h : s.Chunked) (c : Symbol) : (Outcome.state (s.put c)).Chunked := by
  unfold Sink.put
  split
  · exact h
  next code =>
    split
    · dsimp only
      have size_eq : (s.push code.toUInt8).chunkSize = 65536 := h.chunkSize_eq
      rw [size_eq]
      split
      next full =>
        have full : 65536 ≤ (s.push code.toUInt8).buffer.size := by omega
        have filled : ¬ (s.push code.toUInt8).buffer.isEmpty := by
          rw [Array.isEmpty_iff_size_eq_zero]
          omega
        have flushed : (s.push code.toUInt8).flush = .ok () (s.push code.toUInt8).stow :=
          flush_quiet h.quiet h.roomy filled
        rw [flushed]
        exact h.stow _ full
      next short => exact h.push _ (by omega)
    · exact h

/-- The last flush stores the rest in one write, if there is a rest. -/
theorem flush (h : s.Chunked) :
    ∃ s', s.flush = .ok () s' ∧ s'.output.writes.toList = chunks s'.written ∧
      s'.output.stored.size = s'.written := by
  have buffered := h.buffered
  have accepted := h.accepted
  unfold chunks
  by_cases empty : s.buffer.isEmpty
  · have nothing : s.buffer.size = 0 := Array.isEmpty_iff_size_eq_zero.mp empty
    refine ⟨s, by rw [Sink.flush, if_pos empty], ?_, by omega⟩
    rw [if_pos (by omega), List.append_nil, h.writes_eq]
  · have filled : s.buffer.size ≠ 0 := fun nothing =>
      empty (Array.isEmpty_iff_size_eq_zero.mpr nothing)
    refine ⟨s.stow, flush_quiet h.quiet h.roomy empty, ?_, ?_⟩
    · show (s.output.writes.push s.buffer.size).toList = List.replicate (s.written / 65536) 65536 ++
        if s.written % 65536 = 0 then [] else [s.written % 65536]
      rw [if_neg (by omega), Array.toList_push, h.writes_eq, buffered]
    · show (s.output.stored ++ s.buffer).size = s.written
      rw [Array.size_append, accepted]

end Chunked
end Sink

namespace Script

theorem chunked_consumed (input : Stream.Input) :
    (Outcome.state (consumed input {})).sink.Chunked :=
  (Automaton.converses_consume _ _).keeps_sink (fun _ c h => Sink.Chunked.put h c) .fresh

/-- What is stored was written in full chunks, with the rest in a last write,
whatever the input does and however the run ends. -/
theorem writes_minifyStream (input : Stream.Input) :
    let sink := (Outcome.state (minifyStream input {})).sink
    sink.output.writes.toList = Sink.chunks sink.written ∧
      sink.output.stored.size = sink.written := by
  obtain ⟨s, flushed, writes⟩ := (chunked_consumed input).flush
  dsimp only
  rw [minifyStream_eq, Transfer.state_finish, Transfer.flush, Transfer.state_writing, flushed]
  exact writes

/-- How a run ends and what it stores depends on the bytes served, not on the
reads they are served in. -/
theorem minifyStream_congr {input input' : Stream.Input} (quiet : input.failingRead = 0)
    (quiet' : input'.failingRead = 0)
    (same : input.supply.served 65536 = input'.supply.served 65536) :
    Outcome.result (minifyStream input {}) = Outcome.result (minifyStream input' {}) ∧
      (Outcome.state (minifyStream input {})).sink.output.stored =
        (Outcome.state (minifyStream input' {})).sink.output.stored := by
  have left := @minifyStream_served Nat _ input newline _ quiet rfl (map_code_nat _)
  have right := @minifyStream_served Nat _ input' newline _ quiet' rfl (map_code_nat _)
  rw [← same] at right
  generalize Plain.run newline (characters (input.supply.served 65536)) = ending at left right
  cases ending with
  | ok _ p =>
    obtain ⟨t, ran, stored⟩ := left
    obtain ⟨t', ran', stored'⟩ := right
    rw [ran, ran']
    exact ⟨rfl, Array.toList_inj.mp (stored.trans stored'.symm)⟩
  | error what p =>
    obtain ⟨t, ran, stored⟩ := left
    obtain ⟨t', ran', stored'⟩ := right
    rw [ran, ran']
    exact ⟨rfl, Array.toList_inj.mp (stored.trans stored'.symm)⟩

/-- A script in memory gives what a run on its bytes stores, or is rejected for what
that run is stopped by. -/
theorem minify_eq_minifyStream (script : Bytes) :
    minify script = (Outcome.result (minifyStream { supply := .bytes script } {})).map fun _ =>
      (Outcome.state (minifyStream { supply := .bytes script } {})).sink.output.stored.toList := by
  obtain ⟨p, ran, finished⟩ := run_finishes (characters script)
  have served := @minifyStream_agrees Nat _ script newline _ rfl (map_code_nat _)
  rw [ran] at served
  cases passed : split {} (characters script) with
  | mk items fault =>
  rw [passed] at served finished
  cases fault with
  | none =>
    obtain ⟨tally, t, streamed, stored⟩ := served
    rw [minify_of_closed passed, streamed]
    show Except.ok _ = Except.ok t.sink.output.stored.toList
    rw [stored, finished.text rfl]
    rfl
  | some what =>
    obtain ⟨t, streamed, _⟩ := served
    rw [minify_of_unclosed passed, streamed]
    rfl

/-- A run that meets no fault counts what was served and what is stored, and is
stopped only at the end of the script. -/
theorem result_minifyStream {input : Stream.Input} (quiet : input.failingRead = 0) :
    match Outcome.result (minifyStream input {}) with
    | .ok tally => tally = ⟨(input.supply.served 65536).length,
        (Outcome.state (minifyStream input {})).sink.output.stored.size⟩
    | .error halt => ∃ what, halt = .unterminated what (input.supply.served 65536).length := by
  have served := @minifyStream_served Nat _ input newline _ quiet rfl (map_code_nat _)
  rw [length_of_characters (map_code_nat _)] at served
  generalize Plain.run newline (characters (input.supply.served 65536)) = ending at served
  cases ending with
  | ok _ p =>
    obtain ⟨t, ran, stored⟩ := served
    have size : t.sink.output.stored.size = p.text.length := by
      rw [← Array.length_toList, stored]
      simp [Plain.bytes]
    rw [ran]
    show _ = (⟨_, t.sink.output.stored.size⟩ : Tally)
    rw [size]
  | error what p =>
    obtain ⟨t, ran, _⟩ := served
    rw [ran]
    exact ⟨what, rfl⟩

theorem served_bytes (script : Bytes) :
    (Stream.Supply.bytes script).served 65536 = script := by
  rw [Stream.Supply.served, if_neg (by decide)]

theorem served_pieces {pieces : List Bytes} (filled : ∀ piece ∈ pieces, piece ≠ []) (count : Int) :
    (Stream.Supply.pieces pieces).served count = pieces.flatten := by
  have all : ∀ piece ∈ pieces, (!piece.isEmpty) = true := by simpa using filled
  have whole : (pieces ++ []).takeWhile (fun piece => !piece.isEmpty) = pieces ++ [] :=
    List.takeWhile_append_of_pos all
  rw [List.append_nil] at whole
  rw [Stream.Supply.served, whole]

/-- Pieces that are not empty give what their bytes give in reads of a whole chunk:
the same tally or the same error, and the same bytes stored, which are those of
minifying in memory.  Both write full chunks and the rest in a last write. -/
theorem minifyStream_pieces {pieces : List Bytes} (filled : ∀ piece ∈ pieces, piece ≠ [])
    {cut whole : Outcome Transfer Tally}
    (cut_eq : minifyStream { supply := .pieces pieces } {} = cut)
    (whole_eq : minifyStream { supply := .bytes pieces.flatten } {} = whole) :
    cut.result = whole.result ∧ cut.state.sink.output.stored = whole.state.sink.output.stored ∧
      minify pieces.flatten = cut.result.map (fun _ => cut.state.sink.output.stored.toList) ∧
      (match cut.result with
        | .ok tally => tally = ⟨pieces.flatten.length, cut.state.sink.output.stored.size⟩
        | .error halt => ∃ what, halt = .unterminated what pieces.flatten.length) ∧
      ∀ sink ∈ [cut.state.sink, whole.state.sink],
        sink.output.writes.toList = Sink.chunks sink.written ∧
          sink.output.stored.size = sink.written := by
  have served := served_pieces filled 65536
  have same := @minifyStream_congr { supply := .pieces pieces }
    { supply := .bytes pieces.flatten } rfl rfl (served.trans (served_bytes _).symm)
  have tallied := @result_minifyStream { supply := .pieces pieces } rfl
  rw [served, cut_eq] at tallied
  rw [cut_eq, whole_eq] at same
  refine ⟨same.1, same.2, ?_, tallied, ?_⟩
  · rw [same.1, same.2, ← whole_eq]
    exact minify_eq_minifyStream pieces.flatten
  · rw [← cut_eq, ← whole_eq]
    simp only [List.mem_cons, List.not_mem_nil, or_false]
    rintro sink (rfl | rfl)
    · exact writes_minifyStream _
    · exact writes_minifyStream _

/-- The script `a = '/*'` is minified to `a='/*'` from pieces that end in the middle
of the literal. -/
theorem minifyStream_pieces_literal :
    let cut := minifyStream { supply := .pieces [[97, 32], [61, 32, 39, 47], [42, 39]] } {}
    let sink := cut.state.sink
    (∀ piece ∈ ([[97, 32], [61, 32, 39, 47], [42, 39]] : List Bytes), piece ≠ []) ∧
      cut.result.map (fun _ => sink.output.stored.toList) = .ok [97, 61, 39, 47, 42, 39] ∧
      sink.output.writes.toList = Sink.chunks sink.written := by
  have filled : ∀ piece ∈ ([[97, 32], [61, 32, 39, 47], [42, 39]] : List Bytes), piece ≠ [] := by
    decide
  obtain ⟨_, _, minified, _, writes⟩ := minifyStream_pieces filled rfl rfl
  refine ⟨filled, minified.symm.trans (minify_eq_ok ?_ ?_), (writes _ List.mem_cons_self).1⟩
  · decide +kernel
  · decide +kernel

end Script
end ScriptPress
