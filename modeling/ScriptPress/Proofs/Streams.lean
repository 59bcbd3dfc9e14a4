/-
What a source still has to give and what a sink has accepted, as lists.

`Source.Reads` says which effective characters a source that meets no fault is
going to hand out, whatever the chunks it reads them in and whether or not one
of them has been looked at; a fetch takes the first of them and a peek none.
`Sink.Holds` says which bytes a sink that meets no fault has accepted, whichever
of them are stored already.  Everything above the two streams is stated with
these two lists.
-/
import ScriptPress.Transfer

namespace ScriptPress

open Code

namespace Stream.Supply

/-- The bytes that reads of `count` return before the first empty one. -/
def served (count : Int) : Supply → Bytes
  | bytes rest => if count = 0 then [] else rest
  | pieces rest => (rest.takeWhile fun piece => !piece.isEmpty).flatten

theorem served_of_serve_nil {count : Int} {supply : Supply} (h : (supply.serve count).1 = []) :
    supply.served count = [] := by
  cases supply with
  | bytes rest =>
    rw [served]
    by_cases zero : count = 0
    · rw [if_pos zero]
    · rw [if_neg zero]
      simp only [serve] at h
      split at h
      · exact h
      · rcases List.take_eq_nil_iff.mp h with nothing | nothing
        · omega
        · exact nothing
  | pieces rest =>
    cases rest with
    | nil => rfl
    | cons piece rest =>
      have empty : piece = [] := h
      subst empty
      simp [served]

theorem served_of_serve_cons {count : Int} {supply : Supply} (h : (supply.serve count).1 ≠ []) :
    supply.served count = (supply.serve count).1 ++ (supply.serve count).2.served count := by
  cases supply with
  | bytes rest =>
    simp only [serve] at h ⊢
    split at h
    next negative =>
      have nonzero : count ≠ 0 := by omega
      rw [if_pos negative]
      simp [served, nonzero]
    next positive =>
      have nonzero : count ≠ 0 := by
        intro zero
        simp [zero] at h
      rw [if_neg positive]
      simp [served, nonzero]
  | pieces rest =>
    cases rest with
    | nil => exact absurd rfl h
    | cons piece rest =>
      have filled : piece ≠ [] := h
      simp [served, serve, filled]

end Stream.Supply

/-! ## Sources -/

namespace Source

/-- The characters not yet taken from the stream's chunks. -/
def unread (s : Source) : List Nat :=
  (s.chunk ++ if s.exhausted then [] else s.input.supply.served s.chunkSize).map
    fun byte => effective byte.toNat

/-- A source that meets no fault is going to hand out `text`, the end of a script
of `total` characters. -/
structure Reads (s : Source) (total : Nat) (text : List Nat) : Prop where
  quiet : s.input.failingRead = 0
  ended : s.lookahead = some none → s.unread = []
  settled : ∀ c ∈ s.lookahead.join, effective c = c
  text_eq : s.lookahead.join.toList ++ s.unread = text
  position_eq : s.position + s.unread.length = total

theorem unread_of_chunk {s : Source} {byte : UInt8} {rest : Bytes} (h : s.chunk = byte :: rest) :
    s.unread = effective byte.toNat :: ({ s with chunk := rest } : Source).unread := by
  simp [unread, h]

/-- Taking a byte takes the first unread character. -/
theorem pull_quiet {s : Source} (quiet : s.input.failingRead = 0) :
    ∃ byte s', s.pull = .ok byte s' ∧
      byte.map (fun b => effective b.toNat) = s.unread.head? ∧ s'.unread = s.unread.tail ∧
      s'.lookahead = s.lookahead ∧ s'.input.failingRead = 0 ∧
      s'.position + s'.unread.length = s.position + s.unread.length := by
  unfold pull
  split
  next byte rest hc =>
    refine ⟨some byte, _, rfl, ?_, ?_, rfl, quiet, ?_⟩
    · rw [unread_of_chunk hc]; rfl
    · rw [unread_of_chunk hc]; rfl
    · rw [unread_of_chunk hc]
      simp only [unread, List.length_cons]
      omega
  next hc =>
    split
    next dry =>
      have : s.unread = [] := by simp [unread, hc, dry]
      exact ⟨none, s, rfl, by rw [this]; rfl, by rw [this]; rfl, rfl, quiet, rfl⟩
    next live =>
      have all : s.unread =
          (s.input.supply.served s.chunkSize).map fun byte => effective byte.toNat := by
        simp [unread, hc, live]
      have fine : s.input.reads + 1 ≠ s.input.failingRead := by omega
      have read : s.input.read s.chunkSize = .ok (s.input.supply.serve s.chunkSize).1
          { s.input with
            reads := s.input.reads + 1, supply := (s.input.supply.serve s.chunkSize).2 } := by
        simp [Stream.Input.read, fine]
      rw [read]
      cases piece : (s.input.supply.serve s.chunkSize).1 with
      | nil =>
        rw [Stream.Supply.served_of_serve_nil piece] at all
        refine ⟨none, _, rfl, by rw [all]; rfl, ?_, rfl, quiet, ?_⟩
        · rw [all]; simp [unread, hc]
        · rw [all]; simp [unread, hc]
      | cons byte rest =>
        have filled : (s.input.supply.serve s.chunkSize).1 ≠ [] := by rw [piece]; simp
        rw [Stream.Supply.served_of_serve_cons filled, piece] at all
        refine ⟨_, _, rfl, by rw [all]; rfl, ?_, rfl, quiet, ?_⟩
        · rw [all]; simp [unread, live]
        · rw [all]
          simp only [unread, live, Bool.false_eq_true, if_false, List.cons_append, List.map_cons,
            List.length_cons, List.map_append]
          omega

namespace Reads

variable {s : Source} {total : Nat} {text : List Nat}

theorem fetch (h : s.Reads total text) :
    ∃ s', s.fetch = .ok text.head? s' ∧ s'.Reads total text.tail := by
  obtain ⟨quiet, ended, settled, rfl, position⟩ := h
  unfold Source.fetch
  cases held : s.lookahead with
  | some c =>
    refine ⟨{ s with lookahead := none }, ?_, quiet, nofun, nofun, ?_, position⟩
    · cases c with
      | none => rw [ended held]; rfl
      | some c =>
        dsimp only
        rw [Option.map_some, settled c (by rw [held]; rfl)]
        rfl
    · cases c with
      | none =>
        show s.unread = s.unread.tail
        rw [ended held]; rfl
      | some c => rfl
  | none =>
    obtain ⟨byte, s', pulled, head, tail, look, quiet', same⟩ := pull_quiet quiet
    refine ⟨s', ?_, quiet', fun absurd => ?_, ?_, ?_, same.trans position⟩
    · rw [pulled]
      dsimp only
      rw [head]
      rfl
    · rw [look, held] at absurd
      cases absurd
    · rw [look, held]
      nofun
    · rw [look, held, tail]
      rfl

/-- All that is handed out is effective. -/
theorem effective_of_mem (h : s.Reads total text) : ∀ c ∈ text, effective c = c := by
  rw [← h.text_eq]
  intro c member
  rcases List.mem_append.mp member with held | unread
  · exact h.settled c (Option.mem_toList.mp held)
  · obtain ⟨byte, _, rfl⟩ := List.mem_map.mp unread
    exact effective_effective byte.toNat

theorem peek (h : s.Reads total text) :
    ∃ s', s.peek = .ok text.head? s' ∧ s'.Reads total text := by
  unfold Source.peek
  cases held : s.lookahead with
  | some c =>
    refine ⟨s, ?_, h⟩
    rw [← h.text_eq, held]
    cases c with
    | none => rw [h.ended held]; rfl
    | some c => rfl
  | none =>
    obtain ⟨s', fetched, reads⟩ := h.fetch
    have clear : s'.lookahead = none := by
      obtain ⟨byte, s₁, pulled, _, _, look, _⟩ := pull_quiet h.quiet
      unfold Source.fetch at fetched
      rw [held, pulled] at fetched
      injection fetched with _ same
      rw [← same, look, held]
    have rest : s'.unread = text.tail := by
      have := reads.text_eq
      rw [clear] at this
      exact this
    refine ⟨{ s' with lookahead := some text.head? }, ?_, reads.quiet, fun atEnd => ?_,
      fun c first => h.effective_of_mem c (List.mem_of_mem_head? first), ?_, reads.position_eq⟩
    · rw [fetched]
    · have atEnd : text.head? = none := by injection atEnd
      show s'.unread = []
      rw [rest, List.head?_eq_none_iff.mp atEnd]
      rfl
    · show text.head?.toList ++ s'.unread = text
      rw [rest]
      cases text <;> rfl

end Reads

/-- A source that has not been read from hands out its whole supply. -/
theorem reads_fresh (input : Stream.Input) (chunkSize : Int) (quiet : input.failingRead = 0) :
    ({ input, chunkSize } : Source).Reads (input.supply.served chunkSize).length
      ((input.supply.served chunkSize).map fun byte => effective byte.toNat) :=
  ⟨quiet, nofun, nofun, by simp [unread], by simp [unread]⟩

end Source

/-! ## Sinks -/

theorem Stream.Output.write_quiet {output : Stream.Output} (quiet : output.failingWrites = [])
    (roomy : output.room = none) (bytes : Array UInt8) :
    output.write bytes = .ok ()
      { output with
        writes := output.writes.push bytes.size
        stored := output.stored ++ bytes } := by
  simp [write, quiet, fits, roomy]

namespace Sink

/-- The sink after a write of its whole buffer. -/
def stow (s : Sink) : Sink :=
  { s with
    output := { s.output with
      writes := s.output.writes.push s.buffer.size
      stored := s.output.stored ++ s.buffer }
    buffer := #[] }

theorem flush_quiet {s : Sink} (quiet : s.output.failingWrites = [])
    (roomy : s.output.room = none) (filled : ¬ s.buffer.isEmpty) : s.flush = .ok () s.stow := by
  rw [flush, if_neg filled, Stream.Output.write_quiet quiet roomy]
  rfl

/-- A sink that meets no fault has accepted `bytes`. -/
structure Holds (s : Sink) (bytes : Bytes) : Prop where
  quiet : s.output.failingWrites = []
  roomy : s.output.room = none
  accepted : s.output.stored.toList ++ s.buffer.toList = bytes
  written_eq : s.written = bytes.length

namespace Holds

variable {s : Sink} {bytes : Bytes}

theorem flush (h : s.Holds bytes) :
    ∃ s', s.flush = .ok () s' ∧ s'.Holds bytes ∧ s'.output.stored.toList = bytes := by
  obtain ⟨quiet, roomy, accepted, written⟩ := h
  by_cases empty : s.buffer.isEmpty
  · have nothing : s.buffer.toList = [] := by simpa using empty
    refine ⟨s, by rw [Sink.flush, if_pos empty], ⟨quiet, roomy, accepted, written⟩, ?_⟩
    rw [← accepted, nothing, List.append_nil]
  · refine ⟨s.stow, flush_quiet quiet roomy empty, ⟨quiet, roomy, ?_, written⟩, ?_⟩
    · show (s.output.stored ++ s.buffer).toList ++ [] = bytes
      rw [List.append_nil, Array.toList_append, accepted]
    · show (s.output.stored ++ s.buffer).toList = bytes
      rw [Array.toList_append, accepted]

theorem push (h : s.Holds bytes) (byte : UInt8) : (s.push byte).Holds (bytes ++ [byte]) := by
  refine ⟨h.quiet, h.roomy, ?_, ?_⟩
  · show s.output.stored.toList ++ (s.buffer.push byte).toList = bytes ++ [byte]
    rw [Array.toList_push, ← List.append_assoc, h.accepted]
  · show s.written + 1 = _
    rw [h.written_eq, List.length_append, List.length_singleton]

theorem put (h : s.Holds bytes) {c : Nat} (small : c < 256) :
    ∃ s', s.put (some c) = .ok () s' ∧ s'.Holds (bytes ++ [c.toUInt8]) := by
  unfold Sink.put
  dsimp only
  rw [if_pos small]
  split
  · obtain ⟨s', flushed, holds, _⟩ := (h.push c.toUInt8).flush
    exact ⟨s', flushed, holds⟩
  · exact ⟨_, rfl, h.push c.toUInt8⟩

end Holds
end Sink
end ScriptPress
