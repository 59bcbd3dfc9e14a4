/-
Runs on streams that fail.

A run whose streams may fail follows the run on the same streams without faults,
up to the first call that fails.  There it stops, and the other run goes on; but
the bytes it has accepted by then are a beginning of those the other accepts, and
the last flush stores all or none of what it still buffers.  How to tell from an
output that a write has failed is left open (`Sink.Watch`).  On an output with
unlimited room a write that fails is recognised by its number, so that the streams
left behind show whether one did.
-/
import ScriptPress.Proofs.Chunks

namespace ScriptPress

namespace Stream

/-- The input without its failing read. -/
def Input.quiet (input : Input) : Input := { input with failingRead := 0 }

/-- The output without its failing writes. -/
def Output.quiet (output : Output) : Output := { output with failingWrites := [] }

/-- A read that was made has failed. -/
def Input.Failed (input : Input) : Prop :=
  1 ≤ input.failingRead ∧ input.failingRead ≤ input.reads

instance (input : Input) : Decidable input.Failed :=
  inferInstanceAs (Decidable (1 ≤ input.failingRead ∧ input.failingRead ≤ input.reads))

/-- A write that was made has failed. -/
def Output.Failed (output : Output) : Prop :=
  ∃ number ∈ output.failingWrites, 1 ≤ number ∧ number ≤ output.writes.size

/-- There is unlimited room, and no write has failed. -/
structure Output.Clear (output : Output) : Prop where
  unfailed : ¬ output.Failed
  roomy : output.room = none

/-- The last read has failed, and none before. -/
def Input.FailedLast (input : Input) : Prop :=
  1 ≤ input.failingRead ∧ input.failingRead = input.reads

/-- The last write has failed, and none before. -/
def Output.FailedLast (output : Output) : Prop :=
  1 ≤ output.writes.size ∧ output.writes.size ∈ output.failingWrites ∧
    ∀ number ∈ output.failingWrites, 1 ≤ number → output.writes.size ≤ number

theorem Input.FailedLast.failed {input : Input} (h : input.FailedLast) : input.Failed :=
  ⟨h.1, Nat.le_of_eq h.2⟩

theorem Output.FailedLast.failed {output : Output} (h : output.FailedLast) : output.Failed :=
  ⟨output.writes.size, h.2.1, h.1, Nat.le_refl _⟩

theorem Input.read_follows {input : Input} (clear : ¬ input.Failed) (count : Int) :
    (∃ piece input', input.read count = .ok piece input' ∧
        input.quiet.read count = .ok piece input'.quiet ∧ ¬ input'.Failed) ∨
      ∃ input', input.read count = .error .read input' ∧ input'.FailedLast := by
  unfold Failed at clear
  by_cases failing : input.reads + 1 = input.failingRead
  · right
    refine ⟨{ input with reads := input.reads + 1 }, ?_, ?_, ?_⟩
    · simp [read, failing]
    · show 1 ≤ input.failingRead
      omega
    · exact failing.symm
  · left
    refine ⟨(input.supply.serve count).1,
      { input with reads := input.reads + 1, supply := (input.supply.serve count).2 }, ?_, ?_, ?_⟩
    · simp [read, failing]
    · simp [read, quiet]
    · show ¬ (1 ≤ input.failingRead ∧ input.failingRead ≤ input.reads + 1)
      omega

end Stream

/-! ## Sources -/

namespace Source

def quiet (s : Source) : Source := { s with input := s.input.quiet }

/-- A call on a source does the same without faults, unless it makes a read that
fails. -/
def Tracks {α : Type} (call : Source → Outcome Source α) : Prop :=
  ∀ s, ¬ s.input.Failed →
    (∃ a s', call s = .ok a s' ∧ call s.quiet = .ok a s'.quiet ∧ ¬ s'.input.Failed) ∨
      ∃ s', call s = .error (.device .read) s' ∧ s'.input.FailedLast

theorem tracks_pull : Tracks pull := by
  intro s clear
  unfold pull
  cases chunk : s.chunk with
  | cons byte rest =>
    left
    refine ⟨_, _, rfl, ?_, clear⟩
    simp [quiet, chunk]
  | nil =>
    by_cases dry : s.exhausted
    · left
      exact ⟨none, s, by simp [dry], by simp [quiet, chunk, dry], clear⟩
    · rcases s.input.read_follows clear s.chunkSize with
        ⟨piece, input, read, quietRead, clear'⟩ | ⟨input, read, failed⟩
      · left
        cases piece with
        | nil =>
          refine ⟨none, { s with input, exhausted := true }, ?_, ?_, clear'⟩
          · simp [chunk, dry, read]
          · simp [quiet, chunk, dry, quietRead]
        | cons byte rest =>
          refine ⟨some byte, { s with input, chunk := rest, position := s.position + 1 },
            ?_, ?_, clear'⟩
          · simp [dry, read]
          · simp [quiet, chunk, dry, quietRead]
      · right
        exact ⟨{ s with input }, by simp [chunk, dry, read], failed⟩

theorem tracks_fetch : Tracks fetch := by
  intro s clear
  unfold fetch
  cases held : s.lookahead with
  | some c =>
    left
    exact ⟨c.map Code.effective, { s with lookahead := none }, rfl, by simp [quiet, held], clear⟩
  | none =>
    have quietHeld : s.quiet.lookahead = none := held
    rcases tracks_pull s clear with ⟨byte, s', pulled, quietPulled, clear'⟩ | ⟨s', pulled, failed⟩
    · left
      exact ⟨_, s', by rw [pulled], by rw [quietHeld, quietPulled], clear'⟩
    · right
      exact ⟨s', by rw [pulled], failed⟩

theorem tracks_peek : Tracks peek := by
  intro s clear
  unfold peek
  cases held : s.lookahead with
  | some c =>
    left
    exact ⟨c, s, rfl, by simp [quiet, held], clear⟩
  | none =>
    have quietHeld : s.quiet.lookahead = none := held
    rcases tracks_fetch s clear with ⟨c, s', fetched, quietFetched, clear'⟩ | ⟨s', fetched, failed⟩
    · left
      exact ⟨c, { s' with lookahead := some c }, by rw [fetched],
        by rw [quietHeld, quietFetched]; rfl, clear'⟩
    · right
      exact ⟨s', by rw [fetched], failed⟩

end Source

/-! ## Sinks -/

namespace Sink

/-- The sink with another output. -/
def mapOutput (change : Stream.Output → Stream.Output) (s : Sink) : Sink :=
  { s with output := change s.output }

/-- The bytes accepted so far, stored or not. -/
def accepted (s : Sink) : Bytes := s.output.stored.toList ++ s.buffer.toList

/-- The sink after a write of its buffer that failed. -/
def retain (s : Sink) : Sink :=
  { s with output := { s.output with writes := s.output.writes.push s.buffer.size } }

/-- What a flush can do. -/
inductive Flushes (s : Sink) : Outcome Sink Unit → Prop
  | idle (empty : s.buffer.isEmpty) : Flushes s (.ok () s)
  | stored (filled : ¬ s.buffer.isEmpty)
      (sound : s.output.writes.size + 1 ∉ s.output.failingWrites) : Flushes s (.ok () s.stow)
  | failed (filled : ¬ s.buffer.isEmpty)
      (failing : s.output.writes.size + 1 ∈ s.output.failingWrites) :
      Flushes s (.error (.device .write) s.retain)
  | full (narrow : s.output.room ≠ none) (filled : ¬ s.buffer.isEmpty) :
      Flushes s (.error (.device .noSpace) s.retain)

theorem flushes (s : Sink) : Flushes s s.flush := by
  by_cases empty : s.buffer.isEmpty
  · rw [flush, if_pos empty]
    exact .idle empty
  · rw [flush, if_neg empty]
    unfold Stream.Output.write
    simp only [Array.size_push, List.contains_iff_mem]
    by_cases failing : s.output.writes.size + 1 ∈ s.output.failingWrites
    · rw [if_pos failing]
      exact .failed empty failing
    · rw [if_neg failing]
      -- the number of writes tried does not matter for whether the bytes fit
      have room_eq : Stream.Output.fits
          { s.output with writes := s.output.writes.push s.buffer.size } s.buffer.size =
          s.output.fits s.buffer.size := rfl
      rw [room_eq]
      by_cases fits : s.output.fits s.buffer.size
      · rw [if_pos fits]
        exact .stored empty failing
      · rw [if_neg fits]
        refine .full (fun roomy => fits ?_) empty
        simp [Stream.Output.fits, roomy]

/-- A flush loses nothing, whether or not it fails. -/
theorem accepted_flush (s : Sink) : (Outcome.state s.flush).accepted = s.accepted := by
  have flushes := s.flushes
  generalize s.flush = flushed at flushes
  cases flushes with
  | idle => rfl
  | stored => simp [Outcome.state, accepted, stow]
  | failed => rfl
  | full => rfl

theorem room_flush (s : Sink) : (Outcome.state s.flush).output.room = s.output.room := by
  have flushes := s.flushes
  generalize s.flush = flushed at flushes
  cases flushes <;> rfl

/-- A write that has failed stays failed. -/
theorem failed_flush {s : Sink} (h : s.output.Failed) :
    (Outcome.state s.flush).output.Failed := by
  obtain ⟨number, listed, counts, made⟩ := h
  have flushes := s.flushes
  generalize s.flush = flushed at flushes
  have more : number ≤ (s.output.writes.push s.buffer.size).size := by
    rw [Array.size_push]
    omega
  cases flushes with
  | idle => exact ⟨number, listed, counts, made⟩
  | stored => exact ⟨number, listed, counts, more⟩
  | failed => exact ⟨number, listed, counts, more⟩
  | full => exact ⟨number, listed, counts, more⟩

/-- A character that is put is refused, buffered, or flushed with the buffer. -/
theorem state_put (s : Sink) (c : Symbol) :
    Outcome.state (s.put c) = s ∨ ∃ byte, Outcome.state (s.put c) = s.push byte ∨
      Outcome.state (s.put c) = Outcome.state (s.push byte).flush := by
  unfold put
  split
  · exact .inl rfl
  next code =>
    split
    · dsimp only
      split
      · exact .inr ⟨code.toUInt8, .inr rfl⟩
      · exact .inr ⟨code.toUInt8, .inl rfl⟩
    · exact .inl rfl

theorem accepted_put (s : Sink) (c : Symbol) :
    s.accepted <+: (Outcome.state (s.put c)).accepted := by
  have pushed (byte : UInt8) : s.accepted <+: (s.push byte).accepted :=
    ⟨[byte], by simp [accepted, push]⟩
  rcases s.state_put c with same | ⟨byte, same | same⟩
  · exact ⟨[], by rw [List.append_nil, same]⟩
  · rw [same]
    exact pushed byte
  · rw [same, accepted_flush]
    exact pushed byte

theorem room_put (s : Sink) (c : Symbol) :
    (Outcome.state (s.put c)).output.room = s.output.room := by
  rcases s.state_put c with same | ⟨byte, same | same⟩
  · exact congrArg (fun s => s.output.room) same
  · exact congrArg (fun s => s.output.room) same
  · exact (congrArg (fun s => s.output.room) same).trans (room_flush (s.push byte))

theorem stored_flush (s : Sink) : (Outcome.state s.flush).output.stored.toList <+: s.accepted :=
  accepted_flush s ▸ List.prefix_append _ _

/-- A flush of a sink that is clear stores the buffer, or its write fails, and no
other has. -/
theorem flush_follows {s : Sink} (h : s.output.Clear) :
    (∃ s', s.flush = .ok () s' ∧
        (s.mapOutput .quiet).flush = .ok () (s'.mapOutput .quiet) ∧ s'.output.Clear) ∨
      ∃ s', s.flush = .error (.device .write) s' ∧ s'.output.FailedLast := by
  obtain ⟨unfailed, roomy⟩ := h
  have early (number) (listed : number ∈ s.output.failingWrites) (counts : 1 ≤ number) :
      s.output.writes.size < number :=
    Nat.lt_of_not_le fun made => unfailed ⟨number, listed, counts, made⟩
  have flushes := s.flushes
  generalize s.flush = flushed at flushes
  cases flushes with
  | idle empty =>
    left
    have quietEmpty : (s.mapOutput .quiet).buffer.isEmpty := empty
    exact ⟨s, rfl, by rw [flush, if_pos quietEmpty], unfailed, roomy⟩
  | stored filled sound =>
    left
    refine ⟨s.stow, rfl, flush_quiet rfl roomy filled, ?_, roomy⟩
    rintro ⟨number, listed, counts, made⟩
    have made : number ≤ s.output.writes.size + 1 := by simpa [stow] using made
    have := early number listed counts
    obtain rfl : number = s.output.writes.size + 1 := by omega
    exact sound listed
  | failed filled failing =>
    right
    refine ⟨s.retain, rfl, ?_, ?_, ?_⟩
    · simp [retain]
    · simpa [retain] using failing
    · intro number listed counts
      rw [retain, Array.size_push]
      exact early number listed counts
  | full narrow => exact absurd roomy narrow

theorem Chunked.holds {s : Sink} (h : s.Chunked) : s.Holds s.accepted :=
  ⟨h.quiet, h.roomy, rfl, by simp [Sink.accepted, ← h.accepted]⟩

theorem halt?_flush {s : Sink} (roomy : s.output.room = none) {e : Halt}
    (h : Outcome.halt? s.flush = some e) : e = .device .write := by
  have flushes := s.flushes
  generalize s.flush = flushed at flushes h
  cases flushes with
  | idle => cases h
  | stored => cases h
  | failed => exact (Option.some.inj h).symm
  | full narrow => exact absurd roomy narrow

end Sink

/-! ## Watching for failures -/

/-- A way to tell whether writes on an output have failed, and what the output is
without its faults. -/
structure Sink.Watch where
  quiet : Stream.Output → Stream.Output
  /-- No write has failed. -/
  Clear : Stream.Output → Prop
  Failed : Stream.Output → Prop
  /-- A write has just failed, in this way, and none before. -/
  FailedLast : Stream.Output → Stream.Fault → Prop
  stored_quiet (output : Stream.Output) : (quiet output).stored = output.stored
  unfailed {output : Stream.Output} : Clear output → ¬ Failed output
  failed {output : Stream.Output} {f : Stream.Fault} : FailedLast output f → Failed output
  failed_flush {s : Sink} : Failed s.output → Failed (Outcome.state s.flush).output
  flush_follows {s : Sink} : Clear s.output →
    (∃ s', s.flush = .ok () s' ∧ (s.mapOutput quiet).flush = .ok () (s'.mapOutput quiet) ∧
        Clear s'.output) ∨
      ∃ f s', s.flush = .error (.device f) s' ∧ FailedLast s'.output f

/-- Writes that fail by their number. -/
def Sink.numbered : Watch where
  quiet := Stream.Output.quiet
  Clear := Stream.Output.Clear
  Failed := Stream.Output.Failed
  FailedLast output f := f = .write ∧ output.FailedLast
  stored_quiet _ := rfl
  unfailed clear := clear.unfailed
  failed last := last.2.failed
  failed_flush := failed_flush
  flush_follows clear := by
    rcases flush_follows clear with flushed | ⟨s', flushed, failed⟩
    · exact .inl flushed
    · exact .inr ⟨.write, s', flushed, rfl, failed⟩

namespace Sink.Watch

variable (w : Watch)

/-- The transfer without faults. -/
def still (t : Transfer) : Transfer := ⟨t.source.quiet, t.sink.mapOutput w.quiet⟩

/-- A call that was made has failed. -/
def Failing (t : Transfer) : Prop := t.source.input.Failed ∨ w.Failed t.sink.output

structure Calm (t : Transfer) : Prop where
  source : ¬ t.source.input.Failed
  sink : w.Clear t.sink.output

/-- One call has failed, and it was the last of its kind. -/
inductive Meets (t : Transfer) : Stream.Fault → Prop
  | read (last : t.source.input.FailedLast) (only : ¬ w.Failed t.sink.output) : Meets t .read
  | write {f : Stream.Fault} (last : w.FailedLast t.sink.output f)
      (only : ¬ t.source.input.Failed) : Meets t f

/-- An outcome is that of a run without faults, or the run was stopped by the first
call that failed. -/
inductive Follows {α : Type} : Outcome Transfer α → Outcome Transfer α → Prop
  | value (a : α) {t : Transfer} (calm : w.Calm t) : Follows (.ok a t) (.ok a (w.still t))
  | halt (e : Halt) {t : Transfer} (calm : w.Calm t) : Follows (.error e t) (.error e (w.still t))
  | fault {f : Stream.Fault} {t : Transfer} {sound : Outcome Transfer α} (met : w.Meets t f)
      (grows : t.sink.accepted <+: (Outcome.state sound).sink.accepted) :
      Follows (.error (.device f) t) sound

variable {w}

theorem Calm.not_failing {t : Transfer} (h : w.Calm t) : ¬ w.Failing t := fun failing =>
  failing.elim h.source (w.unfailed h.sink)

theorem Meets.failing {t : Transfer} {f : Stream.Fault} (h : w.Meets t f) : w.Failing t := by
  cases h with
  | read last => exact .inl last.failed
  | write last => exact .inr (w.failed last)

theorem accepted_mapOutput (s : Sink) : (s.mapOutput w.quiet).accepted = s.accepted :=
  congrArg (fun stored => stored.toList ++ s.buffer.toList) (w.stored_quiet s.output)

/-- Without faults, putting a character does the same, unless it makes a write that
fails; and then all the bytes accepted so far are accepted without faults, too. -/
theorem sink_put_follows {s : Sink} (clear : w.Clear s.output) (c : Symbol) :
    (∃ s', s.put c = .ok () s' ∧
        (s.mapOutput w.quiet).put c = .ok () (s'.mapOutput w.quiet) ∧ w.Clear s'.output) ∨
      (s.put c = .error .notByte s ∧
        (s.mapOutput w.quiet).put c = .error .notByte (s.mapOutput w.quiet)) ∨
      ∃ f s', s.put c = .error (.device f) s' ∧ w.FailedLast s'.output f ∧
        s'.accepted <+: (Outcome.state ((s.mapOutput w.quiet).put c)).accepted := by
  cases c with
  | none => exact .inr (.inl ⟨rfl, rfl⟩)
  | some code =>
    by_cases small : code < 256
    · have pushed : w.Clear (s.push code.toUInt8).output := clear
      by_cases full : (s.push code.toUInt8).chunkSize ≤ (s.push code.toUInt8).buffer.size
      · have puts : s.put (some code) = (s.push code.toUInt8).flush := by
          simp only [put, if_pos small, if_pos full]
        have quietPuts : (s.mapOutput w.quiet).put (some code) =
            ((s.push code.toUInt8).mapOutput w.quiet).flush := by
          simp only [put, if_pos small]
          exact if_pos full
        rw [puts, quietPuts]
        rcases w.flush_follows pushed with flushed | ⟨f, s', flushed, failed⟩
        · exact .inl flushed
        · refine .inr (.inr ⟨f, s', flushed, failed, ?_⟩)
          have kept := accepted_flush (s.push code.toUInt8)
          rw [flushed] at kept
          rw [accepted_flush, accepted_mapOutput]
          exact kept ▸ List.prefix_rfl
      · left
        refine ⟨s.push code.toUInt8, ?_, ?_, pushed⟩
        · simp only [put, if_pos small, if_neg full]
        · simp only [put, if_pos small]
          exact if_neg full
    · right; left
      constructor
      · simp only [put, if_neg small]
      · simp only [put, if_neg small]

/-! ## Dialogues -/

open Transfer

theorem reading_follows {α : Type} {call : Source → Outcome Source α} (tracks : Source.Tracks call)
    {t : Transfer} (calm : w.Calm t) : w.Follows (reading call t) (reading call (w.still t)) := by
  rcases tracks t.source calm.source with
    ⟨a, s, called, quietCalled, clear'⟩ | ⟨s, called, failed⟩
  · have left : reading call t = .ok a ⟨s, t.sink⟩ := by simp [reading, called]
    have right : reading call (w.still t) = .ok a (w.still ⟨s, t.sink⟩) := by
      simp [reading, still, quietCalled]
    rw [left, right]
    exact .value a ⟨clear', calm.sink⟩
  · have left : reading call t = .error (.device .read) ⟨s, t.sink⟩ := by simp [reading, called]
    rw [left]
    refine .fault (.read failed (w.unfailed calm.sink)) ?_
    rw [state_reading]
    exact accepted_mapOutput t.sink ▸ List.prefix_rfl

theorem put_follows (c : Symbol) {t : Transfer} (calm : w.Calm t) :
    w.Follows (Transfer.put c t) (Transfer.put c (w.still t)) := by
  rcases sink_put_follows calm.sink c with
    ⟨s, called, quietCalled, clear'⟩ | ⟨called, quietCalled⟩ | ⟨f, s, called, failed, grows⟩
  · have left : Transfer.put c t = .ok () ⟨t.source, s⟩ := by simp [Transfer.put, writing, called]
    have right : Transfer.put c (w.still t) = .ok () (w.still ⟨t.source, s⟩) := by
      simp [Transfer.put, writing, still, quietCalled]
    rw [left, right]
    exact .value () ⟨calm.source, clear'⟩
  · have left : Transfer.put c t = .error .notByte t := by simp [Transfer.put, writing, called]
    have right : Transfer.put c (w.still t) = .error .notByte (w.still t) := by
      simp [Transfer.put, writing, still, quietCalled]
    rw [left, right]
    exact .halt .notByte calm
  · have left : Transfer.put c t = .error (.device f) ⟨t.source, s⟩ := by
      simp [Transfer.put, writing, called]
    rw [left]
    refine .fault (.write failed calm.source) ?_
    rw [Transfer.put, state_writing]
    exact grows

theorem call_follows {β : Type} (call : Call β) {t : Transfer} (calm : w.Calm t) :
    w.Follows (call.run t) (call.run (w.still t)) := by
  cases call with
  | fetch => exact reading_follows Source.tracks_fetch calm
  | peek => exact reading_follows Source.tracks_peek calm
  | put c => exact put_follows c calm
  | blank => exact .value _ calm

end Sink.Watch

namespace Transfer

open Sink (Watch)

/-- A call that was made has failed. -/
def Failed (t : Transfer) : Prop := t.source.input.Failed ∨ t.sink.output.Failed

/-- One call has failed, and it was the last of its kind. -/
inductive Meets (t : Transfer) : Stream.Fault → Prop
  | read (last : t.source.input.FailedLast) (only : ¬ t.sink.output.Failed) : Meets t .read
  | write (last : t.sink.output.FailedLast) (only : ¬ t.source.input.Failed) : Meets t .write

/-- What a dialogue adds is accepted after all that was accepted before. -/
theorem Dialogue.accepts {α : Type} {x : Transfer → Outcome Transfer α} {t : Transfer}
    (h : Dialogue x t) : t.sink.accepted <+: (Outcome.state (x t)).sink.accepted := by
  let inv (s : Sink) : Prop := t.sink.accepted <+: s.accepted
  have kept (s : Sink) (c : Symbol) (before : inv s) : inv (Outcome.state (s.put c)) :=
    List.IsPrefix.trans before (s.accepted_put c)
  exact h.keeps_sink kept (List.prefix_rfl : inv t.sink)

/-- A dialogue with streams that may fail follows the dialogue without faults. -/
theorem Dialogue.follows {α : Type} {w : Watch} {x : Transfer → Outcome Transfer α} {t : Transfer}
    (h : Dialogue x (w.still t)) (calm : w.Calm t) : w.Follows (x t) (x (w.still t)) := by
  generalize sound : w.still t = s at h
  induction h generalizing t with
  | done a s =>
    subst sound
    exact .value a calm
  | unclosed what s =>
    subst sound
    exact .halt _ calm
  | @ask β call go s goes ih =>
    subst sound
    show w.Follows (Outcome.andThen (call.run t) go) (Outcome.andThen (call.run (w.still t)) go)
    have called := Watch.call_follows call calm
    generalize call.run t = left at called ⊢
    generalize quietAnswer : call.run (w.still t) = right at called ⊢
    cases called with
    | value b calm' => exact ih b _ quietAnswer calm' rfl
    | halt e calm' => exact .halt e calm'
    | fault met grows =>
      refine .fault met ?_
      cases right with
      | error e s => exact grows
      | ok b s =>
        -- the run without faults goes on, and only adds to what it has accepted
        exact List.IsPrefix.trans grows (goes b s quietAnswer).accepts

end Transfer

/-! ## The last flush -/

namespace Sink.Watch

open Transfer

variable {w : Watch} {α : Type} {faulty sound : Outcome Transfer α}

theorem Failing.flush {t : Transfer} (h : w.Failing t) : w.Failing (Outcome.state t.flush) := by
  rw [Transfer.flush, state_writing]
  exact h.imp id w.failed_flush

theorem Follows.accepted (h : w.Follows faulty sound) :
    (Outcome.state faulty).sink.accepted <+: (Outcome.state sound).sink.accepted := by
  cases h with
  | value a calm => exact accepted_mapOutput _ ▸ List.prefix_rfl
  | halt e calm => exact accepted_mapOutput _ ▸ List.prefix_rfl
  | fault met grows => exact grows

/-- The error of a run before its last flush, if writes fail by their number. -/
theorem Follows.halt?_eq (h : numbered.Follows faulty sound) :
    (∃ f, (Outcome.state faulty).Meets f ∧ Outcome.halt? faulty = some (.device f)) ∨
      ¬ (Outcome.state faulty).Failed ∧ Outcome.halt? faulty = Outcome.halt? sound := by
  cases h with
  | value a calm => exact .inr ⟨calm.not_failing, rfl⟩
  | halt e calm => exact .inr ⟨calm.not_failing, rfl⟩
  | fault met grows =>
    refine .inl ⟨_, ?_, rfl⟩
    cases met with
    | read last only => exact .read last only
    | write last only =>
      obtain ⟨rfl, last⟩ := last
      exact .write last only

theorem transfer_flush_follows {t : Transfer} (calm : w.Calm t) :
    (∃ t', t.flush = .ok () t' ∧ (w.still t).flush = .ok () (w.still t') ∧ ¬ w.Failing t') ∨
      ∃ f t', t.flush = .error (.device f) t' ∧ w.Failing t' := by
  rcases w.flush_follows calm.sink with ⟨s, flushed, quietFlushed, clear'⟩ | ⟨f, s, flushed, failed⟩
  · left
    refine ⟨⟨t.source, s⟩, ?_, ?_, Calm.not_failing ⟨calm.source, clear'⟩⟩
    · simp [Transfer.flush, writing, flushed]
    · simp [Transfer.flush, writing, still, quietFlushed]
  · right
    refine ⟨f, ⟨t.source, s⟩, ?_, .inr (w.failed failed)⟩
    simp [Transfer.flush, writing, flushed]

theorem flush_error {t t' : Transfer} {e : Halt} (h : t.flush = .error e t') :
    ∃ f, e = .device f := by
  have halted : Outcome.halt? t.sink.flush = some e := by
    rw [← halt?_writing Sink.flush t]
    exact congrArg Outcome.halt? h
  have flushes := t.sink.flushes
  generalize t.sink.flush = flushed at flushes halted
  cases flushes with
  | idle => cases halted
  | stored => cases halted
  | failed => exact ⟨.write, (Option.some.inj halted).symm⟩
  | full => exact ⟨.noSpace, (Option.some.inj halted).symm⟩

/-- A run in which no call failed ends as the run without faults, and any other with
the fault of a stream. -/
theorem Follows.finish (h : w.Follows faulty sound) :
    (¬ w.Failing (Outcome.state (Transfer.finish faulty)) ∧
        Outcome.result (Transfer.finish faulty) = Outcome.result (Transfer.finish sound) ∧
        Outcome.state (Transfer.finish sound) = w.still (Outcome.state (Transfer.finish faulty))) ∨
      w.Failing (Outcome.state (Transfer.finish faulty)) ∧
        ∃ f, Outcome.result (Transfer.finish faulty) = .error (.device f) := by
  cases h with
  | value a calm =>
    rcases transfer_flush_follows calm with
      ⟨t', flushed, quietFlushed, unfailed⟩ | ⟨f, t', flushed, failed⟩
    · left
      simp only [Transfer.finish, flushed, quietFlushed, Outcome.andThen_ok]
      exact ⟨unfailed, rfl, rfl⟩
    · right
      simp only [Transfer.finish, flushed, Outcome.andThen_error]
      exact ⟨failed, f, rfl⟩
  | halt e calm =>
    rcases transfer_flush_follows calm with
      ⟨t', flushed, quietFlushed, unfailed⟩ | ⟨f, t', flushed, failed⟩
    · left
      simp only [Transfer.finish, flushed, quietFlushed, Outcome.andThen_ok]
      exact ⟨unfailed, rfl, rfl⟩
    · right
      simp only [Transfer.finish, flushed, Outcome.andThen_error]
      exact ⟨failed, f, rfl⟩
  | @fault f t sound met grows =>
    right
    refine ⟨state_finish _ ▸ met.failing.flush, ?_⟩
    simp only [Transfer.finish]
    cases flushed : t.flush with
    | ok _ t' => exact ⟨f, rfl⟩
    | error e t' =>
      obtain ⟨f', rfl⟩ := flush_error flushed
      exact ⟨f', rfl⟩

/-- A run ends with a tally exactly if it does without faults and no call it made
has failed. -/
theorem Follows.result_finish (h : w.Follows faulty sound) (tally : Tally) :
    Outcome.result (Transfer.finish faulty) = .ok tally ↔
      Outcome.result (Transfer.finish sound) = .ok tally ∧
        ¬ w.Failing (Outcome.state (Transfer.finish faulty)) := by
  rcases h.finish with ⟨unfailed, same, _⟩ | ⟨failed, f, faulted⟩
  · rw [same]
    exact ⟨fun ended => ⟨ended, unfailed⟩, And.left⟩
  · rw [faulted]
    constructor
    · intro ended
      cases ended
    · rintro ⟨_, unfailed⟩
      exact absurd failed unfailed

end Sink.Watch

/-! ## Whole runs -/

namespace Script

open Transfer

variable (supply : Stream.Supply) (failingRead : Nat) (failingWrites : List Nat)

theorem consumed_follows :
    Sink.numbered.Follows (consumed { supply, failingRead } { failingWrites })
      (consumed { supply } {}) := by
  have calm : Sink.numbered.Calm (.between { supply, failingRead } { failingWrites }) := by
    refine ⟨?_, ?_, rfl⟩
    · rintro ⟨counts, made⟩
      have counts : 1 ≤ failingRead := counts
      have made : failingRead ≤ 0 := made
      omega
    · rintro ⟨number, _, counts, made⟩
      have made : number ≤ 0 := made
      omega
  exact (Automaton.converses_consume {} _).follows calm

theorem room_consumed :
    (consumed { supply, failingRead } { failingWrites }).state.sink.output.room = none := by
  let inv (s : Sink) : Prop := s.output.room = none
  have kept (s : Sink) (c : Symbol) (roomy : inv s) : inv (Outcome.state (s.put c)) :=
    (s.room_put c).trans roomy
  have start : inv { output := { failingWrites } } := rfl
  exact (Automaton.converses_consume {} _).keeps_sink kept start

/-- Without faults the last flush stores all that was accepted. -/
theorem flush_consumed :
    ∃ t, (Outcome.state (consumed { supply } {})).flush = .ok () t ∧
      t.sink.output.stored.toList = (Outcome.state (consumed { supply } {})).sink.accepted := by
  obtain ⟨s, flushed, _, stored⟩ := (chunked_consumed { supply }).holds.flush
  refine ⟨⟨(Outcome.state (consumed { supply } {})).source, s⟩, ?_, stored⟩
  simp only [Transfer.flush, writing, flushed]

/-- What a run stores on streams that fail is a beginning of what it stores without
faults.  It ends with a tally exactly if it does without faults and no call it made
has failed.  It reports the error of the last flush, if that fails, and otherwise
the first error: the one call that has failed by then, or what is not closed in
the script. -/
theorem minifyStream_faults (supply : Stream.Supply) (failingRead : Nat)
    (failingWrites : List Nat) {faulty sound : Outcome Transfer Tally} {taken : Transfer}
    (faulty_eq : minifyStream { supply, failingRead } { failingWrites } = faulty)
    (sound_eq : minifyStream { supply } {} = sound)
    (taken_eq : (consumed { supply, failingRead } { failingWrites }).state = taken) :
    faulty.state.sink.output.stored.toList <+: sound.state.sink.output.stored.toList ∧
      (∀ tally, faulty.result = .ok tally ↔ sound.result = .ok tally ∧ ¬ faulty.state.Failed) ∧
      (∀ e, Outcome.halt? taken.flush = some e → e = .device .write ∧ faulty.halt? = some e) ∧
      (Outcome.halt? taken.flush = none →
        (∃ f, taken.Meets f ∧ faulty.halt? = some (.device f)) ∨
          ¬ taken.Failed ∧ faulty.halt? = sound.halt?) ∧
      ∀ e, sound.halt? = some e → ∃ what, e = .unterminated what (supply.served 65536).length := by
  have follows := consumed_follows supply failingRead failingWrites
  obtain ⟨t, flushed, stored⟩ := flush_consumed supply
  have soundHalt : sound.halt? = (consumed { supply } {}).halt? := by
    rw [← sound_eq, minifyStream_eq, halt?_finish, flushed]
    rfl
  have faultyHalt : faulty.halt? = (Outcome.halt? taken.flush).or
      (consumed { supply, failingRead } { failingWrites }).halt? := by
    rw [← faulty_eq, minifyStream_eq, halt?_finish, taken_eq]
  refine ⟨?_, ?_, ?_, ?_, ?_⟩
  · rw [← faulty_eq, ← sound_eq, minifyStream_eq, minifyStream_eq, state_finish, state_finish,
      flushed, Transfer.flush, state_writing]
    show _ <+: t.sink.output.stored.toList
    rw [stored]
    exact (Sink.stored_flush _).trans follows.accepted
  · rw [← faulty_eq, ← sound_eq, minifyStream_eq, minifyStream_eq]
    exact follows.result_finish
  · intro e failed
    refine ⟨?_, by rw [faultyHalt, failed]; rfl⟩
    have roomy := room_consumed supply failingRead failingWrites
    rw [taken_eq] at roomy
    exact Sink.halt?_flush roomy ((halt?_writing Sink.flush taken).symm.trans failed)
  · intro kept
    rw [faultyHalt, kept, soundHalt, ← taken_eq]
    exact follows.halt?_eq
  · intro e halted
    have ended := @result_minifyStream { supply } rfl
    rw [sound_eq] at ended
    rwa [Outcome.result_of_halt? halted] at ended

/-- The one write of a run on `a = b` is that of the last flush.  If it fails, this is
what is reported, and nothing is stored that the run without faults does not store. -/
theorem minifyStream_faults_flush :
    let faulty := minifyStream { supply := .bytes [97, 32, 61, 32, 98] } { failingWrites := [1] }
    let sound := minifyStream { supply := .bytes [97, 32, 61, 32, 98] } {}
    faulty.halt? = some (.device .write) ∧
      faulty.state.sink.output.stored.toList <+: sound.state.sink.output.stored.toList := by
  obtain ⟨stored, _, reported, _⟩ :=
    minifyStream_faults (.bytes [97, 32, 61, 32, 98]) 0 [1] rfl rfl rfl
  exact ⟨(reported (.device .write) (by decide +kernel)).2, stored⟩

end Script
end ScriptPress
