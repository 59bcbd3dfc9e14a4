/-
Runs on any output.

A write can fail by its number, and it can fail because a device has no room.
Either way it stores nothing of what it was tried with, so that an output whose
writes were tried with more bytes than it has stored is one on which a write has
failed.  A run on a new output, whatever its faults, therefore shows by the streams
it leaves behind which of three ways it ended (`Script.Ends`).
-/
import ScriptPress.Proofs.Faults

namespace ScriptPress

namespace Stream.Output

/-- The output without its faults. -/
def ideal (output : Output) : Output :=
  { output with failingWrites := [], failingClose := false, room := none }

/-- How many bytes writes were tried with. -/
def offered (output : Output) : Nat := output.writes.toList.foldl (· + ·) 0

/-- A write has failed: not all that was offered is stored. -/
def Refused (output : Output) : Prop := output.stored.size < output.offered

instance (output : Output) : Decidable output.Refused :=
  inferInstanceAs (Decidable (output.stored.size < output.offered))

theorem offered_push (output : Output) (count : Nat) :
    offered { output with writes := output.writes.push count } = output.offered + count := by
  simp [offered]

end Stream.Output

namespace Sink

theorem stored_stow (s : Sink) :
    s.stow.output.stored.size = s.output.stored.size + s.buffer.size :=
  Array.size_append

theorem offered_stow (s : Sink) : s.stow.output.offered = s.output.offered + s.buffer.size :=
  s.output.offered_push s.buffer.size

theorem offered_retain (s : Sink) : s.retain.output.offered = s.output.offered + s.buffer.size :=
  s.output.offered_push s.buffer.size

theorem refused_flush {s : Sink} (h : s.output.Refused) :
    (Outcome.state s.flush).output.Refused := by
  unfold Stream.Output.Refused at h
  have kept : s.retain.output.Refused := by
    show s.output.stored.size < s.retain.output.offered
    rw [offered_retain]
    omega
  have flushes := s.flushes
  generalize s.flush = flushed at flushes
  cases flushes with
  | idle => exact h
  | stored =>
    show s.stow.output.stored.size < s.stow.output.offered
    rw [stored_stow, offered_stow]
    omega
  | failed => exact kept
  | full => exact kept

/-- A flush stores what it offers, or shows afterwards. -/
theorem flush_balance {s : Sink} (balanced : s.output.stored.size = s.output.offered) :
    (∃ s', s.flush = .ok () s' ∧ (s.mapOutput .ideal).flush = .ok () (s'.mapOutput .ideal) ∧
        s'.output.stored.size = s'.output.offered) ∨
      ∃ f s', s.flush = .error (.device f) s' ∧ s'.output.Refused := by
  have refused (filled : ¬ s.buffer.isEmpty) : s.retain.output.Refused := by
    have some_bytes : s.buffer.size ≠ 0 := fun empty =>
      filled (Array.isEmpty_iff_size_eq_zero.mpr empty)
    show s.output.stored.size < s.retain.output.offered
    rw [offered_retain]
    omega
  have flushes := s.flushes
  generalize s.flush = flushed at flushes
  cases flushes with
  | idle empty =>
    left
    have idealEmpty : (s.mapOutput .ideal).buffer.isEmpty := empty
    exact ⟨s, rfl, by rw [flush, if_pos idealEmpty], balanced⟩
  | stored filled sound =>
    left
    refine ⟨s.stow, rfl, flush_quiet rfl rfl filled, ?_⟩
    rw [stored_stow, offered_stow, balanced]
  | failed filled => exact .inr ⟨.write, s.retain, rfl, refused filled⟩
  | full _ filled => exact .inr ⟨.noSpace, s.retain, rfl, refused filled⟩

/-- Writes that fail for any reason. -/
def balanced : Watch where
  quiet := Stream.Output.ideal
  Clear output := output.stored.size = output.offered
  Failed := Stream.Output.Refused
  FailedLast output _ := output.Refused
  stored_quiet _ := rfl
  unfailed clear refused := absurd clear (Nat.ne_of_lt refused)
  failed refused := refused
  failed_flush := refused_flush
  flush_follows := flush_balance

end Sink

namespace Transfer

/-- A read or a write that was made has failed. -/
def Broken (t : Transfer) : Prop := t.source.input.Failed ∨ t.sink.output.Refused

end Transfer

namespace Script

open Transfer

variable (supply : Stream.Supply) (failingRead : Nat) {output : Stream.Output}

theorem consumed_follows_ideal (fresh : output.ideal = {}) :
    Sink.balanced.Follows (consumed { supply, failingRead } output) (consumed { supply } {}) := by
  have nothing : output.stored = #[] := congrArg Stream.Output.stored fresh
  have untried : output.writes = #[] := congrArg Stream.Output.writes fresh
  have calm : Sink.balanced.Calm (.between { supply, failingRead } output) := by
    refine ⟨?_, ?_⟩
    · rintro ⟨counts, made⟩
      have counts : 1 ≤ failingRead := counts
      have made : failingRead ≤ 0 := made
      omega
    · show output.stored.size = output.offered
      rw [Stream.Output.offered, nothing, untried]
      rfl
  have still : Sink.balanced.still (.between { supply, failingRead } output) =
      .between { supply } {} := by
    show Transfer.mk { input := { supply } } { output := output.ideal } = _
    rw [fresh]
    rfl
  have follows := (Automaton.converses_consume {} _).follows calm
  rw [still] at follows
  exact follows

/-- What is stored on any output is a beginning of what is stored without faults. -/
theorem stored_prefix_ideal (fresh : output.ideal = {}) :
    (minifyStream { supply, failingRead } output).state.sink.output.stored.toList <+:
      (minifyStream { supply } {}).state.sink.output.stored.toList := by
  obtain ⟨t, flushed, stored⟩ := flush_consumed supply
  rw [minifyStream_eq, minifyStream_eq, state_finish, state_finish, flushed, Transfer.flush,
    state_writing]
  show _ <+: t.sink.output.stored.toList
  rw [stored]
  exact (Sink.stored_flush _).trans (consumed_follows_ideal supply failingRead fresh).accepted

/-- How a run on a script can end, when its streams may fail. -/
inductive Ends (script : Bytes) (r : Outcome Transfer Tally) : Prop
  | done {out : Bytes} (closed : (split {} (characters script)).2 = none)
      (minified : minify script = .ok out) (sound : ¬ r.state.Broken)
      (result_eq : r.result = .ok ⟨script.length, out.length⟩)
      (stored : r.state.sink.output.stored.toList = out)
  | unclosed {what : Construct} (unclosed : (split {} (characters script)).2 = some what)
      (sound : ¬ r.state.Broken) (result_eq : r.result = .error (.unterminated what script.length))
  | broken {fault : Stream.Fault} (broken : r.state.Broken)
      (result_eq : r.result = .error (.device fault))

/-- A run without faults is never broken. -/
theorem not_broken_ideal (script : Bytes) :
    ¬ (minifyStream { supply := .bytes script } {}).state.Broken := by
  rw [minifyStream_eq]
  have fresh : Stream.Output.ideal {} = {} := rfl
  rcases (consumed_follows_ideal (.bytes script) 0 fresh).finish with
    ⟨sound, _⟩ | ⟨_, f, faulted⟩
  · exact sound
  · have ended := @result_minifyStream { supply := .bytes script } rfl
    rw [minifyStream_eq, faulted] at ended
    obtain ⟨_, absurd⟩ := ended
    cases absurd

theorem ends_ideal (script : Bytes) : Ends script (minifyStream { supply := .bytes script } {}) := by
  have sound := not_broken_ideal script
  have whole := minify_eq_minifyStream script
  have ended := @result_minifyStream { supply := .bytes script } rfl
  rw [served_bytes] at ended
  generalize minifyStream { supply := .bytes script } {} = r at sound whole ended
  cases passed : split {} (characters script) with
  | mk items fault =>
  cases fault with
  | none =>
    rw [minify_of_closed passed] at whole
    cases result_eq : r.result with
    | ok tally =>
      rw [result_eq] at whole ended
      have stored : Plain.bytes (join {} items) = r.state.sink.output.stored.toList :=
        Except.ok.inj whole
      refine .done (by rw [passed]) (minify_of_closed passed) sound ?_ stored.symm
      rw [result_eq, ended, stored, @Array.length_toList _ r.state.sink.output.stored]
    | error halt =>
      rw [result_eq] at whole
      cases whole
  | some what =>
    rw [minify_of_unclosed passed] at whole
    cases result_eq : r.result with
    | ok tally =>
      rw [result_eq] at whole
      cases whole
    | error halt =>
      rw [result_eq] at whole
      cases whole
      exact .unclosed (by rw [passed]) sound result_eq

/-- A run on a new output ends as without faults, or some call on its streams has
failed. -/
theorem minifyStream_ends (script : Bytes) (failingRead : Nat) (fresh : output.ideal = {}) :
    Ends script (minifyStream { supply := .bytes script, failingRead } output) := by
  have follows := consumed_follows_ideal (.bytes script) failingRead fresh
  have ideal := ends_ideal script
  rw [minifyStream_eq] at ideal ⊢
  rcases follows.finish with ⟨sound, same, state_eq⟩ | ⟨broken, f, result_eq⟩
  · have stored_eq := congrArg (fun t : Transfer => t.sink.output.stored.toList) state_eq
    cases ideal with
    | done closed minified _ result_eq stored =>
      exact .done closed minified sound (same.trans result_eq) (stored_eq.symm.trans stored)
    | unclosed unclosed _ result_eq => exact .unclosed unclosed sound (same.trans result_eq)
    | broken broken => exact absurd broken (minifyStream_eq _ _ ▸ not_broken_ideal script)
  · exact .broken broken result_eq

end Script
end ScriptPress
