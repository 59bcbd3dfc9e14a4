/-
Every byte accounted for.

`Transfer.Puts` lists the symbols that an action puts in the sink, in the order in
which it puts them.  A symbol that is not a byte is refused, and the action is
stopped with that; so an action that is not has put bytes only, and the sink has
accepted just these.

A run on streams that do not fail is never stopped so.  It reads its whole script,
ends with a tally of what was read and stored or at something that is not closed,
and what it puts are the bytes stored (`run_account`).
-/
import ScriptPress.Proofs.Faults

namespace ScriptPress

/-! ## Sinks -/

namespace Symbol

/-- Bytes as symbols. -/
def ofBytes (bytes : Bytes) : List Symbol := bytes.map fun byte => some byte.toNat

theorem ofBytes_append (bytes more : Bytes) :
    ofBytes (bytes ++ more) = ofBytes bytes ++ ofBytes more := List.map_append

end Symbol

/-- A sink accepts a byte, also if the flush that follows fails, and refuses anything
else. -/
theorem Sink.put_cases (s : Sink) (c : Symbol) :
    (∃ byte : UInt8, c = some byte.toNat ∧
      (Outcome.state (s.put c)).accepted = s.accepted ++ [byte]) ∨ s.put c = .error .notByte s := by
  cases c with
  | none => exact .inr rfl
  | some code =>
    by_cases small : code < 256
    · have pushed : (s.push code.toUInt8).accepted = s.accepted ++ [code.toUInt8] := by
        simp [accepted, push]
      refine .inl ⟨code.toUInt8, ?_, ?_⟩
      · exact congrArg some (Nat.mod_eq_of_lt small).symm
      · rw [Sink.put, if_pos small]
        dsimp only
        split
        · rw [accepted_flush, pushed]
        · exact pushed
    · exact .inr (by rw [Sink.put, if_neg small])

namespace Transfer

/-! ## What an action puts -/

/-- What a call puts in the sink. -/
def Call.puts {β : Type} : Call β → List Symbol
  | .put c => [c]
  | .fetch => []
  | .peek => []
  | .blank => []

/-- On the transfer `t` an action puts these symbols in the sink, up to its end or up
to the call that stops it. -/
inductive Puts {α : Type} : (Transfer → Outcome Transfer α) → Transfer → List Symbol → Prop
  | done (a : α) (t : Transfer) : Puts (fun t => .ok a t) t []
  | unclosed (what : Construct) (t : Transfer) :
    Puts (fun t => .error (.unterminated what t.source.position) t) t []
  | ask {β : Type} (call : Call β) {go : β → Transfer → Outcome Transfer α} {t t₁ : Transfer}
      {b : β} {later : List Symbol} (answered : call.run t = .ok b t₁)
      (goes : Puts (go b) t₁ later) :
      Puts (fun t => Outcome.andThen (call.run t) go) t (call.puts ++ later)
  | stopped {β : Type} (call : Call β) {go : β → Transfer → Outcome Transfer α} {t t₁ : Transfer}
      {e : Halt} (failed : call.run t = .error e t₁) :
      Puts (fun t => Outcome.andThen (call.run t) go) t call.puts

variable {α : Type} {x : Transfer → Outcome Transfer α} {t : Transfer}

/-- Every dialogue puts something, if only nothing. -/
theorem Dialogue.puts (h : Dialogue x t) : ∃ put, Puts x t put := by
  induction h with
  | done a t => exact ⟨[], .done a t⟩
  | unclosed what t => exact ⟨[], .unclosed what t⟩
  | @ask β call go t _ ih =>
    cases answer : call.run t with
    | ok b t₁ =>
      obtain ⟨later, goes⟩ := ih b t₁ answer
      exact ⟨call.puts ++ later, .ask call answer goes⟩
    | error e t₁ => exact ⟨call.puts, .stopped call answer⟩

theorem Call.accepted {β : Type} (call : Call β) (t : Transfer)
    (bytes : Outcome.halt? (call.run t) ≠ some .notByte) :
    Symbol.ofBytes (Outcome.state (call.run t)).sink.accepted =
      Symbol.ofBytes t.sink.accepted ++ call.puts := by
  cases call with
  | fetch =>
    show Symbol.ofBytes (Outcome.state (reading Source.fetch t)).sink.accepted = _
    rw [state_reading]
    exact (List.append_nil _).symm
  | peek =>
    show Symbol.ofBytes (Outcome.state (reading Source.peek t)).sink.accepted = _
    rw [state_reading]
    exact (List.append_nil _).symm
  | put c =>
    show Symbol.ofBytes (Outcome.state (writing (Sink.put c) t)).sink.accepted = _
    rw [state_writing]
    rcases t.sink.put_cases c with ⟨byte, rfl, accepted⟩ | refused
    · show Symbol.ofBytes (Outcome.state (t.sink.put _)).accepted = _
      rw [accepted, Symbol.ofBytes_append]
      rfl
    · have halted : Outcome.halt? (writing (Sink.put c) t) = some .notByte := by
        rw [halt?_writing, refused]
        rfl
      exact absurd halted bytes
  | blank => exact (List.append_nil _).symm

/-- An action that is not stopped by something other than a byte has put just what the
sink has accepted since. -/
theorem Puts.accepted {put : List Symbol} (h : Puts x t put)
    (bytes : Outcome.halt? (x t) ≠ some .notByte) :
    Symbol.ofBytes (Outcome.state (x t)).sink.accepted = Symbol.ofBytes t.sink.accepted ++ put := by
  induction h with
  | done a t => exact (List.append_nil _).symm
  | unclosed what t => exact (List.append_nil _).symm
  | @ask β call go t t₁ b later answered goes ih =>
    have asked := call.accepted t (by rw [answered]; nofun)
    dsimp only at bytes ⊢
    rw [answered] at asked bytes ⊢
    have asked : Symbol.ofBytes t₁.sink.accepted =
        Symbol.ofBytes t.sink.accepted ++ call.puts := asked
    rw [Outcome.andThen_ok, ih bytes, asked, List.append_assoc]
  | @stopped β call go t t₁ e failed =>
    dsimp only at bytes ⊢
    rw [failed] at bytes ⊢
    have asked := call.accepted t (by rw [failed]; exact bytes)
    rw [failed] at asked
    exact asked

end Transfer

/-! ## Runs -/

namespace Script

variable (input : Stream.Input) (output : Stream.Output)

theorem result_run :
    Outcome.result (Automaton.between input output).run =
      Outcome.result (minifyStream input output) := by
  unfold minifyStream
  cases (Automaton.between input output).run <;> rfl

theorem transfer_run :
    (Outcome.state (Automaton.between input output).run).transfer =
      Outcome.state (minifyStream input output) := by
  unfold minifyStream
  cases (Automaton.between input output).run <;> rfl

/-- Without faults a run is stopped by what stops it before the last flush. -/
theorem halt?_consumed (supply : Stream.Supply) :
    Outcome.halt? (consumed { supply } {}) = Outcome.halt? (minifyStream { supply } {}) := by
  obtain ⟨t, flushed, _⟩ := flush_consumed supply
  rw [minifyStream_eq, Transfer.halt?_finish, flushed]
  rfl

theorem accepted_consumed (supply : Stream.Supply) :
    (Outcome.state (consumed { supply } {})).sink.accepted =
      (Outcome.state (minifyStream { supply } {})).sink.output.stored.toList := by
  obtain ⟨t, flushed, stored⟩ := flush_consumed supply
  rw [minifyStream_eq, Transfer.state_finish, flushed, ← stored]
  rfl

theorem halt?_consumed_ne (supply : Stream.Supply) :
    Outcome.halt? (consumed { supply } {}) ≠ some .notByte := by
  intro halted
  rw [halt?_consumed] at halted
  have ended := @result_minifyStream { supply } rfl
  rw [Outcome.result_of_halt? halted] at ended
  obtain ⟨what, absurd⟩ := ended
  cases absurd

/-- Without faults a run puts in the sink what it stores. -/
theorem puts_iff_stored (supply : Stream.Supply) (put : List Symbol) :
    Transfer.Puts (Automaton.onTransfer Automaton.consume {}) (.between { supply } {}) put ↔
      put = Symbol.ofBytes
        (Outcome.state (minifyStream { supply } {})).sink.output.stored.toList := by
  have stored {put : List Symbol}
      (h : Transfer.Puts (Automaton.onTransfer Automaton.consume {}) (.between { supply } {}) put) :
      put = Symbol.ofBytes
        (Outcome.state (minifyStream { supply } {})).sink.output.stored.toList := by
    have accepted := h.accepted (halt?_consumed_ne supply)
    rw [← accepted_consumed]
    exact accepted.symm
  constructor
  · exact stored
  · rintro rfl
    obtain ⟨put, h⟩ := (Automaton.converses_consume {} (.between { supply } {})).puts
    rwa [stored h] at h

end Script

namespace Automaton

open Script

/-- A run on streams that do not fail ends with the count of the bytes of the script
and of those stored, or at the end of the script in something that is not closed.
Up to the last flush, which is all that follows `consume`, it puts the bytes stored
in the sink, one after the other, and never anything that is not a byte. -/
theorem run_account (supply : Stream.Supply) {script : Bytes}
    (served : supply.served 65536 = script) {outcome : Outcome Automaton Tally}
    (ran : (Automaton.between { supply } {}).run = outcome) :
    (outcome.result = .ok ⟨script.length, outcome.state.transfer.sink.output.stored.size⟩ ∨
      ∃ what, outcome.result = .error (.unterminated what script.length)) ∧
    (∀ put, Transfer.Puts (onTransfer consume {}) (.between { supply } {}) put ↔
      put = Symbol.ofBytes outcome.state.transfer.sink.output.stored.toList) ∧
    ∀ put, Transfer.Puts (onTransfer consume {}) (.between { supply } {}) put →
      ∀ c ∈ put, ∃ code, c = some code ∧ code < 256 := by
  have result := result_run { supply } {}
  have transfer := transfer_run { supply } {}
  rw [ran] at result transfer
  rw [result, transfer]
  refine ⟨?_, puts_iff_stored supply, ?_⟩
  · have ended := @result_minifyStream { supply } rfl
    rw [served] at ended
    cases ending : Outcome.result (minifyStream { supply } {}) with
    | ok tally =>
      rw [ending] at ended
      exact .inl (congrArg Except.ok ended)
    | error halt =>
      rw [ending] at ended
      obtain ⟨what, rfl⟩ := ended
      exact .inr ⟨what, rfl⟩
  · intro put h c member
    rw [(puts_iff_stored supply put).mp h] at member
    obtain ⟨byte, _, rfl⟩ := List.mem_map.mp member
    exact ⟨byte.toNat, rfl, byte.toNat_lt⟩

/-- The script `a='\`, in two pieces, ends after a backslash inside a literal.  All of
it is put, and the end of the script is not. -/
theorem run_account_backslash :
    (Stream.Supply.pieces [[97, 61], [39, 92]]).served 65536 = [97, 61, 39, 92] ∧
      (∃ what,
        Outcome.result (Automaton.between { supply := .pieces [[97, 61], [39, 92]] } {}).run =
          .error (.unterminated what 4)) ∧
      Transfer.Puts (onTransfer consume {}) (.between { supply := .pieces [[97, 61], [39, 92]] } {})
        [some 97, some 61, some 39, some 92] := by
  have served : (Stream.Supply.pieces [[97, 61], [39, 92]]).served 65536 = [97, 61, 39, 92] := rfl
  obtain ⟨ended, puts, _⟩ := run_account (.pieces [[97, 61], [39, 92]]) served rfl
  refine ⟨served, ?_, (puts _).mpr (by decide +kernel)⟩
  have halted :
      Outcome.halt? (Automaton.between { supply := .pieces [[97, 61], [39, 92]] } {}).run =
        some (.unterminated .quoted 4) := by decide +kernel
  rcases ended with counted | unclosed
  · rw [Outcome.result_of_halt? halted] at counted
    cases counted
  · exact unclosed

end Automaton
end ScriptPress
