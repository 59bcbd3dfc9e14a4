/-
A run between two streams mirrors a plain run.

`Automaton.Mirrors` relates an automaton that meets no fault to a plain state:
the same characters remembered, the text left to be read, the bytes accepted.
Every part of a step keeps the two related and ends on both sides alike, with a
value or at the end of the script; `step_agrees` is the result.  The characters
of the plain run may be of any type, as long as their codes are the effective
characters of the script.
-/
import ScriptPress.Script
import ScriptPress.Proofs.Plain.Invariant
import ScriptPress.Proofs.Scanning

namespace ScriptPress

open Code Coded

variable {α : Type} [Coded α] {total : Nat}

namespace Automaton

/-- An automaton that meets no fault, on a script of `total` characters, does
what a plain run does. -/
structure Mirrors (total : Nat) (m : Automaton) (p : Plain.State α) : Prop where
  window : m.window = p.window
  source : m.transfer.source.Reads total (p.rest.map code)
  sink : m.transfer.sink.Holds (Plain.bytes p.text)
  small : p.All (code · < 256)

/-- A call and a plain call end alike. -/
inductive Agrees (total : Nat) : Outcome Automaton Unit → Plain.Ending α → Prop
  | ok {m : Automaton} {p : Plain.State α} (h : Mirrors total m p) :
    Agrees total (.ok () m) (.ok () p)
  | halt {m : Automaton} {p : Plain.State α} {what : Construct} (h : Mirrors total m p) :
    Agrees total (.error (.unterminated what total) m) (.error what p)

theorem Agrees.cases {outcome : Outcome Automaton Unit} {ending : Plain.Ending α}
    (h : Agrees total outcome ending) :
    (∃ m p, outcome = .ok () m ∧ ending = .ok () p ∧ Mirrors total m p) ∨
      ∃ what m p, outcome = .error (.unterminated what total) m ∧ ending = .error what p ∧
        Mirrors total m p := by
  cases h with
  | ok mirrors => exact .inl ⟨_, _, rfl, rfl, mirrors⟩
  | halt mirrors => exact .inr ⟨_, _, _, rfl, rfl, mirrors⟩

theorem Agrees.bind {x y : Action Automaton Unit} {x' y' : Plain.Run α Unit} {m : Automaton}
    {p : Plain.State α} (first : Agrees total (x m) (x' p))
    (second : ∀ m₁ p₁, x m = .ok () m₁ → x' p = .ok () p₁ → Mirrors total m₁ p₁ →
      Agrees total (y m₁) (y' p₁)) :
    Agrees total ((x >>= fun _ => y) m) ((x' >>= fun _ => y') p) := by
  rcases first.cases with ⟨m₁, p₁, hx, hx', mirrors⟩ | ⟨what, m₁, p₁, hx, hx', mirrors⟩
  · rw [bind_of_ok hx, bind_of_ok hx']
    exact second m₁ p₁ hx hx' mirrors
  · rw [bind_of_error hx, bind_of_error hx']
    exact .halt mirrors

variable {m : Automaton} {p : Plain.State α}

/-! ## Writing -/

theorem put_mirrors (h : Mirrors total m p) {a : α} (small : code a < 256) (inLiteral : Bool) :
    ∃ m', lift (Transfer.put (some (code a))) m = .ok () m' ∧
      Mirrors total m' (p.put inLiteral (some a)) := by
  obtain ⟨t, written, same, holds⟩ := Literal.put_holds h.sink small
  refine ⟨⟨m.window, t⟩, by simp [lift, written], h.window, ?_, ?_, ?_⟩
  · show t.source.Reads total _
    rw [same]
    exact h.source
  · rw [Plain.State.text_put, Plain.bytes_append]
    exact holds
  · refine h.small.put (fun b hb => ?_) inLiteral
    obtain rfl : a = b := Option.some.inj hb
    exact small

theorem blank_eq (h : Mirrors total m p) : blank m = .ok p.written.isEmpty m := by
  have count : m.transfer.sink.written = p.written.length := by
    rw [h.sink.written_eq]
    simp [Plain.bytes, Plain.State.text]
  simp only [blank, count]
  cases p.written <;> rfl

theorem emit_mirrors (h : Mirrors total m p) {a : α} (small : code a < 256) :
    ∃ m', emit (some (code a)) m = .ok () m' ∧ Mirrors total m' (p.emit (some a)) := by
  obtain ⟨m₁, written, mirrors⟩ := put_mirrors h small false
  have unfolded : emit (some (code a)) m =
      if p.written.isEmpty && isSeparator (code a) then .ok () m
      else if isSeparator (code a) then .ok () m₁
      else .ok () ⟨{ m₁.window with lastWritten := some (code a) }, m₁.transfer⟩ := by
    rw [emit, bind_of_ok (blank_eq h)]
    show (if _ then _ else _ : Action Automaton Unit) m = _
    rw [Option.any_some]
    split
    · rfl
    · rw [bind_of_ok written]
      split <;> rfl
  rw [unfolded, Plain.State.emit]
  simp only [Option.map_some, Option.any_some]
  split
  · exact ⟨m, rfl, h⟩
  · split
    · exact ⟨m₁, rfl, mirrors⟩
    · refine ⟨_, rfl, ?_, mirrors.source, mirrors.sink, ?_⟩
      · show ({ m₁.window with lastWritten := some (code a) } : Window) = _
        rw [mirrors.window]
        rfl
      · refine { mirrors.small with lastWritten := fun b hb => ?_ }
        obtain rfl : a = b := Option.some.inj hb
        exact small

theorem keepHeld_mirrors (h : Mirrors total m p) (held : p.held ≠ none) :
    ∃ m', keepHeld m = .ok () m' ∧ Mirrors total m' p.keepHeld := by
  obtain ⟨a, ha⟩ := Option.ne_none_iff_exists'.mp held
  obtain ⟨m₁, written, mirrors⟩ := emit_mirrors h (h.small.held a ha)
  have heldCode : m.window.held = some (code a) := by
    rw [h.window]
    simp [Plain.State.window, ha]
  have unfolded : keepHeld m =
      if m.window.fusesSigns then lift (Transfer.put m.window.beforeLast) m₁ else .ok () m₁ := by
    rw [keepHeld, bind_of_ok (show look m = .ok m.window m from rfl), heldCode,
      bind_of_ok written]
    split <;> rfl
  rw [unfolded, Plain.State.keepHeld, h.window, ha]
  by_cases fuses : p.window.fusesSigns
  · rw [if_pos fuses, if_pos fuses]
    cases before : p.beforeLast with
    | none => simp [Window.fusesSigns, Plain.State.window, before] at fuses
    | some b =>
      have : p.window.beforeLast = some (code b) := by simp [Plain.State.window, before]
      rw [this]
      exact put_mirrors mirrors (h.small.beforeLast b before) false
  · rw [if_neg fuses, if_neg fuses]
    exact ⟨m₁, rfl, mirrors⟩

theorem setApart_mirrors (h : Mirrors total m p) :
    ∃ m', setApart m.window.held m = .ok () m' ∧ Mirrors total m' p.setApart := by
  have held : m.window.held = p.held.map code := by rw [h.window]; rfl
  unfold setApart Plain.State.setApart
  rw [held]
  by_cases apart : p.held.map code = some slash
  · rw [if_pos apart, if_pos apart, ← code_blank (α := α)]
    exact put_mirrors h (by rw [code_blank]; decide) false
  · rw [if_neg apart, if_neg apart]
    exact ⟨m, rfl, h⟩

/-! ## Reading and copying -/

theorem receive_agrees (h : Mirrors total m p) : Agrees total (receive m) (Plain.receive p) := by
  have kept : (Plain.Ending.state (Plain.receive p)).All (code · < 256) :=
    Plain.State.All.receive (by rw [code_blank]; decide) p h.small
  have read := Comment.next_reads h.source
  unfold Plain.receive at kept ⊢
  dsimp only at kept ⊢
  cases plain : Plain.next p.rest with
  | error what =>
    rw [plain] at read kept
    obtain ⟨source, halted, reads⟩ := read
    have called : lift (Transfer.reading Comment.next) m =
        .error (.unterminated what total) ⟨m.window, source, m.transfer.sink⟩ := by
      simp [lift, Transfer.reading, halted]
    rw [receive, bind_of_error called]
    exact .halt ⟨h.window, reads, h.sink, kept⟩
  | ok found =>
    obtain ⟨c, rest⟩ := found
    rw [plain] at read kept
    obtain ⟨source, ended, reads⟩ := read
    have called : lift (Transfer.reading Comment.next) m =
        .ok (c.map code) ⟨m.window, source, m.transfer.sink⟩ := by
      simp [lift, Transfer.reading, ended]
    rw [receive, bind_of_ok called]
    refine .ok ⟨?_, reads, h.sink, kept⟩
    rw [h.window]
    rfl

/-- A literal copied and its closing character held. -/
theorem copy_agrees {call : Transfer → Outcome Transfer Symbol} {cut : Plain.Cut α} {close : Nat}
    (copies : Literal.Copies total (Plain.bytes p.text) cut (call m.transfer))
    (window : m.window = p.window) (small : p.All (code · < 256)) (whole : cut.Of close p.rest) :
    Agrees total ((lift call >>= fun c => remember fun w => { w with held := c }) m)
      (Plain.copy cut p) := by
  have kept := small.copy whole
  obtain ⟨t, holds, ending⟩ := copies
  have text : Plain.bytes p.text ++ Plain.bytes cut.1 =
      Plain.bytes ((p.written ++ cut.1.map (Plain.Entry.mk · true)).map Plain.Entry.char) := by
    rw [← Plain.bytes_append, Plain.State.text, List.map_append, List.map_map]
    simp [Function.comp_def]
  rw [text] at holds
  unfold Plain.copy at kept ⊢
  cases closed : cut.2 with
  | error what =>
    rw [closed] at ending kept
    obtain ⟨halted, reads⟩ := ending
    have called : lift call m = .error (.unterminated what total) ⟨m.window, t⟩ := by
      simp [lift, halted]
    rw [bind_of_error called]
    exact .halt ⟨window, reads, holds, kept⟩
  | ok closing =>
    obtain ⟨a, rest⟩ := closing
    rw [closed] at ending kept
    obtain ⟨ended, reads⟩ := ending
    have called : lift call m = .ok (some (code a)) ⟨m.window, t⟩ := by
      simp [lift, ended]
    rw [bind_of_ok called]
    refine .ok ⟨?_, reads, holds, kept⟩
    rw [window]
    rfl

theorem shift_agrees (h : Mirrors total m p) : Agrees total (shift m) (Plain.shift p) := by
  have nextCode : m.window.next = p.next.map code := by rw [h.window]; rfl
  -- Both sides hold the next character first, whatever it opens.
  let held : Automaton := ⟨{ m.window with held := m.window.next }, m.transfer⟩
  have holds : ∀ c, p.next = c → Mirrors total held { p with held := c } := by
    rintro _ rfl
    refine ⟨?_, h.source, h.sink, { h.small with held := h.small.next }⟩
    show ({ m.window with held := m.window.next } : Window) = _
    rw [nextCode, h.window]
    rfl
  have unfolded : shift m =
      (if m.window.next.any isQuote then
        lift (Literal.quoted m.window.next) >>= fun close =>
          remember fun w => { w with held := close }
      else pure () : Action Automaton Unit) held := by
    rw [shift, bind_of_ok (show look m = .ok m.window m from rfl),
      bind_of_ok (show remember (fun w => { w with held := w.next }) m = .ok () held from rfl)]
  rw [unfolded, nextCode]
  cases hn : p.next with
  | none =>
    rw [Plain.shift_of_none hn]
    exact .ok (holds none hn)
  | some a =>
    have mirrors := holds (some a) hn
    rw [Option.map_some, Option.any_some]
    by_cases quote : isQuote (code a)
    · rw [if_pos quote, Plain.shift_of_quote hn quote]
      have copied := Literal.enclosed_copies .quoted (code a) h.source h.sink
        (List.forall_mem_cons.mpr ⟨mirrors.small.held a rfl, h.small.rest⟩)
      refine copy_agrees ?_ mirrors.window (mirrors.small.put mirrors.small.held true)
        (Plain.enclosed_of .quoted (code a) p.rest)
      rw [Plain.State.text_put, Plain.bytes_append]
      exact Literal.copies_after.mp copied
    · rw [if_neg quote, Plain.shift_of_other hn (by simpa using quote)]
      exact .ok mirrors

/-- What is written before the body of a regular expression is read. -/
theorem openRegex_mirrors (h : Mirrors total m p) (next : p.window.next = some slash)
    (opens : p.window.opensRegex) :
    ∃ m₁ m₂ m₃, emit m.window.held m = .ok () m₁ ∧ setApart m.window.held m₁ = .ok () m₂ ∧
      lift (Transfer.put m.window.next) m₂ = .ok () m₃ ∧
      Mirrors total m₃ ((p.emit p.held).setApart.put true p.next) := by
  obtain ⟨a, ha⟩ : ∃ a, p.held = some a := by
    cases held : p.held with
    | none => simp [Window.opensRegex, Plain.State.window, held] at opens
    | some a => exact ⟨a, rfl⟩
  obtain ⟨b, hb⟩ : ∃ b, p.next = some b := by
    cases hn : p.next with
    | none => simp [Plain.State.window, hn] at next
    | some b => exact ⟨b, rfl⟩
  have heldCode : m.window.held = some (code a) := by
    rw [h.window]
    simp [Plain.State.window, ha]
  have nextCode : m.window.next = some (code b) := by
    rw [h.window]
    simp [Plain.State.window, hb]
  obtain ⟨m₁, emitted, mirrors₁⟩ := emit_mirrors h (h.small.held a ha)
  have sameHeld : m₁.window.held = m.window.held := (emit_eq_ok emitted).2.1
  obtain ⟨m₂, apart, mirrors₂⟩ := setApart_mirrors mirrors₁
  rw [sameHeld] at apart
  obtain ⟨m₃, opened, mirrors₃⟩ := put_mirrors mirrors₂ (h.small.next b hb) true
  rw [ha, hb, nextCode]
  exact ⟨m₁, m₂, m₃, by rw [heldCode]; exact emitted, apart, opened, mirrors₃⟩

theorem copyRegex_agrees (h : Mirrors total m p) (next : p.window.next = some slash)
    (opens : p.window.opensRegex) : Agrees total (copyRegex m) (Plain.copyRegex p) := by
  obtain ⟨m₁, m₂, m₃, emitted, apart, opened, mirrors⟩ := openRegex_mirrors h next opens
  rw [copyRegex, bind_of_ok (show look m = .ok m.window m from rfl), bind_of_ok emitted,
    bind_of_ok apart, bind_of_ok opened]
  unfold Plain.copyRegex
  have rest : ((p.emit p.held).setApart.put true p.next).rest = p.rest := by
    show (p.emit p.held).setApart.rest = p.rest
    rw [Plain.rest_setApart, Plain.rest_emit]
  have source := mirrors.source
  have small := mirrors.small.rest
  have whole := Plain.regexBody_of false p.rest
  rw [rest] at source small
  exact copy_agrees (Literal.regex_copies source mirrors.sink small) mirrors.window
    mirrors.small (by rw [rest]; exact whole)

/-! ## Steps and runs -/

theorem settle_agrees (h : Mirrors total m p) {v : Verdict} (held : v = .keep → p.held ≠ none) :
    Agrees total (settle v m) (Plain.settle v p) := by
  cases v with
  | keep =>
    obtain ⟨m₁, kept, mirrors⟩ := keepHeld_mirrors h (held rfl)
    rw [settle, bind_of_ok kept]
    exact shift_agrees mirrors
  | elide => exact shift_agrees h
  | defer => exact .ok h

theorem arrive_agrees (h : Mirrors total m p) : Agrees total (arrive m) (Plain.arrive p) := by
  refine Agrees.bind (receive_agrees h) (fun m₁ p₁ _ _ mirrors => ?_)
  show Agrees total
    ((if m₁.window.next = some slash && m₁.window.opensRegex then
      (do copyRegex; receive) else pure () : Action Automaton Unit) m₁)
    ((if p₁.window.next = some slash && p₁.window.opensRegex then
      (do Plain.copyRegex; Plain.receive) else pure () : Plain.Run α Unit) p₁)
  rw [mirrors.window]
  split
  next opens =>
    rw [Bool.and_eq_true, decide_eq_true_eq] at opens
    exact Agrees.bind (copyRegex_agrees mirrors opens.1 opens.2)
      (fun _ _ _ _ mirrors => receive_agrees mirrors)
  · exact .ok mirrors

theorem step_agrees (h : Mirrors total m p) {v : Verdict} (held : v = .keep → p.held ≠ none) :
    Agrees total (step v m) (Plain.step v p) :=
  Agrees.bind (settle_agrees h held) (fun _ _ _ _ mirrors => arrive_agrees mirrors)

end Automaton
end ScriptPress
