/-
The form of what is written.

Nothing written starts with a separator, and two separators stand next to each
other only inside a literal.  A run keeps to this because it never leaves a
separator, or the inside of a literal, as the last thing written without holding
something else that comes after it.  So separators do not pile up, whichever way
they come to be written, and a run that ends well does not end with one.
-/
import Mathlib.Data.List.Chain
import ScriptPress.Proofs.Dialogue
import ScriptPress.Proofs.Fusion

namespace ScriptPress

open Code Coded

namespace Verdict

/-- A separator is written only before a character that is none. -/
theorem significant_of_keep {x : Nat} {next : Symbol} (separates : isSeparator x)
    (h : of (some x) next = keep) : ∃ y ∈ next, isSeparator y = false := by
  have notSpace := next_ne_space_of_keep separates h
  cases next with
  | none => rcases isSeparator_iff.mp separates with rfl | rfl <;> exact absurd h (by decide)
  | some y =>
    refine ⟨y, rfl, not_isSeparator_iff.mpr ⟨fun same => notSpace (congrArg some same), ?_⟩⟩
    rintro rfl
    rcases isSeparator_iff.mp separates with rfl | rfl <;> exact absurd h (by decide)

theorem isSeparator_of_elide {x : Nat} {next : Symbol} (h : of (some x) next = elide) :
    isSeparator x :=
  isSeparator_iff.mpr ((held_of_elide h).2.imp_right And.left)

end Verdict

namespace Plain

variable {α : Type} [Coded α]

/-! ## Logs in normal form -/

/-- Two separators next to each other are both part of a literal. -/
def Spaced (e f : Entry α) : Prop :=
  isSeparator (code e.char) → isSeparator (code f.char) →
    e.inLiteral = true ∧ f.inLiteral = true

structure Trim (log : List (Entry α)) : Prop where
  first : ∀ e ∈ log.head?, isSeparator (code e.char) = false
  spaced : log.IsChain Spaced

/-- Something must come after this entry: it is a separator, or inside a literal. -/
def Entry.isOpen (e : Entry α) : Bool := e.inLiteral || isSeparator (code e.char)

/-- Where the last entry is open, what is to come is not a separator. -/
def Awaits (log : List (Entry α)) (c : Option α) : Prop :=
  ∀ e ∈ log.getLast?, e.isOpen → ∃ a ∈ c, isSeparator (code a) = false

section Logs

variable {log : List (Entry α)} {e : Entry α}

theorem Trim.nil : Trim ([] : List (Entry α)) := ⟨nofun, .nil⟩

theorem Trim.concat (h : Trim log) (first : log = [] → isSeparator (code e.char) = false)
    (meets : ∀ d ∈ log.getLast?, Spaced d e) : Trim (log ++ [e]) := by
  constructor
  · cases log with
    | nil =>
      intro d hd
      obtain rfl : e = d := Option.some.inj hd
      exact first rfl
    | cons d log => exact h.first
  · refine h.spaced.append (.singleton e) fun d hd f hf => ?_
    obtain rfl : e = f := Option.some.inj hf
    exact meets d hd

theorem Trim.significant (h : Trim log) (significant : isSeparator (code e.char) = false) :
    Trim (log ++ [e]) := by
  refine h.concat (fun _ => significant) fun d _ _ separates => ?_
  rw [significant] at separates
  cases separates

theorem Awaits.closed {a : α} (h : Awaits log (some a)) (separates : isSeparator (code a)) :
    ∀ d ∈ log.getLast?, d.isOpen = false := by
  intro d hd
  by_contra isOpen
  obtain ⟨b, hb, significant⟩ := h d hd (by simpa using isOpen)
  obtain rfl : a = b := Option.some.inj hb
  rw [separates] at significant
  cases significant

theorem Awaits.of_closed (h : ∀ d ∈ log.getLast?, d.isOpen = false) (c : Option α) :
    Awaits log c := by
  intro d hd isOpen
  rw [h d hd] at isOpen
  cases isOpen

theorem closed_concat {a : α} (significant : isSeparator (code a) = false) :
    ∀ d ∈ (log ++ [(⟨a, false⟩ : Entry α)]).getLast?, d.isOpen = false := by
  intro d hd
  obtain rfl : ⟨a, false⟩ = d := by simpa using hd
  simp [Entry.isOpen, significant]

theorem Trim.separator (h : Trim log) (started : log ≠ [])
    (closed : ∀ d ∈ log.getLast?, d.isOpen = false) : Trim (log ++ [e]) := by
  refine h.concat (fun unwritten => absurd unwritten started) fun d hd separates _ => ?_
  have := closed d hd
  simp [Entry.isOpen, separates] at this

/-- Inside a literal anything may follow. -/
theorem Trim.literal (h : Trim log) (inside : ∃ e ∈ log.getLast?, e.inLiteral = true)
    (copied : List α) : Trim (log ++ copied.map (Entry.mk · true)) := by
  induction copied generalizing log with
  | nil => simpa using h
  | cons a copied ih =>
    obtain ⟨e, last, inLiteral⟩ := inside
    have longer : Trim (log ++ [⟨a, true⟩]) := by
      refine h.concat (fun unwritten => by simp [unwritten] at last) fun d hd _ _ => ?_
      obtain rfl : e = d := Option.some.inj (last.symm.trans hd)
      exact ⟨inLiteral, rfl⟩
    simpa using ih longer ⟨⟨a, true⟩, by simp, rfl⟩

end Logs

/-! ## The invariant -/

/-- What has been written is in normal form, and so it will be with what is held. -/
structure Tidy (p : State α) : Prop where
  trim : Trim p.written
  awaits : Awaits p.written p.held

variable {p : State α}

theorem copy_tidy {cut : Cut α} {close : Nat} (trim : Trim p.written)
    (inside : ∃ e ∈ p.written.getLast?, e.inLiteral = true) (whole : cut.Of close p.rest)
    (significant : isSeparator close = false) : Ends Trim Tidy (copy cut p) := by
  have copied := trim.literal inside cut.1
  unfold copy
  cases ending : cut.2 with
  | error what => exact copied
  | ok closing =>
    obtain ⟨a, rest⟩ := closing
    unfold Cut.Of at whole
    rw [ending] at whole
    refine ⟨copied, fun _ _ _ => ⟨a, rfl, ?_⟩⟩
    rw [whole.2]
    exact significant

theorem shift_tidy (trim : Trim p.written) (awaits : Awaits p.written p.next) :
    Ends Trim Tidy (shift p) := by
  cases next : p.next with
  | none =>
    rw [shift_of_none next]
    exact ⟨trim, next ▸ awaits⟩
  | some a =>
    cases quote : isQuote (code a) with
    | true =>
      rw [shift_of_quote next quote]
      have significant := not_isSeparator_of_isQuote quote
      exact copy_tidy (trim.significant (e := ⟨a, true⟩) significant)
        ⟨⟨a, true⟩, by simp [State.put], rfl⟩ (enclosed_of .quoted (code a) p.rest) significant
    | false =>
      rw [shift_of_other next quote]
      exact ⟨trim, next ▸ awaits⟩

/-- A separator held may be written, for what stands before it is closed. -/
theorem Tidy.emit (h : Tidy p) : Trim (p.emit p.held).written := by
  cases held : p.held with
  | none => simpa [State.emit, State.put] using h.trim
  | some a =>
    cases separates : isSeparator (code a) with
    | false =>
      rw [State.emit_of_significant separates]
      exact h.trim.significant separates
    | true =>
      by_cases unwritten : p.written = []
      · rw [State.emit_of_leading separates unwritten]
        exact h.trim
      · rw [State.emit_of_separator separates unwritten]
        exact h.trim.separator unwritten ((held ▸ h.awaits).closed separates)

theorem Tidy.keepHeld (h : Tidy p) {a : α} (held : p.held = some a) (keep : p.verdict = .keep) :
    Trim p.keepHeld.written ∧ Awaits p.keepHeld.written p.next := by
  have emitted : Trim (p.emit (some a)).written := held ▸ h.emit
  cases separates : isSeparator (code a) with
  | true =>
    have keep : Verdict.of (some (code a)) (p.next.map code) = .keep := by
      simpa [State.verdict, State.window, held] using keep
    obtain ⟨y, hy, significant⟩ := Verdict.significant_of_keep separates keep
    obtain ⟨b, next, rfl⟩ := Option.map_eq_some_iff.mp hy
    have kept : p.keepHeld.written = (p.emit (some a)).written := by
      by_cases unwritten : p.written = []
      · rw [State.keepHeld_of_leading held separates unwritten,
          State.emit_of_leading separates unwritten]
      · rw [State.keepHeld_of_started held separates unwritten,
          State.emit_of_separator separates unwritten]
    exact ⟨kept ▸ emitted, fun _ _ _ => ⟨b, next, significant⟩⟩
  | false =>
    rw [State.emit_of_significant separates] at emitted
    cases fuses : p.window.fusesSigns with
    | false =>
      rw [State.keepHeld_of_significant held separates fuses]
      exact ⟨emitted, Awaits.of_closed (closed_concat separates) _⟩
    | true =>
      -- the separator is written again, between two signs
      obtain ⟨⟨_, sign⟩, again⟩ : ((some (code a)).any isSign = true ∧
          (p.next.map code).any isSign = true) ∧ (p.beforeLast.map code).any isSeparator = true := by
        simpa [Window.fusesSigns, State.window, held] using fuses
      obtain ⟨b, next, sign⟩ : ∃ b, p.next = some b ∧ isSign (code b) := by
        simpa [Option.any_eq_true] using sign
      obtain ⟨c, before, again⟩ : ∃ c, p.beforeLast = some c ∧ isSeparator (code c) := by
        simpa [Option.any_eq_true] using again
      have log : p.keepHeld.written = p.written ++ [⟨a, false⟩] ++ [⟨c, false⟩] := by
        rw [State.keepHeld, fuses, if_pos rfl, held, before, State.emit_of_significant separates]
        rfl
      rw [log]
      exact ⟨emitted.separator (by simp [State.put]) (closed_concat separates),
        fun _ _ _ => ⟨b, next, not_isSeparator_of_isSign sign⟩⟩

theorem Tidy.settle (h : Tidy p) (going : p.held ≠ none) :
    Ends Trim Tidy (settle p.verdict p.note) := by
  obtain ⟨a, held⟩ := Option.ne_none_iff_exists'.mp going
  cases decided : p.verdict with
  | keep =>
    obtain ⟨trim, awaits⟩ := Tidy.keepHeld (p := p.note) { h with } held decided
    refine shift_tidy trim ?_
    rw [next_keepHeld]
    exact awaits
  | elide =>
    have elide : Verdict.of (some (code a)) (p.next.map code) = .elide := by
      simpa [State.verdict, State.window, held] using decided
    have closed := (held ▸ h.awaits).closed (Verdict.isSeparator_of_elide elide)
    exact shift_tidy (p := p.note) h.trim (Awaits.of_closed closed _)
  | defer => exact ⟨h.trim, h.awaits⟩

theorem Tidy.receive (h : Tidy p) : Ends Trim Tidy (receive p) := by
  cases read : Plain.next p.rest with
  | error what =>
    rw [receive_of_error read]
    exact h.trim
  | ok cut =>
    rw [receive_of_next read]
    exact ⟨h.trim, h.awaits⟩

/-- The blank that sets a regular expression apart stands after a slash. -/
theorem Tidy.setApart (h : Tidy p) : Trim (p.emit p.held).setApart.written := by
  have emitted : Trim (p.emit p.held).written := h.emit
  unfold State.setApart
  split
  next afterSlash =>
    rw [held_emit] at afterSlash
    obtain ⟨a, held, isSlash⟩ := Option.map_eq_some_iff.mp afterSlash
    have significant : isSeparator (code a) = false := by rw [isSlash]; decide
    rw [held, State.emit_of_significant significant] at emitted ⊢
    exact emitted.separator (by simp [State.put]) (closed_concat significant)
  · exact emitted

theorem Tidy.copyRegex (h : Tidy p) (opens : p.window.next = some slash) :
    Ends Trim Tidy (copyRegex p) := by
  obtain ⟨b, next, isSlash⟩ := Option.map_eq_some_iff.mp opens
  have opened : Trim ((p.emit p.held).setApart.put true p.next).written := by
    rw [next]
    exact h.setApart.significant (by rw [isSlash]; decide)
  have whole : (regexBody false p.rest).Of slash
      ((p.emit p.held).setApart.put true p.next).rest := by
    show (regexBody false p.rest).Of slash (p.emit p.held).setApart.rest
    rw [rest_setApart, rest_emit]
    exact regexBody_of false p.rest
  refine copy_tidy opened ⟨⟨b, true⟩, ?_, rfl⟩ whole (by decide)
  simp [State.put, next]

theorem trim_run (start : α) (text : List α) :
    Ends Trim (fun p => Tidy p ∧ p.held = none) (run start text) :=
  Ends.proceed (fun _ h => h.receive) (fun _ h => h.copyRegex) (fun _ h => h.settle)
    ⟨Trim.nil, nofun⟩

end Plain

namespace Script

/-- A code that some byte counts as. -/
def Printed (c : Nat) : Prop := c < 256 ∧ (space ≤ c ∨ c = newline)

theorem printed_log (script : Bytes) : ∀ e ∈ log script, Printed e.char.code := by
  have all : (Plain.Ending.state (Plain.run ⟨newline, none⟩ (marks script))).All
      fun a => Printed a.code := by
    refine Plain.State.All.run ⟨by decide, .inl (by decide)⟩ ⟨by decide, .inr rfl⟩ fun a ha => ?_
    obtain ⟨k, read⟩ := List.mem_iff_getElem?.mp ha
    have known := (getElem?_marks read).2
    unfold characters at known
    rw [List.getElem?_map, Option.map_eq_some_iff] at known
    obtain ⟨byte, _, counts⟩ := known
    rw [← counts]
    exact ⟨effective_lt byte.toNat_lt, visible_effective byte.toNat⟩
  exact all.written

theorem toNat_of_printed {c : Nat} (h : Printed c) : c.toUInt8.toNat = c :=
  Nat.mod_eq_of_lt h.1

/-- A byte that ends a line or shows, as `Printed` says of its code. -/
theorem byte_of_printed {c : Nat} (h : Printed c) : c.toUInt8 = 10 ∨ 32 ≤ c.toUInt8 := by
  rcases h.2 with shown | rfl
  · refine .inr (UInt8.le_iff_toNat_le.mpr ?_)
    rw [toNat_of_printed h]
    exact shown
  · exact .inl rfl

theorem byte_of_significant {c : Nat} (h : Printed c) (significant : isSeparator c = false) :
    c.toUInt8 ≠ 32 ∧ c.toUInt8 ≠ 10 := by
  obtain ⟨notSpace, notLine⟩ := not_isSeparator_iff.mp significant
  constructor
  · intro same
    exact notSpace ((toNat_of_printed h).symm.trans (congrArg UInt8.toNat same))
  · intro same
    exact notLine ((toNat_of_printed h).symm.trans (congrArg UInt8.toNat same))

theorem trim_log (script : Bytes) : Plain.Trim (log script) :=
  (Plain.trim_run (⟨newline, none⟩ : Mark) (marks script)).written fun _ h => h.1.trim

/-- A run that ends well holds nothing any more, so nothing is left open. -/
theorem closed_log {script : Bytes} {tally : Tally}
    (h : Outcome.result (minifyStream { supply := .bytes script } {}) = .ok tally) :
    ∀ e ∈ (log script).getLast?, e.isOpen = false := by
  have agrees := @minifyStream_agrees Mark _ script ⟨newline, none⟩ _ rfl (map_code_marks script)
  have tidy := Plain.trim_run (⟨newline, none⟩ : Mark) (marks script)
  unfold log
  generalize Plain.run ⟨newline, none⟩ (marks script) = ending at agrees tidy
  cases ending with
  | error what p =>
    obtain ⟨t, streamed, _⟩ := agrees
    rw [streamed] at h
    cases h
  | ok _ p =>
    obtain ⟨⟨_, awaits⟩, ended⟩ := tidy
    intro e last
    by_contra isOpen
    obtain ⟨a, held, _⟩ := awaits e last (by simpa using isOpen)
    rw [ended] at held
    cases held

/-- Every byte that a run writes, whether it succeeds or stops at something that is
not closed, is a line end or shows.  The first of them is no separator, and two
separators next to each other are part of a literal.  If the run succeeds the last
byte is no separator either. -/
theorem written_normal_form (script stored : Bytes)
    (wrote : (Outcome.state (minifyStream { supply := .bytes script } {})).sink.output.stored.toList =
      stored) :
    stored = (log script).map (·.char.code.toUInt8) ∧
      (∀ byte ∈ stored, byte = 10 ∨ 32 ≤ byte) ∧
      (∀ byte ∈ stored.head?, byte ≠ 32 ∧ byte ≠ 10) ∧
      (log script).IsChain Plain.Spaced ∧
      ∀ tally, Outcome.result (minifyStream { supply := .bytes script } {}) = .ok tally →
        ∀ byte ∈ stored.getLast?, byte ≠ 32 ∧ byte ≠ 10 := by
  have spelled : stored = (log script).map (·.char.code.toUInt8) := by
    obtain ⟨t, stored_eq, ⟨tally, streamed⟩ | ⟨what, streamed⟩⟩ := stored_eq_log script
    · rw [streamed] at wrote
      exact wrote.symm.trans stored_eq
    · rw [streamed] at wrote
      exact wrote.symm.trans stored_eq
  have printed := printed_log script
  have trim := trim_log script
  refine ⟨spelled, ?_, ?_, trim.spaced, ?_⟩
  · intro byte mem
    rw [spelled] at mem
    obtain ⟨e, he, rfl⟩ := List.mem_map.mp mem
    exact byte_of_printed (printed e he)
  · intro byte mem
    rw [spelled, List.head?_map] at mem
    obtain ⟨e, he, rfl⟩ := Option.map_eq_some_iff.mp mem
    exact byte_of_significant (printed e (List.mem_of_mem_head? he)) (trim.first e he)
  · intro tally succeeded byte mem
    rw [spelled, List.getLast?_map] at mem
    obtain ⟨e, he, rfl⟩ := Option.map_eq_some_iff.mp mem
    have closed := closed_log succeeded e he
    obtain ⟨_, significant⟩ : e.inLiteral = false ∧ isSeparator e.char.code = false := by
      simpa [Plain.Entry.isOpen, code] using closed
    exact byte_of_significant (printed e (List.mem_of_mem_getLast? he)) significant

/-- Two spaces in quotes stay; those around them go, and so does the last line end. -/
theorem written_normal_form_quoted :
    (Outcome.state (minifyStream { supply := .bytes [32, 34, 32, 32, 34, 32, 10, 120, 10] }
        {})).sink.output.stored.toList = [34, 32, 32, 34, 10, 120] ∧
      (log [32, 34, 32, 32, 34, 32, 10, 120, 10]).IsChain Plain.Spaced ∧
      ∀ byte ∈ ([34, 32, 32, 34, 10, 120] : Bytes).getLast?, byte ≠ 32 ∧ byte ≠ 10 := by
  have wrote : (Outcome.state (minifyStream { supply := .bytes [32, 34, 32, 32, 34, 32, 10, 120, 10] }
      {})).sink.output.stored.toList = [34, 32, 32, 34, 10, 120] := by decide +kernel
  have succeeded : Outcome.result (minifyStream
      { supply := .bytes [32, 34, 32, 32, 34, 32, 10, 120, 10] } {}) = .ok ⟨9, 6⟩ :=
    eq_ok_of_toOption (by decide +kernel)
  obtain ⟨_, _, _, spaced, last⟩ := written_normal_form _ _ wrote
  exact ⟨wrote, spaced, last _ succeeded⟩

end Script
end ScriptPress
