/-
Where a run stands between two items.

A run keeps no list of items.  All it knows of the token written last and of the
separators read since lies in the character it holds, in the last one read and in
the last one written.  `Stance` says how.  The lemmas about it say what one more
separator, a token or the end of the text makes of a stance, and that by then a
run has written what the second pass writes.
-/
import ScriptPress.Proofs.Items
import ScriptPress.Proofs.Plain.Machine

namespace ScriptPress

open Code

/-! ## What stands between two tokens -/

namespace Script

theorem between_of_dropped {x y : Nat} {gap : List Nat}
    (dropped : gap = [] ∨ isWord x = false ∧ (newline ∈ gap → keepsLineAfter x = false)) :
    between (some x) gap y =
      if gap = [] then []
      else if x = slash ∧ y = slash ∨ isSign x ∧ isSign y then [space]
      else [] := by
  rcases dropped with none | ⟨noWord, noLine⟩
  · simp [between, none]
  · by_cases none : gap = []
    · simp [between, none]
    · by_cases slashes : x = slash ∧ y = slash
      · simp [between, none, slashes]
      · by_cases line : newline ∈ gap
        · have noLine := noLine line
          have noSign : isSign x = false := by
            cases sign : isSign x with
            | false => rfl
            | true => rw [keepsLineAfter_of_isSign sign] at noLine; cases noLine
          simp [between, none, slashes, line, noWord, noLine, noSign]
        · simp [between, none, slashes, line, noWord]

theorem between_of_word {x y : Nat} {gap : List Nat} (word : isWord x) (gap_ne : gap ≠ [])
    (oneLine : newline ∉ gap) :
    between (some x) gap y = if isWord y then [space] else [] := by
  have notSlash : x ≠ slash := ne_slash_of_ends (by simp [word])
  simp [between, gap_ne, oneLine, notSlash, word, not_isSign_of_isWord word]

theorem between_of_line {x y : Nat} {gap : List Nat} (ends : keepsLineAfter x || isWord x)
    (line : newline ∈ gap) :
    between (some x) gap y =
      if keepsLineBefore y || isWord y || (y == slash && admitsRegex x) then [newline] else [] := by
  have notSlash : x ≠ slash := ne_slash_of_ends ends
  have gap_ne : gap ≠ [] := List.ne_nil_of_mem line
  simp only [between, gap_ne, if_false, notSlash, false_and, line, if_true, ends, Bool.true_and]

end Script

namespace Context

variable {ctx : Context}

theorem not_fresh (h : ctx.gap ≠ []) : ctx.fresh = false := by
  simp [fresh, h]

theorem not_admitsRegex {x : Nat} (edge : ctx.edge = some x) (gap : ctx.gap ≠ [])
    (h : ctx.opensRegex = false) : admitsRegex x = false := by
  simpa [opensRegex, edge, not_fresh gap] using h

end Context

namespace Plain

/-! ## Going on -/

/-- Go on with a run.  After a regular expression no other one may follow at
once. -/
def resume (fresh : Bool) (p : State Nat) : Ending Nat :=
  match (if fresh then receive else arrive) p with
  | .error what p => .error what p
  | .ok _ p => drain p

theorem resume_stale (p : State Nat) : resume false p = proceed p := by
  unfold resume proceed
  rw [if_neg (by decide)]
  cases arrive p <;> rfl

theorem State.window_eq (p : State Nat) :
    p.window = ⟨p.held, p.next, p.last, p.beforeLast, p.lastWritten⟩ := by
  simp [State.window]

variable {p : State Nat} {c : Symbol} {rest : List Nat} {fresh : Bool}

/-- Unless a regular expression is read, a step is taken next. -/
theorem resume_of_next (read : Plain.next p.rest = .ok (c, rest))
    (plain : c = some slash → fresh = false → (p.received c rest).window.opensRegex = false) :
    resume fresh p = drain (p.received c rest) := by
  unfold resume
  cases fresh with
  | true => rw [if_pos rfl, receive_of_next read]
  | false =>
    rw [if_neg (by decide), arrive_of_receive (receive_of_next read), if_neg]
    intro both
    rw [Bool.and_eq_true, decide_eq_true_eq] at both
    have isSlash : c = some slash := by
      rw [State.window_eq] at both
      exact both.1
    rw [plain isSlash rfl] at both
    exact absurd both.2 (by decide)

theorem verdict_received (p : State Nat) (c : Symbol) (rest : List Nat) :
    (p.received c rest).verdict = Verdict.of p.held c := by
  rw [State.verdict, State.window_eq]
  rfl

theorem setApart_of_slash (held : p.held = some slash) :
    p.setApart = p.put false (some space) := by
  simp [State.setApart, held]

theorem setApart_of_other {c : Nat} (held : p.held = some c) (other : c ≠ slash) :
    p.setApart = p := by
  simp [State.setApart, held, other]

/-! ## Stances -/

/-- What a run remembers of the token before the text left and of the separators
since.  The text `w` up to the end of that token is written, its last character
excepted while that is held. -/
inductive Stance (ctx : Context) (w : List Nat) (p : State Nat) : Prop
  | start (edge : ctx.edge = none) (held : p.held = some newline) (unwritten : p.written = [])
      (lastWritten : p.lastWritten = none) (w_eq : w = [])
  /-- The end of the token is held: none of the separators might be kept, or
  there are none. -/
  | pending {x : Nat} (edge : ctx.edge = some x) (held : p.held = some x)
      (w_eq : w = p.text ++ [x]) (significant : isSeparator x = false)
      (dropped : ctx.gap = [] ∨
        isWord x = false ∧ (newline ∈ ctx.gap → keepsLineAfter x = false))
      (sign : isSign x → p.last = some (if ctx.gap = [] then x else space))
  | spaceHeld {x : Nat} (edge : ctx.edge = some x) (held : p.held = some space)
      (w_eq : w = p.text) (started : p.written ≠ []) (lastWritten : p.lastWritten = some x)
      (word : isWord x) (gap : ctx.gap ≠ []) (oneLine : newline ∉ ctx.gap)
  | lineHeld {x : Nat} (edge : ctx.edge = some x) (held : p.held = some newline)
      (w_eq : w = p.text) (started : p.written ≠ []) (lastWritten : p.lastWritten = some x)
      (ends : keepsLineAfter x || isWord x) (gap : newline ∈ ctx.gap)

namespace Stance

variable {ctx : Context} {w : List Nat}

theorem held_ne_none (h : Stance ctx w p) : p.held ≠ none := by
  cases h with
  | start _ held => rw [held]; nofun
  | pending _ held => rw [held]; nofun
  | spaceHeld _ held => rw [held]; nofun
  | lineHeld _ held => rw [held]; nofun

/-- The automaton looks for regular expressions after the right tokens. -/
theorem opensRegex (h : Stance ctx w p) (c : Symbol) (rest : List Nat) :
    (p.received c rest).window.opensRegex = ctx.edge.any admitsRegex := by
  have window : (p.received c rest).window.opensRegex =
      (p.held.any admitsRegex || (p.held == some newline && p.lastWritten.any admitsRegex)) := by
    rw [State.window_eq]
    rfl
  rw [window]
  cases h with
  | start edge held _ lastWritten => simp [edge, held, lastWritten, admitsRegex]; decide
  | pending edge held _ significant =>
    have notLine := (not_isSeparator_iff.mp significant).2
    simp [edge, held, notLine]
  | spaceHeld edge held _ _ _ word =>
    rw [edge, held, Option.any_some, Option.any_some, not_admitsRegex_of_isWord word]
    rfl
  | lineHeld edge held _ _ lastWritten =>
    rw [edge, held, lastWritten]
    rfl

/-- A separator takes a run to the stance in which it is one of the gap. -/
theorem separator (h : Stance ctx w p) {c : Nat} (separates : isSeparator c) (rest : List Nat) :
    ∃ held written lastWritten,
      settle (p.received (some c) rest).verdict (p.received (some c) rest).note =
        .ok () { (p.received (some c) rest).note with held, written, lastWritten } ∧
      Stance { ctx with gap := ctx.gap ++ [c] } w
        { (p.received (some c) rest).note with held, written, lastWritten } := by
  rw [verdict_received]
  have elided : settle .elide (p.received (some c) rest).note =
      .ok () { (p.received (some c) rest).note with held := some c } := by
    show shift (p.received (some c) rest).note = _
    exact shift_of_other (a := c) rfl (not_isQuote_of_isSeparator separates)
  cases h with
  | start edge held unwritten lastWritten w_eq =>
    rw [held, Verdict.of_newline]
    rcases isSeparator_iff.mp separates with rfl | rfl
    · exact ⟨p.held, p.written, p.lastWritten, rfl, .start edge held unwritten lastWritten w_eq⟩
    · exact ⟨some newline, p.written, p.lastWritten, elided,
        .start edge rfl unwritten lastWritten w_eq⟩
  | spaceHeld edge held w_eq started lastWritten word gap oneLine =>
    rw [held, Verdict.of_space]
    rcases isSeparator_iff.mp separates with rfl | rfl
    · refine ⟨some space, p.written, p.lastWritten, elided,
        .spaceHeld edge rfl w_eq started lastWritten word (by simp) ?_⟩
      simpa [oneLine] using by decide
    · exact ⟨some newline, p.written, p.lastWritten, elided,
        .lineHeld edge rfl w_eq started lastWritten (by simp [word]) (by simp)⟩
  | lineHeld edge held w_eq started lastWritten ends gap =>
    rw [held, Verdict.of_newline]
    have gap : ∀ c, newline ∈ ctx.gap ++ [c] := fun c => List.mem_append_left _ gap
    rcases isSeparator_iff.mp separates with rfl | rfl
    · exact ⟨p.held, p.written, p.lastWritten, rfl,
        .lineHeld edge held w_eq started lastWritten ends (gap _)⟩
    · exact ⟨some newline, p.written, p.lastWritten, elided,
        .lineHeld edge rfl w_eq started lastWritten ends (gap _)⟩
  | @pending x edge held w_eq significant dropped sign =>
    -- a kept end of a token is written, and the separator is held instead
    have kept : settle .keep (p.received (some c) rest).note =
        .ok () { (p.received (some c) rest).note with
          held := some c, written := p.written ++ [⟨x, false⟩], lastWritten := some x } := by
      have apart : (p.received (some c) rest).note.window.fusesSigns = false := by
        simp [State.window_eq, Window.fusesSigns, State.note, State.received,
          not_isSign_of_isSeparator separates]
      show shift (p.received (some c) rest).note.keepHeld = _
      rw [State.keepHeld_of_significant (p := (p.received (some c) rest).note) held significant apart]
      exact shift_of_other (a := c) rfl (not_isQuote_of_isSeparator separates)
    have text : w = (p.written ++ [Entry.mk x false]).map Entry.char := by
      simp [w_eq, State.text]
    rw [held, Verdict.of_significant significant]
    rcases isSeparator_iff.mp separates with rfl | rfl
    · cases word : isWord x with
      | true =>
        have gap : ctx.gap = [] := by simpa [word] using dropped
        rw [show Verdict.afterOther (some x) (some space) = .keep by simp [Verdict.afterOther, word]]
        refine ⟨some space, _, some x, kept, .spaceHeld edge rfl text (by simp) rfl word (by simp) ?_⟩
        show newline ∉ ctx.gap ++ [space]
        rw [gap]
        decide
      | false =>
        rw [show Verdict.afterOther (some x) (some space) = .defer by simp [Verdict.afterOther, word]]
        refine ⟨p.held, p.written, p.lastWritten, rfl,
          .pending edge held w_eq significant (.inr ⟨word, ?_⟩) (fun _ => by simp; rfl)⟩
        intro inGap
        have : newline ∈ ctx.gap := by simpa [show newline ≠ space by decide] using inGap
        rcases dropped with none | ⟨_, dropped⟩
        · simp [none] at this
        · exact dropped this
    · cases ends : keepsLineAfter x || isWord x with
      | true =>
        rw [show Verdict.afterOther (some x) (some newline) = .keep by
          simp [Verdict.afterOther, ends, show newline ≠ space by decide]]
        exact ⟨some newline, _, some x, kept,
          .lineHeld edge rfl text (by simp) rfl ends (by simp)⟩
      | false =>
        rw [show Verdict.afterOther (some x) (some newline) = .defer by
          simp [Verdict.afterOther, ends, show newline ≠ space by decide]]
        obtain ⟨noLine, noWord⟩ := Bool.or_eq_false_iff.mp ends
        refine ⟨p.held, p.written, p.lastWritten, rfl,
          .pending edge held w_eq significant (.inr ⟨noWord, fun _ => noLine⟩) ?_⟩
        intro isSign
        rw [keepsLineAfter_of_isSign isSign] at noLine
        cases noLine

/-- A token that starts with `y` makes a run write what stands between, and move
on to `y`. -/
theorem token (h : Stance ctx w p) {y : Nat} (significant : isSeparator y = false)
    (division : y = slash → ctx.opensRegex = false) (rest : List Nat) :
    ∃ written lastWritten,
      settle (p.received (some y) rest).verdict (p.received (some y) rest).note =
        shift { (p.received (some y) rest).note with written, lastWritten } ∧
      written.map Entry.char = w ++ Script.between ctx.edge ctx.gap y := by
  rw [verdict_received]
  obtain ⟨notSpace, notLine⟩ := not_isSeparator_iff.mp significant
  cases h with
  | start edge held unwritten lastWritten w_eq =>
    have blank : (p.received (some y) rest).note.keepHeld = (p.received (some y) rest).note :=
      State.keepHeld_of_leading held (by decide) unwritten
    refine ⟨p.written, p.lastWritten, ?_, by simp [unwritten, w_eq, edge, Script.between]⟩
    rw [held, Verdict.of_newline]
    have moved : ∀ v, v ≠ .defer → settle v (p.received (some y) rest).note =
        shift (p.received (some y) rest).note := by
      intro v moves
      cases v with
      | keep => exact congrArg shift blank
      | elide => rfl
      | defer => exact absurd rfl moves
    refine moved _ ?_
    simp only [Verdict.afterLine]
    repeat' split
    all_goals simp_all
  | @spaceHeld x edge held w_eq started lastWritten word gap oneLine =>
    rw [held, Verdict.of_space, edge, Script.between_of_word word gap oneLine]
    cases wordNext : isWord y with
    | true =>
      have kept : (p.received (some y) rest).note.keepHeld =
          (p.received (some y) rest).note.put false (some space) :=
        State.keepHeld_of_started held (by decide) started
      refine ⟨p.written ++ [⟨space, false⟩], p.lastWritten, ?_, by simp [w_eq, State.text]⟩
      rw [show Verdict.afterSpace (some y) = .keep by simp [Verdict.afterSpace, wordNext]]
      exact congrArg shift kept
    | false =>
      refine ⟨p.written, p.lastWritten, ?_, by simp [w_eq, State.text]⟩
      rw [show Verdict.afterSpace (some y) = .elide by simp [Verdict.afterSpace, wordNext]]
      rfl
  | @lineHeld x edge held w_eq started lastWritten ends gap =>
    have gap_ne : ctx.gap ≠ [] := List.ne_nil_of_mem gap
    have noRegex : (y == slash && admitsRegex x) = false := by
      by_cases isSlash : y = slash
      · rw [Context.not_admitsRegex edge gap_ne (division isSlash), Bool.and_false]
      · simp [isSlash]
    rw [held, Verdict.of_newline, edge, Script.between_of_line ends gap, noRegex, Bool.or_false]
    cases starts : keepsLineBefore y || isWord y with
    | true =>
      have kept : (p.received (some y) rest).note.keepHeld =
          (p.received (some y) rest).note.put false (some newline) :=
        State.keepHeld_of_started held (by decide) started
      refine ⟨p.written ++ [⟨newline, false⟩], p.lastWritten, ?_, by simp [w_eq, State.text]⟩
      rw [show Verdict.afterLine (some y) = .keep by
        simp only [Verdict.afterLine, Option.any_some, Option.some.injEq, notSpace, if_false]
        cases before : keepsLineBefore y <;> simp_all]
      exact congrArg shift kept
    | false =>
      obtain ⟨notBefore, noWord⟩ := Bool.or_eq_false_iff.mp starts
      refine ⟨p.written, p.lastWritten, ?_, by simp [w_eq, State.text]⟩
      rw [show Verdict.afterLine (some y) = .elide by
        simp [Verdict.afterLine, notBefore, noWord, notSpace]]
      rfl
  | @pending x edge held w_eq significant dropped sign =>
    have kept : Verdict.afterOther (some x) (some y) = .keep := by
      simp [Verdict.afterOther, notSpace, notLine]
    have noSlashes : ctx.gap ≠ [] → ¬ (x = slash ∧ y = slash) := by
      rintro gap ⟨rfl, rfl⟩
      exact absurd (Context.not_admitsRegex edge gap (division rfl)) (by decide)
    have fuses : (p.received (some y) rest).note.window.fusesSigns =
        (isSign x && isSign y && !ctx.gap.isEmpty) := by
      rw [State.window_eq]
      simp only [Window.fusesSigns, State.note, State.received, held, Option.any_some]
      cases signs : isSign x && isSign y with
      | false => rfl
      | true =>
        obtain ⟨signX, _⟩ := Bool.and_eq_true_iff.mp signs
        rw [sign signX]
        by_cases gap : ctx.gap = []
        · simp [gap, not_isSeparator_of_isSign signX]
        · simp [gap, isSeparator]
    have wrote : (p.received (some y) rest).note.emit (some x) =
        { (p.received (some y) rest).note with
          written := p.written ++ [⟨x, false⟩], lastWritten := some x } :=
      State.emit_of_significant significant
    rw [held, Verdict.of_significant significant, kept, edge, Script.between_of_dropped dropped]
    show ∃ written lastWritten, shift (p.received (some y) rest).note.keepHeld = _ ∧ _
    rw [State.keepHeld, fuses, show (p.received (some y) rest).note.held = some x from held, wrote]
    by_cases gap : ctx.gap = []
    · refine ⟨_, _, by rw [gap, if_neg (by simp)], ?_⟩
      simp [gap, w_eq, State.text]
    · rw [if_neg gap]
      cases signs : isSign x && isSign y with
      | false =>
        refine ⟨_, _, by rw [if_neg (by simp)], ?_⟩
        have : ¬ (isSign x ∧ isSign y) := by simpa using signs
        simp [noSlashes gap, this, w_eq, State.text]
      | true =>
        obtain ⟨signX, signY⟩ := Bool.and_eq_true_iff.mp signs
        have blank : (p.received (some y) rest).note.beforeLast = some space := by
          show p.last = some space
          rw [sign signX, if_neg gap]
        refine ⟨p.written ++ [⟨x, false⟩, ⟨space, false⟩], some x, ?_, ?_⟩
        · rw [if_pos (by simp [gap]), blank]
          simp [State.put]
        · simp [signX, signY, w_eq, State.text]

/-- A single character is written for, and held. -/
theorem character (h : Stance ctx w p) {y : Nat} (significant : isSeparator y = false)
    (unquoted : isQuote y = false) (division : y = slash → ctx.opensRegex = false)
    (rest : List Nat) :
    ∃ written lastWritten,
      settle (p.received (some y) rest).verdict (p.received (some y) rest).note =
        .ok () { (p.received (some y) rest).note with held := some y, written, lastWritten } ∧
      Stance (ctx.after (.token (.character y)))
        (w ++ Script.written ctx (.token (.character y)))
        { (p.received (some y) rest).note with held := some y, written, lastWritten } := by
  obtain ⟨written, lastWritten, settled, wrote⟩ := h.token significant division rest
  have shifted : shift { (p.received (some y) rest).note with written, lastWritten } =
      .ok () { (p.received (some y) rest).note with held := some y, written, lastWritten } :=
    shift_of_other (a := y) rfl unquoted
  refine ⟨written, lastWritten, settled.trans shifted,
    .pending rfl rfl ?_ significant (.inl rfl) (fun _ => rfl)⟩
  show w ++ (Script.between ctx.edge ctx.gap y ++ [y]) = written.map Entry.char ++ [y]
  rw [wrote, List.append_assoc]

/-- A quoted literal is copied, and its closing quote held. -/
theorem quoted (h : Stance ctx w p) {y : Nat} {rest body after : List Nat} (quote : isQuote y)
    (cut : enclosed .quoted y rest = (body, .ok (y, after))) :
    ∃ written lastWritten,
      settle (p.received (some y) rest).verdict (p.received (some y) rest).note =
        .ok () { (p.received (some y) rest).note with
          held := some y, lastWritten, rest := after, written } ∧
      Stance (ctx.after (.token (.quoted y body)))
        (w ++ Script.written ctx (.token (.quoted y body)))
        { (p.received (some y) rest).note with
          held := some y, lastWritten, rest := after, written } := by
  have significant := not_isSeparator_of_isQuote quote
  obtain ⟨written, lastWritten, settled, wrote⟩ := h.token significant
    (fun isSlash => absurd isSlash (ne_slash_of_isQuote quote)) rest
  have shifted : shift { (p.received (some y) rest).note with written, lastWritten } =
      .ok () { (p.received (some y) rest).note with
        held := some y, lastWritten, rest := after
        written := written ++ [⟨y, true⟩] ++ body.map (Entry.mk · true) } := by
    rw [shift_of_quote (a := y) rfl quote]
    show copy (enclosed .quoted y rest) _ = _
    rw [cut]
    rfl
  refine ⟨_, lastWritten, settled.trans shifted,
    .pending rfl rfl ?_ significant (.inl rfl) (fun sign => ?_)⟩
  · simp [Script.written, Token.text, Token.edge, State.text, wrote, Function.comp_def]
  · rcases isSign_iff.mp sign with rfl | rfl <;> exact absurd quote (by decide)

/-- A regular expression makes a run write what stands between, and its slash. -/
theorem regex (h : Stance ctx w p) (opens : ctx.opensRegex)
    (apart : ctx.edge = some slash → ctx.gap ≠ []) (rest : List Nat) :
    ∃ written lastWritten,
      copyRegex (p.received (some slash) rest) =
        copy (regexBody false rest) { p.received (some slash) rest with written, lastWritten } ∧
      written.map Entry.char = w ++ Script.between ctx.edge ctx.gap slash ++ [slash] := by
  have admits : ctx.edge.any admitsRegex := (Bool.and_eq_true_iff.mp opens).1
  unfold copyRegex
  cases h with
  | start edge => simp [edge] at admits
  | spaceHeld edge _ _ _ _ word =>
    simp [edge, not_admitsRegex_of_isWord word] at admits
  | @lineHeld x edge held w_eq started lastWritten ends gap =>
    have admits : admitsRegex x := by simpa [edge] using admits
    have wrote : (p.received (some slash) rest).emit (some newline) =
        (p.received (some slash) rest).put false (some newline) :=
      State.emit_of_separator (by decide) started
    refine ⟨p.written ++ [⟨newline, false⟩, ⟨slash, true⟩], p.lastWritten, ?_, ?_⟩
    · rw [show (p.received (some slash) rest).held = some newline from held,
        (congrArg State.setApart wrote).trans (setApart_of_other held (by decide))]
      simp [State.put, State.received]
    · rw [edge, Script.between_of_line ends gap]
      simp [admits, w_eq, State.text]
  | @pending x edge held w_eq significant dropped sign =>
    have wrote : (p.received (some slash) rest).emit (some x) =
        { (p.received (some slash) rest).put false (some x) with lastWritten := some x } :=
      State.emit_of_significant significant
    rw [show (p.received (some slash) rest).held = some x from held, edge,
      Script.between_of_dropped dropped]
    by_cases isSlash : x = slash
    · have gap : ctx.gap ≠ [] := apart (isSlash ▸ edge)
      refine ⟨p.written ++ [⟨x, false⟩, ⟨space, false⟩, ⟨slash, true⟩], some x, ?_, ?_⟩
      · rw [(congrArg State.setApart wrote).trans (setApart_of_slash (isSlash ▸ held))]
        simp [State.put, State.received]
      · simp [gap, isSlash, w_eq, State.text]
    · refine ⟨p.written ++ [⟨x, false⟩, ⟨slash, true⟩], some x, ?_, ?_⟩
      · rw [(congrArg State.setApart wrote).trans (setApart_of_other held isSlash)]
        simp [State.put, State.received]
      · have noSign : isSign slash = false := rfl
        simp [isSlash, noSign, w_eq, State.text]

theorem ending (h : Stance ctx w p) :
    ∃ written lastWritten,
      settle (p.received none []).verdict (p.received none []).note =
        .ok () { (p.received none []).note with held := none, written, lastWritten } ∧
      written.map Entry.char = w := by
  rw [verdict_received]
  have elided : settle .elide (p.received none []).note =
      .ok () { (p.received none []).note with held := none } := by
    show shift (p.received none []).note = _
    exact shift_of_none rfl
  cases h with
  | start edge held unwritten _ w_eq =>
    rw [held]
    exact ⟨p.written, p.lastWritten, elided, by simp [unwritten, w_eq]⟩
  | spaceHeld edge held w_eq =>
    rw [held]
    exact ⟨p.written, p.lastWritten, elided, w_eq.symm⟩
  | lineHeld edge held w_eq =>
    rw [held]
    exact ⟨p.written, p.lastWritten, elided, w_eq.symm⟩
  | @pending x edge held w_eq significant =>
    refine ⟨p.written ++ [⟨x, false⟩], some x, ?_, by simp [w_eq, State.text]⟩
    rw [held, Verdict.of_significant significant]
    show shift (p.received none []).note.keepHeld = _
    have apart : (p.received none []).note.window.fusesSigns = false := by
      simp [State.window_eq, Window.fusesSigns, State.note, State.received]
    rw [State.keepHeld_of_significant (p := (p.received none []).note) held significant apart]
    exact shift_of_none rfl

end Stance
end Plain
end ScriptPress
