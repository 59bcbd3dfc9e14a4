/-
The automaton takes both passes at once.

Reading one more item takes a run from a stance to the stance after that item,
so a run that starts before the first item ends having written what the second
pass writes for all of them, or stops at the item the first pass stops at.  The
result is `minify_eq_two_pass`: for every script, minifying it is cutting it into
items and writing these.
-/
import ScriptPress.Proofs.Course
import ScriptPress.Proofs.Stance

namespace ScriptPress

open Code

namespace Plain

variable {ctx : Context} {w : List Nat} {p : State Nat}

/-- A run is about to read the text that `ctx` precedes.  A slash is a token of
its own only if no second one comes right after it. -/
structure Poised (ctx : Context) (w : List Nat) (p : State Nat) : Prop where
  stance : Stance ctx w p
  single : ctx.edge = some slash → ctx.gap = [] → ctx.fresh = false → p.rest.head? ≠ some slash

/-- What a run records while it takes in an item. -/
structure Records (ctx : Context) (item : Item) (p p' : State Nat) : Prop where
  commented : p'.commented = (p.commented || item.isComment)
  kept : p.decided ⊆ p'.decided
  met : ctx.edge = some slash → item = .token (.character star) →
    (some slash, some star) ∈ p'.decided

/-- A run that is poised before an item takes it in, writes what the second pass
writes for it, and is poised again. -/
def Takes (ctx : Context) (w : List Nat) (p : State Nat) (item : Item) (after : List Nat) : Prop :=
  ∃ p', resume ctx.fresh p = resume (ctx.after item).fresh p' ∧
    Poised (ctx.after item) (w ++ Script.written ctx item) p' ∧ p'.rest = after ∧
    Records ctx item p p'

/-- A character read as a separator is one more of the gap. -/
theorem Poised.gap (h : Poised ctx w p) {item : Item} {c : Nat} {after : List Nat}
    (separates : isSeparator c) (read : Plain.next p.rest = .ok (some c, after))
    (context : ctx.after item = { ctx with gap := ctx.gap ++ [c] })
    (unwritten : Script.written ctx item = []) (other : ∀ t, item ≠ .token t)
    (commented : opensComment p.rest = item.isComment) : Takes ctx w p item after := by
  have going : resume ctx.fresh p = drain (p.received (some c) after) := by
    refine resume_of_next read fun isSlash => ?_
    obtain rfl : c = slash := Option.some.inj isSlash
    exact absurd separates (by decide)
  obtain ⟨held, written, lastWritten, settled, stance⟩ := h.stance.separator separates after
  have gap : ({ ctx with gap := ctx.gap ++ [c] } : Context).gap ≠ [] := by simp
  refine ⟨{ (p.received (some c) after).note with held, written, lastWritten },
    ?_, ⟨?_, ?_⟩, rfl, ⟨?_, ?_, ?_⟩⟩
  · rw [going, context, Context.not_fresh gap, resume_stale]
    exact drain_of_settle (p := p.received (some c) after) h.stance.held_ne_none settled
  · rw [context, unwritten, List.append_nil]
    exact stance
  · intro _ none
    rw [context] at none
    exact absurd none gap
  · exact congrArg (p.commented || ·) commented
  · exact List.subset_append_left _ _
  · exact fun _ absurd => (other _ absurd).elim

/-- A comment that ends with the text leaves a run as it stands. -/
theorem Poised.lastComment (h : Poised ctx w p) (opens : opensComment p.rest)
    (read : Plain.next p.rest = .ok (none, [])) : Takes ctx w p (.comment none) [] := by
  have context : ctx.after (.comment none) = ctx := by simp [Context.after, Item.gap]
  have ended : ∀ p' : State Nat, Plain.next p'.rest = .ok (none, []) →
      resume ctx.fresh p' = drain (p'.received none []) := by
    intro p' read
    exact resume_of_next read fun absurd => by cases absurd
  refine ⟨{ p with rest := [], commented := p.commented || true }, ?_, ⟨?_, ?_⟩, rfl,
    ⟨rfl, List.Subset.refl _, fun _ absurd => by cases absurd⟩⟩
  · rw [context, ended p read, ended _ rfl]
    simp only [State.received, opens, Bool.or_true, Bool.true_or]
  · rw [context, show Script.written ctx (.comment none) = [] from rfl, List.append_nil]
    cases h.stance with
    | start edge held unwritten lastWritten w_eq =>
      exact .start edge held unwritten lastWritten w_eq
    | pending edge held w_eq significant dropped sign =>
      exact .pending edge held w_eq significant dropped sign
    | spaceHeld edge held w_eq started lastWritten word gap oneLine =>
      exact .spaceHeld edge held w_eq started lastWritten word gap oneLine
    | lineHeld edge held w_eq started lastWritten ends gap =>
      exact .lineHeld edge held w_eq started lastWritten ends gap
  · intro _ _ _ absurd
    cases absurd

theorem Stance.held_slash (h : Stance ctx w p) (edge : ctx.edge = some slash) :
    p.held = some slash := by
  cases h with
  | start none => rw [edge] at none; cases none
  | pending same held => rw [held, ← same, edge]
  | spaceHeld same _ _ _ _ word =>
    obtain rfl : slash = _ := Option.some.inj (edge.symm.trans same)
    exact absurd word (by decide)
  | lineHeld same _ _ _ _ ends =>
    obtain rfl : slash = _ := Option.some.inj (edge.symm.trans same)
    exact absurd ends (by decide)

theorem Poised.reads (h : Poised ctx w p) {y : Nat} {rest : List Nat} (text : p.rest = y :: rest)
    (plain : opensComment (y :: rest) = false) (division : y = slash → ctx.opensRegex = false) :
    resume ctx.fresh p = drain (p.received (some y) rest) := by
  refine resume_of_next ?_ fun isSlash stale => ?_
  · rw [text, next_of_not_opensComment plain]
    rfl
  · rw [h.stance.opensRegex]
    simpa [Context.opensRegex, stale] using division (Option.some.inj isSlash)

theorem Poised.character (h : Poised ctx w p) {y : Nat} {rest : List Nat}
    (text : p.rest = y :: rest) (significant : isSeparator y = false)
    (unquoted : isQuote y = false) (plain : opensComment (y :: rest) = false)
    (division : y = slash → ctx.opensRegex = false) :
    Takes ctx w p (.token (.character y)) rest := by
  obtain ⟨written, lastWritten, settled, stance⟩ :=
    h.stance.character significant unquoted division rest
  refine ⟨{ (p.received (some y) rest).note with held := some y, written, lastWritten },
    ?_, ⟨stance, ?_⟩, rfl, ⟨?_, ?_, ?_⟩⟩
  · show _ = resume false _
    rw [h.reads text plain division, resume_stale]
    exact drain_of_settle (p := p.received (some y) rest) h.stance.held_ne_none settled
  · intro isSlash _ _
    obtain rfl : y = slash := Option.some.inj isSlash
    intro second
    obtain ⟨after, rfl⟩ : ∃ after, rest = slash :: after := by
      cases rest with
      | nil => cases second
      | cons c after => exact ⟨after, by rw [Option.some.inj second]⟩
    exact absurd plain (by simp [opensComment])
  · show (p.commented || opensComment p.rest) = (p.commented || false)
    rw [text, plain]
  · exact List.subset_append_left _ _
  · intro edge isStar
    obtain rfl : y = star := by simpa using isStar
    refine List.mem_append_right _ (List.mem_singleton.mpr ?_)
    have held : (p.received (some star) rest).held = some slash := h.stance.held_slash edge
    rw [State.window_eq, held]
    rfl

theorem next_of_quote {y : Nat} (quote : isQuote y) (rest : List Nat) :
    opensComment (y :: rest) = false := by
  cases rest with
  | nil => rfl
  | cons b after => simp [opensComment, ne_slash_of_isQuote quote]

theorem next_of_separator {y : Nat} (separates : isSeparator y) (rest : List Nat) :
    opensComment (y :: rest) = false := by
  cases rest with
  | nil => rfl
  | cons b after => rcases isSeparator_iff.mp separates with rfl | rfl <;> rfl

theorem Poised.quoted (h : Poised ctx w p) {y : Nat} {rest body after : List Nat}
    (text : p.rest = y :: rest) (quote : isQuote y)
    (cut : enclosed .quoted y rest = (body, .ok (y, after))) :
    Takes ctx w p (.token (.quoted y body)) after := by
  have plain := next_of_quote quote rest
  have division : y = slash → ctx.opensRegex = false :=
    fun isSlash => absurd isSlash (ne_slash_of_isQuote quote)
  obtain ⟨written, lastWritten, settled, stance⟩ := h.stance.quoted quote cut
  refine ⟨{ (p.received (some y) rest).note with
      held := some y, lastWritten, rest := after, written },
    ?_, ⟨stance, ?_⟩, rfl, ⟨?_, ?_, nofun⟩⟩
  · show _ = resume false _
    rw [h.reads text plain division, resume_stale]
    exact drain_of_settle (p := p.received (some y) rest) h.stance.held_ne_none settled
  · intro isSlash
    exact absurd (Option.some.inj isSlash) (ne_slash_of_isQuote quote)
  · show (p.commented || opensComment p.rest) = (p.commented || false)
    rw [text, plain]
  · exact List.subset_append_left _ _

theorem Poised.readsRegex (h : Poised ctx w p) {rest : List Nat} (text : p.rest = slash :: rest)
    (plain : opensComment (slash :: rest) = false) (opens : ctx.opensRegex) :
    ∃ written lastWritten,
      resume ctx.fresh p =
        (match copy (regexBody false rest)
            { p.received (some slash) rest with written, lastWritten } with
        | .error what p => .error what p
        | .ok _ p => resume true p) ∧
      written.map Entry.char = w ++ Script.between ctx.edge ctx.gap slash ++ [slash] := by
  obtain ⟨admits, stale⟩ : ctx.edge.any admitsRegex = true ∧ ctx.fresh = false := by
    simpa [Context.opensRegex] using opens
  have apart : ctx.edge = some slash → ctx.gap ≠ [] := by
    intro edge none
    exact h.single edge none stale (by rw [text]; rfl)
  obtain ⟨written, lastWritten, copied, wrote⟩ := h.stance.regex opens apart rest
  refine ⟨written, lastWritten, ?_, wrote⟩
  have read : receive p = .ok () (p.received (some slash) rest) :=
    receive_of_next (by rw [text, next_of_not_opensComment plain]; rfl)
  rw [stale, resume_stale, proceed, arrive_of_receive read, if_pos, ← copied]
  · cases ended : copyRegex (p.received (some slash) rest) with
    | error what p₁ => rw [bind_of_error ended]
    | ok _ p₁ =>
      rw [bind_of_ok ended]
      show _ = resume true p₁
      rw [resume, if_pos rfl]
      cases receive p₁ <;> rfl
  · rw [h.stance.opensRegex, admits, State.window_eq]
    rfl

theorem Poised.regex (h : Poised ctx w p) {rest body after : List Nat}
    (text : p.rest = slash :: rest) (plain : opensComment (slash :: rest) = false)
    (opens : ctx.opensRegex) (cut : regexBody false rest = (body, .ok (slash, after))) :
    Takes ctx w p (.token (.regex body)) after := by
  obtain ⟨written, lastWritten, going, wrote⟩ := h.readsRegex text plain opens
  rw [cut] at going
  refine ⟨{ p.received (some slash) rest with
      held := some slash, lastWritten, rest := after
      written := written ++ body.map (Entry.mk · true) },
    going, ⟨?_, ?_⟩, rfl, ⟨?_, List.Subset.refl _, nofun⟩⟩
  · refine .pending rfl rfl ?_ rfl (.inl rfl) (fun sign : isSign slash => absurd sign (by decide))
    simp [Script.written, Token.text, Token.edge, State.text, wrote, Function.comp_def]
  · exact fun _ _ stale => absurd (show true = false from stale) (by decide)
  · show (p.commented || opensComment p.rest) = (p.commented || false)
    rw [text, plain]

/-- One step of the simulation: whatever the item is, a run takes it. -/
theorem Poised.takes (h : Poised ctx w p) {c : Nat} {rest after : List Nat} {item : Item}
    (text : p.rest = c :: rest) (first : Script.First ctx c rest item after) :
    Takes ctx w p item after := by
  cases first with
  | separator separates =>
    have plain : opensComment p.rest = false := text ▸ next_of_separator separates rest
    refine h.gap separates ?_ rfl rfl nofun plain
    rw [next_of_not_opensComment plain, text]
    rfl
  | @comment reads _ opens read =>
    rw [← text] at opens read
    cases reads with
    | none =>
      obtain rfl := rest_of_next_none read
      exact h.lastComment opens read
    | some c => exact h.gap (separator_of_comment opens read) read rfl rfl nofun opens
  | quoted quote cut => exact h.quoted text quote cut
  | regex isSlash plain opens cut =>
    subst isSlash
    exact h.regex text plain opens cut
  | character significant unquoted plain division =>
    exact h.character text significant unquoted plain division

theorem Stance.text_prefix (h : Stance ctx w p) : p.text <+: w := by
  cases h with
  | start _ _ unwritten => simp [State.text, unwritten]
  | pending _ _ w_eq => exact w_eq ▸ List.prefix_append p.text _
  | spaceHeld _ _ w_eq => exact w_eq ▸ List.prefix_rfl
  | lineHeld _ _ w_eq => exact w_eq ▸ List.prefix_rfl

theorem Poised.halts (h : Poised ctx w p) {c : Nat} {rest : List Nat} {what : Construct}
    (text : p.rest = c :: rest) (unclosed : Script.Unclosed ctx c rest what) :
    ∃ p', resume ctx.fresh p = .error what p' ∧
      p'.commented = (p.commented || decide (what = .comment)) ∧ p.decided ⊆ p'.decided ∧
      p'.text <+: w ++ Script.torn ctx c rest what := by
  cases unclosed with
  | comment opens read =>
    rw [← text] at opens read
    have failed := receive_of_error read
    have arrived : arrive p = .error .comment _ := bind_of_error failed
    refine ⟨{ p with commented := p.commented || opensComment p.rest, rest := [] }, ?_,
      by simp [opens], List.Subset.refl _, ?_⟩
    · cases fresh : ctx.fresh with
      | true => rw [resume, if_pos rfl, failed]
      | false => rw [resume_stale, proceed, arrived]
    · exact h.stance.text_prefix.trans (List.prefix_append w _)
  | quoted quote cut =>
    have plain := next_of_quote quote rest
    have division : c = slash → ctx.opensRegex = false :=
      fun isSlash => absurd isSlash (ne_slash_of_isQuote quote)
    obtain ⟨written, lastWritten, settled, wrote⟩ :=
      h.stance.token (not_isSeparator_of_isQuote quote) division rest
    have shifted : shift { (p.received (some c) rest).note with written, lastWritten } =
        .error .quoted { (p.received (some c) rest).note with
          held := some c, lastWritten, rest := []
          written := written ++ [⟨c, true⟩] ++
            (enclosed .quoted c rest).1.map (Entry.mk · true) } := by
      rw [shift_of_quote (a := c) rfl quote]
      show copy (enclosed .quoted c rest) _ = _
      rw [copy, cut]
      rfl
    refine ⟨_, (h.reads text plain division).trans (drain_of_settle_error
      (p := p.received (some c) rest) h.stance.held_ne_none (settled.trans shifted)), ?_, ?_, ?_⟩
    · show (p.commented || opensComment p.rest) = _
      rw [text, plain]
      rfl
    · exact List.subset_append_left _ _
    · have copied := (enclosed_of .quoted c rest).copied cut
      rw [Script.torn_of_ne (by decide)]
      simp [State.text, wrote, copied, Function.comp_def]
  | regex isSlash plain opens cut named =>
    subst isSlash
    obtain ⟨written, lastWritten, going, wrote⟩ := h.readsRegex text plain opens
    rw [copy, cut] at going
    refine ⟨_, going, ?_, List.Subset.refl _, ?_⟩
    · show (p.commented || opensComment p.rest) = _
      rw [text, plain]
      simp [named]
    · have copied := (regexBody_of false rest).copied cut
      rw [Script.torn_of_ne named]
      simp [State.text, wrote, copied, Function.comp_def]

theorem Poised.ends (h : Poised ctx w p) (text : p.rest = []) :
    ∃ p', resume ctx.fresh p = .ok () p' ∧ p'.text = w ∧ p'.commented = p.commented ∧
      p.decided ⊆ p'.decided := by
  obtain ⟨written, lastWritten, settled, wrote⟩ := h.stance.ending
  have going : resume ctx.fresh p = drain (p.received none []) :=
    resume_of_next (by rw [text]; rfl) nofun
  have ended : ∀ p' : State Nat, p'.held = none → p'.rest = [] →
      proceed p' = .ok () (p'.received none []) := by
    intro p' held empty
    rw [proceed, arrive_of_receive (receive_of_next (c := none) (by rw [empty]; rfl)), if_neg]
    · exact drain_of_end held
    · rw [State.window_eq]
      simp [State.received]
  refine ⟨_, going.trans ((drain_of_settle (p := p.received none []) h.stance.held_ne_none
    settled).trans (ended _ rfl rfl)), wrote, ?_, ?_⟩
  · simp [State.received, State.note, text, opensComment]
  · exact List.subset_append_left _ _

/-! ## Whole runs -/

def stopped (fault : Option Construct) (p : State Nat) : Ending Nat :=
  match fault with
  | none => .ok () p
  | some what => .error what p

/-- The state `p'` in which a run ends that was poised before `items`. -/
structure Finished (ctx : Context) (w : List Nat) (p : State Nat) (items : List Item)
    (fault : Option Construct) (p' : State Nat) : Prop where
  text : fault = none → p'.text = w ++ Script.join ctx items
  commented : p'.commented = (p.commented || Script.hasComment (items, fault))
  kept : p.decided ⊆ p'.decided
  met : [.character slash, .character star] <:+: ctx.token.toList ++ Script.tokens items →
    (some slash, some star) ∈ p'.decided

theorem Finished.cons {item : Item} {items : List Item} {fault : Option Construct}
    {p₁ p' : State Nat} (records : Records ctx item p p₁)
    (h : Finished (ctx.after item) (w ++ Script.written ctx item) p₁ items fault p') :
    Finished ctx w p (item :: items) fault p' where
  text ok := by rw [h.text ok, Script.join, List.append_assoc]
  commented := by
    rw [h.commented, records.commented, Script.hasComment, Script.hasComment, List.any_cons]
    simp only [Bool.or_assoc]
  kept := List.Subset.trans records.kept h.kept
  met touching := by
    cases item with
    | separator c => exact h.met touching
    | comment reads => exact h.met touching
    | token t =>
      have touching : [.character slash, .character star] <:+:
          ctx.token.toList ++ t :: Script.tokens items := touching
      cases before : ctx.token with
      | none =>
        rw [before] at touching
        exact h.met touching
      | some s =>
        rw [before] at touching
        rcases List.infix_cons_iff.mp touching with here | later
        · obtain ⟨rfl, second⟩ := List.cons_prefix_cons.mp here
          obtain ⟨rfl, _⟩ := List.cons_prefix_cons.mp second
          exact h.kept (records.met (by rw [Context.edge, before]; rfl) rfl)
        · exact h.met later

/-- A run ends where the first pass does, and writes what the second one writes. -/
theorem Poised.finishes (h : Poised ctx w p) :
    ∃ p', resume ctx.fresh p = stopped (Script.split ctx p.rest).2 p' ∧
      Finished ctx w p (Script.split ctx p.rest).1 (Script.split ctx p.rest).2 p' := by
  generalize text : p.rest = remaining
  fun_induction Script.split ctx remaining generalizing p w with
  | case1 ctx =>
    obtain ⟨p', ended, wrote, commented, kept⟩ := h.ends text
    refine ⟨p', ended, ⟨fun _ => ?_, ?_, kept, fun touching => ?_⟩⟩
    · rw [wrote, Script.join, List.append_nil]
    · simp [commented, Script.hasComment]
    · have := touching.length_le
      cases before : ctx.token <;> simp [before, Script.tokens] at this
  | case2 ctx c rest what unclosed =>
    obtain ⟨p', halted, commented, kept, _⟩ := h.halts text (Script.first_eq_error unclosed)
    refine ⟨p', halted, ⟨fun closed => ?_, ?_, kept, fun touching => ?_⟩⟩
    · cases closed
    · simp [commented, Script.hasComment]
    · have := touching.length_le
      cases before : ctx.token <;> simp [before, Script.tokens] at this
  | case3 ctx c rest item after first items fault rec ih =>
    obtain ⟨p₁, going, poised, rest₁, records⟩ := h.takes text (Script.first_eq_ok first)
    obtain ⟨p', ended, finished⟩ := ih poised rest₁
    rw [rec] at ended finished
    exact ⟨p', going.trans ended, finished.cons records⟩

end Plain

namespace Script

theorem poised_start (text : List Nat) :
    Plain.Poised {} [] { held := some newline, rest := text } :=
  ⟨.start rfl rfl rfl rfl rfl, nofun⟩

theorem run_finishes (text : List Nat) :
    ∃ p', Plain.run newline text = Plain.stopped (split {} text).2 p' ∧
      Plain.Finished {} [] { held := some newline, rest := text } (split {} text).1
        (split {} text).2 p' := by
  obtain ⟨p', ended, finished⟩ := (poised_start text).finishes
  refine ⟨p', ?_, finished⟩
  rw [show Context.fresh {} = false from rfl, Plain.resume_stale] at ended
  exact ended

theorem minify_eq_run {script : Bytes} (h : script ≠ []) :
    minify script =
      match Plain.run newline (characters script) with
      | .ok _ p => .ok (Plain.bytes p.text)
      | .error what _ => .error (.unterminated what script.length) := by
  have agrees := @minifyStream_agrees Nat _ script newline _ rfl
    (map_code_nat (characters script))
  have nonempty : script.isEmpty = false := by simpa using h
  unfold minify minifyTallied
  rw [nonempty]
  generalize Plain.run newline (characters script) = ending at agrees
  cases ending with
  | ok _ p =>
    obtain ⟨tally, t, streamed, stored⟩ := agrees
    rw [if_neg (by decide), streamed]
    show Except.ok t.sink.output.stored.toList = _
    rw [stored]
  | error what p =>
    obtain ⟨t, streamed, _⟩ := agrees
    rw [if_neg (by decide), streamed]
    rfl

theorem minify_of_closed {script : Bytes} {items : List Item}
    (h : split {} (characters script) = (items, none)) :
    minify script = .ok (Plain.bytes (join {} items)) := by
  by_cases empty : script = []
  · subst empty
    rw [show characters [] = [] from rfl, split_nil] at h
    cases h
    rfl
  · obtain ⟨p', ran, finished⟩ := run_finishes (characters script)
    rw [h] at ran finished
    rw [minify_eq_run empty, ran]
    show Except.ok (Plain.bytes p'.text) = _
    rw [finished.text rfl, List.nil_append]

theorem minify_of_unclosed {script : Bytes} {items : List Item} {what : Construct}
    (h : split {} (characters script) = (items, some what)) :
    minify script = .error (.unterminated what script.length) := by
  by_cases empty : script = []
  · subst empty
    rw [show characters [] = [] from rfl, split_nil] at h
    cases h
  · obtain ⟨p', ran, _⟩ := run_finishes (characters script)
    rw [h] at ran
    rw [minify_eq_run empty, ran]
    rfl

theorem closed_of_minify {script out : Bytes} (h : minify script = .ok out) :
    ∃ items, split {} (characters script) = (items, none) ∧
      out = Plain.bytes (join {} items) := by
  cases passed : split {} (characters script) with
  | mk items fault =>
  cases fault with
  | none =>
    rw [minify_of_closed passed] at h
    exact ⟨items, rfl, (Except.ok.inj h).symm⟩
  | some what =>
    rw [minify_of_unclosed passed] at h
    cases h

theorem minify_eq_ok {script out : Bytes} (closed : (split {} (characters script)).2 = none)
    (wrote : Plain.bytes (join {} (split {} (characters script)).1) = out) :
    minify script = .ok out := by
  rw [minify_of_closed (Prod.ext rfl closed), wrote]

/-- Minifying a script is cutting it into items and writing these.  If an item is
not closed, the script is rejected for it. -/
theorem minify_eq_two_pass (script : Bytes) :
    minify script =
      match split {} (characters script) with
      | (items, none) => .ok (Plain.bytes (join {} items))
      | (_, some what) => .error (.unterminated what script.length) := by
  split
  next closed => exact minify_of_closed closed
  next unclosed => exact minify_of_unclosed unclosed

end Script
end ScriptPress
