/-
Every run ends.

The steps of a run are the passes of a loop, which goes on until the end of the input
is held (`Automaton.stepPass`).  Every pass fetches a character, but for the one in
which the end of the input comes next and the one in which it comes to be held, so a
run on `n` bytes makes at most `n + 2` of them.  `Automaton.Enters` lists the loops
that are entered in a step.  They end as well, whatever the streams do.
-/
import ScriptPress.Proofs.Loops

namespace ScriptPress

open Code

/-! ## The end of the input -/

namespace Source

/-- The end of the input is held back only where the stream has been found exhausted. -/
def Sound (s : Source) : Prop :=
  s.lookahead = some none → s.chunk = [] ∧ s.exhausted = true

variable {s s' : Source}

theorem sound_of_clear (h : s.lookahead = none) : s.Sound := by
  intro held
  rw [h] at held
  cases held

theorem pull_none (h : s.pull = .ok none s') : s'.chunk = [] ∧ s'.exhausted = true := by
  unfold pull at h
  split at h
  · cases h
  next empty =>
    split at h
    next dry =>
      cases h
      exact ⟨empty, dry⟩
    · split at h
      · cases h
      · cases h
        exact ⟨empty, rfl⟩
      · cases h

theorem lookahead_state_pull (s : Source) : (Outcome.state s.pull).lookahead = s.lookahead := by
  unfold pull
  split
  · rfl
  · split
    · rfl
    · split <;> rfl

theorem lookahead_state_fetch (s : Source) : (Outcome.state s.fetch).lookahead = none := by
  unfold fetch
  split
  · rfl
  next clear =>
    have kept := s.lookahead_state_pull
    cases pulled : s.pull with
    | error e s₁ =>
      rw [pulled, clear] at kept
      exact kept
    | ok byte s₁ =>
      rw [pulled, clear] at kept
      exact kept

theorem remaining_of_exhausted (clear : s.lookahead.join = none) (empty : s.chunk = [])
    (dry : s.exhausted = true) : s.remaining = 0 := by
  unfold remaining
  rw [empty, dry]
  cases held : s.lookahead with
  | none => rfl
  | some c =>
    rw [held] at clear
    cases c with
    | none => rfl
    | some c => cases clear

/-- Where the end of the input is fetched nothing is left. -/
theorem fetch_none (sound : s.Sound) (h : s.fetch = .ok none s') :
    s'.chunk = [] ∧ s'.exhausted = true ∧ s'.remaining = 0 := by
  have clear : s'.lookahead = none := by
    have := s.lookahead_state_fetch
    rw [h] at this
    exact this
  have ended : s'.chunk = [] ∧ s'.exhausted = true := by
    unfold fetch at h
    split at h
    next c held =>
      cases c with
      | some c => cases h
      | none =>
        cases h
        exact sound held
    · split at h
      · cases h
      next byte s₁ pulled =>
        cases byte with
        | some b => cases h
        | none =>
          cases h
          exact pull_none pulled
  exact ⟨ended.1, ended.2, remaining_of_exhausted (by rw [clear]; rfl) ended.1 ended.2⟩

theorem sound_fetch (s : Source) : (Outcome.state s.fetch).Sound :=
  sound_of_clear s.lookahead_state_fetch

theorem sound_peek (sound : s.Sound) : (Outcome.state s.peek).Sound := by
  unfold peek
  split
  · exact sound
  · cases fetched : s.fetch with
    | error e s₁ =>
      have := s.sound_fetch
      rw [fetched] at this
      exact this
    | ok c s₁ =>
      intro held
      obtain rfl : c = none := Option.some.inj held
      obtain ⟨empty, dry, _⟩ := fetch_none sound fetched
      exact ⟨empty, dry⟩

end Source

theorem Transfer.sound_call {β : Type} (call : Call β) (t : Transfer) (sound : t.source.Sound) :
    (Outcome.state (call.run t)).source.Sound := by
  cases call with
  | fetch => exact state_reading Source.fetch t ▸ t.source.sound_fetch
  | peek => exact state_reading Source.peek t ▸ Source.sound_peek sound
  | put c => exact state_writing (Sink.put c) t ▸ sound
  | blank => exact sound

namespace Comment

variable {s s' : Source}

theorem skipLine_none (sound : s.Sound) (h : skipLine s = .ok none s') : s'.remaining = 0 := by
  fun_induction skipLine s with
  | case1 => cases h
  | case2 s s₁ fetched =>
    cases h
    exact (Source.fetch_none sound fetched).2.2
  | case3 => cases h
  | case4 s c s₁ fetched _ ih =>
    have after := s.sound_fetch
    rw [fetched] at after
    exact ih after h

theorem skipBlock_eq_ok {c : Symbol} (h : skipBlock s = .ok c s') : c = some space := by
  fun_induction skipBlock s with
  | case1 => cases h
  | case2 => cases h
  | case3 => cases h
  | case4 => cases h
  | case5 =>
    cases h
    rfl
  | case6 s _ _ _ _ _ _ ih => exact ih h
  | case7 s _ _ _ _ ih => exact ih h

theorem next_none (sound : s.Sound) (h : next s = .ok none s') : s'.remaining = 0 := by
  rw [next_eq] at h
  obtain ⟨c, s₁, fetched, h⟩ := Outcome.andThen_eq_ok h
  split at h
  next isSlash =>
    obtain ⟨p, s₂, peeked, h⟩ := Outcome.andThen_eq_ok h
    have after := s.sound_fetch
    rw [fetched] at after
    have peekedSound := Source.sound_peek (s := s₁) after
    rw [peeked] at peekedSound
    split at h
    · exact skipLine_none peekedSound h
    · split at h
      · obtain ⟨_, s₃, _, h⟩ := Outcome.andThen_eq_ok h
        cases skipBlock_eq_ok h
      · rw [isSlash] at h
        cases h
  · cases h
    exact (Source.fetch_none sound fetched).2.2

end Comment

namespace Automaton

/-! ## Steps as passes of a loop -/

/-- A step, and whether another one is taken. -/
def stepPass (v : Verdict) (m : Automaton) : Outcome Automaton (Turn Verdict Unit) :=
  Outcome.andThen (step v m) fun _ m =>
    if m.window.held = none then .ok (.leave ()) m
    else .ok (.again (Verdict.of m.window.held m.window.next)) m

/-- All the steps from one on. -/
def stepAll (v : Verdict) (m : Automaton) : Outcome Automaton Unit :=
  Outcome.andThen (step v m) fun _ => drain

theorem consume_eq (m : Automaton) : consume m = stepAll .defer m.primed := by
  rw [consume, bind_of_ok (show remember (fun w => { w with held := some newline }) m =
    .ok () m.primed from rfl)]
  exact Outcome.bind_apply (step .defer) (fun _ => drain) m.primed

theorem stepAll_eq (v : Verdict) (m : Automaton) :
    stepAll v m = Outcome.andThen (stepPass v m) (Turn.follow stepAll) := by
  rw [stepAll, stepPass, Outcome.andThen_assoc]
  congr 1
  funext _ m
  by_cases ended : m.window.held = none
  · rw [if_pos ended, drain, dif_pos ended]
    rfl
  · rw [if_neg ended]
    show drain m = stepAll _ m
    rw [stepAll]
    cases stepped : step (Verdict.of m.window.held m.window.next) m with
    | error e m' => exact drain_of_error ended stepped
    | ok _ m' => exact drain_of_ok ended stepped

theorem stepPass_eq_again {v v' : Verdict} {m m' : Automaton}
    (h : stepPass v m = .ok (.again v') m') :
    step v m = .ok () m' ∧ m'.window.held ≠ none ∧
      v' = Verdict.of m'.window.held m'.window.next := by
  obtain ⟨_, m₁, stepped, h⟩ := Outcome.andThen_eq_ok h
  split at h
  · cases h
  next going =>
    cases h
    exact ⟨stepped, going, rfl⟩

theorem course_of_error {m m' : Automaton} {e : Halt} (going : m.window.held ≠ none)
    (stepped : step (Verdict.of m.window.held m.window.next) m = .error e m') :
    course m = [m] := by
  rw [course, dif_neg going]
  split <;> simp_all

theorem course_of_ok {m m' : Automaton} (going : m.window.held ≠ none)
    (stepped : step (Verdict.of m.window.held m.window.next) m = .ok () m') :
    course m = m :: course m' := by
  rw [course, dif_neg going]
  split <;> simp_all

/-- The steps from one on. -/
def stepsFrom (v : Verdict) (m : Automaton) : List (Verdict × Automaton) :=
  (v, m) ::
    match step v m with
    | .error _ _ => []
    | .ok _ m' => (course m').map fun m => (Verdict.of m.window.held m.window.next, m)

theorem stepsFrom_of_going {m : Automaton} (going : m.window.held ≠ none) :
    stepsFrom (Verdict.of m.window.held m.window.next) m =
      (course m).map fun m => (Verdict.of m.window.held m.window.next, m) := by
  unfold stepsFrom
  cases stepped : step (Verdict.of m.window.held m.window.next) m with
  | error e m' => rw [course_of_error going stepped, List.map_singleton]
  | ok _ m' => rw [course_of_ok going stepped, List.map_cons]

theorem stepsFrom_of_again {v v' : Verdict} {m m' : Automaton}
    (passed : stepPass v m = .ok (.again v') m') :
    stepsFrom v m = (v, m) :: stepsFrom v' m' := by
  obtain ⟨stepped, going, rfl⟩ := stepPass_eq_again passed
  rw [stepsFrom_of_going going, stepsFrom, stepped]

/-- The passes of the loop are the steps of the run. -/
theorem passes_eq_steps {v : Verdict} {m : Automaton} {passes : List (Verdict × Automaton)}
    {outcome : Outcome Automaton Unit} (rounds : Rounds stepPass v m passes outcome) :
    passes = stepsFrom v m := by
  induction rounds with
  | @left v m m' _ passed =>
    obtain ⟨_, m₁, stepped, left⟩ := Outcome.andThen_eq_ok passed
    split at left
    next ended =>
      have none_left : course m₁ = [] := by rw [course, dif_pos ended]
      rw [stepsFrom, stepped]
      simp only [none_left, List.map_nil]
    · cases left
  | @halted v m m' e passed =>
    cases stepped : step v m with
    | error e' m₁ => rw [stepsFrom, stepped]
    | ok _ m₁ =>
      rw [stepPass, stepped, Outcome.andThen_ok] at passed
      split at passed <;> cases passed
  | again passed _ ih => rw [ih, stepsFrom_of_again passed]

/-! ## The number of steps -/

theorem Converses.sound {α : Type} {x : Action Automaton α} (h : Converses x) {m m' : Automaton}
    {a : α} (sound : m.transfer.source.Sound) (ran : x m = .ok a m') :
    m'.transfer.source.Sound := by
  have kept := @Transfer.Dialogue.keeps _ _ _ (fun t => t.source.Sound) Transfer.sound_call
    (h m.window m.transfer) sound
  have called : onTransfer x m.window m.transfer = .ok (a, m'.window) m'.transfer := by
    rw [onTransfer, ran]
  rw [called] at kept
  exact kept

theorem receive_none {m m' : Automaton} (sound : m.transfer.source.Sound)
    (h : receive m = .ok () m') (ended : m'.window.next = none) : m'.remaining = 0 := by
  obtain ⟨c, m₁, read, h⟩ := Action.bind_eq_ok.mp h
  cases h
  obtain rfl : c = none := ended
  exact Comment.next_none sound (Transfer.reading_ok (lift_eq_ok read).1)

/-- After a step the end of the input comes next only if nothing is left. -/
theorem step_none {v : Verdict} {m m' : Automaton} (sound : m.transfer.source.Sound)
    (h : step v m = .ok () m') (ended : m'.window.next = none) : m'.remaining = 0 := by
  obtain ⟨_, m₁, settled, h⟩ := Action.bind_eq_ok.mp h
  obtain ⟨_, m₂, received, h⟩ := Action.bind_eq_ok.mp h
  obtain ⟨w, m₃, looked, h⟩ := Action.bind_eq_ok.mp h
  cases looked
  have sound₁ := (converses_settle v).sound sound settled
  split at h
  · obtain ⟨_, m₄, copied, h⟩ := Action.bind_eq_ok.mp h
    have sound₂ := converses_receive.sound sound₁ received
    exact receive_none (converses_copyRegex.sound sound₂ copied) h ended
  · cases h
    exact receive_none sound₁ received ended

/-- Where a run can be: the end of the input comes next, to be held by the step, only
if nothing is left. -/
structure Due (v : Verdict) (m : Automaton) : Prop where
  sound : m.transfer.source.Sound
  ended : v ≠ .defer → m.window.next = none → m.remaining = 0

/-- Steps that can follow a step: one for each character left and one for the end of
the input to come next, and none once that is about to be held. -/
def stepsAfter (v : Verdict) (m : Automaton) : Nat :=
  if v ≠ .defer ∧ m.window.next = none then 0 else m.remaining + 1

theorem stepPass_falls {v v' : Verdict} {m m' : Automaton} (due : Due v m)
    (passed : stepPass v m = .ok (.again v') m') :
    Due v' m' ∧ stepsAfter v' m' < stepsAfter v m := by
  obtain ⟨stepped, going, rfl⟩ := stepPass_eq_again passed
  have ended := step_none due.sound stepped
  refine ⟨⟨(converses_step v).sound due.sound stepped, fun _ => ended⟩, ?_⟩
  have made := step_eq_ok stepped
  unfold stepsAfter
  by_cases last : v ≠ .defer ∧ m.window.next = none
  · -- The step would have held the end of the input, and nothing is left to be read.
    have empty := due.ended last.1 last.2
    rcases made with less | ⟨_, _, held⟩
    · omega
    · exact absurd (held last.1 last.2) going
  · rw [if_neg last]
    cases next : m'.window.next with
    | none =>
      rw [if_pos ⟨Verdict.of_none_ne_defer _, rfl⟩]
      omega
    | some c =>
      rw [if_neg (by simp)]
      rcases made with less | ⟨_, absent, _⟩
      · omega
      · rw [next] at absent
        cases absent

/-- From any sound source a run ends, after at most two steps more than there are
characters left. -/
theorem rounds_steps {m : Automaton} (sound : m.transfer.source.Sound) :
    Rounds stepPass .defer m.primed m.steps (consume m) ∧ m.steps.length ≤ m.remaining + 2 := by
  obtain ⟨passes, rounds, few⟩ := rounds_of_falls stepAll_eq
    (fun _ _ _ _ => stepPass_falls) (show Due .defer m.primed from ⟨sound, fun go => (go rfl).elim⟩)
  have all : passes = m.steps := passes_eq_steps rounds
  subst all
  rw [consume_eq]
  refine ⟨rounds, Nat.le_trans few (Nat.succ_le_succ ?_)⟩
  rw [stepsAfter, if_neg (fun last => last.1 rfl)]
  exact Nat.le_refl _

end Automaton

/-! ## The loops entered in a step -/

/-- Where a transfer is read with comments collapsed, this loop is entered. -/
inductive Comment.Enters (t : Transfer) : Inner → Symbol → Transfer → Prop
  | line {t₁ t₂ : Transfer} (opens : t.fetch = .ok (some slash) t₁)
      (kind : t₁.peek = .ok (some slash) t₂) : Enters t .line none t₂
  | block {t₁ t₂ t₃ : Transfer} {c : Symbol} (opens : t.fetch = .ok (some slash) t₁)
      (kind : t₁.peek = .ok (some star) t₂) (taken : t₂.fetch = .ok c t₃) : Enters t .block none t₃

namespace Comment.Enters

variable {t t' : Transfer} {loop : Inner} {c : Symbol}

theorem remaining_le (h : Enters t loop c t') : t'.remaining ≤ t.remaining := by
  cases h with
  | line opens kind =>
    exact Nat.le_trans (Source.remaining_peek_le (Transfer.reading_ok kind))
      (Transfer.remaining_fetch_le opens)
  | block opens kind taken =>
    exact Nat.le_trans (Transfer.remaining_fetch_le taken)
      (Nat.le_trans (Source.remaining_peek_le (Transfer.reading_ok kind))
        (Transfer.remaining_fetch_le opens))

theorem calm (h : Enters t loop c t') (start : t.Calm) : t'.Calm ∧ loop.Admits c := by
  cases h with
  | line opens kind =>
    have fetched := (opens ▸ Transfer.fetch_safe start).2
    exact ⟨(kind ▸ Transfer.peek_safe fetched).2, trivial⟩
  | block opens kind taken =>
    have fetched := (opens ▸ Transfer.fetch_safe start).2
    have peeked := (kind ▸ Transfer.peek_safe fetched).2
    exact ⟨(taken ▸ Transfer.fetch_safe peeked).2, trivial⟩

end Comment.Enters

namespace Automaton

/-- In the step `v` from `m` it is asked, at `m'`, whether the slash that comes next
opens a regular expression. -/
structure Tests (v : Verdict) (m m' : Automaton) : Prop where
  reached : ∃ m₁, settle v m = .ok () m₁ ∧ receive m₁ = .ok () m'
  slash : m'.window.next = some slash

/-- In the step `v` from `m` this loop is entered: to copy a quoted literal, to skip a
comment, to copy a regular expression or a character class in it, or to skip a comment
after it. -/
inductive Enters (v : Verdict) (m : Automaton) : Inner → Symbol → Transfer → Prop
  | kept {m₁ : Automaton} (keeps : v = .keep) (written : keepHeld m = .ok () m₁)
      (quote : m.window.next.any isQuote) :
    Enters v m (.enclosed .quoted m.window.next) m.window.next m₁.transfer
  | elided (elides : v = .elide) (quote : m.window.next.any isQuote) :
    Enters v m (.enclosed .quoted m.window.next) m.window.next m.transfer
  | comment {m₁ : Automaton} {loop : Inner} {c : Symbol} {t : Transfer}
      (settled : settle v m = .ok () m₁) (skips : Comment.Enters m₁.transfer loop c t) :
    Enters v m loop c t
  | regex {m₁ m₂ m₃ m₄ : Automaton} (tests : Tests v m m₁) (opens : m₁.window.opensRegex)
      (written : emit m₁.window.held m₁ = .ok () m₂)
      (apart : setApart m₁.window.held m₂ = .ok () m₃)
      (opened : lift (Transfer.put m₁.window.next) m₃ = .ok () m₄) :
    Enters v m .regex none m₄.transfer
  | characterClass {t t₁ t₂ : Transfer} {c : Symbol} {passes : List (Symbol × Transfer)}
      {outcome : Outcome Transfer Symbol} (entered : Enters v m .regex none t)
      (rounds : Rounds Inner.regex.pass none t passes outcome) (within : (c, t₁) ∈ passes)
      (opens : t₁.fetch = .ok (some openBracket) t₂) :
    Enters v m (.enclosed .characterClass (some closeBracket)) (some openBracket) t₂
  | after {m₁ m₂ : Automaton} {loop : Inner} {c : Symbol} {t : Transfer} (tests : Tests v m m₁)
      (opens : m₁.window.opensRegex) (copied : copyRegex m₁ = .ok () m₂)
      (skips : Comment.Enters m₂.transfer loop c t) : Enters v m loop c t

variable {v : Verdict} {m m' : Automaton}

theorem Tests.remaining_le (h : Tests v m m') : m'.remaining ≤ m.remaining := by
  obtain ⟨m₁, settled, received⟩ := h.reached
  exact Nat.le_trans (receive_eq_ok received).1 (settle_eq_ok settled).1

theorem Enters.remaining_le {loop : Inner} {c : Symbol} {t : Transfer} (h : Enters v m loop c t) :
    t.remaining ≤ m.remaining := by
  induction h with
  | kept _ written _ => exact Nat.le_of_eq (keepHeld_eq_ok written).1
  | elided => exact Nat.le_refl _
  | comment settled skips => exact Nat.le_trans skips.remaining_le (settle_eq_ok settled).1
  | @regex m₁ m₂ m₃ m₄ tests _ written apart opened =>
    have := tests.remaining_le
    have := (emit_eq_ok written).1
    have := setApart_eq_ok apart
    have := (put_eq_ok opened).1
    show m₄.remaining ≤ _
    omega
  | characterClass _ rounds within opens ih =>
    exact Nat.le_trans (Transfer.remaining_fetch_le opens)
      (Nat.le_trans (Inner.remaining_of_rounds rounds _ _ within) ih)
  | after tests _ copied skips =>
    exact Nat.le_trans skips.remaining_le (Nat.le_trans (copyRegex_eq_ok copied) tests.remaining_le)

section Mirrored

variable {α : Type} [Coded α] {total : Nat} {p : Plain.State α}

theorem Mirrors.calm (h : Mirrors total m p) : m.transfer.Calm := by
  refine ⟨total, p.rest.map Coded.code, _, h.source, fun c member => ?_, h.sink⟩
  obtain ⟨a, ha, rfl⟩ := List.mem_map.mp member
  exact h.small.rest a ha

theorem Agrees.mirrors {ending : Plain.Ending α} (h : Agrees total (.ok () m) ending) :
    ∃ p, ending = .ok () p ∧ Mirrors total m p := by
  cases h with
  | ok mirrors => exact ⟨_, rfl, mirrors⟩

theorem Tests.mirrors (tests : Tests v m m') (h : Mirrors total m p)
    (held : v = .keep → p.held ≠ none) : ∃ p' : Plain.State α, Mirrors total m' p' := by
  obtain ⟨m₁, settled, received⟩ := tests.reached
  obtain ⟨p₁, _, mirrors₁⟩ := (settled ▸ settle_agrees h held).mirrors
  obtain ⟨p₂, _, mirrors₂⟩ := (received ▸ receive_agrees mirrors₁).mirrors
  exact ⟨p₂, mirrors₂⟩

/-- A loop is entered where neither stream is going to fail. -/
theorem Enters.calm {loop : Inner} {c : Symbol} {t : Transfer} (entered : Enters v m loop c t)
    (h : Mirrors total m p) (held : v = .keep → p.held ≠ none) : t.Calm ∧ loop.Admits c := by
  have quoted (quote : m.window.next.any isQuote) :
      (Inner.enclosed .quoted m.window.next).Admits m.window.next := by
    cases next : m.window.next with
    | none =>
      rw [next] at quote
      cases quote
    | some q =>
      have same : p.next.map Coded.code = some q := by
        rw [← next, h.window]
        rfl
      obtain ⟨a, ha, rfl⟩ := Option.map_eq_some_iff.mp same
      exact ⟨_, rfl, h.small.next a ha⟩
  induction entered with
  | kept keeps written quote =>
    obtain ⟨m₁, called, mirrors⟩ := keepHeld_mirrors h (held keeps)
    cases called.symm.trans written
    exact ⟨mirrors.calm, quoted quote⟩
  | elided _ quote => exact ⟨h.calm, quoted quote⟩
  | comment settled skips =>
    obtain ⟨p₁, _, mirrors⟩ := (settled ▸ settle_agrees h held).mirrors
    exact skips.calm mirrors.calm
  | regex tests opens written apart opened =>
    obtain ⟨p₁, mirrors⟩ := tests.mirrors h held
    obtain ⟨m₂, m₃, m₄, written', apart', opened', mirrors'⟩ :=
      openRegex_mirrors mirrors (mirrors.window ▸ tests.slash) (mirrors.window ▸ opens)
    cases written'.symm.trans written
    cases apart'.symm.trans apart
    cases opened'.symm.trans opened
    exact ⟨mirrors'.calm, trivial⟩
  | @characterClass t t₁ t₂ c passes _ _ rounds within opens ih =>
    have calmly : t₁.Calm := by
      refine @Rounds.kept _ _ _ _ (fun _ t => t.Calm) _ _ _ _ rounds
        (fun c t j t' calm passed => ?_) ih.1 c t₁ within
      exact (passed ▸ Inner.pass_safe .regex trivial calm).2
    exact ⟨(opens ▸ Transfer.fetch_safe calmly).2, openBracket, rfl, by decide⟩
  | after tests opens copied skips =>
    obtain ⟨p₁, mirrors⟩ := tests.mirrors h held
    obtain ⟨p₂, _, mirrors'⟩ := (copied ▸ copyRegex_agrees mirrors (mirrors.window ▸ tests.slash)
      (mirrors.window ▸ opens)).mirrors
    exact skips.calm mirrors'.calm

/-- A mirrored run is mirrored at every step. -/
theorem mirrors_of_rounds {passes : List (Verdict × Automaton)}
    {outcome : Outcome Automaton Unit} (rounds : Rounds stepPass v m passes outcome)
    (h : Mirrors total m p) (held : v = .keep → p.held ≠ none) :
    ∀ v' m', (v', m') ∈ passes →
      ∃ p' : Plain.State α, Mirrors total m' p' ∧ (v' = .keep → p'.held ≠ none) := by
  refine @Rounds.kept _ _ _ _ (fun v m => ∃ p : Plain.State α, Mirrors total m p ∧
    (v = .keep → p.held ≠ none)) _ _ _ _ rounds (fun v₁ m₁ v₂ m₂ mirrored passed => ?_) ⟨p, h, held⟩
  obtain ⟨p₁, mirrors, held₁⟩ := mirrored
  obtain ⟨stepped, going, _⟩ := stepPass_eq_again passed
  obtain ⟨p₂, _, mirrors₂⟩ := (stepped ▸ step_agrees mirrors held₁).mirrors
  exact ⟨p₂, mirrors₂, fun _ => (note_mirrors mirrors₂ going).1⟩

end Mirrored

theorem remaining_of_steps {passes : List (Verdict × Automaton)} {outcome : Outcome Automaton Unit}
    (rounds : Rounds stepPass v m passes outcome) :
    ∀ v' m', (v', m') ∈ passes → m'.remaining ≤ m.remaining := by
  refine @Rounds.kept _ _ _ _ (fun _ m' => m'.remaining ≤ m.remaining) _ _ _ _ rounds
    (fun v₁ m₁ v₂ m₂ small passed => ?_) (Nat.le_refl _)
  rcases step_eq_ok (stepPass_eq_again passed).1 with less | ⟨less, _⟩ <;> omega

theorem remaining_between (input : Stream.Input) (output : Stream.Output) :
    (between input output).remaining = input.remaining := by
  show 0 + 0 + input.remaining = _
  omega

/-- On any input of `n` bytes a run ends, after at most `n + 2` steps, and so does
every loop that is entered in one of them, after at most `n + 1` passes.  Between
streams that do not fail the loop ends with a value or at something that is not
closed. -/
theorem run_terminates (input : Stream.Input) (output : Stream.Output) :
    Rounds stepPass .defer (between input output).primed (between input output).steps
        (consume (between input output)) ∧
      (between input output).steps.length ≤ input.remaining + 2 ∧
      ∀ v m, (v, m) ∈ (between input output).steps → ∀ loop c t, Enters v m loop c t →
        ∃ passes, Rounds loop.pass c t passes (loop.call c t) ∧
          passes.length ≤ input.remaining + 1 ∧
          (input.failingRead = 0 → output = {} →
            (∃ a, Outcome.result (loop.call c t) = .ok a) ∨
              ∃ what position,
                Outcome.result (loop.call c t) = .error (.unterminated what position)) := by
  obtain ⟨rounds, few⟩ := rounds_steps
    (show (between input output).transfer.source.Sound from Source.sound_of_clear rfl)
  rw [remaining_between] at few
  refine ⟨rounds, few, fun v m member loop c t entered => ?_⟩
  obtain ⟨passes, ends, short⟩ := loop.rounds c t
  have left : t.remaining ≤ input.remaining := by
    rw [← remaining_between input output]
    exact Nat.le_trans entered.remaining_le (remaining_of_steps rounds v m member)
  refine ⟨passes, ends, by omega, ?_⟩
  rintro quiet rfl
  have starts : (between input {}).Starts newline _ :=
    Script.between_starts quiet rfl (Script.map_code_nat _)
  obtain ⟨p, mirrors, held⟩ := mirrors_of_rounds rounds starts.mirrors nofun v m member
  obtain ⟨calm, admits⟩ := entered.calm mirrors held
  have safe := loop.call_safe admits calm
  cases called : loop.call c t with
  | ok a t' => exact .inl ⟨a, rfl⟩
  | error e t' =>
    rw [called] at safe
    obtain ⟨what, position, rfl⟩ := safe
    exact .inr ⟨what, position, rfl⟩

/-- `/**/` is skipped in the first of at most six steps. -/
theorem run_terminates_stars :
    (Script.automaton [47, 42, 42, 47]).steps.length ≤ 6 ∧
      ∃ t passes, Enters .defer (Script.automaton [47, 42, 42, 47]).primed .block none t ∧
        Rounds Inner.block.pass none t passes (Inner.block.call none t) ∧ passes.length ≤ 5 ∧
        ((∃ a, Outcome.result (Inner.block.call none t) = .ok a) ∨
          ∃ what position,
            Outcome.result (Inner.block.call none t) = .error (.unterminated what position)) := by
  obtain ⟨_, few, loops⟩ := run_terminates { supply := .bytes [47, 42, 42, 47] } {}
  obtain ⟨t, entered⟩ : ∃ t,
      Enters .defer (Script.automaton [47, 42, 42, 47]).primed .block none t :=
    ⟨_, .comment rfl (.block rfl rfl rfl)⟩
  obtain ⟨passes, ends, short, result⟩ := loops _ _ (List.mem_cons_self ..) _ _ t entered
  exact ⟨few, t, passes, entered, ends, short, result rfl rfl⟩

end Automaton
end ScriptPress
