/-
A run is a dialogue with its streams.

Whatever a run does to a transfer it does by a few calls, and which call comes
next depends only on the answers so far.  `Dialogue` says so of an action.  It is
shown once of every loop over a source and of every part of a step, for streams
that may fail.  What each call keeps is then kept by a whole run, however it ends
(`Dialogue.keeps`), and transfers that answer alike are led to the same end.
-/
import ScriptPress.Proofs.Course

namespace ScriptPress

open Code

theorem eq_ok_of_toOption {ε α : Type} {x : Except ε α} {a : α} (h : x.toOption = some a) :
    x = .ok a := by
  cases x with
  | ok b => exact congrArg Except.ok (Option.some.inj h)
  | error e => cases h

namespace Outcome

variable {σ α β : Type}

/-- What a call leaves behind, however it ends. -/
def state : Outcome σ α → σ
  | .ok _ s => s
  | .error _ s => s

/-- What a call ends with, without what it leaves behind. -/
def result : Outcome σ α → Except Halt α
  | .ok a _ => .ok a
  | .error e _ => .error e

/-- Why a call stopped, if it did. -/
def halt? : Outcome σ α → Option Halt
  | .ok _ _ => none
  | .error e _ => some e

theorem result_of_halt? {r : Outcome σ α} {e : Halt} (h : halt? r = some e) :
    result r = .error e := by
  cases r with
  | ok a s => cases h
  | error e' s =>
    cases h
    rfl

/-- Go on after a call that ends with a value. -/
def andThen (r : Outcome σ α) (go : α → σ → Outcome σ β) : Outcome σ β :=
  match r with
  | .ok a s => go a s
  | .error e s => .error e s

@[simp] theorem andThen_ok (a : α) (s : σ) (go : α → σ → Outcome σ β) :
    andThen (.ok a s) go = go a s := rfl

@[simp] theorem andThen_error (e : Halt) (s : σ) (go : α → σ → Outcome σ β) :
    andThen (.error e s) go = .error e s := rfl

theorem andThen_assoc {γ : Type} (r : Outcome σ α) (go : α → σ → Outcome σ β)
    (more : β → σ → Outcome σ γ) :
    andThen (andThen r go) more = andThen r fun a s => andThen (go a s) more := by
  cases r <;> rfl

theorem andThen_pure (r : Outcome σ α) : (andThen r fun a s => .ok a s) = r := by
  cases r <;> rfl

theorem bind_apply (x : Action σ α) (f : α → Action σ β) (s : σ) :
    (x >>= f) s = andThen (x s) f := by
  cases h : x s with
  | ok a s₁ => rw [bind_of_ok h]; rfl
  | error e s₁ => rw [bind_of_error h]; rfl

end Outcome

/-! ## Loops, a call at a time -/

namespace Comment

theorem skipLine_eq (s : Source) : skipLine s = Outcome.andThen s.fetch fun c s =>
    if c = none ∨ c = some newline then .ok c s else skipLine s := by
  rw [skipLine]
  split
  next h => rw [h]; rfl
  next h => rw [h]; rfl
  next c s' h =>
    rw [h]
    by_cases line : c = newline <;> simp [line]

theorem skipBlock_eq (s : Source) : skipBlock s = Outcome.andThen s.fetch fun c s =>
    match c with
    | none => .error (.unterminated .comment s.position) s
    | some c =>
      if c = star then
        Outcome.andThen s.peek fun p s =>
          if p = some slash then Outcome.andThen s.fetch fun _ s => .ok (some space) s
          else skipBlock s
      else skipBlock s := by
  rw [skipBlock]
  split
  next h => rw [h]; rfl
  next h => rw [h]; rfl
  next c s' h =>
    rw [h]
    dsimp only [Outcome.andThen_ok]
    split
    · split
      next h' => rw [h']; rfl
      next p s'' h' =>
        rw [h']
        dsimp only [Outcome.andThen_ok]
        split
        · cases s''.fetch <;> rfl
        · rfl
    · rfl

theorem next_eq (s : Source) : next s = Outcome.andThen s.fetch fun c s =>
    if c = some slash then
      Outcome.andThen s.peek fun p s =>
        if p = some slash then skipLine s
        else if p = some star then Outcome.andThen s.fetch fun _ s => skipBlock s
        else .ok c s
    else .ok c s := by
  unfold next
  cases s.fetch with
  | error e s => rfl
  | ok c s =>
    dsimp only [Outcome.andThen_ok]
    split
    · cases s.peek with
      | error e s => rfl
      | ok p s =>
        dsimp only [Outcome.andThen_ok]
        split
        · rfl
        · split
          · cases s.fetch <;> rfl
          · rfl
    · rfl

end Comment

namespace Literal

open Transfer

theorem enclosed_eq (what : Construct) (close c : Symbol) (t : Transfer) :
    enclosed what close c t = Outcome.andThen (advance c t) fun c₁ t =>
      if c₁ = close then .ok c₁ t
      else Outcome.andThen (protect c₁ t) fun c₂ t =>
        match c₂ with
        | none => .error (.unterminated what t.source.position) t
        | some c₂ => enclosed what close (some c₂) t := by
  rw [enclosed]
  split
  next h => rw [h]; rfl
  next c₁ t₁ h =>
    rw [h]
    dsimp only [Outcome.andThen_ok]
    split
    · rfl
    · split
      next h' => rw [h']; rfl
      next h' => rw [h']; rfl
      next h' => rw [h']; rfl

theorem regex_eq (t : Transfer) :
    regex t = Outcome.andThen (fetch t) fun c t =>
      if c = some slash then .ok c t
      else Outcome.andThen (regexUnit c t) fun c₂ t =>
        match c₂ with
        | none => .error (.unterminated .regex t.source.position) t
        | some c₂ => Outcome.andThen (put (some c₂) t) fun _ t => regex t := by
  rw [regex]
  split
  next h => rw [h]; rfl
  next c t₁ h =>
    rw [h]
    dsimp only [Outcome.andThen_ok]
    split
    · rfl
    · split
      next h' => rw [h']; rfl
      next h' => rw [h']; rfl
      next c₂ t₂ h' =>
        rw [h']
        dsimp only [Outcome.andThen_ok]
        split
        next h'' => rw [h'']; rfl
        next h'' => rw [h'']; rfl

end Literal

/-! ## Dialogues -/

namespace Transfer

/-- What a run asks of a transfer. -/
inductive Call : Type → Type
  | fetch : Call Symbol
  | peek : Call Symbol
  | put (c : Symbol) : Call Unit
  | blank : Call Bool

def Call.run {β : Type} : Call β → Transfer → Outcome Transfer β
  | .fetch => Transfer.fetch
  | .peek => Transfer.peek
  | .put c => Transfer.put c
  | .blank => fun t => .ok (t.sink.written == 0) t

/-- On the transfer `t` an action makes one call after the other, each chosen by
the answers to those before it. -/
inductive Dialogue {α : Type} : (Transfer → Outcome Transfer α) → Transfer → Prop
  | done (a : α) (t : Transfer) : Dialogue (fun t => .ok a t) t
  | unclosed (what : Construct) (t : Transfer) :
    Dialogue (fun t => .error (.unterminated what t.source.position) t) t
  | ask {β : Type} (call : Call β) {go : β → Transfer → Outcome Transfer α} {t : Transfer}
      (goes : ∀ b t₁, call.run t = .ok b t₁ → Dialogue (go b) t₁) :
      Dialogue (fun t => Outcome.andThen (call.run t) go) t

namespace Dialogue

variable {α β : Type} {x y : Transfer → Outcome Transfer α} {t : Transfer}

theorem congr (h : Dialogue y t) (same : ∀ t, x t = y t) : Dialogue x t := by
  rw [funext same]
  exact h

theorem single (call : Call β) (t : Transfer) : Dialogue call.run t :=
  congr (.ask call fun b t₁ _ => .done b t₁) fun t => (Outcome.andThen_pure (call.run t)).symm

theorem bind {go : α → Transfer → Outcome Transfer β} (h : Dialogue x t)
    (goes : ∀ a t₁, x t = .ok a t₁ → Dialogue (go a) t₁) :
    Dialogue (fun t => Outcome.andThen (x t) go) t := by
  induction h with
  | done a t => exact goes a t rfl
  | unclosed what t => exact .unclosed what t
  | @ask β call more t asked ih =>
    refine congr (.ask call fun b t₁ answered => ih b t₁ answered fun a t₂ ended => ?_)
      fun t => Outcome.andThen_assoc (call.run t) more go
    refine goes a t₂ ?_
    show Outcome.andThen (call.run t) more = _
    rw [answered]
    exact ended

theorem branch {c : Prop} [Decidable c] (pos : c → Dialogue x t) (neg : ¬ c → Dialogue y t) :
    Dialogue (fun t => if c then x t else y t) t := by
  by_cases h : c
  · exact congr (pos h) fun t => if_pos h
  · exact congr (neg h) fun t => if_neg h

/-- What every call keeps is kept to the end of a dialogue, however it ends. -/
theorem keeps {inv : Transfer → Prop}
    (kept : ∀ {β : Type} (call : Call β) (t : Transfer), inv t → inv (Outcome.state (call.run t)))
    (h : Dialogue x t) (start : inv t) : inv (Outcome.state (x t)) := by
  induction h with
  | done a t => exact start
  | unclosed what t => exact start
  | @ask β call go t _ ih =>
    have asked := kept call t start
    show inv (Outcome.state (Outcome.andThen (call.run t) go))
    cases answer : call.run t with
    | ok b t₁ =>
      rw [answer] at asked
      exact ih b t₁ answer asked
    | error e t₁ =>
      rw [answer] at asked
      exact asked

end Dialogue

theorem state_reading {α : Type} (call : Source → Outcome Source α) (t : Transfer) :
    Outcome.state (reading call t) = ⟨Outcome.state (call t.source), t.sink⟩ := by
  unfold reading
  dsimp only
  cases call t.source <;> rfl

theorem state_writing {α : Type} (call : Sink → Outcome Sink α) (t : Transfer) :
    Outcome.state (writing call t) = ⟨t.source, Outcome.state (call t.sink)⟩ := by
  unfold writing
  dsimp only
  cases call t.sink <;> rfl

theorem halt?_writing {α : Type} (call : Sink → Outcome Sink α) (t : Transfer) :
    Outcome.halt? (writing call t) = Outcome.halt? (call t.sink) := by
  unfold writing
  dsimp only
  cases call t.sink <;> rfl

/-- What putting a character keeps of a sink is kept by a whole dialogue. -/
theorem Dialogue.keeps_sink {α : Type} {x : Transfer → Outcome Transfer α} {t : Transfer}
    {inv : Sink → Prop} (kept : ∀ s c, inv s → inv (Outcome.state (s.put c)))
    (h : Dialogue x t) (start : inv t.sink) : inv (Outcome.state (x t)).sink := by
  let held (t : Transfer) : Prop := inv t.sink
  have called {β : Type} (call : Call β) (t : Transfer) (start : held t) :
      held (Outcome.state (call.run t)) := by
    cases call with
    | fetch => exact state_reading Source.fetch t ▸ start
    | peek => exact state_reading Source.peek t ▸ start
    | put c => exact state_writing (Sink.put c) t ▸ kept t.sink c start
    | blank => exact start
  exact h.keeps called (start : held t)

/-! ## Reading -/

section Reading

variable {α β : Type}

/-- Calls on the source in a row are calls on the transfer in a row. -/
theorem reading_andThen {call : Source → Outcome Source α} {first : Source → Outcome Source β}
    {go : β → Source → Outcome Source α} (h : ∀ s, call s = Outcome.andThen (first s) go)
    (t : Transfer) :
    reading call t = Outcome.andThen (reading first t) fun b => reading (go b) := by
  obtain ⟨source, sink⟩ := t
  simp only [reading, h]
  cases first source <;> rfl

theorem reading_done (a : α) (t : Transfer) : Dialogue (reading fun s => .ok a s) t :=
  .done a t

theorem reading_branch {c : Prop} [Decidable c] {x y : Source → Outcome Source α} {t : Transfer}
    (pos : c → Dialogue (reading x) t) (neg : ¬ c → Dialogue (reading y) t) :
    Dialogue (reading fun s => if c then x s else y s) t := by
  by_cases h : c
  · simpa only [if_pos h] using pos h
  · simpa only [if_neg h] using neg h

theorem skipLine_dialogue (t : Transfer) : Dialogue (reading Comment.skipLine) t := by
  refine .congr (.ask .fetch fun c t₁ fetched => ?_) (reading_andThen Comment.skipLine_eq)
  refine reading_branch (fun _ => reading_done c t₁) fun going => ?_
  cases c with
  | none => exact absurd (.inl rfl) going
  | some c => exact skipLine_dialogue t₁
termination_by t.remaining
decreasing_by exact remaining_fetch_some fetched

theorem skipBlock_dialogue (t : Transfer) : Dialogue (reading Comment.skipBlock) t := by
  refine .congr (.ask .fetch fun c t₁ fetched => ?_) (reading_andThen Comment.skipBlock_eq)
  cases c with
  | none => exact .unclosed .comment t₁
  | some c =>
    refine reading_branch (fun _ => ?_) fun _ => skipBlock_dialogue t₁
    refine .congr (.ask .peek fun p t₂ peeked => ?_) (reading_andThen fun _ => rfl)
    refine reading_branch (fun _ => ?_) fun _ => skipBlock_dialogue t₂
    exact .congr (.ask .fetch fun _ t₃ _ => reading_done _ t₃) (reading_andThen fun _ => rfl)
termination_by t.remaining
decreasing_by
  · exact Nat.lt_of_le_of_lt (Source.remaining_peek_le (reading_ok peeked))
      (remaining_fetch_some fetched)
  · exact remaining_fetch_some fetched

theorem next_dialogue (t : Transfer) : Dialogue (reading Comment.next) t := by
  refine .congr (.ask .fetch fun c t₁ _ => ?_) (reading_andThen Comment.next_eq)
  refine reading_branch (fun _ => ?_) fun _ => reading_done c t₁
  refine .congr (.ask .peek fun p t₂ _ => ?_) (reading_andThen fun _ => rfl)
  refine reading_branch (fun _ => skipLine_dialogue t₂) fun _ => ?_
  refine reading_branch (fun _ => ?_) fun _ => reading_done c t₂
  exact .congr (.ask .fetch fun _ t₃ _ => skipBlock_dialogue t₃) (reading_andThen fun _ => rfl)

end Reading

/-! ## Copying -/

theorem advance_dialogue (c : Symbol) (t : Transfer) : Dialogue (Literal.advance c) t :=
  .congr (.ask (.put c) fun _ t₁ _ => .single .fetch t₁) (Outcome.bind_apply (put c) _)

theorem protect_dialogue (c : Symbol) (t : Transfer) : Dialogue (Literal.protect c) t := by
  unfold Literal.protect
  split
  · exact advance_dialogue c t
  · exact .done c t

theorem enclosed_dialogue (what : Construct) (close c : Symbol) (t : Transfer) :
    Dialogue (Literal.enclosed what close c) t := by
  refine .congr (.bind (advance_dialogue c t) fun c₁ t₁ advanced => ?_)
    (Literal.enclosed_eq what close c)
  refine .branch (fun _ => .done c₁ t₁) fun _ => ?_
  refine .bind (protect_dialogue c₁ t₁) fun c₂ t₂ copied => ?_
  cases c₂ with
  | none => exact .unclosed what t₂
  | some c₂ => exact enclosed_dialogue what close (some c₂) t₂
termination_by t.remaining
decreasing_by
  cases c₁ with
  | none => simp [Literal.protect_none] at copied
  | some c₁ =>
    exact Nat.lt_of_le_of_lt (Literal.remaining_protect_le copied)
      ((Literal.remaining_advance advanced).2 rfl)

theorem regexUnit_dialogue (c : Symbol) (t : Transfer) : Dialogue (Literal.regexUnit c) t :=
  .branch (fun _ => enclosed_dialogue _ _ c t) fun _ => protect_dialogue c t

theorem regex_dialogue (t : Transfer) : Dialogue Literal.regex t := by
  refine .congr (.ask .fetch fun c t₁ fetched => ?_) Literal.regex_eq
  refine .branch (fun _ => .done c t₁) fun _ => ?_
  refine .bind (regexUnit_dialogue c t₁) fun c₂ t₂ copied => ?_
  cases c₂ with
  | none => exact .unclosed .regex t₂
  | some c₂ => exact .ask (.put (some c₂)) fun _ t₃ written => regex_dialogue t₃
termination_by t.remaining
decreasing_by
  cases c with
  | none => simp [Literal.regexUnit_none] at copied
  | some c =>
    have := remaining_fetch_some fetched
    have := Literal.remaining_regexUnit_le copied
    have := remaining_put written
    omega

end Transfer

/-! ## Steps and runs -/

namespace Automaton

open Transfer

/-- What a call on an automaton does to the transfer, from the window `w` on. -/
def onTransfer {α : Type} (x : Action Automaton α) (w : Window) (t : Transfer) :
    Outcome Transfer (α × Window) :=
  match x ⟨w, t⟩ with
  | .ok a m => .ok (a, m.window) m.transfer
  | .error e m => .error e m.transfer

/-- A call on an automaton is a dialogue with the transfer, whatever the window. -/
def Converses {α : Type} (x : Action Automaton α) : Prop := ∀ w t, Dialogue (onTransfer x w) t

variable {α β : Type} {x : Action Automaton α}

theorem onTransfer_bind (x : Action Automaton α) (f : α → Action Automaton β) (w : Window)
    (t : Transfer) : onTransfer (x >>= f) w t =
      Outcome.andThen (onTransfer x w t) fun r => onTransfer (f r.1) r.2 := by
  simp only [onTransfer, Outcome.bind_apply]
  cases x ⟨w, t⟩ <;> rfl

theorem Converses.bind {f : α → Action Automaton β} (h : Converses x)
    (goes : ∀ a, Converses (f a)) : Converses (x >>= f) := fun w t =>
  .congr (.bind (h w t) fun r t₁ _ => goes r.1 r.2 t₁) (onTransfer_bind x f w)

theorem Converses.lift {call : Transfer → Outcome Transfer α} (h : ∀ t, Dialogue call t) :
    Converses (lift call) := fun w t =>
  .congr (.bind (h t) fun a t₁ _ => .done (a, w) t₁) fun t => by
    simp only [onTransfer, Automaton.lift]
    cases call t <;> rfl

theorem converses_pure (a : α) : Converses (pure a : Action Automaton α) :=
  fun w t => .done (a, w) t

theorem converses_look : Converses look := fun w t => .done (w, w) t

theorem converses_remember (change : Window → Window) : Converses (remember change) :=
  fun w t => .done ((), change w) t

theorem converses_blank : Converses blank := fun w _ =>
  .congr (.ask .blank fun b t₁ _ => .done (b, w) t₁) fun _ => rfl

theorem converses_put (c : Symbol) : Converses (lift (Transfer.put c)) :=
  .lift (.single (.put c))

theorem converses_emit (c : Symbol) : Converses (emit c) := by
  refine converses_blank.bind fun start => ?_
  split
  · exact converses_pure ()
  · refine (converses_put c).bind fun _ => ?_
    split
    · exact converses_pure ()
    · exact converses_remember _

theorem converses_keepHeld : Converses keepHeld := by
  refine converses_look.bind fun w => (converses_emit w.held).bind fun _ => ?_
  split
  · exact converses_put w.beforeLast
  · exact converses_pure ()

theorem converses_shift : Converses shift := by
  refine converses_look.bind fun w => (converses_remember _).bind fun _ => ?_
  split
  · refine Converses.bind (.lift ?_) fun close => converses_remember _
    exact enclosed_dialogue .quoted w.next w.next
  · exact converses_pure ()

theorem converses_receive : Converses receive :=
  Converses.bind (.lift next_dialogue) fun _ => converses_remember _

theorem converses_setApart (c : Symbol) : Converses (setApart c) := by
  unfold setApart
  split
  · exact converses_put (some space)
  · exact converses_pure ()

theorem converses_copyRegex : Converses copyRegex :=
  converses_look.bind fun w => (converses_emit w.held).bind fun _ =>
    (converses_setApart w.held).bind fun _ => (converses_put w.next).bind fun _ =>
      Converses.bind (.lift regex_dialogue) fun _ => converses_remember _

theorem converses_settle (v : Verdict) : Converses (settle v) := by
  cases v with
  | keep => exact converses_keepHeld.bind fun _ => converses_shift
  | elide => exact converses_shift
  | defer => exact converses_pure ()

theorem converses_arrive : Converses arrive := by
  refine converses_receive.bind fun _ => converses_look.bind fun w => ?_
  split
  · exact converses_copyRegex.bind fun _ => converses_receive
  · exact converses_pure ()

theorem converses_step (v : Verdict) : Converses (step v) :=
  (converses_settle v).bind fun _ => converses_arrive

theorem onTransfer_eq_ok {w w' : Window} {t t' : Transfer} {a : α}
    (h : onTransfer x w t = .ok (a, w') t') : x ⟨w, t⟩ = .ok a ⟨w', t'⟩ := by
  unfold onTransfer at h
  split at h
  next m called =>
    cases h
    exact called
  · cases h

theorem onTransfer_drain {w : Window} (going : w.held ≠ none) (t : Transfer) :
    onTransfer drain w t =
      Outcome.andThen (onTransfer (step (Verdict.of w.held w.next)) w t) fun r =>
        onTransfer drain r.2 := by
  cases stepped : step (Verdict.of w.held w.next) ⟨w, t⟩ with
  | ok _ m =>
    have drained : drain ⟨w, t⟩ = drain m := drain_of_ok going stepped
    simp only [onTransfer, stepped, drained, Outcome.andThen_ok]
  | error e m =>
    have drained : drain ⟨w, t⟩ = .error e m := drain_of_error going stepped
    simp only [onTransfer, stepped, drained, Outcome.andThen_error]

theorem drain_dialogue (w : Window) (t : Transfer) : Dialogue (onTransfer drain w) t := by
  by_cases ended : w.held = none
  · refine .congr (.done ((), w) t) fun t => ?_
    have drained : drain ⟨w, t⟩ = .ok () ⟨w, t⟩ := by rw [drain, dif_pos ended]
    simp only [onTransfer, drained]
  · exact .congr (.bind (converses_step _ w t) fun r t₁ stepped => drain_dialogue r.2 t₁)
      (onTransfer_drain ended)
termination_by distance ⟨w, t⟩
decreasing_by exact distance_step ended (onTransfer_eq_ok stepped)

/-- Taking in a whole script is a dialogue with its streams. -/
theorem converses_consume : Converses consume :=
  (converses_remember _).bind fun _ => (converses_step .defer).bind fun _ => drain_dialogue

end Automaton

namespace Transfer

/-- The end of a run: the rest of the buffer is flushed, and only a flush that
fails changes how the run ends. -/
def finish {α : Type} (r : Outcome Transfer α) : Outcome Transfer Tally :=
  match r with
  | .ok _ t => Outcome.andThen t.flush fun _ t => .ok ⟨t.source.position, t.sink.written⟩ t
  | .error e t => Outcome.andThen t.flush fun _ t => .error e t

theorem state_finish {α : Type} (r : Outcome Transfer α) :
    Outcome.state (finish r) = Outcome.state (Outcome.state r).flush := by
  cases r with
  | ok a t =>
    simp only [finish, Outcome.state]
    cases t.flush <;> rfl
  | error e t =>
    simp only [finish, Outcome.state]
    cases t.flush <;> rfl

theorem halt?_finish {α : Type} (r : Outcome Transfer α) :
    Outcome.halt? (finish r) = (Outcome.halt? (Outcome.state r).flush).or (Outcome.halt? r) := by
  cases r with
  | ok a t =>
    simp only [finish, Outcome.state]
    cases t.flush <;> rfl
  | error e t =>
    simp only [finish, Outcome.state]
    cases t.flush <;> rfl

end Transfer

namespace Script

variable (input : Stream.Input) (output : Stream.Output)

/-- Taking in the script of a stream: a run without its last flush. -/
def consumed : Outcome Transfer (Unit × Window) :=
  Automaton.onTransfer Automaton.consume {} (.between input output)

theorem minifyStream_eq : minifyStream input output = Transfer.finish (consumed input output) := by
  unfold minifyStream Automaton.run consumed Automaton.onTransfer
  rw [show Automaton.between input output = ⟨{}, .between input output⟩ from rfl]
  cases Automaton.consume ⟨{}, .between input output⟩ with
  | ok _ m =>
    simp only [Automaton.lift, Transfer.finish]
    cases m.transfer.flush <;> rfl
  | error e m =>
    simp only [Automaton.lift, Transfer.finish]
    cases m.transfer.flush <;> rfl

end Script
end ScriptPress
