/-
Loops and their passes.

`Rounds` relates a loop, given by what one of its passes does, to the passes it makes
and to its end.  Nothing is assumed of a loop that would not end: it is related to
nothing.  A loop whose passes use up a bound ends (`rounds_of_falls`), and the loops
that skip comments and copy literals are of this kind on every transfer, whatever its
streams do (`Inner.rounds`).  Where the streams do not fail, they end with a value or
at something that is not closed.
-/
import ScriptPress.Proofs.Dialogue

namespace ScriptPress

open Code

theorem Outcome.andThen_eq_ok {σ α β : Type} {r : Outcome σ α} {go : α → σ → Outcome σ β}
    {b : β} {s' : σ} (h : r.andThen go = .ok b s') : ∃ a s, r = .ok a s ∧ go a s = .ok b s' := by
  cases r with
  | ok a s => exact ⟨a, s, rfl, h⟩
  | error e s => cases h

/-- What a pass of a loop comes to: another pass from `i` on, or the end of the loop. -/
inductive Turn (ι α : Type) where
  | again (i : ι)
  | leave (a : α)

section Rounds

variable {ι σ α : Type}

/-- A loop from `i` on makes these passes, each listed by what it starts from, and ends
with this outcome. -/
inductive Rounds (pass : ι → σ → Outcome σ (Turn ι α)) :
    ι → σ → List (ι × σ) → Outcome σ α → Prop
  | left {i : ι} {s s' : σ} {a : α} (passed : pass i s = .ok (.leave a) s') :
    Rounds pass i s [(i, s)] (.ok a s')
  | halted {i : ι} {s s' : σ} {e : Halt} (passed : pass i s = .error e s') :
    Rounds pass i s [(i, s)] (.error e s')
  | again {i j : ι} {s s' : σ} {passes : List (ι × σ)} {outcome : Outcome σ α}
      (passed : pass i s = .ok (.again j) s') (rest : Rounds pass j s' passes outcome) :
    Rounds pass i s ((i, s) :: passes) outcome

/-- Go on with a loop as a pass of it says. -/
def Turn.follow (loop : ι → σ → Outcome σ α) : Turn ι α → σ → Outcome σ α
  | again i => loop i
  | leave a => .ok a

variable {pass : ι → σ → Outcome σ (Turn ι α)} {loop : ι → σ → Outcome σ α}
  {inv : ι → σ → Prop} {bound : ι → σ → Nat}

/-- A loop ends if every pass that is not its last makes a bound fall. -/
theorem rounds_of_falls
    (unfolds : ∀ i s, loop i s = Outcome.andThen (pass i s) (Turn.follow loop))
    (falls : ∀ i s j s', inv i s → pass i s = .ok (.again j) s' →
      inv j s' ∧ bound j s' < bound i s)
    {i : ι} {s : σ} (h : inv i s) :
    ∃ passes, Rounds pass i s passes (loop i s) ∧ passes.length ≤ bound i s + 1 := by
  induction n : bound i s using Nat.strongRecOn generalizing i s with
  | ind n ih =>
    subst n
    have unfolded := unfolds i s
    cases passed : pass i s with
    | error e s' =>
      rw [passed] at unfolded
      rw [unfolded]
      exact ⟨_, .halted passed, Nat.le_add_left _ _⟩
    | ok turn s' =>
      rw [passed] at unfolded
      rw [unfolded]
      cases turn with
      | leave a => exact ⟨_, .left passed, Nat.le_add_left _ _⟩
      | again j =>
        obtain ⟨kept, less⟩ := falls i s j s' h passed
        obtain ⟨passes, rounds, few⟩ := ih _ less kept rfl
        exact ⟨_, .again passed rounds, by rw [List.length_cons]; omega⟩

/-- What a pass keeps is had at the start of every pass. -/
theorem Rounds.kept {i : ι} {s : σ} {passes : List (ι × σ)} {outcome : Outcome σ α}
    (rounds : Rounds pass i s passes outcome)
    (keeps : ∀ i s j s', inv i s → pass i s = .ok (.again j) s' → inv j s') (start : inv i s) :
    ∀ j s', (j, s') ∈ passes → inv j s' := by
  induction rounds with
  | left => exact fun j s' member => by cases List.mem_singleton.mp member; exact start
  | halted => exact fun j s' member => by cases List.mem_singleton.mp member; exact start
  | again passed _ ih =>
    intro j s' member
    rcases List.mem_cons.mp member with here | later
    · cases here
      exact start
    · exact ih (keeps _ _ _ _ start passed) j s' later

end Rounds

/-! ## The loops of a run -/

/-- The loops that skip a comment or copy a literal. -/
inductive Inner where
  | line
  | block
  /-- Up to the first unprotected `close`. -/
  | enclosed (what : Construct) (close : Symbol)
  | regex
  deriving DecidableEq, Repr

namespace Inner

open Transfer

/-- One pass of a loop.  Only a copy up to a closing character starts a pass from the
character that the one before it has reached. -/
def pass : Inner → Symbol → Transfer → Outcome Transfer (Turn Symbol Symbol)
  | line, _ => fun t =>
    Outcome.andThen (fetch t) fun c t =>
      if c = none ∨ c = some newline then .ok (.leave c) t else .ok (.again c) t
  | block, _ => fun t =>
    Outcome.andThen (fetch t) fun c t =>
      match c with
      | none => .error (.unterminated .comment t.source.position) t
      | some c =>
        if c = star then
          Outcome.andThen (peek t) fun p t =>
            if p = some slash then Outcome.andThen (fetch t) fun _ t => .ok (.leave (some space)) t
            else .ok (.again (some c)) t
        else .ok (.again (some c)) t
  | enclosed what close, c => fun t =>
    Outcome.andThen (Literal.advance c t) fun c₁ t =>
      if c₁ = close then .ok (.leave c₁) t
      else Outcome.andThen (Literal.protect c₁ t) fun c₂ t =>
        match c₂ with
        | none => .error (.unterminated what t.source.position) t
        | some c₂ => .ok (.again (some c₂)) t
  | regex, _ => fun t =>
    Outcome.andThen (fetch t) fun c t =>
      if c = some slash then .ok (.leave c) t
      else Outcome.andThen (Literal.regexUnit c t) fun c₂ t =>
        match c₂ with
        | none => .error (.unterminated .regex t.source.position) t
        | some c₂ => Outcome.andThen (put (some c₂) t) fun _ t => .ok (.again (some c₂)) t

/-- The whole loop. -/
def call : Inner → Symbol → Transfer → Outcome Transfer Symbol
  | line, _ => reading Comment.skipLine
  | block, _ => reading Comment.skipBlock
  | enclosed what close, c => Literal.enclosed what close c
  | regex, _ => Literal.regex

/-- A loop is a pass and what follows it. -/
theorem call_eq (loop : Inner) (c : Symbol) (t : Transfer) :
    loop.call c t = Outcome.andThen (loop.pass c t) (Turn.follow loop.call) := by
  cases loop with
  | line =>
    refine (reading_andThen Comment.skipLine_eq t).trans ?_
    rw [pass, Outcome.andThen_assoc]
    congr 1
    funext c t
    by_cases ends : c = none ∨ c = some newline
    · simp only [if_pos ends]
      rfl
    · simp only [if_neg ends]
      rfl
  | block =>
    refine (reading_andThen Comment.skipBlock_eq t).trans ?_
    rw [pass, Outcome.andThen_assoc]
    congr 1
    funext c t
    cases c with
    | none => rfl
    | some c =>
      by_cases isStar : c = star
      · simp only [if_pos isStar]
        refine (reading_andThen (fun _ => rfl) t).trans ?_
        rw [Outcome.andThen_assoc]
        congr 1
        funext p t
        by_cases closes : p = some slash
        · simp only [if_pos closes]
          refine (reading_andThen (fun _ => rfl) t).trans ?_
          rw [Outcome.andThen_assoc]
          rfl
        · simp only [if_neg closes]
          rfl
      · simp only [if_neg isStar]
        rfl
  | enclosed what close =>
    show Literal.enclosed what close c t = _
    rw [Literal.enclosed_eq, pass, Outcome.andThen_assoc]
    congr 1
    funext c₁ t
    split
    · rfl
    · rw [Outcome.andThen_assoc]
      congr 1
      funext c₂ t
      cases c₂ <;> rfl
  | regex =>
    show Literal.regex t = _
    rw [Literal.regex_eq, pass, Outcome.andThen_assoc]
    congr 1
    funext c t
    split
    · rfl
    · rw [Outcome.andThen_assoc]
      congr 1
      funext c₂ t
      cases c₂ with
      | none => rfl
      | some c₂ =>
        dsimp only
        rw [Outcome.andThen_assoc]
        rfl

/-- A pass that is not the last has fetched a character. -/
theorem remaining_pass {loop : Inner} {c j : Symbol} {t t' : Transfer}
    (h : loop.pass c t = .ok (.again j) t') : t'.remaining < t.remaining := by
  cases loop with
  | line =>
    obtain ⟨c₁, t₁, fetched, h⟩ := Outcome.andThen_eq_ok h
    cases c₁ with
    | none => cases h
    | some c₁ =>
      split at h
      · cases h
      · cases h
        exact remaining_fetch_some fetched
  | block =>
    obtain ⟨c₁, t₁, fetched, h⟩ := Outcome.andThen_eq_ok h
    cases c₁ with
    | none => cases h
    | some c₁ =>
      have less := remaining_fetch_some fetched
      dsimp only at h
      split at h
      · obtain ⟨p, t₂, peeked, h⟩ := Outcome.andThen_eq_ok h
        have kept : t₂.remaining ≤ t₁.remaining := Source.remaining_peek_le (reading_ok peeked)
        split at h
        · obtain ⟨_, _, _, h⟩ := Outcome.andThen_eq_ok h
          cases h
        · cases h
          omega
      · cases h
        exact less
  | enclosed what close =>
    obtain ⟨c₁, t₁, advanced, h⟩ := Outcome.andThen_eq_ok h
    split at h
    · cases h
    · obtain ⟨c₂, t₂, copied, h⟩ := Outcome.andThen_eq_ok h
      cases c₂ with
      | none => cases h
      | some c₂ =>
        cases h
        cases c₁ with
        | none => simp [Literal.protect_none] at copied
        | some c₁ =>
          exact Nat.lt_of_le_of_lt (Literal.remaining_protect_le copied)
            ((Literal.remaining_advance advanced).2 rfl)
  | regex =>
    obtain ⟨c₁, t₁, fetched, h⟩ := Outcome.andThen_eq_ok h
    split at h
    · cases h
    · obtain ⟨c₂, t₂, copied, h⟩ := Outcome.andThen_eq_ok h
      cases c₂ with
      | none => cases h
      | some c₂ =>
        obtain ⟨_, t₃, written, h⟩ := Outcome.andThen_eq_ok h
        cases h
        cases c₁ with
        | none => simp [Literal.regexUnit_none] at copied
        | some c₁ =>
          have := remaining_fetch_some fetched
          have := Literal.remaining_regexUnit_le copied
          have := remaining_put written
          omega

/-- On any transfer a loop ends, after at most one pass more than there are characters
left to be fetched. -/
theorem rounds (loop : Inner) (c : Symbol) (t : Transfer) :
    ∃ passes, Rounds loop.pass c t passes (loop.call c t) ∧ passes.length ≤ t.remaining + 1 :=
  @rounds_of_falls _ _ _ loop.pass loop.call (fun _ _ => True) (fun _ t => t.remaining)
    (call_eq loop) (fun _ _ _ _ _ passed => ⟨trivial, remaining_pass passed⟩) c t trivial

theorem remaining_of_rounds {loop : Inner} {c : Symbol} {t : Transfer}
    {passes : List (Symbol × Transfer)} {outcome : Outcome Transfer Symbol}
    (h : Rounds loop.pass c t passes outcome) :
    ∀ c' t', (c', t') ∈ passes → t'.remaining ≤ t.remaining := by
  refine @Rounds.kept _ _ _ loop.pass (fun _ t' => t'.remaining ≤ t.remaining) _ _ _ _ h
    (fun _ t₁ _ t₂ small passed => ?_) (Nat.le_refl _)
  exact Nat.le_of_lt (Nat.lt_of_lt_of_le (remaining_pass passed) small)

end Inner

/-! ## Streams that do not fail -/

/-- A symbol that a sink takes, or the end of the input. -/
def Symbol.Small (c : Symbol) : Prop := ∀ code ∈ c, code < 256

namespace Transfer

/-- Neither stream is going to fail, and only bytes are left to be read. -/
def Calm (t : Transfer) : Prop :=
  ∃ total text bytes, t.source.Reads total text ∧ (∀ c ∈ text, c < 256) ∧ t.sink.Holds bytes

/-- A call has ended with a value as `post` says, and left the transfer calm, or at
something that is not closed. -/
def Safe {α : Type} (post : α → Prop) : Outcome Transfer α → Prop
  | .ok a t => post a ∧ t.Calm
  | .error e _ => ∃ what position, e = .unterminated what position

variable {α β : Type} {post : α → Prop} {t : Transfer}

theorem Safe.andThen {later : β → Prop} {r : Outcome Transfer α}
    {go : α → Transfer → Outcome Transfer β} (first : Safe post r)
    (second : ∀ a t, post a → t.Calm → Safe later (go a t)) : Safe later (Outcome.andThen r go) := by
  cases r with
  | ok a t => exact second a t first.1 first.2
  | error e t => exact first

theorem fetch_safe (h : t.Calm) : Safe Symbol.Small (fetch t) := by
  obtain ⟨total, text, bytes, reads, small, holds⟩ := h
  obtain ⟨source, fetched, reads'⟩ := reads.fetch
  have called : fetch t = .ok text.head? ⟨source, t.sink⟩ := by
    simp only [fetch, reading, fetched]
  rw [called]
  refine ⟨fun c first => small c (List.mem_of_mem_head? first), total, text.tail, bytes, reads', ?_,
    holds⟩
  exact fun c later => small c (List.mem_of_mem_tail later)

theorem peek_safe (h : t.Calm) : Safe Symbol.Small (peek t) := by
  obtain ⟨total, text, bytes, reads, small, holds⟩ := h
  obtain ⟨source, peeked, reads'⟩ := reads.peek
  have called : peek t = .ok text.head? ⟨source, t.sink⟩ := by
    simp only [peek, reading, peeked]
  rw [called]
  exact ⟨fun c first => small c (List.mem_of_mem_head? first), total, text, bytes, reads', small,
    holds⟩

theorem put_safe (h : t.Calm) {code : Nat} (byte : code < 256) :
    Safe (fun _ => True) (put (some code) t) := by
  obtain ⟨total, text, bytes, reads, small, holds⟩ := h
  obtain ⟨sink, accepted, holds'⟩ := holds.put byte
  have called : put (some code) t = .ok () ⟨t.source, sink⟩ := by
    simp only [put, writing, accepted]
  rw [called]
  exact ⟨trivial, total, text, _, reads, small, holds'⟩

theorem advance_safe (h : t.Calm) {code : Nat} (byte : code < 256) :
    Safe Symbol.Small (Literal.advance (some code) t) := by
  rw [Literal.advance, Outcome.bind_apply]
  exact (put_safe h byte).andThen fun _ _ _ calm => fetch_safe calm

theorem protect_safe (h : t.Calm) {c : Symbol} (small : c.Small) :
    Safe Symbol.Small (Literal.protect c t) := by
  unfold Literal.protect
  split
  next isBackslash =>
    rw [isBackslash]
    exact advance_safe h (by decide)
  · exact ⟨small, h⟩

end Transfer

namespace Inner

open Transfer

/-- A loop can be entered with `c`: a copy up to a closing character writes `c` first. -/
def Admits (c : Symbol) : Inner → Prop
  | enclosed _ _ => ∃ code, c = some code ∧ code < 256
  | _ => True

/-- A turn after which a loop can go on. -/
def Good (loop : Inner) : Turn Symbol Symbol → Prop
  | .again c => loop.Admits c
  | .leave c => c.Small

variable {t : Transfer} {c : Symbol}

theorem call_safe_of_pass {loop : Inner}
    (safe : ∀ c t, loop.Admits c → t.Calm → Safe loop.Good (loop.pass c t))
    (admits : loop.Admits c) (h : t.Calm) : Safe Symbol.Small (loop.call c t) := by
  obtain ⟨passes, rounds, -⟩ := loop.rounds c t
  generalize loop.call c t = outcome at rounds
  induction rounds with
  | left passed =>
    have passedSafely := safe _ _ admits h
    rw [passed] at passedSafely
    exact passedSafely
  | halted passed =>
    have passedSafely := safe _ _ admits h
    rw [passed] at passedSafely
    exact passedSafely
  | again passed _ ih =>
    have passedSafely := safe _ _ admits h
    rw [passed] at passedSafely
    exact ih passedSafely.1 passedSafely.2

theorem pass_safe_enclosed {what : Construct} {close : Symbol}
    (admits : (enclosed what close).Admits c) (h : t.Calm) :
    Safe (enclosed what close).Good ((enclosed what close).pass c t) := by
  obtain ⟨code, rfl, byte⟩ := admits
  refine (advance_safe h byte).andThen fun c₁ t₁ small calm => ?_
  split
  · exact ⟨small, calm⟩
  · refine (protect_safe calm small).andThen fun c₂ t₂ small calm => ?_
    cases c₂ with
    | none => exact ⟨_, _, rfl⟩
    | some c₂ => exact ⟨⟨c₂, rfl, small c₂ rfl⟩, calm⟩

theorem regexUnit_safe (small : c.Small) (h : t.Calm) :
    Safe Symbol.Small (Literal.regexUnit c t) := by
  unfold Literal.regexUnit
  split
  next isBracket =>
    exact call_safe_of_pass (fun _ _ => pass_safe_enclosed)
      ⟨openBracket, isBracket, by decide⟩ h
  · exact protect_safe h small

theorem pass_safe (loop : Inner) (admits : loop.Admits c) (h : t.Calm) :
    Safe loop.Good (loop.pass c t) := by
  cases loop with
  | line =>
    refine (fetch_safe h).andThen fun c₁ t₁ small calm => ?_
    split
    · exact ⟨small, calm⟩
    · exact ⟨trivial, calm⟩
  | block =>
    refine (fetch_safe h).andThen fun c₁ t₁ _ calm => ?_
    cases c₁ with
    | none => exact ⟨_, _, rfl⟩
    | some c₁ =>
      dsimp only
      split
      · refine (peek_safe calm).andThen fun p t₂ _ calm => ?_
        split
        · refine (fetch_safe calm).andThen fun _ t₃ _ calm => ⟨fun code isSpace => ?_, calm⟩
          cases isSpace
          decide
        · exact ⟨trivial, calm⟩
      · exact ⟨trivial, calm⟩
  | enclosed what close => exact pass_safe_enclosed admits h
  | regex =>
    refine (fetch_safe h).andThen fun c₁ t₁ small calm => ?_
    split
    · exact ⟨small, calm⟩
    · refine (regexUnit_safe small calm).andThen fun c₂ t₂ small calm => ?_
      cases c₂ with
      | none => exact ⟨_, _, rfl⟩
      | some c₂ =>
        exact (put_safe calm (small c₂ rfl)).andThen fun _ t₃ _ calm => ⟨trivial, calm⟩

/-- Between streams that do not fail a loop ends with a value or at something that is
not closed. -/
theorem call_safe (loop : Inner) (admits : loop.Admits c) (h : t.Calm) :
    Safe Symbol.Small (loop.call c t) :=
  call_safe_of_pass (fun _ _ => loop.pass_safe) admits h

end Inner
end ScriptPress
