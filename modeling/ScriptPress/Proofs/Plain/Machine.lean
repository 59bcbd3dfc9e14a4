/-
The automaton on a list of characters.

A plain run does what a run between two streams does, step for step, but reads
from a list and writes to a list, so nothing of chunks, lookahead and faults is
left in it.  The decisions are taken by the definitions the automaton itself
uses, on the codes of the characters remembered.

Beside the characters written a state records whether a comment was skipped and
lists the pairs decided about.  No step looks at these records.
-/
import ScriptPress.Automaton
import ScriptPress.Proofs.Plain.Scan

namespace ScriptPress

section Sequence

variable {ε σ β γ : Type} {x : EStateM ε σ β} {f : β → EStateM ε σ γ} {s s₁ : σ}

theorem bind_of_ok {b : β} (h : x s = .ok b s₁) : (x >>= f) s = f b s₁ := by
  show EStateM.bind x f s = f b s₁
  unfold EStateM.bind
  rw [h]

theorem bind_of_error {e : ε} (h : x s = .error e s₁) : (x >>= f) s = .error e s₁ := by
  show EStateM.bind x f s = .error e s₁
  unfold EStateM.bind
  rw [h]

end Sequence

namespace Plain

open Code Coded

/-- A character written, and whether it was copied as part of a literal. -/
structure Entry (α : Type) where
  char : α
  inLiteral : Bool
  deriving DecidableEq, Repr

/-- A plain run in progress. -/
structure State (α : Type) where
  held : Option α
  next : Option α := none
  last : Option α := none
  beforeLast : Option α := none
  lastWritten : Option α := none
  rest : List α
  written : List (Entry α) := []
  commented : Bool := false
  decided : List (Symbol × Symbol) := []
  deriving DecidableEq, Repr

abbrev Ending (α : Type) := EStateM.Result Construct (State α) Unit

abbrev Run (α β : Type) := EStateM Construct (State α) β

variable {α : Type} [Coded α]

namespace State

/-- The codes of the characters remembered. -/
def window (p : State α) : Window where
  held := p.held.map code
  next := p.next.map code
  last := p.last.map code
  beforeLast := p.beforeLast.map code
  lastWritten := p.lastWritten.map code

def verdict (p : State α) : Verdict := Verdict.of p.window.held p.window.next

def put (inLiteral : Bool) (c : Option α) (p : State α) : State α :=
  { p with written := p.written ++ c.toList.map (Entry.mk · inLiteral) }

def text (p : State α) : List α := p.written.map Entry.char

omit [Coded α] in
theorem text_put (p : State α) (inLiteral : Bool) (c : Option α) :
    (p.put inLiteral c).text = p.text ++ c.toList := by
  simp [text, put, Function.comp_def]

def emit (c : Option α) (p : State α) : State α :=
  if p.written.isEmpty && (c.map code).any isSeparator then p
  else if (c.map code).any isSeparator then p.put false c
  else { p.put false c with lastWritten := c }

def keepHeld (p : State α) : State α :=
  if p.window.fusesSigns then (p.emit p.held).put false p.beforeLast else p.emit p.held

def setApart (p : State α) : State α :=
  if p.held.map code = some slash then p.put false (some blank) else p

def note (p : State α) : State α :=
  { p with decided := p.decided ++ [(p.window.held, p.window.next)] }

/-! What `emit` does, by the kind of character and by what is written. -/

theorem emit_of_significant {a : α} {p : State α} (h : isSeparator (code a) = false) :
    p.emit (some a) = { p.put false (some a) with lastWritten := some a } := by
  simp [emit, h]

theorem emit_of_separator {a : α} {p : State α} (h : isSeparator (code a))
    (started : p.written ≠ []) : p.emit (some a) = p.put false (some a) := by
  simp [emit, h, started]

theorem emit_of_leading {a : α} {p : State α} (h : isSeparator (code a))
    (unwritten : p.written = []) : p.emit (some a) = p := by
  simp [emit, h, unwritten]

/-! What `keepHeld` does, by the same. -/

theorem keepHeld_of_leading {a : α} {p : State α} (held : p.held = some a)
    (h : isSeparator (code a)) (unwritten : p.written = []) : p.keepHeld = p := by
  have apart : p.window.fusesSigns = false := by
    simp [window, Window.fusesSigns, held, not_isSign_of_isSeparator h]
  rw [keepHeld, apart, if_neg (by decide), held, emit_of_leading h unwritten]

theorem keepHeld_of_started {a : α} {p : State α} (held : p.held = some a)
    (h : isSeparator (code a)) (started : p.written ≠ []) :
    p.keepHeld = p.put false (some a) := by
  have apart : p.window.fusesSigns = false := by
    simp [window, Window.fusesSigns, held, not_isSign_of_isSeparator h]
  rw [keepHeld, apart, if_neg (by decide), held, emit_of_separator h started]

theorem keepHeld_of_significant {a : α} {p : State α} (held : p.held = some a)
    (h : isSeparator (code a) = false) (apart : p.window.fusesSigns = false) :
    p.keepHeld = { p.put false (some a) with lastWritten := some a } := by
  rw [keepHeld, apart, if_neg (by decide), held, emit_of_significant h]

end State

/-! ## Parts of a step -/

/-- Copy what was cut off the text, and hold the closing character. -/
def copy (cut : Cut α) : Run α Unit := fun p =>
  let p := { p with written := p.written ++ cut.1.map (Entry.mk · true) }
  match cut.2 with
  | .ok (close, rest) => .ok () { p with held := some close, rest }
  | .error what => .error what { p with rest := [] }

/-- Hold the next character, or copy the literal it opens and hold its end. -/
def shift : Run α Unit := fun p =>
  match p.next with
  | none => .ok () { p with held := none }
  | some a =>
    if isQuote (code a) then
      copy (enclosed .quoted (code a) p.rest) ({ p with held := some a }.put true (some a))
    else .ok () { p with held := some a }

theorem shift_of_none {p : State α} (h : p.next = none) :
    shift p = .ok () { p with held := none } := by
  rw [shift, h]

theorem shift_of_quote {p : State α} {a : α} (h : p.next = some a) (quote : isQuote (code a)) :
    shift p =
      copy (enclosed .quoted (code a) p.rest) ({ p with held := some a }.put true (some a)) := by
  rw [shift, h]
  dsimp only
  rw [if_pos quote]

theorem shift_of_other {p : State α} {a : α} (h : p.next = some a)
    (other : isQuote (code a) = false) : shift p = .ok () { p with held := some a } := by
  rw [shift, h]
  dsimp only
  rw [if_neg (by simp [other])]

def receive : Run α Unit := fun p =>
  let p := { p with commented := p.commented || opensComment p.rest }
  match Plain.next p.rest with
  | .error what => .error what { p with rest := [] }
  | .ok (c, rest) => .ok () { p with next := c, last := c, beforeLast := p.last, rest }

/-- The state in which `c` has been read and `rest` is left. -/
def State.received (p : State α) (c : Option α) (rest : List α) : State α :=
  { p with
    commented := p.commented || opensComment p.rest
    next := c, last := c, beforeLast := p.last, rest }

theorem receive_of_next {p : State α} {c : Option α} {rest : List α}
    (h : Plain.next p.rest = .ok (c, rest)) : receive p = .ok () (p.received c rest) := by
  rw [receive]
  dsimp only
  rw [h]
  rfl

theorem receive_of_error {p : State α} {what : Construct} (h : Plain.next p.rest = .error what) :
    receive p =
      .error what { p with commented := p.commented || opensComment p.rest, rest := [] } := by
  rw [receive]
  dsimp only
  rw [h]

def copyRegex : Run α Unit := fun p =>
  copy (regexBody false p.rest) (((p.emit p.held).setApart).put true p.next)

def settle (v : Verdict) : Run α Unit := fun p =>
  match v with
  | .keep => shift p.keepHeld
  | .elide => shift p
  | .defer => .ok () p

/-- Read on, past a regular expression if one starts here. -/
def arrive : Run α Unit := do
  receive
  let p ← get
  if p.window.next = some slash && p.window.opensRegex then do
    copyRegex
    receive
  else pure ()

theorem arrive_of_receive {p p₁ : State α} (h : receive p = .ok () p₁) :
    arrive p =
      if p₁.window.next = some slash && p₁.window.opensRegex then
        (copyRegex >>= fun _ => receive) p₁
      else .ok () p₁ := by
  rw [arrive, bind_of_ok h, bind_of_ok (show (get : Run α (State α)) p₁ = .ok p₁ p₁ from rfl)]
  split <;> rfl

def step (v : Verdict) : Run α Unit := do
  settle v
  arrive

/-! ## Every step makes way -/

omit [Coded α] in
theorem bind_eq_ok {x y : Run α Unit} {p p' : State α} :
    (x >>= fun _ => y) p = .ok () p' ↔ ∃ p₁, x p = .ok () p₁ ∧ y p₁ = .ok () p' := by
  cases h : x p with
  | ok _ p₁ =>
    rw [bind_of_ok h]
    constructor
    · exact fun h' => ⟨p₁, rfl, h'⟩
    · rintro ⟨p₂, h₁, h₂⟩
      cases h₁
      exact h₂
  | error e p₁ =>
    rw [bind_of_error h]
    constructor
    · intro h'; cases h'
    · rintro ⟨p₂, h₁, _⟩
      cases h₁

omit [Coded α] in
theorem copy_eq_ok {cut : Cut α} {p p' : State α} (h : copy cut p = .ok () p') :
    ∃ close rest, cut.2 = .ok (close, rest) ∧
      p' = { p with
        written := p.written ++ cut.1.map (Entry.mk · true), held := some close, rest } := by
  unfold copy at h
  dsimp only at h
  split at h
  next close rest hc =>
    cases h
    exact ⟨close, rest, hc, rfl⟩
  · cases h

theorem rest_emit (c : Option α) (p : State α) : (p.emit c).rest = p.rest := by
  unfold State.emit
  split
  · rfl
  · split <;> rfl

theorem next_emit (c : Option α) (p : State α) : (p.emit c).next = p.next := by
  unfold State.emit
  split
  · rfl
  · split <;> rfl

theorem held_emit (c : Option α) (p : State α) : (p.emit c).held = p.held := by
  unfold State.emit
  split
  · rfl
  · split <;> rfl

theorem rest_keepHeld (p : State α) : p.keepHeld.rest = p.rest := by
  unfold State.keepHeld
  split
  · exact rest_emit p.held p
  · exact rest_emit p.held p

theorem next_keepHeld (p : State α) : p.keepHeld.next = p.next := by
  unfold State.keepHeld
  split
  · exact next_emit p.held p
  · exact next_emit p.held p

theorem rest_setApart (p : State α) : p.setApart.rest = p.rest := by
  unfold State.setApart
  split <;> rfl

theorem shift_eq_ok {p p' : State α} (h : shift p = .ok () p') :
    p'.rest.length ≤ p.rest.length ∧ (p.next = none → p'.held = none) := by
  unfold shift at h
  split at h
  · cases h
    exact ⟨Nat.le_refl _, fun _ => rfl⟩
  next a hn =>
    split at h
    · obtain ⟨close, rest, cut, rfl⟩ := copy_eq_ok h
      exact ⟨Nat.le_of_lt ((enclosed_of _ _ _).length_lt cut), fun none => by simp [none] at hn⟩
    · cases h
      exact ⟨Nat.le_refl _, fun none => by simp [none] at hn⟩

theorem settle_eq_ok {v : Verdict} {p p' : State α} (h : settle v p = .ok () p') :
    p'.rest.length ≤ p.rest.length ∧ (v ≠ .defer → p.next = none → p'.held = none) := by
  cases v with
  | keep =>
    obtain ⟨less, last⟩ := shift_eq_ok h
    rw [rest_keepHeld] at less
    exact ⟨less, fun _ none => last ((next_keepHeld p).trans none)⟩
  | elide =>
    obtain ⟨less, last⟩ := shift_eq_ok h
    exact ⟨less, fun _ => last⟩
  | defer =>
    cases h
    exact ⟨Nat.le_refl _, fun absurd => (absurd rfl).elim⟩

theorem receive_eq_ok {p p' : State α} (h : receive p = .ok () p') :
    ∃ c rest, Plain.next p.rest = .ok (c, rest) ∧ p' = p.received c rest := by
  unfold receive at h
  dsimp only at h
  split at h
  · cases h
  next c rest hn =>
    cases h
    exact ⟨c, rest, hn, rfl⟩

theorem length_receive {p p' : State α} (h : receive p = .ok () p') :
    p'.rest.length ≤ p.rest.length ∧ p'.held = p.held ∧
      (p'.next.isSome → p'.rest.length < p.rest.length) := by
  obtain ⟨c, rest, hn, rfl⟩ := receive_eq_ok h
  exact ⟨(length_next hn).1, rfl, (length_next hn).2⟩

theorem length_copyRegex {p p' : State α} (h : copyRegex p = .ok () p') :
    p'.rest.length < p.rest.length := by
  obtain ⟨close, rest, cut, rfl⟩ := copy_eq_ok h
  exact (regexBody_of _ _).length_lt cut

/-- A step reads a character, or has the end of the text come next; and if that
came next already, it holds it unless the verdict is to go on holding. -/
theorem step_eq_ok {v : Verdict} {p p' : State α} (h : step v p = .ok () p') :
    p'.rest.length < p.rest.length ∨
      (p'.rest.length ≤ p.rest.length ∧ p'.next = none ∧
        (v ≠ .defer → p.next = none → p'.held = none)) := by
  obtain ⟨p₁, settled, h⟩ := bind_eq_ok.mp h
  obtain ⟨p₂, received, _⟩ := bind_eq_ok.mp h
  rw [arrive_of_receive received] at h
  obtain ⟨settledLess, last⟩ := settle_eq_ok settled
  obtain ⟨less, held, read⟩ := length_receive received
  split at h
  · obtain ⟨p₃, copied, h⟩ := bind_eq_ok.mp h
    have := length_copyRegex copied
    have := (length_receive h).1
    left; omega
  · cases h
    cases next : p'.next with
    | some c =>
      have := read (by rw [next]; rfl)
      left; omega
    | none =>
      right
      exact ⟨Nat.le_trans less settledLess, rfl, fun go none => held.trans (last go none)⟩

/-! ## Runs -/

def State.distance (p : State α) : Nat :=
  4 * p.rest.length + 2 * p.next.isSome.toNat + p.held.isSome.toNat

theorem distance_step {p p' : State α} (held : p.held ≠ none)
    (h : step p.verdict p.note = .ok () p') : p'.distance < p.distance := by
  have bit (s : Option α) : s.isSome.toNat ≤ 1 := by cases s <;> simp
  have := bit p'.next
  have := bit p'.held
  have here : p.held.isSome.toNat = 1 := by
    obtain ⟨a, ha⟩ := Option.ne_none_iff_exists'.mp held
    rw [ha]; rfl
  have rest : p.note.rest = p.rest := rfl
  rcases step_eq_ok h with less | ⟨le, next, last⟩
  · unfold State.distance
    rw [rest] at less
    omega
  · unfold State.distance
    rw [next, here]
    rw [rest] at le
    cases was : p.next with
    | some a => simp; omega
    | none =>
      have go : p.verdict ≠ .defer := by
        unfold State.verdict State.window
        rw [was]
        exact Verdict.of_none_ne_defer _
      rw [last go was]
      simp; omega

set_option linter.unusedVariables false in
/-- Step, as the table says, until the end of the text is held. -/
def drain (p : State α) : Ending α :=
  if held : p.held = none then .ok () p
  else
    match h : step p.verdict p.note with
    | .error what p' => .error what p'
    | .ok _ p' => drain p'
termination_by p.distance
decreasing_by exact distance_step held h

theorem drain_of_end {p : State α} (h : p.held = none) : drain p = .ok () p := by
  rw [drain, dif_pos h]

theorem drain_of_ok {p p' : State α} (h : p.held ≠ none)
    (stepped : step p.verdict p.note = .ok () p') : drain p = drain p' := by
  rw [drain, dif_neg h]
  split <;> simp_all

theorem drain_of_error {p p' : State α} {what : Construct} (h : p.held ≠ none)
    (stepped : step p.verdict p.note = .error what p') : drain p = .error what p' := by
  rw [drain, dif_neg h]
  split <;> simp_all

def proceed (p : State α) : Ending α :=
  match arrive p with
  | .error what p => .error what p
  | .ok _ p => drain p

theorem drain_of_settle {p p₁ : State α} (h : p.held ≠ none)
    (settled : settle p.verdict p.note = .ok () p₁) : drain p = proceed p₁ := by
  have stepped : step p.verdict p.note = arrive p₁ := bind_of_ok settled
  unfold proceed
  cases arrived : arrive p₁ with
  | ok _ p₂ => exact drain_of_ok h (stepped.trans arrived)
  | error what p₂ => exact drain_of_error h (stepped.trans arrived)

theorem drain_of_settle_error {p p₁ : State α} {what : Construct} (h : p.held ≠ none)
    (settled : settle p.verdict p.note = .error what p₁) : drain p = .error what p₁ :=
  drain_of_error h (bind_of_error settled)

/-- A whole plain run, as if the text stood after the line end held. -/
def run (start : α) (text : List α) : Ending α := proceed { held := some start, rest := text }

end Plain
end ScriptPress
