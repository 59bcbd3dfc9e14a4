/-
The minifying automaton.

It holds two characters, the one it is deciding about and the one that comes
next, and a run is a sequence of steps on that pair.  A step writes or drops the
held character as the separator table says, copies a literal when it reaches
one, and reads on.  Every step either reads a character or, at the end of the
input, moves on to it, so a run ends.
-/
import ScriptPress.Comment
import ScriptPress.Literal
import ScriptPress.Separator
import ScriptPress.Tally

namespace ScriptPress

open Code

/-- The characters an automaton remembers. -/
structure Window where
  /-- The character to be decided about. -/
  held : Symbol := some newline
  /-- The character after it. -/
  next : Symbol := none
  /-- The last character read outside literals. -/
  last : Symbol := none
  /-- The one read before it. -/
  beforeLast : Symbol := none
  /-- The last character that `emit` wrote and that is not a separator. -/
  lastWritten : Symbol := none
  deriving DecidableEq, Repr

namespace Window

/-- Whether a slash that comes next opens a regular expression.  A line end held
back hides the character it follows, which is then the last one written. -/
def opensRegex (w : Window) : Bool :=
  w.held.any admitsRegex || (w.held == some newline && w.lastWritten.any admitsRegex)

/-- Whether dropping the separator just read would fuse two signs. -/
def fusesSigns (w : Window) : Bool :=
  w.held.any isSign && w.next.any isSign && w.beforeLast.any isSeparator

end Window

structure Automaton where
  window : Window := {}
  transfer : Transfer

namespace Automaton

def between (input : Stream.Input) (output : Stream.Output) : Automaton :=
  { transfer := .between input output }

def remaining (m : Automaton) : Nat := m.transfer.remaining

def tally (m : Automaton) : Tally :=
  ⟨m.transfer.source.position, m.transfer.sink.written⟩

/-! ## Parts of a step -/

def lift {α : Type} (call : Transfer → Outcome Transfer α) : Action Automaton α :=
  fun ⟨window, transfer⟩ =>
    match call transfer with
    | .ok a transfer => .ok a ⟨window, transfer⟩
    | .error e transfer => .error e ⟨window, transfer⟩

def look : Action Automaton Window := fun m => .ok m.window m

def remember (change : Window → Window) : Action Automaton Unit :=
  fun ⟨window, transfer⟩ => .ok () ⟨change window, transfer⟩

def blank : Action Automaton Bool := fun m => .ok (m.transfer.sink.written == 0) m

/-- Write `c`, unless it is a separator before everything else. -/
def emit (c : Symbol) : Action Automaton Unit := do
  if (← blank) && c.any isSeparator then pure ()
  else do
    lift (Transfer.put c)
    if c.any isSeparator then pure ()
    else remember fun w => { w with lastWritten := c }

/-- Write the held character, and the separator it needs before a like sign. -/
def keepHeld : Action Automaton Unit := do
  let w ← look
  emit w.held
  if w.fusesSigns then lift (Transfer.put w.beforeLast) else pure ()

/-- Hold the next character.  A quote brings its literal with it, and the
closing quote is then held. -/
def shift : Action Automaton Unit := do
  let w ← look
  remember fun w => { w with held := w.next }
  if w.next.any isQuote then do
    let close ← lift (Literal.quoted w.next)
    remember fun w => { w with held := close }
  else pure ()

def receive : Action Automaton Unit := do
  let c ← lift (Transfer.reading Comment.next)
  remember fun w => { w with next := c, last := c, beforeLast := w.last }

/-- Keep a slash written before a regular expression apart from its own slash. -/
def setApart (c : Symbol) : Action Automaton Unit :=
  if c = some slash then lift (Transfer.put (some space)) else pure ()

/-- Write the held character and the regular expression after it, and hold the
closing slash. -/
def copyRegex : Action Automaton Unit := do
  let w ← look
  emit w.held
  setApart w.held
  lift (Transfer.put w.next)
  let close ← lift Literal.regex
  remember fun w => { w with held := close }

/-- Everything in a step before the next character is read. -/
def settle (v : Verdict) : Action Automaton Unit :=
  match v with
  | .keep => do keepHeld; shift
  | .elide => shift
  | .defer => pure ()

/-- Read on, past the regular expression that comes next if one does. -/
def arrive : Action Automaton Unit := do
  receive
  let w ← look
  if w.next = some slash && w.opensRegex then do
    copyRegex
    receive
  else pure ()

def step (v : Verdict) : Action Automaton Unit := do
  settle v
  arrive

/-! ## Every step makes way -/

theorem lift_eq_ok {α : Type} {call : Transfer → Outcome Transfer α} {m m' : Automaton} {a : α}
    (h : lift call m = .ok a m') : call m.transfer = .ok a m'.transfer ∧ m'.window = m.window := by
  unfold lift at h
  dsimp only at h
  split at h
  next hc => cases h; exact ⟨hc, rfl⟩
  next => cases h

theorem put_eq_ok {c : Symbol} {m m' : Automaton} {a : Unit}
    (h : lift (Transfer.put c) m = .ok a m') :
    m'.remaining = m.remaining ∧ m'.window = m.window :=
  ⟨Transfer.remaining_put (lift_eq_ok h).1, (lift_eq_ok h).2⟩

/-- Writing reads nothing and leaves the pair alone. -/
theorem emit_eq_ok {c : Symbol} {m m' : Automaton} {a : Unit} (h : emit c m = .ok a m') :
    m'.remaining = m.remaining ∧ m'.window.held = m.window.held ∧
      m'.window.next = m.window.next := by
  obtain ⟨start, m₀, h₀, h⟩ := Action.bind_eq_ok.mp h
  cases h₀
  split at h
  · cases h
    exact ⟨rfl, rfl, rfl⟩
  · obtain ⟨_, m₁, put, h⟩ := Action.bind_eq_ok.mp h
    obtain ⟨same, window⟩ := put_eq_ok put
    split at h
    · cases h
      rw [window]
      exact ⟨same, rfl, rfl⟩
    · cases h
      rw [← window]
      exact ⟨same, rfl, rfl⟩

theorem keepHeld_eq_ok {m m' : Automaton} {a : Unit} (h : keepHeld m = .ok a m') :
    m'.remaining = m.remaining ∧ m'.window.held = m.window.held ∧
      m'.window.next = m.window.next := by
  obtain ⟨w, m₀, h₀, h⟩ := Action.bind_eq_ok.mp h
  cases h₀
  obtain ⟨_, m₁, emitted, h⟩ := Action.bind_eq_ok.mp h
  obtain ⟨same, held, next⟩ := emit_eq_ok emitted
  split at h
  · obtain ⟨same', window⟩ := put_eq_ok h
    rw [window]
    exact ⟨same'.trans same, held, next⟩
  · cases h
    exact ⟨same, held, next⟩

theorem shift_eq_ok {m m' : Automaton} {a : Unit} (h : shift m = .ok a m') :
    m'.remaining ≤ m.remaining ∧ (m.window.next = none → m'.window.held = none) := by
  obtain ⟨w, m₀, h₀, h⟩ := Action.bind_eq_ok.mp h
  cases h₀
  obtain ⟨_, m₁, h₁, h⟩ := Action.bind_eq_ok.mp h
  cases h₁
  split at h
  next quote =>
    obtain ⟨close, m₂, copied, h⟩ := Action.bind_eq_ok.mp h
    cases h
    refine ⟨Literal.remaining_enclosed_le (lift_eq_ok copied).1, fun none => ?_⟩
    rw [none] at quote
    cases quote
  · cases h
    exact ⟨Nat.le_refl _, id⟩

theorem receive_eq_ok {m m' : Automaton} {a : Unit} (h : receive m = .ok a m') :
    m'.remaining ≤ m.remaining ∧ m'.window.held = m.window.held ∧
      (m'.window.next.isSome → m'.remaining < m.remaining) := by
  obtain ⟨c, m₁, read, h⟩ := Action.bind_eq_ok.mp h
  cases h
  obtain ⟨called, window⟩ := lift_eq_ok read
  have less := Comment.remaining_next (Transfer.reading_ok called)
  exact ⟨less.1, by rw [← window], less.2⟩

theorem setApart_eq_ok {c : Symbol} {m m' : Automaton} {a : Unit} (h : setApart c m = .ok a m') :
    m'.remaining = m.remaining := by
  unfold setApart at h
  split at h
  · exact (put_eq_ok h).1
  · cases h
    rfl

theorem copyRegex_eq_ok {m m' : Automaton} {a : Unit} (h : copyRegex m = .ok a m') :
    m'.remaining ≤ m.remaining := by
  obtain ⟨w, m₀, h₀, h⟩ := Action.bind_eq_ok.mp h
  cases h₀
  obtain ⟨_, m₁, emitted, h⟩ := Action.bind_eq_ok.mp h
  obtain ⟨_, m₂, apart, h⟩ := Action.bind_eq_ok.mp h
  obtain ⟨_, m₃, opened, h⟩ := Action.bind_eq_ok.mp h
  obtain ⟨close, m₄, copied, h⟩ := Action.bind_eq_ok.mp h
  cases h
  have := (emit_eq_ok emitted).1
  have := setApart_eq_ok apart
  have := (put_eq_ok opened).1
  have : m₄.remaining ≤ m₃.remaining := Literal.remaining_regex_le (lift_eq_ok copied).1
  show m₄.remaining ≤ _
  omega

theorem settle_eq_ok {v : Verdict} {m m' : Automaton} {a : Unit} (h : settle v m = .ok a m') :
    m'.remaining ≤ m.remaining ∧
      (v ≠ .defer → m.window.next = none → m'.window.held = none) := by
  cases v with
  | keep =>
    obtain ⟨_, m₁, kept, h⟩ := Action.bind_eq_ok.mp h
    obtain ⟨same, _, next⟩ := keepHeld_eq_ok kept
    obtain ⟨less, last⟩ := shift_eq_ok h
    exact ⟨same ▸ less, fun _ none => last (next.trans none)⟩
  | elide =>
    obtain ⟨less, last⟩ := shift_eq_ok h
    exact ⟨less, fun _ => last⟩
  | defer =>
    cases h
    exact ⟨Nat.le_refl _, fun absurd => (absurd rfl).elim⟩

/-- A step reads a character, or has the end of the input come next; and if that
came next already, it holds it unless the verdict is to go on holding. -/
theorem step_eq_ok {v : Verdict} {m m' : Automaton} {a : Unit} (h : step v m = .ok a m') :
    m'.remaining < m.remaining ∨
      (m'.remaining ≤ m.remaining ∧ m'.window.next = none ∧
        (v ≠ .defer → m.window.next = none → m'.window.held = none)) := by
  obtain ⟨_, m₁, settled, h⟩ := Action.bind_eq_ok.mp h
  obtain ⟨_, m₂, received, h⟩ := Action.bind_eq_ok.mp h
  obtain ⟨w, m₃, h₃, h⟩ := Action.bind_eq_ok.mp h
  cases h₃
  obtain ⟨settledLess, last⟩ := settle_eq_ok settled
  obtain ⟨less, held, read⟩ := receive_eq_ok received
  split at h
  next opens =>
    have slashNext : m₂.window.next = some slash := by simp_all
    have := read (by rw [slashNext]; rfl)
    obtain ⟨_, m₄, copied, h⟩ := Action.bind_eq_ok.mp h
    have := copyRegex_eq_ok copied
    have := (receive_eq_ok h).1
    left; omega
  · cases h
    cases next : m'.window.next with
    | some c =>
      have := read (by rw [next]; rfl)
      left; omega
    | none =>
      right
      exact ⟨Nat.le_trans less settledLess, rfl, fun go none => held.trans (last go none)⟩

/-! ## Runs -/

/-- Bounds the steps left: it falls with every step the table asks for. -/
def distance (m : Automaton) : Nat :=
  4 * m.remaining + 2 * m.window.next.isSome.toNat + m.window.held.isSome.toNat

theorem distance_step {m m' : Automaton} {a : Unit} (held : m.window.held ≠ none)
    (h : step (Verdict.of m.window.held m.window.next) m = .ok a m') :
    m'.distance < m.distance := by
  have bit (s : Symbol) : s.isSome.toNat ≤ 1 := by cases s <;> simp
  have := bit m'.window.next
  have := bit m'.window.held
  rcases step_eq_ok h with less | ⟨le, next, last⟩
  · unfold distance
    omega
  · have here : m.window.held.isSome.toNat = 1 := by
      obtain ⟨c, hc⟩ := Option.ne_none_iff_exists'.mp held
      rw [hc]; rfl
    unfold distance
    rw [next, here]
    cases was : m.window.next with
    | some c => simp; omega
    | none =>
      have : m'.window.held = none :=
        last (by rw [was]; exact Verdict.of_none_ne_defer _) was
      rw [this]
      simp; omega

set_option linter.unusedVariables false in
/-- Step, as the table says, until the end of the input is held. -/
def drain (m : Automaton) : Outcome Automaton Unit :=
  if held : m.window.held = none then .ok () m
  else
    match h : step (Verdict.of m.window.held m.window.next) m with
    | .error e m' => .error e m'
    | .ok _ m' => drain m'
termination_by m.distance
decreasing_by exact distance_step held h

/-- Take in the whole script, as if it stood after a line end. -/
def consume : Action Automaton Unit := do
  remember fun w => { w with held := some newline }
  step .defer
  drain

/-- A whole run.  What was written is flushed whether or not the run was
stopped, and a flush that fails is what gets reported. -/
def run (m : Automaton) : Outcome Automaton Tally :=
  match consume m with
  | .ok _ m =>
    match lift Transfer.flush m with
    | .ok _ m => .ok m.tally m
    | .error e m => .error e m
  | .error halt m =>
    match lift Transfer.flush m with
    | .ok _ m => .error halt m
    | .error e m => .error e m

end Automaton
end ScriptPress
