/-
What can stop a run before the end of its script, and the shape of a call that
may stop: whatever happens, the state left behind is part of the answer.
-/
import ScriptPress.Stream

namespace ScriptPress

/-- A part of a script that has to be closed. -/
inductive Construct where
  | comment
  | quoted
  | characterClass
  | regex
  deriving DecidableEq, Repr

def Construct.complaint : Construct → String
  | .comment => "unterminated comment"
  | .quoted => "unterminated string literal"
  | .characterClass => "unterminated character class in regex"
  | .regex => "unterminated regex literal"

inductive Halt where
  /-- The input ended, after `position` bytes, inside a construct. -/
  | unterminated (what : Construct) (position : Nat)
  | device (fault : Stream.Fault)
  /-- Something other than a byte was to be written. -/
  | notByte
  deriving DecidableEq, Repr

def Halt.message : Halt → String
  | .unterminated what _ => what.complaint
  | .device fault => fault.message
  | .notByte => "byte must be in range(0, 256)"

/-- What a call on a `σ` ends with: a value or a halt, and the `σ` left behind. -/
abbrev Outcome (σ α : Type) := EStateM.Result Halt σ α

/-- A call on a `σ`. -/
abbrev Action (σ α : Type) := EStateM Halt σ α

/-- Two calls in a row end with a value exactly if both do. -/
theorem Action.bind_eq_ok {σ α β : Type} {x : Action σ α} {f : α → Action σ β} {s s' : σ} {b : β} :
    (x >>= f) s = .ok b s' ↔ ∃ a s₁, x s = .ok a s₁ ∧ f a s₁ = .ok b s' := by
  show EStateM.bind x f s = _ ↔ _
  unfold EStateM.bind
  split
  next a s₁ h =>
    constructor
    · exact fun h' => ⟨a, s₁, h, h'⟩
    · rintro ⟨a', s₂, h₁, h₂⟩
      rw [h] at h₁
      cases h₁
      exact h₂
  next e s₁ h =>
    constructor
    · intro h'; cases h'
    · rintro ⟨a', s₂, h₁, _⟩
      rw [h] at h₁
      cases h₁

end ScriptPress
