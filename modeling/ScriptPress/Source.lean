/-
Reading effective characters, one at a time, with one character of lookahead.

`remaining` bounds what can still be read.  A character fetched takes one from
it, which is what ends every loop over a source.
-/
import ScriptPress.Character
import ScriptPress.Halt

namespace ScriptPress

open Code

structure Source where
  input : Stream.Input
  /-- Bytes to ask of the stream in one read. -/
  chunkSize : Int := 65536
  /-- Bytes read and not yet fetched. -/
  chunk : Bytes := []
  /-- The stream has answered a read with nothing, and is not asked again. -/
  exhausted : Bool := false
  /-- The symbol looked at and not yet fetched. -/
  lookahead : Option Symbol := none
  /-- Bytes taken from the stream's chunks so far. -/
  position : Nat := 0
  deriving Repr

namespace Source

/-- Characters that can still be fetched. -/
def remaining (s : Source) : Nat :=
  (match s.lookahead with
    | some (some _) => 1
    | _ => 0) +
  s.chunk.length + (if s.exhausted then 0 else s.input.remaining)

/-- Take the next raw byte, reading a chunk if none is at hand. -/
def pull (s : Source) : Outcome Source (Option UInt8) :=
  match s.chunk with
  | byte :: rest => .ok (some byte) { s with chunk := rest, position := s.position + 1 }
  | [] =>
    if s.exhausted then .ok none s
    else
      match s.input.read s.chunkSize with
      | .error fault input => .error (.device fault) { s with input }
      | .ok [] input => .ok none { s with input, exhausted := true }
      | .ok (byte :: rest) input =>
        .ok (some byte) { s with input, chunk := rest, position := s.position + 1 }

/-- Consume the next effective character.  One that has been looked at is made
effective once more. -/
def fetch (s : Source) : Outcome Source Symbol :=
  match s.lookahead with
  | some c => .ok (c.map effective) { s with lookahead := none }
  | none =>
    match s.pull with
    | .error e s => .error e s
    | .ok byte s => .ok (byte.map fun b => effective b.toNat) s

/-- The next effective character, without consuming it. -/
def peek (s : Source) : Outcome Source Symbol :=
  match s.lookahead with
  | some c => .ok c s
  | none =>
    match s.fetch with
    | .error e s => .error e s
    | .ok c s => .ok c { s with lookahead := some c }

/-! ## What a call takes from `remaining` -/

theorem remaining_pull_some {s s' : Source} {byte : UInt8} (h : s.pull = .ok (some byte) s')
    (clear : s.lookahead = none) : s'.remaining + 1 = s.remaining ∧ s'.lookahead = none := by
  unfold pull at h
  split at h
  next byte rest hc =>
    cases h
    simp [remaining, clear, hc]
    omega
  next hc =>
    split at h
    · cases h
    · split at h
      · cases h
      · cases h
      next live _ b rest input hr =>
        cases h
        have := Stream.Input.remaining_read hr
        simp [remaining, clear, hc, live] at *
        omega

theorem remaining_pull_none {s s' : Source} (h : s.pull = .ok none s')
    (clear : s.lookahead = none) : s'.remaining ≤ s.remaining ∧ s'.lookahead = none := by
  unfold pull at h
  split at h
  · cases h
  · split at h
    · cases h
      exact ⟨Nat.le_refl _, clear⟩
    · split at h
      · cases h
      · cases h
        simp [remaining, clear]
      · cases h

theorem remaining_fetch_some {s s' : Source} {c : Nat} (h : s.fetch = .ok (some c) s') :
    s'.remaining < s.remaining := by
  unfold fetch at h
  split at h
  next held hl =>
    cases held with
    | none => cases h
    | some held =>
      cases h
      simp [remaining, hl]
  next hl =>
    split at h
    · cases h
    next byte s₁ hp =>
      cases byte with
      | none => cases h
      | some b =>
        cases h
        have := (remaining_pull_some hp hl).1
        omega

theorem remaining_fetch_le {s s' : Source} {c : Symbol} (h : s.fetch = .ok c s') :
    s'.remaining ≤ s.remaining := by
  cases c with
  | some c => exact Nat.le_of_lt (remaining_fetch_some h)
  | none =>
    unfold fetch at h
    split at h
    next held hl =>
      cases held with
      | some held => cases h
      | none =>
        cases h
        simp [remaining, hl]
    next hl =>
      split at h
      · cases h
      next byte s₁ hp =>
        cases byte with
        | some b => cases h
        | none =>
          cases h
          exact (remaining_pull_none hp hl).1

theorem remaining_peek_le {s s' : Source} {c : Symbol} (h : s.peek = .ok c s') :
    s'.remaining ≤ s.remaining := by
  unfold peek at h
  split at h
  · cases h
    exact Nat.le_refl _
  next hl =>
    split at h
    · cases h
    next c₁ s₁ hf =>
      cases h
      cases c with
      | none =>
        have := remaining_fetch_le hf
        have : ({ s₁ with lookahead := some none } : Source).remaining ≤ s₁.remaining := by
          simp [remaining]
        omega
      | some c =>
        have := remaining_fetch_some hf
        have : ({ s₁ with lookahead := some (some c) } : Source).remaining ≤ s₁.remaining + 1 := by
          simp [remaining]
          omega
        omega

end Source
end ScriptPress
