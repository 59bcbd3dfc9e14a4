/-
Reading with comments collapsed: a line comment reads as the line end that
closes it, or as the end of the input, and a block comment reads as one space.
-/
import ScriptPress.Source

namespace ScriptPress
namespace Comment

open Code

set_option linter.unusedVariables false in
/-- Skip to the end of the line, and return it. -/
def skipLine (s : Source) : Outcome Source Symbol :=
  match h : s.fetch with
  | .error e s' => .error e s'
  | .ok none s' => .ok none s'
  | .ok (some c) s' =>
    if c = newline then .ok (some c) s'
    else skipLine s'
termination_by s.remaining
decreasing_by exact Source.remaining_fetch_some h

set_option linter.unusedVariables false in
/-- Skip past the next `*/`, and return a space. -/
def skipBlock (s : Source) : Outcome Source Symbol :=
  match h : s.fetch with
  | .error e s' => .error e s'
  | .ok none s' => .error (.unterminated .comment s'.position) s'
  | .ok (some c) s' =>
    if c = star then
      match h' : s'.peek with
      | .error e s'' => .error e s''
      | .ok p s'' =>
        if p = some slash then
          match s''.fetch with
          | .error e s => .error e s
          | .ok _ s => .ok (some space) s
        else skipBlock s''
    else skipBlock s'
termination_by s.remaining
decreasing_by
  · exact Nat.lt_of_le_of_lt (Source.remaining_peek_le h') (Source.remaining_fetch_some h)
  · exact Source.remaining_fetch_some h

/-- The next character, or what the comment that starts here reads as. -/
def next (s : Source) : Outcome Source Symbol :=
  match s.fetch with
  | .error e s => .error e s
  | .ok c s =>
    if c = some slash then
      match s.peek with
      | .error e s => .error e s
      | .ok p s =>
        if p = some slash then skipLine s
        else if p = some star then
          match s.fetch with
          | .error e s => .error e s
          | .ok _ s => skipBlock s
        else .ok c s
    else .ok c s

/-! ## What a call takes from `remaining` -/

theorem remaining_skipLine_le {s s' : Source} {c : Symbol} (h : skipLine s = .ok c s') :
    s'.remaining ≤ s.remaining := by
  fun_induction skipLine s with
  | case1 => cases h
  | case2 s s₁ hf =>
    cases h
    exact Source.remaining_fetch_le hf
  | case3 s s₁ hf =>
    cases h
    exact Source.remaining_fetch_le hf
  | case4 s c₁ s₁ hf _ ih =>
    have := ih h
    have := Source.remaining_fetch_le hf
    omega

theorem remaining_skipBlock_le {s s' : Source} {c : Symbol} (h : skipBlock s = .ok c s') :
    s'.remaining ≤ s.remaining := by
  fun_induction skipBlock s with
  | case1 => cases h
  | case2 => cases h
  | case3 => cases h
  | case4 => cases h
  | case5 s s₁ s₂ _ s₃ hs hf hp =>
    cases h
    have := Source.remaining_fetch_le hf
    have := Source.remaining_peek_le hp
    have := Source.remaining_fetch_le hs
    omega
  | case6 s s₁ p s₂ hp _ hf ih =>
    have := ih h
    have := Source.remaining_fetch_le hf
    have := Source.remaining_peek_le hp
    omega
  | case7 s c₁ s₁ hf _ ih =>
    have := ih h
    have := Source.remaining_fetch_le hf
    omega

/-- A character read takes at least one from `remaining`, and nothing adds to it. -/
theorem remaining_next {s s' : Source} {c : Symbol} (h : next s = .ok c s') :
    s'.remaining ≤ s.remaining ∧ (c.isSome → s'.remaining < s.remaining) := by
  unfold next at h
  split at h
  · cases h
  next c₁ s₁ hf =>
    have le := Source.remaining_fetch_le hf
    split at h
    next hc =>
      subst hc
      have lt := Source.remaining_fetch_some hf
      split at h
      · cases h
      next p s₂ hp =>
        have peeked := Source.remaining_peek_le hp
        split at h
        · have := remaining_skipLine_le h
          exact ⟨by omega, fun _ => by omega⟩
        · split at h
          · split at h
            · cases h
            next s₃ hs =>
              have := Source.remaining_fetch_le hs
              have := remaining_skipBlock_le h
              exact ⟨by omega, fun _ => by omega⟩
          · cases h
            exact ⟨by omega, fun _ => by omega⟩
    · cases h
      refine ⟨le, fun some => ?_⟩
      obtain ⟨code, rfl⟩ := Option.isSome_iff_exists.mp some
      exact Source.remaining_fetch_some hf

end Comment
end ScriptPress
