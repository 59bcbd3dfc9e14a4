/-
Copying literals.

Inside a literal separators and comments are text, so it is copied character by
character from the source, not through `Comment.next`.  A backslash protects the
character after it.  The closing character is consumed and returned, but not
written: it becomes the character held by the automaton.
-/
import ScriptPress.Transfer

namespace ScriptPress
namespace Literal

open Code Transfer

/-- Write `c` and fetch the character after it. -/
def advance (c : Symbol) : Action Transfer Symbol := do
  put c
  fetch

/-- The character to copy next, given one just fetched: a backslash is written
at once, and the character it protects takes its place. -/
def protect (c : Symbol) : Action Transfer Symbol :=
  if c = some backslash then advance c else pure c

/-! ## Steps shrink the input -/

theorem remaining_advance {c c' : Symbol} {t t' : Transfer} (h : advance c t = .ok c' t') :
    t'.remaining ≤ t.remaining ∧ (c'.isSome → t'.remaining < t.remaining) := by
  simp only [advance, bind, EStateM.bind] at h
  split at h
  next hp =>
    have kept := remaining_put hp
    refine ⟨kept ▸ remaining_fetch_le h, fun some => ?_⟩
    obtain ⟨code, rfl⟩ := Option.isSome_iff_exists.mp some
    exact kept ▸ remaining_fetch_some h
  · cases h

theorem protect_none (t : Transfer) : protect none t = .ok none t := rfl

theorem remaining_protect_le {c c' : Symbol} {t t' : Transfer} (h : protect c t = .ok c' t') :
    t'.remaining ≤ t.remaining := by
  unfold protect at h
  split at h
  · exact (remaining_advance h).1
  · cases h
    exact Nat.le_refl _

/-! ## Quoted literals and character classes -/

set_option linter.unusedVariables false in
/-- Copy from `c`, already consumed, up to the first unprotected `close`. -/
def enclosed (what : Construct) (close c : Symbol) (t : Transfer) : Outcome Transfer Symbol :=
  match h : advance c t with
  | .error e t => .error e t
  | .ok c₁ t₁ =>
    if c₁ = close then .ok c₁ t₁
    else
      match h' : protect c₁ t₁ with
      | .error e t => .error e t
      | .ok none t => .error (.unterminated what t.source.position) t
      | .ok (some c₂) t₂ => enclosed what close (some c₂) t₂
termination_by t.remaining
decreasing_by
  cases c₁ with
  | none => simp [protect_none] at h'
  | some c₁ =>
    exact Nat.lt_of_le_of_lt (remaining_protect_le h') ((remaining_advance h).2 rfl)

theorem remaining_enclosed_le {what : Construct} {close c c' : Symbol} {t t' : Transfer}
    (h : enclosed what close c t = .ok c' t') : t'.remaining ≤ t.remaining := by
  fun_induction enclosed what close c t with
  | case1 => cases h
  | case2 c t t₁ ha =>
    cases h
    exact (remaining_advance ha).1
  | case3 => cases h
  | case4 => cases h
  | case5 c t c₁ t₁ ha _ c₂ t₂ hp ih =>
    have := ih h
    have := (remaining_advance ha).1
    have := remaining_protect_le hp
    omega

/-- Copy a quoted literal whose opening `quote` is consumed and not yet written. -/
def quoted (quote : Symbol) : Action Transfer Symbol := enclosed .quoted quote quote

/-! ## Regular expressions -/

/-- The last character of the unit of a regular expression that starts with `c`,
once all before it is written.  A character class is one unit. -/
def regexUnit (c : Symbol) (t : Transfer) : Outcome Transfer Symbol :=
  if c = some openBracket then enclosed .characterClass (some closeBracket) c t
  else protect c t

theorem regexUnit_none (t : Transfer) : regexUnit none t = .ok none t := rfl

theorem remaining_regexUnit_le {c c' : Symbol} {t t' : Transfer}
    (h : regexUnit c t = .ok c' t') : t'.remaining ≤ t.remaining := by
  unfold regexUnit at h
  split at h
  · exact remaining_enclosed_le h
  · exact remaining_protect_le h

set_option linter.unusedVariables false in
/-- Copy the body of a regular expression whose opening slash is written. -/
def regex (t : Transfer) : Outcome Transfer Symbol :=
  match h : fetch t with
  | .error e t => .error e t
  | .ok c t₁ =>
    if c = some slash then .ok c t₁
    else
      match h' : regexUnit c t₁ with
      | .error e t => .error e t
      | .ok none t => .error (.unterminated .regex t.source.position) t
      | .ok (some c₂) t₂ =>
        match h'' : put (some c₂) t₂ with
        | .error e t => .error e t
        | .ok _ t₃ => regex t₃
termination_by t.remaining
decreasing_by
  cases c with
  | none => simp [regexUnit_none] at h'
  | some c =>
    have := remaining_fetch_some h
    have := remaining_regexUnit_le h'
    have := remaining_put h''
    omega

theorem remaining_regex_le {c : Symbol} {t t' : Transfer} (h : regex t = .ok c t') :
    t'.remaining ≤ t.remaining := by
  fun_induction regex t with
  | case1 => cases h
  | case2 t t₁ hf =>
    cases h
    exact remaining_fetch_le hf
  | case3 => cases h
  | case4 => cases h
  | case5 => cases h
  | case6 t c₁ t₁ hf _ c₂ t₂ hu _ t₃ hp ih =>
    have := ih h
    have := remaining_fetch_le hf
    have := remaining_regexUnit_le hu
    have := remaining_put hp
    omega

end Literal
end ScriptPress
