/-
The separator table: what to do with the character held and the one after it.
-/
import ScriptPress.Character

namespace ScriptPress

open Code

/-- What one step does with the held character and the character after it. -/
inductive Verdict where
  /-- Write the held character and hold the next one. -/
  | keep
  /-- Drop the held character and hold the next one. -/
  | elide
  /-- Keep holding, and drop the next one. -/
  | defer
  deriving DecidableEq, Repr

namespace Verdict

def afterSpace (next : Symbol) : Verdict :=
  if next.any isWord then keep else elide

def afterLine (next : Symbol) : Verdict :=
  if next.any keepsLineBefore then keep
  else if next = some space then defer
  else if next.any isWord then keep
  else elide

def afterOther (held next : Symbol) : Verdict :=
  if next = some space then
    if held.any isWord then keep else defer
  else if next = some newline then
    if held.any keepsLineAfter || held.any isWord then keep else defer
  else keep

/-- The table itself. -/
def of (held next : Symbol) : Verdict :=
  if held = some space then afterSpace next
  else if held = some newline then afterLine next
  else afterOther held next

theorem of_space (next : Symbol) : of (some space) next = afterSpace next := rfl

theorem of_newline (next : Symbol) : of (some newline) next = afterLine next := rfl

theorem of_significant {x : Nat} (h : isSeparator x = false) (next : Symbol) :
    of (some x) next = afterOther (some x) next := by
  obtain ⟨notSpace, notLine⟩ := not_isSeparator_iff.mp h
  simp [of, notSpace, notLine]

/-- At the end of the input nothing is left to drop, so a step always moves on. -/
theorem of_none_ne_defer (held : Symbol) : of held none ≠ defer := by
  simp only [of, afterSpace, afterLine, afterOther]
  split
  · simp
  · split <;> simp

end Verdict
end ScriptPress
