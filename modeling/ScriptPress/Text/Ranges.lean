/-
Sets of characters, as ranges of codes.

The ranges of a set ascend, so a search stops at the first one that starts above
the code it looks for.
-/

namespace ScriptPress
namespace Text

/-- Ranges of codes, each with its first and its last, in ascending order. -/
abbrev Ranges := List (Nat × Nat)

/-- Whether a code is in one of the ranges. -/
def Ranges.covers (ranges : Ranges) (n : Nat) : Bool :=
  match ranges with
  | [] => false
  | (first, last) :: rest => first ≤ n && (n ≤ last || covers rest n)

end Text
end ScriptPress
