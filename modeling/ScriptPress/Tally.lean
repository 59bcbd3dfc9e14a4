/-
The byte counts of a run, and the part of the script it removed.
-/
import ScriptPress.Double

namespace ScriptPress

/-- Bytes read and bytes written. -/
structure Tally where
  bytesIn : Int
  bytesOut : Int
  deriving DecidableEq, Repr

namespace Tally

/-- Per cent of the input removed: a hundred less the rounded percentage that
is left.  `none` when that percentage is too large for a double. -/
def reduction? (t : Tally) : Option Double :=
  if t.bytesIn ≤ 0 then some Double.zero
  else do
    let left ← Double.ofRatio? (t.bytesOut * 100) t.bytesIn.toNat
    left.subtractFrom? 100

/-- What is said of a tally without a reduction. -/
def overflowMessage : String := "integer division result too large for a float"

/-- The reduction with one digit after the point. -/
def percent (t : Tally) : String :=
  match t.reduction? with
  | some r => r.toFixed 1
  | none => "-inf"

def summary (t : Tally) : String :=
  s!"{t.bytesIn} -> {t.bytesOut} bytes ({t.percent}% reduction)"

end Tally
end ScriptPress
