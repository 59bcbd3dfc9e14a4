/-
Minifying with a note of it in the journal.
-/
import ScriptPress.Journal.Basic
import ScriptPress.Script

namespace ScriptPress
namespace Journal

/-- The note of a run that ended well.  It gives this place as its own. -/
def runRecord (tally : Tally) (made : Circumstances) : Record where
  level := Level.debug
  channel := Script.channel
  message := Script.streamNote tally
  made :=
    { made with file := "minifier.py", unit := "minifier", function := "minify_stream", line := 212 }

/-- Minify a script in memory.  A run that ends well is noted, in the circumstances
that are given. -/
def minify (script : Bytes) (j : Journal) (made : Circumstances := {}) :
    Except Halt Bytes × Journal :=
  match Script.minifyTallied script with
  | .error halt => (.error halt, j)
  | .ok (output, none) => (.ok output, j)
  | .ok (output, some tally) => (.ok output, j.log (runRecord tally made))

end Journal
end ScriptPress
