/-
The program: minify the file named first into the file named second.
-/
import ScriptPress.CommandLine

namespace ScriptPress
namespace Program

/-- Print the line for a failure and give its exit status. -/
def report (failure : Failure) : IO UInt32 := do
  IO.eprintln (CommandLine.complaint failure)
  return failure.kind.exitCode.toUInt32

/-- Minify one open file into another.  Both are open before anything is read, and
what was written before a halt is kept. -/
def transfer (input output : IO.FS.Handle) (outputPath : String) : IO UInt32 := do
  let attempt : IO (Option Halt) := do
    let script ← input.readBinToEnd
    match Script.minifyStream { supply := .bytes script.toList } {} with
    | .ok _ t =>
      output.write ⟨t.sink.output.stored⟩
      output.flush
      return none
    | .error halt t =>
      output.write ⟨t.sink.output.stored⟩
      output.flush
      return some halt
  match ← attempt.toBaseIO with
  | .error _ => report { kind := .outputClose, detail := some outputPath }
  | .ok none => return 0
  | .ok (some halt) =>
    match Job.haltError outputPath halt with
    | .reported failure => report failure
    | e => throw (IO.userError e.message)

/-- Open a file for reading.  A directory can be opened too, but not as a script;
it is known by having an entry `.` of its own. -/
def openInput (path : String) : IO (Option IO.FS.Handle) := do
  match ← (IO.FS.Handle.mk (path ++ "/.") .read).toBaseIO with
  | .ok _ => return none
  | .error _ => return (← (IO.FS.Handle.mk path .read).toBaseIO).toOption

/-- One invocation. -/
def run (arguments : List String) : IO UInt32 := do
  match CommandLine.parse arguments with
  | .error failure => report failure
  | .ok request =>
    match ← openInput request.input with
    | none => report { kind := .inputOpen, detail := some request.input }
    | some input =>
      let some path := request.output? | throw (IO.userError Job.Error.noPath.message)
      match ← (IO.FS.Handle.mk path .write).toBaseIO with
      | .error _ => report { kind := .outputOpen, detail := some path }
      | .ok output => transfer input output path

end Program
end ScriptPress

def main (arguments : List String) : IO UInt32 := ScriptPress.Program.run arguments
