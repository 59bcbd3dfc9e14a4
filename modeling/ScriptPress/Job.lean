/-
One run from a file to a file.

The input is opened first, and the output is emptied before anything is read: if
both are one file, there is nothing to read.
-/
import ScriptPress.Failure
import ScriptPress.Script
import ScriptPress.Store

namespace ScriptPress

/-- Calls on the two files that are going to fail. -/
structure Faults where
  /-- Number of the failing read, counted from one; zero is never. -/
  read : Nat := 0
  writes : List Nat := []
  close : Bool := false
  deriving Repr

namespace Job

inductive Error where
  | reported (failure : Failure)
  | nullInPath
  /-- Something other than a byte was to be written. -/
  | notByte
  /-- There was no path to write to. -/
  | noPath
  deriving DecidableEq, Repr

def Error.message : Error → String
  | reported failure => failure.text
  | nullInPath => OpenError.nullInPath.message ""
  | notByte => Halt.notByte.message
  | noPath => "expected str, bytes or os.PathLike object, not list"

/-- Something to be written to the journal, and the channel it goes to. -/
structure Note where
  channel : String
  message : String
  deriving DecidableEq, Repr

structure Report where
  result : Except Error Tally
  store : Store
  /-- What was noted on the way, in order. -/
  notes : List Note := []

/-- The error of a path that cannot be opened.  A NUL is not reported as a failure
to open. -/
def openFailure (kind : Failure.Kind) (path : String) : OpenError → Error
  | .nullInPath => .nullInPath
  | _ => .reported { kind, detail := some path }

/-- The channel for what goes wrong with files. -/
def fileChannel : String := "webui_jsmin.infra.fs"

/-- What is noted about it. -/
def openNotes (role path : String) : OpenError → List Note
  | .nullInPath => []
  | e => [⟨fileChannel, s!"Cannot open {role} '{path}': {e.message path}"⟩]

/-- Bytes that a buffer holds for a device. -/
def deviceBuffer : Nat := 4096

def outputStream (s : Store) (location : Location) (faults : Faults) : Stream.Output :=
  { failingWrites := faults.writes
    failingClose := faults.close
    room := if s.get? location = some (.device .full) then some deviceBuffer else none }

/-- The error of a run that was stopped.  Any fault of a stream counts as a failure
of the output. -/
def haltError (path : String) : Halt → Error
  | .unterminated what position => .reported (.unterminated what position)
  | .device _ => .reported { kind := .outputClose, detail := some path }
  | .notByte => .notByte

/-- The report of a run whose input does not open. -/
def noInput (s : Store) (input : String) (e : OpenError) : Report :=
  { result := .error (openFailure .inputOpen input e), store := s
    notes := openNotes "input" input e }

/-- A run without an output.  The input is opened before that is found out. -/
def runNowhere (s : Store) (input : String) : Report :=
  match s.openInput input with
  | .error e => noInput s input e
  | .ok _ => { result := .error .noPath, store := s }

/-- Minify the file at `input` into the file at `output`. -/
def run (s : Store) (input output : String) (faults : Faults) : Report :=
  match s.openInput input with
  | .error e => noInput s input e
  | .ok source =>
    match s.openOutput output with
    | .error e =>
      { result := .error (openFailure .outputOpen output e), store := s
        notes := openNotes "output" output e }
    | .ok (target, s) =>
      let reader : Stream.Input :=
        { supply := .bytes (s.content source), failingRead := faults.read }
      match Script.minifyStream reader (outputStream s target faults) with
      | .error halt t =>
        { result := .error (haltError output halt)
          store := s.save target t.sink.output.stored.toList }
      | .ok tally t =>
        let s := s.save target t.sink.output.stored.toList
        match t.sink.output.close with
        | .error fault =>
          { result := .error (.reported { kind := .outputClose, detail := some output }), store := s
            notes := [⟨fileChannel, s!"Cannot close output '{output}': {fault.message}"⟩] }
        | .ok _ =>
          { result := .ok tally, store := s
            notes := [⟨Script.channel, s!"Minified {input}: {tally.summary}"⟩] }

end Job
end ScriptPress
