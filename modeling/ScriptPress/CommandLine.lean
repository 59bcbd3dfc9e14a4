/-
The command line: two paths, an exit status, and one line for a failure.
-/
import ScriptPress.Job
import ScriptPress.Journal.Basic

namespace ScriptPress
namespace CommandLine

structure Request where
  input : String
  output : String
  deriving DecidableEq, Repr

/-- Names of the arguments that `given` many leave out. -/
def missing (given : Nat) : List String := ["input_path", "output_path"].drop given

def usage (detail : String) : Failure := { kind := .usage, detail := some detail }

/-- The path to write to.  A second word `--` is dropped as one more mark of where options
end, and leaves no path. -/
def Request.output? (r : Request) : Option String :=
  if r.output = "--" then none else some r.output

/-- The run that is asked for. -/
def Request.run (r : Request) (s : Store) (faults : Faults) : Job.Report :=
  match r.output? with
  | some output => Job.run s r.input output faults
  | none => Job.runNowhere s r.input

/-- The note made before that run. -/
def Request.note (r : Request) : String :=
  let output := r.output?.getD "[]"
  s!"Minifying {r.input} -> {output}"

/-- Exactly two arguments are asked for, and each of them is a path, whatever it
looks like. -/
def parse : List String → Except Failure Request
  | [input, output] => .ok ⟨input, output⟩
  | _ :: _ :: extra => .error (usage ("unrecognized arguments: " ++ " ".intercalate extra))
  | arguments =>
    .error (usage ("the following arguments are required: " ++
      ", ".intercalate (missing arguments.length)))

/-- The channel for the course of an invocation. -/
def channel : String := "webui_jsmin.interface.cli.app"

/-- The line printed for a failure: bad usage is answered by the usage alone. -/
def complaint (f : Failure) : String :=
  match f.kind with
  | .usage => f.kind.summary
  | _ => s!"jsmin: {f.text}"

def failureNote (f : Failure) : String :=
  match f.kind with
  | .usage => "Rejected command line: " ++ f.detail.getD ""
  | kind => "Run aborted by " ++ kind.label

def successNote (tally : Tally) : String :=
  s!"Done: {tally.bytesOut} bytes written ({tally.percent}% reduction)"

/-- Where a line is printed. -/
inductive Outlet where
  | output
  | error
  deriving DecidableEq, Repr

structure Report where
  /-- The exit status, unless an error was not one to be reported. -/
  exit : Except Job.Error Nat
  /-- Lines printed, in order. -/
  lines : List (Outlet × String) := []
  store : Store
  journal : Journal

namespace Report

def linesOn (outlet : Outlet) (report : Report) : List String :=
  (report.lines.filter (·.1 = outlet)).map Prod.snd

/-- Lines printed as an answer. -/
def answered (report : Report) : List String := report.linesOn .output

/-- Lines printed as a complaint. -/
def printed (report : Report) : List String := report.linesOn .error

def stdout (report : Report) : String := String.join (report.answered.map (· ++ "\n"))

def stderr (report : Report) : String := String.join (report.printed.map (· ++ "\n"))

end Report

/-- Set up the journal as for any invocation; one set up before stays. -/
def prepare (j : Journal) : Journal :=
  match Journal.configure {} false j with
  | .ok _ j => j
  | .error _ j => j

def fail (f : Failure) (s : Store) (j : Journal) : Report :=
  { exit := .ok f.kind.exitCode, lines := [(.error, complaint f)], store := s
    journal := j.debug channel (failureNote f) }

def run (arguments : List String) (faults : Faults) (s : Store) (j : Journal) : Report :=
  let j := prepare j
  match parse arguments with
  | .error failure => fail failure s j
  | .ok request =>
    let j := j.debug channel request.note
    let job := request.run s faults
    let j := job.notes.foldl (fun j note => j.debug note.channel note.message) j
    match job.result with
    | .ok tally =>
      { exit := .ok 0, store := job.store, journal := j.debug channel (successNote tally) }
    | .error (.reported failure) => fail failure job.store j
    | .error e => { exit := .error e, store := job.store, journal := j }

end CommandLine
end ScriptPress
