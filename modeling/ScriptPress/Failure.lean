/-
Failures that are reported to whoever asked for a run: what they are called, how
they are worded, and the exit status they lead to.
-/
import ScriptPress.Halt

namespace ScriptPress

namespace Failure

/-- Kinds of failure, from the general to the particular. -/
inductive Kind where
  | general
  | usage
  | file
  | inputOpen
  | outputOpen
  | outputClose
  | lexical
  | unterminated (what : Construct)
  deriving DecidableEq, Repr

namespace Kind

def all : List Kind :=
  [general, usage, file, inputOpen, outputOpen, outputClose, lexical,
    unterminated .comment, unterminated .quoted, unterminated .characterClass,
    unterminated .regex]

theorem mem_all (kind : Kind) : kind ∈ all := by
  cases kind with
  | unterminated what => cases what <;> decide
  | _ => decide

/-- The name under which a kind is reported. -/
def label : Kind → String
  | general => "JsminError"
  | usage => "ArgumentCountError"
  | file => "JsminIOError"
  | inputOpen => "InputOpenError"
  | outputOpen => "OutputOpenError"
  | outputClose => "OutputCloseError"
  | lexical => "LexicalError"
  | unterminated .comment => "UnterminatedComment"
  | unterminated .quoted => "UnterminatedStringLiteral"
  | unterminated .characterClass => "UnterminatedCharacterClass"
  | unterminated .regex => "UnterminatedRegexLiteral"

def labelled? (name : String) : Option Kind := all.find? (·.label == name)

/-- A kind and the more general ones it belongs to, itself first. -/
def lineage (kind : Kind) : List Kind :=
  kind :: match kind with
    | general => []
    | usage | file | lexical => [general]
    | inputOpen | outputOpen | outputClose => [file, general]
    | unterminated _ => [lexical, general]

/-- What is said of every failure of a kind. -/
def summary : Kind → String
  | general | file | lexical => "minification failed"
  | usage => "usage: jsmin <input.js> <output.js>"
  | inputOpen => "unable to open input"
  | outputOpen => "unable to open output"
  | outputClose => "failed writing output"
  | unterminated what => what.complaint

def exitCode : Kind → Nat
  | usage => 2
  | _ => 1

/-- Whether failures of a kind have a position. -/
def isLexical (kind : Kind) : Bool := kind.lineage.contains lexical

end Kind
end Failure

/-- A failure.  Lexical ones have a position, the others may have a detail. -/
structure Failure where
  kind : Failure.Kind
  detail : Option String := none
  position : Option Int := none
  deriving DecidableEq, Repr

namespace Failure

/-- The failure of a run that ended inside a construct. -/
def unterminated (what : Construct) (position : Nat) : Failure :=
  { kind := .unterminated what, position := some position }

/-- The whole text: an empty detail adds nothing. -/
def text (f : Failure) : String :=
  match f.detail with
  | none => f.kind.summary
  | some detail =>
    if detail.isEmpty then f.kind.summary else s!"{f.kind.summary}: {detail}"

end Failure
end ScriptPress
