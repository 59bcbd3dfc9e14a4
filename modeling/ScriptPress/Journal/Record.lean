/-
Records of the journal, what can be asked of one by name, and how that reads as
text.

A record says what happened, and also where, when and in which process.  That comes
from outside, so it is kept with the record as its circumstances.
-/
import ScriptPress.Journal.Level
import ScriptPress.Numeral
import ScriptPress.Text.Quoted

namespace ScriptPress
namespace Journal

/-! ## Values -/

/-- What a field of a record holds. -/
inductive Value where
  | text (text : String)
  | number (n : Int)
  | real (x : Double)
  | nothing
  deriving DecidableEq, Repr

namespace Value

/-- A value written out, with a text between quotes. -/
def quoted (quote : String → String) : Value → String
  | text t => quote t
  | number n => toString n
  | real x =>
    let (n, d) := x.ratio
    (if x.negative then "-" else "") ++ String.ofList (Numeral.literal n d)
  | nothing => "None"

/-- A value in plain text. -/
def plain : Value → String
  | text t => t
  | value => value.quoted Text.quote

/-- The character that a value is. -/
def character? : Value → Option Char
  | text t => match t.toList with
    | [c] => some c
    | _ => none
  | number n => if 0 ≤ n ∧ n.toNat.isValidChar then some (Char.ofNat n.toNat) else none
  | _ => none

def integer? : Value → Option Int
  | number n => some n
  | _ => none

/-- A number without what follows its point. -/
def whole? : Value → Option Int
  | number n => some n
  | real x => some x.truncated
  | _ => none

/-- The double nearest to a number. -/
def real? : Value → Option Double
  | number n => Double.ofRatio? n 1
  | real x => some x
  | _ => none

end Value

/-! ## Records -/

/-- Where, when and by whom a record was made. -/
structure Circumstances where
  path : String := ""
  file : String := ""
  unit : String := ""
  function : String := ""
  line : Int := 0
  /-- Seconds since the epoch, the milliseconds of that, and those since the start. -/
  created : Double := .zero
  milliseconds : Double := .zero
  elapsed : Double := .zero
  /-- The time as it is written for a reader. -/
  time : String := ""
  thread : Int := 0
  threadName : String := "MainThread"
  process : Int := 0
  processName : String := "MainProcess"
  /-- Fields that a record has only in some environments. -/
  others : List (String × Value) := []
  deriving DecidableEq, Repr

structure Record where
  level : Int
  channel : String
  message : String
  made : Circumstances := {}
  deriving DecidableEq, Repr

/-! ## Fields -/

/-- The fields that every record has. -/
inductive Field where
  | name
  | msg
  | args
  | levelname
  | levelno
  | pathname
  | filename
  | module
  | excInfo
  | excText
  | stackInfo
  | lineno
  | funcName
  | created
  | msecs
  | relativeCreated
  | thread
  | threadName
  | processName
  | process
  | message
  | asctime
  deriving DecidableEq, Repr

namespace Field

def key : Field → String
  | name => "name"
  | msg => "msg"
  | args => "args"
  | levelname => "levelname"
  | levelno => "levelno"
  | pathname => "pathname"
  | filename => "filename"
  | module => "module"
  | excInfo => "exc_info"
  | excText => "exc_text"
  | stackInfo => "stack_info"
  | lineno => "lineno"
  | funcName => "funcName"
  | created => "created"
  | msecs => "msecs"
  | relativeCreated => "relativeCreated"
  | thread => "thread"
  | threadName => "threadName"
  | processName => "processName"
  | process => "process"
  | message => "message"
  | asctime => "asctime"

/-- The fields that a record has from its making, in the order they are written in. -/
def first : List Field :=
  [name, msg, args, levelname, levelno, pathname, filename, module, excInfo, excText, stackInfo,
    lineno, funcName, created, msecs, relativeCreated, thread, threadName, processName, process]

/-- The fields that it gets when it is shown, of which the time only if it is asked
for. -/
def last (isTimed : Bool) : List Field := if isTimed then [message, asctime] else [message]

def named? (name : String) : Option Field := (first ++ last true).find? (·.key = name)

end Field

namespace Record

/-- What a record holds in a field.  Nothing comes with a message but the message. -/
def value (r : Record) : Field → Value
  | .name => .text r.channel
  | .msg => .text r.message
  | .args => .nothing
  | .levelname => .text (Level.name r.level)
  | .levelno => .number r.level
  | .pathname => .text r.made.path
  | .filename => .text r.made.file
  | .module => .text r.made.unit
  | .excInfo => .nothing
  | .excText => .nothing
  | .stackInfo => .nothing
  | .lineno => .number r.made.line
  | .funcName => .text r.made.function
  | .created => .real r.made.created
  | .msecs => .real r.made.milliseconds
  | .relativeCreated => .real r.made.elapsed
  | .thread => .number r.made.thread
  | .threadName => .text r.made.threadName
  | .processName => .text r.made.processName
  | .process => .number r.made.process
  | .message => .text r.message
  | .asctime => .text r.made.time

/-- The value that a record has under a name. -/
def field? (r : Record) (name : String) : Option Value :=
  match Field.named? name with
  | some f => some (r.value f)
  | none => r.made.others.lookup name

/-- A record written out, field by field. -/
def quoted (quote : String → String) (isTimed : Bool) (r : Record) : String :=
  let written (fields : List Field) : List (String × Value) := fields.map fun f => (f.key, r.value f)
  let all := written Field.first ++ r.made.others ++ written (Field.last isTimed)
  let pairs := all.map fun (name, value) => quote name ++ ": " ++ value.quoted quote
  "\x7b" ++ ", ".intercalate pairs ++ "\x7d"

end Record
end Journal
end ScriptPress
