/-
Minifying a script: from stream to stream, in memory, and as text.
-/
import ScriptPress.Automaton
import ScriptPress.Encoding

namespace ScriptPress
namespace Script

/-- Minify one stream into another.  The transfer left behind shows what was
read and written, whether or not the run was stopped. -/
def minifyStream (input : Stream.Input) (output : Stream.Output) : Outcome Transfer Tally :=
  match Automaton.run (.between input output) with
  | .ok tally m => .ok tally m.transfer
  | .error e m => .error e m.transfer

def streamNote (tally : Tally) : String := "Minified stream: " ++ tally.summary

/-- The channel on which that note is made. -/
def channel : String := "webui_jsmin.core.processing.minifier"

/-- Minify a script in memory, with the tally of the run.  An empty script needs
no run. -/
def minifyTallied (script : Bytes) : Except Halt (Bytes × Option Tally) :=
  if script.isEmpty then .ok ([], none)
  else
    match minifyStream { supply := .bytes script } {} with
    | .ok tally t => .ok (t.sink.output.stored.toList, some tally)
    | .error e _ => .error e

def minify (script : Bytes) : Except Halt Bytes := (minifyTallied script).map Prod.fst

/-! ## Text -/

inductive TextError where
  | unknownEncoding (name : String)
  /-- A character of the text is not in the encoding. -/
  | unencodable
  /-- The minified bytes are no text in the encoding. -/
  | undecodable
  | halted (halt : Halt)
  deriving DecidableEq, Repr

def TextError.message? : TextError → Option String
  | .unknownEncoding name => some s!"unknown encoding: {name}"
  | .unencodable => none
  | .undecodable => none
  | .halted halt => some halt.message

/-- Minify a text through its bytes in an encoding. -/
def minifyEncoded (encoding : Encoding) (text : List Char) : Except TextError (List Char) := do
  let some script := encoding.encode? text | throw .unencodable
  match minify script with
  | .error halt => throw (.halted halt)
  | .ok output =>
    let some minified := encoding.decode? output | throw .undecodable
    return minified

/-- Minify a text in the encoding of that name.  An empty text needs none. -/
def minifyText (text : String) (encoding : String) : Except TextError String :=
  if text.isEmpty then .ok ""
  else
    match Encoding.named? encoding with
    | none => .error (.unknownEncoding encoding)
    | some known => (minifyEncoded known text.toList).map String.ofList

end Script
end ScriptPress
