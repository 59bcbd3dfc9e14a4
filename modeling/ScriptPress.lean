import ScriptPress.Character
import ScriptPress.Separator
import ScriptPress.Stream
import ScriptPress.Halt
import ScriptPress.Source
import ScriptPress.Sink
import ScriptPress.Transfer
import ScriptPress.Comment
import ScriptPress.Literal
import ScriptPress.Double
import ScriptPress.Tally
import ScriptPress.Automaton
import ScriptPress.Encoding
import ScriptPress.Script
import ScriptPress.Failure
import ScriptPress.Text.Ranges
import ScriptPress.Text.Visible
import ScriptPress.Text.Word
import ScriptPress.Text.Digit
import ScriptPress.Text.Quoted
import ScriptPress.Numeral
import ScriptPress.Store
import ScriptPress.Job
import ScriptPress.Journal.Level
import ScriptPress.Journal.Record
import ScriptPress.Journal.Directive
import ScriptPress.Journal.Layout
import ScriptPress.Journal.Basic
import ScriptPress.Journal.Minify
import ScriptPress.CommandLine
import ScriptPress.Main
import ScriptPress.Proofs.Plain.Scan
import ScriptPress.Proofs.Plain.Machine
import ScriptPress.Proofs.Streams
import ScriptPress.Proofs.Plain.Invariant
import ScriptPress.Proofs.Scanning
import ScriptPress.Proofs.Mirror
import ScriptPress.Proofs.Course
import ScriptPress.Proofs.Items
import ScriptPress.Proofs.Stance
import ScriptPress.Proofs.Passes
import ScriptPress.Proofs.Layout
import ScriptPress.Proofs.Rescan
import ScriptPress.Proofs.Fusion
import ScriptPress.Proofs.Dialogue
import ScriptPress.Proofs.Chunks
import ScriptPress.Proofs.Faults
import ScriptPress.Proofs.Grammar
import ScriptPress.Proofs.Literals
import ScriptPress.Proofs.Draft
import ScriptPress.Proofs.Extension
import ScriptPress.Proofs.Account
import ScriptPress.Proofs.CodePoints
import ScriptPress.Proofs.Files
import ScriptPress.Proofs.Jobs
import ScriptPress.Proofs.Commands
import ScriptPress.Proofs.Sessions
import ScriptPress.Proofs.Consoles
import ScriptPress.Proofs.Delivery
import ScriptPress.Proofs.NormalForm
import ScriptPress.Proofs.Lookahead
import ScriptPress.Proofs.Buffer
import ScriptPress.Proofs.Acceptance
import ScriptPress.Proofs.Comments
import ScriptPress.Proofs.Loops
import ScriptPress.Proofs.Termination
import ScriptPress.Proofs.Slashes
