/-
The journal: what is logged, who gets to see it, and the console that can be
switched on and off while it runs.

Records for the console pass through a queue and are shown by a listener that
takes them out whenever it likes; stopping the listener shows what is left.  The
host of the program may have a handler of its own, which is not touched here.
-/
import ScriptPress.Journal.Layout

namespace ScriptPress

namespace Journal

inductive Handler where
  /-- The queue in front of the console. -/
  | console
  /-- The host's own handler. -/
  | host
  deriving DecidableEq, Repr

/-- The console behind the queue. -/
structure Listener where
  /-- Records below this level are not shown. -/
  level : Int
  layout : String
  deriving DecidableEq, Repr

structure Settings where
  level : Option String := some "WARNING"
  console : Bool := true
  layout : String := "jsmin: %(levelname)s | %(message)s"
  deriving DecidableEq, Repr

structure BadLayout where
  layout : String
  deriving DecidableEq, Repr

def BadLayout.message (e : BadLayout) : String := s!"Invalid format '{e.layout}' for '%' style"

/-- What is put on the screen for a record. -/
inductive Entry where
  | line (text : String)
  /-- A report that the record has no line in this layout. -/
  | report (layout : String) (r : Record)
  deriving DecidableEq, Repr

/-- An entry as text.  How a failure is reported depends on where the program runs, so
the text of that is given from outside. -/
def Entry.text (report : String → Record → String) : Entry → String
  | line text => text ++ "\n"
  | Entry.report layout r => report layout r

def Layout.entry (layout : String) (r : Record) : Entry :=
  (line? layout r).elim (.report layout r) .line

end Journal

structure Journal where
  /-- Records below this level are dropped. -/
  level : Int := Journal.Level.warning
  handlers : List Journal.Handler := []
  listener : Option Journal.Listener := none
  /-- Records handed to the console and not yet shown, oldest first. -/
  queue : List Journal.Record := []
  /-- Setting up again does nothing unless it is forced. -/
  configured : Bool := false
  /-- What was shown, in order. -/
  shown : List Journal.Entry := []
  /-- Records the host was handed, in order. -/
  received : List Journal.Record := []
  deriving Repr

namespace Journal

/-! ## Logging -/

/-- The name of the channel that has none. -/
def rootChannel : String := "root"

def display (j : Journal) (entry : Entry) : Journal := { j with shown := j.shown ++ [entry] }

def hand (r : Record) (j : Journal) : Handler → Journal
  | .console => { j with queue := j.queue ++ [r] }
  | .host => { j with received := j.received ++ [r] }

/-- Log a record.  Where there is no handler at all, a record that matters is
shown as its bare message. -/
def log (r : Record) (j : Journal) : Journal :=
  let r := if r.channel.isEmpty then { r with channel := rootChannel } else r
  if !Level.passes j.level r.level then j
  else if j.handlers.isEmpty then
    if Level.warning ≤ r.level then j.display (.line r.message) else j
  else j.handlers.foldl (hand r) j

def debug (channel message : String) (j : Journal) : Journal :=
  j.log { level := Level.debug, channel, message }

/-! ## The listener -/

/-- What a listener does with a record.  One that has no line in the layout is reported
in its place. -/
def Listener.present (l : Listener) (j : Journal) (r : Record) : Journal :=
  if r.level < l.level then j else j.display (Layout.entry l.layout r)

def deliver (j : Journal) : Journal :=
  match j.listener, j.queue with
  | some l, r :: rest => l.present { j with queue := rest } r
  | _, _ => j

/-- Stop the listener, once it has shown all that is in the queue. -/
def stop (j : Journal) : Journal :=
  match j.listener with
  | none => j
  | some l => { j.queue.foldl l.present j with queue := [], listener := none }

def detach (j : Journal) : Journal :=
  { j with handlers := j.handlers.filter (· != .console) }

/-! ## Setting up and shutting down -/

def install (l : Listener) (j : Journal) : Journal :=
  { j with
    handlers := j.handlers ++ [.console]
    listener := some l
    queue := []
    configured := true }

/-- Set up the journal.  Once set up it stays as it is, unless `force` is given.
A layout that cannot be used is found out after the old console is gone. -/
def configure (settings : Settings) (force : Bool) : EStateM BadLayout Journal Unit := fun j =>
  if j.configured && !force then .ok () j
  else
    let level := Level.ofSetting settings.level
    let j := { j with level }.detach.stop
    if !settings.console then .ok () j
    else if Layout.isUsable settings.layout then .ok () (j.install ⟨level, settings.layout⟩)
    else .error ⟨settings.layout⟩ j

/-- Stop the listener and take the console away.  The level stays. -/
def shutdown (j : Journal) : Journal := { j.stop.detach with configured := false }

/-- Add the host's handler, unless it is there already. -/
def attachHost (j : Journal) : Journal :=
  if j.handlers.contains .host then j else { j with handlers := j.handlers ++ [.host] }

/-! ## What can be seen -/

/-- How many handlers are the journal's own. -/
def consoles (j : Journal) : Nat := j.handlers.count .console

def hostLines (j : Journal) : List String :=
  j.received.map fun r => s!"{Level.name r.level} {r.channel} {r.message}"

end Journal
end ScriptPress
