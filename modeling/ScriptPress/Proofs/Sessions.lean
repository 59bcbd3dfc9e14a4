/-
Sessions: calls on a journal, with the listener at work in between.

A call is made up of a few moves, and the listener may show a record before any of
them.  What it cannot change is the set-up of the journal, what the host has
received, and what is due on the screen: the entries shown and those of the records
still in the queue.  So every move is described by what it does to these three.
Two moves may only be made while there is no listener: to show an entry at once, and
to install a new console.  The queue would otherwise be overtaken, or lost.
-/
import Mathlib.Data.List.Nodup
import ScriptPress.Journal.Minify

namespace ScriptPress
namespace Journal

/-! ## Calls -/

/-- What the program and its host ask of a journal. -/
inductive Call where
  | configure (settings : Settings) (force : Bool)
  | shutdown
  | attachHost
  | log (r : Record)
  | minify (script : Bytes) (made : Circumstances)
  deriving DecidableEq, Repr

/-- A record as it is handed on.  One without a channel is on the root. -/
def Record.addressed (r : Record) : Record :=
  if r.channel.isEmpty then { r with channel := rootChannel } else r

/-- The note that minifying a script makes. -/
def note? (script : Bytes) (made : Circumstances) : Option Record :=
  match Script.minifyTallied script with
  | .ok (_, some tally) => some (runRecord tally made)
  | _ => none

theorem minify_eq (script : Bytes) (made : Circumstances) (j : Journal) :
    (j.minify script made).2 = (note? script made).elim j fun r => j.log r := by
  unfold Journal.minify note?
  cases Script.minifyTallied script with
  | error halt => rfl
  | ok minified =>
    obtain ⟨output, tally⟩ := minified
    cases tally <;> rfl

/-- The record that a call logs. -/
def Call.record? : Call → Option Record
  | log r => some r.addressed
  | minify script made => (note? script made).map Record.addressed
  | _ => none

def Call.perform (j : Journal) : Call → Journal
  | configure settings force =>
    match Journal.configure settings force j with
    | .ok _ j => j
    | .error _ j => j
  | shutdown => j.shutdown
  | attachHost => j.attachHost
  | log r => j.log r
  | minify script made => (j.minify script made).2

/-- The journal after some calls, one at a time. -/
def after (j : Journal) (calls : List Call) : Journal := calls.foldl Call.perform j

theorem after_cons (j : Journal) (c : Call) (calls : List Call) :
    j.after (c :: calls) = (c.perform j).after calls := rfl

/-- What decides about the calls to come. -/
structure Setup where
  level : Int
  handlers : List Handler
  listener : Option Listener
  configured : Bool
  deriving DecidableEq, Repr

def setup (j : Journal) : Setup := ⟨j.level, j.handlers, j.listener, j.configured⟩

/-- What a listener shows for a record. -/
def Listener.shows? (l : Listener) (r : Record) : Option Entry :=
  if r.level < l.level then none else some (Layout.entry l.layout r)

/-- The entries on the screen once the queue has been shown. -/
def due (j : Journal) : List Entry :=
  j.shown ++ j.listener.elim [] fun l => j.queue.filterMap l.shows?

theorem due_of_silent {j : Journal} (silent : j.listener = none) : j.due = j.shown := by
  rw [due, silent]
  exact List.append_nil _

theorem present_eq (l : Listener) (j : Journal) (r : Record) :
    l.present j r = { j with shown := j.shown ++ (l.shows? r).toList } := by
  unfold Listener.present Listener.shows?
  split
  · simp
  · rfl

theorem foldl_present (l : Listener) (j : Journal) (rs : List Record) :
    rs.foldl l.present j = { j with shown := j.shown ++ rs.filterMap l.shows? } := by
  induction rs generalizing j with
  | nil => simp
  | cons r rs ih =>
    rw [List.foldl_cons, present_eq, ih]
    cases shown : l.shows? r with
    | none => simp [shown]
    | some entry => simp [shown]

theorem stop_of_listener {j : Journal} {l : Listener} (listens : j.listener = some l) :
    j.stop = { j with shown := j.due, queue := [], listener := none } := by
  rw [stop, listens, due, listens]
  dsimp only
  rw [foldl_present]
  rfl

theorem stop_of_silent {j : Journal} (silent : j.listener = none) : j.stop = j := by
  rw [stop, silent]

/-- Whatever a listener does at its own pace changes nothing but how much of what is
due has been shown. -/
theorem deliver_leaves (j : Journal) :
    j.deliver.setup = j.setup ∧ j.deliver.due = j.due ∧ j.deliver.received = j.received := by
  unfold deliver
  split
  next l r rest listens queued =>
    rw [present_eq]
    refine ⟨rfl, ?_, rfl⟩
    simp only [due, listens, queued, Option.elim_some]
    cases shown : l.shows? r with
    | none => simp [shown]
    | some entry => simp [shown]
  · exact ⟨rfl, rfl, rfl⟩

/-! ## Moves -/

inductive Move where
  | setLevel (level : Int)
  | detach
  | stop
  | install (l : Listener)
  | unmark
  | attach
  | display (entry : Entry)
  | hand (r : Record) (h : Handler)
  deriving DecidableEq, Repr

namespace Move

def apply (j : Journal) : Move → Journal
  | setLevel level => { j with level }
  | detach => j.detach
  | stop => j.stop
  | install l => j.install l
  | unmark => { j with configured := false }
  | attach => { j with handlers := j.handlers ++ [.host] }
  | display entry => j.display entry
  | hand r h => Journal.hand r j h

/-- Moves that only a journal without a listener may make. -/
def Fits (s : Setup) : Move → Prop
  | install _ => s.listener = none
  | display _ => s.listener = none
  | _ => True

def effect (s : Setup) : Move → Setup
  | setLevel level => { s with level }
  | detach => { s with handlers := s.handlers.filter (· != .console) }
  | stop => { s with listener := none }
  | install l =>
    { s with handlers := s.handlers ++ [.console], listener := some l, configured := true }
  | unmark => { s with configured := false }
  | attach => { s with handlers := s.handlers ++ [.host] }
  | display _ => s
  | hand _ _ => s

/-- What a move adds to what is due. -/
def entries (s : Setup) : Move → List Entry
  | display entry => [entry]
  | hand r .console => (s.listener.bind (·.shows? r)).toList
  | _ => []

/-- What a move hands to the host. -/
def heard : Move → List Record
  | hand r .host => [r]
  | _ => []

theorem setup_apply (m : Move) (j : Journal) : (m.apply j).setup = m.effect j.setup := by
  cases m with
  | stop =>
    cases listens : j.listener with
    | none =>
      show j.stop.setup = { j.setup with listener := none }
      rw [stop_of_silent listens, setup, listens]
    | some l =>
      show j.stop.setup = _
      rw [stop_of_listener listens]
      rfl
  | hand r h => cases h <;> rfl
  | _ => rfl

theorem received_apply (m : Move) (j : Journal) :
    (m.apply j).received = j.received ++ m.heard := by
  cases m with
  | stop =>
    cases listens : j.listener with
    | none =>
      show j.stop.received = _
      rw [stop_of_silent listens]
      exact (List.append_nil _).symm
    | some l =>
      show j.stop.received = _
      rw [stop_of_listener listens]
      exact (List.append_nil _).symm
  | hand r h =>
    cases h with
    | console => exact (List.append_nil _).symm
    | host => rfl
  | _ => exact (List.append_nil _).symm

theorem due_apply {m : Move} {j : Journal} (fits : m.Fits j.setup) :
    (m.apply j).due = j.due ++ m.entries j.setup := by
  cases m with
  | stop =>
    cases listens : j.listener with
    | none =>
      show j.stop.due = _
      rw [stop_of_silent listens]
      exact (List.append_nil _).symm
    | some l =>
      show j.stop.due = j.due ++ []
      rw [stop_of_listener listens, List.append_nil]
      exact List.append_nil _
  | install l =>
    rw [due_of_silent fits]
    rfl
  | display entry =>
    have silent : (j.display entry).listener = none := fits
    show (j.display entry).due = _
    rw [due_of_silent fits, due_of_silent silent]
    rfl
  | hand r h =>
    cases h with
    | host => exact (List.append_nil _).symm
    | console =>
      show (Journal.hand r j .console).due = j.due ++ (j.listener.bind (·.shows? r)).toList
      unfold Journal.hand due
      cases j.listener with
      | none => simp
      | some l =>
        cases shown : l.shows? r with
        | none => simp [shown]
        | some entry => simp [shown]
  | _ => exact (List.append_nil _).symm

end Move

/-- The entries that moves add, one after the other. -/
def entriesOf (s : Setup) : List Move → List Entry
  | [] => []
  | m :: moves => m.entries s ++ entriesOf (m.effect s) moves

/-- Moves that may be made one after the other. -/
def Fitting (s : Setup) : List Move → Prop
  | [] => True
  | m :: moves => m.Fits s ∧ Fitting (m.effect s) moves

/-- The moves lead from `j` to `k`, and the listener delivers whenever it likes. -/
inductive Woven : Journal → List Move → Journal → Prop
  | done (j : Journal) : Woven j [] j
  | deliver {j k : Journal} {moves : List Move} (rest : Woven j.deliver moves k) : Woven j moves k
  | move {j k : Journal} {m : Move} {moves : List Move} (rest : Woven (m.apply j) moves k) :
      Woven j (m :: moves) k

theorem Woven.apart (j : Journal) (moves : List Move) :
    Woven j moves (moves.foldl Move.apply j) := by
  induction moves generalizing j with
  | nil => exact .done j
  | cons m moves ih => exact .move (ih _)

/-- When the listener delivers makes no difference to what the moves lead to. -/
theorem Woven.leads {j k : Journal} {moves : List Move} (woven : Woven j moves k)
    (fitting : Fitting j.setup moves) :
    k.setup = moves.foldl Move.effect j.setup ∧ k.due = j.due ++ entriesOf j.setup moves ∧
      k.received = j.received ++ moves.flatMap Move.heard := by
  induction woven with
  | done j => exact ⟨rfl, (List.append_nil _).symm, (List.append_nil _).symm⟩
  | @deliver j k moves rest ih =>
    obtain ⟨setup, due, received⟩ := deliver_leaves j
    rw [setup, due, received] at ih
    exact ih fitting
  | @move j k m moves rest ih =>
    rw [Move.setup_apply, Move.due_apply fitting.1, Move.received_apply] at ih
    obtain ⟨setup, due, received⟩ := ih fitting.2
    refine ⟨setup, ?_, ?_⟩
    · rw [due, entriesOf, List.append_assoc]
    · rw [received, List.flatMap_cons, List.append_assoc]

/-! ## The moves of a call -/

/-- Whether settings ask for a console that can be had. -/
def Settings.installs (settings : Settings) : Bool :=
  settings.console && Layout.isUsable settings.layout

def logMoves (s : Setup) (r : Record) : List Move :=
  if !Level.passes s.level r.level then []
  else if s.handlers.isEmpty then
    if Level.warning ≤ r.level then [.display (.line r.message)] else []
  else s.handlers.map (Move.hand r)

def Call.moves (s : Setup) : Call → List Move
  | configure settings force =>
    let level := Level.ofSetting settings.level
    if s.configured && !force then []
    else if settings.installs then
      [.setLevel level, .detach, .stop, .install ⟨level, settings.layout⟩]
    else [.setLevel level, .detach, .stop]
  | shutdown => [.stop, .detach, .unmark]
  | attachHost => if s.handlers.contains .host then [] else [.attach]
  | log r => logMoves s r.addressed
  | minify script made => (note? script made).elim [] fun r => logMoves s r.addressed

theorem configure_of_settled {j : Journal} {force : Bool} (settled : (j.configured && !force) = true)
    (settings : Settings) : Journal.configure settings force j = .ok () j := by
  rw [Journal.configure, if_pos settled]

theorem configure_of_installs {j : Journal} {force : Bool} {settings : Settings}
    (unsettled : (j.configured && !force) = false) (installs : settings.installs) :
    Journal.configure settings force j =
      .ok () (({ j with level := Level.ofSetting settings.level } : Journal).detach.stop.install
        ⟨Level.ofSetting settings.level, settings.layout⟩) := by
  obtain ⟨console, usable⟩ := Bool.and_eq_true_iff.mp installs
  rw [Journal.configure, if_neg (by simp [unsettled]), if_neg (by simp [console]), if_pos usable]

theorem perform_of_not_installs {j : Journal} {force : Bool} {settings : Settings}
    (unsettled : (j.configured && !force) = false) (bare : settings.installs = false) :
    (Call.configure settings force).perform j =
      ({ j with level := Level.ofSetting settings.level } : Journal).detach.stop := by
  rw [Call.perform, Journal.configure, if_neg (by simp [unsettled])]
  by_cases console : settings.console
  · have unusable : ¬ Layout.isUsable settings.layout = true := by
      simpa [Settings.installs, console] using bare
    rw [if_neg (by simp [console]), if_neg unusable]
  · rw [if_pos (by simpa using console)]

theorem foldl_logMoves (j : Journal) (r : Record) :
    (logMoves j.setup r.addressed).foldl Move.apply j = j.log r := by
  show _ = if !Level.passes j.setup.level r.addressed.level then j
    else if j.setup.handlers.isEmpty then
      if Level.warning ≤ r.addressed.level then j.display (.line r.addressed.message) else j
    else j.setup.handlers.foldl (hand r.addressed) j
  unfold logMoves
  by_cases low : (!Level.passes j.setup.level r.addressed.level) = true
  · rw [if_pos low, if_pos low]
    rfl
  · rw [if_neg low, if_neg low]
    by_cases alone : j.setup.handlers.isEmpty
    · rw [if_pos alone, if_pos alone]
      by_cases matter : Level.warning ≤ r.addressed.level
      · rw [if_pos matter, if_pos matter]
        rfl
      · rw [if_neg matter, if_neg matter]
        rfl
    · rw [if_neg alone, if_neg alone]
      exact List.foldl_map

/-- A call is all of its moves. -/
theorem Call.foldl_moves (c : Call) (j : Journal) :
    (c.moves j.setup).foldl Move.apply j = c.perform j := by
  cases c with
  | configure settings force =>
    rw [moves]
    cases settled : j.setup.configured && !force with
    | true =>
      rw [perform, configure_of_settled settled]
      rfl
    | false =>
      cases installs : settings.installs with
      | true =>
        rw [perform, configure_of_installs settled installs]
        rfl
      | false =>
        rw [perform_of_not_installs settled installs]
        rfl
  | shutdown => rfl
  | attachHost =>
    simp only [moves, perform, Journal.attachHost]
    by_cases attached : j.handlers.contains .host = true
    · rw [if_pos attached, if_pos (show j.setup.handlers.contains .host = true from attached)]
      rfl
    · rw [if_neg attached, if_neg (show ¬ j.setup.handlers.contains .host = true from attached)]
      rfl
  | log r => exact foldl_logMoves j r
  | minify script made =>
    rw [perform, minify_eq, moves]
    cases note? script made with
    | none => rfl
    | some r => exact foldl_logMoves j r

/-- What a call does to the set-up. -/
def Setup.after (s : Setup) : Call → Setup
  | .configure settings force =>
    let level := Level.ofSetting settings.level
    let others := s.handlers.filter (· != .console)
    if s.configured && !force then s
    else if settings.installs then ⟨level, others ++ [.console], some ⟨level, settings.layout⟩, true⟩
    else { s with level, handlers := others, listener := none }
  | .shutdown =>
    { s with handlers := s.handlers.filter (· != .console), listener := none, configured := false }
  | .attachHost =>
    if s.handlers.contains .host then s else { s with handlers := s.handlers ++ [.host] }
  | .log _ => s
  | .minify _ _ => s

theorem foldl_effect_logMoves (s : Setup) (r : Record) :
    (logMoves s r).foldl Move.effect s = s := by
  unfold logMoves
  split
  · rfl
  · split
    · split <;> rfl
    · rw [List.foldl_map]
      exact List.foldl_fixed s.handlers

theorem Call.foldl_effect (c : Call) (s : Setup) :
    (c.moves s).foldl Move.effect s = s.after c := by
  cases c with
  | configure settings force =>
    simp only [moves, Setup.after]
    split
    · rfl
    · split <;> rfl
  | shutdown => rfl
  | attachHost =>
    simp only [moves, Setup.after]
    split <;> rfl
  | log r => exact foldl_effect_logMoves s r.addressed
  | minify script made =>
    rw [moves]
    cases note? script made with
    | none => rfl
    | some r => exact foldl_effect_logMoves s r.addressed

theorem setup_foldl (moves : List Move) (j : Journal) :
    (moves.foldl Move.apply j).setup = moves.foldl Move.effect j.setup := by
  induction moves generalizing j with
  | nil => rfl
  | cons m moves ih => rw [List.foldl_cons, ih, Move.setup_apply, List.foldl_cons]

theorem Call.setup_perform (c : Call) (j : Journal) : (c.perform j).setup = j.setup.after c := by
  rw [← foldl_moves, setup_foldl, foldl_effect]

theorem setup_after (j : Journal) (calls : List Call) :
    (j.after calls).setup = calls.foldl Setup.after j.setup := by
  induction calls generalizing j with
  | nil => rfl
  | cons c calls ih => rw [after_cons, ih, Call.setup_perform, List.foldl_cons]

/-! ## Sound set-ups -/

/-- What no call upsets: a listener goes with one console handler, with the flag and
with the level of the journal. -/
structure Setup.Sound (s : Setup) : Prop where
  consoles : s.handlers.count .console = s.listener.isSome.toNat
  hosts : s.handlers.count .host ≤ 1
  configured : s.listener.isSome → s.configured
  level : ∀ l ∈ s.listener, l.level = s.level

theorem count_detached (handlers : List Handler) :
    (handlers.filter (· != .console)).count .console = 0 ∧
      (handlers.filter (· != .console)).count .host = handlers.count .host := by
  constructor
  · exact List.count_eq_zero.mpr fun member => by simp at member
  · exact List.count_filter rfl

/-- A host that is attached stays. -/
theorem host_mem_foldl_after {s : Setup} (calls : List Call) :
    .host ∈ (calls.foldl Setup.after s).handlers ↔ .host ∈ s.handlers ∨ .attachHost ∈ calls := by
  induction calls generalizing s with
  | nil => simp
  | cons c calls ih =>
    have step : .host ∈ (s.after c).handlers ↔ .host ∈ s.handlers ∨ .attachHost = c := by
      cases c with
      | configure settings force =>
        simp only [Setup.after]
        split
        · simp
        · split <;> simp
      | shutdown => simp [Setup.after]
      | attachHost =>
        simp only [Setup.after]
        split <;> simp_all
      | log r => simp [Setup.after]
      | minify script made => simp [Setup.after]
    rw [List.foldl_cons, ih, step, List.mem_cons, or_assoc]

theorem fitting_hands (s : Setup) (r : Record) (handlers : List Handler) :
    Fitting s (handlers.map (Move.hand r)) := by
  induction handlers with
  | nil => trivial
  | cons handler handlers ih => exact ⟨trivial, ih⟩

namespace Setup.Sound

variable {s : Setup}

theorem silent (h : s.Sound) (absent : .console ∉ s.handlers) : s.listener = none := by
  have consoles := h.consoles
  rw [List.count_eq_zero.mpr absent] at consoles
  cases listens : s.listener with
  | none => rfl
  | some l =>
    rw [listens] at consoles
    cases consoles

theorem after (h : s.Sound) (c : Call) : (s.after c).Sound := by
  obtain ⟨noConsole, same⟩ := count_detached s.handlers
  have hosts : (s.handlers.filter (· != .console)).count .host ≤ 1 := by
    rw [same]
    exact h.hosts
  cases c with
  | configure settings force =>
    simp only [Setup.after]
    split
    · exact h
    · split
      · refine ⟨?_, ?_, fun _ => rfl, ?_⟩
        · simp [noConsole]
        · simpa using hosts
        · rintro l ⟨⟩
          rfl
      · exact ⟨noConsole, hosts, nofun, nofun⟩
  | shutdown => exact ⟨noConsole, hosts, nofun, nofun⟩
  | attachHost =>
    simp only [Setup.after]
    split
    · exact h
    next absent =>
      have absent : s.handlers.count .host = 0 := List.count_eq_zero.mpr (by simpa using absent)
      refine { h with consoles := ?_, hosts := ?_ }
      · simpa using h.consoles
      · simp [absent]
  | log r => exact h
  | minify script made => exact h

theorem foldl_after (h : s.Sound) (calls : List Call) : (calls.foldl Setup.after s).Sound := by
  induction calls generalizing s with
  | nil => exact h
  | cons c calls ih => exact ih (h.after c)

theorem fitting_logMoves (h : s.Sound) (r : Record) : Fitting s (logMoves s r) := by
  unfold logMoves
  split
  · trivial
  · split
    next alone =>
      split
      · refine ⟨h.silent ?_, trivial⟩
        rw [List.isEmpty_iff.mp alone]
        exact List.not_mem_nil
      · trivial
    · exact fitting_hands s r s.handlers

/-- A new console is installed once the old listener has stopped, and an entry is shown
at once only where there is no handler, and so no listener. -/
theorem fitting (h : s.Sound) (c : Call) : Fitting s (c.moves s) := by
  cases c with
  | configure settings force =>
    simp only [Call.moves]
    split
    · trivial
    · split
      · exact ⟨trivial, trivial, trivial, rfl, trivial⟩
      · exact ⟨trivial, trivial, trivial, trivial⟩
  | shutdown => exact ⟨trivial, trivial, trivial, trivial⟩
  | attachHost =>
    simp only [Call.moves]
    split
    · trivial
    · exact ⟨trivial, trivial⟩
  | log r => exact h.fitting_logMoves r.addressed
  | minify script made =>
    rw [Call.moves]
    cases note? script made with
    | none => trivial
    | some r => exact h.fitting_logMoves r.addressed

end Setup.Sound

/-! ## Sessions -/

/-- The calls lead from `j` to `k`, and the listener delivers whenever it likes: before,
after and during any of them. -/
inductive Session : Journal → List Call → Journal → Prop
  | done (j : Journal) : Session j [] j
  | deliver {j k : Journal} {calls : List Call} (rest : Session j.deliver calls k) :
      Session j calls k
  | call {j k l : Journal} {c : Call} {calls : List Call} (woven : Woven j (c.moves j.setup) k)
      (rest : Session k calls l) : Session j (c :: calls) l

namespace Session

/-- One way to go through a session is to make the calls and let the listener wait until
it is stopped. -/
theorem apart (j : Journal) (calls : List Call) : Session j calls (j.after calls) := by
  induction calls generalizing j with
  | nil => exact .done j
  | cons c calls ih =>
    have woven := Woven.apart j (c.moves j.setup)
    rw [c.foldl_moves] at woven
    exact .call woven (ih _)

variable {j k : Journal} {calls : List Call}

theorem append {l : Journal} {more : List Call} (ran : Session j calls k)
    (goes : Session k more l) : Session j (calls ++ more) l := by
  induction ran with
  | done j => exact goes
  | deliver rest ih => exact .deliver (ih goes)
  | call woven rest ih => exact .call woven (ih goes)

/-- The set-up after a session is what its calls make of it, whenever the listener
delivers. -/
theorem setup_eq (ran : Session j calls k) (sound : j.setup.Sound) :
    k.setup = calls.foldl Setup.after j.setup := by
  induction ran with
  | done j => rfl
  | @deliver j k calls rest ih =>
    rw [(deliver_leaves j).1] at ih
    exact ih sound
  | @call j k l c calls woven rest ih =>
    have reached := (woven.leads (sound.fitting c)).1
    rw [c.foldl_effect] at reached
    rw [reached] at ih
    exact ih (sound.after c)

/-- That is the set-up after the calls alone, with a listener that waits. -/
theorem setup_eq_after (ran : Session j calls k) (sound : j.setup.Sound) :
    k.setup = (j.after calls).setup := by
  rw [ran.setup_eq sound, setup_after]

theorem sound (ran : Session j calls k) (sound : j.setup.Sound) : k.setup.Sound := by
  rw [ran.setup_eq sound]
  exact sound.foldl_after calls

end Session

/-- A journal that was never set up. -/
structure Unconfigured (j : Journal) : Prop where
  unmarked : j.configured = false
  silent : j.listener = none
  absent : .console ∉ j.handlers
  distinct : j.handlers.Nodup

theorem unconfigured_empty : ({} : Journal).Unconfigured :=
  ⟨rfl, rfl, List.not_mem_nil, List.nodup_nil⟩

theorem Unconfigured.sound {j : Journal} (h : j.Unconfigured) : j.setup.Sound := by
  have silent : j.setup.listener = none := h.silent
  refine ⟨?_, List.nodup_iff_count_le_one.mp h.distinct _, ?_, ?_⟩
  · rw [silent]
    exact List.count_eq_zero.mpr h.absent
  · rw [silent]
    exact nofun
  · rw [silent]
    exact nofun

end Journal
end ScriptPress
