/-
The steps of a run, and the comments skipped in them.

`Automaton.steps` lists the automata a run takes its steps from, each with the
verdict it follows, so that what happens somewhere in a run is membership in a
list.  The records a plain run keeps are shown to agree with it.
-/
import ScriptPress.Proofs.Mirror

namespace ScriptPress

open Code Coded

/-- Whether a comment starts where a source is about to be read. -/
def Comment.opens (s : Source) : Bool :=
  match s.fetch with
  | .error _ _ => false
  | .ok c s =>
    c == some slash &&
      match s.peek with
      | .error _ _ => false
      | .ok p _ => p == some slash || p == some star

namespace Automaton

set_option linter.unusedVariables false in
/-- The automata in which the loop of a run takes a step. -/
def course (m : Automaton) : List Automaton :=
  if held : m.window.held = none then []
  else
    match h : step (Verdict.of m.window.held m.window.next) m with
    | .error _ _ => [m]
    | .ok _ m' => m :: course m'
termination_by m.distance
decreasing_by exact distance_step held h

def primed (m : Automaton) : Automaton :=
  ⟨{ m.window with held := some newline }, m.transfer⟩

/-- The steps of a run: the verdict followed and the automaton that follows it. -/
def steps (m : Automaton) : List (Verdict × Automaton) :=
  (.defer, m.primed) ::
    match step .defer m.primed with
    | .error _ _ => []
    | .ok _ m' => (course m').map fun m => (Verdict.of m.window.held m.window.next, m)

def arriveSkips (m : Automaton) : Bool :=
  Comment.opens m.transfer.source ||
    match receive m with
    | .error _ _ => false
    | .ok _ m₁ =>
      m₁.window.next == some slash && m₁.window.opensRegex &&
        match copyRegex m₁ with
        | .error _ _ => false
        | .ok _ m₂ => Comment.opens m₂.transfer.source

def stepSkips (v : Verdict) (m : Automaton) : Bool :=
  match settle v m with
  | .error _ _ => false
  | .ok _ m₁ => m₁.arriveSkips

/-- Whether a run skips a comment. -/
def skipsComment (m : Automaton) : Bool := m.steps.any fun (v, m) => stepSkips v m

end Automaton

/-! ## Records of a plain run -/

namespace Plain

variable {α : Type} [Coded α]

theorem records_emit (c : Option α) (p : State α) :
    (p.emit c).commented = p.commented ∧ (p.emit c).decided = p.decided := by
  unfold State.emit
  split
  · exact ⟨rfl, rfl⟩
  · split <;> exact ⟨rfl, rfl⟩

theorem records_setApart (p : State α) :
    p.setApart.commented = p.commented ∧ p.setApart.decided = p.decided := by
  unfold State.setApart
  split <;> exact ⟨rfl, rfl⟩

def Recorded (commented : Bool) (decided : List (Symbol × Symbol)) (p : State α) : Prop :=
  p.commented = commented ∧ p.decided = decided

variable {commented : Bool} {decided : List (Symbol × Symbol)}

omit [Coded α] in
theorem recorded_copy (cut : Cut α) : Keeps (Recorded commented decided) (copy cut) := by
  intro p h
  unfold copy
  dsimp only
  split <;> exact h

theorem recorded_settle (v : Verdict) :
    Keeps (Recorded commented decided) (settle v : Run α Unit) := by
  have shifts : Keeps (Recorded commented decided) (shift : Run α Unit) := by
    intro p h
    unfold shift
    split
    · exact h
    · split
      · exact recorded_copy _ _ h
      · exact h
  have keeps (p : State α) (h : Recorded commented decided p) :
      Recorded commented decided p.keepHeld := by
    have emitted := records_emit p.held p
    unfold State.keepHeld
    split
    · exact ⟨emitted.1.trans h.1, emitted.2.trans h.2⟩
    · exact ⟨emitted.1.trans h.1, emitted.2.trans h.2⟩
  intro p h
  cases v with
  | keep => exact shifts _ (keeps p h)
  | elide => exact shifts p h
  | defer => exact h

theorem recorded_copyRegex : Keeps (Recorded commented decided) (copyRegex : Run α Unit) := by
  intro p h
  have emitted := records_emit p.held p
  have apart := records_setApart (p.emit p.held)
  exact recorded_copy _ _
    ⟨apart.1.trans (emitted.1.trans h.1), apart.2.trans (emitted.2.trans h.2)⟩

theorem recorded_receive {p : State α} :
    Recorded (p.commented || opensComment p.rest) p.decided (Ending.state (receive p)) := by
  unfold receive
  dsimp only
  split <;> exact ⟨rfl, rfl⟩

end Plain

/-! ## Steps of mirrored runs -/

variable {α : Type} [Coded α] {total : Nat}

theorem Comment.opens_eq {s : Source} {text : List α} (h : s.Reads total (text.map code)) :
    opens s = Plain.opensComment text := by
  obtain ⟨s₁, fetched, reads⟩ := h.fetch
  obtain ⟨s₂, peeked, _⟩ := reads.peek
  unfold opens
  rw [fetched]
  dsimp only
  rw [peeked]
  match text with
  | [] => rfl
  | [a] => simp [Plain.opensComment]
  | a :: b :: rest => simp [Plain.opensComment]

namespace Automaton

variable {m : Automaton} {p : Plain.State α}

theorem recorded_arrive (h : Mirrors total m p) :
    Plain.Recorded (p.commented || m.arriveSkips) p.decided
      (Plain.Ending.state (Plain.arrive p)) := by
  have received := @Plain.recorded_receive _ _ p
  unfold arriveSkips
  rw [Comment.opens_eq h.source]
  rcases (receive_agrees h).cases with ⟨m₁, p₁, hm, hp, mirrors⟩ | ⟨what, m₁, p₁, hm, hp, _⟩
  · rw [hp] at received
    rw [hm, Plain.arrive_of_receive hp]
    dsimp only
    rw [mirrors.window]
    by_cases opens : p₁.window.next = some slash ∧ p₁.window.opensRegex
    · have copied := Plain.recorded_copyRegex p₁ received
      rw [if_pos (by simpa using opens), opens.1, opens.2]
      rcases (copyRegex_agrees mirrors opens.1 opens.2).cases with
        ⟨m₂, p₂, hm₂, hp₂, mirrors₂⟩ | ⟨what, m₂, p₂, hm₂, hp₂, _⟩
      · have received₂ := @Plain.recorded_receive _ _ p₂
        rw [hp₂] at copied
        obtain ⟨commented₂, decided₂⟩ : p₂.commented = _ ∧ p₂.decided = _ := copied
        rw [commented₂, decided₂] at received₂
        rw [hm₂, bind_of_ok hp₂]
        dsimp only
        rw [Comment.opens_eq mirrors₂.source]
        simpa [Bool.or_assoc] using received₂
      · rw [hp₂] at copied
        rw [hm₂, bind_of_error hp₂]
        simpa using copied
    · have closed : (p₁.window.next == some slash && p₁.window.opensRegex) = false := by
        simpa using opens
      rw [if_neg (by simpa using opens), closed]
      simpa using received
  · rw [hp] at received
    rw [hm, Plain.arrive, bind_of_error hp]
    simpa using received

theorem recorded_step (h : Mirrors total m p) {v : Verdict} (held : v = .keep → p.held ≠ none) :
    Plain.Recorded (p.commented || stepSkips v m) p.decided
      (Plain.Ending.state (Plain.step v p)) := by
  have settled := Plain.recorded_settle v p ⟨rfl, rfl⟩
  unfold stepSkips
  rcases (settle_agrees h held).cases with ⟨m₁, p₁, hm, hp, mirrors⟩ | ⟨what, m₁, p₁, hm, hp, _⟩
  · rw [hp] at settled
    obtain ⟨commented₁, decided₁⟩ : p₁.commented = _ ∧ p₁.decided = _ := settled
    have arrived := recorded_arrive mirrors
    rw [commented₁, decided₁] at arrived
    rw [hm, Plain.step, bind_of_ok hp]
    exact arrived
  · rw [hp] at settled
    rw [hm, Plain.step, bind_of_error hp]
    simpa using settled

theorem note_mirrors (h : Mirrors total m p) (going : m.window.held ≠ none) :
    p.held ≠ none ∧ Mirrors total m p.note ∧
      p.verdict = Verdict.of m.window.held m.window.next := by
  refine ⟨fun ended => going ?_, ⟨h.window, h.source, h.sink, { h.small with }⟩, ?_⟩
  · rw [h.window]
    simp [Plain.State.window, ended]
  · rw [h.window]
    rfl

def courseRecord (m : Automaton) (p : Plain.State α) : Plain.State α → Prop :=
  Plain.Recorded
    (p.commented || m.course.any fun m => stepSkips (Verdict.of m.window.held m.window.next) m)
    (p.decided ++ m.course.map fun m => (m.window.held, m.window.next))

theorem drain_of_ok {m m' : Automaton} (h : m.window.held ≠ none)
    (stepped : step (Verdict.of m.window.held m.window.next) m = .ok () m') :
    drain m = drain m' := by
  rw [drain, dif_neg h]
  split <;> simp_all

theorem drain_of_error {m m' : Automaton} {e : Halt} (h : m.window.held ≠ none)
    (stepped : step (Verdict.of m.window.held m.window.next) m = .error e m') :
    drain m = .error e m' := by
  rw [drain, dif_neg h]
  split <;> simp_all

theorem drain_agrees (h : Mirrors total m p) :
    Agrees total (drain m) (Plain.drain p) ∧
      courseRecord m p (Plain.Ending.state (Plain.drain p)) := by
  unfold courseRecord
  fun_induction course m generalizing p with
  | case1 m ended =>
    have plainEnded : p.held = none := by
      rw [h.window] at ended
      simpa [Plain.State.window] using ended
    rw [drain, dif_pos ended, Plain.drain_of_end plainEnded]
    exact ⟨.ok h, by simp [Plain.Recorded, Plain.Ending.state]⟩
  | case2 m going e m' stepped =>
    obtain ⟨plainGoing, noted, verdict⟩ := note_mirrors h going
    have agrees : Agrees total _ (Plain.step p.verdict p.note) :=
      step_agrees noted (fun _ => plainGoing)
    have recorded := recorded_step noted (fun _ : p.verdict = .keep => plainGoing)
    rw [verdict, stepped, ← verdict] at agrees
    rw [drain_of_error going stepped]
    rcases agrees.cases with ⟨_, _, absurd, _⟩ | ⟨what, m₁, p₁, same, plainStepped, mirrors⟩
    · cases absurd
    · cases same
      rw [plainStepped, verdict] at recorded
      rw [Plain.drain_of_error plainGoing plainStepped]
      refine ⟨.halt mirrors, ?_⟩
      simpa [Plain.State.note, h.window] using recorded
  | case3 m going _ m' stepped ih =>
    obtain ⟨plainGoing, noted, verdict⟩ := note_mirrors h going
    have agrees : Agrees total _ (Plain.step p.verdict p.note) :=
      step_agrees noted (fun _ => plainGoing)
    have recorded := recorded_step noted (fun _ : p.verdict = .keep => plainGoing)
    rw [verdict, stepped, ← verdict] at agrees
    rw [drain_of_ok going stepped]
    rcases agrees.cases with ⟨m₁, p₁, same, plainStepped, mirrors⟩ | ⟨_, _, _, absurd, _⟩
    · cases same
      rw [plainStepped, verdict] at recorded
      rw [Plain.drain_of_ok plainGoing plainStepped]
      obtain ⟨drained, rest⟩ := ih mirrors
      obtain ⟨commented₁, decided₁⟩ : p₁.commented = _ ∧ p₁.decided = _ := recorded
      refine ⟨drained, ?_⟩
      rw [commented₁, decided₁] at rest
      simpa [Plain.State.note, h.window, Bool.or_assoc] using rest
    · cases absurd

/-! ## Whole runs -/

/-- A run is to read `text` after the character `start`, which stands for the
line end before the script. -/
structure Starts (m : Automaton) (start : α) (text : List α) : Prop where
  start_eq : code start = newline
  mirrors : Mirrors text.length m.primed { held := some start, rest := text }

variable {start : α} {text : List α}

theorem step_primed (h : Starts m start text) :
    Agrees text.length (step .defer m.primed)
      (Plain.arrive { held := some start, rest := text }) := by
  rw [step, bind_of_ok (show settle .defer m.primed = .ok () m.primed from rfl)]
  exact arrive_agrees h.mirrors

theorem consume_agrees (h : Starts m start text) :
    Agrees text.length (consume m) (Plain.run start text) := by
  rw [consume, bind_of_ok (show remember (fun w => { w with held := some newline }) m =
    .ok () m.primed from rfl)]
  show Agrees _ (EStateM.bind (step .defer) (fun _ => drain) m.primed) _
  unfold EStateM.bind Plain.run Plain.proceed
  rcases (step_primed h).cases with ⟨m₁, p₁, hm, hp, mirrors⟩ | ⟨what, m₁, p₁, hm, hp, mirrors⟩
  · rw [hm, hp]
    exact (drain_agrees mirrors).1
  · rw [hm, hp]
    exact .halt mirrors

theorem flush_mirrors (h : Mirrors total m p) :
    ∃ m', lift Transfer.flush m = .ok () m' ∧
      m'.transfer.sink.output.stored.toList = Plain.bytes p.text ∧
      m'.transfer.source = m.transfer.source ∧ m'.transfer.sink.written = p.text.length := by
  obtain ⟨sink, flushed, holds, stored⟩ := h.sink.flush
  refine ⟨⟨m.window, m.transfer.source, sink⟩, ?_, stored, rfl, ?_⟩
  · simp [lift, Transfer.flush, Transfer.writing, flushed]
  · rw [holds.written_eq]
    simp [Plain.bytes]

/-- The records of a plain run are those of the steps of the run it mirrors. -/
theorem steps_recorded (h : Starts m start text) :
    Plain.Recorded m.skipsComment (m.steps.tail.map fun s => (s.2.window.held, s.2.window.next))
      (Plain.Ending.state (Plain.run start text)) := by
  have arrived : Plain.Recorded (false || stepSkips .defer m.primed) [] _ :=
    recorded_arrive h.mirrors
  unfold skipsComment steps
  rw [List.any_cons, List.tail_cons]
  rcases (step_primed h).cases with ⟨m₁, p₁, hm, hp, mirrors⟩ | ⟨what, m₁, p₁, hm, hp, _⟩
  · have rest := (drain_agrees mirrors).2
    rw [hp] at arrived
    obtain ⟨commented₁, decided₁⟩ : p₁.commented = _ ∧ p₁.decided = _ := arrived
    unfold courseRecord at rest
    rw [commented₁, decided₁] at rest
    rw [hm, Plain.run, Plain.proceed, hp]
    simpa [Function.comp_def] using rest
  · rw [hp] at arrived
    rw [hm, Plain.run, Plain.proceed, hp]
    simpa using arrived

end Automaton

namespace Script

/-- The characters a script counts as. -/
def characters (script : Bytes) : List Nat := script.map fun byte => effective byte.toNat

theorem characters_append (script more : Bytes) :
    characters (script ++ more) = characters script ++ characters more := List.map_append

theorem length_of_characters {text : List α} {script : Bytes}
    (h : text.map code = characters script) : text.length = script.length := by
  have := congrArg List.length h
  simpa [characters] using this

theorem map_code_nat (text : List Nat) : text.map code = text := List.map_id text

theorem effective_lt {c : Nat} (h : c < 256) : effective c < 256 := by
  unfold effective
  split
  · exact h
  · split <;> decide

theorem characters_lt (script : Bytes) : ∀ c ∈ characters script, c < 256 := by
  intro c member
  obtain ⟨byte, _, rfl⟩ := List.mem_map.mp member
  exact effective_lt byte.toNat_lt

/-- The automaton that minifies a script in memory. -/
def automaton (script : Bytes) : Automaton := .between { supply := .bytes script } {}

variable {input : Stream.Input} {script : Bytes} {start : α} {text : List α}

theorem between_starts (quiet : input.failingRead = 0) (start_eq : code start = newline)
    (text_eq : text.map code = characters (input.supply.served 65536)) :
    (Automaton.between input {}).Starts start text := by
  have small : ∀ a ∈ text, code a < 256 := by
    intro a ha
    exact characters_lt _ _ (text_eq ▸ List.mem_map_of_mem ha)
  refine ⟨start_eq, ?_, ?_, ⟨rfl, rfl, rfl, rfl⟩, ?_, nofun, nofun, nofun, nofun, small, nofun⟩
  · simp [Automaton.primed, Automaton.between, Plain.State.window, start_eq]
  · rw [length_of_characters text_eq, text_eq]
    exact Source.reads_fresh input 65536 quiet
  · intro a ha
    obtain rfl : start = a := Option.some.inj ha
    rw [start_eq]
    decide

theorem automaton_starts (start_eq : code start = newline)
    (text_eq : text.map code = characters script) : (automaton script).Starts start text :=
  between_starts rfl start_eq text_eq

theorem minifyStream_of_ok {output : Stream.Output} {tally : Tally} {m : Automaton}
    (h : (Automaton.between input output).run = .ok tally m) :
    minifyStream input output = .ok tally m.transfer := by
  unfold minifyStream
  rw [h]

theorem minifyStream_of_error {output : Stream.Output} {halt : Halt} {m : Automaton}
    (h : (Automaton.between input output).run = .error halt m) :
    minifyStream input output = .error halt m.transfer := by
  unfold minifyStream
  rw [h]

/-- Minifying a stream that meets no fault ends as the plain run on the characters
served does.  It stores what that writes, and counts all that was served. -/
theorem minifyStream_served (quiet : input.failingRead = 0) (start_eq : code start = newline)
    (text_eq : text.map code = characters (input.supply.served 65536)) :
    match Plain.run start text with
    | .ok _ p => ∃ t, minifyStream input {} = .ok ⟨text.length, p.text.length⟩ t ∧
        t.sink.output.stored.toList = Plain.bytes p.text
    | .error what p => ∃ t, minifyStream input {} = .error (.unterminated what text.length) t ∧
        t.sink.output.stored.toList = Plain.bytes p.text := by
  have agrees := Automaton.consume_agrees (between_starts quiet start_eq text_eq)
  rcases agrees.cases with ⟨m, p, consumed, plain, mirrors⟩ | ⟨what, m, p, consumed, plain, mirrors⟩
  · obtain ⟨m', flushed, stored, source, written⟩ := Automaton.flush_mirrors mirrors
    have tally : m'.tally = ⟨text.length, p.text.length⟩ := by
      have reads := mirrors.source
      rw [Plain.rest_of_run plain] at reads
      rw [Automaton.tally, source, reads.position_of_nil, written]
    have ran : (Automaton.between input {}).run = .ok m'.tally m' := by
      simp only [Automaton.run, consumed, flushed]
    rw [tally] at ran
    rw [plain]
    exact ⟨m'.transfer, minifyStream_of_ok ran, stored⟩
  · obtain ⟨m', flushed, stored, _⟩ := Automaton.flush_mirrors mirrors
    have ran : (Automaton.between input {}).run = .error (.unterminated what text.length) m' := by
      simp only [Automaton.run, consumed, flushed]
    rw [plain]
    exact ⟨m'.transfer, minifyStream_of_error ran, stored⟩

theorem minifyStream_agrees (start_eq : code start = newline)
    (text_eq : text.map code = characters script) :
    match Plain.run start text with
    | .ok _ p => ∃ tally t, minifyStream { supply := .bytes script } {} = .ok tally t ∧
        t.sink.output.stored.toList = Plain.bytes p.text
    | .error what p => ∃ t, minifyStream { supply := .bytes script } {} =
        .error (.unterminated what script.length) t ∧
        t.sink.output.stored.toList = Plain.bytes p.text := by
  have served :=
    @minifyStream_served α _ { supply := .bytes script } start text rfl start_eq text_eq
  rw [length_of_characters text_eq] at served
  generalize Plain.run start text = ending at served ⊢
  cases ending with
  | ok _ p => exact ⟨_, served⟩
  | error what p => exact served

end Script
end ScriptPress
