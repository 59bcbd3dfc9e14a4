/-
A source and a sink side by side, the state of everything that copies from one
to the other.
-/
import ScriptPress.Source
import ScriptPress.Sink

namespace ScriptPress

/-- Where a run reads from and where it writes to. -/
structure Transfer where
  source : Source
  sink : Sink
  deriving Repr

namespace Transfer

/-- A transfer between two streams, with chunks of the usual size on both sides. -/
def between (input : Stream.Input) (output : Stream.Output) : Transfer :=
  { source := { input }, sink := { output } }

/-- Characters that can still be fetched. -/
def remaining (t : Transfer) : Nat := t.source.remaining

/-- A call on the source alone. -/
def reading {α : Type} (call : Source → Outcome Source α) : Action Transfer α :=
  fun ⟨source, sink⟩ =>
    match call source with
    | .ok a source => .ok a ⟨source, sink⟩
    | .error e source => .error e ⟨source, sink⟩

/-- A call on the sink alone. -/
def writing {α : Type} (call : Sink → Outcome Sink α) : Action Transfer α :=
  fun ⟨source, sink⟩ =>
    match call sink with
    | .ok a sink => .ok a ⟨source, sink⟩
    | .error e sink => .error e ⟨source, sink⟩

def fetch : Action Transfer Symbol := reading Source.fetch

def peek : Action Transfer Symbol := reading Source.peek

def put (c : Symbol) : Action Transfer Unit := writing (Sink.put c)

def flush : Action Transfer Unit := writing Sink.flush

/-! ## What a call takes from `remaining` -/

theorem source_writing {α : Type} {call : Sink → Outcome Sink α} {t t' : Transfer} {a : α}
    (h : writing call t = .ok a t') : t'.source = t.source := by
  unfold writing at h
  dsimp only at h
  split at h <;> cases h
  rfl

theorem remaining_put {c : Symbol} {t t' : Transfer} {a : Unit} (h : put c t = .ok a t') :
    t'.remaining = t.remaining := by
  rw [remaining, source_writing h, remaining]

theorem reading_ok {α : Type} {call : Source → Outcome Source α} {t t' : Transfer} {a : α}
    (h : reading call t = .ok a t') : call t.source = .ok a t'.source := by
  unfold reading at h
  dsimp only at h
  split at h
  next hc => cases h; exact hc
  next => cases h

theorem remaining_fetch_some {c : Nat} {t t' : Transfer} (h : fetch t = .ok (some c) t') :
    t'.remaining < t.remaining :=
  Source.remaining_fetch_some (reading_ok h)

theorem remaining_fetch_le {c : Symbol} {t t' : Transfer} (h : fetch t = .ok c t') :
    t'.remaining ≤ t.remaining :=
  Source.remaining_fetch_le (reading_ok h)

end Transfer
end ScriptPress
