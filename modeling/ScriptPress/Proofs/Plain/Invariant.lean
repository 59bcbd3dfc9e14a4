/-
What every step of a plain run keeps.

`Keeps` says that a call leaves an invariant standing, however it ends, so that
an invariant of the step is one of the whole run.  The first of them: characters
are only moved.  A property that all characters of the text have, and the blank
that stands for a block comment, is had by everything remembered and written.
The second: the end of the text is met only where nothing is left of it, so a run
that ends well has read all of its text (`rest_of_run`).

`Ends` is for an invariant that a run which is stopped need not restore: it says
one thing of the state left by success and another of what was written before a
failure.
-/
import ScriptPress.Proofs.Plain.Machine

namespace ScriptPress
namespace Plain

open Code Coded

/-- The state a call leaves behind. -/
def Ending.state {α : Type} : Ending α → State α
  | .ok _ p => p
  | .error _ p => p

variable {α : Type}

def Keeps (inv : State α → Prop) (x : Run α Unit) : Prop :=
  ∀ p, inv p → inv (Ending.state (x p))

theorem Keeps.bind {inv : State α → Prop} {x y : Run α Unit} (hx : Keeps inv x)
    (hy : Keeps inv y) : Keeps inv (x >>= fun _ => y) := by
  intro p h
  have kept := hx p h
  cases hp : x p with
  | ok _ p₁ =>
    rw [hp] at kept
    rw [bind_of_ok hp]
    exact hy p₁ kept
  | error what p₁ =>
    rw [hp] at kept
    rw [bind_of_error hp]
    exact kept

variable [Coded α]

/-- What reading a character leads to, and copying a regular expression keeps, is
what arriving at the next character leads to. -/
theorem arrive_leads {pre post : State α → Prop}
    (received : ∀ p, pre p → post (Ending.state (receive p))) (copied : Keeps post copyRegex)
    (again : ∀ p, post p → pre p) {p : State α} (h : pre p) :
    post (Ending.state (arrive p)) := by
  have led := received p h
  cases hp : Plain.receive p with
  | ok _ p₁ =>
    rw [hp] at led
    rw [arrive_of_receive hp]
    split
    · exact Keeps.bind copied (fun p h => received p (again p h)) p₁ led
    · exact led
  | error what p₁ =>
    rw [hp] at led
    rw [Plain.arrive, bind_of_error hp]
    exact led

theorem Keeps.arrive {inv : State α → Prop} (received : Keeps inv receive)
    (copied : Keeps inv copyRegex) : Keeps inv arrive :=
  fun _ h => arrive_leads received copied (fun _ h => h) h

theorem Keeps.drain {inv : State α → Prop} (noted : ∀ p, inv p → inv p.note)
    (settled : ∀ v, Keeps inv (settle v)) (arrived : Keeps inv Plain.arrive) :
    Keeps inv Plain.drain := by
  intro p h
  fun_induction Plain.drain p with
  | case1 p held => exact h
  | case2 p held what p' stepped =>
    have kept := Keeps.bind (settled p.verdict) arrived p.note (noted p h)
    have stepped : (settle p.verdict >>= fun _ => Plain.arrive) p.note = .error what p' := stepped
    rw [stepped] at kept
    exact kept
  | case3 p held _ p' stepped ih =>
    have kept := Keeps.bind (settled p.verdict) arrived p.note (noted p h)
    have stepped : (settle p.verdict >>= fun _ => Plain.arrive) p.note = .ok () p' := stepped
    rw [stepped] at kept
    exact ih kept

theorem Keeps.proceed {inv : State α → Prop} (arrived : Keeps inv Plain.arrive)
    (drained : Keeps inv Plain.drain) : Keeps inv Plain.proceed := by
  intro p h
  have kept := arrived p h
  unfold Plain.proceed
  cases hp : Plain.arrive p with
  | ok _ p₁ =>
    rw [hp] at kept
    exact drained p₁ kept
  | error what p₁ =>
    rw [hp] at kept
    exact kept

/-! ## Runs that may be stopped -/

/-- A call that ends well leaves a state as `post` says, and one that is stopped has
written as `fair` says. -/
def Ends (fair : List (Entry α) → Prop) (post : State α → Prop) : Ending α → Prop
  | .ok _ p => post p
  | .error _ p => fair p.written

section Ends

variable {fair : List (Entry α) → Prop} {steady paired : State α → Prop}

omit [Coded α] in
theorem Ends.bind {mid post : State α → Prop} {x y : Run α Unit} {p : State α}
    (first : Ends fair mid (x p)) (second : ∀ p₁, mid p₁ → Ends fair post (y p₁)) :
    Ends fair post ((x >>= fun _ => y) p) := by
  cases hp : x p with
  | ok _ p₁ =>
    rw [hp] at first
    rw [bind_of_ok hp]
    exact second p₁ first
  | error what p₁ =>
    rw [hp] at first
    rw [bind_of_error hp]
    exact first

omit [Coded α] in
theorem Ends.written {post : State α → Prop} {r : Ending α} (h : Ends fair post r)
    (fairly : ∀ p, post p → fair p.written) : fair (Ending.state r).written := by
  cases r with
  | ok _ p => exact fairly p h
  | error what p => exact h

theorem Ends.arrive (received : ∀ p, steady p → Ends fair paired (receive p))
    (copied : ∀ p, paired p → p.window.next = some slash → Ends fair steady (copyRegex p))
    {p : State α} (h : steady p) : Ends fair paired (arrive p) := by
  have read := received p h
  cases hp : Plain.receive p with
  | ok _ p₁ =>
    rw [hp] at read
    rw [arrive_of_receive hp]
    split
    next opens =>
      obtain ⟨isSlash, _⟩ : p₁.window.next = some slash ∧ p₁.window.opensRegex = true := by
        simpa using opens
      exact Ends.bind (copied p₁ read isSlash) received
    · exact read
  | error what p₁ =>
    rw [hp] at read
    rw [Plain.arrive, bind_of_error hp]
    exact read

/-- The course of a run: `steady` is had before a character is read, and `paired` when
the pair to be decided about is complete. -/
theorem Ends.proceed (received : ∀ p, steady p → Ends fair paired (receive p))
    (copied : ∀ p, paired p → p.window.next = some slash → Ends fair steady (copyRegex p))
    (settled : ∀ p, paired p → p.held ≠ none → Ends fair steady (settle p.verdict p.note))
    {p : State α} (h : steady p) :
    Ends fair (fun p => paired p ∧ p.held = none) (Plain.proceed p) := by
  have drained : ∀ p, paired p → Ends fair (fun p => paired p ∧ p.held = none) (Plain.drain p) := by
    intro p h
    fun_induction Plain.drain p with
    | case1 p held => exact ⟨h, held⟩
    | case2 p held what p' stepped =>
      have left : Ends fair paired (step p.verdict p.note) :=
        Ends.bind (settled p h held) fun _ => Ends.arrive received copied
      rw [stepped] at left
      exact left
    | case3 p held _ p' stepped ih =>
      have left : Ends fair paired (step p.verdict p.note) :=
        Ends.bind (settled p h held) fun _ => Ends.arrive received copied
      rw [stepped] at left
      exact ih left
  have arrived := Ends.arrive received copied h
  unfold Plain.proceed
  cases hp : Plain.arrive p with
  | ok _ p₁ =>
    rw [hp] at arrived
    exact drained p₁ arrived
  | error what p₁ =>
    rw [hp] at arrived
    exact arrived

end Ends

/-! ## Characters are only moved -/

/-- All characters of a state have a property. -/
structure State.All (good : α → Prop) (p : State α) : Prop where
  held : ∀ a ∈ p.held, good a
  next : ∀ a ∈ p.next, good a
  last : ∀ a ∈ p.last, good a
  beforeLast : ∀ a ∈ p.beforeLast, good a
  lastWritten : ∀ a ∈ p.lastWritten, good a
  rest : ∀ a ∈ p.rest, good a
  written : ∀ e ∈ p.written, good e.char

namespace State.All

variable {good : α → Prop} {p : State α}

omit [Coded α] in
theorem put {c : Option α} (h : p.All good) (hc : ∀ a ∈ c, good a) (inLiteral : Bool) :
    (p.put inLiteral c).All good := by
  refine { h with written := fun e he => ?_ }
  rcases List.mem_append.mp he with old | new
  · exact h.written e old
  · obtain ⟨a, ha, rfl⟩ := List.mem_map.mp new
    exact hc a (Option.mem_toList.mp ha)

theorem emit {c : Option α} (h : p.All good) (hc : ∀ a ∈ c, good a) : (p.emit c).All good := by
  unfold State.emit
  split
  · exact h
  · split
    · exact h.put hc false
    · exact { h.put hc false with lastWritten := hc }

theorem keepHeld (h : p.All good) : p.keepHeld.All good := by
  unfold State.keepHeld
  split
  · exact (h.emit h.held).put h.beforeLast false
  · exact h.emit h.held

theorem setApart (h : p.All good) (blank_good : good blank) : p.setApart.All good := by
  unfold State.setApart
  split
  · refine h.put (fun a ha => ?_) false
    obtain rfl : blank = a := Option.some.inj ha
    exact blank_good
  · exact h

theorem copy {cut : Cut α} {close : Nat} {p : State α} (h : p.All good)
    (whole : cut.Of close p.rest) : (Ending.state (Plain.copy cut p)).All good := by
  have copied : ∀ a ∈ cut.1, a ∈ p.rest := by
    intro a ha
    unfold Cut.Of at whole
    split at whole
    · rw [whole.1]; exact List.mem_append_left _ ha
    · rw [whole]; exact ha
  have written : ∀ e ∈ p.written ++ cut.1.map (Entry.mk · true), good e.char := by
    intro e he
    rcases List.mem_append.mp he with old | new
    · exact h.written e old
    · obtain ⟨a, ha, rfl⟩ := List.mem_map.mp new
      exact h.rest a (copied a ha)
  unfold Plain.copy
  unfold Cut.Of at whole
  cases ending : cut.2 with
  | ok closing =>
    obtain ⟨a, rest⟩ := closing
    rw [ending] at whole
    refine { h with written, held := fun b hb => ?_, rest := fun b hb => h.rest b ?_ }
    · obtain rfl : a = b := Option.some.inj hb
      exact h.rest a (by rw [whole.1]; simp)
    · rw [whole.1]
      exact List.mem_append_right _ (List.mem_cons_of_mem a hb)
  | error what => exact { h with written, rest := nofun }

theorem shift : Keeps (State.All good) Plain.shift := by
  intro p h
  unfold Plain.shift
  split
  · exact { h with held := nofun }
  next a hn =>
    have ha : good a := h.next a hn
    have held : ∀ b ∈ some a, good b := by
      intro b hb
      obtain rfl : a = b := Option.some.inj hb
      exact ha
    have shifted : ({ p with held := some a } : State α).All good := { h with held }
    split
    · exact (shifted.put held true).copy (enclosed_of .quoted (code a) p.rest)
    · exact shifted

theorem settle (v : Verdict) : Keeps (State.All good) (Plain.settle v) := by
  intro p h
  cases v with
  | keep => exact shift p.keepHeld h.keepHeld
  | elide => exact shift p h
  | defer => exact h

end State.All

theorem mem_skipLine {text : List α} : ∀ a ∈ (skipLine text).1, a ∈ text := by
  induction text with
  | nil => exact nofun
  | cons b rest ih =>
    rw [skipLine]
    split
    · intro a ha
      obtain rfl : b = a := Option.some.inj ha
      exact List.mem_cons_self
    · exact fun a ha => List.mem_cons_of_mem b (ih a ha)

/-- What is read is in the text, unless it is the blank of a block comment. -/
theorem mem_next {text rest : List α} {c : Option α} (h : next text = .ok (c, rest)) :
    ∀ a ∈ c, a ∈ text ∨ a = blank := by
  match text with
  | [] => cases h; exact nofun
  | [b] =>
    cases h
    intro a ha
    obtain rfl : b = a := Option.some.inj ha
    exact .inl List.mem_cons_self
  | b :: d :: after =>
    rw [next] at h
    split at h
    · injection h with h
      have inside := @mem_skipLine _ _ after
      rw [h] at inside
      exact fun a ha => .inl (List.mem_cons_of_mem b (List.mem_cons_of_mem d (inside a ha)))
    · split at h
      · split at h
        · cases h
        · cases h
          exact fun a ha => .inr (Option.some.inj ha).symm
      · cases h
        intro a ha
        obtain rfl : b = a := Option.some.inj ha
        exact .inl List.mem_cons_self

namespace State.All

variable {good : α → Prop}

theorem receive (blank_good : good blank) : Keeps (State.All good) Plain.receive := by
  intro p h
  unfold Plain.receive
  dsimp only
  split
  · exact { h with rest := nofun }
  next c rest read =>
    have hc : ∀ a ∈ c, good a := by
      intro a ha
      rcases mem_next read a ha with known | rfl
      · exact h.rest a known
      · exact blank_good
    exact { h with
      next := hc, last := hc, beforeLast := h.last, rest := fun a ha => h.rest a ((suffix_next read).subset ha) }

theorem copyRegex (blank_good : good blank) :
    Keeps (State.All good) Plain.copyRegex := by
  intro p h
  have whole : (regexBody false p.rest).Of slash
      (((p.emit p.held).setApart).put true p.next).rest := by
    show (regexBody false p.rest).Of slash (p.emit p.held).setApart.rest
    rw [rest_setApart, rest_emit]
    exact regexBody_of false p.rest
  exact (((h.emit h.held).setApart blank_good).put h.next true).copy whole

theorem arrive (blank_good : good blank) : Keeps (State.All good) Plain.arrive :=
  Keeps.arrive (receive blank_good) (copyRegex blank_good)

theorem drain (blank_good : good blank) : Keeps (State.All good) Plain.drain :=
  Keeps.drain (fun _ h => { h with }) settle (arrive blank_good)

/-- All characters of a text that have a property have it when they are written. -/
theorem run {start : α} {text : List α} (blank_good : good blank) (start_good : good start)
    (text_good : ∀ a ∈ text, good a) : (Ending.state (Plain.run start text)).All good := by
  refine Keeps.proceed (arrive blank_good) (drain blank_good) _
    ⟨?_, nofun, nofun, nofun, nofun, text_good, nofun⟩
  intro a ha
  obtain rfl : start = a := Option.some.inj ha
  exact start_good

end State.All

/-! ## A run that ends well has read everything -/

/-- The end of the text comes next, or is held, only where nothing is left. -/
structure State.Drained (p : State α) : Prop where
  held : p.held = none → p.rest = []
  next : p.next = none → p.rest = []

namespace State.Drained

omit [Coded α] in
theorem copy {p : State α} (next : p.next ≠ none) (cut : Cut α) :
    (Ending.state (Plain.copy cut p)).Drained := by
  unfold Plain.copy
  cases cut.2 with
  | ok closing => exact ⟨nofun, fun none => absurd none next⟩
  | error what => exact ⟨fun _ => rfl, fun _ => rfl⟩

theorem receive {p : State α} (held : p.held = none → p.rest = []) :
    (Ending.state (Plain.receive p)).Drained := by
  cases read : Plain.next p.rest with
  | error what =>
    rw [receive_of_error read]
    exact ⟨fun _ => rfl, fun _ => rfl⟩
  | ok cut =>
    obtain ⟨c, rest⟩ := cut
    rw [receive_of_next read]
    refine ⟨fun none => ?_, ?_⟩
    · have left := suffix_next read
      rw [held none] at left
      exact List.suffix_nil.mp left
    · rintro rfl
      exact rest_of_next_none read

theorem shift {p : State α} (next : p.next = none → p.rest = []) :
    (Ending.state (Plain.shift p)).Drained := by
  cases hn : p.next with
  | none =>
    rw [shift_of_none hn]
    exact ⟨fun _ => next hn, next⟩
  | some a =>
    have going : p.next ≠ none := by rw [hn]; nofun
    cases quote : isQuote (code a) with
    | true =>
      rw [shift_of_quote hn quote]
      refine copy ?_ _
      exact going
    | false =>
      rw [shift_of_other hn quote]
      exact ⟨nofun, next⟩

theorem settle (v : Verdict) : Keeps (State.Drained (α := α)) (Plain.settle v) := by
  intro p h
  cases v with
  | keep =>
    refine shift fun none => ?_
    rw [next_keepHeld] at none
    rw [rest_keepHeld]
    exact h.next none
  | elide => exact shift h.next
  | defer => exact h

theorem copyRegex : Keeps (State.Drained (α := α)) Plain.copyRegex := by
  intro p h
  cases hn : p.next with
  | none =>
    unfold Plain.copyRegex
    rw [h.next hn]
    exact ⟨fun _ => rfl, fun _ => rfl⟩
  | some a =>
    refine copy ?_ _
    show (p.emit p.held).setApart.next ≠ none
    unfold State.setApart
    split
    · show (p.emit p.held).next ≠ none
      rw [next_emit, hn]
      nofun
    · rw [next_emit, hn]
      nofun

theorem arrive {p : State α} (held : p.held = none → p.rest = []) :
    (Ending.state (Plain.arrive p)).Drained :=
  arrive_leads (fun _ => receive) copyRegex (fun _ h => h.held) held

end State.Drained

theorem held_of_drain {p p' : State α} (h : drain p = .ok () p') : p'.held = none := by
  fun_induction drain p with
  | case1 p ended =>
    cases h
    exact ended
  | case2 => cases h
  | case3 p _ _ p₁ _ ih => exact ih h

theorem rest_of_run {start : α} {text : List α} {p : State α} (h : run start text = .ok () p) :
    p.rest = [] := by
  have arrived : (Ending.state (arrive { held := some start, rest := text })).Drained :=
    State.Drained.arrive nofun
  unfold run proceed at h
  split at h
  · cases h
  next p₁ hp =>
    rw [hp] at arrived
    have drained := Keeps.drain (fun _ h => { h with }) State.Drained.settle
      (fun _ h => State.Drained.arrive h.held) p₁ arrived
    rw [h] at drained
    exact drained.held (held_of_drain h)

end Plain
end ScriptPress
