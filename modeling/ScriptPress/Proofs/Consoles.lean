/-
The console of a journal over a session.

Handler and listener of the console come and go together, with the level of the
journal, and the host's handler is never touched.  That is `session_setup`.

The flag keeps other company.  It is set with a console, but cleared by a shutdown
only.  A forced set-up that installs no console leaves the flag of the one it took
away, and as long as that stands, setting up without force does nothing.  Such a
flag is `Stale`, and `session_flag` says which sessions end with one.
-/
import Mathlib.Data.List.Induction
import ScriptPress.Proofs.Sessions

namespace ScriptPress
namespace Journal

variable {j k : Journal} {calls : List Call}

/-- After a session from a journal that was never set up, there is a console handler
exactly if there is a listener, and never more than one.  If there is one, the flag is
set and the listener shows what the journal lets pass.  A host once attached is still
there, once.  Right after a shutdown nothing of a console is left.  Making the calls
one at a time is such a session, and all such sessions lead to the same set-up. -/
theorem session_setup (fresh : j.Unconfigured) (ran : Session j calls k) :
    k.consoles ≤ 1 ∧ (k.consoles = 1 ↔ k.listener.isSome) ∧
      (k.consoles = 1 → k.configured = true ∧ ∃ l, k.listener = some l ∧ l.level = k.level) ∧
      (.host ∈ j.handlers ∨ .attachHost ∈ calls → k.handlers.count .host = 1) ∧
      (∀ before, calls = before ++ [.shutdown] →
        k.consoles = 0 ∧ k.listener = none ∧ k.configured = false) ∧
      Session j calls (j.after calls) ∧ (j.after calls).setup = k.setup := by
  have reached := ran.setup_eq fresh.sound
  have sound := ran.sound fresh.sound
  have consoles : k.consoles = k.listener.isSome.toNat := sound.consoles
  refine ⟨?_, ?_, ?_, ?_, ?_, .apart j calls, (ran.setup_eq_after fresh.sound).symm⟩
  · rw [consoles]
    exact Bool.toNat_le _
  · rw [consoles]
    exact Bool.toNat_eq_one
  · intro one
    rw [consoles, Bool.toNat_eq_one] at one
    obtain ⟨l, listens⟩ := Option.isSome_iff_exists.mp one
    exact ⟨sound.configured one, l, listens, sound.level l listens⟩
  · intro attached
    have member : .host ∈ k.setup.handlers := by
      rw [reached]
      exact (host_mem_foldl_after calls).mpr attached
    have some : 0 < k.setup.handlers.count .host := List.count_pos_iff.mpr member
    exact Nat.le_antisymm sound.hosts some
  · rintro before rfl
    rw [List.foldl_append] at reached
    have silent : k.listener = none := congrArg Setup.listener reached
    rw [consoles, silent]
    exact ⟨rfl, rfl, congrArg Setup.configured reached⟩

/-- A session in which the listener shows the first of two records before the second is
logged. -/
theorem session_setup_listening :
    let calls : List Call := [.attachHost, .configure {} false, .log ⟨30, "a", "one", {}⟩]
    let k := (({} : Journal).after calls).deliver.after [.log ⟨40, "b", "two", {}⟩]
    k.shown = [.line "jsmin: WARNING | one"] ∧ k.queue.length = 1 ∧ k.consoles = 1 ∧
      k.configured = true ∧ k.handlers.count .host = 1 := by
  intro calls k
  have ran : Session {} (calls ++ [.log ⟨40, "b", "two", {}⟩]) k :=
    (Session.apart {} calls).append (.deliver (Session.apart _ _))
  obtain ⟨_, iff_listens, marked, hosts, _⟩ := session_setup unconfigured_empty ran
  have listens : k.listener.isSome := by decide +kernel
  have one := iff_listens.mpr listens
  refine ⟨by decide +kernel, by decide +kernel, one, (marked one).1, hosts (.inr ?_)⟩
  decide

/-! ## The flag -/

/-- What is set by some steps and cleared by others holds after all of them if it was set
and not cleared since, or held before and was not cleared at all. -/
theorem foldl_flag_iff {σ κ : Type} {after : σ → κ → σ} {flag : σ → Prop} {sets : σ → κ → Prop}
    {clears : κ → Prop} (step : ∀ s c, flag (after s c) ↔ sets s c ∨ flag s ∧ ¬ clears c) (s : σ)
    (calls : List κ) :
    flag (calls.foldl after s) ↔
      (∃ before c rest, calls = before ++ c :: rest ∧ sets (before.foldl after s) c ∧
        ∀ d ∈ rest, ¬ clears d) ∨
      flag s ∧ ∀ d ∈ calls, ¬ clears d := by
  induction calls using List.reverseRecOn with
  | nil => simp
  | append_singleton calls e ih =>
    rw [List.foldl_concat, step, ih]
    constructor
    · rintro (now | ⟨⟨before, c, rest, rfl, set, kept⟩ | ⟨held, kept⟩, keeps⟩)
      · exact .inl ⟨calls, e, [], rfl, now, nofun⟩
      · refine .inl ⟨before, c, rest ++ [e], by simp, set, ?_⟩
        exact List.forall_mem_append.mpr ⟨kept, by simpa using keeps⟩
      · exact .inr ⟨held, List.forall_mem_append.mpr ⟨kept, by simpa using keeps⟩⟩
    · rintro (⟨before, c, rest, same, set, kept⟩ | ⟨held, kept⟩)
      · rcases rest.eq_nil_or_concat' with rfl | ⟨rest, d, rfl⟩
        · obtain ⟨rfl, ⟨⟩⟩ := List.append_inj' same rfl
          exact .inl set
        · have same : calls ++ [e] = (before ++ c :: rest) ++ [d] := by simpa using same
          obtain ⟨rfl, ⟨⟩⟩ := List.append_inj' same rfl
          obtain ⟨kept, keeps⟩ := List.forall_mem_append.mp kept
          exact .inr ⟨.inl ⟨before, c, rest, rfl, set, kept⟩, keeps e List.mem_cons_self⟩
      · obtain ⟨kept, keeps⟩ := List.forall_mem_append.mp kept
        exact .inr ⟨.inr ⟨held, kept⟩, keeps e List.mem_cons_self⟩

/-- The call sets up a console that can be had. -/
def Call.Installs (c : Call) : Prop :=
  ∃ settings force, c = configure settings force ∧ settings.installs

/-- The call sets up a console that can be had, whatever is there. -/
def Call.Reinstalls (c : Call) : Prop := ∃ settings, c = configure settings true ∧ settings.installs

theorem configured_after (s : Setup) (c : Call) :
    (s.after c).configured = true ↔ c.Installs ∨ s.configured = true ∧ ¬ c = .shutdown := by
  cases c with
  | configure settings force =>
    simp only [Setup.after, Call.Installs]
    split
    next settled => simp_all
    · split <;> simp_all
  | shutdown => simp [Setup.after, Call.Installs]
  | attachHost =>
    simp only [Setup.after, Call.Installs]
    split <;> simp
  | log r => simp [Setup.after, Call.Installs]
  | minify script made => simp [Setup.after, Call.Installs]

/-- A flag without a console. -/
def Setup.Stale (s : Setup) : Prop := s.configured = true ∧ s.listener = none

theorem stale_after (s : Setup) (c : Call) :
    (s.after c).Stale ↔
      (s.configured = true ∧ ∃ settings, c = .configure settings true ∧ settings.installs = false) ∨
      s.Stale ∧ ¬ (c = .shutdown ∨ c.Reinstalls) := by
  cases c with
  | configure settings force =>
    simp only [Setup.after, Call.Reinstalls, Setup.Stale]
    split
    next settled => simp_all
    next unsettled =>
      have forced : s.configured = true → force = true := by simpa using unsettled
      split
      next installs => simp_all
      next bare =>
        -- the flag stays as it was, and no listener is left
        have bare : settings.installs = false := by simpa using bare
        constructor
        · rintro ⟨marked, _⟩
          exact .inl ⟨marked, settings, by rw [forced marked], bare⟩
        · rintro (⟨marked, _⟩ | ⟨⟨marked, _⟩, _⟩) <;> exact ⟨marked, rfl⟩
  | shutdown => simp [Setup.after, Call.Reinstalls, Setup.Stale]
  | attachHost =>
    simp only [Setup.after, Call.Reinstalls, Setup.Stale]
    split <;> simp
  | log r => simp [Setup.after, Call.Reinstalls, Setup.Stale]
  | minify script made => simp [Setup.after, Call.Reinstalls, Setup.Stale]

theorem configured_foldl_after {s : Setup} (unmarked : s.configured = false) (calls : List Call) :
    (calls.foldl Setup.after s).configured = true ↔ ∃ before settings force rest,
      calls = before ++ .configure settings force :: rest ∧ settings.installs = true ∧
        .shutdown ∉ rest := by
  rw [@foldl_flag_iff Setup Call Setup.after (fun s => s.configured = true) (fun _ c => c.Installs)
    (· = .shutdown) configured_after]
  constructor
  · rintro (⟨before, _, rest, rfl, ⟨settings, force, rfl, installs⟩, kept⟩ | ⟨marked, _⟩)
    · exact ⟨before, settings, force, rest, rfl, installs, fun shut => kept _ shut rfl⟩
    · rw [unmarked] at marked
      cases marked
  · rintro ⟨before, settings, force, rest, rfl, installs, kept⟩
    refine .inl ⟨before, _, rest, rfl, ⟨settings, force, rfl, installs⟩, ?_⟩
    rintro _ member rfl
    exact kept member

theorem stale_foldl_after {s : Setup} (unmarked : s.configured = false) (calls : List Call) :
    (calls.foldl Setup.after s).Stale ↔ ∃ before settings rest,
      calls = before ++ .configure settings true :: rest ∧ settings.installs = false ∧
        (before.foldl Setup.after s).configured = true ∧ .shutdown ∉ rest ∧
        ∀ again, again.installs = true → .configure again true ∉ rest := by
  rw [foldl_flag_iff stale_after]
  constructor
  · rintro (⟨before, _, rest, rfl, ⟨marked, settings, rfl, bare⟩, kept⟩ | ⟨⟨marked, _⟩, _⟩)
    · refine ⟨before, settings, rest, rfl, bare, marked, fun shut => kept _ shut (.inl rfl), ?_⟩
      exact fun again installs member => kept _ member (.inr ⟨again, rfl, installs⟩)
    · rw [unmarked] at marked
      cases marked
  · rintro ⟨before, settings, rest, rfl, bare, marked, unshut, unforced⟩
    refine .inl ⟨before, _, rest, rfl, ⟨marked, settings, rfl, bare⟩, ?_⟩
    rintro _ member (rfl | ⟨again, rfl, installs⟩)
    · exact unshut member
    · exact unforced again installs member

theorem stale_iff (sound : k.setup.Sound) :
    k.setup.Stale ↔ k.configured = true ∧ k.consoles = 0 := by
  have consoles : k.consoles = k.listener.isSome.toNat := sound.consoles
  rw [consoles, Bool.toNat_eq_zero, Option.isSome_eq_false_iff, Option.isNone_iff_eq_none]
  rfl

theorem consoles_configure (sound : k.setup.Sound) {settings : Settings}
    (installs : settings.installs) (force : Bool) :
    ∃ l, configure settings force k = .ok () l ∧
      (l.consoles = 1 ↔ force = true ∨ ¬ k.setup.Stale) := by
  cases settled : k.configured && !force with
  | true =>
    obtain ⟨marked, unforced⟩ : k.configured = true ∧ force = false := by simpa using settled
    refine ⟨k, configure_of_settled settled settings, ?_⟩
    have consoles : k.consoles = k.listener.isSome.toNat := sound.consoles
    rw [stale_iff sound, consoles, marked, unforced]
    cases k.listener.isSome <;> simp
  | false =>
    obtain ⟨l, done⟩ : ∃ l, configure settings force k = .ok () l :=
      ⟨_, configure_of_installs settled installs⟩
    have reached : l.setup = k.setup.after (.configure settings force) := by
      rw [← Call.setup_perform, Call.perform, done]
    have listens : l.setup.listener.isSome := by
      rw [reached, Setup.after, if_neg (by simpa [setup] using settled), if_pos installs]
      rfl
    have sound : l.setup.Sound := by
      rw [reached]
      exact sound.after _
    refine ⟨l, done, iff_of_true ?_ ?_⟩
    · show l.setup.handlers.count .console = 1
      rw [sound.consoles, listens]
      rfl
    · by_cases forced : force = true
      · exact .inl forced
      · refine .inr fun stale => ?_
        rw [show k.configured = true from stale.1] at settled
        exact forced (by simpa using settled)

/-- After a session from a journal that was never set up, the flag is set exactly if a
call to set up a console that can be had was made since the last shutdown.  It stands
without a console exactly if a forced set-up that installs none found it set, and since
then there was neither a shutdown nor a forced set-up that installs one.  To set up such a
console then succeeds, but leaves one only if it is forced or the flag is not of that
kind.  Making the calls one at a time is such a session, and all such sessions lead to
the same set-up. -/
theorem session_flag (fresh : j.Unconfigured) (ran : Session j calls k) :
    (k.configured = true ↔ ∃ before settings force rest,
      calls = before ++ .configure settings force :: rest ∧ settings.installs = true ∧
        .shutdown ∉ rest) ∧
      (k.configured = true ∧ k.consoles = 0 ↔ ∃ before settings rest,
        calls = before ++ .configure settings true :: rest ∧ settings.installs = false ∧
          (j.after before).configured = true ∧ .shutdown ∉ rest ∧
          ∀ again, again.installs = true → .configure again true ∉ rest) ∧
      (∀ settings force, settings.installs = true →
        ∃ l, configure settings force k = .ok () l ∧
          (l.consoles = 1 ↔ force = true ∨ ¬ (k.configured = true ∧ k.consoles = 0))) ∧
      Session j calls (j.after calls) ∧ (j.after calls).setup = k.setup := by
  have reached := ran.setup_eq fresh.sound
  have sound := ran.sound fresh.sound
  have unmarked : j.setup.configured = false := fresh.unmarked
  refine ⟨?_, ?_, ?_, .apart j calls, (ran.setup_eq_after fresh.sound).symm⟩
  · show k.setup.configured = true ↔ _
    rw [reached]
    exact configured_foldl_after unmarked calls
  · rw [← stale_iff sound, reached, stale_foldl_after unmarked]
    simp only [← setup_after]
    rfl
  · intro settings force installs
    rw [← stale_iff sound]
    exact consoles_configure sound installs force

/-- A forced set-up without a console leaves the flag, and a console asked for next is
not installed. -/
theorem configured_without_console :
    ∃ k, Session {} [.configure {} false, .configure { console := false } true] k ∧
      k.configured = true ∧ k.consoles = 0 ∧ k.listener = none ∧
      ({} : Settings).installs = true ∧ configure {} false k = .ok () k := by
  refine ⟨_, Session.apart {} _, ?_, ?_, ?_, ?_, configure_of_settled ?_ {}⟩
  all_goals decide +kernel

/-- That session ends with a flag of the kind described. -/
theorem session_flag_console_off :
    ({ console := false } : Settings).installs = false ∧
      (({} : Journal).after [.configure {} false]).configured = true ∧
      (({} : Journal).after
        [.configure {} false, .configure { console := false } true]).consoles = 0 := by
  have bare : ({ console := false } : Settings).installs = false := rfl
  have marked : (({} : Journal).after [.configure {} false]).configured = true := by decide +kernel
  refine ⟨bare, marked, ?_⟩
  have ran := Session.apart {} [.configure {} false, .configure { console := false } true]
  exact ((session_flag unconfigured_empty ran).2.1.mpr
    ⟨[.configure {} false], { console := false }, [], rfl, bare, marked, List.not_mem_nil,
      fun _ _ => List.not_mem_nil⟩).2

end Journal
end ScriptPress
