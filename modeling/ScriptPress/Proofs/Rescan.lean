/-
Minifying what has been minified.

The output of a run is cut into the tokens of its script again, with the same
separators between them, so that it is minified to itself.  What may go wrong is
that a division sign and a star, kept apart by separators or comments in the
script, come together and open a comment.  `minify_idempotent` excludes this by
looking at the pairs decided about, and `skipsComment_output_iff` says that it
happens in no other case.
-/
import ScriptPress.Proofs.Layout
import ScriptPress.Proofs.Passes

namespace ScriptPress
namespace Script

open Code

/-! ## Characters of the output -/

/-- A character that is written as a byte which counts as that character. -/
def Stable (c : Nat) : Prop := c < 256 ∧ effective c = c

theorem stable_characters (script : Bytes) : ∀ c ∈ characters script, Stable c := by
  intro c hc
  obtain ⟨byte, _, rfl⟩ := List.mem_map.mp hc
  exact ⟨effective_lt byte.toNat_lt, effective_effective _⟩

theorem characters_bytes {text : List Nat} (h : ∀ c ∈ text, Stable c) :
    characters (Plain.bytes text) = text := by
  unfold characters Plain.bytes
  rw [List.map_map]
  refine (List.map_congr_left fun c hc => ?_).trans (List.map_id text)
  obtain ⟨small, same⟩ := h c hc
  show effective (c.toUInt8.toNat) = c
  rw [show c.toUInt8.toNat = c from Nat.mod_eq_of_lt small, same]

variable {script : Bytes} {items : List Item}

theorem characters_output (closed : split {} (characters script) = (items, none)) :
    characters (Plain.bytes (join {} items)) = join {} items := by
  obtain ⟨p', ran, finished⟩ := run_finishes (characters script)
  rw [closed] at ran finished
  have all : (Plain.Ending.state (Plain.run newline (characters script))).All Stable :=
    Plain.State.All.run ⟨by decide, by decide⟩ ⟨by decide, by decide⟩ (stable_characters script)
  rw [ran] at all
  have wrote : p'.text = join {} items := finished.text rfl
  rw [← wrote]
  refine characters_bytes fun c hc => ?_
  obtain ⟨entry, written, rfl⟩ := List.mem_map.mp hc
  exact all.written entry written

/-! ## Records of a run -/

theorem recorded (script : Bytes) :
    ∃ p', Plain.Recorded (automaton script).skipsComment
        ((automaton script).steps.tail.map fun s => (s.2.window.held, s.2.window.next)) p' ∧
      Plain.Finished {} [] { held := some newline, rest := characters script }
        (split {} (characters script)).1 (split {} (characters script)).2 p' := by
  obtain ⟨p', ran, finished⟩ := run_finishes (characters script)
  have starts : (automaton script).Starts newline (characters script) :=
    automaton_starts rfl (map_code_nat _)
  have recorded := Automaton.steps_recorded starts
  rw [ran] at recorded
  refine ⟨p', ?_, finished⟩
  cases fault : (split {} (characters script)).2 with
  | none => rwa [fault] at recorded
  | some what => rwa [fault] at recorded

theorem skipsComment_eq (script : Bytes) :
    (automaton script).skipsComment = hasComment (split {} (characters script)) := by
  obtain ⟨p', ⟨commented, _⟩, finished⟩ := recorded script
  rw [← commented, finished.commented]
  rfl

/-- If a slash and a star are tokens next to each other, a step is taken with this
pair. -/
theorem exists_step_of_touching
    (touching : [.character slash, .character star] <:+:
      tokens (split {} (characters script)).1) :
    ∃ s ∈ (automaton script).steps,
      s.2.window.held = some slash ∧ s.2.window.next = some star := by
  obtain ⟨p', ⟨_, decided⟩, finished⟩ := recorded script
  have met := finished.met touching
  rw [decided] at met
  obtain ⟨s, taken, pair⟩ := List.mem_map.mp met
  exact ⟨s, List.mem_of_mem_tail taken, (Prod.mk.inj pair).1, (Prod.mk.inj pair).2⟩

/-! ## The results -/

/-- The output of a run is minified to itself, if no step of the run was taken
with a slash held and a star next. -/
theorem minify_idempotent {script out : Bytes} (succeeds : minify script = .ok out)
    (apart : ∀ s ∈ (automaton script).steps,
      ¬ (s.2.window.held = some slash ∧ s.2.window.next = some star)) :
    minify out = .ok out := by
  obtain ⟨items, closed, rfl⟩ := closed_of_minify succeeds
  have back : split {} (characters (Plain.bytes (join {} items))) = (layout {} items, none) := by
    rw [characters_output closed]
    refine split_join closed fun touching => ?_
    have touching : [.character slash, .character star] <:+:
        tokens (split {} (characters script)).1 := by rwa [closed]
    obtain ⟨s, taken, pair⟩ := exists_step_of_touching touching
    exact apart s taken pair
  rw [minify_of_closed back]
  exact congrArg (fun text => Except.ok (Plain.bytes text)) (join_layout {} items)

/-- The script `a = b /⏎/[/]/ + +'q' // z` gives `a=b/ /[/]/+ +'q'`, and so does
that. -/
theorem minify_idempotent_slashes :
    minify [97, 32, 61, 32, 98, 32, 47, 10, 47, 91, 47, 93, 47, 32, 43, 32, 43, 39, 113, 39, 32,
      47, 47, 32, 122] = .ok [97, 61, 98, 47, 32, 47, 91, 47, 93, 47, 43, 32, 43, 39, 113, 39] ∧
    minify [97, 61, 98, 47, 32, 47, 91, 47, 93, 47, 43, 32, 43, 39, 113, 39] =
      .ok [97, 61, 98, 47, 32, 47, 91, 47, 93, 47, 43, 32, 43, 39, 113, 39] :=
  have succeeds : minify [97, 32, 61, 32, 98, 32, 47, 10, 47, 91, 47, 93, 47, 32, 43, 32, 43, 39, 113, 39, 32,
      47, 47, 32, 122] = .ok [97, 61, 98, 47, 32, 47, 91, 47, 93, 47, 43, 32, 43, 39, 113, 39] :=
    minify_eq_ok (by decide +kernel) (by decide +kernel)
  ⟨succeeds, minify_idempotent succeeds (by decide +kernel)⟩

/-- The output of a run has a comment exactly if a division sign and a star are
tokens of the script with nothing but separators and comments in between. -/
theorem skipsComment_output_iff {script out : Bytes} (succeeds : minify script = .ok out) :
    (automaton out).skipsComment ↔
      [.character slash, .character star] <:+: tokens (split {} (characters script)).1 := by
  obtain ⟨items, closed, rfl⟩ := closed_of_minify succeeds
  rw [skipsComment_eq, characters_output closed, closed]
  constructor
  · intro skips
    refine Decidable.byContradiction fun apart => ?_
    have back : split {} (join {} items) = (layout {} items, none) := split_join closed apart
    rw [back, hasComment, layout_no_comment] at skips
    cases skips
  · exact hasComment_join closed

/-- The script `a/ *b` gives `a/*b`, in which a comment is skipped that the script
does not have. -/
theorem skipsComment_output_of_division :
    minify [97, 47, 32, 42, 98] = .ok [97, 47, 42, 98] ∧
      (automaton [97, 47, 32, 42, 98]).skipsComment = false ∧
      (automaton [97, 47, 42, 98]).skipsComment = true :=
  ⟨minify_eq_ok (by decide +kernel) (by decide +kernel), by decide +kernel, by decide +kernel⟩

/-- The script `a/ b/*c*/` gives `a/b`, without a comment. -/
theorem skipsComment_output_iff_division :
    minify [97, 47, 32, 98, 47, 42, 99, 42, 47] = .ok [97, 47, 98] ∧
      ((automaton [97, 47, 98]).skipsComment ↔
        [.character slash, .character star] <:+:
          tokens (split {} (characters [97, 47, 32, 98, 47, 42, 99, 42, 47])).1) :=
  have succeeds : minify [97, 47, 32, 98, 47, 42, 99, 42, 47] = .ok [97, 47, 98] :=
    minify_eq_ok (by decide +kernel) (by decide +kernel)
  ⟨succeeds, skipsComment_output_iff succeeds⟩

end Script
end ScriptPress
