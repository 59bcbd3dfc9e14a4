/-
What is written for a text, whether or not all of it is closed.

`draft` goes through a text item by item and lists all that may be written for
it.  For a text in which everything is closed this is what the second pass
writes.  A run that is stopped has written a beginning of it: an unclosed literal
is copied to the end of the text, while the token before an unclosed comment may
still be held.

A draft is not longer than its text.  A token is written once, and between two
tokens at most one separator is put, and only where the text has one or a comment
that reads as one.
-/
import Mathlib.Tactic.Linarith
import Mathlib.Algebra.Order.Field.Rat
import ScriptPress.Proofs.Chunks

namespace ScriptPress

open Code

namespace Script

set_option linter.unusedVariables false in
/-- All that may be written for a text. -/
def draft (ctx : Context) : List Nat → List Nat
  | [] => []
  | c :: rest =>
    match h : first ctx c rest with
    | .error what => torn ctx c rest what
    | .ok (item, after) => written ctx item ++ draft (ctx.after item) after
termination_by text => text.length
decreasing_by exact (first_eq_ok h).length_lt

@[simp] theorem draft_nil (ctx : Context) : draft ctx [] = [] := by
  rw [draft]

theorem draft_of_ok {ctx : Context} {c : Nat} {rest after : List Nat} {item : Item}
    (h : first ctx c rest = .ok (item, after)) :
    draft ctx (c :: rest) = written ctx item ++ draft (ctx.after item) after := by
  rw [draft]
  split <;> simp_all

theorem draft_of_error {ctx : Context} {c : Nat} {rest : List Nat} {what : Construct}
    (h : first ctx c rest = .error what) : draft ctx (c :: rest) = torn ctx c rest what := by
  rw [draft]
  split <;> simp_all

/-- Where everything is closed, the second pass writes the whole draft. -/
theorem draft_of_closed {ctx : Context} {text : List Nat} {items : List Item}
    (closed : split ctx text = (items, none)) : draft ctx text = join ctx items := by
  fun_induction split ctx text generalizing items with
  | case1 ctx =>
    cases closed
    exact draft_nil ctx
  | case2 => cases closed
  | case3 ctx c rest item after cut items' fault rec ih =>
    obtain ⟨rfl, rfl⟩ := Prod.mk.inj closed
    rw [draft_of_ok cut, ih rec, join]

end Script

/-! ## Runs -/

/-- However a run ends that is poised before a text, it has written a beginning of
the draft. -/
theorem Plain.Poised.drafts {ctx : Context} {w : List Nat} {p : State Nat} (h : Poised ctx w p) :
    (Ending.state (resume ctx.fresh p)).text <+: w ++ Script.draft ctx p.rest := by
  generalize text : p.rest = remaining
  fun_induction Script.draft ctx remaining generalizing p w with
  | case1 ctx =>
    obtain ⟨p', ended, wrote, _⟩ := h.ends text
    rw [ended, List.append_nil]
    exact wrote ▸ List.prefix_rfl
  | case2 ctx c rest what unclosed =>
    obtain ⟨p', halted, _, _, wrote⟩ := h.halts text (Script.first_eq_error unclosed)
    rw [halted]
    exact wrote
  | case3 ctx c rest item after cut ih =>
    obtain ⟨p₁, going, poised, rest₁, _⟩ := h.takes text (Script.first_eq_ok cut)
    rw [going, ← List.append_assoc]
    exact ih poised rest₁

namespace Script

/-- What a run stores is what the plain run on the characters of its script writes. -/
theorem stored_eq_run (script : Bytes) :
    (Outcome.state (minifyStream { supply := .bytes script } {})).sink.output.stored.toList =
      Plain.bytes (Plain.Ending.state (Plain.run newline (characters script))).text := by
  have agrees := @minifyStream_agrees Nat _ script newline _ rfl (map_code_nat _)
  generalize Plain.run newline (characters script) = ending at agrees
  cases ending with
  | ok _ p =>
    obtain ⟨tally, t, streamed, stored⟩ := agrees
    rw [streamed]
    exact stored
  | error what p =>
    obtain ⟨t, streamed, stored⟩ := agrees
    rw [streamed]
    exact stored

theorem stored_prefix_draft (script : Bytes) :
    (Outcome.state (minifyStream { supply := .bytes script } {})).sink.output.stored.toList <+:
      Plain.bytes (draft {} (characters script)) := by
  have drafts := (poised_start (characters script)).drafts
  rw [show Context.fresh {} = false from rfl, Plain.resume_stale, List.nil_append] at drafts
  rw [stored_eq_run]
  exact drafts.map _

/-! ## Drafts are not longer than their texts -/

theorem length_between_le (x : Symbol) (gap : List Nat) (y : Nat) :
    (between x gap y).length ≤ min gap.length 1 := by
  cases x with
  | none => exact Nat.zero_le _
  | some x =>
    by_cases none : gap = []
    · simp [between, none]
    · have filled : 0 < gap.length := List.length_pos_iff.mpr none
      have one : (between (some x) gap y).length ≤ 1 := by
        unfold between
        repeat' split
        all_goals simp
      omega

/-- A separator before the text is worth one character, which may be put in front of
the next token. -/
theorem length_draft_le (ctx : Context) (text : List Nat) :
    (draft ctx text).length ≤ text.length + min ctx.gap.length 1 := by
  fun_induction draft ctx text with
  | case1 ctx => exact Nat.zero_le _
  | case2 ctx c rest what unclosed =>
    by_cases comment : what = .comment
    · rw [comment]
      exact Nat.zero_le _
    · have between_le := length_between_le ctx.edge ctx.gap c
      rw [torn_of_ne comment, List.length_append]
      omega
  | case3 ctx c rest item after cut ih =>
    have cut := first_eq_ok cut
    rw [List.length_append]
    cases item with
    | token t =>
      have between_le := length_between_le ctx.edge ctx.gap t.edge
      have whole := congrArg List.length cut.text_eq
      have later : (draft { token := some t } after).length ≤ after.length + 0 := ih
      rw [List.length_append] at whole
      rw [written, List.length_append]
      show _ + (draft { token := some t } after).length ≤ _
      omega
    | separator d =>
      have shorter := cut.length_lt
      rw [written_of_blank rfl, List.length_nil]
      omega
    | comment reads =>
      have shorter := cut.length_lt
      rw [written_of_blank rfl, List.length_nil]
      omega

theorem removed_mem_range {tally : Tally} (read : 0 < tally.bytesIn) (wrote : 0 ≤ tally.bytesOut)
    (shrunk : tally.bytesOut ≤ tally.bytesIn) :
    0 ≤ 100 - 100 * (tally.bytesOut : ℚ) / tally.bytesIn ∧
      100 - 100 * (tally.bytesOut : ℚ) / tally.bytesIn ≤ 100 := by
  have read : (0 : ℚ) < tally.bytesIn := by exact_mod_cast read
  have wrote : (0 : ℚ) ≤ tally.bytesOut := by exact_mod_cast wrote
  have shrunk : (tally.bytesOut : ℚ) ≤ tally.bytesIn := by exact_mod_cast shrunk
  have some_left : 0 ≤ 100 * (tally.bytesOut : ℚ) / tally.bytesIn :=
    div_nonneg (by linarith) read.le
  have at_most_all : 100 * (tally.bytesOut : ℚ) / tally.bytesIn ≤ 100 :=
    (div_le_iff₀ read).mpr (by linarith)
  constructor
  · linarith
  · linarith

/-- A run stores no more bytes than its script has, whether it succeeds or is
stopped.  So a run that succeeds removes between nothing and all of a script, as
an exact percentage. -/
theorem minifyStream_no_growth (script : Bytes) {outcome : Outcome Transfer Tally}
    (ran : minifyStream { supply := .bytes script } {} = outcome) :
    outcome.state.sink.output.stored.size ≤ script.length ∧
      ∀ tally, outcome.result = .ok tally → script ≠ [] →
        0 ≤ 100 - 100 * (tally.bytesOut : ℚ) / tally.bytesIn ∧
          100 - 100 * (tally.bytesOut : ℚ) / tally.bytesIn ≤ 100 := by
  have stored : outcome.state.sink.output.stored.size ≤ script.length := by
    have written := (stored_prefix_draft script).length_le
    have drafted := length_draft_le {} (characters script)
    rw [ran, Array.length_toList] at written
    simp only [Plain.bytes, characters, List.length_map] at written drafted
    exact written.trans drafted
  refine ⟨stored, fun tally succeeds filled => ?_⟩
  have tallied := @result_minifyStream { supply := .bytes script } rfl
  rw [served_bytes, ran, succeeds] at tallied
  obtain rfl : tally = ⟨script.length, outcome.state.sink.output.stored.size⟩ := tallied
  have some_read : 0 < script.length := List.length_pos_iff.mpr filled
  apply removed_mem_range
  · show (0 : Int) < script.length
    omega
  · exact Int.natCast_nonneg _
  · exact Int.ofNat_le.mpr stored

/-- The script `a + +b` of six bytes gives `a+ +b` of five, and so loses a sixth. -/
theorem minifyStream_no_growth_signs :
    Outcome.result (minifyStream { supply := .bytes [97, 32, 43, 32, 43, 98] } {}) = .ok ⟨6, 5⟩ ∧
      0 ≤ 100 - 100 * ((5 : Int) : ℚ) / (6 : Int) ∧
        100 - 100 * ((5 : Int) : ℚ) / (6 : Int) ≤ 100 := by
  have counted : Outcome.result (minifyStream { supply := .bytes [97, 32, 43, 32, 43, 98] } {}) =
      .ok ⟨6, 5⟩ := eq_ok_of_toOption (by decide +kernel)
  obtain ⟨_, removed⟩ := minifyStream_no_growth [97, 32, 43, 32, 43, 98] rfl
  exact ⟨counted, removed ⟨6, 5⟩ counted (by decide)⟩

end Script
end ScriptPress
