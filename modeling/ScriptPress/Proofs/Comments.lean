/-
Reading with comments collapsed, call by call.

`Comment.Effect` says of the text a source has left how much of it a call of
`Comment.next` consumes and what it answers, by where the mark that closes a comment
is found first.  A text admits one such effect only, and it is the one the call has
(`next_effect`).  Calls made later, in any order and also after a comment that is not
closed, are answered from what has not been consumed.
-/
import ScriptPress.Proofs.Dialogue
import ScriptPress.Proofs.Lookahead

namespace ScriptPress
namespace Comment

open Code

/-! ## Marks in a text -/

/-- A mark is found in a text after `k` characters, and not before. -/
structure Found (mark text : List Nat) (k : Nat) : Prop where
  here : mark <+: text.drop k
  first : ∀ j < k, ¬ mark <+: text.drop j

namespace Found

variable {mark text : List Nat} {a k k' : Nat}

theorem zero (h : mark <+: text) : Found mark text 0 :=
  ⟨h, fun j earlier => absurd earlier (Nat.not_lt_zero j)⟩

theorem cons (other : ¬ mark <+: a :: text) (h : Found mark text k) :
    Found mark (a :: text) (k + 1) := by
  refine ⟨h.here, fun j earlier => ?_⟩
  cases j with
  | zero => exact other
  | succ j => exact h.first j (Nat.lt_of_succ_lt_succ earlier)

theorem unique (h : Found mark text k) (h' : Found mark text k') : k = k' := by
  rcases Nat.lt_trichotomy k k' with earlier | same | later
  · exact absurd h.here (h'.first k earlier)
  · exact same
  · exact absurd h'.here (h.first k' later)

theorem isInfix (h : Found mark text k) : mark <:+: text :=
  h.here.isInfix.trans (List.drop_suffix k text).isInfix

end Found

theorem skipLine_found (text : List Nat) :
    (∃ k, Found [newline] text k ∧ Plain.skipLine text = (some newline, text.drop (k + 1))) ∨
      (¬ [newline] <:+: text ∧ Plain.skipLine text = (none, [])) := by
  induction text with
  | nil => exact .inr ⟨by simp, rfl⟩
  | cons a rest ih =>
    rw [Plain.skipLine, Coded.code_nat]
    by_cases line : a = newline
    · subst line
      rw [if_pos rfl]
      exact .inl ⟨0, .zero (List.prefix_append [newline] rest), rfl⟩
    · have other : ¬ [newline] <+: a :: rest := by
        rw [List.singleton_prefix_cons_iff]
        exact Ne.symm line
      rw [if_neg line]
      rcases ih with ⟨k, found, skipped⟩ | ⟨endless, skipped⟩
      · exact .inl ⟨k + 1, found.cons other, skipped⟩
      · refine .inr ⟨fun inside => ?_, skipped⟩
        exact (List.infix_cons_iff.mp inside).elim other endless

theorem skipBlock_found (text : List Nat) :
    (∃ k, Found [star, slash] text k ∧ Plain.skipBlock text = some (text.drop (k + 2))) ∨
      (¬ [star, slash] <:+: text ∧ Plain.skipBlock text = none) := by
  fun_induction Plain.skipBlock text with
  | case1 a b rest found =>
    obtain ⟨rfl, rfl⟩ : a = star ∧ b = slash := found
    exact .inl ⟨0, .zero (List.prefix_append [star, slash] rest), rfl⟩
  | case2 a b rest other ih =>
    have other : ¬ [star, slash] <+: a :: b :: rest := by
      rintro ⟨tail, same⟩
      injection same with first same
      injection same with second _
      exact other ⟨first.symm, second.symm⟩
    rcases ih with ⟨k, found, skipped⟩ | ⟨endless, skipped⟩
    · exact .inl ⟨k + 1, found.cons other, skipped⟩
    · refine .inr ⟨fun inside => ?_, skipped⟩
      exact (List.infix_cons_iff.mp inside).elim other endless
  | case3 text short =>
    refine .inr ⟨fun inside => ?_, rfl⟩
    cases text with
    | nil => exact absurd inside.length_le (Nat.not_succ_le_zero 1)
    | cons a text =>
      cases text with
      | nil => exact absurd inside.length_le (Nat.not_succ_le_self 1)
      | cons b rest => exact short a b rest rfl

/-! ## The effect of a call -/

inductive Kind where
  | line
  | block
  deriving DecidableEq, Repr

namespace Kind

def opening : Kind → List Nat
  | line => [slash, slash]
  | block => [slash, star]

/-- The mark that closes a comment.  It may not overlap with the opening. -/
def mark : Kind → List Nat
  | line => [newline]
  | block => [star, slash]

/-- What a comment reads as. -/
def reads : Kind → Nat
  | line => newline
  | block => space

/-- What comes of a comment that the end of the script, at `total`, leaves open. -/
def unclosed (total : Nat) : Kind → Except Halt Symbol
  | line => .ok none
  | block => .error (.unterminated .comment total)

theorem unique {kind kind' : Kind} {text : List Nat} (h : kind.opening <+: text)
    (h' : kind'.opening <+: text) : kind' = kind := by
  have shorter : kind'.opening.length ≤ kind.opening.length := by
    cases kind <;> cases kind' <;> decide
  have same := List.prefix_of_prefix_length_le h' h shorter
  cases kind with
  | line =>
    cases kind' with
    | line => rfl
    | block => exact absurd same (by decide)
  | block =>
    cases kind' with
    | line => exact absurd same (by decide)
    | block => rfl

end Kind

/-- What a call does where `text` is left of a script of `total` characters: how many
of them it consumes, and the symbol it answers with or what halts it. -/
inductive Effect (total : Nat) (text : List Nat) : Nat → Except Halt Symbol → Prop
  /-- A comment is consumed with the mark that closes it. -/
  | closed {kind : Kind} {k : Nat} (opens : kind.opening <+: text)
      (ends : Found kind.mark (text.drop 2) k) :
    Effect total text (2 + k + kind.mark.length) (.ok (some kind.reads))
  | unclosed {kind : Kind} (opens : kind.opening <+: text)
      (endless : ¬ kind.mark <:+: text.drop 2) :
    Effect total text text.length (kind.unclosed total)
  | character {c : Nat} {rest : List Nat} (here : text = c :: rest)
      (plain : ∀ kind : Kind, ¬ kind.opening <+: text) :
    Effect total text 1 (.ok (some c))
  | ending (nothing : text = []) : Effect total text 0 (.ok none)

/-- A text has one effect only. -/
theorem Effect.unique {total taken taken' : Nat} {text : List Nat}
    {answer answer' : Except Halt Symbol} (h : Effect total text taken answer)
    (h' : Effect total text taken' answer') : taken' = taken ∧ answer' = answer := by
  have opened {kind : Kind} (opens : kind.opening <+: text) : text ≠ [] := by
    rintro rfl
    cases kind <;> exact absurd opens (by decide)
  cases h with
  | closed opens ends =>
    cases h' with
    | closed opens' ends' =>
      obtain rfl := Kind.unique opens opens'
      obtain rfl := ends.unique ends'
      exact ⟨rfl, rfl⟩
    | unclosed opens' endless =>
      obtain rfl := Kind.unique opens opens'
      exact absurd ends.isInfix endless
    | character _ plain => exact absurd opens (plain _)
    | ending nothing => exact absurd nothing (opened opens)
  | unclosed opens endless =>
    cases h' with
    | closed opens' ends =>
      obtain rfl := Kind.unique opens opens'
      exact absurd ends.isInfix endless
    | unclosed opens' =>
      obtain rfl := Kind.unique opens opens'
      exact ⟨rfl, rfl⟩
    | character _ plain => exact absurd opens (plain _)
    | ending nothing => exact absurd nothing (opened opens)
  | character here plain =>
    cases h' with
    | closed opens => exact absurd opens (plain _)
    | unclosed opens => exact absurd opens (plain _)
    | character here' =>
      cases here.symm.trans here'
      exact ⟨rfl, rfl⟩
    | ending nothing => cases nothing.symm.trans here
  | ending nothing =>
    cases h' with
    | closed opens => exact absurd nothing (opened opens)
    | unclosed opens => exact absurd nothing (opened opens)
    | character here => cases nothing.symm.trans here
    | ending => exact ⟨rfl, rfl⟩

theorem plain_of_not_opensComment {text : List Nat} (h : Plain.opensComment text = false)
    (kind : Kind) : ¬ kind.opening <+: text := by
  rintro ⟨tail, rfl⟩
  cases kind <;> cases h

/-- Reading the first character of a text has the effect of a call. -/
theorem next_hasEffect (total : Nat) (text : List Nat) :
    match Plain.next text with
    | .error what => ∃ taken,
        Effect total text taken (.error (.unterminated what total)) ∧ text.drop taken = []
    | .ok (c, rest) => ∃ taken, Effect total text taken (.ok c) ∧ text.drop taken = rest := by
  cases opens : Plain.opensComment text with
  | false =>
    rw [Plain.next_of_not_opensComment opens]
    cases text with
    | nil => exact ⟨0, .ending rfl, rfl⟩
    | cons c rest => exact ⟨1, .character rfl (plain_of_not_opensComment opens), rfl⟩
  | true =>
    obtain ⟨b, body, rfl, second⟩ : ∃ b body, text = slash :: b :: body ∧ (b = slash ∨ b = star) := by
      match text with
      | [] => cases opens
      | [a] => cases opens
      | a :: b :: body =>
        obtain ⟨rfl, second⟩ : a = slash ∧ (b = slash ∨ b = star) := by
          simpa [Plain.opensComment] using opens
        exact ⟨b, body, rfl, second⟩
    have past (n : Nat) : (slash :: b :: body).drop (2 + n) = body.drop n := by
      rw [Nat.add_comm, List.drop_succ_cons, List.drop_succ_cons]
    rcases second with rfl | rfl
    · have opens : Kind.line.opening <+: slash :: slash :: body := List.prefix_append _ body
      rw [Plain.next, if_pos ⟨rfl, rfl⟩]
      rcases skipLine_found body with ⟨k, found, skipped⟩ | ⟨endless, skipped⟩
      · rw [skipped]
        exact ⟨_, .closed opens found, past (k + 1)⟩
      · rw [skipped]
        exact ⟨_, .unclosed opens endless, List.drop_length⟩
    · have opens : Kind.block.opening <+: slash :: star :: body := List.prefix_append _ body
      rw [Plain.next, if_neg (by decide), if_pos ⟨rfl, rfl⟩]
      rcases skipBlock_found body with ⟨k, found, skipped⟩ | ⟨endless, skipped⟩
      · rw [skipped]
        exact ⟨_, .closed opens found, past (k + 2)⟩
      · rw [skipped]
        exact ⟨_, .unclosed opens endless, List.drop_length⟩

/-! ## Calls in a row -/

/-- What can be asked of a source that is read with comments collapsed. -/
inductive Request where
  | raw (call : Source.Call)
  | next
  deriving DecidableEq, Repr

namespace Request

def run : Request → Source → Outcome Source Symbol
  | raw call => call.run
  | next => Comment.next

/-- What a request does where `text` is left of a script of `total` characters. -/
inductive HasEffect (total : Nat) (text : List Nat) : Request → Nat → Except Halt Symbol → Prop
  | fetch : HasEffect total text (.raw .fetch) 1 (.ok text.head?)
  | peek : HasEffect total text (.raw .peek) 0 (.ok text.head?)
  | next {taken : Nat} {answer : Except Halt Symbol} (effect : Effect total text taken answer) :
    HasEffect total text .next taken answer

/-- The answers a source gives to requests, the later ones also after one that halted. -/
def answers (s : Source) : List Request → List (Except Halt Symbol)
  | [] => []
  | request :: later =>
    Outcome.result (request.run s) :: answers (Outcome.state (request.run s)) later

/-- These are the answers to requests that consume `text`, each what it leaves to the
next. -/
inductive Answers (total : Nat) : List Nat → List Request → List (Except Halt Symbol) → Prop
  | nil (text : List Nat) : Answers total text [] []
  | cons {text : List Nat} {request : Request} {taken : Nat} {answer : Except Halt Symbol}
      {later : List Request} {answers : List (Except Halt Symbol)}
      (effect : HasEffect total text request taken answer)
      (rest : Answers total (text.drop taken) later answers) :
    Answers total text (request :: later) (answer :: answers)

end Request

variable {s : Source} {total : Nat} {text : List Nat}

theorem next_effective (reads : s.Reads total text) :
    ∃ taken, Effect total text taken (Outcome.result (next s)) ∧
      (Outcome.state (next s)).Reads total (text.drop taken) := by
  have effective := next_hasEffect total text
  have called := @next_reads Nat _ s total text (by rwa [Script.map_code_nat])
  cases read : Plain.next text with
  | error what =>
    rw [read] at effective called
    obtain ⟨taken, effect, rest⟩ := effective
    obtain ⟨s', halted, reads'⟩ := called
    rw [halted]
    exact ⟨taken, effect, rest ▸ reads'⟩
  | ok found =>
    obtain ⟨c, after⟩ := found
    rw [read] at effective called
    obtain ⟨taken, effect, rest⟩ := effective
    obtain ⟨s', ended, reads'⟩ := called
    rw [Coded.map_code_nat] at ended
    rw [Script.map_code_nat, ← rest] at reads'
    rw [ended]
    exact ⟨taken, effect, reads'⟩

theorem Request.effective (reads : s.Reads total text) (request : Request) :
    ∃ taken, HasEffect total text request taken (Outcome.result (request.run s)) ∧
      (Outcome.state (request.run s)).Reads total (text.drop taken) := by
  cases request with
  | raw call =>
    obtain ⟨s', called, reads', _⟩ := reads.run call
    rw [run, called]
    cases call with
    | fetch => exact ⟨1, .fetch, by rw [List.drop_one]; exact reads'⟩
    | peek => exact ⟨0, .peek, reads'⟩
  | next =>
    obtain ⟨taken, effect, reads'⟩ := next_effective reads
    exact ⟨taken, .next effect, reads'⟩

theorem Request.answers_effective (reads : s.Reads total text) (requests : List Request) :
    Answers total text requests (answers s requests) := by
  induction requests generalizing s text with
  | nil => exact .nil text
  | cons request later ih =>
    obtain ⟨taken, effect, reads'⟩ := request.effective reads
    exact .cons effect (ih reads')

/-- A call on a source that has `text` left has the effect the text decides on, and no
other.  It leaves the characters not consumed, and whatever is asked of the source
later is answered from these. -/
theorem next_effect (reads : s.Reads total text) {outcome : Outcome Source Symbol}
    (ran : next s = outcome) :
    ∃ taken, Effect total text taken outcome.result ∧
      (∀ taken' answer', Effect total text taken' answer' →
        taken' = taken ∧ answer' = outcome.result) ∧
      outcome.state.Reads total (text.drop taken) ∧
      ∀ later, Request.Answers total (text.drop taken) later
        (Request.answers outcome.state later) := by
  subst ran
  obtain ⟨taken, effect, reads'⟩ := next_effective reads
  exact ⟨taken, effect, fun _ _ => effect.unique, reads', Request.answers_effective reads'⟩

/-- The pieces `/`, `*/**` and `/x`, of which the first slash is looked at: the comment
is closed by the second star of its end, and not by its opening, and the `x` is left to
be looked at and read.  In `/**` all is consumed. -/
theorem next_effect_stars :
    (∃ outcome : Outcome Source Symbol,
      next
        { input := { supply := .pieces [[42, 47, 42, 42], [47, 120]], reads := 1 }
          lookahead := some (some 47), position := 1 } = outcome ∧
      outcome.result = .ok (some space) ∧ outcome.state.Reads 7 [120] ∧
      Request.Answers 7 [120] [.raw .peek, .next, .raw .fetch]
        (Request.answers outcome.state [.raw .peek, .next, .raw .fetch])) ∧
    ∃ outcome : Outcome Source Symbol,
      next { input := { supply := .bytes [47, 42, 42] } } = outcome ∧
      outcome.result = .error (.unterminated .comment 3) ∧ outcome.state.Reads 3 [] := by
  refine ⟨?_, ?_⟩
  · obtain ⟨taken, _, unique, reads, later⟩ := @next_effect
      { input := { supply := .pieces [[42, 47, 42, 42], [47, 120]], reads := 1 }
        lookahead := some (some 47), position := 1 }
      7 [47, 42, 47, 42, 42, 47, 120]
      ⟨rfl, nofun, by decide, rfl, rfl⟩ _ rfl
    have found : Found Kind.block.mark [47, 42, 42, 47, 120] 2 := ⟨by decide, by decide⟩
    obtain ⟨rfl, result⟩ := unique _ _ (.closed (by decide) found)
    exact ⟨_, rfl, result.symm, reads, later _⟩
  · obtain ⟨taken, _, unique, reads, _⟩ := @next_effect
      { input := { supply := .bytes [47, 42, 42] } } 3 [47, 42, 42] ⟨rfl, nofun, nofun, rfl, rfl⟩ _ rfl
    obtain ⟨rfl, result⟩ := unique _ _ (.unclosed (by decide : Kind.block.opening <+: _) (by decide))
    exact ⟨_, rfl, result.symm, reads⟩

end Comment
end ScriptPress
