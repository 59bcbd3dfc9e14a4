/-
Which slashes open a regular expression.

The automaton cannot look back at the text: whether a slash opens a regular expression
it tells from the character it holds and the last one written.  Its answer is the one
that the last significant character before the slash calls for, whatever separators and
comments stand in between (`Automaton.opensRegex_iff_last_significant`).

The proof follows a run from step to step.  Where a run is about to read on it is in the
stance after the items read so far (`Plain.Expects`), and a character that it has read
decides about the next item (`Plain.Paused`).
-/
import ScriptPress.Proofs.Passes
import ScriptPress.Proofs.Termination

namespace ScriptPress

open Code

/-! ## The items before a place in a text -/

namespace Script

variable {text rest : List Nat} {items : List Item}

/-- The context that items make up. -/
def context (items : List Item) : Context := items.foldl Context.after {}

theorem context_concat (items : List Item) (item : Item) :
    context (items ++ [item]) = (context items).after item := by
  rw [context, List.foldl_append]
  rfl

/-- The first pass cuts `items` off a text and gets to `rest`. -/
inductive Reached (text : List Nat) : List Item → List Nat → Prop
  | start : Reached text [] text
  | item {items : List Item} {c : Nat} {rest after : List Nat} {item : Item}
      (before : Reached text items (c :: rest))
      (cut : first (context items) c rest = .ok (item, after)) :
    Reached text (items ++ [item]) after

theorem Reached.isPrefix (h : Reached text items rest) : items <+: (split {} text).1 := by
  have whole : (split {} text).1 = items ++ (split (context items) rest).1 := by
    induction h with
    | start => rfl
    | item before cut ih => rw [ih, split_of_ok cut, context_concat, List.append_cons]
  exact ⟨_, whole.symm⟩

/-- The characters of the items that are neither separators nor comments. -/
def significant (items : List Item) : List Nat := (tokens items).flatMap Token.text

theorem getLast?_significant (items : List Item) :
    (significant items).getLast? = (context items).edge := by
  rw [significant, Context.edge, context, token_foldl_after, Option.or_none]
  rcases List.eq_nil_or_concat (tokens items) with none | ⟨front, t, last⟩
  · rw [none]
    rfl
  · rw [last, List.concat_eq_append, List.flatMap_append, List.flatMap_singleton,
      List.getLast?_append, t.getLast?_text, List.getLast?_concat]
    rfl

end Script

/-! ## From step to step -/

namespace Plain

variable {text : List Nat} {items : List Item} {p p' : State Nat} {c : Symbol} {rest : List Nat}

theorem next_of_slash (h : Plain.next rest = .ok (some slash, text)) :
    rest = slash :: text ∧ opensComment rest = false := by
  cases opens : opensComment rest with
  | true => exact absurd (separator_of_comment opens h) (by decide)
  | false =>
    rw [next_of_not_opensComment opens] at h
    obtain ⟨head, tail⟩ := Prod.mk.inj (Except.ok.inj h)
    cases rest with
    | nil => cases head
    | cons c rest =>
      obtain rfl : c = slash := Option.some.inj head
      obtain rfl : rest = text := tail
      exact ⟨rfl, rfl⟩

/-- A run is in the stance after the items it has read. -/
structure Stands (text : List Nat) (items : List Item) (p : State Nat) : Prop where
  reached : Script.Reached text items p.rest
  stance : ∃ w, Stance (Script.context items) w p

/-- A run is about to read on and to look for a regular expression. -/
inductive Expects (text : List Nat) (p : State Nat) : Prop
  | item {items : List Item} (stands : Stands text items p)
      (stale : (Script.context items).fresh = false)
  | ended (held : p.held = none) (rest : p.rest = [])

/-- A run that stands after `items` has read `c`, which opens no regular expression. -/
structure Paused (text : List Nat) (items : List Item) (p : State Nat) (c : Symbol)
    (rest : List Nat) : Prop where
  stands : Stands text items p
  read : Plain.next p.rest = .ok (c, rest)
  division : c = some slash → (Script.context items).opensRegex = false

theorem Stands.concat (h : Stands text items p) {c : Nat} {rest : List Nat} {item : Item}
    {w : List Nat} (text_eq : p.rest = c :: rest)
    (cut : Script.first (Script.context items) c rest = .ok (item, p'.rest))
    (stance : Stance ((Script.context items).after item) w p') :
    Stands text (items ++ [item]) p' := by
  refine ⟨.item (text_eq ▸ h.reached) cut, w, ?_⟩
  rw [Script.context_concat]
  exact stance

theorem Stands.expects (h : Stands text items p) {c : Nat} {rest : List Nat} {item : Item}
    {w : List Nat} (text_eq : p.rest = c :: rest)
    (cut : Script.first (Script.context items) c rest = .ok (item, p'.rest))
    (stance : Stance ((Script.context items).after item) w p')
    (stale : ((Script.context items).after item).fresh = false) : Expects text p' :=
  .item (h.concat text_eq cut stance) (by rw [Script.context_concat]; exact stale)

/-- A regular expression copied is one more item. -/
theorem Stands.regex (h : Stands text items p) (text_eq : p.rest = slash :: rest)
    (plain : opensComment (slash :: rest) = false) (opens : (Script.context items).opensRegex)
    (copied : copyRegex (p.received (some slash) rest) = .ok () p') :
    ∃ body, Stands text (items ++ [.token (.regex body)]) p' := by
  obtain ⟨close, after, closed, rfl⟩ := copy_eq_ok copied
  have whole : (regexBody false rest).2 = .ok (slash, after) :=
    Script.closed_by (regexBody_of false rest) closed
  obtain rfl : close = slash := (Prod.mk.inj (Except.ok.inj (closed.symm.trans whole))).1
  refine ⟨(regexBody false rest).1, h.concat text_eq ?_
    (.pending rfl rfl rfl rfl (.inl rfl) fun sign : isSign slash => absurd sign (by decide))⟩
  rw [Script.first_of_regex plain opens, Script.literal, whole]

theorem start_expects (text : List Nat) : Expects text { held := some newline, rest := text } :=
  .item ⟨.start, [], .start rfl rfl rfl rfl rfl⟩ rfl

namespace Paused

/-- At the end of the text the end is held. -/
theorem settles_end (h : Paused text items p none [])
    (settled : settle (p.received none []).verdict (p.received none []).note = .ok () p') :
    Expects text p' := by
  obtain ⟨w, stance⟩ := h.stands.stance
  obtain ⟨written, lastWritten, ended, _⟩ := stance.ending
  cases ended.symm.trans settled
  exact .ended rfl rfl

/-- A character read as a separator adds to the gap. -/
theorem settles_gap {y c : Nat} {after : List Nat} {item : Item}
    (h : Paused text items p (some y) rest) (separates : isSeparator y)
    (text_eq : p.rest = c :: after)
    (cut : Script.first (Script.context items) c after = .ok (item, rest))
    (gap : (Script.context items).after item =
      { Script.context items with gap := (Script.context items).gap ++ [y] })
    (settled : settle (p.received (some y) rest).verdict (p.received (some y) rest).note =
      .ok () p') : Expects text p' := by
  obtain ⟨w, stance⟩ := h.stands.stance
  obtain ⟨held, written, lastWritten, moved, stance'⟩ := stance.separator separates rest
  cases moved.symm.trans settled
  rw [← gap] at stance'
  exact h.stands.expects text_eq cut stance' (by rw [gap]; exact Context.not_fresh (by simp))

/-- Whatever item comes next, taking it in leaves a run after it. -/
theorem settles (h : Paused text items p c rest)
    (settled : settle (p.received c rest).verdict (p.received c rest).note = .ok () p') :
    Expects text p' := by
  obtain ⟨w, stance⟩ := h.stands.stance
  have read := h.read
  cases text_eq : p.rest with
  | nil =>
    rw [text_eq] at read
    cases read
    exact h.settles_end settled
  | cons y after =>
    rw [text_eq] at read
    have plainly (plain : opensComment (y :: after) = false) : c = some y ∧ rest = after := by
      rw [next_of_not_opensComment plain] at read
      cases read
      exact ⟨rfl, rfl⟩
    cases cut : Script.first (Script.context items) y after with
    | error what =>
      -- Nothing unclosed can have been taken in.
      cases Script.first_eq_error cut with
      | comment _ failed =>
        rw [failed] at read
        cases read
      | quoted quote unclosed =>
        obtain ⟨rfl, rfl⟩ := plainly (next_of_quote quote after)
        obtain ⟨written, lastWritten, moved, _⟩ :=
          stance.token (not_isSeparator_of_isQuote quote)
            (fun isSlash => absurd isSlash (ne_slash_of_isQuote quote)) rest
        rw [moved, shift_of_quote (a := y) rfl quote] at settled
        obtain ⟨close, left, closed, _⟩ := copy_eq_ok settled
        cases unclosed.symm.trans closed
      | regex isSlash plain opens _ _ =>
        obtain ⟨rfl, rfl⟩ := plainly plain
        rw [h.division (congrArg some isSlash)] at opens
        cases opens
    | ok found =>
      obtain ⟨item, left⟩ := found
      cases Script.first_eq_ok cut with
      | separator separates =>
        obtain ⟨rfl, rfl⟩ := plainly (next_of_separator separates after)
        exact h.settles_gap separates text_eq cut rfl settled
      | @comment reads _ opens skipped =>
        cases skipped.symm.trans read
        cases c with
        | none =>
          obtain rfl := rest_of_next_none read
          exact h.settles_end settled
        | some y =>
          exact h.settles_gap (separator_of_comment opens read) text_eq cut rfl settled
      | quoted quote closed =>
        obtain ⟨rfl, rfl⟩ := plainly (next_of_quote quote after)
        obtain ⟨written, lastWritten, moved, stance'⟩ := stance.quoted quote closed
        cases moved.symm.trans settled
        exact h.stands.expects text_eq cut stance' rfl
      | regex isSlash plain opens _ =>
        obtain ⟨rfl, rfl⟩ := plainly plain
        rw [h.division (congrArg some isSlash)] at opens
        cases opens
      | character significant unquoted plain division =>
        obtain ⟨rfl, rfl⟩ := plainly plain
        obtain ⟨written, lastWritten, moved, stance'⟩ :=
          stance.character significant unquoted division rest
        cases moved.symm.trans settled
        exact h.stands.expects text_eq cut stance' rfl

end Paused

namespace Expects

/-- A slash read is the first character of what the items leave, and the automaton
takes it as the last token before it calls for. -/
theorem reads_slash (h : Expects text p) (read : Plain.next p.rest = .ok (some slash, rest)) :
    ∃ items, Script.Reached text items (slash :: rest) ∧
      (p.received (some slash) rest).window.opensRegex =
        (Script.context items).edge.any admitsRegex := by
  cases h with
  | @item items stands _ =>
    obtain ⟨w, stance⟩ := stands.stance
    exact ⟨items, (next_of_slash read).1 ▸ stands.reached, stance.opensRegex _ _⟩
  | ended _ empty =>
    rw [empty] at read
    cases read

/-- Reading on, past a regular expression if one starts here, leaves a run paused. -/
theorem arrives (h : Expects text p) (arrived : arrive p = .ok () p') (going : p'.held ≠ none) :
    ∃ items p₁ c rest, p' = p₁.received c rest ∧ Paused text items p₁ c rest := by
  obtain ⟨p₁, received, _⟩ := bind_eq_ok.mp arrived
  obtain ⟨c, rest, read, rfl⟩ := receive_eq_ok received
  rw [arrive_of_receive received] at arrived
  have next : (p.received c rest).window.next = c := by
    rw [State.window_eq]
    rfl
  rw [next] at arrived
  cases h with
  | ended held empty =>
    rw [empty] at read
    cases read
    cases arrived
    exact absurd held going
  | @item items stands stale =>
    obtain ⟨w, stance⟩ := stands.stance
    have answer : (p.received c rest).window.opensRegex = (Script.context items).opensRegex := by
      rw [stance.opensRegex, Context.opensRegex, stale, Bool.not_false, Bool.and_true]
    rw [answer] at arrived
    split at arrived
    next both =>
      rw [Bool.and_eq_true, decide_eq_true_eq] at both
      obtain ⟨rfl, opens⟩ := both
      obtain ⟨text_eq, plain⟩ := next_of_slash read
      obtain ⟨p₂, copied, received⟩ := bind_eq_ok.mp arrived
      obtain ⟨body, stands₂⟩ := stands.regex text_eq (text_eq ▸ plain) opens copied
      obtain ⟨c₂, rest₂, read₂, rfl⟩ := receive_eq_ok received
      -- A slash right after a regular expression is not looked at again.
      have division : (Script.context (items ++ [.token (.regex body)])).opensRegex = false := by
        rw [Script.context_concat]
        exact Bool.and_false _
      exact ⟨_, p₂, c₂, rest₂, rfl, stands₂, read₂, fun _ => division⟩
    next other =>
      cases arrived
      refine ⟨items, p, c, rest, rfl, stands, read, fun isSlash => ?_⟩
      simpa [isSlash] using other

end Expects

end Plain

/-! ## The test -/

namespace Automaton

/-- A run on `text` mirrors a plain one that is about to read on once `v` is followed. -/
def Follows (text : List Nat) (v : Verdict) (m : Automaton) : Prop :=
  ∃ p : Plain.State Nat, Mirrors text.length m p ∧ (v = .keep → p.held ≠ none) ∧
    ∀ p', Plain.settle v p = .ok () p' → Plain.Expects text p'

variable {text : List Nat} {v v' : Verdict} {m m₁ m' : Automaton}

theorem Follows.settles (h : Follows text v m) (settled : settle v m = .ok () m₁) :
    ∃ p, Mirrors text.length m₁ p ∧ Plain.Expects text p := by
  obtain ⟨p, mirrors, held, settles⟩ := h
  obtain ⟨p₁, settled, mirrors₁⟩ := (settled ▸ settle_agrees mirrors held).mirrors
  exact ⟨p₁, mirrors₁, settles p₁ settled⟩

theorem Follows.next (h : Follows text v m) (passed : stepPass v m = .ok (.again v') m') :
    Follows text v' m' := by
  obtain ⟨stepped, going, rfl⟩ := stepPass_eq_again passed
  obtain ⟨_, m₁, settled, arrived⟩ := Action.bind_eq_ok.mp stepped
  obtain ⟨p₁, mirrors₁, expects⟩ := h.settles settled
  obtain ⟨p₂, arrived, mirrors₂⟩ := (arrived ▸ arrive_agrees mirrors₁).mirrors
  obtain ⟨held, noted, verdict⟩ := note_mirrors mirrors₂ going
  obtain ⟨items, p₀, c, rest, rfl, paused⟩ := expects.arrives arrived held
  rw [← verdict]
  exact ⟨_, noted, fun _ => held, fun p' settled => paused.settles settled⟩

theorem Starts.follows (h : m.Starts newline text) : Follows text .defer m.primed := by
  refine ⟨_, h.mirrors, nofun, fun p' settled => ?_⟩
  cases settled
  exact Plain.start_expects text

theorem Follows.tests (h : Follows text v m) (tests : Tests v m m') :
    ∃ items rest, Script.Reached text items (slash :: rest) ∧
      m'.transfer.source.Reads text.length rest ∧
      m'.window.opensRegex = (Script.context items).edge.any admitsRegex := by
  obtain ⟨m₁, settled, received⟩ := tests.reached
  obtain ⟨p₁, mirrors₁, expects⟩ := h.settles settled
  obtain ⟨p₂, received, mirrors₂⟩ := (received ▸ receive_agrees mirrors₁).mirrors
  obtain ⟨c, rest, read, rfl⟩ := Plain.receive_eq_ok received
  obtain rfl : c = some slash := by
    have next := tests.slash
    rw [mirrors₂.window, Plain.State.window_eq] at next
    exact next
  obtain ⟨items, reached, answer⟩ := expects.reads_slash read
  refine ⟨items, rest, reached, ?_, mirrors₂.window ▸ answer⟩
  rw [← Script.map_code_nat rest]
  exact mirrors₂.source

/-- Whenever a run on a stream that meets no fault asks whether a slash opens a regular
expression, the answer is yes exactly if there is a significant character before the
slash and a regular expression may follow the last one.  What separators and comments
stand in between has no part in it. -/
theorem opensRegex_iff_last_significant {input : Stream.Input} (quiet : input.failingRead = 0)
    (step : (v, m) ∈ (between input {}).steps) (tests : Tests v m m') :
    ∃ items rest,
      Script.Reached (Script.characters (input.supply.served 65536)) items (slash :: rest) ∧
      items <+: (Script.split {} (Script.characters (input.supply.served 65536))).1 ∧
      m'.transfer.source.Reads (input.supply.served 65536).length rest ∧
      (m'.window.opensRegex = true ↔
        ∃ c, (Script.significant items).getLast? = some c ∧ admitsRegex c = true) := by
  have starts : (between input {}).Starts newline _ :=
    Script.between_starts quiet rfl (Script.map_code_nat _)
  obtain ⟨rounds, _⟩ := rounds_steps
    (show (between input {}).transfer.source.Sound from Source.sound_of_clear rfl)
  have follows := rounds.kept (fun _ _ _ _ => Follows.next) starts.follows v m step
  obtain ⟨items, rest, reached, reads, answer⟩ := follows.tests tests
  rw [Script.length_of_characters (Script.map_code_nat _)] at reads
  refine ⟨items, rest, reached, reached.isPrefix, reads, ?_⟩
  rw [answer, Script.getLast?_significant]
  exact Option.any_eq_true ..

theorem mem_stepsFrom_of_again {later : Verdict × Automaton}
    (passed : stepPass v m = .ok (.again v') m') (member : later ∈ stepsFrom v' m') :
    later ∈ stepsFrom v m := by
  rw [stepsFrom_of_again passed]
  exact List.mem_cons_of_mem _ member

/-- The slash at the start of the second line of `{`, `/a/` opens a regular expression. -/
theorem opensRegex_iff_last_significant_brace :
    ∃ v m m', (v, m) ∈ (between { supply := .bytes [123, 10, 47, 97, 47] } {}).steps ∧
      Tests v m m' ∧ m'.window.opensRegex = true ∧
      ∃ items rest, Script.Reached [123, 10, 47, 97, 47] items (slash :: rest) ∧
        ∃ c, (Script.significant items).getLast? = some c ∧ admitsRegex c = true := by
  obtain ⟨v, m, m', member, tests, opens⟩ :
      ∃ v m m', (v, m) ∈ (between { supply := .bytes [123, 10, 47, 97, 47] } {}).steps ∧
        Tests v m m' ∧ m'.window.opensRegex = true := by
    exact ⟨_, _, _, mem_stepsFrom_of_again rfl
      (mem_stepsFrom_of_again rfl (List.mem_cons_self ..)), ⟨⟨_, rfl, rfl⟩, rfl⟩, rfl⟩
  obtain ⟨items, rest, reached, _, _, answer⟩ := opensRegex_iff_last_significant rfl member tests
  exact ⟨v, m, m', member, tests, opens, items, rest, reached, answer.mp opens⟩

end Automaton
end ScriptPress
