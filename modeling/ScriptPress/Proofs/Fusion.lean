/-
Words and signs never fuse.

A plain run can be made on characters that carry their place in the script, and
then what it writes says where every character comes from.  Two words that meet
in the output, or two signs, were neighbours in the script.  The invariant is
about the character held: a word is held only as long as it is the last character
read, and a sign longer only if a separator was read after it.  It has one form
before a character is read, `Steady`, and one form after, `Paired`, and a run that
is stopped keeps of it that nothing has fused, which is what `Ends` is for.
-/
import ScriptPress.Proofs.Course
import ScriptPress.Proofs.Stance

namespace ScriptPress

open Code Coded

/-! ## What a verdict says of the pair -/

namespace Verdict

variable {x : Nat} {next : Symbol}

theorem next_ne_space_of_keep (separates : isSeparator x) (h : of (some x) next = keep) :
    next ≠ some space := by
  rintro rfl
  rcases isSeparator_iff.mp separates with rfl | rfl <;> exact absurd h (by decide)

theorem isWord_of_keep (significant : isSeparator x = false)
    (h : of (some x) (some space) = keep) : isWord x := by
  rw [of_significant significant] at h
  cases word : isWord x with
  | true => rfl
  | false => simp [afterOther, word] at h

/-- Only a separator is dropped, and not before a word; nor a line end before a
sign or a space. -/
theorem held_of_elide (h : of (some x) next = elide) :
    next.any isWord = false ∧
      (x = space ∨ x = newline ∧ next.any keepsLineBefore = false ∧ next ≠ some space) := by
  by_cases separates : isSeparator x
  · rcases isSeparator_iff.mp separates with rfl | rfl
    · rw [of_space, afterSpace] at h
      cases word : next.any isWord with
      | true => simp [word] at h
      | false => exact ⟨rfl, .inl rfl⟩
    · rw [of_newline, afterLine] at h
      split at h
      · cases h
      · split at h
        · cases h
        · split at h
          · cases h
          · simp_all
  · rw [of_significant (by simpa using separates), afterOther] at h
    split at h
    · split at h <;> cases h
    · split at h
      · split at h <;> cases h
      · cases h

/-- A word is not held back, and a sign only while a space is dropped. -/
theorem held_of_defer (h : of (some x) next = defer) :
    isWord x = false ∧ (isSign x → next = some space) := by
  by_cases separates : isSeparator x
  · refine ⟨not_isWord_of_isSeparator separates, fun sign => ?_⟩
    rw [not_isSeparator_of_isSign sign] at separates
    cases separates
  · rw [of_significant (by simpa using separates), afterOther] at h
    split at h
    next isSpace =>
      split at h
      · cases h
      next noWord => exact ⟨by simpa using noWord, fun _ => isSpace⟩
    · split at h
      · split at h
        · cases h
        next ends =>
          obtain ⟨noLine, noWord⟩ : keepsLineAfter x = false ∧ isWord x = false := by
            simpa using ends
          refine ⟨noWord, fun sign => ?_⟩
          rw [keepsLineAfter_of_isSign sign] at noLine
          cases noLine
      · cases h

end Verdict

/-! ## Logs -/

namespace Plain

variable {α : Type} [Coded α]

/-- Characters that would read as one if they met. -/
def Fusible (x y : Nat) : Prop := isWord x ∧ isWord y ∨ isSign x ∧ isSign y

theorem not_fusible_of_separator_left {x y : Nat} (h : isSeparator x) : ¬ Fusible x y := by
  rintro (⟨word, _⟩ | ⟨sign, _⟩)
  · rw [not_isWord_of_isSeparator h] at word
    cases word
  · rw [not_isSeparator_of_isSign sign] at h
    cases h

theorem not_fusible_of_separator_right {x y : Nat} (h : isSeparator y) : ¬ Fusible x y := by
  rintro (⟨_, word⟩ | ⟨_, sign⟩)
  · rw [not_isWord_of_isSeparator h] at word
    cases word
  · rw [not_isSeparator_of_isSign sign] at h
    cases h

/-- Two entries next to each other that were written outside literals and would
fuse. -/
def Fuses (e f : Entry α) : Prop :=
  e.inLiteral = false ∧ f.inLiteral = false ∧ Fusible (code e.char) (code f.char)

variable (near : α → α → Prop)

/-- Where entries fuse in a log, the characters they come from are near. -/
def Unfused (log : List (Entry α)) : Prop :=
  ∀ i e f, log[i]? = some e → log[i + 1]? = some f → Fuses e f → near e.char f.char

variable {near} {log : List (Entry α)}

theorem Unfused.nil : Unfused near ([] : List (Entry α)) := by
  intro i e f he
  simp at he

theorem Unfused.concat (h : Unfused near log) {f : Entry α}
    (meets : ∀ e ∈ log.getLast?, Fuses e f → near e.char f.char) : Unfused near (log ++ [f]) := by
  intro i d e hd he fuses
  by_cases inside : i + 1 < log.length
  · rw [List.getElem?_append_left inside] at he
    rw [List.getElem?_append_left (by omega)] at hd
    exact h i d e hd he fuses
  · have bound : i + 1 < (log ++ [f]).length := (List.getElem?_eq_some_iff.mp he).1
    have last : i + 1 = log.length := by
      simp at bound
      omega
    rw [last, List.getElem?_concat_length] at he
    obtain rfl : f = e := Option.some.inj he
    refine meets d ?_ fuses
    rw [List.getElem?_append_left (by omega)] at hd
    rw [List.getLast?_eq_getElem?, ← last]
    exact hd

theorem Unfused.literal (h : Unfused near log) (copied : List α) :
    Unfused near (log ++ copied.map (Entry.mk · true)) := by
  induction copied generalizing log with
  | nil => simpa using h
  | cons a copied ih =>
    have := ih (h.concat (f := ⟨a, true⟩) fun e _ fuses => by cases fuses.2.1)
    simpa using this

theorem Unfused.separator (h : Unfused near log) {a : α} (separates : isSeparator (code a)) :
    Unfused near (log ++ [⟨a, false⟩]) :=
  h.concat fun _ _ fuses => absurd fuses.2.2 (not_fusible_of_separator_right separates)

/-! ## The invariant -/

variable (near) (text : List α)

/-- What holds all the time: nothing has fused, and what is held may be written. -/
structure Sound (p : State α) : Prop where
  unfused : Unfused near p.written
  rest : p.rest <:+ text
  meets : ∀ e ∈ p.written.getLast?, ∀ a ∈ p.held, Fuses e ⟨a, false⟩ → near e.char a
  space : ∀ a ∈ p.held, code a = space → ∃ e ∈ p.written.getLast?, isWord (code e.char)

/-- What holds before a character is read. -/
structure Steady (p : State α) : Prop extends Sound near text p where
  word : ∀ a ∈ p.held, isWord (code a) → a :: p.rest <:+ text
  sign : ∀ a ∈ p.held, isSign (code a) →
    a :: p.rest <:+ text ∨ (p.last.map code).any isSeparator

/-- What holds when the pair to be decided about is complete. -/
structure Paired (p : State α) : Prop extends Sound near text p where
  last : p.last = p.next
  read : ∀ b ∈ p.next, isWord (code b) ∨ isSign (code b) → b :: p.rest <:+ text
  words : ∀ a ∈ p.held, ∀ b ∈ p.next, isWord (code a) → isWord (code b) → near a b
  signs : ∀ a ∈ p.held, ∀ b ∈ p.next, isSign (code a) → isSign (code b) →
    near a b ∨ (p.beforeLast.map code).any isSeparator

variable {near text} {p : State α}

/-- Copying a literal leaves its closing character held, which fuses with
nothing. -/
theorem copy_ends {cut : Cut α} {close : Nat} (unfused : Unfused near p.written)
    (whole : cut.Of close p.rest) (rest : p.rest <:+ text) (noWord : isWord close = false)
    (noSign : isSign close = false) (notSpace : close ≠ space) :
    Ends (Unfused near) (Steady near text) (copy cut p) := by
  have unfused := unfused.literal cut.1
  unfold copy
  cases ending : cut.2 with
  | error what => exact unfused
  | ok closing =>
    obtain ⟨a, after⟩ := closing
    have closes : code a = close := by
      unfold Cut.Of at whole
      rw [ending] at whole
      exact whole.2
    have held : ∀ b ∈ some a, code b = close := by
      intro b hb
      obtain rfl : a = b := Option.some.inj hb
      exact closes
    refine ⟨⟨unfused, (whole.suffix ending).trans rest, ?_, ?_⟩, ?_, ?_⟩
    · rintro e - b hb ⟨_, _, ⟨_, word⟩ | ⟨_, sign⟩⟩
      · rw [held b hb, noWord] at word
        cases word
      · rw [held b hb, noSign] at sign
        cases sign
    · exact fun b hb isSpace => absurd ((held b hb).symm.trans isSpace) notSpace
    · intro b hb word
      rw [held b hb, noWord] at word
      cases word
    · intro b hb sign
      rw [held b hb, noSign] at sign
      cases sign

theorem shift_ends (unfused : Unfused near p.written) (rest : p.rest <:+ text)
    (read : ∀ b ∈ p.next, isWord (code b) ∨ isSign (code b) → b :: p.rest <:+ text)
    (meets : ∀ e ∈ p.written.getLast?, ∀ b ∈ p.next, Fuses e ⟨b, false⟩ → near e.char b)
    (space : ∀ b ∈ p.next, code b = space → ∃ e ∈ p.written.getLast?, isWord (code e.char)) :
    Ends (Unfused near) (Steady near text) (shift p) := by
  cases next : p.next with
  | none =>
    rw [shift_of_none next]
    exact ⟨⟨unfused, rest, nofun, nofun⟩, nofun, nofun⟩
  | some b =>
    cases quote : isQuote (code b) with
    | true =>
      rw [shift_of_quote next quote]
      have noWord : isWord (code b) = false := by
        rcases isQuote_iff.mp quote with same | same | same <;> rw [same] <;> rfl
      have noSign : isSign (code b) = false := by
        rcases isQuote_iff.mp quote with same | same | same <;> rw [same] <;> rfl
      have notSpace : code b ≠ Code.space :=
        (not_isSeparator_iff.mp (not_isSeparator_of_isQuote quote)).1
      exact copy_ends (unfused.literal [b]) (enclosed_of .quoted (code b) p.rest) rest noWord
        noSign notSpace
    | false =>
      rw [shift_of_other next quote]
      rw [next] at read meets space
      exact ⟨⟨unfused, rest, meets, space⟩, fun a ha word => read a ha (.inl word),
        fun a ha sign => .inl (read a ha (.inr sign))⟩

theorem Sound.emit (h : Sound near text p) : Unfused near (p.emit p.held).written := by
  cases held : p.held with
  | none =>
    simpa [State.emit, State.put] using h.unfused
  | some a =>
    cases separates : isSeparator (code a) with
    | false =>
      rw [State.emit_of_significant separates]
      exact h.unfused.concat fun e he => h.meets e he a held
    | true =>
      by_cases unwritten : p.written = []
      · rw [State.emit_of_leading separates unwritten]
        exact h.unfused
      · rw [State.emit_of_separator separates unwritten]
        exact h.unfused.separator separates

/-- After what is held has been written, the next character may be. -/
theorem Paired.keepHeld (h : Paired near text p) {a : α} (held : p.held = some a)
    (keep : p.verdict = .keep) :
    Unfused near p.keepHeld.written ∧
      (∀ e ∈ p.keepHeld.written.getLast?, ∀ b ∈ p.next, Fuses e ⟨b, false⟩ → near e.char b) ∧
      ∀ b ∈ p.next, code b = Code.space →
        ∃ e ∈ p.keepHeld.written.getLast?, isWord (code e.char) := by
  have keep : Verdict.of (some (code a)) (p.next.map code) = .keep := by
    simpa [State.verdict, State.window, held] using keep
  cases separates : isSeparator (code a) with
  | true =>
    have notSpace : ∀ b ∈ p.next, code b ≠ Code.space := by
      intro b hb isSpace
      refine Verdict.next_ne_space_of_keep separates keep ?_
      rw [show p.next = some b from hb, Option.map_some, isSpace]
    by_cases unwritten : p.written = []
    · rw [State.keepHeld_of_leading held separates unwritten]
      exact ⟨h.unfused, by simp [unwritten], fun b hb isSpace => absurd isSpace (notSpace b hb)⟩
    · rw [State.keepHeld_of_started held separates unwritten]
      refine ⟨h.unfused.separator separates, fun e he b _ fuses => ?_,
        fun b hb isSpace => absurd isSpace (notSpace b hb)⟩
      obtain rfl : ⟨a, false⟩ = e := by simpa [State.put] using he
      exact absurd fuses.2.2 (not_fusible_of_separator_left separates)
  | false =>
    have wrote : Unfused near (p.written ++ [⟨a, false⟩]) :=
      h.unfused.concat fun e he => h.meets e he a held
    cases fuses : p.window.fusesSigns with
    | true =>
      obtain ⟨⟨_, signNext⟩, separator⟩ : ((some (code a)).any isSign = true ∧
          (p.next.map code).any isSign = true) ∧ (p.beforeLast.map code).any isSeparator = true := by
        simpa [Window.fusesSigns, State.window, held] using fuses
      obtain ⟨c, before⟩ : ∃ c, p.beforeLast = some c := by
        cases before : p.beforeLast with
        | none => simp [before] at separator
        | some c => exact ⟨c, rfl⟩
      have separator : isSeparator (code c) := by simpa [before] using separator
      have log : p.keepHeld.written = p.written ++ [⟨a, false⟩] ++ [⟨c, false⟩] := by
        rw [State.keepHeld, fuses, if_pos rfl, held, before, State.emit_of_significant separates]
        rfl
      rw [log]
      refine ⟨wrote.separator separator, fun e he b _ fuses => ?_, fun b hb isSpace => ?_⟩
      · obtain rfl : ⟨c, false⟩ = e := by simpa using he
        exact absurd fuses.2.2 (not_fusible_of_separator_left separator)
      · rw [show p.next = some b from hb, Option.map_some, isSpace] at signNext
        exact absurd signNext (by decide)
    | false =>
      rw [State.keepHeld_of_significant held separates fuses]
      refine ⟨wrote, fun e he b hb joined => ?_, fun b hb isSpace => ?_⟩
      · obtain rfl : ⟨a, false⟩ = e := by simpa [State.put] using he
        rcases joined.2.2 with ⟨wordA, wordB⟩ | ⟨signA, signB⟩
        · exact h.words a held b hb wordA wordB
        · rcases h.signs a held b hb signA signB with joined | separator
          · exact joined
          · -- the separator would have been written again
            simp [Window.fusesSigns, State.window, held, show p.next = some b from hb, signA, signB,
              separator] at fuses
      · rw [show p.next = some b from hb, Option.map_some, isSpace] at keep
        exact ⟨⟨a, false⟩, by simp [State.put], Verdict.isWord_of_keep separates keep⟩

/-- Deciding about the pair takes a run back to the point before a character is
read. -/
theorem Paired.settle (h : Paired near text p) (going : p.held ≠ none) :
    Ends (Unfused near) (Steady near text) (settle p.verdict p) := by
  obtain ⟨a, held⟩ := Option.ne_none_iff_exists'.mp going
  have verdict : p.verdict = Verdict.of (some (code a)) (p.next.map code) := by
    simp [State.verdict, State.window, held]
  cases decided : p.verdict with
  | keep =>
    obtain ⟨unfused, meets, space⟩ := h.keepHeld held decided
    refine shift_ends unfused ?_ ?_ ?_ ?_
    · rw [rest_keepHeld]; exact h.rest
    · rw [rest_keepHeld, next_keepHeld]; exact h.read
    · rw [next_keepHeld]; exact meets
    · rw [next_keepHeld]; exact space
  | elide =>
    obtain ⟨noWord, dropped⟩ := Verdict.held_of_elide (verdict.symm.trans decided)
    refine shift_ends h.unfused h.rest h.read ?_ ?_
    · rintro e he b hb ⟨_, _, ⟨_, word⟩ | ⟨signE, signB⟩⟩
      · rw [show p.next = some b from hb] at noWord
        exact absurd word (by simpa using noWord)
      · -- before a sign a line end is kept, and a space is held only after a word
        rcases dropped with isSpace | ⟨_, notBefore, _⟩
        · obtain ⟨e', he', word⟩ := h.space a held isSpace
          obtain rfl : e = e' := Option.some.inj (he.symm.trans he')
          rw [not_isSign_of_isWord word] at signE
          cases signE
        · rw [show p.next = some b from hb] at notBefore
          exact absurd (keepsLineBefore_of_isSign signB) (by simpa using notBefore)
    · intro b hb nextSpace
      rcases dropped with isSpace | ⟨_, _, notSpace⟩
      · exact h.space a held isSpace
      · rw [show p.next = some b from hb, Option.map_some, nextSpace] at notSpace
        exact absurd rfl notSpace
  | defer =>
    obtain ⟨noWord, spaceNext⟩ := Verdict.held_of_defer (verdict.symm.trans decided)
    refine ⟨h.toSound, fun a' ha' word => ?_, fun a' ha' sign => .inr ?_⟩
    · obtain rfl : a = a' := Option.some.inj (held.symm.trans ha')
      rw [noWord] at word
      cases word
    · obtain rfl : a = a' := Option.some.inj (held.symm.trans ha')
      rw [h.last, spaceNext sign]
      rfl

/-- Reading a character completes the pair.  A word or a sign is read only where
no comment starts, and then it is the first character left. -/
theorem Steady.receive (consecutive : ∀ a b rest, a :: b :: rest <:+ text → near a b)
    (h : Steady near text p) : Ends (Unfused near) (Paired near text) (receive p) := by
  cases read : Plain.next p.rest with
  | error what =>
    rw [receive_of_error read]
    exact h.unfused
  | ok cut =>
    obtain ⟨c, rest⟩ := cut
    rw [receive_of_next read]
    have first : ∀ b ∈ c, isWord (code b) ∨ isSign (code b) → p.rest = b :: rest := by
      intro b hb fusible
      obtain rfl : c = some b := hb
      cases comment : opensComment p.rest with
      | true =>
        have separates := separator_of_comment comment read
        rcases fusible with word | sign
        · rw [not_isWord_of_isSeparator separates] at word
          cases word
        · rw [not_isSign_of_isSeparator separates] at sign
          cases sign
      | false =>
        rw [next_of_not_opensComment comment] at read
        obtain ⟨head, tail⟩ := Prod.mk.inj (Except.ok.inj read)
        obtain ⟨after, same⟩ := List.head?_eq_some_iff.mp head
        rw [same] at tail ⊢
        rw [← tail]
        rfl
    refine ⟨⟨h.unfused, (suffix_next read).trans h.rest, h.meets, h.space⟩, rfl, ?_, ?_, ?_⟩
    · intro b hb fusible
      rw [show (p.received c rest).rest = rest from rfl, ← first b hb fusible]
      exact h.rest
    · intro a ha b hb wordA wordB
      have tight := h.word a ha wordA
      rw [first b hb (.inl wordB)] at tight
      exact consecutive a b rest tight
    · intro a ha b hb signA signB
      rcases h.sign a ha signA with tight | separator
      · rw [first b hb (.inr signB)] at tight
        exact .inl (consecutive a b rest tight)
      · exact .inr separator

theorem Paired.copyRegex (h : Paired near text p) :
    Ends (Unfused near) (Steady near text) (copyRegex p) := by
  have emitted : Unfused near (p.emit p.held).written := h.emit
  have apart : Unfused near (p.emit p.held).setApart.written := by
    unfold State.setApart
    split
    · exact emitted.separator (by rw [code_blank]; decide)
    · exact emitted
  have opened : Unfused near ((p.emit p.held).setApart.put true p.next).written :=
    apart.literal p.next.toList
  have rest : ((p.emit p.held).setApart.put true p.next).rest = p.rest := by
    show (p.emit p.held).setApart.rest = p.rest
    rw [rest_setApart, rest_emit]
  have whole : (regexBody false p.rest).Of slash
      ((p.emit p.held).setApart.put true p.next).rest := by
    rw [rest]
    exact regexBody_of false p.rest
  exact copy_ends opened whole (rest ▸ h.rest) (by decide) (by decide) (by decide)

/-- Nothing fuses in a whole run that starts with a line end. -/
theorem unfused_run (consecutive : ∀ a b rest, a :: b :: rest <:+ text → near a b) {start : α}
    (line : code start = newline) : Unfused near (Ending.state (run start text)).written := by
  have held : ∀ a ∈ some start, code a = newline := by
    intro a ha
    obtain rfl : start = a := Option.some.inj ha
    exact line
  have steady : Steady near text { held := some start, rest := text } := by
    refine ⟨⟨Unfused.nil, List.suffix_rfl, nofun, ?_⟩, ?_, ?_⟩
    · intro a ha isSpace
      rw [held a ha] at isSpace
      exact absurd isSpace (by decide)
    · intro a ha word
      rw [held a ha] at word
      exact absurd word (by decide)
    · intro a ha sign
      rw [held a ha] at sign
      exact absurd sign (by decide)
  have noted (p : State α) (paired : Paired near text p) : Paired near text p.note :=
    { paired with }
  have ended : Ends (Unfused near) (fun p => Paired near text p ∧ p.held = none) (run start text) :=
    Ends.proceed (fun _ steady => steady.receive consecutive) (fun _ paired _ => paired.copyRegex)
      (fun p paired => (noted p paired).settle) steady
  exact ended.written fun _ left => left.1.unfused

end Plain

/-! ## Where the characters written come from -/

/-- A character with the place of the byte it was read from.  What a block comment
reads as comes from no byte. -/
structure Mark where
  code : Nat
  origin : Option Nat
  deriving DecidableEq, Repr

instance : Coded Mark := ⟨Mark.code, ⟨space, none⟩, rfl⟩

namespace Mark

/-- Two characters read from bytes next to each other. -/
def Consecutive (a b : Mark) : Prop := ∃ k, a.origin = some k ∧ b.origin = some (k + 1)

end Mark

namespace Script

def marks (script : Bytes) : List Mark := (characters script).mapIdx fun i c => ⟨c, some i⟩

/-- What a run on a script writes, with the places the characters come from. -/
def log (script : Bytes) : List (Plain.Entry Mark) :=
  (Plain.Ending.state (Plain.run ⟨newline, none⟩ (marks script))).written

variable {script : Bytes}

theorem map_code_marks (script : Bytes) : (marks script).map code = characters script := by
  refine List.ext_getElem? fun k => ?_
  rw [marks, List.getElem?_map, List.getElem?_mapIdx]
  cases (characters script)[k]? <;> rfl

theorem getElem?_marks {k : Nat} {a : Mark} (h : (marks script)[k]? = some a) :
    a.origin = some k ∧ (characters script)[k]? = some a.code := by
  unfold marks at h
  rw [List.getElem?_mapIdx, Option.map_eq_some_iff] at h
  obtain ⟨c, read, rfl⟩ := h
  exact ⟨rfl, read⟩

theorem consecutive_marks (a b : Mark) (rest : List Mark) (h : a :: b :: rest <:+ marks script) :
    a.Consecutive b := by
  obtain ⟨front, whole⟩ := h
  have first : (marks script)[front.length]? = some a := by simp [← whole]
  have second : (marks script)[front.length + 1]? = some b := by simp [← whole]
  exact ⟨front.length, (getElem?_marks first).1, (getElem?_marks second).1⟩

/-- A mark tells the truth: the byte at its place counts as its character. -/
def Truthful (script : Bytes) (a : Mark) : Prop :=
  ∀ k ∈ a.origin, (characters script)[k]? = some a.code

theorem truthful_log (script : Bytes) : ∀ e ∈ log script, Truthful script e.char := by
  have all : (Plain.Ending.state (Plain.run ⟨newline, none⟩ (marks script))).All
      (Truthful script) := by
    refine Plain.State.All.run nofun nofun fun a ha k hk => ?_
    obtain ⟨i, read⟩ := List.mem_iff_getElem?.mp ha
    obtain ⟨origin, known⟩ := getElem?_marks read
    obtain rfl : i = k := Option.some.inj (origin.symm.trans hk)
    exact known
  exact all.written

/-- A word or a sign is a byte as it stands in the script. -/
theorem raw_of_truthful {a : Mark} {k : Nat} (h : Truthful script a) (origin : a.origin = some k)
    (fusible : isWord a.code ∨ isSign a.code) : script[k]? = some a.code.toUInt8 := by
  have known := h k origin
  unfold characters at known
  rw [List.getElem?_map, Option.map_eq_some_iff] at known
  obtain ⟨byte, read, counts⟩ := known
  have raw : byte.toNat = a.code := by
    unfold effective at counts
    split at counts
    · exact counts
    · have separates : isSeparator a.code := by
        rw [← counts]
        split <;> decide
      rcases fusible with word | sign
      · rw [not_isWord_of_isSeparator separates] at word
        cases word
      · rw [not_isSign_of_isSeparator separates] at sign
        cases sign
  rw [read, ← raw]
  simp

/-- The log spells the bytes that a run writes, however it ends. -/
theorem stored_eq_log (script : Bytes) :
    ∃ t : Transfer, t.sink.output.stored.toList = (log script).map (·.char.code.toUInt8) ∧
      ((∃ tally, minifyStream { supply := .bytes script } {} = .ok tally t) ∨
        ∃ what, minifyStream { supply := .bytes script } {} =
          .error (.unterminated what script.length) t) := by
  have agrees := @minifyStream_agrees Mark _ script ⟨newline, none⟩ _ rfl (map_code_marks script)
  have spelled : ∀ p : Plain.State Mark,
      Plain.bytes p.text = p.written.map (·.char.code.toUInt8) := fun p => List.map_map
  unfold log
  generalize Plain.run ⟨newline, none⟩ (marks script) = ending at agrees
  cases ending with
  | ok _ p =>
    obtain ⟨tally, t, streamed, stored⟩ := agrees
    exact ⟨t, stored.trans (spelled p), .inl ⟨tally, streamed⟩⟩
  | error what p =>
    obtain ⟨t, streamed, stored⟩ := agrees
    exact ⟨t, stored.trans (spelled p), .inr ⟨what, streamed⟩⟩

/-- The log of a run spells the bytes that are written, whether the run succeeds
or stops at something that is not closed.  Two bytes next to each other that were
written outside literals, and are both of words or both signs, were read from
bytes next to each other. -/
theorem written_unfused (script : Bytes) :
    (∃ t : Transfer, t.sink.output.stored.toList = (log script).map (·.char.code.toUInt8) ∧
      ((∃ tally, minifyStream { supply := .bytes script } {} = .ok tally t) ∨
        ∃ what, minifyStream { supply := .bytes script } {} =
          .error (.unterminated what script.length) t)) ∧
    ∀ i e f, (log script)[i]? = some e → (log script)[i + 1]? = some f → Plain.Fuses e f →
      ∃ k, e.char.origin = some k ∧ f.char.origin = some (k + 1) ∧
        script[k]? = some e.char.code.toUInt8 ∧ script[k + 1]? = some f.char.code.toUInt8 := by
  refine ⟨stored_eq_log script, fun i e f he hf fuses => ?_⟩
  have unfused : Plain.Unfused Mark.Consecutive (log script) :=
    Plain.unfused_run consecutive_marks rfl
  obtain ⟨k, originE, originF⟩ := unfused i e f he hf fuses
  obtain ⟨fusibleE, fusibleF⟩ : (isWord e.char.code ∨ isSign e.char.code) ∧
      (isWord f.char.code ∨ isSign f.char.code) := by
    rcases fuses.2.2 with ⟨wordE, wordF⟩ | ⟨signE, signF⟩
    · exact ⟨.inl wordE, .inl wordF⟩
    · exact ⟨.inr signE, .inr signF⟩
  exact ⟨k, originE, originF,
    raw_of_truthful (truthful_log script e (List.mem_of_getElem? he)) originE fusibleE,
    raw_of_truthful (truthful_log script f (List.mem_of_getElem? hf)) originF fusibleF⟩

/-- The script `a + +/**/bc` gives `a+ +bc`, where `bc` was there before. -/
theorem written_unfused_word :
    (log [97, 32, 43, 32, 43, 47, 42, 42, 47, 98, 99])[4]? = some ⟨⟨98, some 9⟩, false⟩ ∧
      (log [97, 32, 43, 32, 43, 47, 42, 42, 47, 98, 99])[5]? = some ⟨⟨99, some 10⟩, false⟩ ∧
      ∃ k, some 9 = some k ∧ some 10 = some (k + 1) ∧
        ([97, 32, 43, 32, 43, 47, 42, 42, 47, 98, 99] : Bytes)[k]? = some 98 ∧
        ([97, 32, 43, 32, 43, 47, 42, 42, 47, 98, 99] : Bytes)[k + 1]? = some 99 :=
  have first : (log [97, 32, 43, 32, 43, 47, 42, 42, 47, 98, 99])[4]? =
      some ⟨⟨98, some 9⟩, false⟩ := by decide +kernel
  have second : (log [97, 32, 43, 32, 43, 47, 42, 42, 47, 98, 99])[5]? =
      some ⟨⟨99, some 10⟩, false⟩ := by decide +kernel
  ⟨first, second, (written_unfused [97, 32, 43, 32, 43, 47, 42, 42, 47, 98, 99]).2 4 _ _ first
    second ⟨rfl, rfl, .inl ⟨rfl, rfl⟩⟩⟩

end Script
end ScriptPress
