/-
Comments and literals read from a stream are those cut from a list.

Each loop of `Comment` and `Literal` fetches until it has found an end.  Where
the source has `text` left to read, the loop ends as the recursion of the same
name in `Plain` does on `text`, with what that leaves over still to be read.  A
loop that meets the end of the input halts at the position of the script's end.
-/
import ScriptPress.Comment
import ScriptPress.Literal
import ScriptPress.Proofs.Plain.Scan
import ScriptPress.Proofs.Streams

namespace ScriptPress

open Code Coded

variable {α : Type} [Coded α] {s : Source} {total : Nat}

theorem Source.Reads.position_of_nil (h : s.Reads total []) : s.position = total := by
  have nothing : s.unread = [] := (List.append_eq_nil_iff.mp h.text_eq).2
  have := h.position_eq
  rw [nothing] at this
  exact this

/-! ## Comments -/

namespace Comment

theorem skipLine_of_none {s' : Source} (h : s.fetch = .ok none s') :
    skipLine s = .ok none s' := by
  rw [skipLine]
  split <;> simp_all

theorem skipLine_of_some {s' : Source} {c : Nat} (h : s.fetch = .ok (some c) s') :
    skipLine s = if c = newline then .ok (some c) s' else skipLine s' := by
  rw [skipLine]
  split <;> simp_all

theorem skipBlock_of_none {s' : Source} (h : s.fetch = .ok none s') :
    skipBlock s = .error (.unterminated .comment s'.position) s' := by
  rw [skipBlock]
  split <;> simp_all

theorem skipBlock_of_some {s' s'' : Source} {c : Nat} {p : Symbol}
    (h : s.fetch = .ok (some c) s') (h' : s'.peek = .ok p s'') :
    skipBlock s =
      if c = star then
        if p = some slash then
          match s''.fetch with
          | .error e s => .error e s
          | .ok _ s => .ok (some space) s
        else skipBlock s''
      else skipBlock s' := by
  rw [skipBlock]
  split
  · simp_all
  · simp_all
  next c₁ s₁ hf =>
    rw [h] at hf
    cases hf
    by_cases hs : c = star
    · rw [if_pos hs, if_pos hs]
      split
      next hp => rw [h'] at hp; cases hp
      next hp => rw [h'] at hp; cases hp; rfl
    · rw [if_neg hs, if_neg hs]

theorem skipLine_reads {text : List α} (h : s.Reads total (text.map code)) :
    ∃ s', skipLine s = .ok ((Plain.skipLine text).1.map code) s' ∧
      s'.Reads total ((Plain.skipLine text).2.map code) := by
  induction text generalizing s with
  | nil =>
    obtain ⟨s', fetched, reads⟩ := h.fetch
    exact ⟨s', skipLine_of_none fetched, reads⟩
  | cons a rest ih =>
    obtain ⟨s', fetched, reads⟩ := h.fetch
    rw [skipLine_of_some fetched, Plain.skipLine]
    by_cases ends : code a = newline
    · rw [if_pos ends, if_pos ends]
      exact ⟨s', rfl, reads⟩
    · rw [if_neg ends, if_neg ends]
      exact ih reads

theorem skipBlock_reads {text : List α} (h : s.Reads total (text.map code)) :
    match Plain.skipBlock text with
    | none => ∃ s', skipBlock s = .error (.unterminated .comment total) s' ∧ s'.Reads total []
    | some rest => ∃ s', skipBlock s = .ok (some space) s' ∧ s'.Reads total (rest.map code) := by
  have atEnd {s : Source} (h : s.Reads total []) :
      ∃ s', skipBlock s = .error (.unterminated .comment total) s' ∧ s'.Reads total [] := by
    obtain ⟨s', fetched, reads⟩ := h.fetch
    refine ⟨s', ?_, reads⟩
    rw [skipBlock_of_none fetched, reads.position_of_nil]
  induction text generalizing s with
  | nil => exact atEnd h
  | cons a rest ih =>
    obtain ⟨s₁, fetched, reads⟩ := h.fetch
    obtain ⟨s₂, peeked, reads₂⟩ := reads.peek
    have unfolded := skipBlock_of_some fetched peeked
    cases rest with
    | nil =>
      obtain ⟨s₃, halted, reads₃⟩ : ∃ s', skipBlock s = .error (.unterminated .comment total) s' ∧
          s'.Reads total [] := by
        by_cases hs : code a = star
        · rw [unfolded, if_pos hs, if_neg (by simp)]
          exact atEnd reads₂
        · rw [unfolded, if_neg hs]
          exact atEnd reads
      exact ⟨s₃, halted, reads₃⟩
    | cons b after =>
      simp only [List.map_cons, List.head?_cons, List.tail_cons, Option.some.injEq] at unfolded
      by_cases hs : code a = star
      · by_cases hb : code b = slash
        · obtain ⟨s₃, fetched₃, reads₃⟩ := reads₂.fetch
          rw [Plain.skipBlock, if_pos ⟨hs, hb⟩]
          refine ⟨s₃, ?_, reads₃⟩
          rw [unfolded, if_pos hs, if_pos hb, fetched₃]
        · rw [Plain.skipBlock, if_neg (by simp [hb]), unfolded, if_pos hs, if_neg hb]
          exact ih reads₂
      · rw [Plain.skipBlock, if_neg (by simp [hs]), unfolded, if_neg hs]
        exact ih reads

/-- Reading a character from a stream is reading it from the text left. -/
theorem next_reads {text : List α} (h : s.Reads total (text.map code)) :
    match Plain.next text with
    | .error what => ∃ s', next s = .error (.unterminated what total) s' ∧ s'.Reads total []
    | .ok (c, rest) => ∃ s', next s = .ok (c.map code) s' ∧ s'.Reads total (rest.map code) := by
  obtain ⟨s₁, fetched, reads⟩ := h.fetch
  obtain ⟨s₂, peeked, reads₂⟩ := reads.peek
  match text with
  | [] => exact ⟨s₁, by simp [next, fetched], reads⟩
  | [a] =>
    by_cases hs : code a = slash
    · exact ⟨s₂, by simp_all [next], reads₂⟩
    · exact ⟨s₁, by simp_all [next], reads⟩
  | a :: b :: rest =>
    simp only [List.map_cons, List.head?_cons, List.tail_cons] at fetched peeked reads reads₂
    obtain ⟨s₃, fetched₃, reads₃⟩ := reads₂.fetch
    have unfolded : next s =
        if code a = slash then
          if code b = slash then skipLine s₂
          else if code b = Code.star then skipBlock s₃
          else .ok (some (code a)) s₂
        else .ok (some (code a)) s₁ := by
      simp only [next, fetched, peeked, fetched₃, Option.some.injEq]
    rw [unfolded, Plain.next]
    by_cases hs : code a = slash
    · by_cases line : code b = slash
      · have started : ¬ code b = newline := by rw [line]; decide
        rw [if_pos ⟨hs, line⟩, if_pos hs, if_pos line]
        have reads₂ : s₂.Reads total ((b :: rest).map code) := reads₂
        obtain ⟨s₃, skipped, reads₃⟩ := skipLine_reads reads₂
        rw [Plain.skipLine, if_neg started] at skipped reads₃
        exact ⟨s₃, skipped, reads₃⟩
      · rw [if_neg (by simp [line]), if_pos hs, if_neg line]
        by_cases block : code b = Code.star
        · rw [if_pos ⟨hs, block⟩, if_pos block]
          have := skipBlock_reads reads₃
          cases skipped : Plain.skipBlock rest with
          | none => rwa [skipped] at this
          | some after =>
            rw [skipped] at this
            obtain ⟨s₄, ended, reads₄⟩ := this
            refine ⟨s₄, ?_, reads₄⟩
            rw [ended, Option.map_some, code_blank]
        · rw [if_neg (by simp [block]), if_neg block]
          exact ⟨s₂, rfl, reads₂⟩
    · rw [if_neg (by simp [hs]), if_neg (by simp [hs]), if_neg hs]
      exact ⟨s₁, rfl, reads⟩

end Comment

/-! ## Literals -/

/-- The bytes characters are written as. -/
def Plain.bytes (text : List α) : Bytes := text.map fun a => (code a).toUInt8

theorem Plain.bytes_append (front text : List α) :
    bytes (front ++ text) = bytes front ++ bytes text := List.map_append

namespace Literal

open Transfer

/-- A copy ended as the cut says: its characters are written after `bytes`, and
either the closing character is returned, with what follows it left to be read,
or the copy halted at the end of the script. -/
def Copies (total : Nat) (bytes : Bytes) (cut : Plain.Cut α) (outcome : Outcome Transfer Symbol) :
    Prop :=
  ∃ t, t.sink.Holds (bytes ++ Plain.bytes cut.1) ∧
    match cut.2 with
    | .ok (close, rest) => outcome = .ok (some (code close)) t ∧ t.source.Reads total (rest.map code)
    | .error what => outcome = .error (.unterminated what total) t ∧ t.source.Reads total []

variable {t : Transfer} {text : List α} {bytes : Bytes}

theorem copies_after {front : List α} {cut : Plain.Cut α} {outcome : Outcome Transfer Symbol} :
    Copies total bytes (cut.after front) outcome ↔
      Copies total (bytes ++ Plain.bytes front) cut outcome := by
  unfold Copies Plain.Cut.after
  rw [Plain.bytes_append, ← List.append_assoc]

theorem Copies.after {front : List α} {cut : Plain.Cut α} {outcome : Outcome Transfer Symbol}
    (h : Copies total (bytes ++ Plain.bytes front) cut outcome) :
    Copies total bytes (cut.after front) outcome := copies_after.mpr h

theorem put_holds (h : t.sink.Holds bytes) {a : α} (small : code a < 256) :
    ∃ t', put (some (code a)) t = .ok () t' ∧ t'.source = t.source ∧
      t'.sink.Holds (bytes ++ Plain.bytes [a]) := by
  obtain ⟨sink, accepted, holds⟩ := h.put small
  exact ⟨⟨t.source, sink⟩, by simp [Transfer.put, writing, accepted], rfl, holds⟩

theorem fetch_reads (h : t.source.Reads total (text.map code)) :
    ∃ t', fetch t = .ok (text.head?.map code) t' ∧ t'.source.Reads total (text.tail.map code) ∧
      t'.sink = t.sink := by
  obtain ⟨source, fetched, reads⟩ := h.fetch
  rw [List.head?_map] at fetched
  rw [← List.map_tail] at reads
  exact ⟨⟨source, t.sink⟩, by simp [fetch, reading, fetched], reads, rfl⟩

theorem advance_holds (reads : t.source.Reads total (text.map code)) (holds : t.sink.Holds bytes)
    {a : α} (small : code a < 256) :
    ∃ t', advance (some (code a)) t = .ok (text.head?.map code) t' ∧
      t'.source.Reads total (text.tail.map code) ∧ t'.sink.Holds (bytes ++ Plain.bytes [a]) := by
  obtain ⟨t₁, accepted, same, holds₁⟩ := put_holds holds small
  rw [← same] at reads
  obtain ⟨t₂, fetched, reads₂, same₂⟩ := fetch_reads reads
  refine ⟨t₂, ?_, reads₂, by rw [same₂]; exact holds₁⟩
  simp only [advance, bind, EStateM.bind, accepted, fetched]

theorem advance_at_end (reads : t.source.Reads total []) (holds : t.sink.Holds bytes)
    {a : α} (small : code a < 256) :
    ∃ t', advance (some (code a)) t = .ok none t' ∧ t'.source.Reads total [] ∧
      t'.sink.Holds (bytes ++ Plain.bytes [a]) := by
  have reads : t.source.Reads total (([] : List α).map code) := reads
  exact advance_holds reads holds small

theorem advance_to {b : α} (reads : t.source.Reads total ((b :: text).map code))
    (holds : t.sink.Holds bytes) {a : α} (small : code a < 256) :
    ∃ t', advance (some (code a)) t = .ok (some (code b)) t' ∧
      t'.source.Reads total (text.map code) ∧ t'.sink.Holds (bytes ++ Plain.bytes [a]) :=
  advance_holds reads holds small

theorem enclosed_of_close {what : Construct} {close c : Symbol} {t' : Transfer}
    (h : advance c t = .ok close t') : enclosed what close c t = .ok close t' := by
  rw [enclosed]
  split <;> simp_all

theorem enclosed_of_end {what : Construct} {close c c₁ : Symbol} {t₁ t₂ : Transfer}
    (h : advance c t = .ok c₁ t₁) (other : c₁ ≠ close) (h' : protect c₁ t₁ = .ok none t₂) :
    enclosed what close c t = .error (.unterminated what t₂.source.position) t₂ := by
  rw [enclosed]
  split <;> simp_all
  split <;> simp_all

theorem enclosed_of_protect {what : Construct} {close c c₁ : Symbol} {c₂ : Nat} {t₁ t₂ : Transfer}
    (h : advance c t = .ok c₁ t₁) (other : c₁ ≠ close) (h' : protect c₁ t₁ = .ok (some c₂) t₂) :
    enclosed what close c t = enclosed what close (some c₂) t₂ := by
  rw [enclosed]
  split <;> simp_all
  split <;> simp_all

theorem protect_of_ne {c : Nat} (h : c ≠ backslash) : protect (some c) t = .ok (some c) t := by
  rw [protect, if_neg (by simpa using h)]
  rfl

theorem protect_of_eq {c : Nat} (h : c = backslash) : protect (some c) t = advance (some c) t := by
  rw [protect, if_pos (by rw [h])]

/-- A copy up to an unprotected character, with the character it starts from. -/
theorem enclosed_copies (what : Construct) (close : Nat) {a : α}
    (reads : t.source.Reads total (text.map code)) (holds : t.sink.Holds bytes)
    (small : ∀ b ∈ a :: text, code b < 256) :
    Copies total bytes ((Plain.enclosed what close text).after [a])
      (enclosed what (some close) (some (code a)) t) := by
  have atEnd {a : α} {t : Transfer} {bytes : Bytes} (reads : t.source.Reads total [])
      (holds : t.sink.Holds bytes) (small : code a < 256) :
      Copies total bytes ([a], .error what) (enclosed what (some close) (some (code a)) t) := by
    obtain ⟨t₁, advanced, reads₁, holds₁⟩ := advance_at_end reads holds small
    refine ⟨t₁, holds₁, ?_, reads₁⟩
    rw [enclosed_of_end advanced (Option.some_ne_none close).symm (protect_none t₁), reads₁.position_of_nil]
  -- The recursion of `enclosed` is on what is left; the character it starts from
  -- and what is written so far change with it.
  fun_induction Plain.enclosed what close text generalizing a t bytes with
  | case1 => exact atEnd reads holds (small a (by simp))
  | case2 c closes =>
    obtain ⟨t₁, advanced, reads₁, holds₁⟩ := advance_to reads holds (small a (by simp))
    subst closes
    exact ⟨t₁, holds₁, enclosed_of_close advanced, reads₁⟩
  | case3 c other =>
    obtain ⟨t₁, advanced, reads₁, holds₁⟩ := advance_to reads holds (small a (by simp))
    have other : some (code c) ≠ some close := by simpa using other
    by_cases escapes : code c = backslash
    · obtain ⟨t₂, advanced₂, reads₂, holds₂⟩ := advance_at_end reads₁ holds₁ (small c (by simp))
      rw [← protect_of_eq escapes] at advanced₂
      refine Copies.after ⟨t₂, holds₂, ?_, reads₂⟩
      rw [enclosed_of_end advanced other advanced₂, reads₂.position_of_nil]
    · rw [enclosed_of_protect advanced other (protect_of_ne escapes)]
      exact (atEnd reads₁ holds₁ (small c (by simp))).after
  | case4 c b rest closes =>
    obtain ⟨t₁, advanced, reads₁, holds₁⟩ := advance_to reads holds (small a (by simp))
    subst closes
    exact ⟨t₁, holds₁, enclosed_of_close advanced, reads₁⟩
  | case5 c b rest other escapes ih =>
    obtain ⟨t₁, advanced, reads₁, holds₁⟩ := advance_to reads holds (small a (by simp))
    obtain ⟨t₂, advanced₂, reads₂, holds₂⟩ := advance_to reads₁ holds₁ (small c (by simp))
    rw [← protect_of_eq escapes] at advanced₂
    have other : some (code c) ≠ some close := by simpa using other
    rw [enclosed_of_protect advanced other advanced₂]
    have copied := ih reads₂ holds₂
      (fun d hd => small d (List.mem_cons_of_mem a (List.mem_cons_of_mem c hd)))
    exact copied.after.after
  | case6 c b rest other escapes ih =>
    obtain ⟨t₁, advanced, reads₁, holds₁⟩ := advance_to reads holds (small a (by simp))
    have other : some (code c) ≠ some close := by simpa using other
    rw [enclosed_of_protect advanced other (protect_of_ne escapes)]
    exact (ih reads₁ holds₁ (fun d hd => small d (List.mem_cons_of_mem a hd))).after

theorem regex_of_close {t' : Transfer} (h : fetch t = .ok (some slash) t') :
    regex t = .ok (some slash) t' := by
  rw [regex]
  split <;> simp_all

theorem regex_of_end {c : Symbol} {t₁ t₂ : Transfer} (h : fetch t = .ok c t₁)
    (other : c ≠ some slash) (h' : regexUnit c t₁ = .ok none t₂) :
    regex t = .error (.unterminated .regex t₂.source.position) t₂ := by
  rw [regex]
  split <;> simp_all
  split <;> simp_all

theorem regex_of_halt {c : Symbol} {t₁ t₂ : Transfer} {e : Halt} (h : fetch t = .ok c t₁)
    (other : c ≠ some slash) (h' : regexUnit c t₁ = .error e t₂) : regex t = .error e t₂ := by
  rw [regex]
  split <;> simp_all
  split <;> simp_all

theorem regex_of_unit {c : Symbol} {c₂ : Nat} {t₁ t₂ t₃ : Transfer} (h : fetch t = .ok c t₁)
    (other : c ≠ some slash) (h' : regexUnit c t₁ = .ok (some c₂) t₂)
    (h'' : put (some c₂) t₂ = .ok () t₃) : regex t = regex t₃ := by
  rw [regex]
  split <;> simp_all
  split <;> simp_all
  split <;> simp_all

theorem regexUnit_of_ne {c : Nat} (h : c ≠ openBracket) :
    regexUnit (some c) t = protect (some c) t := by
  rw [regexUnit, if_neg (by simpa using h)]

/-- A copy of the body of a regular expression. -/
theorem regex_copies (reads : t.source.Reads total (text.map code)) (holds : t.sink.Holds bytes)
    (small : ∀ b ∈ text, code b < 256) :
    Copies total bytes (Plain.regexBody false text) (regex t) := by
  -- A character class is one unit of the loop, so the text left may fall by more
  -- than a character.
  induction n : text.length using Nat.strongRecOn generalizing text t bytes with
  | ind n ih =>
    subst n
    obtain ⟨t₁, fetched, reads₁, same⟩ := fetch_reads reads
    rw [← same] at holds
    cases text with
    | nil =>
      have fetched : fetch t = .ok none t₁ := fetched
      refine ⟨t₁, by simpa [Plain.regexBody, Plain.bytes] using holds, ?_, reads₁⟩
      rw [regex_of_end fetched (Option.some_ne_none slash).symm (regexUnit_none t₁),
        reads₁.position_of_nil]
      rfl
    | cons a rest =>
      have fetched : fetch t = .ok (some (code a)) t₁ := fetched
      have reads₁ : t₁.source.Reads total (rest.map code) := reads₁
      by_cases closes : code a = slash
      · have plain : code a ≠ backslash := by rw [closes]; decide
        rw [Plain.regexBody_of_ne plain, if_neg Bool.false_ne_true, if_pos closes]
        refine ⟨t₁, by simpa [Plain.bytes] using holds, ?_, reads₁⟩
        rw [closes] at fetched ⊢
        exact regex_of_close fetched
      have other : some (code a) ≠ some slash := by simpa using closes
      by_cases opens : code a = openBracket
      · have plain : code a ≠ backslash := by rw [opens]; decide
        rw [Plain.regexBody_of_ne plain, if_neg Bool.false_ne_true, if_neg closes,
          show (code a == openBracket) = true by simpa using opens, Plain.regexBody_inClass]
        have copied := enclosed_copies .characterClass closeBracket reads₁ holds small
        have unit : regexUnit (some (code a)) t₁ =
            enclosed .characterClass (some closeBracket) (some (code a)) t₁ := by
          rw [regexUnit, if_pos (by rw [opens])]
        have whole := Plain.enclosed_of .characterClass closeBracket rest
        generalize Plain.enclosed .characterClass closeBracket rest = cut at copied whole ⊢
        obtain ⟨body, ending⟩ := cut
        obtain ⟨t₂, holds₂, ending_eq⟩ := copied
        rw [← unit] at ending_eq
        cases ending with
        | error what =>
          obtain ⟨halted, reads₂⟩ := ending_eq
          exact ⟨t₂, holds₂, regex_of_halt fetched other halted, reads₂⟩
        | ok closing =>
          obtain ⟨close, after⟩ := closing
          obtain ⟨ended, reads₂⟩ := ending_eq
          obtain ⟨rfl, -⟩ := whole
          have smallClose : code close < 256 := small close (by simp)
          obtain ⟨t₃, written, same₃, holds₃⟩ := put_holds holds₂ smallClose
          rw [← same₃] at reads₂
          rw [regex_of_unit fetched other ended written]
          have shorter : after.length < (a :: (body ++ close :: after)).length := by
            simp only [List.length_append, List.length_cons]
            omega
          have copied := ih after.length shorter reads₂ holds₃
            (fun b hb => small b (by simp [hb])) rfl
          have copied := copied.after.after
          rw [Plain.Cut.after_after] at copied
          dsimp only
          rw [Plain.Cut.after_after]
          exact copied
      · by_cases escapes : code a = backslash
        · cases rest with
          | nil =>
            rw [Plain.regexBody, if_pos escapes]
            obtain ⟨t₂, advanced, reads₂, holds₂⟩ :=
              advance_at_end reads₁ holds (small a (by simp))
            rw [← protect_of_eq escapes, ← regexUnit_of_ne opens] at advanced
            refine ⟨t₂, holds₂, ?_, reads₂⟩
            rw [regex_of_end fetched other advanced, reads₂.position_of_nil]
            rfl
          | cons b rest =>
            rw [Plain.regexBody_of_eq escapes]
            obtain ⟨t₂, advanced, reads₂, holds₂⟩ := advance_to reads₁ holds (small a (by simp))
            rw [← protect_of_eq escapes, ← regexUnit_of_ne opens] at advanced
            obtain ⟨t₃, written, same₃, holds₃⟩ := put_holds holds₂ (small b (by simp))
            rw [← same₃] at reads₂
            rw [regex_of_unit fetched other advanced written]
            have copied := ih rest.length (by simp only [List.length_cons]; omega) reads₂ holds₃
              (fun c hc => small c (by simp [hc])) rfl
            exact copied.after.after
        · rw [Plain.regexBody_of_ne escapes, if_neg Bool.false_ne_true, if_neg closes,
            show (code a == openBracket) = false by simpa using opens]
          have unit : regexUnit (some (code a)) t₁ = .ok (some (code a)) t₁ :=
            (regexUnit_of_ne opens).trans (protect_of_ne escapes)
          obtain ⟨t₂, written, same₂, holds₂⟩ := put_holds holds (small a (by simp))
          rw [← same₂] at reads₁
          rw [regex_of_unit fetched other unit written]
          have copied := ih rest.length (by simp) reads₁ holds₂
            (fun c hc => small c (by simp [hc])) rfl
          exact copied.after

end Literal
end ScriptPress
