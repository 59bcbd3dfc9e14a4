/-
Literals as they are read from a stream.

A copy of a literal ends where the grammar says.  It returns the closing character
exactly if what is left to be read starts with a body and that character, and there
is only one way to see it so; it has then written the body and left the rest.  In any
other case the input ends inside the literal, and all of it has been written.
-/
import ScriptPress.Proofs.Dialogue
import ScriptPress.Proofs.Grammar

namespace ScriptPress
namespace Literal

open Code Script

variable {t : Transfer} {total : Nat} {script bytes : Bytes} {outcome : Outcome Transfer Symbol}
  {body rest tail text : List Nat}

/-! ## Copies and cuts -/

theorem Copies.closed {close : Nat} (h : Copies total bytes (body, .ok (close, rest)) outcome) :
    outcome.result = .ok (some close) ∧ outcome.state.sink.Holds (bytes ++ Plain.bytes body) ∧
      outcome.state.source.Reads total rest := by
  obtain ⟨t, holds, rfl, reads⟩ := h
  rw [map_code_nat] at reads
  exact ⟨rfl, holds, reads⟩

theorem Copies.unclosed {what : Construct} (h : Copies total bytes (body, .error what) outcome) :
    outcome.result = .error (.unterminated what total) ∧
      outcome.state.sink.Holds (bytes ++ Plain.bytes body) ∧
      outcome.state.source.Reads total [] := by
  obtain ⟨t, holds, rfl, reads⟩ := h
  exact ⟨rfl, holds, reads⟩

/-! ## Quoted literals -/

section Quoted

variable {quote : Nat} (closes : quote ≠ backslash)
  (copies : Copies total bytes ((Plain.enclosed .quoted quote text).after [quote]) outcome)
include closes copies

theorem quoted_of_closed (h : EnclosedBody quote body) (form : text = body ++ quote :: rest) :
    outcome.result = .ok (some quote) ∧
      outcome.state.sink.Holds (bytes ++ Plain.bytes (quote :: body)) ∧
      outcome.state.source.Reads total rest := by
  rw [form, h.enclosed closes] at copies
  exact copies.closed

theorem quoted_of_ended (h : EnclosedBody quote body) (ends : Dangling tail)
    (form : text = body ++ tail) :
    outcome.result = .error (.unterminated .quoted total) ∧
      outcome.state.sink.Holds (bytes ++ Plain.bytes (quote :: text)) ∧
      outcome.state.source.Reads total [] := by
  rw [form, h.enclosed_dangling closes ends] at copies
  rw [form]
  exact copies.unclosed

end Quoted

/-- A copy of a quoted literal, from its opening quote on, returns the quote exactly if
what is left to be read is a body, a quote and a rest.  There is then one such body; the
opening quote and the body are written, and the rest is left.  Otherwise the copy halts
at the end of the script, and the opening quote and all that was left are written. -/
theorem quoted_accepts {quote : Nat} (quotes : isQuote quote)
    (reads : t.source.Reads total (characters script)) (holds : t.sink.Holds bytes)
    (ran : quoted (some quote) t = outcome) :
    (outcome.result = .ok (some quote) ↔
      ∃ body rest, EnclosedBody quote body ∧ characters script = body ++ quote :: rest) ∧
    (∀ body rest, EnclosedBody quote body → characters script = body ++ quote :: rest →
      (∀ body' rest', EnclosedBody quote body' → characters script = body' ++ quote :: rest' →
        body' = body ∧ rest' = rest) ∧
      outcome.state.sink.Holds (bytes ++ Plain.bytes (quote :: body)) ∧
      outcome.state.source.Reads total rest) ∧
    ((¬ ∃ body rest, EnclosedBody quote body ∧ characters script = body ++ quote :: rest) →
      outcome.result = .error (.unterminated .quoted total) ∧
      outcome.state.sink.Holds (bytes ++ Plain.bytes (quote :: characters script)) ∧
      outcome.state.source.Reads total []) := by
  have closes : quote ≠ backslash := by
    rcases isQuote_iff.mp quotes with rfl | rfl | rfl <;> decide
  have small : ∀ c ∈ quote :: characters script, c < 256 := by
    refine List.forall_mem_cons.mpr ⟨?_, characters_lt script⟩
    rcases isQuote_iff.mp quotes with rfl | rfl | rfl <;> decide
  rw [← map_code_nat (characters script)] at reads
  have copies : Copies total bytes
      ((Plain.enclosed .quoted quote (characters script)).after [quote]) outcome :=
    ran ▸ enclosed_copies .quoted quote reads holds small
  generalize characters script = text at copies ⊢
  refine ⟨⟨fun returned => ?_, ?_⟩,
    fun body rest h form => ⟨?_, (quoted_of_closed closes copies h form).2⟩, fun none_closed => ?_⟩
  · cases enclosedForm quote text with
    | closed h rest => exact ⟨_, rest, h, rfl⟩
    | ended h ends =>
      rw [(quoted_of_ended closes copies h ends rfl).1] at returned
      cases returned
  · rintro ⟨body, rest, h, form⟩
    exact (quoted_of_closed closes copies h form).1
  · exact fun body' rest' h' form' => h'.unique h closes (form'.symm.trans form)
  · cases enclosedForm quote text with
    | closed h rest => exact absurd ⟨_, rest, h, rfl⟩ none_closed
    | ended h ends => exact quoted_of_ended closes copies h ends rfl

/-- The pieces `"a\` and `"" b`, of which the first quote is consumed and the `a` looked at:
the second quote is protected, and the third closes the literal. -/
theorem quoted_accepts_escape :
    isQuote doubleQuote ∧ EnclosedBody doubleQuote [97, 92, 34] ∧
    ∃ outcome : Outcome Transfer Symbol,
      quoted (some doubleQuote)
        ⟨{ input := { supply := .pieces [[34, 34, 32, 98]], reads := 1 }, chunk := [92],
            lookahead := some (some 97), position := 2 },
          {}⟩ = outcome ∧
      outcome.result = .ok (some doubleQuote) ∧
      outcome.state.sink.Holds [34, 97, 92, 34] ∧ outcome.state.source.Reads 7 [32, 98] := by
  have body : EnclosedBody doubleQuote [97, 92, 34] :=
    .plain (by decide) (by decide) (.escaped 34 .nil)
  have form : characters [97, 92, 34, 34, 32, 98] = [97, 92, 34] ++ doubleQuote :: [32, 98] := rfl
  obtain ⟨returns, copied, _⟩ := @quoted_accepts
    ⟨{ input := { supply := .pieces [[34, 34, 32, 98]], reads := 1 }, chunk := [92],
        lookahead := some (some 97), position := 2 }, {}⟩
    7 [97, 92, 34, 34, 32, 98] [] _ doubleQuote (by decide) ⟨rfl, nofun, by decide, rfl, rfl⟩
    ⟨rfl, rfl, rfl, rfl⟩ rfl
  exact ⟨by decide, body, _, rfl, returns.mpr ⟨_, _, body, form⟩, (copied _ _ body form).2⟩

/-! ## Regular expressions -/

section Regex

variable (copies : Copies total bytes (Plain.regexBody false text) outcome)
include copies

theorem regex_of_closed (h : RegexBody body) (form : text = body ++ slash :: rest) :
    outcome.result = .ok (some slash) ∧ outcome.state.sink.Holds (bytes ++ Plain.bytes body) ∧
      outcome.state.source.Reads total rest := by
  rw [form, h.regexBody] at copies
  exact copies.closed

theorem regex_of_inClass {inside : List Nat} (h : RegexBody body)
    (unclosed : EnclosedBody closeBracket inside) (ends : Dangling tail)
    (form : text = body ++ openBracket :: inside ++ tail) :
    outcome.result = .error (.unterminated .characterClass total) ∧
      outcome.state.sink.Holds (bytes ++ Plain.bytes text) ∧
      outcome.state.source.Reads total [] := by
  rw [form, h.regexBody_inClass unclosed ends] at copies
  rw [form]
  exact copies.unclosed

theorem regex_of_ended (h : RegexBody body) (ends : Dangling tail) (form : text = body ++ tail) :
    outcome.result = .error (.unterminated .regex total) ∧
      outcome.state.sink.Holds (bytes ++ Plain.bytes text) ∧
      outcome.state.source.Reads total [] := by
  rw [form, h.regexBody_dangling ends] at copies
  rw [form]
  exact copies.unclosed

/-- The form of the text decides how the copy ends. -/
theorem regex_ends :
    (outcome.result = .ok (some slash) ∧
      ∃ body rest, RegexBody body ∧ text = body ++ slash :: rest) ∨
    (outcome.result = .error (.unterminated .characterClass total) ∧
      ∃ body inside tail, RegexBody body ∧ EnclosedBody closeBracket inside ∧ Dangling tail ∧
        text = body ++ openBracket :: inside ++ tail) ∨
    (outcome.result = .error (.unterminated .regex total) ∧
      ∃ body tail, RegexBody body ∧ Dangling tail ∧ text = body ++ tail) := by
  cases regexForm text with
  | closed h rest => exact .inl ⟨(regex_of_closed copies h rfl).1, _, rest, h, rfl⟩
  | inClass h unclosed ends =>
    exact .inr (.inl ⟨(regex_of_inClass copies h unclosed ends rfl).1, _, _, _, h, unclosed, ends,
      rfl⟩)
  | ended h ends => exact .inr (.inr ⟨(regex_of_ended copies h ends rfl).1, _, _, h, ends, rfl⟩)

end Regex

/-- A copy of the body of a regular expression returns the closing slash exactly if what
is left to be read is a body, a slash and a rest.  There is then one such body; it is
written, and the rest is left.  The copy halts in a character class exactly if a body is
followed by a bracket and a class that nothing closes, and in the expression exactly if
there is nothing after a body but perhaps a backslash.  Then all that was left is
written, and there is no other way for a copy to end. -/
theorem regex_accepts (reads : t.source.Reads total (characters script))
    (holds : t.sink.Holds bytes) (ran : regex t = outcome) :
    (outcome.result = .ok (some slash) ↔
      ∃ body rest, RegexBody body ∧ characters script = body ++ slash :: rest) ∧
    (∀ body rest, RegexBody body → characters script = body ++ slash :: rest →
      (∀ body' rest', RegexBody body' → characters script = body' ++ slash :: rest' →
        body' = body ∧ rest' = rest) ∧
      outcome.state.sink.Holds (bytes ++ Plain.bytes body) ∧
      outcome.state.source.Reads total rest) ∧
    (outcome.result = .error (.unterminated .characterClass total) ↔
      ∃ body inside tail, RegexBody body ∧ EnclosedBody closeBracket inside ∧ Dangling tail ∧
        characters script = body ++ openBracket :: inside ++ tail) ∧
    (outcome.result = .error (.unterminated .regex total) ↔
      ∃ body tail, RegexBody body ∧ Dangling tail ∧ characters script = body ++ tail) ∧
    (outcome.result ≠ .ok (some slash) →
      (outcome.result = .error (.unterminated .characterClass total) ∨
        outcome.result = .error (.unterminated .regex total)) ∧
      outcome.state.sink.Holds (bytes ++ Plain.bytes (characters script)) ∧
      outcome.state.source.Reads total []) := by
  have small := characters_lt script
  rw [← map_code_nat (characters script)] at reads
  have copies : Copies total bytes (Plain.regexBody false (characters script)) outcome :=
    ran ▸ regex_copies reads holds small
  generalize characters script = text at copies ⊢
  have ends := regex_ends copies
  refine ⟨⟨fun result => ?_, ?_⟩, fun body rest h form => ⟨?_, (regex_of_closed copies h form).2⟩,
    ⟨fun result => ?_, ?_⟩, ⟨fun result => ?_, ?_⟩, fun halted => ?_⟩
  · rcases ends with ⟨_, form⟩ | ⟨other, _⟩ | ⟨other, _⟩
    · exact form
    · cases other.symm.trans result
    · cases other.symm.trans result
  · rintro ⟨body, rest, h, form⟩
    exact (regex_of_closed copies h form).1
  · exact fun body' rest' h' form' => h'.unique h (form'.symm.trans form)
  · rcases ends with ⟨other, _⟩ | ⟨_, form⟩ | ⟨other, _⟩
    · cases other.symm.trans result
    · exact form
    · cases other.symm.trans result
  · rintro ⟨body, inside, tail, h, unclosed, ends, form⟩
    exact (regex_of_inClass copies h unclosed ends form).1
  · rcases ends with ⟨other, _⟩ | ⟨other, _⟩ | ⟨_, form⟩
    · cases other.symm.trans result
    · cases other.symm.trans result
    · exact form
  · rintro ⟨body, tail, h, ends, form⟩
    exact (regex_of_ended copies h ends form).1
  · rcases ends with ⟨returned, _⟩ | ⟨result, body, inside, tail, h, unclosed, ends, form⟩ |
      ⟨result, body, tail, h, ends, form⟩
    · exact absurd returned halted
    · exact ⟨.inl result, (regex_of_inClass copies h unclosed ends form).2⟩
    · exact ⟨.inr result, (regex_of_ended copies h ends form).2⟩

/-- The pieces `[/]` and `\//i`, with the bracket looked at: neither the slash in the class
nor the protected one closes the expression.  In `a[\` a class is left open. -/
theorem regex_accepts_class :
    RegexBody [91, 47, 93, 92, 47] ∧
    (∃ outcome : Outcome Transfer Symbol,
      regex
        ⟨{ input := { supply := .pieces [[92, 47, 47, 105]], reads := 1 }, chunk := [47, 93],
            lookahead := some (some 91), position := 1 },
          {}⟩ = outcome ∧
      outcome.result = .ok (some slash) ∧
      outcome.state.sink.Holds [91, 47, 93, 92, 47] ∧ outcome.state.source.Reads 7 [105]) ∧
    ∃ outcome : Outcome Transfer Symbol,
      regex ⟨{ input := { supply := .bytes [97, 91, 92] } }, {}⟩ = outcome ∧
      outcome.result = .error (.unterminated .characterClass 3) ∧
      outcome.state.sink.Holds [97, 91, 92] := by
  have body : RegexBody [91, 47, 93, 92, 47] :=
    @RegexBody.group [47] [92, 47] (.plain (by decide) (by decide) .nil) (.escaped 47 .nil)
  refine ⟨body, ?_, ?_⟩
  · obtain ⟨returns, copied, _⟩ := @regex_accepts
      ⟨{ input := { supply := .pieces [[92, 47, 47, 105]], reads := 1 }, chunk := [47, 93],
          lookahead := some (some 91), position := 1 }, {}⟩
      7 [91, 47, 93, 92, 47, 47, 105] [] _ ⟨rfl, nofun, by decide, rfl, rfl⟩ ⟨rfl, rfl, rfl, rfl⟩ rfl
    exact ⟨_, rfl, returns.mpr ⟨_, [105], body, rfl⟩, (copied _ [105] body rfl).2⟩
  · obtain ⟨_, _, halts, _, unclosed⟩ := @regex_accepts
      ⟨{ input := { supply := .bytes [97, 91, 92] } }, {}⟩ 3 [97, 91, 92] [] _
      ⟨rfl, nofun, by decide, rfl, rfl⟩ ⟨rfl, rfl, rfl, rfl⟩ rfl
    have front : RegexBody [97] := .plain (by decide) (by decide) (by decide) .nil
    have halted := halts.mpr ⟨[97], [], [92], front, .nil, .inr rfl, rfl⟩
    refine ⟨_, rfl, halted, (unclosed ?_).2.1⟩
    rw [halted]
    nofun

end Literal
end ScriptPress
