/-
The grammar of literals.

In a literal a backslash protects the character after it.  What stands between
the quotes of a quoted literal, or between the brackets of a character class,
is any text in which the closing character stands only protected; a regular
expression may have classes with slashes in them.  Such a text is cut off a
script where it ends, and it stays such a text when control codes are replaced
by the characters they count as.  A script that is not closed so ends inside the
literal (`enclosedForm`, `regexForm`).
-/
import ScriptPress.Proofs.Items

namespace ScriptPress

open Code

/-- A text that the character `close` can close: each of its backslashes protects
a character, and `close` stands only protected. -/
inductive EnclosedBody (close : Nat) : List Nat → Prop
  | nil : EnclosedBody close []
  | plain {c : Nat} {rest : List Nat} (other : c ≠ close) (unprotecting : c ≠ backslash)
      (body : EnclosedBody close rest) : EnclosedBody close (c :: rest)
  | escaped (c : Nat) {rest : List Nat} (body : EnclosedBody close rest) :
      EnclosedBody close (backslash :: c :: rest)

/-- A text that a slash can close as a regular expression. -/
inductive RegexBody : List Nat → Prop
  | nil : RegexBody []
  | plain {c : Nat} {rest : List Nat} (other : c ≠ slash) (unprotecting : c ≠ backslash)
      (outside : c ≠ openBracket) (body : RegexBody rest) : RegexBody (c :: rest)
  | escaped (c : Nat) {rest : List Nat} (body : RegexBody rest) :
      RegexBody (backslash :: c :: rest)
  | group {inside rest : List Nat} (closed : EnclosedBody closeBracket inside)
      (body : RegexBody rest) : RegexBody (openBracket :: inside ++ closeBracket :: rest)

/-- A slash at the start would close the text there. -/
theorem RegexBody.head?_ne_slash {body : List Nat} (h : RegexBody body) :
    body.head? ≠ some slash := by
  cases h with
  | nil => nofun
  | plain other => exact fun isSlash => other (Option.some.inj isSlash)
  | escaped c =>
    show some backslash ≠ some slash
    decide
  | group closed =>
    show some openBracket ≠ some slash
    decide

/-- What such a text can end in before anything closes it: nothing, or a backslash
with no character left to protect. -/
def Dangling (tail : List Nat) : Prop := tail = [] ∨ tail = [backslash]

/-! ## Cutting a literal off -/

/-- A scan goes through such a text and on from there. -/
theorem EnclosedBody.enclosed_append {close : Nat} {body : List Nat} (h : EnclosedBody close body)
    (closes : close ≠ backslash) (what : Construct) (more : List Nat) :
    Plain.enclosed what close (body ++ more) = (Plain.enclosed what close more).after body := by
  induction h with
  | nil => rfl
  | @plain c _ other unprotecting _ ih =>
    rw [List.cons_append, Plain.enclosed_of_ne other unprotecting, ih]
    rfl
  | escaped c _ ih =>
    rw [List.cons_append, List.cons_append, Plain.enclosed, Coded.code_nat, if_neg closes.symm,
      if_pos rfl, ih]
    rfl

theorem EnclosedBody.enclosed {close : Nat} {body : List Nat} (h : EnclosedBody close body)
    (closes : close ≠ backslash) (what : Construct) (rest : List Nat) :
    Plain.enclosed what close (body ++ close :: rest) = (body, .ok (close, rest)) := by
  rw [h.enclosed_append closes, Plain.enclosed_of_eq (Coded.code_nat close), Plain.Cut.after,
    List.append_nil]

theorem EnclosedBody.enclosed_dangling {close : Nat} {body tail : List Nat}
    (h : EnclosedBody close body) (closes : close ≠ backslash) (ends : Dangling tail)
    (what : Construct) : Plain.enclosed what close (body ++ tail) = (body ++ tail, .error what) := by
  rw [h.enclosed_append closes]
  rcases ends with rfl | rfl
  · rfl
  · rw [Plain.enclosed, Coded.code_nat, if_neg closes.symm]
    rfl

theorem regexBody_openBracket (text : List Nat) :
    Plain.regexBody false (openBracket :: text) =
      (Plain.regexBody true text).after [openBracket] := by
  rw [Plain.regexBody_of_ne (by decide), if_neg (by decide), if_neg (by decide)]
  rfl

/-- A scan goes through such a text and on from there. -/
theorem RegexBody.regexBody_append {body : List Nat} (h : RegexBody body) (more : List Nat) :
    Plain.regexBody false (body ++ more) = (Plain.regexBody false more).after body := by
  induction h with
  | nil => rfl
  | @plain c _ other unprotecting outside _ ih =>
    have stays : (c == openBracket) = false := by simpa using outside
    rw [List.cons_append, Plain.regexBody_of_ne unprotecting, Coded.code_nat, if_neg (by decide),
      if_neg other, stays, ih]
    rfl
  | escaped c _ ih =>
    rw [List.cons_append, List.cons_append, Plain.regexBody_of_eq rfl, ih]
    rfl
  | @group inside rest closed _ ih =>
    have leaves : Plain.regexBody true (inside ++ closeBracket :: (rest ++ more)) =
        (Plain.regexBody false (rest ++ more)).after (inside ++ [closeBracket]) := by
      rw [Plain.regexBody_inClass, closed.enclosed (by decide)]
    rw [List.append_assoc, List.cons_append, List.cons_append, regexBody_openBracket, leaves, ih]
    simp [Plain.Cut.after]

theorem RegexBody.regexBody {body : List Nat} (h : RegexBody body) (rest : List Nat) :
    Plain.regexBody false (body ++ slash :: rest) = (body, .ok (slash, rest)) := by
  rw [h.regexBody_append, Plain.regexBody_of_ne (by decide), Coded.code_nat, if_neg (by decide),
    if_pos rfl, Plain.Cut.after, List.append_nil]

theorem RegexBody.regexBody_dangling {body tail : List Nat} (h : RegexBody body)
    (ends : Dangling tail) :
    Plain.regexBody false (body ++ tail) = (body ++ tail, .error .regex) := by
  rw [h.regexBody_append]
  rcases ends with rfl | rfl <;> rfl

theorem RegexBody.regexBody_inClass {body inside tail : List Nat} (h : RegexBody body)
    (unclosed : EnclosedBody closeBracket inside) (ends : Dangling tail) :
    Plain.regexBody false (body ++ openBracket :: inside ++ tail) =
      (body ++ openBracket :: inside ++ tail, .error .characterClass) := by
  rw [List.append_assoc, List.cons_append, h.regexBody_append, regexBody_openBracket,
    Plain.regexBody_inClass, unclosed.enclosed_dangling (by decide) ends]
  simp [Plain.Cut.after]

/-! A literal is closed at one place only. -/

theorem EnclosedBody.unique {close : Nat} {body body' rest rest' : List Nat}
    (h : EnclosedBody close body) (h' : EnclosedBody close body') (closes : close ≠ backslash)
    (same : body ++ close :: rest = body' ++ close :: rest') : body = body' ∧ rest = rest' := by
  have cut := h.enclosed closes .quoted rest
  rw [same, h'.enclosed closes] at cut
  cases cut
  exact ⟨rfl, rfl⟩

theorem RegexBody.unique {body body' rest rest' : List Nat} (h : RegexBody body)
    (h' : RegexBody body') (same : body ++ slash :: rest = body' ++ slash :: rest') :
    body = body' ∧ rest = rest' := by
  have cut := h.regexBody rest
  rw [same, h'.regexBody] at cut
  cases cut
  exact ⟨rfl, rfl⟩

/-! ## Every text has one of the forms

A text is closed as a literal or ends before that, and where it ends is told by the
grammar alone. -/

/-- How a text stands to a literal closed by `close`. -/
inductive EnclosedForm (close : Nat) : List Nat → Prop
  | closed {body : List Nat} (h : EnclosedBody close body) (rest : List Nat) :
      EnclosedForm close (body ++ close :: rest)
  | ended {body tail : List Nat} (h : EnclosedBody close body) (ends : Dangling tail) :
      EnclosedForm close (body ++ tail)

/-- How a text stands to a regular expression. -/
inductive RegexForm : List Nat → Prop
  | closed {body : List Nat} (h : RegexBody body) (rest : List Nat) :
      RegexForm (body ++ slash :: rest)
  | inClass {body inside tail : List Nat} (h : RegexBody body)
      (unclosed : EnclosedBody closeBracket inside) (ends : Dangling tail) :
      RegexForm (body ++ openBracket :: inside ++ tail)
  | ended {body tail : List Nat} (h : RegexBody body) (ends : Dangling tail) :
      RegexForm (body ++ tail)

/-- More of the body in front does not change the form. -/
theorem EnclosedForm.after {close : Nat} {text : List Nat} (h : EnclosedForm close text)
    (front : List Nat)
    (longer : ∀ {body}, EnclosedBody close body → EnclosedBody close (front ++ body)) :
    EnclosedForm close (front ++ text) := by
  cases h with
  | closed h rest =>
    rw [← List.append_assoc]
    exact .closed (longer h) rest
  | ended h ends =>
    rw [← List.append_assoc]
    exact .ended (longer h) ends

theorem RegexForm.after {text : List Nat} (h : RegexForm text) (front : List Nat)
    (longer : ∀ {body}, RegexBody body → RegexBody (front ++ body)) :
    RegexForm (front ++ text) := by
  cases h with
  | closed h rest =>
    rw [← List.append_assoc]
    exact .closed (longer h) rest
  | inClass h unclosed ends =>
    rw [← List.append_assoc, ← List.append_assoc]
    exact .inClass (longer h) unclosed ends
  | ended h ends =>
    rw [← List.append_assoc]
    exact .ended (longer h) ends

theorem enclosedForm (close : Nat) (text : List Nat) : EnclosedForm close text := by
  cases text with
  | nil => exact .ended .nil (.inl rfl)
  | cons c rest =>
    by_cases closes : c = close
    · rw [closes]
      exact .closed .nil rest
    · by_cases protects : c = backslash
      · subst protects
        cases rest with
        | nil => exact .ended .nil (.inr rfl)
        | cons d rest => exact (enclosedForm close rest).after [backslash, d] (.escaped d)
      · exact (enclosedForm close rest).after [c] (.plain closes protects)
termination_by text.length

theorem regexForm (text : List Nat) : RegexForm text := by
  cases text with
  | nil => exact .ended .nil (.inl rfl)
  | cons c rest =>
    by_cases closes : c = slash
    · rw [closes]
      exact .closed .nil rest
    · by_cases protects : c = backslash
      · subst protects
        cases rest with
        | nil => exact .ended .nil (.inr rfl)
        | cons d rest => exact (regexForm rest).after [backslash, d] (.escaped d)
      · by_cases opens : c = openBracket
        · subst opens
          cases enclosedForm closeBracket rest with
          | ended unclosed ends => exact .inClass .nil unclosed ends
          | @closed inside closed rest =>
            have whole : openBracket :: (inside ++ closeBracket :: rest) =
                (openBracket :: inside ++ [closeBracket]) ++ rest := by simp
            rw [whole]
            refine (regexForm rest).after _ fun body => ?_
            rw [List.append_assoc]
            exact .group closed body
        · exact (regexForm rest).after [c] (.plain closes protects opens)
termination_by text.length
decreasing_by
  · simp only [List.length_cons]
    omega
  · simp only [List.length_cons, List.length_append]
    omega
  · simp only [List.length_cons]
    omega

/-! ## Control codes in a literal -/

theorem EnclosedBody.effective {close : Nat} {body : List Nat} (h : EnclosedBody close body)
    (significant : isSeparator close = false) : EnclosedBody close (body.map effective) := by
  induction h with
  | nil => exact .nil
  | plain other unprotecting _ ih =>
    exact .plain (effective_ne other significant) (effective_ne unprotecting (by decide)) ih
  | escaped c _ ih => exact .escaped (Code.effective c) ih

theorem RegexBody.effective {body : List Nat} (h : RegexBody body) :
    RegexBody (body.map effective) := by
  induction h with
  | nil => exact .nil
  | plain other unprotecting outside _ ih =>
    exact .plain (effective_ne other (by decide)) (effective_ne unprotecting (by decide))
      (effective_ne outside (by decide)) ih
  | escaped c _ ih => exact .escaped (Code.effective c) ih
  | group closed _ ih =>
    rw [List.map_append, List.map_cons, List.map_cons]
    exact .group (closed.effective (by decide)) ih

end ScriptPress
