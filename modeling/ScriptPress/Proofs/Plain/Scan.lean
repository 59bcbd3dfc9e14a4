/-
Comments and literals cut from a list of characters.

A run on streams reads characters one at a time and looks one ahead.  On a list
the same scanning is plain recursion: `next` gives what a comment or a character
reads as together with the text after it, and `enclosed` and `regexBody` cut a
literal in two, the characters copied and what follows the closing one.

The characters may be of any type that has codes.  Codes themselves serve where
only the text matters, and codes with a place of origin where it matters which
character of the script was written.
-/
import ScriptPress.Character
import ScriptPress.Halt

namespace ScriptPress

/-- Characters a run can be made on.  A block comment reads as `blank`. -/
class Coded (α : Type) where
  code : α → Nat
  blank : α
  code_blank : code blank = Code.space

instance : Coded Nat := ⟨id, Code.space, rfl⟩

@[simp] theorem Coded.code_nat (c : Nat) : Coded.code c = c := rfl

@[simp] theorem Coded.blank_nat : (Coded.blank : Nat) = Code.space := rfl

@[simp] theorem Coded.map_code_nat (c : Option Nat) : c.map Coded.code = c := by
  cases c <;> rfl

namespace Plain

open Code Coded

variable {α : Type} [Coded α]

/-! ## Comments -/

/-- The line end that closes a line comment, if there is one, and what follows. -/
def skipLine : List α → Option α × List α
  | [] => (none, [])
  | a :: rest => if code a = newline then (some a, rest) else skipLine rest

/-- What follows the first `*/`. -/
def skipBlock : List α → Option (List α)
  | a :: b :: rest =>
    if code a = star ∧ code b = slash then some rest else skipBlock (b :: rest)
  | _ => none

def opensComment : List α → Bool
  | a :: b :: _ => code a == slash && (code b == slash || code b == star)
  | _ => false

/-- The first character of a text, or what the comment there reads as, and the
text after it. -/
def next : List α → Except Construct (Option α × List α)
  | [] => .ok (none, [])
  | [a] => .ok (some a, [])
  | a :: b :: rest =>
    if code a = slash ∧ code b = slash then .ok (skipLine rest)
    else if code a = slash ∧ code b = star then
      match skipBlock rest with
      | none => .error .comment
      | some rest => .ok (some blank, rest)
    else .ok (some a, b :: rest)

theorem suffix_skipLine (text : List α) : (skipLine text).2 <:+ text := by
  induction text with
  | nil => exact List.suffix_rfl
  | cons a rest ih =>
    rw [skipLine]
    split
    · exact List.suffix_cons a rest
    · exact ih.trans (List.suffix_cons a rest)

theorem suffix_skipBlock {text rest : List α} (h : skipBlock text = some rest) :
    rest <:+ text := by
  fun_induction skipBlock text with
  | case1 a b rest' found =>
    cases h
    exact (List.suffix_cons b rest).trans (List.suffix_cons a _)
  | case2 a b rest' _ ih => exact (ih h).trans (List.suffix_cons a _)
  | case3 => cases h

theorem length_skipBlock_lt {text rest : List α} (h : skipBlock text = some rest) :
    rest.length < text.length := by
  fun_induction skipBlock text with
  | case1 a b rest' found =>
    cases h
    simp only [List.length_cons]
    omega
  | case2 a b rest' _ ih =>
    have := ih h
    simp only [List.length_cons] at this ⊢
    omega
  | case3 => cases h

/-- A text that starts with no comment gives up its first character. -/
theorem next_of_not_opensComment {text : List α} (h : opensComment text = false) :
    next text = .ok (text.head?, text.tail) := by
  match text with
  | [] => rfl
  | [a] => rfl
  | a :: b :: rest =>
    simp only [opensComment, Bool.and_eq_false_iff, beq_eq_false_iff_ne, Bool.or_eq_false_iff] at h
    rw [next, if_neg (by rintro ⟨ha, hb⟩; simp_all), if_neg (by rintro ⟨ha, hb⟩; simp_all)]
    rfl

theorem length_next {text rest : List α} {c : Option α} (h : next text = .ok (c, rest)) :
    rest.length ≤ text.length ∧ (c.isSome → rest.length < text.length) := by
  match text with
  | [] => cases h; exact ⟨Nat.le_refl 0, fun some => by cases some⟩
  | [a] => cases h; exact ⟨Nat.zero_le _, fun _ => Nat.zero_lt_one⟩
  | a :: b :: after =>
    rw [next] at h
    split at h
    · have := (suffix_skipLine after).length_le
      injection h with h
      simp only [h, List.length_cons] at this ⊢
      exact ⟨by omega, fun _ => by omega⟩
    · split at h
      · split at h
        · cases h
        next found =>
          have := length_skipBlock_lt found
          cases h
          simp only [List.length_cons]
          exact ⟨by omega, fun _ => by omega⟩
      · cases h
        simp only [List.length_cons]
        exact ⟨by omega, fun _ => by omega⟩

theorem suffix_next {text rest : List α} {c : Option α} (h : next text = .ok (c, rest)) :
    rest <:+ text := by
  match text with
  | [] => cases h; exact List.suffix_rfl
  | [a] => cases h; exact List.suffix_cons a []
  | a :: b :: after =>
    have deeper : after <:+ a :: b :: after := (List.suffix_cons b after).trans (List.suffix_cons a _)
    rw [next] at h
    split at h
    · injection h with h
      have inside := suffix_skipLine after
      rw [h] at inside
      exact inside.trans deeper
    · split at h
      · split at h
        · cases h
        next found =>
          cases h
          exact (suffix_skipBlock found).trans deeper
      · cases h
        exact List.suffix_cons a _

theorem rest_of_skipLine_none {text : List α} (h : (skipLine text).1 = none) :
    (skipLine text).2 = [] := by
  induction text with
  | nil => rfl
  | cons a rest ih =>
    rw [skipLine] at h ⊢
    split at h
    · cases h
    next other =>
      rw [if_neg other]
      exact ih h

/-- Only past the end of a text is nothing read. -/
theorem rest_of_next_none {text rest : List α} (h : next text = .ok (none, rest)) : rest = [] := by
  match text with
  | [] => cases h; rfl
  | [a] => cases h
  | a :: b :: after =>
    rw [next] at h
    split at h
    · injection h with h
      have := rest_of_skipLine_none (congrArg Prod.fst h)
      rwa [h] at this
    · split at h
      · split at h <;> cases h
      · cases h

theorem code_of_skipLine {text : List α} {a : α} (h : (skipLine text).1 = some a) :
    code a = newline := by
  induction text with
  | nil => cases h
  | cons b rest ih =>
    rw [skipLine] at h
    split at h
    next line =>
      cases h
      exact line
    · exact ih h

theorem separator_of_comment {text rest : List α} {a : α} (opens : opensComment text)
    (h : next text = .ok (some a, rest)) : isSeparator (code a) := by
  match text with
  | [] => cases opens
  | [b] => cases opens
  | b :: d :: after =>
    rw [next] at h
    split at h
    · injection h with h
      rw [code_of_skipLine (congrArg Prod.fst h)]
      decide
    next notLine =>
      split at h
      · split at h
        · cases h
        · cases h
          rw [code_blank]
          decide
      next notBlock =>
        simp only [opensComment, Bool.and_eq_true, Bool.or_eq_true, beq_iff_eq] at opens
        rcases opens with ⟨first, second | second⟩
        · exact absurd ⟨first, second⟩ notLine
        · exact absurd ⟨first, second⟩ notBlock

theorem error_of_next {text : List α} {what : Construct} (h : next text = .error what) :
    what = .comment := by
  match text with
  | [] => cases h
  | [a] => cases h
  | a :: b :: after =>
    rw [next] at h
    split at h
    · cases h
    · split at h
      · split at h
        · cases h; rfl
        · cases h
      · cases h

/-! ## Literals -/

/-- A literal cut off a text: the characters to copy, then the closing character
with what follows it, or what the end of the text left open. -/
abbrev Cut (α : Type) := List α × Except Construct (α × List α)

def Cut.after (front : List α) (cut : Cut α) : Cut α := (front ++ cut.1, cut.2)

/-- Cut a text at the first unprotected `close`. -/
def enclosed (what : Construct) (close : Nat) : List α → Cut α
  | [] => ([], .error what)
  | [a] => if code a = close then ([], .ok (a, [])) else ([a], .error what)
  | a :: b :: rest =>
    if code a = close then ([], .ok (a, b :: rest))
    else if code a = backslash then (enclosed what close rest).after [a, b]
    else (enclosed what close (b :: rest)).after [a]

/-- Cut a text where the regular expression it starts with, or whose character
class it starts in, is closed. -/
def regexBody (inClass : Bool) : List α → Cut α
  | [] => ([], .error (if inClass then .characterClass else .regex))
  | a :: rest =>
    if code a = backslash then
      match rest with
      | [] => ([a], .error (if inClass then .characterClass else .regex))
      | b :: rest => (regexBody inClass rest).after [a, b]
    else if inClass then (regexBody (code a != closeBracket) rest).after [a]
    else if code a = slash then ([], .ok (a, rest))
    else (regexBody (code a == openBracket) rest).after [a]

omit [Coded α] in
@[simp] theorem Cut.after_after (front more : List α) (cut : Cut α) :
    (cut.after more).after front = cut.after (front ++ more) := by
  simp [Cut.after]

theorem regexBody_of_ne {a : α} (h : code a ≠ backslash) (inClass : Bool) (rest : List α) :
    regexBody inClass (a :: rest) =
      if inClass then (regexBody (code a != closeBracket) rest).after [a]
      else if code a = slash then ([], .ok (a, rest))
      else (regexBody (code a == openBracket) rest).after [a] := by
  rw [regexBody.eq_def]
  exact if_neg h

theorem regexBody_of_eq {a : α} (h : code a = backslash) (inClass : Bool) (b : α)
    (rest : List α) :
    regexBody inClass (a :: b :: rest) = (regexBody inClass rest).after [a, b] := by
  rw [regexBody.eq_def]
  exact if_pos h

/-- Inside a character class a regular expression is cut where the class is, and
goes on from there. -/
theorem regexBody_inClass (text : List α) :
    regexBody true text =
      match enclosed .characterClass closeBracket text with
      | (body, .ok (close, rest)) => (regexBody false rest).after (body ++ [close])
      | (body, .error what) => (body, .error what) := by
  fun_induction enclosed .characterClass closeBracket text with
  | case1 => rfl
  | case2 a h =>
    have : code a ≠ backslash := by rw [h]; decide
    rw [regexBody, if_neg this, if_pos rfl, h]
    rfl
  | case3 a h =>
    by_cases hb : code a = backslash
    · simp [regexBody, hb]
    · simp [regexBody, hb, h, Cut.after]
  | case4 a b rest h =>
    have : code a ≠ backslash := by rw [h]; decide
    rw [regexBody, if_neg this, if_pos rfl, h]
    rfl
  | case5 a b rest h hb ih =>
    rw [regexBody, if_pos hb, ih]
    obtain ⟨body, ending⟩ := enclosed .characterClass closeBracket rest
    cases ending <;> simp [Cut.after]
  | case6 a b rest h hb ih =>
    rw [regexBody, if_neg hb, if_pos rfl, show (code a != closeBracket) = true by simpa using h, ih]
    obtain ⟨body, ending⟩ := enclosed .characterClass closeBracket (b :: rest)
    cases ending <;> simp [Cut.after]

/-- A cut loses nothing: what is copied, the closing character and what follows
make up the text, and all of it is copied if nothing closes. -/
def Cut.Of (close : Nat) (text : List α) (cut : Cut α) : Prop :=
  match cut.2 with
  | .ok (a, rest) => text = cut.1 ++ a :: rest ∧ code a = close
  | .error _ => text = cut.1

theorem Cut.Of.after {close : Nat} {text front : List α} {cut : Cut α} (h : cut.Of close text) :
    (cut.after front).Of close (front ++ text) := by
  obtain ⟨copied, ending⟩ := cut
  cases ending with
  | error what => exact congrArg (front ++ ·) h
  | ok closing =>
    refine ⟨?_, h.2⟩
    rw [h.1]
    simp [Cut.after]

theorem enclosed_of (what : Construct) (close : Nat) (text : List α) :
    (enclosed what close text).Of close text := by
  fun_induction enclosed what close text with
  | case1 => rfl
  | case2 a closes => exact ⟨rfl, closes⟩
  | case3 => rfl
  | case4 a b rest closes => exact ⟨rfl, closes⟩
  | case5 a b rest _ _ ih => exact ih.after
  | case6 a b rest _ _ ih => exact ih.after

theorem regexBody_of (inClass : Bool) (text : List α) :
    (regexBody inClass text).Of slash text := by
  fun_induction regexBody inClass text with
  | case1 => rfl
  | case2 => rfl
  | case3 inClass a _ b rest ih => exact ih.after
  | case4 a rest _ ih => exact ih.after
  | case5 inClass a rest _ _ closes => exact ⟨rfl, closes⟩
  | case6 inClass a rest _ _ _ ih => exact ih.after

theorem error_of_enclosed {what fault : Construct} {close : Nat} {text : List α}
    (h : (enclosed what close text).2 = .error fault) : fault = what := by
  fun_induction enclosed what close text with
  | case1 => cases h; rfl
  | case2 => cases h
  | case3 => cases h; rfl
  | case4 => cases h
  | case5 a b rest _ _ ih => exact ih h
  | case6 a b rest _ _ ih => exact ih h

theorem error_of_regexBody {fault : Construct} {inClass : Bool} {text : List α}
    (h : (regexBody inClass text).2 = .error fault) : fault ≠ .comment := by
  fun_induction regexBody inClass text with
  | case1 inClass => cases inClass <;> (cases h; decide)
  | case2 inClass => cases inClass <;> (cases h; decide)
  | case3 inClass a _ b rest ih => exact ih h
  | case4 a rest _ ih => exact ih h
  | case5 => cases h
  | case6 inClass a rest _ _ _ ih => exact ih h

theorem Cut.Of.suffix {close : Nat} {text rest : List α} {a : α} {cut : Cut α}
    (h : cut.Of close text) (closed : cut.2 = .ok (a, rest)) : rest <:+ text := by
  unfold Cut.Of at h
  rw [closed] at h
  rw [h.1]
  exact (List.suffix_cons a rest).trans (List.suffix_append cut.1 _)

/-- If nothing closes, the whole text is copied. -/
theorem Cut.Of.copied {close : Nat} {text : List α} {what : Construct} {cut : Cut α}
    (h : cut.Of close text) (unclosed : cut.2 = .error what) : cut.1 = text := by
  unfold Cut.Of at h
  rw [unclosed] at h
  exact h.symm

theorem Cut.Of.length_lt {close : Nat} {text rest : List α} {a : α} {cut : Cut α}
    (h : cut.Of close text) (closed : cut.2 = .ok (a, rest)) : rest.length < text.length := by
  unfold Cut.Of at h
  rw [closed] at h
  rw [h.1]
  simp only [List.length_append, List.length_cons]
  omega

/-! A literal is cut off at the same place whatever follows it. -/

theorem enclosed_of_ne {what : Construct} {close : Nat} {a : α} (other : code a ≠ close)
    (unprotected : code a ≠ backslash) (rest : List α) :
    enclosed what close (a :: rest) = (enclosed what close rest).after [a] := by
  cases rest with
  | nil => simp [enclosed, other, Cut.after]
  | cons b rest => rw [enclosed, if_neg other, if_neg unprotected]

theorem enclosed_of_eq {what : Construct} {close : Nat} {a : α} (closes : code a = close)
    (rest : List α) : enclosed what close (a :: rest) = ([], .ok (a, rest)) := by
  cases rest with
  | nil => rw [enclosed, if_pos closes]
  | cons b rest => rw [enclosed, if_pos closes]

omit [Coded α] in
theorem Cut.after_eq_ok {front body rest : List α} {a : α} {cut : Cut α}
    (h : cut.after front = (body, .ok (a, rest))) :
    ∃ tail, body = front ++ tail ∧ cut = (tail, .ok (a, rest)) := by
  obtain ⟨copied, ending⟩ := cut
  obtain ⟨rfl, rfl⟩ := Prod.mk.inj h
  exact ⟨copied, rfl, rfl⟩

theorem enclosed_again {what : Construct} {close : Nat} {text body rest : List α} {a : α}
    (h : enclosed what close text = (body, .ok (a, rest))) (rest' : List α) :
    enclosed what close (body ++ a :: rest') = (body, .ok (a, rest')) := by
  fun_induction enclosed what close text generalizing body with
  | case1 => cases h
  | case2 b closes => cases h; exact enclosed_of_eq closes rest'
  | case3 => cases h
  | case4 b d after closes => cases h; exact enclosed_of_eq closes rest'
  | case5 b d after other protects ih =>
    obtain ⟨tail, rfl, cut⟩ := Cut.after_eq_ok h
    show enclosed what close (b :: d :: (tail ++ a :: rest')) = _
    rw [enclosed, if_neg other, if_pos protects, ih cut]
    rfl
  | case6 b d after other unprotected ih =>
    obtain ⟨tail, rfl, cut⟩ := Cut.after_eq_ok h
    show enclosed what close (b :: (tail ++ a :: rest')) = _
    rw [enclosed_of_ne other unprotected, ih cut]
    rfl

theorem regexBody_again {inClass : Bool} {text body rest : List α} {a : α}
    (h : regexBody inClass text = (body, .ok (a, rest))) (rest' : List α) :
    regexBody inClass (body ++ a :: rest') = (body, .ok (a, rest')) := by
  fun_induction regexBody inClass text generalizing body with
  | case1 => cases h
  | case2 => cases h
  | case3 inClass b protects d after ih =>
    obtain ⟨tail, rfl, cut⟩ := Cut.after_eq_ok h
    show regexBody inClass (b :: d :: (tail ++ a :: rest')) = _
    rw [regexBody_of_eq protects, ih cut]
    rfl
  | case4 b after unprotected ih =>
    obtain ⟨tail, rfl, cut⟩ := Cut.after_eq_ok h
    show regexBody true (b :: (tail ++ a :: rest')) = _
    rw [regexBody_of_ne unprotected, if_pos rfl, ih cut]
    rfl
  | case5 inClass b after unprotected outside closes =>
    cases h
    rw [List.nil_append, regexBody_of_ne unprotected, if_neg outside, if_pos closes]
  | case6 inClass b after unprotected outside goes ih =>
    obtain ⟨tail, rfl, cut⟩ := Cut.after_eq_ok h
    show regexBody inClass (b :: (tail ++ a :: rest')) = _
    rw [regexBody_of_ne unprotected, if_neg outside, if_neg goes, ih cut]
    rfl

/-! ## More text behind -/

theorem skipLine_append_of_some {text : List α} {a : α} (h : (skipLine text).1 = some a)
    (more : List α) : skipLine (text ++ more) = (some a, (skipLine text).2 ++ more) := by
  induction text with
  | nil => cases h
  | cons b rest ih =>
    rw [List.cons_append, skipLine, skipLine]
    rw [skipLine] at h
    by_cases line : code b = newline
    · rw [if_pos line] at h ⊢
      rw [if_pos line, ← h]
    · rw [if_neg line] at h ⊢
      rw [if_neg line, ih h]

theorem skipLine_append_of_none {text : List α} (h : (skipLine text).1 = none) (more : List α) :
    skipLine (text ++ more) = skipLine more := by
  induction text with
  | nil => rfl
  | cons b rest ih =>
    rw [skipLine] at h
    by_cases line : code b = newline
    · rw [if_pos line] at h
      cases h
    · rw [if_neg line] at h
      rw [List.cons_append, skipLine, if_neg line, ih h]

theorem skipBlock_append {text rest : List α} (h : skipBlock text = some rest) (more : List α) :
    skipBlock (text ++ more) = some (rest ++ more) := by
  fun_induction skipBlock text with
  | case1 a b rest' found =>
    cases h
    show skipBlock (a :: b :: (rest ++ more)) = _
    rw [skipBlock, if_pos found]
  | case2 a b rest' other ih =>
    show skipBlock (a :: b :: (rest' ++ more)) = _
    rw [skipBlock, if_neg other]
    exact ih h
  | case3 => cases h

theorem opensComment_append {text : List α} (h : opensComment text) (more : List α) :
    opensComment (text ++ more) := by
  match text with
  | [] => cases h
  | [a] => cases h
  | a :: b :: rest => exact h

/-- A comment that is closed ends where it did. -/
theorem next_append {text rest : List α} {a : α} (opens : opensComment text)
    (h : next text = .ok (some a, rest)) (more : List α) :
    next (text ++ more) = .ok (some a, rest ++ more) := by
  match text with
  | [] => cases opens
  | [b] => cases opens
  | b :: d :: after =>
    show next (b :: d :: (after ++ more)) = _
    rw [next] at h ⊢
    by_cases line : code b = slash ∧ code d = slash
    · rw [if_pos line] at h ⊢
      injection h with h
      rw [skipLine_append_of_some (congrArg Prod.fst h), h]
    · rw [if_neg line] at h ⊢
      by_cases block : code b = slash ∧ code d = star
      · rw [if_pos block] at h ⊢
        cases found : skipBlock after with
        | none =>
          rw [found] at h
          cases h
        | some rest' =>
          rw [found] at h
          cases h
          rw [skipBlock_append found]
      · rw [if_neg block] at h ⊢
        cases h
        rfl

/-- A line comment that ends with its text goes on to the end of the line. -/
theorem next_append_of_none {text rest : List α} (opens : opensComment text)
    (h : next text = .ok (none, rest)) (more : List α) :
    next (text ++ more) = .ok (skipLine more) := by
  match text with
  | [] => cases opens
  | [b] => cases opens
  | b :: d :: after =>
    show next (b :: d :: (after ++ more)) = _
    rw [next] at h ⊢
    by_cases line : code b = slash ∧ code d = slash
    · rw [if_pos line] at h ⊢
      injection h with h
      rw [skipLine_append_of_none (congrArg Prod.fst h)]
    · rw [if_neg line] at h
      split at h
      · split at h <;> cases h
      · cases h

/-- What was copied of a literal that is not closed is copied first of any longer
text. -/
theorem enclosed_append_of_error {what fault : Construct} {close : Nat} {text : List α}
    (h : (enclosed what close text).2 = .error fault) (more : List α) :
    text <+: (enclosed what close (text ++ more)).1 := by
  fun_induction enclosed what close text with
  | case1 => exact List.nil_prefix
  | case2 => cases h
  | case3 a other =>
    cases more with
    | nil => simp [enclosed, other]
    | cons b rest =>
      rw [List.singleton_append, enclosed, if_neg other]
      split
      · exact List.prefix_append [a] (b :: _)
      · exact List.prefix_append [a] _
  | case4 => cases h
  | case5 a b rest other protects ih =>
    show _ <+: (enclosed what close (a :: b :: (rest ++ more))).1
    rw [enclosed, if_neg other, if_pos protects]
    exact (List.prefix_append_right_inj [a, b]).mpr (ih h)
  | case6 a b rest other unprotected ih =>
    show _ <+: (enclosed what close (a :: b :: (rest ++ more))).1
    rw [enclosed, if_neg other, if_neg unprotected]
    exact (List.prefix_append_right_inj [a]).mpr (ih h)

theorem regexBody_append_of_error {fault : Construct} {inClass : Bool} {text : List α}
    (h : (regexBody inClass text).2 = .error fault) (more : List α) :
    text <+: (regexBody inClass (text ++ more)).1 := by
  fun_induction regexBody inClass text with
  | case1 => exact List.nil_prefix
  | case2 inClass a protects =>
    cases more with
    | nil => simp [regexBody, protects]
    | cons b rest =>
      rw [List.singleton_append, regexBody_of_eq protects]
      exact List.prefix_append [a] (b :: _)
  | case3 inClass a protects b rest ih =>
    show _ <+: (regexBody inClass (a :: b :: (rest ++ more))).1
    rw [regexBody_of_eq protects]
    exact (List.prefix_append_right_inj [a, b]).mpr (ih h)
  | case4 a rest unprotected ih =>
    rw [List.cons_append, regexBody_of_ne unprotected, if_pos rfl]
    exact (List.prefix_append_right_inj [a]).mpr (ih h)
  | case5 => cases h
  | case6 inClass a rest unprotected outside goes ih =>
    rw [List.cons_append, regexBody_of_ne unprotected, if_neg outside, if_neg goes]
    exact (List.prefix_append_right_inj [a]).mpr (ih h)

end Plain
end ScriptPress
