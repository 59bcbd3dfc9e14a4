/-
A script as a list of items, and what is written for them.

The first pass cuts the text into items: separators, comments and tokens.  A
token is a quoted literal, a regular expression or a single other character.
Whether a slash opens a regular expression depends on the token before it and on
what separators came in between, so the pass carries both along.

The second pass writes the tokens.  What it puts between two of them depends on
the character the left one ends with, the separators in between and the
character the right one starts with, and on nothing else.
-/
import ScriptPress.Proofs.Plain.Scan

namespace ScriptPress

open Code

inductive Token where
  | character (c : Nat)
  | quoted (quote : Nat) (body : List Nat)
  | regex (body : List Nat)
  deriving DecidableEq, Repr

namespace Token

def text : Token → List Nat
  | character c => [c]
  | quoted quote body => quote :: body ++ [quote]
  | regex body => slash :: body ++ [slash]

/-- The character a token starts with, which is also the one it ends with. -/
def edge : Token → Nat
  | character c => c
  | quoted quote _ => quote
  | regex _ => slash

theorem text_eq_cons (t : Token) : t.text = t.edge :: t.text.tail := by
  cases t <;> rfl

theorem head?_text (t : Token) : t.text.head? = some t.edge := by
  cases t <;> rfl

theorem getLast?_text (t : Token) : t.text.getLast? = some t.edge := by
  cases t with
  | character c => rfl
  | quoted quote body => exact List.getLast?_concat
  | regex body => exact List.getLast?_concat

def isRegex : Token → Bool
  | regex _ => true
  | _ => false

end Token

/-- A part of a script.  A comment comes with the separator it reads as; one that
runs to the end of the script reads as none. -/
inductive Item where
  | separator (c : Nat)
  | comment (reads : Option Nat)
  | token (t : Token)
  deriving DecidableEq, Repr

namespace Item

def isComment : Item → Bool
  | comment _ => true
  | _ => false

def gap : Item → List Nat
  | separator c => [c]
  | comment reads => reads.toList
  | token _ => []

def token? : Item → Option Token
  | token t => some t
  | _ => none

end Item

/-- What a text follows: the last token before it, and the separators since. -/
structure Context where
  token : Option Token := none
  gap : List Nat := []
  deriving DecidableEq, Repr

namespace Context

def edge (ctx : Context) : Symbol := ctx.token.map Token.edge

/-- Whether the last token is a regular expression that nothing separates from
the text. -/
def fresh (ctx : Context) : Bool := ctx.token.any Token.isRegex && ctx.gap.isEmpty

/-- Whether a slash here opens a regular expression. -/
def opensRegex (ctx : Context) : Bool := ctx.edge.any admitsRegex && !ctx.fresh

def after (ctx : Context) : Item → Context
  | .token t => { token := some t }
  | item => { ctx with gap := ctx.gap ++ item.gap }

end Context

namespace Script

/-! ## The first pass -/

def literal (make : List Nat → Token) (cut : Plain.Cut Nat) : Except Construct (Item × List Nat) :=
  match cut.2 with
  | .ok (_, rest) => .ok (.token (make cut.1), rest)
  | .error what => .error what

/-- The first item of the text `c :: rest`, and what follows it. -/
def first (ctx : Context) (c : Nat) (rest : List Nat) : Except Construct (Item × List Nat) :=
  if isSeparator c then .ok (.separator c, rest)
  else if isQuote c then literal (.quoted c) (Plain.enclosed .quoted c rest)
  else if Plain.opensComment (c :: rest) then
    match Plain.next (c :: rest) with
    | .ok (reads, rest) => .ok (.comment reads, rest)
    | .error what => .error what
  else if c = slash && ctx.opensRegex then literal .regex (Plain.regexBody false rest)
  else .ok (.token (.character c), rest)

theorem first_of_quote {c : Nat} (quote : isQuote c) (ctx : Context) (rest : List Nat) :
    first ctx c rest = literal (.quoted c) (Plain.enclosed .quoted c rest) := by
  rw [first, not_isSeparator_of_isQuote quote, quote, if_neg (by decide), if_pos rfl]

theorem first_of_regex {ctx : Context} {rest : List Nat}
    (plain : Plain.opensComment (slash :: rest) = false) (opens : ctx.opensRegex) :
    first ctx slash rest = literal .regex (Plain.regexBody false rest) := by
  rw [first, plain, opens, if_neg (by decide), if_neg (by decide), if_neg (by decide),
    if_pos (by decide)]

theorem first_of_comment {c : Nat} {rest after : List Nat} {reads : Option Nat}
    (opens : Plain.opensComment (c :: rest)) (read : Plain.next (c :: rest) = .ok (reads, after))
    (ctx : Context) : first ctx c rest = .ok (.comment reads, after) := by
  obtain rfl : c = slash := by
    cases rest with
    | nil => cases opens
    | cons b rest =>
      simp only [Plain.opensComment, Bool.and_eq_true, beq_iff_eq] at opens
      exact opens.1
  rw [first, if_neg (by decide), if_neg (by decide), if_pos opens, read]

theorem literal_eq_ok {make : List Nat → Token} {cut : Plain.Cut Nat} {item : Item}
    {after : List Nat} (h : literal make cut = .ok (item, after)) :
    item = .token (make cut.1) ∧ ∃ close, cut.2 = .ok (close, after) := by
  unfold literal at h
  split at h
  next close rest closed =>
    cases h
    exact ⟨rfl, close, closed⟩
  · cases h

theorem literal_eq_error {make : List Nat → Token} {cut : Plain.Cut Nat} {what : Construct}
    (h : literal make cut = .error what) : cut.2 = .error what := by
  unfold literal at h
  split at h
  · cases h
  next unclosed =>
    cases h
    exact unclosed

inductive First (ctx : Context) (c : Nat) (rest : List Nat) : Item → List Nat → Prop
  | separator (separates : isSeparator c) : First ctx c rest (.separator c) rest
  | comment {reads : Option Nat} {after : List Nat} (opens : Plain.opensComment (c :: rest))
      (read : Plain.next (c :: rest) = .ok (reads, after)) :
      First ctx c rest (.comment reads) after
  | quoted {body after : List Nat} (quote : isQuote c)
      (cut : Plain.enclosed .quoted c rest = (body, .ok (c, after))) :
      First ctx c rest (.token (.quoted c body)) after
  | regex {body after : List Nat} (isSlash : c = slash)
      (plain : Plain.opensComment (c :: rest) = false) (opens : ctx.opensRegex)
      (cut : Plain.regexBody false rest = (body, .ok (slash, after))) :
      First ctx c rest (.token (.regex body)) after
  | character (significant : isSeparator c = false) (unquoted : isQuote c = false)
      (plain : Plain.opensComment (c :: rest) = false)
      (division : c = slash → ctx.opensRegex = false) :
      First ctx c rest (.token (.character c)) rest

theorem closed_by {close a : Nat} {text body after : List Nat}
    {ending : Except Construct (Nat × List Nat)} (whole : Plain.Cut.Of close text (body, ending))
    (closed : ending = .ok (a, after)) : ending = .ok (close, after) := by
  subst closed
  have : a = close := whole.2
  rw [this]

theorem first_eq_ok {ctx : Context} {c : Nat} {rest after : List Nat} {item : Item}
    (h : first ctx c rest = .ok (item, after)) : First ctx c rest item after := by
  unfold first at h
  split at h
  next separates =>
    cases h
    exact .separator separates
  next significant =>
    split at h
    next quote =>
      obtain ⟨rfl, close, closed⟩ := literal_eq_ok h
      have closed := closed_by (Plain.enclosed_of .quoted c rest) closed
      exact .quoted quote (Prod.ext rfl closed)
    next unquoted =>
      split at h
      next opens =>
        split at h
        next read =>
          cases h
          exact .comment opens read
        · cases h
      next plain =>
        have plain : Plain.opensComment (c :: rest) = false := by simpa using plain
        split at h
        next opens =>
          obtain ⟨isSlash, opens⟩ : c = slash ∧ ctx.opensRegex = true := by simpa using opens
          obtain ⟨rfl, close, closed⟩ := literal_eq_ok h
          have closed := closed_by (Plain.regexBody_of false rest) closed
          exact .regex isSlash plain opens (Prod.ext rfl closed)
        next division =>
          cases h
          refine .character (by simpa using significant) (by simpa using unquoted) plain ?_
          intro isSlash
          simpa [isSlash] using division

inductive Unclosed (ctx : Context) (c : Nat) (rest : List Nat) : Construct → Prop
  | comment (opens : Plain.opensComment (c :: rest))
      (read : Plain.next (c :: rest) = .error .comment) : Unclosed ctx c rest .comment
  | quoted (quote : isQuote c)
      (cut : (Plain.enclosed .quoted c rest).2 = .error .quoted) : Unclosed ctx c rest .quoted
  | regex {what : Construct} (isSlash : c = slash)
      (plain : Plain.opensComment (c :: rest) = false) (opens : ctx.opensRegex)
      (cut : (Plain.regexBody false rest).2 = .error what) (named : what ≠ .comment) :
      Unclosed ctx c rest what

theorem first_eq_error {ctx : Context} {c : Nat} {rest : List Nat} {what : Construct}
    (h : first ctx c rest = .error what) : Unclosed ctx c rest what := by
  unfold first at h
  split at h
  · cases h
  · split at h
    next quote =>
      have cut := literal_eq_error h
      obtain rfl := Plain.error_of_enclosed cut
      exact .quoted quote cut
    · split at h
      next opens =>
        split at h
        · cases h
        next read =>
          cases h
          obtain rfl := Plain.error_of_next read
          exact .comment opens read
      next plain =>
        split at h
        next opens =>
          obtain ⟨isSlash, opens⟩ : c = slash ∧ ctx.opensRegex = true := by simpa using opens
          have cut := literal_eq_error h
          exact .regex isSlash (by simpa using plain) opens cut (Plain.error_of_regexBody cut)
        · cases h

theorem First.length_lt {ctx : Context} {c : Nat} {rest after : List Nat} {item : Item}
    (h : First ctx c rest item after) : after.length < (c :: rest).length := by
  cases h with
  | separator => exact Nat.lt_succ_self _
  | character => exact Nat.lt_succ_self _
  | quoted quote cut =>
    have whole := Plain.enclosed_of .quoted c rest
    exact Nat.lt_succ_of_lt (whole.length_lt (congrArg Prod.snd cut))
  | regex isSlash plain opens cut =>
    have whole := Plain.regexBody_of false rest
    exact Nat.lt_succ_of_lt (whole.length_lt (congrArg Prod.snd cut))
  | @comment reads _ opens read =>
    cases reads with
    | none =>
      rw [Plain.rest_of_next_none read]
      exact Nat.succ_pos _
    | some reads => exact (Plain.length_next read).2 rfl

/-- A token is cut off the front of its text. -/
theorem First.text_eq {ctx : Context} {c : Nat} {rest after : List Nat} {t : Token}
    (h : First ctx c rest (.token t) after) : c :: rest = t.text ++ after := by
  cases h with
  | @quoted body _ quote cut =>
    have whole := Plain.enclosed_of .quoted c rest
    rw [cut] at whole
    rw [whole.1]
    simp [Token.text]
  | @regex body _ isSlash plain opens cut =>
    have whole := Plain.regexBody_of false rest
    rw [cut] at whole
    rw [isSlash, whole.1]
    simp [Token.text]
  | character => rfl

theorem First.parts {ctx : Context} {c : Nat} {rest after : List Nat} {t : Token}
    (h : First ctx c rest (.token t) after) : c = t.edge ∧ rest = t.text.tail ++ after := by
  have whole := h.text_eq
  rw [t.text_eq_cons] at whole
  exact List.cons.inj whole

set_option linter.unusedVariables false in
/-- The items of a text, up to one that is not closed if there is such a one. -/
def split (ctx : Context) : List Nat → List Item × Option Construct
  | [] => ([], none)
  | c :: rest =>
    match h : first ctx c rest with
    | .error what => ([], some what)
    | .ok (item, after) =>
      let (items, fault) := split (ctx.after item) after
      (item :: items, fault)
termination_by text => text.length
decreasing_by exact (first_eq_ok h).length_lt

@[simp] theorem split_nil (ctx : Context) : split ctx [] = ([], none) := by
  rw [split]

theorem split_of_ok {ctx : Context} {c : Nat} {rest after : List Nat} {item : Item}
    (h : first ctx c rest = .ok (item, after)) :
    split ctx (c :: rest) =
      (item :: (split (ctx.after item) after).1, (split (ctx.after item) after).2) := by
  rw [split]
  split <;> simp_all

theorem split_of_error {ctx : Context} {c : Nat} {rest : List Nat} {what : Construct}
    (h : first ctx c rest = .error what) : split ctx (c :: rest) = ([], some what) := by
  rw [split]
  split <;> simp_all

def tokens (items : List Item) : List Token := items.filterMap Item.token?

theorem tokens_cons (item : Item) (items : List Item) :
    tokens (item :: items) = item.token?.toList ++ tokens items := by
  cases item <;> rfl

theorem token_foldl_after (ctx : Context) (items : List Item) :
    (items.foldl Context.after ctx).token = (tokens items).getLast?.or ctx.token := by
  induction items generalizing ctx with
  | nil => rfl
  | cons item items ih =>
    rw [List.foldl_cons, ih, tokens_cons, List.getLast?_append, Option.or_assoc]
    cases item <;> rfl

/-- Whether a comment is among the items, or is what is not closed. -/
def hasComment (passed : List Item × Option Construct) : Bool :=
  passed.1.any Item.isComment || decide (passed.2 = some .comment)

/-! ## The second pass -/

/-- What is written for the separators `gap` between a token that ends with `x`
and one that starts with `y`.

Two slashes stay apart.  Otherwise a line end among the separators is kept, as
the only one, if a statement may end at `x` and one may start at `y`; a regular
expression may start one wherever it may follow `x`.  Without a line end, a space
is kept between words and between signs. -/
def between (x : Symbol) (gap : List Nat) (y : Nat) : List Nat :=
  match x with
  | none => []
  | some x =>
    if gap = [] then []
    else if x = slash ∧ y = slash then [space]
    else if newline ∈ gap then
      if (keepsLineAfter x || isWord x) &&
          (keepsLineBefore y || isWord y || (y == slash && admitsRegex x)) then [newline]
      else []
    else if (isWord x && isWord y) || (isSign x && isSign y) then [space]
    else []

def written (ctx : Context) : Item → List Nat
  | .token t => between ctx.edge ctx.gap t.edge ++ t.text
  | _ => []

def join (ctx : Context) : List Item → List Nat
  | [] => []
  | item :: items => written ctx item ++ join (ctx.after item) items

theorem join_append (ctx : Context) (front items : List Item) :
    join ctx (front ++ items) = join ctx front ++ join (front.foldl Context.after ctx) items := by
  induction front generalizing ctx with
  | nil => rfl
  | cons item front ih =>
    rw [List.cons_append, join, ih, join, List.append_assoc]
    rfl

/-! Separators and comments only add to the gap. -/

theorem after_of_blank {item : Item} (blank : item.token? = none) (ctx : Context) :
    ctx.after item = { ctx with gap := ctx.gap ++ item.gap } := by
  cases item with
  | token t => cases blank
  | separator c => rfl
  | comment reads => rfl

theorem written_of_blank {item : Item} (blank : item.token? = none) (ctx : Context) :
    written ctx item = [] := by
  cases item with
  | token t => cases blank
  | separator c => rfl
  | comment reads => rfl

theorem foldl_after_blank {items : List Item} (blank : ∀ item ∈ items, item.token? = none)
    (ctx : Context) :
    items.foldl Context.after ctx = { ctx with gap := ctx.gap ++ items.flatMap Item.gap } := by
  induction items generalizing ctx with
  | nil => simp
  | cons item items ih =>
    rw [List.forall_mem_cons] at blank
    rw [List.foldl_cons, ih blank.2, after_of_blank blank.1]
    simp

theorem join_blank {items : List Item} (blank : ∀ item ∈ items, item.token? = none)
    (ctx : Context) : join ctx items = [] := by
  induction items generalizing ctx with
  | nil => rfl
  | cons item items ih =>
    rw [List.forall_mem_cons] at blank
    rw [join, ih blank.2, written_of_blank blank.1]
    rfl

/-! ## What is not closed -/

/-- What is written at most for the text `c :: rest` if it starts with something
that is not closed: nothing of a comment, and all there is of a literal. -/
def torn (ctx : Context) (c : Nat) (rest : List Nat) : Construct → List Nat
  | .comment => []
  | _ => between ctx.edge ctx.gap c ++ c :: rest

theorem torn_of_ne {what : Construct} (h : what ≠ .comment) (ctx : Context) (c : Nat)
    (rest : List Nat) : torn ctx c rest what = between ctx.edge ctx.gap c ++ c :: rest := by
  cases what with
  | comment => exact absurd rfl h
  | quoted => rfl
  | characterClass => rfl
  | regex => rfl

end Script
end ScriptPress
