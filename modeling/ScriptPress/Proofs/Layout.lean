/-
Reading back what the second pass writes.

`layout` lists what is written as items: the tokens, with the separators put
between them.  Cut into items again, the text written gives exactly these, since
every token is cut off where it was before, whatever follows it, and since the
separators put before a slash tell a division from a regular expression as the
ones dropped did.  There is one exception.  A slash and a star that are tokens
next to each other are written without anything in between, and read as the
start of a comment.
-/
import ScriptPress.Proofs.Stance

namespace ScriptPress

open Code

namespace Script

/-! ## What is written, as items -/

def laid (ctx : Context) : Item → List Item
  | .token t => (between ctx.edge ctx.gap t.edge).map .separator ++ [.token t]
  | _ => []

/-- The items written for items. -/
def layout (ctx : Context) : List Item → List Item
  | [] => []
  | item :: items => laid ctx item ++ layout (ctx.after item) items

theorem layout_no_comment (ctx : Context) (items : List Item) :
    (layout ctx items).any Item.isComment = false := by
  induction items generalizing ctx with
  | nil => rfl
  | cons item items ih =>
    rw [layout, List.any_append, ih, Bool.or_false]
    cases item with
    | token t => simp [laid, Item.isComment]
    | separator c => rfl
    | comment reads => rfl

theorem isSeparator_between {x : Symbol} {gap : List Nat} {y c : Nat}
    (h : c ∈ between x gap y) : isSeparator c := by
  unfold between at h
  repeat' split at h
  all_goals first
    | exact absurd h List.not_mem_nil
    | rw [List.mem_singleton.mp h]; decide

/-- What is kept between two tokens is kept again. -/
theorem between_between (x : Symbol) (gap : List Nat) (y : Nat) :
    between x (between x gap y) y = between x gap y := by
  cases x with
  | none => rfl
  | some x =>
    by_cases none : gap = []
    · simp [between, none]
    by_cases slashes : x = slash ∧ y = slash
    · simp [between, none, slashes]
    by_cases line : newline ∈ gap
    · cases kept : (keepsLineAfter x || isWord x) &&
          (keepsLineBefore y || isWord y || (y == slash && admitsRegex x)) with
      | false => simp [between, none, slashes, line, kept]
      | true => simp [between, none, slashes, line, kept]
    · have noLine : newline ≠ space := by decide
      cases kept : (isWord x && isWord y) || (isSign x && isSign y) with
      | false => simp [between, none, slashes, line, kept]
      | true => simp [between, none, slashes, line, kept, noLine]

theorem join_separators (ctx : Context) (gap : List Nat) (items : List Item) :
    join ctx (gap.map .separator ++ items) = join { ctx with gap := ctx.gap ++ gap } items := by
  induction gap generalizing ctx with
  | nil => simp
  | cons c gap ih =>
    show join { ctx with gap := ctx.gap ++ [c] } (gap.map .separator ++ items) = _
    rw [ih]
    simp

theorem join_layout (ctx : Context) (items : List Item) :
    join { ctx with gap := [] } (layout ctx items) = join ctx items := by
  induction items generalizing ctx with
  | nil => rfl
  | cons item items ih =>
    cases item with
    | separator c => exact ih (ctx.after (.separator c))
    | comment reads => exact ih (ctx.after (.comment reads))
    | token t =>
      rw [layout, laid, List.append_assoc, join_separators]
      show between ctx.edge ([] ++ between ctx.edge ctx.gap t.edge) t.edge ++ t.text ++
        join { token := some t } (layout { token := some t } items) = _
      rw [List.nil_append, between_between, ih { token := some t }]
      rfl

/-! ## Cutting a token off again -/

theorem opensComment_slash (rest : List Nat) :
    Plain.opensComment (slash :: rest) = false ↔
      rest.head? ≠ some slash ∧ rest.head? ≠ some star := by
  cases rest with
  | nil => simp [Plain.opensComment]
  | cons b after => simp [Plain.opensComment]

/-- A token is cut off at the same place in any text that starts with it, if the
slash it may be is taken for the same thing there. -/
theorem First.again {ctx ctx' : Context} {c : Nat} {rest after rest' : List Nat} {t : Token}
    (h : First ctx c rest (.token t) after)
    (alike : t.edge = slash → ctx'.opensRegex = ctx.opensRegex)
    (single : t = .character slash → Plain.opensComment (slash :: rest') = false) :
    first ctx' t.edge (t.text.tail ++ rest') = .ok (.token t, rest') := by
  cases h with
  | @quoted body _ quote cut =>
    have again := Plain.enclosed_again cut rest'
    show first ctx' c (body ++ [c] ++ rest') = _
    rw [List.append_assoc, List.singleton_append, first_of_quote quote, again]
    rfl
  | @regex body _ isSlash plain opens cut =>
    have again := Plain.regexBody_again cut rest'
    have opens' : ctx'.opensRegex = true := (alike rfl).trans opens
    have plain' : Plain.opensComment (slash :: (body ++ slash :: rest')) = false := by
      have whole : rest = body ++ slash :: after := by
        have := Plain.regexBody_of false rest
        rw [cut] at this
        exact this.1
      rw [isSlash, whole, opensComment_slash] at plain
      rw [opensComment_slash]
      cases body with
      | nil => exact plain
      | cons b body => exact plain
    show first ctx' slash (body ++ [slash] ++ rest') = _
    rw [List.append_assoc, List.singleton_append, first_of_regex plain' opens', again]
    rfl
  | character significant unquoted plain division =>
    have plain' : Plain.opensComment (c :: rest') = false := by
      by_cases isSlash : c = slash
      · rw [isSlash]
        exact single (by rw [isSlash])
      · cases rest' with
        | nil => rfl
        | cons b more => simp [Plain.opensComment, isSlash]
    have division' : (decide (c = slash) && ctx'.opensRegex) = false := by
      by_cases isSlash : c = slash
      · rw [alike isSlash, division isSlash, Bool.and_false]
      · simp [isSlash]
    show first ctx' c rest' = _
    rw [first, significant, unquoted, plain', division', if_neg (by decide), if_neg (by decide),
      if_neg (by decide), if_neg (by decide)]

theorem split_separators {gap : List Nat} (h : ∀ c ∈ gap, isSeparator c) (ctx : Context)
    (text : List Nat) :
    split ctx (gap ++ text) =
      (gap.map .separator ++ (split { ctx with gap := ctx.gap ++ gap } text).1,
        (split { ctx with gap := ctx.gap ++ gap } text).2) := by
  induction gap generalizing ctx with
  | nil => simp
  | cons c gap ih =>
    have cut : first ctx c (gap ++ text) = .ok (.separator c, gap ++ text) := by
      rw [first, if_pos (h c List.mem_cons_self)]
    rw [List.cons_append, split_of_ok cut, ih (fun d hd => h d (List.mem_cons_of_mem c hd))]
    simp [Context.after, Item.gap]

theorem between_slash (gap : List Nat) (y : Nat) :
    between (some slash) gap y = if gap ≠ [] ∧ y = slash then [space] else [] := by
  rw [between_of_dropped (.inr ⟨rfl, fun _ => rfl⟩)]
  by_cases none : gap = []
  · simp [none]
  · simp [none, show isSign slash = false from rfl]

/-- What is kept before a slash tells what it is as well as what was there. -/
theorem opensRegex_between (ctx : Context) :
    ({ ctx with gap := between ctx.edge ctx.gap slash } : Context).opensRegex =
      ctx.opensRegex := by
  have fresh : ({ ctx with gap := between ctx.edge ctx.gap slash } : Context).fresh =
      ctx.fresh := by
    unfold Context.fresh
    cases before : ctx.token with
    | none => rfl
    | some t =>
      cases t with
      | character c => rfl
      | quoted quote body => rfl
      | regex body =>
        rw [Context.edge, before]
        show (true && (between (some slash) ctx.gap slash).isEmpty) = _
        rw [between_slash]
        by_cases none : ctx.gap = [] <;> simp [none, Token.isRegex]
  unfold Context.opensRegex
  rw [fresh]
  rfl

theorem split_written {ctx : Context} {c : Nat} {rest after : List Nat} {t : Token}
    (h : First ctx c rest (.token t) after) (rest' : List Nat)
    (single : t = .character slash → Plain.opensComment (slash :: rest') = false) :
    split { ctx with gap := [] } (written ctx (.token t) ++ rest') =
      (laid ctx (.token t) ++ (split { token := some t } rest').1,
        (split { token := some t } rest').2) := by
  have again : first { ctx with gap := [] ++ between ctx.edge ctx.gap t.edge } t.edge
      (t.text.tail ++ rest') = .ok (.token t, rest') := by
    refine h.again (fun isSlash => ?_) single
    rw [List.nil_append, isSlash]
    exact opensRegex_between ctx
  rw [written, laid, List.append_assoc, split_separators fun c => isSeparator_between,
    t.text_eq_cons, List.cons_append, split_of_ok again]
  simp [Context.after]

theorem hasComment_of_opens {ctx : Context} {rest : List Nat}
    (opens : Plain.opensComment (slash :: rest)) : hasComment (split ctx (slash :: rest)) := by
  cases read : first ctx slash rest with
  | error what =>
    rw [split_of_error read]
    cases first_eq_error read with
    | comment => rfl
    | quoted quote => exact absurd quote (by decide)
    | regex _ plain => rw [opens] at plain; cases plain
  | ok cut =>
    obtain ⟨item, after⟩ := cut
    rw [split_of_ok read]
    cases first_eq_ok read with
    | comment => rfl
    | separator separates => exact absurd separates (by decide)
    | quoted quote => exact absurd quote (by decide)
    | regex _ plain => rw [opens] at plain; cases plain
    | character _ _ plain => rw [opens] at plain; cases plain

/-! ## Cutting all of it -/

theorem First.edge_eq {ctx : Context} {c : Nat} {rest after : List Nat} {t : Token}
    (h : First ctx c rest (.token t) after) : t.edge = c := h.parts.1.symm

theorem First.eq_star {ctx : Context} {c : Nat} {rest after : List Nat} {t : Token}
    (h : First ctx c rest (.token t) after) (edge : t.edge = star) : t = .character star := by
  cases h with
  | quoted quote =>
    obtain rfl : c = star := edge
    exact absurd quote (by decide)
  | regex => exact absurd (show slash = star from edge) (by decide)
  | character => rw [show c = star from edge]

/-- After a slash no slash is written next, and a star only for a star. -/
theorem head?_join_of_slash {ctx : Context} {text : List Nat} {items : List Item}
    (closed : split ctx text = (items, none)) (edge : ctx.edge = some slash)
    (single : ctx.gap = [] → text.head? ≠ some slash) :
    (join ctx items).head? ≠ some slash ∧
      ((join ctx items).head? = some star ↔ (tokens items).head? = some (.character star)) := by
  fun_induction split ctx text generalizing items with
  | case1 ctx =>
    cases closed
    exact ⟨nofun, nofun, nofun⟩
  | case2 => cases closed
  | case3 ctx c rest item after cut rest' fault rec ih =>
    obtain ⟨rfl, rfl⟩ := Prod.mk.inj closed
    have cut := first_eq_ok cut
    cases item with
    | separator d =>
      refine ih rec edge fun empty => absurd empty ?_
      show ctx.gap ++ [d] ≠ []
      simp
    | comment reads =>
      refine ih rec edge fun empty => ?_
      cases cut with
      | comment opens read =>
        -- only a comment at the end of the text leaves the gap empty
        obtain ⟨_, rfl⟩ : ctx.gap = [] ∧ reads = none := by
          simpa [Context.after, Item.gap] using empty
        rw [Plain.rest_of_next_none read]
        nofun
    | token t =>
      have first := cut.edge_eq
      rw [join, written, edge, between_slash]
      show _ ∧ (_ ↔ some t = _)
      by_cases second : ctx.gap ≠ [] ∧ t.edge = slash
      · rw [if_pos second]
        refine ⟨fun isSlash => ?_, fun isStar => ?_, fun isStar => ?_⟩
        · exact absurd (show space = slash from Option.some.inj isSlash) (by decide)
        · exact absurd (show space = star from Option.some.inj isStar) (by decide)
        · rw [Option.some.inj isStar] at second
          exact absurd second.2 (by decide)
      · rw [if_neg second, List.nil_append, t.text_eq_cons]
        refine ⟨fun isSlash => ?_, fun isStar => ?_, fun isStar => ?_⟩
        · have isSlash : t.edge = slash := Option.some.inj isSlash
          by_cases empty : ctx.gap = []
          · exact single empty (by rw [← first, isSlash]; rfl)
          · exact second ⟨empty, isSlash⟩
        · rw [cut.eq_star (Option.some.inj isStar)]
        · rw [Option.some.inj isStar]
          rfl

/-- A division sign is followed by a division sign or a star only if a star is the
next token. -/
theorem opensComment_join {ctx : Context} {rest after : List Nat} {items : List Item}
    (h : First ctx slash rest (.token (.character slash)) after)
    (closed : split { token := some (.character slash) } after = (items, none)) :
    Plain.opensComment (slash :: join { token := some (.character slash) } items) =
      decide ((tokens items).head? = some (.character star)) := by
  have single : after.head? ≠ some slash := by
    cases h with
    | character _ _ plain => exact ((opensComment_slash _).mp plain).1
  obtain ⟨noSlash, isStar⟩ := head?_join_of_slash closed rfl fun _ => single
  by_cases next : (tokens items).head? = some (.character star)
  · have head := isStar.mpr next
    rw [decide_eq_true next]
    exact (Bool.not_eq_false _).mp fun plain => ((opensComment_slash _).mp plain).2 head
  · rw [decide_eq_false next, opensComment_slash]
    exact ⟨noSlash, fun head => next (isStar.mp head)⟩

/-- The text written for items gives back their layout, unless a slash and a star
come together in it. -/
theorem split_join {ctx : Context} {text : List Nat} {items : List Item}
    (closed : split ctx text = (items, none))
    (apart : ¬ [.character slash, .character star] <:+: tokens items) :
    split { ctx with gap := [] } (join ctx items) = (layout ctx items, none) := by
  fun_induction split ctx text generalizing items with
  | case1 ctx => cases closed; exact split_nil _
  | case2 => cases closed
  | case3 ctx c rest item after cut rest' fault rec ih =>
    obtain ⟨rfl, rfl⟩ := Prod.mk.inj closed
    have cut := first_eq_ok cut
    cases item with
    | separator d => exact ih rec apart
    | comment reads => exact ih rec apart
    | token t =>
      have apart : ¬ [.character slash, .character star] <:+: t :: tokens rest' := apart
      have later : split { token := some t } (join (ctx.after (.token t)) rest') =
          (layout (ctx.after (.token t)) rest', none) :=
        ih rec fun touching => apart (touching.trans (List.suffix_cons _ _).isInfix)
      rw [join, split_written cut, later]
      · rfl
      · intro isSlash
        subst isSlash
        obtain rfl : slash = c := cut.edge_eq
        rw [show ctx.after (.token (.character slash)) = { token := some (.character slash) }
          from rfl, opensComment_join cut rec, decide_eq_false_iff_not]
        intro next
        obtain ⟨more, same⟩ := List.head?_eq_some_iff.mp next
        refine apart ⟨[], more, ?_⟩
        rw [same]
        rfl

theorem hasComment_append {front : List Item} {passed : List Item × Option Construct}
    (h : hasComment passed) : hasComment (front ++ passed.1, passed.2) := by
  unfold hasComment at h ⊢
  rw [List.any_append, Bool.or_assoc, h, Bool.or_true]

/-- If they do come together, a comment is read. -/
theorem hasComment_join {ctx : Context} {text : List Nat} {items : List Item}
    (closed : split ctx text = (items, none))
    (touching : [.character slash, .character star] <:+: tokens items) :
    hasComment (split { ctx with gap := [] } (join ctx items)) := by
  fun_induction split ctx text generalizing items with
  | case1 ctx => cases closed; cases List.infix_nil.mp touching
  | case2 => cases closed
  | case3 ctx c rest item after cut rest' fault rec ih =>
    obtain ⟨rfl, rfl⟩ := Prod.mk.inj closed
    have cut := first_eq_ok cut
    cases item with
    | separator d => exact ih rec touching
    | comment reads => exact ih rec touching
    | token t =>
      have touching : [.character slash, .character star] <:+: t :: tokens rest' := touching
      by_cases meet : t = .character slash ∧ (tokens rest').head? = some (.character star)
      · obtain ⟨rfl, next⟩ := meet
        obtain rfl : slash = c := cut.edge_eq
        have opens := opensComment_join cut rec
        rw [decide_eq_true next] at opens
        rw [join, written, List.append_assoc, split_separators fun c => isSeparator_between]
        exact hasComment_append (hasComment_of_opens opens)
      · have later : hasComment (split { token := some t } (join (ctx.after (.token t)) rest')) := by
          refine ih rec ?_
          rcases List.infix_cons_iff.mp touching with here | later
          · obtain ⟨rfl, more, same⟩ := List.cons_prefix_cons.mp here
            exact absurd ⟨rfl, by rw [← same]; rfl⟩ meet
          · exact later
        rw [join, split_written cut]
        · exact hasComment_append later
        · intro isSlash
          subst isSlash
          obtain rfl : slash = c := cut.edge_eq
          rw [show ctx.after (.token (.character slash)) = { token := some (.character slash) }
            from rfl, opensComment_join cut rec, decide_eq_false_iff_not]
          exact fun next => meet ⟨rfl, next⟩

end Script
end ScriptPress
