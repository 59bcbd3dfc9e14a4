/-
Scripts with more behind them.

Items are cut off a text from the front, and where an item ends shows in the item
itself.  More text behind changes the last item at most: a line comment that the
end of the text closed goes on to the end of the line, a literal or a comment that
was not closed goes on, and a slash may turn out to open something.

So what is written for a text that does not end in a slash is written first for
every longer text (`draft_prefix_append`).  And two scripts with a line end between
them are minified one after the other, if the first one ends in a semicolon: from
there on a run reads as from the start, except that a slash may open a regular
expression (`minify_concat`).
-/
import ScriptPress.Proofs.Draft
import ScriptPress.Proofs.Rescan

namespace ScriptPress
namespace Script

open Code

/-! ## One item -/

theorem opensComment_slash_append {rest : List Nat}
    (plain : Plain.opensComment (slash :: rest) = false) (filled : rest ≠ []) (more : List Nat) :
    Plain.opensComment (slash :: (rest ++ more)) = false := by
  obtain ⟨b, rest', rfl⟩ := List.exists_cons_of_ne_nil filled
  exact plain

namespace First

variable {ctx : Context} {c : Nat} {rest after : List Nat} {item : Item}

theorem suffix (h : First ctx c rest item after) : after <:+ c :: rest := by
  cases item with
  | token t => exact h.text_eq ▸ List.suffix_append t.text after
  | separator d =>
    cases h
    exact List.suffix_cons c rest
  | comment reads =>
    cases h with
    | comment opens read => exact Plain.suffix_next read

/-- An item that does not start with a slash, or is no token, is the same whatever
comes before it. -/
theorem elsewhere (h : First ctx c rest item after)
    (other : ∀ t, item = .token t → t.edge ≠ slash) (ctx' : Context) :
    first ctx' c rest = .ok (item, after) := by
  cases item with
  | separator d =>
    cases h with
    | separator separates => rw [first, if_pos separates]
  | comment reads =>
    cases h with
    | comment opens read => exact first_of_comment opens read ctx'
  | token t =>
    obtain ⟨rfl, rfl⟩ := h.parts
    apply h.again
    · intro isSlash
      exact absurd isSlash (other t rfl)
    · rintro rfl
      exact absurd rfl (other _ rfl)

/-- An item is the same if more text follows, unless it is a line comment that the
end of the text closes or a slash at the end. -/
theorem append (h : First ctx c rest item after) (closed : item ≠ .comment none)
    (followed : item = .token (.character slash) → after ≠ []) (more : List Nat) :
    first ctx c (rest ++ more) = .ok (item, after ++ more) := by
  cases item with
  | separator d =>
    cases h with
    | separator separates => rw [first, if_pos separates]
  | comment reads =>
    cases h with
    | comment opens read =>
      cases reads with
      | none => exact absurd rfl closed
      | some d =>
        exact first_of_comment (Plain.opensComment_append opens more)
          (Plain.next_append opens read more) ctx
  | token t =>
    obtain ⟨rfl, rfl⟩ := h.parts
    rw [List.append_assoc]
    apply h.again
    · intro _
      rfl
    · rintro rfl
      cases h with
      | character _ _ plain => exact opensComment_slash_append plain (followed rfl) more

/-- A line comment that the end of the text closes goes on to the end of the line. -/
theorem append_line (h : First ctx c rest (.comment none) after) (more : List Nat) :
    first ctx c (rest ++ newline :: more) = .ok (.comment (some newline), more) := by
  cases h with
  | comment opens read =>
    exact first_of_comment (Plain.opensComment_append opens _)
      (Plain.next_append_of_none opens read (newline :: more)) ctx

theorem rest_of_last (h : First ctx c rest (.comment none) after) : after = [] := by
  cases h with
  | comment opens read => exact Plain.rest_of_next_none read

end First

/-! ## Drafts -/

/-- A draft starts with what is copied of a literal at the start of its text. -/
theorem literal_prefix_draft {ctx : Context} {c close : Nat} {rest front : List Nat}
    {make : List Nat → Token} {cut : Plain.Cut Nat} (h : first ctx c rest = literal make cut)
    (opened : ∀ body, (make body).text = c :: body ++ [c]) (whole : cut.Of close rest)
    (named : ∀ what, cut.2 = .error what → what ≠ .comment) (copied : front <+: cut.1) :
    between ctx.edge ctx.gap c ++ c :: front <+: draft ctx (c :: rest) := by
  have starts : between ctx.edge ctx.gap c ++ c :: cut.1 <+: draft ctx (c :: rest) := by
    cases ending : cut.2 with
    | ok closing =>
      have edge : (make cut.1).edge = c := by
        have head := (make cut.1).head?_text
        rw [opened] at head
        exact (Option.some.inj head).symm
      have cutOff : first ctx c rest = .ok (.token (make cut.1), closing.2) := by
        rw [h, literal, ending]
      rw [draft_of_ok cutOff, written, edge, opened]
      exact ⟨c :: draft (ctx.after (.token (make cut.1))) closing.2, by simp⟩
    | error what =>
      have unclosed : first ctx c rest = .error what := by rw [h, literal, ending]
      have all : draft ctx (c :: rest) = between ctx.edge ctx.gap c ++ c :: cut.1 := by
        rw [draft_of_error unclosed, torn_of_ne (named what ending), whole.copied ending]
      exact all ▸ List.prefix_rfl
  have fewer : c :: front <+: c :: cut.1 := List.cons_prefix_cons.mpr ⟨rfl, copied⟩
  exact ((List.prefix_append_right_inj _).mpr fewer).trans starts

/-- What is copied of an unclosed literal is copied first if the text goes on. -/
theorem torn_prefix_append {ctx : Context} {c : Nat} {rest : List Nat} {what : Construct}
    (h : Unclosed ctx c rest what) (last : (c :: rest).getLast? ≠ some slash) (more : List Nat) :
    torn ctx c rest what <+: draft ctx (c :: (rest ++ more)) := by
  cases h with
  | comment => exact List.nil_prefix
  | quoted quote cut =>
    apply literal_prefix_draft (first_of_quote quote ctx (rest ++ more)) (fun _ => rfl)
      (Plain.enclosed_of .quoted c _)
    · intro what cut
      rw [Plain.error_of_enclosed cut]
      decide
    · exact Plain.enclosed_append_of_error cut more
  | regex isSlash plain opens cut named =>
    subst isSlash
    have filled : rest ≠ [] := by
      rintro rfl
      exact last rfl
    rw [torn_of_ne named]
    apply literal_prefix_draft
      (first_of_regex (opensComment_slash_append plain filled more) opens) (fun _ => rfl)
      (Plain.regexBody_of false _)
    · intro what cut
      exact Plain.error_of_regexBody cut
    · exact Plain.regexBody_append_of_error cut more

/-- More text only adds to the draft of a text that does not end in a slash. -/
theorem draft_prefix_append {ctx : Context} {text : List Nat} (last : text.getLast? ≠ some slash)
    (more : List Nat) : draft ctx text <+: draft ctx (text ++ more) := by
  fun_induction draft ctx text with
  | case1 ctx => exact List.nil_prefix
  | case2 ctx c rest what unclosed =>
    exact torn_prefix_append (first_eq_error unclosed) last more
  | case3 ctx c rest item after cut ih =>
    have cut := first_eq_ok cut
    by_cases final : item = .comment none
    · subst final
      rw [cut.rest_of_last, draft_nil]
      exact List.nil_prefix
    · have followed : item = .token (.character slash) → after ≠ [] := by
        rintro rfl rfl
        exact last (by rw [cut.text_eq]; rfl)
      have later : after.getLast? ≠ some slash := by
        obtain ⟨front, whole⟩ := cut.suffix
        intro ends
        rw [← whole, List.getLast?_append, ends] at last
        exact last rfl
      rw [List.cons_append, draft_of_ok (cut.append final followed more)]
      exact (List.prefix_append_right_inj _).mpr (ih later)

/-- What is stored for a script that does not end in a slash, in full or up to what
is not closed, is the beginning of what every longer script that can be minified
gives. -/
theorem stored_prefix_of_minify_append {script more out : Bytes}
    (last : script.getLast? ≠ some 47) (succeeds : minify (script ++ more) = .ok out) :
    (Outcome.state (minifyStream { supply := .bytes script } {})).sink.output.stored.toList <+:
      out := by
  obtain ⟨items, closed, rfl⟩ := closed_of_minify succeeds
  have noSlash : (characters script).getLast? ≠ some slash := by
    intro ends
    rw [characters, List.getLast?_map, Option.map_eq_some_iff] at ends
    obtain ⟨byte, isLast, counts⟩ := ends
    have isSlash : byte.toNat = slash :=
      Decidable.byContradiction fun other => effective_ne other (by decide) counts
    exact last (isLast.trans (congrArg some (UInt8.toNat_inj.mp isSlash)))
  have grows : draft {} (characters script) <+: draft {} (characters script ++ characters more) :=
    draft_prefix_append noSlash (characters more)
  rw [← characters_append, draft_of_closed closed] at grows
  exact (stored_prefix_draft script).trans (grows.map _)

/-- The script `a+ 'b` stops in a literal, with `a+'b` stored.  It goes on with `c';`
to a script that gives `a+'bc';`. -/
theorem stored_prefix_of_minify_append_literal :
    ([97, 43, 32, 39, 98] : Bytes).getLast? ≠ some 47 ∧
      minify ([97, 43, 32, 39, 98] ++ [99, 39, 59]) = .ok [97, 43, 39, 98, 99, 39, 59] ∧
      (Outcome.state
        (minifyStream { supply := .bytes [97, 43, 32, 39, 98] } {})).sink.output.stored.toList <+:
          [97, 43, 39, 98, 99, 39, 59] :=
  have last : ([97, 43, 32, 39, 98] : Bytes).getLast? ≠ some 47 := by decide
  have succeeds : minify ([97, 43, 32, 39, 98] ++ [99, 39, 59]) =
      .ok [97, 43, 39, 98, 99, 39, 59] :=
    minify_eq_ok (by decide +kernel) (by decide +kernel)
  ⟨last, succeeds, stored_prefix_of_minify_append last succeeds⟩

/-! ## One script after the other -/

theorem getLast?_tokens_of_tail {item : Item} {items : List Item} {t : Token}
    (h : (tokens items).getLast? = some t) : (tokens (item :: items)).getLast? = some t := by
  rw [tokens_cons, List.getLast?_append, h]
  rfl

/-- What is written ends with the last token. -/
theorem getLast?_join (ctx : Context) (items : List Item) :
    (join ctx items).getLast? = (tokens items).getLast?.map Token.edge := by
  induction items generalizing ctx with
  | nil => rfl
  | cons item items ih =>
    rw [join, tokens_cons, List.getLast?_append, List.getLast?_append, ih, Option.map_or]
    cases item with
    | token t =>
      have last : (written ctx (.token t)).getLast? = some t.edge := by
        rw [written, List.getLast?_append, t.getLast?_text]
        rfl
      rw [last]
      rfl
    | separator c => rfl
    | comment reads => rfl

/-- A line end behind a text that does not end with a slash closes all that the end
of the text closed: the same tokens are cut off, and then what follows. -/
theorem split_append_line {ctx : Context} {text : List Nat} {items : List Item}
    (closed : split ctx text = (items, none))
    (last : (tokens items).getLast? ≠ some (.character slash)) (more : List Nat) :
    ∃ front, tokens front = tokens items ∧ join ctx front = join ctx items ∧
      split ctx (text ++ newline :: more) =
        (front ++ (split (front.foldl Context.after ctx) more).1,
          (split (front.foldl Context.after ctx) more).2) := by
  fun_induction split ctx text generalizing items with
  | case1 ctx =>
    cases closed
    have cut : first ctx newline more = .ok (.separator newline, more) := rfl
    exact ⟨[.separator newline], rfl, rfl, split_of_ok cut⟩
  | case2 => cases closed
  | case3 ctx c rest item after cut items' fault rec ih =>
    obtain ⟨rfl, rfl⟩ := Prod.mk.inj closed
    have cut := first_eq_ok cut
    by_cases final : item = .comment none
    · subst final
      rw [cut.rest_of_last, split_nil] at rec
      cases rec
      exact ⟨[.comment (some newline)], rfl, rfl, split_of_ok (cut.append_line more)⟩
    · have followed : item = .token (.character slash) → after ≠ [] := by
        rintro rfl rfl
        rw [split_nil] at rec
        cases rec
        exact last rfl
      obtain ⟨front, sameTokens, sameText, later⟩ :=
        ih rec fun ends => last (getLast?_tokens_of_tail ends)
      refine ⟨item :: front, ?_, ?_, ?_⟩
      · rw [tokens_cons, tokens_cons, sameTokens]
      · rw [join, join, sameText]
      · rw [List.cons_append, split_of_ok (cut.append final followed _), later]
        rfl

theorem between_semicolon (gap : List Nat) (y : Nat) : between (some 59) gap y = [] := by
  rw [between_of_dropped (.inr ⟨rfl, fun _ => rfl⟩)]
  simp [slash, show isSign 59 = false from rfl]

/-- After a semicolon a text is cut and written as at the start of a script, unless
its first token is a slash. -/
theorem split_after_semicolon {ctx ctx' : Context} {text : List Nat} {items : List Item}
    (closed : split ctx text = (items, none)) (start : ctx.edge = none)
    (head : (join ctx items).head? ≠ some slash) (after : ctx'.edge = some 59) :
    split ctx' text = (items, none) ∧ join ctx' items = join ctx items := by
  fun_induction split ctx text generalizing items ctx' with
  | case1 ctx =>
    cases closed
    exact ⟨split_nil ctx', rfl⟩
  | case2 => cases closed
  | case3 ctx c rest item behind cut items' fault rec ih =>
    obtain ⟨rfl, rfl⟩ := Prod.mk.inj closed
    have cut := first_eq_ok cut
    cases item with
    | token t =>
      have unseparated : between none ctx.gap t.edge = [] := rfl
      have other : t.edge ≠ slash := by
        intro isSlash
        rw [join, written, start, unseparated, List.nil_append, t.text_eq_cons, isSlash] at head
        exact head rfl
      have same : first ctx' c rest = .ok (.token t, behind) :=
        cut.elsewhere (fun s isToken => by cases isToken; exact other) ctx'
      constructor
      · rw [split_of_ok same]
        show (_ :: (split (ctx.after (.token t)) behind).1,
          (split (ctx.after (.token t)) behind).2) = _
        rw [rec]
      · rw [join, join, written, written, after, start, between_semicolon, unseparated]
        rfl
    | separator d =>
      have same := cut.elsewhere (fun t isToken => by cases isToken) ctx'
      have edge : (ctx'.after (.separator d)).edge = some 59 := after
      obtain ⟨again, sameText⟩ := ih rec start head edge
      exact ⟨by rw [split_of_ok same, again], sameText⟩
    | comment reads =>
      have same := cut.elsewhere (fun t isToken => by cases isToken) ctx'
      have edge : (ctx'.after (.comment reads)).edge = some 59 := after
      obtain ⟨again, sameText⟩ := ih rec start head edge
      exact ⟨by rw [split_of_ok same, again], sameText⟩

/-- Two scripts with a line end between them give what they give one after the other,
if what the first gives ends in a semicolon and what the second gives does not
start with a slash. -/
theorem minify_concat {script script' out out' : Bytes} (left : minify script = .ok out)
    (ends : out.getLast? = some 59) (right : minify script' = .ok out')
    (starts : out'.head? ≠ some 47) :
    minify (script ++ 10 :: script') = .ok (out ++ out') := by
  obtain ⟨items, closed, rfl⟩ := closed_of_minify left
  obtain ⟨items', closed', rfl⟩ := closed_of_minify right
  have last : (join {} items).getLast? = some 59 := by
    rw [← characters_output closed, characters, List.getLast?_map, ends]
    rfl
  rw [getLast?_join, Option.map_eq_some_iff] at last
  obtain ⟨t, isLast, edge⟩ := last
  have notSlash : (tokens items).getLast? ≠ some (.character slash) := by
    rw [isLast]
    rintro same
    cases same
    exact absurd edge (by decide)
  obtain ⟨front, sameTokens, sameText, cut⟩ :=
    split_append_line closed notSlash (characters script')
  have head : (join {} items').head? ≠ some slash := by
    intro isSlash
    rw [Plain.bytes, List.head?_map, isSlash] at starts
    exact starts rfl
  have semicolon : (front.foldl Context.after {}).edge = some 59 := by
    rw [Context.edge, token_foldl_after, sameTokens, isLast]
    exact congrArg some edge
  obtain ⟨again, sameText'⟩ := split_after_semicolon closed' rfl head semicolon
  have whole : split {} (characters (script ++ 10 :: script')) = (front ++ items', none) := by
    rw [characters_append]
    show split {} (characters script ++ newline :: characters script') = _
    rw [cut, again]
  rw [minify_of_closed whole, join_append, sameText, sameText', Plain.bytes_append]

/-- The script `a ; // b` leaves a comment open, which the line end closes before
`+ c`. -/
theorem minify_concat_comment :
    minify [97, 32, 59, 32, 47, 47, 32, 98] = .ok [97, 59] ∧ minify [43, 32, 99] = .ok [43, 99] ∧
      minify ([97, 32, 59, 32, 47, 47, 32, 98] ++ 10 :: [43, 32, 99]) =
        .ok ([97, 59] ++ [43, 99]) :=
  have left : minify [97, 32, 59, 32, 47, 47, 32, 98] = .ok [97, 59] :=
    minify_eq_ok (by decide +kernel) (by decide +kernel)
  have right : minify [43, 32, 99] = .ok [43, 99] :=
    minify_eq_ok (by decide +kernel) (by decide +kernel)
  ⟨left, right, minify_concat left (by decide) right (by decide)⟩

end Script
end ScriptPress
