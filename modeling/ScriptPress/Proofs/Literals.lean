/-
Literals in the output.

A literal is copied as the characters it counts as: byte for byte if no control
code but the line end stands in it, and otherwise with each of them replaced.
What follows a regular expression is written right after its closing slash, as
if that were a division sign; only another slash is kept apart from it.
-/
import ScriptPress.Proofs.Grammar
import ScriptPress.Proofs.Layout
import ScriptPress.Proofs.Passes

namespace ScriptPress
namespace Script

open Code

/-! ## First items -/

theorem first_quoted {quote : Nat} {body : List Nat} (quotes : isQuote quote)
    (h : EnclosedBody quote body) (ctx : Context) (rest : List Nat) :
    first ctx quote (body ++ quote :: rest) = .ok (.token (.quoted quote body), rest) := by
  have closes : quote ≠ backslash := by
    rcases isQuote_iff.mp quotes with rfl | rfl | rfl <;> decide
  rw [first_of_quote quotes, h.enclosed closes]
  rfl

theorem first_regex {body : List Nat} (h : RegexBody body) (filled : body ≠ [])
    (starts : body.head? ≠ some star) {ctx : Context} (opens : ctx.opensRegex)
    (rest : List Nat) :
    first ctx slash (body ++ slash :: rest) = .ok (.token (.regex body), rest) := by
  have plain : Plain.opensComment (slash :: (body ++ slash :: rest)) = false := by
    obtain ⟨c, rest', rfl⟩ := List.exists_cons_of_ne_nil filled
    exact (opensComment_slash _).mpr ⟨h.head?_ne_slash, starts⟩
  rw [first_of_regex plain opens, h.regexBody]
  rfl

/-- The item that a character is by itself, if it opens neither a literal nor a
comment. -/
def single (c : Nat) : Item := if isSeparator c then .separator c else .token (.character c)

theorem first_single {c : Nat} (unquoted : isQuote c = false) (other : c ≠ slash) (ctx : Context)
    (rest : List Nat) : first ctx c rest = .ok (single c, rest) := by
  have plain : Plain.opensComment (c :: rest) = false := by
    cases rest with
    | nil => rfl
    | cons b rest => simp [Plain.opensComment, other]
  rw [first, unquoted, plain, single]
  by_cases separates : isSeparator c
  · rw [if_pos separates, if_pos separates]
  · rw [if_neg separates, if_neg separates]
    simp [other]

theorem split_singles {text : List Nat} (h : ∀ c ∈ text, isQuote c = false ∧ c ≠ slash)
    (ctx : Context) (rest : List Nat) :
    split ctx (text ++ rest) =
      (text.map single ++ (split ((text.map single).foldl Context.after ctx) rest).1,
        (split ((text.map single).foldl Context.after ctx) rest).2) := by
  induction text generalizing ctx with
  | nil => rfl
  | cons c text ih =>
    obtain ⟨unquoted, other⟩ := h c List.mem_cons_self
    rw [List.cons_append, split_of_ok (first_single unquoted other ctx _),
      ih (fun d hd => h d (List.mem_cons_of_mem c hd))]
    rfl

/-! ## Copied literals -/

/-- Bytes with each control code replaced by what it counts as. -/
def normalized (bytes : Bytes) : Bytes := bytes.map fun byte => (effective byte.toNat).toUInt8

theorem bytes_characters (script : Bytes) :
    Plain.bytes (characters script) = normalized script := by
  simp [Plain.bytes, characters, normalized]

theorem normalized_byte (byte : UInt8) :
    (effective byte.toNat).toUInt8 = byte ↔ 32 ≤ byte ∨ byte = 10 := by
  have visible : 32 ≤ byte ∨ byte = 10 ↔ space ≤ byte.toNat ∨ byte.toNat = newline := by
    rw [UInt8.le_iff_toNat_le, ← UInt8.toNat_inj]
    rfl
  rw [visible]
  constructor
  · intro same
    have kept : effective byte.toNat = byte.toNat := by
      have small := effective_lt byte.toNat_lt
      have := congrArg UInt8.toNat same
      rwa [show (effective byte.toNat).toUInt8.toNat = effective byte.toNat from
        Nat.mod_eq_of_lt small] at this
    have := visible_effective byte.toNat
    rwa [kept] at this
  · intro shown
    rw [effective_of_visible shown]
    exact UInt8.ofNat_toNat

theorem normalized_eq_self_iff (bytes : Bytes) :
    normalized bytes = bytes ↔ ∀ byte ∈ bytes, 32 ≤ byte ∨ byte = 10 := by
  induction bytes with
  | nil => simp [normalized]
  | cons byte bytes ih =>
    show _ :: normalized bytes = _ ↔ _
    rw [List.cons.injEq, ih, normalized_byte, List.forall_mem_cons]

/-- A literal is copied where only single characters come before it, if nothing is
kept in front of it. -/
theorem minify_statement {script : Bytes} {opening : List Nat} {t : Token}
    (text : characters script = opening ++ t.text ++ [59])
    (plain : ∀ c ∈ opening, isQuote c = false ∧ c ≠ slash)
    (cut : first ((opening.map single).foldl Context.after {}) t.edge (t.text.tail ++ [59]) =
      .ok (.token t, [59]))
    (apart : between ((opening.map single).foldl Context.after {}).edge
      ((opening.map single).foldl Context.after {}).gap t.edge = []) :
    minify script = .ok (Plain.bytes (join {} (opening.map single) ++ t.text ++ [59])) := by
  have last : split { token := some t } [59] = ([.token (.character 59)], none) := by
    rw [split_of_ok (first_single (by decide) (by decide) _ _), split_nil]
    rfl
  have whole : split {} (characters script) =
      (opening.map single ++ [.token t, .token (.character 59)], none) := by
    rw [text, List.append_assoc, split_singles plain, t.text_eq_cons, List.cons_append,
      split_of_ok cut]
    show (_ ++ _ :: (split { token := some t } [59]).1, (split { token := some t } [59]).2) = _
    rw [last]
  rw [minify_of_closed whole, join_append]
  show Except.ok (Plain.bytes (_ ++ (between _ _ t.edge ++ t.text ++ [59]))) = _
  rw [apart, List.nil_append, List.append_assoc]

theorem characters_eq (script : Bytes) :
    characters script = (script.map UInt8.toNat).map effective := by
  simp [characters]

theorem minify_quoted {quote : UInt8} {body : Bytes} (quotes : isQuote quote.toNat)
    (h : EnclosedBody quote.toNat (body.map UInt8.toNat)) :
    minify ([118, 97, 114, 32, 115, 32, 61, 32] ++ quote :: body ++ [quote, 59]) =
      .ok ([118, 97, 114, 32, 115, 61] ++ quote :: normalized body ++ [quote, 59]) := by
  have shown : effective quote.toNat = quote.toNat := by
    rcases isQuote_iff.mp quotes with same | same | same <;> rw [same] <;> rfl
  have closed : EnclosedBody quote.toNat (characters body) := by
    rw [characters_eq]
    exact h.effective (not_isSeparator_of_isQuote quotes)
  have text : characters ([118, 97, 114, 32, 115, 32, 61, 32] ++ quote :: body ++ [quote, 59]) =
      [118, 97, 114, 32, 115, 32, 61, 32] ++
        (Token.quoted quote.toNat (characters body)).text ++ [59] := by
    rw [characters_append, characters_append]
    show _ ++ effective quote.toNat :: characters body ++ [effective quote.toNat, 59] = _
    rw [shown]
    simp [Token.text, show characters [118, 97, 114, 32, 115, 32, 61, 32] =
      [118, 97, 114, 32, 115, 32, 61, 32] from rfl]
  rw [minify_statement text (by decide) ?_ rfl]
  · rw [Plain.bytes_append, Plain.bytes_append]
    show Except.ok ([118, 97, 114, 32, 115, 61] ++
      Plain.bytes (quote.toNat :: characters body ++ [quote.toNat]) ++ [59]) = _
    rw [Plain.bytes_append]
    show Except.ok (_ ++ (quote.toNat.toUInt8 :: Plain.bytes (characters body) ++
      [quote.toNat.toUInt8]) ++ _) = _
    rw [bytes_characters, show quote.toNat.toUInt8 = quote from UInt8.ofNat_toNat]
    simp
  · show first _ quote.toNat (characters body ++ [quote.toNat] ++ [59]) = _
    rw [List.append_assoc]
    exact first_quoted quotes closed _ [59]

theorem minify_regex {body : Bytes} (filled : body ≠ []) (h : RegexBody (body.map UInt8.toNat))
    (starts : body.head? ≠ some 42) :
    minify ([120, 32, 61, 32, 47] ++ body ++ [47, 59]) =
      .ok ([120, 61, 47] ++ normalized body ++ [47, 59]) := by
  have closed : RegexBody (characters body) := by
    rw [characters_eq]
    exact h.effective
  have some_first : characters body ≠ [] := by
    simpa [characters] using filled
  have not_star : (characters body).head? ≠ some star := by
    cases body with
    | nil => exact absurd rfl filled
    | cons byte rest =>
      have other : byte.toNat ≠ star := fun same =>
        starts (congrArg some (UInt8.toNat_inj.mp same))
      exact fun same => effective_ne other (by decide) (Option.some.inj same)
  have text : characters ([120, 32, 61, 32, 47] ++ body ++ [47, 59]) =
      [120, 32, 61, 32] ++ (Token.regex (characters body)).text ++ [59] := by
    rw [characters_append, characters_append]
    simp [Token.text, slash, show characters [120, 32, 61, 32, 47] = [120, 32, 61, 32, 47] from rfl,
      show characters [47, 59] = [47, 59] from rfl]
  rw [minify_statement text (by decide) ?_ rfl]
  · rw [Plain.bytes_append, Plain.bytes_append]
    show Except.ok ([120, 61] ++ Plain.bytes (slash :: characters body ++ [slash]) ++ [59]) = _
    rw [Plain.bytes_append]
    show Except.ok (_ ++ (47 :: Plain.bytes (characters body) ++ [47]) ++ _) = _
    rw [bytes_characters]
    simp
  · show first _ slash (characters body ++ [slash] ++ [59]) = _
    rw [List.append_assoc]
    exact first_regex closed some_first not_star rfl [59]

/-- A literal is copied with its control codes replaced by what they count as, and
so byte for byte exactly if it has none but line ends. -/
theorem minify_literal (quote : UInt8) (body : Bytes) :
    (isQuote quote.toNat → EnclosedBody quote.toNat (body.map UInt8.toNat) →
      minify ([118, 97, 114, 32, 115, 32, 61, 32] ++ quote :: body ++ [quote, 59]) =
        .ok ([118, 97, 114, 32, 115, 61] ++ quote :: normalized body ++ [quote, 59])) ∧
    (body ≠ [] → RegexBody (body.map UInt8.toNat) → body.head? ≠ some 42 →
      minify ([120, 32, 61, 32, 47] ++ body ++ [47, 59]) =
        .ok ([120, 61, 47] ++ normalized body ++ [47, 59])) ∧
    (normalized body = body ↔ ∀ byte ∈ body, 32 ≤ byte ∨ byte = 10) :=
  ⟨minify_quoted, minify_regex, normalized_eq_self_iff body⟩

/-- The literals of `var s = "\"/*";` and `x = /[/]\//;` are copied as they are. -/
theorem minify_literal_escapes :
    EnclosedBody 34 [92, 34, 47, 42] ∧ RegexBody [91, 47, 93, 92, 47] ∧
    minify [118, 97, 114, 32, 115, 32, 61, 32, 34, 92, 34, 47, 42, 34, 59] =
      .ok [118, 97, 114, 32, 115, 61, 34, 92, 34, 47, 42, 34, 59] ∧
    minify [120, 32, 61, 32, 47, 91, 47, 93, 92, 47, 47, 59] =
      .ok [120, 61, 47, 91, 47, 93, 92, 47, 47, 59] := by
  have quoted : EnclosedBody 34 [92, 34, 47, 42] :=
    .escaped 34 (.plain (by decide) (by decide) (.plain (by decide) (by decide) .nil))
  have regex : RegexBody [91, 47, 93, 92, 47] :=
    @RegexBody.group [47] [92, 47] (.plain (by decide) (by decide) .nil) (.escaped 47 .nil)
  refine ⟨quoted, regex, ?_, ?_⟩
  · exact (minify_literal 34 [92, 34, 47, 42]).1 (by decide) quoted
  · exact (minify_literal 34 [91, 47, 93, 92, 47]).2.1 (by decide) regex (by decide)

/-- A tab in a quoted literal becomes a space. -/
theorem minify_literal_tab :
    EnclosedBody 34 [9] ∧
    minify [118, 97, 114, 32, 115, 32, 61, 32, 34, 9, 34, 59] =
      .ok [118, 97, 114, 32, 115, 61, 34, 32, 34, 59] :=
  ⟨.plain (by decide) (by decide) .nil, minify_eq_ok (by decide +kernel) (by decide +kernel)⟩

/-! ## After a regular expression -/

theorem join_after_regex (front : List Item) (body : List Nat) {gap : List Item}
    (blank : ∀ item ∈ gap, item.token? = none) (t : Token) (back : List Item) :
    join {} (front ++ .token (.regex body) :: gap ++ .token t :: back) =
      join {} (front ++ [.token (.regex body)]) ++
        (if gap.flatMap Item.gap ≠ [] ∧ t.edge = slash then [space] else []) ++ t.text ++
        join { token := some t } back := by
  have regroup : front ++ .token (.regex body) :: gap ++ .token t :: back =
      (front ++ [.token (.regex body)]) ++ (gap ++ .token t :: back) := by simp
  have after : (front ++ [Item.token (.regex body)]).foldl Context.after {} =
      { token := some (.regex body) } := by
    rw [List.foldl_append]
    rfl
  rw [regroup, join_append {} (front ++ _), after, join_append _ gap, join_blank blank,
    foldl_after_blank blank, List.nil_append, join, written]
  show _ ++ (between (some slash) (gap.flatMap Item.gap) t.edge ++ t.text ++
    join { token := some t } back) = _
  rw [between_slash, List.append_assoc, List.append_assoc, List.append_assoc]

/-- A token after a regular expression is written right after the closing slash,
whatever separators and comments are in between, unless it starts with a slash
itself. -/
theorem minify_after_regex {script out : Bytes} (succeeds : minify script = .ok out)
    {front gap back : List Item} {body : List Nat} {t : Token}
    (cut : (split {} (characters script)).1 =
      front ++ .token (.regex body) :: gap ++ .token t :: back)
    (blank : ∀ item ∈ gap, item.token? = none) :
    out = Plain.bytes (join {} (front ++ [.token (.regex body)]) ++
      (if gap.flatMap Item.gap ≠ [] ∧ t.edge = slash then [space] else []) ++ t.text ++
      join { token := some t } back) ∧
    slash :: body ++ [slash] <:+ join {} (front ++ [.token (.regex body)]) := by
  obtain ⟨items, closed, rfl⟩ := closed_of_minify succeeds
  rw [closed] at cut
  have cut : items = front ++ .token (.regex body) :: gap ++ .token t :: back := cut
  constructor
  · rw [cut, join_after_regex front body blank]
  · rw [join_append]
    let ctx := front.foldl Context.after {}
    refine ⟨join {} front ++ between ctx.edge ctx.gap slash, ?_⟩
    simp [ctx, join, written, Token.edge, Token.text]

/-- The script `a=/[/]/ /**/in b` gives `a=/[/]/in b`. -/
theorem minify_after_regex_comment :
    minify [97, 61, 47, 91, 47, 93, 47, 32, 47, 42, 42, 47, 105, 110, 32, 98] =
      .ok [97, 61, 47, 91, 47, 93, 47, 105, 110, 32, 98] ∧
    [97, 61, 47, 91, 47, 93, 47, 105, 110, 32, 98] =
      Plain.bytes (join {} [.token (.character 97), .token (.character 61),
        .token (.regex [91, 47, 93])] ++ [] ++ [105] ++
        join { token := some (.character 105) }
          [.token (.character 110), .separator space, .token (.character 98)]) := by
  have succeeds : minify [97, 61, 47, 91, 47, 93, 47, 32, 47, 42, 42, 47, 105, 110, 32, 98] =
      .ok [97, 61, 47, 91, 47, 93, 47, 105, 110, 32, 98] :=
    minify_eq_ok (by decide +kernel) (by decide +kernel)
  have cut : (split {} (characters
      [97, 61, 47, 91, 47, 93, 47, 32, 47, 42, 42, 47, 105, 110, 32, 98])).1 =
      [.token (.character 97), .token (.character 61)] ++ .token (.regex [91, 47, 93]) ::
        [.separator space, .comment (some space)] ++ .token (.character 105) ::
        [.token (.character 110), .separator space, .token (.character 98)] := by
    decide +kernel
  exact ⟨succeeds, (minify_after_regex succeeds cut (by decide)).1⟩

/-- The script `x=/a/ in y` gives `x=/a/in y`. -/
theorem minify_after_regex_word :
    (split {} (characters [120, 61, 47, 97, 47, 32, 105, 110, 32, 121])).1 =
      [.token (.character 120), .token (.character 61)] ++ .token (.regex [97]) ::
        [.separator space] ++ .token (.character 105) ::
        [.token (.character 110), .separator space, .token (.character 121)] ∧
    minify [120, 61, 47, 97, 47, 32, 105, 110, 32, 121] =
      .ok [120, 61, 47, 97, 47, 105, 110, 32, 121] :=
  ⟨by decide +kernel, minify_eq_ok (by decide +kernel) (by decide +kernel)⟩

end Script
end ScriptPress
