/-
Spelling characters by others.

A spelling leaves ASCII as it is and writes every other character as one or more
characters that are not ASCII either.  UTF-8 is one, with the bytes for
characters.  Nothing that opens, closes or separates anything is outside ASCII,
and all that is outside counts as part of a word.  So a spelled text is cut into
the items of the text, except that a single character outside ASCII becomes one
or more, none of which can be cut off or set apart from the others
(`split_text`), and what is written for these is what is written for the text,
spelled (`join_items`).
-/
import ScriptPress.Proofs.Literals

namespace ScriptPress

open Code

/-! ## Characters outside ASCII -/

namespace Code

theorem isWord_of_above {c : Nat} (above : tilde < c) : isWord c := by
  simp [isWord, above]

theorem isWord_of_high {c : Nat} (high : 128 ≤ c) : isWord c :=
  isWord_of_above (Nat.lt_of_lt_of_le (by decide) high)

theorem not_isSeparator_of_isWord {c : Nat} (h : isWord c) : isSeparator c = false := by
  cases separates : isSeparator c with
  | false => rfl
  | true =>
    rw [not_isWord_of_isSeparator separates] at h
    cases h

theorem not_contains_of_high {c : Nat} (high : 128 ≤ c) {ascii : List Nat}
    (low : ∀ d ∈ ascii, d < 128) : ascii.contains c = false := by
  rw [List.contains_eq_mem, decide_eq_false_iff_not]
  intro member
  exact Nat.not_lt.mpr high (low c member)

theorem not_isQuote_of_high {c : Nat} (high : 128 ≤ c) : isQuote c = false := by
  cases quote : isQuote c with
  | false => rfl
  | true => rcases isQuote_iff.mp quote with rfl | rfl | rfl <;> exact absurd high (by decide)

theorem ne_of_high {c d : Nat} (high : 128 ≤ c) (ascii : d < 128) : c ≠ d := by
  omega

/-- A character with all that are outside ASCII taken for one. -/
def folded (c : Nat) : Nat := min c 128

theorem folded_of_ascii {c : Nat} (ascii : c < 128) : folded c = c := by
  unfold folded
  omega

theorem folded_of_high {c : Nat} (high : 128 ≤ c) : folded c = 128 := by
  unfold folded
  omega

theorem folded_eq_iff {c d : Nat} (ascii : d < 128) : folded c = d ↔ c = d := by
  unfold folded
  omega

/-- A class that holds all characters outside ASCII or none of them does not tell a
character from the folded one. -/
theorem class_folded {member : Nat → Bool} (uniform : ∀ c, 128 ≤ c → member c = member 128)
    (c : Nat) : member (folded c) = member c := by
  rcases Nat.lt_or_ge c 128 with ascii | high
  · rw [folded_of_ascii ascii]
  · rw [folded_of_high high, uniform c high]

theorem isWord_folded (c : Nat) : isWord (folded c) = isWord c :=
  class_folded (fun _ high => isWord_of_high high) c

theorem isSign_folded (c : Nat) : isSign (folded c) = isSign c :=
  class_folded (fun _ high => not_isSign_of_isWord (isWord_of_high high)) c

theorem admitsRegex_folded (c : Nat) : admitsRegex (folded c) = admitsRegex c :=
  class_folded (fun _ high => not_admitsRegex_of_isWord (isWord_of_high high)) c

theorem keepsLineBefore_folded (c : Nat) : keepsLineBefore (folded c) = keepsLineBefore c :=
  class_folded (fun _ high => not_contains_of_high high (by decide)) c

theorem keepsLineAfter_folded (c : Nat) : keepsLineAfter (folded c) = keepsLineAfter c :=
  class_folded (fun _ high => not_contains_of_high high (by decide)) c

end Code

theorem Script.between_folded (x : Symbol) (gap : List Nat) (y : Nat) :
    between (x.map folded) gap (folded y) = between x gap y := by
  cases x with
  | none => rfl
  | some x =>
    have slashes (c : Nat) : (folded c = slash) = (c = slash) :=
      propext (folded_eq_iff (by decide))
    have slashNext : (folded y == slash) = (y == slash) := by
      rw [Bool.eq_iff_iff, beq_iff_eq, beq_iff_eq, slashes]
    simp only [Option.map_some, between, isWord_folded, isSign_folded, admitsRegex_folded,
      keepsLineBefore_folded, keepsLineAfter_folded, slashes, slashNext]

/-! ## Contexts that differ in nothing that is looked at -/

/-- Two contexts with the same separators, after tokens that end alike: with the same
character, or both outside ASCII. -/
structure Context.Alike (ctx ctx' : Context) : Prop where
  edge : ctx'.edge.map folded = ctx.edge.map folded
  regex : ctx'.token.any Token.isRegex = ctx.token.any Token.isRegex
  gap : ctx'.gap = ctx.gap

namespace Context.Alike

variable {ctx ctx' : Context}

theorem opensRegex (h : ctx.Alike ctx') : ctx'.opensRegex = ctx.opensRegex := by
  have admits (x : Symbol) : x.any admitsRegex = (x.map folded).any admitsRegex := by
    cases x with
    | none => rfl
    | some x => exact (admitsRegex_folded x).symm
  unfold Context.opensRegex fresh
  rw [admits, h.edge, ← admits, h.regex, h.gap]

theorem between (h : ctx.Alike ctx') {y y' : Nat} (start : folded y' = folded y) :
    Script.between ctx'.edge ctx'.gap y' = Script.between ctx.edge ctx.gap y := by
  rw [← Script.between_folded, h.edge, h.gap, start, Script.between_folded]

theorem after_token (ctx ctx' : Context) {t t' : Token} (edge : folded t'.edge = folded t.edge)
    (regex : t'.isRegex = t.isRegex) : (ctx.after (.token t)).Alike (ctx'.after (.token t')) :=
  ⟨congrArg some edge, regex, rfl⟩

theorem after_blank (h : ctx.Alike ctx') {item : Item} (blank : item.token? = none) :
    (ctx.after item).Alike (ctx'.after item) := by
  rw [Script.after_of_blank blank, Script.after_of_blank blank]
  exact ⟨h.edge, h.regex, congrArg (· ++ item.gap) h.gap⟩

end Context.Alike

/-! ## Scanning past characters outside ASCII -/

namespace Plain

variable {front : List Nat}

theorem skipLine_high (high : ∀ c ∈ front, 128 ≤ c) (rest : List Nat) :
    skipLine (front ++ rest) = skipLine rest := by
  induction front with
  | nil => rfl
  | cons c front ih =>
    rw [List.forall_mem_cons] at high
    rw [List.cons_append, skipLine, Coded.code_nat,
      if_neg (ne_of_high high.1 (by decide)), ih high.2]

/-- A character of a block comment ends it only if it is a star before a slash. -/
theorem skipBlock_cons (c : Nat) (rest : List Nat) :
    skipBlock (c :: rest) =
      if c = Code.star ∧ rest.head? = some slash then some rest.tail else skipBlock rest := by
  cases rest with
  | nil => simp [skipBlock]
  | cons d rest =>
    rw [skipBlock]
    simp

theorem skipBlock_high (high : ∀ c ∈ front, 128 ≤ c) (rest : List Nat) :
    skipBlock (front ++ rest) = skipBlock rest := by
  induction front with
  | nil => rfl
  | cons c front ih =>
    rw [List.forall_mem_cons] at high
    have other : c ≠ Code.star := ne_of_high high.1 (by decide)
    rw [List.cons_append, skipBlock_cons, if_neg (fun ends => other ends.1), ih high.2]

theorem opensComment_cons (c : Nat) (rest : List Nat) :
    opensComment (c :: rest) =
      (c == slash && (rest.head? == some slash || rest.head? == some Code.star)) := by
  cases rest with
  | nil => simp [opensComment]
  | cons d rest => simp [opensComment]

theorem enclosed_high (high : ∀ c ∈ front, 128 ≤ c) {close : Nat} (ascii : close < 128)
    (what : Construct) (rest : List Nat) :
    enclosed what close (front ++ rest) = (enclosed what close rest).after front := by
  induction front with
  | nil => rfl
  | cons c front ih =>
    rw [List.forall_mem_cons] at high
    rw [List.cons_append, enclosed_of_ne (ne_of_high high.1 ascii)
      (ne_of_high high.1 (by decide)), ih high.2, Cut.after_after]
    rfl

theorem regexBody_high (high : ∀ c ∈ front, 128 ≤ c) (inClass : Bool) (rest : List Nat) :
    regexBody inClass (front ++ rest) = (regexBody inClass rest).after front := by
  induction front with
  | nil => rfl
  | cons c front ih =>
    rw [List.forall_mem_cons] at high
    have stays : (c != closeBracket) = true := by simpa using ne_of_high high.1 (by decide)
    have outside : (c == openBracket) = false := by simpa using ne_of_high high.1 (by decide)
    rw [List.cons_append, regexBody_of_ne (ne_of_high high.1 (by decide)), Coded.code_nat, stays,
      if_neg (ne_of_high high.1 (by decide)), outside]
    cases inClass with
    | true => rw [if_pos rfl, ih high.2, Cut.after_after]; rfl
    | false => rw [if_neg (by decide), ih high.2, Cut.after_after]; rfl

end Plain

/-! ## Spellings -/

/-- A way to write characters that are not ASCII by one or more that are not either. -/
structure Spelling where
  spell : Nat → List Nat
  spell_ascii : ∀ c, c < 128 → spell c = [c]
  spell_ne_nil : ∀ c, spell c ≠ []
  spell_high : ∀ c, 128 ≤ c → ∀ d ∈ spell c, 128 ≤ d

namespace Spelling

variable (σ : Spelling)

/-- A text with every character spelled. -/
def text (t : List Nat) : List Nat := t.flatMap σ.spell

theorem text_cons (c : Nat) (rest : List Nat) : σ.text (c :: rest) = σ.spell c ++ σ.text rest :=
  List.flatMap_cons

theorem text_singleton (c : Nat) : σ.text [c] = σ.spell c := by
  simp [text]

theorem text_append (t more : List Nat) : σ.text (t ++ more) = σ.text t ++ σ.text more :=
  List.flatMap_append

theorem text_cons_ascii {c : Nat} (ascii : c < 128) (rest : List Nat) :
    σ.text (c :: rest) = c :: σ.text rest := by
  rw [text_cons, σ.spell_ascii c ascii]
  rfl

/-- Whatever the first character of a spelling is, the others are not ASCII. -/
theorem spell_eq_cons (c : Nat) :
    ∃ d more, σ.spell c = d :: more ∧ ∀ e ∈ more, 128 ≤ e := by
  rcases Nat.lt_or_ge c 128 with ascii | high
  · exact ⟨c, [], σ.spell_ascii c ascii, nofun⟩
  · obtain ⟨d, more, spelled⟩ := List.exists_cons_of_ne_nil (σ.spell_ne_nil c)
    refine ⟨d, more, spelled, fun e he => σ.spell_high c high e ?_⟩
    rw [spelled]
    exact List.mem_cons_of_mem d he

theorem text_of_ascii {t : List Nat} (ascii : ∀ c ∈ t, c < 128) : σ.text t = t := by
  induction t with
  | nil => rfl
  | cons c rest ih =>
    rw [List.forall_mem_cons] at ascii
    rw [text_cons_ascii σ ascii.1, ih ascii.2]

/-- A spelled text starts with an ASCII character exactly if the text does. -/
theorem head?_text {c : Nat} (ascii : c < 128) (t : List Nat) :
    (σ.text t).head? = some c ↔ t.head? = some c := by
  cases t with
  | nil => rfl
  | cons d rest =>
    rcases Nat.lt_or_ge d 128 with low | high
    · rw [text_cons_ascii σ low]
      rfl
    · obtain ⟨e, more, spelled⟩ := List.exists_cons_of_ne_nil (σ.spell_ne_nil d)
      have above : 128 ≤ e := σ.spell_high d high e (by rw [spelled]; exact List.mem_cons_self)
      rw [text_cons, spelled, List.cons_append, List.head?_cons, List.head?_cons,
        Option.some.injEq, Option.some.injEq]
      omega

/-- A literal cut off a text, with all of it spelled. -/
def cut (k : Plain.Cut Nat) : Plain.Cut Nat := (σ.text k.1, k.2.map fun r => (r.1, σ.text r.2))

theorem cut_after (front : List Nat) (k : Plain.Cut Nat) :
    σ.cut (k.after front) = (σ.cut k).after (σ.text front) := by
  simp only [cut, Plain.Cut.after, text_append]

/-! ## Comments and literals -/

theorem skipLine_text (t : List Nat) :
    Plain.skipLine (σ.text t) = ((Plain.skipLine t).1, σ.text (Plain.skipLine t).2) := by
  induction t with
  | nil => rfl
  | cons c rest ih =>
    rcases Nat.lt_or_ge c 128 with ascii | high
    · rw [text_cons_ascii σ ascii, Plain.skipLine, Plain.skipLine, ih]
      split <;> rfl
    · rw [text_cons, Plain.skipLine_high (σ.spell_high c high), Plain.skipLine, Coded.code_nat,
        if_neg (ne_of_high high (by decide)), ih]

theorem skipBlock_text (t : List Nat) :
    Plain.skipBlock (σ.text t) = (Plain.skipBlock t).map σ.text := by
  induction t with
  | nil => rfl
  | cons c rest ih =>
    rcases Nat.lt_or_ge c 128 with ascii | high
    · rw [text_cons_ascii σ ascii, Plain.skipBlock_cons, Plain.skipBlock_cons, ih]
      simp only [head?_text σ (show slash < 128 by decide)]
      split
      next ends =>
        obtain ⟨after, rfl⟩ := List.head?_eq_some_iff.mp ends.2
        rw [text_cons_ascii σ (by decide)]
        rfl
      · rfl
    · have other : c ≠ Code.star := ne_of_high high (by decide)
      rw [text_cons, Plain.skipBlock_high (σ.spell_high c high), Plain.skipBlock_cons,
        if_neg (fun ends => other ends.1), ih]

theorem opensComment_text (c : Nat) (rest : List Nat) :
    Plain.opensComment (c :: σ.text rest) = Plain.opensComment (c :: rest) := by
  have starts {d : Nat} (low : d < 128) :
      ((σ.text rest).head? == some d) = (rest.head? == some d) := by
    rw [Bool.eq_iff_iff, beq_iff_eq, beq_iff_eq, head?_text σ low]
  rw [Plain.opensComment_cons, Plain.opensComment_cons, starts (by decide), starts (by decide)]

/-- A comment in a spelled text is the comment in the text. -/
theorem next_text {c : Nat} {rest : List Nat} (opens : Plain.opensComment (c :: rest)) :
    Plain.next (c :: σ.text rest) =
      (Plain.next (c :: rest)).map fun r => (r.1, σ.text r.2) := by
  rw [Plain.opensComment_cons, Bool.and_eq_true, Bool.or_eq_true, beq_iff_eq, beq_iff_eq,
    beq_iff_eq] at opens
  obtain ⟨rfl, line | block⟩ := opens
  · obtain ⟨after, rfl⟩ := List.head?_eq_some_iff.mp line
    rw [text_cons_ascii σ (by decide), Plain.next, Plain.next, if_pos ⟨rfl, rfl⟩,
      if_pos ⟨rfl, rfl⟩, skipLine_text]
    rfl
  · obtain ⟨after, rfl⟩ := List.head?_eq_some_iff.mp block
    rw [text_cons_ascii σ (by decide), Plain.next, Plain.next, if_neg (by decide),
      if_pos ⟨rfl, rfl⟩, if_neg (by decide), if_pos ⟨rfl, rfl⟩, skipBlock_text]
    cases Plain.skipBlock after <;> rfl

/-- A backslash protects a spelled character whole: it protects the first character of
the spelling, and nothing closes at the others. -/
theorem enclosed_text {close : Nat} (ascii : close < 128) (what : Construct) (t : List Nat) :
    Plain.enclosed what close (σ.text t) = σ.cut (Plain.enclosed what close t) := by
  fun_induction Plain.enclosed what close t with
  | case1 => rfl
  | case2 c closes =>
    obtain rfl : c = close := closes
    rw [text_cons_ascii σ ascii]
    exact Plain.enclosed_of_eq rfl _
  | case3 c other =>
    rcases Nat.lt_or_ge c 128 with low | high
    · rw [text_cons_ascii σ low]
      show Plain.enclosed what close [c] = (σ.text [c], _)
      rw [text_cons_ascii σ low, Plain.enclosed, if_neg other]
      rfl
    · rw [text_cons, Plain.enclosed_high (σ.spell_high c high) ascii]
      simp [Plain.Cut.after, cut, text, Plain.enclosed, Except.map]
  | case4 c d rest closes =>
    obtain rfl : c = close := closes
    rw [text_cons_ascii σ ascii]
    exact Plain.enclosed_of_eq rfl _
  | case5 c d rest other protects ih =>
    obtain rfl : c = backslash := protects
    obtain ⟨e, more, spelled, high⟩ := σ.spell_eq_cons d
    rw [text_cons_ascii σ (by decide), text_cons, spelled, List.cons_append, Plain.enclosed,
      if_neg other, if_pos (by rfl), Plain.enclosed_high high ascii, ih, cut_after,
      Plain.Cut.after_after, text_cons_ascii σ (by decide), text_singleton, spelled]
    rfl
  | case6 c d rest other unprotected ih =>
    rw [text_cons, cut_after, ← ih, text_singleton]
    rcases Nat.lt_or_ge c 128 with low | high
    · rw [σ.spell_ascii c low, List.singleton_append, Plain.enclosed_of_ne other unprotected]
    · exact Plain.enclosed_high (σ.spell_high c high) ascii what _

theorem regexBody_text (inClass : Bool) (t : List Nat) :
    Plain.regexBody inClass (σ.text t) = σ.cut (Plain.regexBody inClass t) := by
  fun_induction Plain.regexBody inClass t with
  | case1 => rfl
  | case2 inClass c protects =>
    obtain rfl : c = backslash := protects
    rw [text_cons_ascii σ (by decide)]
    show _ = (σ.text [backslash], _)
    rw [text_cons_ascii σ (by decide)]
    rfl
  | case3 inClass c protects d rest ih =>
    obtain rfl : c = backslash := protects
    obtain ⟨e, more, spelled, high⟩ := σ.spell_eq_cons d
    rw [text_cons_ascii σ (by decide), text_cons, spelled, List.cons_append,
      Plain.regexBody_of_eq rfl, Plain.regexBody_high high, ih, cut_after,
      Plain.Cut.after_after, text_cons_ascii σ (by decide), text_singleton, spelled]
    rfl
  | case4 c rest unprotected ih =>
    rw [text_cons, cut_after, ← ih, text_singleton]
    rcases Nat.lt_or_ge c 128 with low | high
    · rw [σ.spell_ascii c low, List.singleton_append, Plain.regexBody_of_ne unprotected,
        if_pos rfl]
    · have stays : (c != closeBracket) = true := by simpa using ne_of_high high (by decide)
      rw [Coded.code_nat, stays, Plain.regexBody_high (σ.spell_high c high)]
  | case5 inClass c rest unprotected outside closes =>
    obtain rfl : c = slash := closes
    rw [text_cons_ascii σ (by decide), Plain.regexBody_of_ne unprotected, if_neg outside,
      if_pos (by rfl)]
    rfl
  | case6 inClass c rest unprotected outside goes ih =>
    rw [text_cons, cut_after, ← ih, text_singleton]
    rcases Nat.lt_or_ge c 128 with low | high
    · rw [σ.spell_ascii c low, List.singleton_append, Plain.regexBody_of_ne unprotected,
        if_neg outside, if_neg goes]
    · have stays : (c == openBracket) = false := by simpa using ne_of_high high (by decide)
      have outside : inClass = false := by simpa using outside
      rw [Coded.code_nat, stays, outside, Plain.regexBody_high (σ.spell_high c high)]

/-! ## Items -/

/-- An item with the text inside a literal spelled. -/
def inside : Item → Item
  | .token (.quoted quote body) => .token (.quoted quote (σ.text body))
  | .token (.regex body) => .token (.regex (σ.text body))
  | item => item

/-- The items of a spelled text that an item of the text becomes. -/
def item : Item → List Item
  | .token (.character c) => (σ.spell c).map fun d => .token (.character d)
  | item => [σ.inside item]

theorem item_of_first {ctx : Context} {c : Nat} (ascii : c < 128) {rest after : List Nat}
    {i : Item} (h : Script.First ctx c rest i after) : σ.item i = [σ.inside i] := by
  cases h with
  | separator => rfl
  | comment => rfl
  | quoted => rfl
  | regex => rfl
  | character =>
    rw [item, σ.spell_ascii c ascii]
    rfl

variable {ctx ctx' : Context}

/-- Characters outside ASCII, one after the other, lead to a context like that after
any one of them. -/
theorem alike_characters {c : Nat} (high : 128 ≤ c) {spelled : List Nat} (filled : spelled ≠ [])
    (all : ∀ d ∈ spelled, 128 ≤ d) :
    (ctx.after (.token (.character c))).Alike
      ((spelled.map fun d => Item.token (.character d)).foldl Context.after ctx') := by
  induction spelled generalizing ctx' with
  | nil => exact absurd rfl filled
  | cons d more ih =>
    rw [List.forall_mem_cons] at all
    by_cases last : more = []
    · subst last
      have same : folded d = folded c := by rw [folded_of_high all.1, folded_of_high high]
      exact Context.Alike.after_token ctx ctx' same rfl
    · exact ih last all.2

theorem alike_item (h : ctx.Alike ctx') (i : Item) :
    (ctx.after i).Alike ((σ.item i).foldl Context.after ctx') := by
  cases i with
  | separator c => exact h.after_blank rfl
  | comment reads => exact h.after_blank rfl
  | token t =>
    cases t with
    | quoted quote body => exact Context.Alike.after_token ctx ctx' rfl rfl
    | regex body => exact Context.Alike.after_token ctx ctx' rfl rfl
    | character c =>
      rcases Nat.lt_or_ge c 128 with ascii | high
      · rw [item, σ.spell_ascii c ascii]
        exact Context.Alike.after_token ctx ctx' rfl rfl
      · exact alike_characters high (σ.spell_ne_nil c) (σ.spell_high c high)

/-! ## The first pass -/

theorem literal_cut (make : List Nat → Token)
    (spelled : ∀ body, σ.inside (.token (make body)) = .token (make (σ.text body)))
    (k : Plain.Cut Nat) :
    Script.literal make (σ.cut k) =
      (Script.literal make k).map fun r => (σ.inside r.1, σ.text r.2) := by
  obtain ⟨body, ending⟩ := k
  cases ending with
  | error what => rfl
  | ok closing =>
    show Except.ok (Item.token (make (σ.text body)), σ.text closing.2) =
      .ok (σ.inside (.token (make body)), σ.text closing.2)
    rw [spelled]

/-- After like contexts, a spelled text that starts with an ASCII character starts with
the item that the text starts with. -/
theorem first_text (h : ctx.Alike ctx') {c : Nat} (ascii : c < 128) (rest : List Nat) :
    Script.first ctx' c (σ.text rest) =
      (Script.first ctx c rest).map fun r => (σ.inside r.1, σ.text r.2) := by
  unfold Script.first
  split
  · rfl
  · split
    · rw [enclosed_text σ ascii]
      exact literal_cut σ (.quoted c) (fun _ => rfl) _
    · rw [opensComment_text]
      split
      next opens =>
        rw [next_text σ opens]
        cases Plain.next (c :: rest) <;> rfl
      · rw [h.opensRegex]
        split
        · rw [regexBody_text]
          exact literal_cut σ .regex (fun _ => rfl) _
        · rfl

theorem single_of_high {c : Nat} (high : 128 ≤ c) : Script.single c = .token (.character c) := by
  have significant := not_isSeparator_of_isWord (isWord_of_high high)
  rw [Script.single, significant, if_neg (by decide)]

theorem first_of_high {c : Nat} (high : 128 ≤ c) (ctx : Context) (rest : List Nat) :
    Script.first ctx c rest = .ok (.token (.character c), rest) := by
  rw [Script.first_single (not_isQuote_of_high high) (ne_of_high high (by decide)),
    single_of_high high]

/-- The first item of a text is cut off the spelled text as the items it becomes. -/
theorem split_item (h : ctx.Alike ctx') {c : Nat} {rest after : List Nat} {i : Item}
    (cut : Script.first ctx c rest = .ok (i, after)) :
    Script.split ctx' (σ.text (c :: rest)) =
      (σ.item i ++ (Script.split ((σ.item i).foldl Context.after ctx') (σ.text after)).1,
        (Script.split ((σ.item i).foldl Context.after ctx') (σ.text after)).2) := by
  rcases Nat.lt_or_ge c 128 with ascii | high
  · have spelled := first_text σ h ascii rest
    rw [cut] at spelled
    rw [text_cons_ascii σ ascii, Script.split_of_ok spelled,
      item_of_first σ ascii (Script.first_eq_ok cut)]
    rfl
  · rw [first_of_high high] at cut
    cases cut
    have singles : (σ.spell c).map Script.single = σ.item (.token (.character c)) :=
      List.map_congr_left fun d hd => single_of_high (σ.spell_high c high d hd)
    rw [text_cons, ← singles]
    apply Script.split_singles
    intro d hd
    have above := σ.spell_high c high d hd
    exact ⟨not_isQuote_of_high above, ne_of_high above (by decide)⟩

/-- A spelled text is cut into what the items of the text become. -/
theorem split_text (h : ctx.Alike ctx') (t : List Nat) :
    Script.split ctx' (σ.text t) =
      ((Script.split ctx t).1.flatMap σ.item, (Script.split ctx t).2) := by
  fun_induction Script.split ctx t generalizing ctx' with
  | case1 ctx => exact Script.split_nil ctx'
  | case2 ctx c rest what unclosed =>
    rcases Nat.lt_or_ge c 128 with ascii | high
    · have spelled := first_text σ h ascii rest
      rw [unclosed] at spelled
      rw [text_cons_ascii σ ascii, Script.split_of_error spelled]
      rfl
    · rw [first_of_high high] at unclosed
      cases unclosed
  | case3 ctx c rest i after cut items fault rec ih =>
    rw [split_item σ h cut, ih (alike_item σ h i), rec, List.flatMap_cons]

/-! ## The second pass -/

theorem text_between (x : Symbol) (gap : List Nat) (y : Nat) :
    σ.text (Script.between x gap y) = Script.between x gap y := by
  apply text_of_ascii
  intro c hc
  rcases isSeparator_iff.mp (Script.isSeparator_between hc) with rfl | rfl <;> decide

/-- Nothing is put between characters that nothing separates. -/
theorem join_characters (t : Token) (spelled : List Nat) :
    Script.join { token := some t } (spelled.map fun d => .token (.character d)) = spelled := by
  induction spelled generalizing t with
  | nil => rfl
  | cons d more ih =>
    rw [List.map_cons, Script.join]
    show Script.between (some t.edge) [] d ++ [d] ++
      Script.join { token := some (.character d) } _ = _
    rw [ih, Script.between, if_pos rfl]
    rfl

/-- What is written for the items that an item becomes is what is written for it. -/
theorem join_item (h : ctx.Alike ctx') {c : Nat} {rest after : List Nat} {i : Item}
    (first : Script.First ctx c rest i after) :
    Script.join ctx' (σ.item i) = σ.text (Script.written ctx i) := by
  cases first with
  | separator => rfl
  | comment => rfl
  | @quoted body _ quote cut =>
    have ascii : c < 128 := by
      rcases isQuote_iff.mp quote with rfl | rfl | rfl <;> decide
    show Script.between ctx'.edge ctx'.gap c ++ (c :: σ.text body ++ [c]) ++ [] =
      σ.text (Script.between ctx.edge ctx.gap c ++ (c :: body ++ [c]))
    rw [List.append_nil, text_append, text_between, h.between rfl, text_append,
      text_cons_ascii σ ascii, text_cons_ascii σ ascii]
    rfl
  | @regex body _ isSlash plain opens cut =>
    show Script.between ctx'.edge ctx'.gap slash ++ (slash :: σ.text body ++ [slash]) ++ [] =
      σ.text (Script.between ctx.edge ctx.gap slash ++ (slash :: body ++ [slash]))
    rw [List.append_nil, text_append, text_between, h.between rfl, text_append,
      text_cons_ascii σ (by decide), text_cons_ascii σ (by decide)]
    rfl
  | character significant unquoted plain division =>
    obtain ⟨d, more, spelled, _⟩ := σ.spell_eq_cons c
    have same : folded d = folded c := by
      rcases Nat.lt_or_ge c 128 with ascii | high
      · rw [σ.spell_ascii c ascii] at spelled
        rw [(List.cons.inj spelled).1]
      · have above : 128 ≤ d := σ.spell_high c high d (by rw [spelled]; exact List.mem_cons_self)
        rw [folded_of_high above, folded_of_high high]
    show Script.join ctx' ((σ.spell c).map fun d => .token (.character d)) =
      σ.text (Script.between ctx.edge ctx.gap c ++ [c])
    rw [spelled, List.map_cons, Script.join]
    show Script.between ctx'.edge ctx'.gap d ++ [d] ++
      Script.join { token := some (.character d) } _ = _
    rw [join_characters, h.between same, text_append, text_between, text_singleton, spelled,
      List.append_assoc]
    rfl

/-- What is written for a spelled text is what is written for the text, spelled. -/
theorem join_items (h : ctx.Alike ctx') (t : List Nat) :
    Script.join ctx' ((Script.split ctx t).1.flatMap σ.item) =
      σ.text (Script.join ctx (Script.split ctx t).1) := by
  fun_induction Script.split ctx t generalizing ctx' with
  | case1 ctx => rfl
  | case2 => rfl
  | case3 ctx c rest i after cut items fault rec ih =>
    have later := ih (alike_item σ h i)
    rw [rec] at later
    rw [List.flatMap_cons, Script.join_append, join_item σ h (Script.first_eq_ok cut), later,
      Script.join, text_append]

end Spelling
end ScriptPress
