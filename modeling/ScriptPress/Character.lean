/-
Characters of a script and the classes the separator rules ask about.

A character is its code.  Codes are natural numbers rather than bytes, so the
same rules serve a script read as bytes and a script read as code points.  The
end of the input is not a code: where it can occur the type is `Symbol`.
-/

namespace ScriptPress

/-- A character code, or `none` past the end of the input. -/
abbrev Symbol := Option Nat

namespace Symbol

/-- A number as a symbol.  Negative numbers are no characters; they all stand
for the end of the input, which like them is in no class. -/
def ofInt (n : Int) : Symbol := if n < 0 then none else some n.toNat

/-- The number written for a symbol: its code, or `-1` past the end. -/
def toInt : Symbol → Int
  | none => -1
  | some c => c

end Symbol

namespace Code

/-! ## Single characters -/

def newline : Nat := 10
def carriageReturn : Nat := 13
def space : Nat := 32
def doubleQuote : Nat := 34
def singleQuote : Nat := 39
def star : Nat := 42
def plus : Nat := 43
def minus : Nat := 45
def slash : Nat := 47
def openBracket : Nat := 91
def backslash : Nat := 92
def closeBracket : Nat := 93
def backquote : Nat := 96
def openBrace : Nat := 123
def closeBrace : Nat := 125
def tilde : Nat := 126

/-! ## Effective characters

Control codes never reach the rules: a carriage return counts as a line end and
every other control code as a space. -/

/-- The character a raw code counts as. -/
def effective (c : Nat) : Nat :=
  if space ≤ c ∨ c = newline then c
  else if c = carriageReturn then newline
  else space

theorem effective_of_visible {c : Nat} (h : space ≤ c ∨ c = newline) : effective c = c := by
  rw [effective, if_pos h]

/-- No control code but the line end is effective. -/
theorem visible_effective (c : Nat) : space ≤ effective c ∨ effective c = newline := by
  by_cases visible : space ≤ c ∨ c = newline
  · rw [effective_of_visible visible]; exact visible
  · by_cases hc : c = carriageReturn
    · rw [effective, if_neg visible, if_pos hc]; exact .inr rfl
    · rw [effective, if_neg visible, if_neg hc]; exact .inl (Nat.le_refl _)

theorem effective_effective (c : Nat) : effective (effective c) = effective c :=
  effective_of_visible (visible_effective c)

/-! ## Classes -/

/-- Opening characters of quoted literals. -/
def isQuote (c : Nat) : Bool :=
  c == singleQuote || c == doubleQuote || c == backquote

/-- Spaces and line ends, the only effective characters that may be dropped. -/
def isSeparator (c : Nat) : Bool := c == space || c == newline

/-- `+` and `-`, which fuse with a neighbour of their kind. -/
def isSign (c : Nat) : Bool := c == plus || c == minus

/-- Characters after which a slash opens a regular expression:
`( , = : [ ! & | ? + - ~ * / ;` and the two braces. -/
def admitsRegex (c : Nat) : Bool :=
  [40, 44, 61, 58, openBracket, 33, 38, 124, 63, plus, minus, tilde, star, slash,
    openBrace, closeBrace, 59].contains c

/-- Characters before which a line end is kept: `[ ( + - ! ~` and the opening brace. -/
def keepsLineBefore (c : Nat) : Bool :=
  [openBrace, openBracket, 40, plus, minus, 33, tilde].contains c

/-- Characters after which a line end is kept: `] ) + -`, the braces and the quotes. -/
def keepsLineAfter (c : Nat) : Bool :=
  [openBrace, closeBrace, closeBracket, 41, plus, minus, doubleQuote, singleQuote,
    backquote].contains c

/-- Identifier characters: letters, digits, `_`, `$`, the backslash and every
code above the printable ones. -/
def isWord (c : Nat) : Bool :=
  (97 ≤ c && c ≤ 122) || (48 ≤ c && c ≤ 57) || (65 ≤ c && c ≤ 90) ||
    c == 95 || c == 36 || c == backslash || tilde < c

/-! ## Classes that exclude each other -/

theorem isSeparator_iff {c : Nat} : isSeparator c ↔ c = space ∨ c = newline := by
  simp [isSeparator]

theorem not_isSeparator_iff {c : Nat} : isSeparator c = false ↔ c ≠ space ∧ c ≠ newline := by
  simp [isSeparator]

/-- A character that is no separator is what only itself counts as. -/
theorem effective_ne {c d : Nat} (h : c ≠ d) (significant : isSeparator d = false) :
    effective c ≠ d := by
  obtain ⟨notSpace, notLine⟩ := not_isSeparator_iff.mp significant
  unfold effective
  split
  · exact h
  · split
    · exact notLine.symm
    · exact notSpace.symm

theorem isSign_iff {c : Nat} : isSign c ↔ c = plus ∨ c = minus := by
  simp [isSign]

theorem not_isSign_of_isWord {c : Nat} (h : isWord c) : isSign c = false := by
  cases sign : isSign c with
  | false => rfl
  | true => rcases isSign_iff.mp sign with rfl | rfl <;> exact absurd h (by decide)

theorem keepsLineAfter_of_isSign {c : Nat} (h : isSign c) : keepsLineAfter c := by
  rcases isSign_iff.mp h with rfl | rfl <;> decide

theorem keepsLineBefore_of_isSign {c : Nat} (h : isSign c) : keepsLineBefore c := by
  rcases isSign_iff.mp h with rfl | rfl <;> decide

theorem not_isWord_of_isSeparator {c : Nat} (h : isSeparator c) : isWord c = false := by
  rcases isSeparator_iff.mp h with rfl | rfl <;> decide

theorem not_isQuote_of_isSeparator {c : Nat} (h : isSeparator c) : isQuote c = false := by
  rcases isSeparator_iff.mp h with rfl | rfl <;> decide

theorem not_isSeparator_of_isSign {c : Nat} (h : isSign c) : isSeparator c = false := by
  rcases isSign_iff.mp h with rfl | rfl <;> decide

theorem not_isSign_of_isSeparator {c : Nat} (h : isSeparator c) : isSign c = false := by
  rcases isSeparator_iff.mp h with rfl | rfl <;> decide

theorem isQuote_iff {c : Nat} :
    isQuote c ↔ c = singleQuote ∨ c = doubleQuote ∨ c = backquote := by
  simp [isQuote, or_assoc]

theorem not_isSeparator_of_isQuote {c : Nat} (h : isQuote c) : isSeparator c = false := by
  rcases isQuote_iff.mp h with rfl | rfl | rfl <;> decide

theorem ne_slash_of_isQuote {c : Nat} (h : isQuote c) : c ≠ slash := by
  rcases isQuote_iff.mp h with rfl | rfl | rfl <;> decide

theorem not_admitsRegex_of_isWord {c : Nat} (h : isWord c) : admitsRegex c = false := by
  cases admits : admitsRegex c with
  | false => rfl
  | true =>
    simp only [admitsRegex, List.contains_eq_mem, decide_eq_true_eq, List.mem_cons,
      List.not_mem_nil, or_false] at admits
    rcases admits with rfl | rfl | rfl | rfl | rfl | rfl | rfl | rfl | rfl | rfl | rfl | rfl |
      rfl | rfl | rfl | rfl | rfl <;> exact absurd h (by decide)

/-- A slash ends no statement. -/
theorem ne_slash_of_ends {c : Nat} (h : keepsLineAfter c || isWord c) : c ≠ slash := by
  rintro rfl
  revert h
  decide

end Code
end ScriptPress
