/-
Directives in a layout, such as `%(message)s`: how one is read, and what it
stands for.

A directive has the name of a field in brackets, then flags, a width and a
precision, all of which may be missing, and a letter that says how the field is
to be written.  Without a name it stands for the record as a whole.
-/
import ScriptPress.Journal.Record

namespace ScriptPress
namespace Journal

structure Directive where
  name : Option String
  flags : List Char
  width : Nat
  precision : Option Nat
  letter : Char
  deriving DecidableEq, Repr

namespace Directive

/-! ## Reading -/

def isFlag (c : Char) : Bool := ['#', '0', '+', ' ', '-'].contains c

/-- Letters for the size of a number, which is not asked for. -/
def isSize (c : Char) : Bool := ['h', 'l', 'L'].contains c

/-- A name up to the bracket that closes it, with `depth` brackets open in it, and
what follows. -/
def readName? (depth : Nat) : List Char → Option (List Char × List Char)
  | [] => none
  | c :: rest =>
    if c = ')' && depth == 0 then some ([], rest)
    else
      let depth := if c = '(' then depth + 1 else if c = ')' then depth - 1 else depth
      (readName? depth rest).map fun (name, after) => (c :: name, after)

def readKey? : List Char → Option (Option String × List Char)
  | '(' :: rest => (readName? 0 rest).map fun (name, after) => (some (String.ofList name), after)
  | chars => some (none, chars)

/-- A number and what follows it.  No digits at all count as zero. -/
def readNumber (chars : List Char) : Nat × List Char :=
  ((chars.takeWhile Char.isDigit).foldl (fun n c => 10 * n + (c.toNat - '0'.toNat)) 0,
    chars.dropWhile Char.isDigit)

def readPrecision : List Char → Option Nat × List Char
  | '.' :: rest => let (n, after) := readNumber rest; (some n, after)
  | chars => (none, chars)

/-- The letter at the end of a directive, after one for the size or none. -/
def readLetter? : List Char → Option (Char × List Char)
  | c :: rest => if isSize c then rest.head?.map fun l => (l, rest.tail) else some (c, rest)
  | [] => none

def widthLimit : Nat := Nat.pow 2 63 - 1

def precisionLimit : Nat := Nat.pow 2 31 - 1

/-- The directive after a per cent sign, and what follows it. -/
def read? (chars : List Char) : Option (Directive × List Char) := do
  let (name, chars) ← readKey? chars
  let flags := chars.takeWhile isFlag
  let (width, chars) := readNumber (chars.dropWhile isFlag)
  let (precision, chars) := readPrecision chars
  let (letter, chars) ← readLetter? chars
  if widthLimit < width ∨ precisionLimit < precision.getD 0 then none
  else return (⟨name, flags, width, precision, letter⟩, chars)

theorem length_readName?_lt {depth : Nat} {chars name after : List Char}
    (h : readName? depth chars = some (name, after)) : after.length < chars.length := by
  induction chars generalizing depth name with
  | nil => cases h
  | cons c rest ih =>
    unfold readName? at h
    split at h
    · cases h
      exact Nat.lt_succ_self _
    · obtain ⟨⟨name', after'⟩, found, same⟩ := Option.map_eq_some_iff.mp h
      cases same
      exact Nat.lt_succ_of_lt (ih found)

theorem length_readKey?_le {chars after : List Char} {name : Option String}
    (h : readKey? chars = some (name, after)) : after.length ≤ chars.length := by
  unfold readKey? at h
  split at h
  · obtain ⟨⟨name', after'⟩, found, same⟩ := Option.map_eq_some_iff.mp h
    cases same
    exact Nat.le_succ_of_le (Nat.le_of_lt (length_readName?_lt found))
  · cases h
    exact Nat.le_refl _

theorem length_readNumber_le (chars : List Char) : (readNumber chars).2.length ≤ chars.length :=
  (List.dropWhile_sublist _).length_le

theorem length_readPrecision_le (chars : List Char) :
    (readPrecision chars).2.length ≤ chars.length := by
  unfold readPrecision
  split
  next rest => exact Nat.le_succ_of_le (length_readNumber_le rest)
  next => exact Nat.le_refl _

theorem length_readLetter?_lt {chars after : List Char} {letter : Char}
    (h : readLetter? chars = some (letter, after)) : after.length < chars.length := by
  unfold readLetter? at h
  split at h
  next c rest =>
    split at h
    · obtain ⟨l, found, same⟩ := Option.map_eq_some_iff.mp h
      cases same
      simp only [List.length_tail, List.length_cons]
      omega
    · cases h
      exact Nat.lt_succ_self _
  next => cases h

theorem length_read?_lt {chars after : List Char} {d : Directive}
    (h : read? chars = some (d, after)) : after.length < chars.length := by
  simp only [read?, Option.bind_eq_bind, Option.bind_eq_some_iff, Option.pure_def,
    Option.ite_none_left_eq_some, Option.some.injEq, Prod.exists, Prod.mk.injEq] at h
  obtain ⟨name, rest, named, letter, rest', ended, within, same, rfl⟩ := h
  have name := length_readKey?_le named
  have flags := (List.dropWhile_sublist isFlag (l := rest)).length_le
  have width := length_readNumber_le (rest.dropWhile isFlag)
  have places := length_readPrecision_le (readNumber (rest.dropWhile isFlag)).2
  have letter := length_readLetter?_lt ended
  omega

/-! ## Writing -/

/-- A text with spaces beside it up to the width, on its left unless the flags have
a minus. -/
def pad (d : Directive) (text : List Char) : List Char :=
  let spaces := List.replicate (d.width - text.length) ' '
  if d.flags.contains '-' then text ++ spaces else spaces ++ text

/-- A text cut to the precision, at the width. -/
def excerpt (d : Directive) (text : String) : List Char :=
  d.pad (d.precision.elim text.toList fun n => text.toList.take n)

def sign (d : Directive) (negative : Bool) : List Char :=
  if negative then ['-']
  else if d.flags.contains '+' then ['+']
  else if d.flags.contains ' ' then [' ']
  else []

/-- A number up to the width.  Zeros that fill it up stand after its sign and the
mark of its base. -/
def padNumber (d : Directive) (lead body : List Char) : List Char :=
  if d.flags.contains '0' && !d.flags.contains '-' then
    lead ++ List.replicate (d.width - (lead ++ body).length) '0' ++ body
  else d.pad (lead ++ body)

/-- A number to be written: its sign, the mark of its base, and its digits. -/
structure Figures where
  negative : Bool
  mark : List Char
  digits : List Char

/-- A whole number in a base, with a mark before it if the flags ask for that. -/
def inBase (d : Directive) (base : Nat) (mark : List Char) (n : Int) : Figures :=
  ⟨n < 0, if d.flags.contains '#' then mark else [],
    Numeral.digits base (d.precision.getD 0) n.natAbs⟩

/-- A double in one of the notations for doubles. -/
def inStyle (d : Directive) (style : Bool → Nat → Nat → Nat → List Char) (x : Double) : Figures :=
  let (n, denominator) := x.ratio
  ⟨x.negative, [], style (d.flags.contains '#') (d.precision.getD 6) n denominator⟩

/-- A value as a number in the notation of the letter. -/
def figures? (d : Directive) (value : Value) : Option Figures :=
  match d.letter with
  | 'd' | 'i' | 'u' => value.whole?.map (d.inBase 10 [])
  | 'o' => value.integer?.map (d.inBase 8 ['0', 'o'])
  | 'x' | 'X' => value.integer?.map (d.inBase 16 ['0', 'x'])
  | 'f' | 'F' => value.real?.map (d.inStyle Numeral.fixed)
  | 'e' | 'E' => value.real?.map (d.inStyle Numeral.scientific)
  | 'g' | 'G' => value.real?.map (d.inStyle Numeral.general)
  | _ => none

/-- A number at the width.  A capital letter makes capitals. -/
def number (d : Directive) (figures : Figures) : List Char :=
  let written := d.padNumber (d.sign figures.negative ++ figures.mark) figures.digits
  if d.letter.isUpper then written.map Char.toUpper else written

/-- What a directive makes of a value.  There is nothing if the value is not of the
kind that the letter asks for. -/
def write? (d : Directive) (value : Value) : Option (List Char) :=
  match d.letter with
  | 's' => some (d.excerpt value.plain)
  | 'r' => some (d.excerpt (value.quoted Text.quote))
  | 'a' => some (d.excerpt (value.quoted Text.quoteAscii))
  | 'c' => value.character?.map fun c => d.pad [c]
  | _ => (d.figures? value).map d.number

/-- What a directive makes of a whole record, which is only ever written out. -/
def writeAll? (d : Directive) (isTimed : Bool) (r : Record) : Option (List Char) :=
  match d.letter with
  | 's' | 'r' => some (d.excerpt (r.quoted Text.quote isTimed))
  | 'a' => some (d.excerpt (r.quoted Text.quoteAscii isTimed))
  | _ => none

def text? (d : Directive) (isTimed : Bool) (r : Record) : Option (List Char) :=
  match d.name with
  | some name => (r.field? name).bind d.write?
  | none => d.writeAll? isTimed r

end Directive
end Journal
end ScriptPress
