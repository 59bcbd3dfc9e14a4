/-
The layout of console lines: text with directives in it, such as `%(message)s`.

Whether a layout can be used is decided when it is handed over, by looking for
something like a directive in it.  That test knows digits and letters of every
script, while the directives themselves are read more strictly, and only once
there is a record to show.  So a usable layout may still have no line for a
record.
-/
import ScriptPress.Journal.Directive
import ScriptPress.Text.Digit
import ScriptPress.Text.Word

namespace ScriptPress
namespace Journal
namespace Layout

/-- The layout used where none is given. -/
def plain : String := "%(message)s"

/-! ## Usable layouts -/

/-- Letters that a field may end in, in either case.  The dotted and the dotless i
and the long s count as cases of i and s. -/
def isLetter (c : Char) : Bool :=
  ['d', 'i', 'o', 'u', 'x', 'e', 'f', 'g', 'c', 'r', 's', 'a', '%', 'İ', 'ı', 'ſ'].contains c.toLower

def skipNumber : List Char → List Char
  | '*' :: rest => rest
  | chars => chars.dropWhile Text.isDigit

def skipPrecision : List Char → List Char
  | '.' :: rest =>
    let after := skipNumber rest
    if after.length < rest.length then after else '.' :: rest
  | chars => chars

/-- Whether the characters start with a field: a word in brackets after a per cent
sign, then flags, width, precision and a letter. -/
def startsField : List Char → Bool
  | '%' :: '(' :: rest =>
    match rest.dropWhile Text.isWord with
    | ')' :: after =>
      let ending := skipPrecision (skipNumber (after.dropWhile Directive.isFlag))
      rest.head?.any Text.isWord && ending.head?.any isLetter
    | _ => false
  | _ => false

def hasField : List Char → Bool
  | [] => false
  | c :: rest => startsField (c :: rest) || hasField rest

/-- Whether a layout can be used.  An empty one stands for the plain one. -/
def isUsable (layout : String) : Bool := layout.isEmpty || hasField layout.toList

/-! ## Layouts as pieces -/

inductive Piece where
  | character (c : Char)
  | directive (d : Directive)
  deriving DecidableEq, Repr

/-- The piece that the characters start with, and what follows it.  Two per cent
signs stand for one. -/
def piece? : List Char → Option (Piece × List Char)
  | [] => none
  | '%' :: '%' :: rest => some (.character '%', rest)
  | '%' :: rest => (Directive.read? rest).map fun (d, after) => (.directive d, after)
  | c :: rest => some (.character c, rest)

theorem length_piece?_lt {chars after : List Char} {piece : Piece}
    (h : piece? chars = some (piece, after)) : after.length < chars.length := by
  unfold piece? at h
  split at h
  · cases h
  · cases h
    simp only [List.length_cons]
    omega
  next rest =>
    obtain ⟨⟨d, after'⟩, found, same⟩ := Option.map_eq_some_iff.mp h
    cases same
    exact Nat.lt_succ_of_lt (Directive.length_read?_lt found)
  · cases h
    exact Nat.lt_succ_self _

set_option linter.unusedVariables false in
/-- The pieces of a layout up to the first that cannot be read, and what is left
from there on. -/
def pieces (chars : List Char) : List Piece × List Char :=
  match h : piece? chars with
  | some (piece, after) => let (rest, left) := pieces after; (piece :: rest, left)
  | none => ([], chars)
termination_by chars.length
decreasing_by exact length_piece?_lt h

def directives (pieces : List Piece) : List Directive :=
  pieces.filterMap fun
    | .character _ => none
    | .directive d => some d

/-- Whether every directive but the first has a name.  A record as a whole can only
be asked for before any of its fields, and once. -/
def isNamed (pieces : List Piece) : Bool := ((directives pieces).drop 1).all (·.name.isSome)

/-! ## Filling in -/

/-- Whether the time of a record is asked for anywhere in a layout. -/
def isTimed : List Char → Bool
  | [] => false
  | c :: rest => "%(asctime)".toList.isPrefixOf (c :: rest) || isTimed rest

def Piece.text? (isTimed : Bool) (r : Record) : Piece → Option (List Char)
  | character c => some [c]
  | directive d => d.text? isTimed r

/-- The line for a record.  There is none if the layout cannot be read, or asks for a
field that the record does not have or that is not of the kind it wants. -/
def line? (layout : String) (r : Record) : Option String :=
  let layout := if layout.isEmpty then plain else layout
  let (pieces, left) := pieces layout.toList
  if left.isEmpty && isNamed pieces then
    (pieces.mapM (Piece.text? (isTimed layout.toList) r)).map fun texts => String.ofList texts.flatten
  else none

end Layout
end Journal
end ScriptPress
