/-
Text between quotes, with everything that would not show written as an escape.
-/
import ScriptPress.Text.Visible

namespace ScriptPress
namespace Text

/-- The last `width` hexadecimal digits of a number. -/
def hexDigits (width n : Nat) : String :=
  let digits := Nat.toDigits 16 n
  String.ofList (List.replicate (width - digits.length) '0' ++ digits)

/-- The escape for a character, as short as its code allows. -/
def escape (c : Char) : String :=
  let n := c.toNat
  if n < 0x100 then "\\x" ++ hexDigits 2 n
  else if n < 0x10000 then "\\u" ++ hexDigits 4 n
  else "\\U" ++ hexDigits 8 n

/-- A character between quotes of the given kind.  Those that are not
shown are escaped. -/
def inside (isShown : Char → Bool) (mark c : Char) : String :=
  if c = mark then "\\" ++ c.toString
  else
    match c with
    | '\\' => "\\\\"
    | '\t' => "\\t"
    | '\n' => "\\n"
    | '\r' => "\\r"
    | _ => if isShown c then c.toString else escape c

/-- Single quotes, unless that is the only kind the text itself has. -/
def markFor (text : List Char) : Char :=
  if text.contains '\'' && !text.contains '"' then '"' else '\''

/-- A text between quotes, of which the characters that are `isShown` stay. -/
def quoteBy (isShown : Char → Bool) (text : String) : String :=
  let chars := text.toList
  let mark := markFor chars
  mark.toString ++ String.join (chars.map (inside isShown mark)) ++ mark.toString

def quote (text : String) : String := quoteBy isVisible text

/-- A text between quotes, in ASCII only. -/
def quoteAscii (text : String) : String := quoteBy (fun c => isVisible c && c.toNat < 128) text

end Text
end ScriptPress
