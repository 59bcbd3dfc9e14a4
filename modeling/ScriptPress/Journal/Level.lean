/-
Levels of importance of what is written to the journal.
-/

namespace ScriptPress
namespace Journal
namespace Level

def debug : Int := 10
def info : Int := 20
def warning : Int := 30
def error : Int := 40
def critical : Int := 50

/-- Whether what is of one level passes where all below another is dropped.  A level
that is not positive never does. -/
def passes (least level : Int) : Bool := 0 < level && least ≤ level

theorem passes_iff {least level : Int} : passes least level = true ↔ 0 < level ∧ least ≤ level := by
  rw [passes, Bool.and_eq_true, decide_eq_true_eq, decide_eq_true_eq]

theorem not_passes_of_lt {least level : Int} (low : level < least) : passes least level = false := by
  rw [← Bool.not_eq_true, passes_iff]
  exact fun h => Int.not_lt.mpr h.2 low

/-- The name shown for a level. -/
def name (level : Int) : String :=
  if level = debug then "DEBUG"
  else if level = info then "INFO"
  else if level = warning then "WARNING"
  else if level = error then "ERROR"
  else if level = critical then "CRITICAL"
  else s!"Level {level}"

/-! ## Levels asked for by name -/

/-- Blanks that may stand around a name: white space of any script, and the
information separators. -/
def isBlank (c : Char) : Bool :=
  let n := c.toNat
  (0x09 ≤ n && n ≤ 0x0D) || (0x1C ≤ n && n ≤ 0x20) || n == 0x85 || n == 0xA0 || n == 0x1680 ||
    (0x2000 ≤ n && n ≤ 0x200A) || n == 0x2028 || n == 0x2029 || n == 0x202F || n == 0x205F ||
    n == 0x3000

/-- The capital of a letter.  Outside ASCII only the dotless i and the long s
have one that is a letter of a name. -/
def capital (c : Char) : Char :=
  if c = 'ı' then 'I' else if c = 'ſ' then 'S' else c.toUpper

/-- A name without the blanks around it, in capitals. -/
def canonical (text : String) : String :=
  let chars := (text.toList.dropWhile isBlank).reverse.dropWhile isBlank
  String.ofList (chars.reverse.map capital)

/-- The level with a name, in capitals. -/
def named? : String → Option Int
  | "DEBUG" => some debug
  | "INFO" => some info
  | "WARNING" => some warning
  | "WARN" => some warning
  | "ERROR" => some error
  | "CRITICAL" => some critical
  | _ => none

/-- The level asked for, or `warning` if none is or its name means nothing. -/
def ofSetting (setting : Option String) : Int :=
  ((setting.map canonical).bind named?).getD warning

end Level
end Journal
end ScriptPress
