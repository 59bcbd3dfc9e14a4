/-
Numbers written in digits: in a base, or in decimal with a point, with a power of
ten, or whichever of the two is the shorter.

A decimal is written for a ratio `n / d`, so that all rounding is done on the exact
value.  `isExact` keeps the point where nothing follows it, and zeros at the end.
-/
import ScriptPress.Double

namespace ScriptPress
namespace Numeral

/-- The digits of `n` in a base, at least `least` of them. -/
def digits (base least n : Nat) : List Char :=
  let digits := Nat.toDigits base n
  List.replicate (least - digits.length) '0' ++ digits

/-- A whole part and a fraction with a point between them. -/
def pointed (isExact : Bool) (whole fraction : List Char) : List Char :=
  if fraction.isEmpty && !isExact then whole else whole ++ '.' :: fraction

/-- A number with a power of ten behind it. -/
def powered (number : List Char) (power : Int) : List Char :=
  number ++ ['e', if power < 0 then '-' else '+'] ++ digits 10 2 power.natAbs

/-- Digits with the point where the power of ten of the first of them puts it: the
whole part and the fraction. -/
def positioned (first : List Char) (power : Int) : List Char × List Char :=
  if power < 0 then (['0'], List.replicate (power.natAbs - 1) '0' ++ first)
  else
    let count := power.toNat + 1
    (first.take count ++ List.replicate (count - first.length) '0', first.drop count)

/-! ## Leading digits -/

/-- The power of ten that the first digit of `n / d` stands for. -/
def magnitude (n d : Nat) : Int :=
  if n = 0 then 0
  else if d ≤ n then ((Nat.toDigits 10 (n / d)).length : Int) - 1
  else
    let zeros := (Nat.toDigits 10 (d / n)).length - 1
    if d ≤ n * Nat.pow 10 zeros then -(zeros : Int) else -(zeros : Int) - 1

/-- `n / d` in units of a power of ten. -/
def inUnits (power : Int) (n d : Nat) : Nat × Nat :=
  if 0 ≤ power then (n, d * Nat.pow 10 power.toNat) else (n * Nat.pow 10 power.natAbs, d)

/-- The first `count` digits of `n / d`, rounded, and the power of ten that the first
of them stands for. -/
def leading (count n d : Nat) : List Char × Int :=
  let power := magnitude n d
  let (top, bottom) := inUnits (power - (count - 1)) n d
  let rounded := roundedQuotient top bottom
  if rounded = Nat.pow 10 count then (Nat.toDigits 10 (rounded / 10), power + 1)
  else (digits 10 count rounded, power)

/-! ## Notations -/

/-- `n / d` with `places` digits after the point. -/
def fixed (isExact : Bool) (places n d : Nat) : List Char :=
  let units := roundedQuotient (n * Nat.pow 10 places) d
  let fraction := if places = 0 then [] else digits 10 places (units % Nat.pow 10 places)
  pointed isExact (Nat.toDigits 10 (units / Nat.pow 10 places)) fraction

/-- `n / d` as one digit, `places` more after the point, and a power of ten. -/
def scientific (isExact : Bool) (places n d : Nat) : List Char :=
  let (first, power) := leading (places + 1) n d
  powered (pointed isExact (first.take 1) (first.drop 1)) power

/-- Digits without the zeros at their end. -/
def trimmed (isExact : Bool) (fraction : List Char) : List Char :=
  if isExact then fraction else (fraction.reverse.dropWhile (· == '0')).reverse

/-- `n / d` in `count` digits, or one if that is none.  A power of ten is written only
where the digits do not reach the point, or are far behind it. -/
def general (isExact : Bool) (count n d : Nat) : List Char :=
  let count := max 1 count
  let (first, power) := leading count n d
  if -4 ≤ power ∧ power < count then
    let (whole, fraction) := positioned first power
    pointed isExact whole (trimmed isExact fraction)
  else powered (pointed isExact (first.take 1) (trimmed isExact (first.drop 1))) power

/-! ## The shortest notation -/

/-- Digits that always tell a double from all others. -/
def sufficientDigits : Nat := 17

/-- The numbers of `count` digits on either side of `n / d`, the nearer first, each as a
multiple of a power of ten. -/
def neighbours (count n d : Nat) : List (Nat × Int) :=
  let unit := magnitude n d - (count - 1)
  let (top, bottom) := inUnits unit n d
  let below := top / bottom
  let near := roundedQuotient top bottom
  [(near, unit), (if near = below then below + 1 else below, unit)]

/-- Whether `n / d` is the double nearest to a multiple of a power of ten. -/
def readsAs (n d : Nat) (decimal : Nat × Int) : Bool :=
  let (top, bottom) :=
    if 0 ≤ decimal.2 then (decimal.1 * Nat.pow 10 decimal.2.toNat, 1)
    else (decimal.1, Nat.pow 10 decimal.2.natAbs)
  (Double.ofRatio? top bottom).any fun x => x.ratio.1 * d == n * x.ratio.2

/-- The fewest digits that are read as the double `n / d` again, and the power of ten
that the first of them stands for. -/
def shortest (n d : Nat) : List Char × Int :=
  let found := (List.range sufficientDigits).findSome? fun k =>
    (neighbours (k + 1) n d).find? (readsAs n d)
  match found with
  | some (digits, unit) =>
    let all := Nat.toDigits 10 digits
    (trimmed false all, unit + all.length - 1)
  | none => leading sufficientDigits n d

/-- `n / d` as a double is written in full: a point and a digit after it at least, or a
power of ten where the point would be far away. -/
def literal (n d : Nat) : List Char :=
  let (first, power) := if n = 0 then (['0'], 0) else shortest n d
  if -4 ≤ power ∧ power < 16 then
    let (whole, fraction) := positioned first power
    pointed true whole (if fraction.isEmpty then ['0'] else fraction)
  else powered (pointed false (first.take 1) (first.drop 1)) power

end Numeral
end ScriptPress
