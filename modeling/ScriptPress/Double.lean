/-
Binary floating-point numbers of 64 bits, as exact values.

A double is a sign, a significand and a power of two, and every operation is
done on integers: form the exact ratio, then round it once, to nearest, ties to
even.
-/

namespace ScriptPress

/-- The quotient of `n` by `d` rounded to the nearest integer, ties to even. -/
def roundedQuotient (n d : Nat) : Nat :=
  let q := n / d
  let r := n % d
  if 2 * r < d then q
  else if d < 2 * r then q + 1
  else q + q % 2

/-- The rounded quotient is within half a unit of the exact one. -/
theorem roundedQuotient_near (n d : Nat) (h : 0 < d) :
    2 * n ≤ 2 * (d * roundedQuotient n d) + d ∧ 2 * (d * roundedQuotient n d) ≤ 2 * n + d := by
  have split := Nat.div_add_mod n d
  have small := Nat.mod_lt n h
  have up : d * (n / d + 1) = d * (n / d) + d := Nat.mul_succ d (n / d)
  simp only [roundedQuotient]
  by_cases below : 2 * (n % d) < d
  · rw [if_pos below]; omega
  · rw [if_neg below]
    by_cases above : d < 2 * (n % d)
    · rw [if_pos above]; omega
    · rw [if_neg above]
      rcases Nat.mod_two_eq_zero_or_one (n / d) with even | odd
      · rw [even]; simp only [Nat.add_zero]; omega
      · rw [odd]; omega

/-- The finite double `±significand * 2 ^ exponent`. -/
structure Double where
  negative : Bool
  significand : Nat
  exponent : Int
  deriving DecidableEq, Repr

namespace Double

/-- The exponent of the smallest doubles. -/
def leastExponent : Int := -1074

/-- The exponent of the largest doubles. -/
def greatestExponent : Int := 971

/-- Significands stay below two to this power. -/
def precision : Nat := 53

def zero : Double := ⟨false, 0, leastExponent⟩

/-- The exponent at which `n / d` has a significand of full length, or the least
one. -/
def exponentFor (n d : Nat) : Int :=
  let estimate : Int := (n.log2 : Int) - d.log2 - (precision - 1 : Nat)
  let short : Bool :=
    if 0 ≤ estimate then n < d * Nat.pow 2 (precision - 1 + estimate.toNat)
    else n * Nat.pow 2 (-estimate).toNat < d * Nat.pow 2 (precision - 1)
  max leastExponent (if short then estimate - 1 else estimate)

/-- `n / d` in units of `2 ^ e`, rounded. -/
def significandAt (e : Int) (n d : Nat) : Nat :=
  if 0 ≤ e then roundedQuotient n (d * Nat.pow 2 e.toNat)
  else roundedQuotient (n * Nat.pow 2 (-e).toNat) d

/-- The double nearest to `n / d`, or `none` when it is out of range. -/
def ofRatio? (n : Int) (d : Nat) : Option Double :=
  if n = 0 then some zero
  else
    let e := exponentFor n.natAbs d
    let m := significandAt e n.natAbs d
    let rounded : Double :=
      if m = Nat.pow 2 precision then ⟨n < 0, m / 2, e + 1⟩ else ⟨n < 0, m, e⟩
    if greatestExponent < rounded.exponent then none else some rounded

def subtractFrom? (n : Int) (x : Double) : Option Double :=
  let m : Int := if x.negative then -x.significand else x.significand
  if 0 ≤ x.exponent then ofRatio? (n - m * Nat.pow 2 x.exponent.toNat) 1
  else
    let unit := Nat.pow 2 (-x.exponent).toNat
    ofRatio? (n * unit - m) unit

/-- A double without its sign, as a numerator and a denominator. -/
def ratio (x : Double) : Nat × Nat :=
  if 0 ≤ x.exponent then (x.significand * Nat.pow 2 x.exponent.toNat, 1)
  else (x.significand, Nat.pow 2 (-x.exponent).toNat)

/-- A double without what follows its point. -/
def truncated (x : Double) : Int :=
  let (n, d) := x.ratio
  if x.negative then -(n / d : Nat) else (n / d : Nat)

/-- The interchange encoding: sign, biased exponent, fraction. -/
def toBits (x : Double) : Nat :=
  let hidden := Nat.pow 2 (precision - 1)
  let magnitude :=
    if x.significand < hidden then x.significand
    else (x.exponent - leastExponent + 1).toNat * hidden + (x.significand - hidden)
  if x.negative then Nat.pow 2 63 + magnitude else magnitude

/-- The value in decimal with `places` digits after the point, ties to even. -/
def toFixed (places : Nat) (x : Double) : String :=
  let n := x.significand * Nat.pow 10 places
  let units :=
    if 0 ≤ x.exponent then n * Nat.pow 2 x.exponent.toNat
    else roundedQuotient n (Nat.pow 2 (-x.exponent).toNat)
  let fraction := toString (units % Nat.pow 10 places)
  let padding := String.ofList (List.replicate (places - fraction.length) '0')
  (if x.negative then "-" else "") ++ toString (units / Nat.pow 10 places) ++ "." ++ padding ++ fraction

end Double
end ScriptPress
