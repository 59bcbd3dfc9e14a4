/-
Reductions that exist.

The reduction of a tally is the difference of a hundred and a rounded quotient, and a
quotient that is too large has no double.  A run never makes more of a script than it
read, so its quotient is at most a hundred, and both roundings stay in range.
-/
import ScriptPress.Proofs.Draft

namespace ScriptPress

namespace Double

theorem log2_le_of_le {n d : Nat} (filled : n ≠ 0) (small : n ≤ 1024 * d) :
    n.log2 ≤ d.log2 + 10 := by
  have below : d < 2 ^ (d.log2 + 1) := Nat.lt_log2_self
  have split : 2 ^ (d.log2 + 11) = 1024 * 2 ^ (d.log2 + 1) := by
    rw [show d.log2 + 11 = 10 + (d.log2 + 1) by omega, Nat.pow_add]
  have above : n < 2 ^ (d.log2 + 11) := by omega
  exact Nat.le_of_lt_succ ((Nat.log2_lt filled).mpr above)

/-- Quotients of this size are rounded to a multiple of a small power of two. -/
theorem exponentFor_le {n d : Nat} (filled : n ≠ 0) (small : n ≤ 1024 * d) :
    exponentFor n d ≤ -42 := by
  have logs := log2_le_of_le filled small
  unfold exponentFor leastExponent precision
  dsimp only
  split
  · omega
  · omega

/-- The rounded quotient in units of `2 ^ e` is bounded as the quotient is. -/
theorem significandAt_le {e : Int} {n d bound : Nat} (fine : e < 0) (counts : 0 < d)
    (small : n ≤ bound * d) : significandAt e n d ≤ bound * Nat.pow 2 (-e).toNat := by
  unfold significandAt
  rw [if_neg (by omega)]
  have near := (roundedQuotient_near (n * Nat.pow 2 (-e).toNat) d counts).2
  generalize roundedQuotient (n * Nat.pow 2 (-e).toNat) d = m at near ⊢
  have scaled : n * Nat.pow 2 (-e).toNat ≤ d * (bound * Nat.pow 2 (-e).toNat) := by
    calc n * Nat.pow 2 (-e).toNat
        ≤ bound * d * Nat.pow 2 (-e).toNat := Nat.mul_le_mul_right _ small
      _ = d * (bound * Nat.pow 2 (-e).toNat) := by rw [Nat.mul_comm bound d, Nat.mul_assoc]
  generalize bound * Nat.pow 2 (-e).toNat = limit at scaled ⊢
  by_contra above
  have above : limit + 1 ≤ m := by omega
  have product : d * (limit + 1) ≤ d * m := Nat.mul_le_mul_left d above
  rw [Nat.mul_succ] at product
  omega

/-- A quotient of moderate size has a double, which is of the same size. -/
theorem ofRatio?_of_le {n : Int} {d bound : Nat} (counts : 0 < d) (moderate : bound ≤ 1024)
    (small : n.natAbs ≤ bound * d) :
    ∃ x, ofRatio? n d = some x ∧ x.exponent < 0 ∧
      x.significand ≤ bound * Nat.pow 2 (-x.exponent).toNat := by
  unfold ofRatio?
  by_cases empty : n = 0
  · rw [if_pos empty]
    exact ⟨zero, rfl, by decide, Nat.zero_le _⟩
  · rw [if_neg empty]
    have filled : n.natAbs ≠ 0 := by omega
    have exponent_le := exponentFor_le filled
      (Nat.le_trans small (Nat.mul_le_mul_right d moderate))
    have significand_le := significandAt_le (e := exponentFor n.natAbs d) (by omega) counts small
    dsimp only
    generalize exponentFor n.natAbs d = e at exponent_le significand_le ⊢
    generalize significandAt e n.natAbs d = m at significand_le ⊢
    have inRange : ¬ greatestExponent < e + 1 ∧ ¬ greatestExponent < e := by
      unfold greatestExponent
      omega
    by_cases carried : m = Nat.pow 2 precision
    · rw [if_pos carried, if_neg inRange.1]
      refine ⟨_, rfl, by show e + 1 < 0; omega, ?_⟩
      show m / 2 ≤ bound * Nat.pow 2 (-(e + 1)).toNat
      have halved : Nat.pow 2 (-e).toNat = Nat.pow 2 (-(e + 1)).toNat * 2 := by
        rw [show (-e).toNat = (-(e + 1)).toNat + 1 by omega]
        rfl
      rw [halved, ← Nat.mul_assoc] at significand_le
      omega
    · rw [if_neg carried, if_neg inRange.2]
      exact ⟨_, rfl, by show e < 0; omega, significand_le⟩

end Double

/-- A tally of no more bytes written than read has a reduction. -/
theorem Tally.reduction?_isSome {t : Tally} (wrote : 0 ≤ t.bytesOut)
    (shrunk : t.bytesOut ≤ t.bytesIn) : t.reduction?.isSome := by
  unfold reduction?
  split
  · rfl
  next read =>
    have counts : 0 < t.bytesIn.toNat := by omega
    obtain ⟨left, rounded, fine, size⟩ := @Double.ofRatio?_of_le (t.bytesOut * 100)
      t.bytesIn.toNat 100 counts (by decide) (by omega)
    have positive : 0 < Nat.pow 2 (-left.exponent).toNat := Nat.two_pow_pos _
    rw [rounded]
    show (left.subtractFrom? 100).isSome
    unfold Double.subtractFrom?
    dsimp only
    rw [if_neg (by omega)]
    generalize Nat.pow 2 (-left.exponent).toNat = unit at positive size ⊢
    have bounded : (100 * (unit : Int) -
        if left.negative then -(left.significand : Int) else left.significand).natAbs ≤
        200 * unit := by
      split
      · omega
      · omega
    obtain ⟨x, some_x, _⟩ := Double.ofRatio?_of_le positive (by decide : 200 ≤ 1024) bounded
    rw [some_x]
    rfl

namespace Script

theorem length_minify_le {script out : Bytes} (h : minify script = .ok out) :
    out.length ≤ script.length := by
  have written := (stored_prefix_draft script).length_le
  have drafted := length_draft_le {} (characters script)
  simp only [Plain.bytes, characters, List.length_map] at written drafted
  rw [minify_eq_minifyStream] at h
  cases ended : (minifyStream { supply := .bytes script } {}).result with
  | error halt =>
    rw [ended] at h
    cases h
  | ok tally =>
    rw [ended] at h
    cases h
    exact written.trans drafted

end Script
end ScriptPress
