/-
  TokenPilot.Library.Binary64 — the double that is nearest to a number.

  A double has 53 significant bits, and its last place is at least `2 ^ -1074`; a tie goes to the
  even one. The range has no end here: a number beyond the largest double, which rounds to an
  infinity, keeps 53 bits. Natural numbers below `2 ^ 53` are doubles (`double_natCast`).
-/

import Mathlib.Data.Int.Log
import Mathlib.Data.Rat.Floor
import Mathlib.Tactic.Linarith
import Mathlib.Tactic.NormNum

namespace TokenPilot.Library

def halfEven (x : ℚ) : Int :=
  if x - ⌊x⌋ < 1 / 2 then ⌊x⌋ else if 1 / 2 < x - ⌊x⌋ then ⌊x⌋ + 1 else if ⌊x⌋ % 2 = 0 then ⌊x⌋ else ⌊x⌋ + 1

/-- The exponent of the last place of a double near `x`. -/
def lastBit (x : ℚ) : Int := max (Int.log 2 |x| - 52) (-1074)

def double (x : ℚ) : ℚ := if x = 0 then 0 else halfEven (x / 2 ^ lastBit x) * 2 ^ lastBit x

theorem halfEven_intCast (n : Int) : halfEven n = n := by
  unfold halfEven
  rw [Int.floor_intCast, sub_self, if_pos (by norm_num)]

/-- A multiple of its last place is a double. -/
theorem double_of_multiple {x : ℚ} (c : Int) (h : x = c * 2 ^ lastBit x) : double x = x := by
  unfold double
  split
  · rename_i hzero
    exact hzero.symm
  · have hpos : (2 : ℚ) ^ lastBit x ≠ 0 := zpow_ne_zero _ (by norm_num)
    have hc : x / 2 ^ lastBit x = c := (div_eq_iff hpos).mpr h
    rw [hc, halfEven_intCast, ← h]

theorem double_natCast {n : Nat} (h : n < 2 ^ 53) : double n = n := by
  have hlog : Int.log 2 |(n : ℚ)| ≤ 52 := by
    rw [Nat.abs_cast, Int.log_natCast]
    have : Nat.log 2 n < 53 := Nat.log_lt_of_lt_pow' (by norm_num) h
    omega
  have hbit : lastBit n ≤ 0 := by
    unfold lastBit
    omega
  obtain ⟨k, hk⟩ : ∃ k : Nat, lastBit n = -(k : Int) := ⟨(-lastBit n).toNat, by omega⟩
  apply double_of_multiple (n * 2 ^ k)
  have hpow : (2 : ℚ) ^ lastBit n = ((2 : ℚ) ^ k)⁻¹ := by
    rw [hk, zpow_neg, zpow_natCast]
  rw [hpow]
  push_cast
  rw [mul_assoc, mul_inv_cancel₀ (pow_ne_zero _ (by norm_num)), mul_one]

theorem floor_le_halfEven (x : ℚ) : ⌊x⌋ ≤ halfEven x := by
  unfold halfEven
  split_ifs <;> omega

/-- A number from `2 ^ 53` on is not rounded below it. -/
theorem two_pow_le_double {x : ℚ} (h : 2 ^ 53 ≤ x) : 2 ^ 53 ≤ double x := by
  have hpos : 0 < x := lt_of_lt_of_le (by norm_num) h
  have habs : |x| = x := abs_of_pos hpos
  have hlog : 53 ≤ Int.log 2 x := by
    rw [← Int.zpow_le_iff_le_log (by norm_num) hpos, Nat.cast_ofNat]
    exact_mod_cast h
  have hbit : lastBit x = Int.log 2 x - 52 := by
    unfold lastBit
    rw [habs]
    omega
  have hlower : (2 : ℚ) ^ (Int.log 2 x) ≤ x := by
    have := Int.zpow_log_le_self (b := 2) (by norm_num) hpos
    rwa [Nat.cast_ofNat] at this
  have hbitPos : (0 : ℚ) < 2 ^ lastBit x := zpow_pos (by norm_num) _
  have hfloor : (2 ^ 52 : Int) ≤ ⌊x / 2 ^ lastBit x⌋ := by
    have hsplit : (2 : ℚ) ^ 52 * 2 ^ lastBit x = 2 ^ Int.log 2 x := by
      rw [← zpow_natCast, ← zpow_add₀ (by norm_num), hbit]
      congr 1
      omega
    rw [Int.le_floor, le_div_iff₀ hbitPos, Int.cast_pow, Int.cast_ofNat, hsplit]
    exact hlower
  unfold double
  rw [if_neg hpos.ne']
  calc (2 : ℚ) ^ 53 = 2 ^ 52 * 2 := by norm_num
    _ ≤ 2 ^ 52 * 2 ^ lastBit x := by
      apply mul_le_mul_of_nonneg_left _ (by norm_num)
      calc (2 : ℚ) = 2 ^ (1 : Int) := by norm_num
        _ ≤ 2 ^ lastBit x := zpow_le_zpow_right₀ (by norm_num) (by omega)
    _ ≤ halfEven (x / 2 ^ lastBit x) * 2 ^ lastBit x := by
      apply mul_le_mul_of_nonneg_right _ hbitPos.le
      exact_mod_cast hfloor.trans (floor_le_halfEven _)

end TokenPilot.Library
