/-
  TokenPilot.Library.Decimal — numbers as the decimals that are written for them.

  A `Decimal` is a coefficient and a power of ten, with no trailing zero in the
  coefficient, so that every terminating decimal number has one. `ofScaled` brings any
  coefficient and exponent to that form and keeps its value (`toRat_ofScaled`).
-/

import Mathlib.Tactic.Ring
import Mathlib.Tactic.FieldSimp
import Mathlib.Algebra.Order.Field.Rat
import Mathlib.Algebra.Order.Field.Power

namespace TokenPilot.Library

structure Decimal where
  coefficient : Int
  exponent : Int
  normal : coefficient = 0 ∧ exponent = 0 ∨ coefficient % 10 ≠ 0
  deriving DecidableEq

namespace Decimal

def toRat (d : Decimal) : ℚ := d.coefficient * (10 : ℚ) ^ d.exponent

/-- Moves trailing zeros of the coefficient to the exponent, at most `n` of them. -/
def strip : Nat → Int → Int → Int × Int
  | 0, c, e => (c, e)
  | n + 1, c, e => if c % 10 = 0 then strip n (c / 10) (e + 1) else (c, e)

theorem strip_normal (n : Nat) (c e : Int) (hc : c ≠ 0) (hn : c.natAbs ≤ n) : (strip n c e).1 % 10 ≠ 0 := by
  induction n generalizing c e with
  | zero => omega
  | succ n ih =>
    unfold strip
    split
    · exact ih _ _ (by omega) (by omega)
    · assumption

theorem strip_value (n : Nat) (c e : Int) :
    ((strip n c e).1 : ℚ) * (10 : ℚ) ^ (strip n c e).2 = c * (10 : ℚ) ^ e := by
  induction n generalizing c e with
  | zero => rfl
  | succ n ih =>
    unfold strip
    split
    · rename_i hten
      have hc : c = c / 10 * 10 := by omega
      have hcast : (c : ℚ) = (c / 10 : Int) * 10 := by exact_mod_cast hc
      rw [ih, zpow_add_one₀ (by norm_num : (10 : ℚ) ≠ 0), hcast]
      ring
    · rfl

/-- The decimal of a coefficient and an exponent. -/
def ofScaled (c e : Int) : Decimal :=
  if hc : c = 0 then ⟨0, 0, .inl ⟨rfl, rfl⟩⟩
  else ⟨(strip c.natAbs c e).1, (strip c.natAbs c e).2, .inr (strip_normal _ _ _ hc le_rfl)⟩

theorem toRat_ofScaled (c e : Int) : (ofScaled c e).toRat = c * (10 : ℚ) ^ e := by
  unfold ofScaled toRat
  split
  · rename_i hc
    simp [hc]
  · exact strip_value _ _ _

def ofInt (n : Int) : Decimal := ofScaled n 0

@[simp] theorem toRat_ofInt (n : Int) : (ofInt n).toRat = n := by simp [ofInt, toRat_ofScaled]

end Decimal

end TokenPilot.Library
