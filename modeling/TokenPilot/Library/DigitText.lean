/-
  TokenPilot.Library.DigitText — unsigned decimals as texts: digits, and at most so many more
  behind a point.

  What such a text is worth is a natural number of the smallest place, below the power of ten
  that its digits allow (`DigitText.value_eq`).
-/

import TokenPilot.Library.Numeral

namespace TokenPilot.Library

open Numeral

/-- The digits `whole`, and up to `places` digits behind a point. -/
def DigitText (places : Nat) (whole s : List Char) : Prop :=
  Plain whole ∧ whole ≠ [] ∧
    (s = whole ∨ ∃ fraction, Plain fraction ∧ fraction.length ≤ places ∧ s = whole ++ '.' :: fraction)

theorem ofDigitChars_lt {s : List Char} (h : Plain s) : Nat.ofDigitChars 10 s 0 < 10 ^ s.length := by
  induction s using List.reverseRecOn with
  | nil => decide
  | append_singleton s c ih =>
    have hinit : Nat.ofDigitChars 10 s 0 < 10 ^ s.length := ih fun d hd => h d (by simp [hd])
    have hlast : c.toNat - '0'.toNat < 10 := (digitChar_sub (h c (by simp))).1
    rw [Nat.ofDigitChars_append, Nat.ofDigitChars_cons, Nat.ofDigitChars_nil, List.length_append, List.length_singleton,
      pow_succ]
    omega

theorem Plain.value {s : List Char} (h : Plain s) (hs : s ≠ []) : Numeral.value s = Nat.ofDigitChars 10 s 0 := by
  obtain ⟨c, rest, rfl⟩ := List.exists_cons_of_ne_nil hs
  rw [value_unsigned ⟨c, rest, rfl, h c (by simp)⟩, unsigned_plain (h.not_mem (by decide)),
    mantissa_whole (h.not_mem (by decide))]

theorem value_pointed {whole fraction : List Char} (hwhole : Plain whole) (hs : whole ≠ []) (hfraction : Plain fraction) :
    Numeral.value (whole ++ '.' :: fraction) =
      Nat.ofDigitChars 10 (whole ++ fraction) 0 * 10 ^ (-(fraction.length : Int)) := by
  have hexponent : 'e' ∉ whole ++ '.' :: fraction := by
    have hleft : 'e' ∉ whole := hwhole.not_mem (by decide)
    have hright : 'e' ∉ fraction := hfraction.not_mem (by decide)
    simpa using ⟨hleft, hright⟩
  have hfirst : ∃ c rest, whole ++ '.' :: fraction = c :: rest ∧ c.isDigit = true := by
    obtain ⟨c, rest, rfl⟩ := List.exists_cons_of_ne_nil hs
    exact ⟨c, rest ++ '.' :: fraction, rfl, hwhole c (by simp)⟩
  rw [value_unsigned hfirst, unsigned_plain hexponent, mantissa_part fraction (hwhole.not_mem (by decide))]

theorem DigitText.value_eq {places : Nat} {whole s : List Char} (h : DigitText places whole s) :
    ∃ n : Nat, Numeral.value s = n * 10 ^ (-(places : Int)) ∧ n < 10 ^ (whole.length + places) := by
  have hten : (10 : ℚ) ≠ 0 := by norm_num
  obtain ⟨hwhole, hne, rfl | ⟨fraction, hfraction, hlength, rfl⟩⟩ := h
  · refine ⟨Nat.ofDigitChars 10 s 0 * 10 ^ places, ?_, ?_⟩
    · rw [Plain.value hwhole hne]
      push_cast
      rw [mul_assoc, ← zpow_natCast, ← zpow_add₀ hten, add_neg_cancel, zpow_zero, mul_one]
    · rw [pow_add]
      exact Nat.mul_lt_mul_of_pos_right (ofDigitChars_lt hwhole) (Nat.pow_pos (by decide))
  · obtain ⟨rest, hrest⟩ := Nat.le.dest hlength
    refine ⟨Nat.ofDigitChars 10 (whole ++ fraction) 0 * 10 ^ rest, ?_, ?_⟩
    · rw [value_pointed hwhole hne hfraction, ← hrest]
      push_cast
      rw [mul_assoc, ← zpow_natCast, ← zpow_add₀ hten]
      congr 2
      ring
    · rw [← hrest, ← add_assoc, pow_add, ← List.length_append]
      exact Nat.mul_lt_mul_of_pos_right (ofDigitChars_lt (hwhole.append hfraction)) (Nat.pow_pos (by decide))

end TokenPilot.Library
