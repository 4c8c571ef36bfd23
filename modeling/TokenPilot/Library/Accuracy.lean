/-
  TokenPilot.Library.Accuracy — how far a chain of roundings to significant digits may be off.

  One rounding moves a number by at most its half unit, relative to the number
  (`accurate_significant`). `Accurate p k y x` says that `y` came of `x` by at most `k`
  roundings to `p` digits; it composes (`Accurate.trans`), and goes through sums and products
  with exact numbers. A number that is farther from the next half than that rounds to the same
  integer (`Accurate.halfUp_eq`).
-/

import TokenPilot.Library.Rounding

namespace TokenPilot.Library

variable {p j k : Nat} {x y z : ℚ}

/-- What one rounding may move a number by, relative to the number. -/
def halfUnit (p : Nat) : ℚ := 1 / (2 * 10 ^ (p - 1))

/-- What `k` roundings may move a number by, relative to the number. -/
def drift (p k : Nat) : ℚ := (1 + halfUnit p) ^ k - 1

theorem halfUnit_nonneg (p : Nat) : 0 ≤ halfUnit p := by
  unfold halfUnit
  positivity

theorem drift_nonneg (p k : Nat) : 0 ≤ drift p k := by
  have hone := one_le_pow₀ (n := k) (show (1 : ℚ) ≤ 1 + halfUnit p by linarith [halfUnit_nonneg p])
  unfold drift
  linarith

theorem drift_mono (h : j ≤ k) : drift p j ≤ drift p k := by
  have hpow := pow_le_pow_right₀ (show (1 : ℚ) ≤ 1 + halfUnit p by linarith [halfUnit_nonneg p]) h
  unfold drift
  linarith

theorem drift_add (p j k : Nat) : drift p (j + k) = drift p j + (1 + drift p j) * drift p k := by
  unfold drift
  rw [pow_add]
  ring

/-- Of the number `x` the number `y` is left after at most `k` roundings. -/
structure Accurate (p k : Nat) (y x : ℚ) : Prop where
  exact_nonneg : 0 ≤ x
  nonneg : 0 ≤ y
  error : |y - x| ≤ x * drift p k

namespace Accurate

theorem refl (h : 0 ≤ x) : Accurate p 0 x x := ⟨h, h, by simp [drift]⟩

theorem mono (h : Accurate p j y x) (hjk : j ≤ k) : Accurate p k y x :=
  ⟨h.exact_nonneg, h.nonneg, h.error.trans (mul_le_mul_of_nonneg_left (drift_mono hjk) h.exact_nonneg)⟩

theorem upper (h : Accurate p k y x) : y ≤ x * (1 + drift p k) := by
  have herror := (abs_le.mp h.error).2
  linarith

theorem lower (h : Accurate p k y x) : x * (1 - drift p k) ≤ y := by
  have herror := (abs_le.mp h.error).1
  linarith

theorem trans (h : Accurate p j y x) (h' : Accurate p k z y) : Accurate p (j + k) z x := by
  refine ⟨h.exact_nonneg, h'.nonneg, ?_⟩
  have hupper := mul_le_mul_of_nonneg_right h.upper (drift_nonneg p k)
  calc |z - x| = |(z - y) + (y - x)| := by congr 1; ring
    _ ≤ |z - y| + |y - x| := abs_add_le _ _
    _ ≤ y * drift p k + x * drift p j := add_le_add h'.error h.error
    _ ≤ x * (1 + drift p j) * drift p k + x * drift p j := by linarith
    _ = x * drift p (j + k) := by rw [drift_add]; ring

theorem add {a b : ℚ} (h : Accurate p k y x) (h' : Accurate p k b a) : Accurate p k (y + b) (x + a) := by
  refine ⟨add_nonneg h.exact_nonneg h'.exact_nonneg, add_nonneg h.nonneg h'.nonneg, ?_⟩
  calc |y + b - (x + a)| = |(y - x) + (b - a)| := by congr 1; ring
    _ ≤ |y - x| + |b - a| := abs_add_le _ _
    _ ≤ x * drift p k + a * drift p k := add_le_add h.error h'.error
    _ = (x + a) * drift p k := by ring

theorem mul {c : ℚ} (h : Accurate p k y x) (hc : 0 ≤ c) : Accurate p k (y * c) (x * c) := by
  refine ⟨mul_nonneg h.exact_nonneg hc, mul_nonneg h.nonneg hc, ?_⟩
  calc |y * c - x * c| = |y - x| * c := by rw [← sub_mul, abs_mul, abs_of_nonneg hc]
    _ ≤ x * drift p k * c := mul_le_mul_of_nonneg_right h.error hc
    _ = x * c * drift p k := by ring

/-- Summands that are accurate have accurate sums. -/
theorem sum {α : Type} {l : List α} {f g : α → ℚ} (h : ∀ a ∈ l, Accurate p k (f a) (g a)) :
    Accurate p k (l.map f).sum (l.map g).sum := by
  induction l with
  | nil => exact (refl le_rfl).mono (Nat.zero_le k)
  | cons a rest ih =>
    rw [List.map_cons, List.map_cons, List.sum_cons, List.sum_cons]
    exact (h a List.mem_cons_self).add (ih fun b hb => h b (List.mem_cons_of_mem _ hb))

end Accurate

/-! ## Roundings -/

/-- The nearest integer is no more than a half away. -/
theorem abs_halfUp_sub (h : 0 ≤ x) : |halfUp x - x| ≤ 1 / 2 := by
  rw [halfUp_of_nonneg h, abs_le]
  have hlower := Int.lt_floor_add_one (x + 1 / 2)
  have hupper := Int.floor_le (x + 1 / 2)
  constructor <;> linarith

theorem accurate_significant (hp : 0 < p) (h : 0 ≤ x) : Accurate p 1 (significant p x) x := by
  refine ⟨h, significant_nonneg h, ?_⟩
  rcases h.eq_or_lt with rfl | hx
  · rw [significant_zero]
    simp
  have hround : significant p x = halfUp (x / 10 ^ lastPlace p x) * 10 ^ lastPlace p x := if_neg hx.ne'
  have hplace := ten_zpow_pos (lastPlace p x)
  have hsplit : significant p x - x = (halfUp (x / 10 ^ lastPlace p x) - x / 10 ^ lastPlace p x) * 10 ^ lastPlace p x := by
    rw [hround, sub_mul, div_mul_cancel₀ _ hplace.ne']
  -- the last place is the first one, `p - 1` places on
  have hfirst : (10 : ℚ) ^ lastPlace p x = 10 ^ Int.log 10 |x| / 10 ^ (p - 1) := by
    unfold lastPlace
    rw [← zpow_natCast, ← zpow_sub₀ (by norm_num)]
    congr 1
    omega
  calc |significant p x - x| = |halfUp (x / 10 ^ lastPlace p x) - x / 10 ^ lastPlace p x| * 10 ^ lastPlace p x := by
        rw [hsplit, abs_mul, abs_of_pos hplace]
    _ ≤ 1 / 2 * 10 ^ lastPlace p x := mul_le_mul_of_nonneg_right (abs_halfUp_sub (div_nonneg h hplace.le)) hplace.le
    _ = 10 ^ Int.log 10 |x| * halfUnit p := by
        rw [hfirst]
        unfold halfUnit
        ring
    _ ≤ x * halfUnit p := mul_le_mul_of_nonneg_right (zpow_log_le hx) (halfUnit_nonneg p)
    _ = x * drift p 1 := by
        unfold drift
        ring

/-- A rounded sum is rounded once for every number. -/
theorem accurate_roundedSum (hp : 0 < p) {s : ℚ} {l : List ℚ} (hs : 0 ≤ s) (hl : ∀ x ∈ l, 0 ≤ x) :
    Accurate p l.length (roundedSum p s l) (s + l.sum) := by
  induction l generalizing s with
  | nil => simpa [roundedSum] using Accurate.refl hs
  | cons x l ih =>
    have hx : 0 ≤ x := hl x List.mem_cons_self
    have hrest : ∀ y ∈ l, 0 ≤ y := fun y hy => hl y (List.mem_cons_of_mem _ hy)
    have hfirst := accurate_significant hp (add_nonneg hs hx)
    have hsums : Accurate p 1 (significant p (s + x) + l.sum) (s + x + l.sum) :=
      hfirst.add ((Accurate.refl (List.sum_nonneg hrest)).mono (Nat.zero_le 1))
    have hall := hsums.trans (ih hfirst.nonneg hrest)
    rw [List.sum_cons, List.length_cons, ← add_assoc, Nat.add_comm]
    exact hall

/-! ## Halves -/

/-- No half is within `k` roundings of the number. -/
def ClearOfHalves (p k : Nat) (x : ℚ) : Prop :=
  x * drift p k ≤ Int.fract (x + 1 / 2) ∧ x * drift p k < 1 - Int.fract (x + 1 / 2)

instance (p k : Nat) (x : ℚ) : Decidable (ClearOfHalves p k x) := inferInstanceAs (Decidable (_ ∧ _))

theorem Accurate.halfUp_eq (h : Accurate p k y x) (hclear : ClearOfHalves p k x) : halfUp y = halfUp x := by
  obtain ⟨hlower, hupper⟩ := abs_le.mp h.error
  have hsum : x + (y - x) = y := by ring
  rw [← hsum]
  refine (halfUp_add_eq_iff h.exact_nonneg (by rw [hsum]; exact h.nonneg)).mpr ⟨?_, ?_⟩
  · linarith [hclear.1]
  · linarith [hclear.2]

/-- Scaling the numbers by a power of ten changes nothing about their accuracy. -/
theorem Accurate.halfUp_mul_eq {c : ℚ} (h : Accurate p k y x) (hc : 0 ≤ c) (hclear : ClearOfHalves p k (x * c)) :
    halfUp (y * c) = halfUp (x * c) :=
  (h.mul hc).halfUp_eq hclear

end TokenPilot.Library
