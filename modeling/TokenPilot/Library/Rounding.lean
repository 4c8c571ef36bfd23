/-
  TokenPilot.Library.Rounding — rounding of exact numbers to decimal places and to
  significant digits, halves away from zero.

  `toScale` rounds to a multiple of a power of ten, and `significant` to a number of digits.
  Both leave the numbers of their grid alone (`toScale_multiple`, `significant_of`) and keep
  the order, so a bound of the grid on an exact result is one on the rounded result
  (`le_significant`, `significant_le`). `toFixed` writes a number with a fixed count of
  decimals.
-/

import Mathlib.Algebra.Order.Floor.Ring
import Mathlib.Data.Int.Log
import Mathlib.Data.Rat.Floor
import Mathlib.Tactic.FieldSimp
import Mathlib.Tactic.Linarith
import Mathlib.Tactic.Positivity
import Mathlib.Tactic.Ring
import TokenPilot.Library.Numeral

namespace TokenPilot.Library

/-! ## Multiples of a power of ten -/

/-- The nearest integer; of two, the one away from zero. -/
def halfUp (x : ℚ) : Int := if 0 ≤ x then ⌊x + 1 / 2⌋ else -⌊-x + 1 / 2⌋

/-- To a multiple of `10 ^ e`. -/
def toScale (e : Int) (x : ℚ) : ℚ := halfUp (x / 10 ^ e) * 10 ^ e

theorem halfUp_intCast (n : Int) : halfUp n = n := by
  have hfloor (m : Int) : ⌊(m : ℚ) + 1 / 2⌋ = m := by
    rw [Int.floor_eq_iff]
    constructor <;> linarith
  unfold halfUp
  split
  · exact hfloor n
  · have hneg : ((-n : Int) : ℚ) = -(n : ℚ) := by push_cast; rfl
    rw [← hneg, hfloor, neg_neg]

theorem halfUp_mono {x y : ℚ} (h : x ≤ y) : halfUp x ≤ halfUp y := by
  unfold halfUp
  split_ifs with hx hy hy
  · exact Int.floor_le_floor (by linarith)
  · linarith
  · have hfirst : 0 ≤ ⌊-x + 1 / 2⌋ := Int.floor_nonneg.mpr (by linarith)
    have hsecond : 0 ≤ ⌊y + 1 / 2⌋ := Int.floor_nonneg.mpr (by linarith)
    omega
  · exact neg_le_neg (Int.floor_le_floor (by linarith))

theorem halfUp_nonneg {x : ℚ} (h : 0 ≤ x) : 0 ≤ halfUp x := by
  have hzero := halfUp_intCast 0
  rw [← hzero]
  exact halfUp_mono (by simpa using h)

/-- An integer is below what a number above it rounds to. -/
theorem le_halfUp {n : Int} {x : ℚ} (h : n ≤ x) : n ≤ halfUp x := by
  have := halfUp_mono h
  rwa [halfUp_intCast] at this

theorem halfUp_le {n : Int} {x : ℚ} (h : x ≤ n) : halfUp x ≤ n := by
  have := halfUp_mono h
  rwa [halfUp_intCast] at this

theorem lt_halfUp_add_one (x : ℚ) : x < halfUp x + 1 := by
  unfold halfUp
  split
  · have := Int.lt_floor_add_one (x + 1 / 2)
    linarith
  · have := Int.floor_le (-x + 1 / 2)
    push_cast
    linarith

theorem ten_zpow_pos (e : Int) : (0 : ℚ) < 10 ^ e := zpow_pos (by norm_num) e

theorem toScale_multiple (c e : Int) : toScale e (c * 10 ^ e) = c * 10 ^ e := by
  unfold toScale
  rw [mul_div_cancel_right₀ _ (ten_zpow_pos e).ne', halfUp_intCast]

theorem toScale_of {x : ℚ} {e : Int} (h : ∃ c : Int, x = c * 10 ^ e) : toScale e x = x := by
  obtain ⟨c, rfl⟩ := h
  exact toScale_multiple c e

theorem toScale_mono {x y : ℚ} (e : Int) (h : x ≤ y) : toScale e x ≤ toScale e y := by
  have hscaled := halfUp_mono (div_le_div_of_nonneg_right h (ten_zpow_pos e).le)
  exact mul_le_mul_of_nonneg_right (by exact_mod_cast hscaled) (ten_zpow_pos e).le

theorem toScale_nonneg {x : ℚ} (e : Int) (h : 0 ≤ x) : 0 ≤ toScale e x := by
  have hscaled := halfUp_nonneg (div_nonneg h (ten_zpow_pos e).le)
  exact mul_nonneg (by exact_mod_cast hscaled) (ten_zpow_pos e).le

/-! ## Significant digits -/

/-- The place of the last of `p` digits. -/
def lastPlace (p : Nat) (x : ℚ) : Int := Int.log 10 |x| + 1 - p

/-- To `p` significant digits. -/
def significant (p : Nat) (x : ℚ) : ℚ := if x = 0 then 0 else toScale (lastPlace p x) x

/-- A coefficient of at most `p` digits, or the next power of ten. -/
def Representable (p : Nat) (x : ℚ) : Prop := ∃ c e : Int, |c| ≤ 10 ^ p ∧ x = c * 10 ^ e

theorem representable_natCast {p n : Nat} (h : n ≤ 10 ^ p) : Representable p n := by
  refine ⟨n, 0, ?_, by simp⟩
  rw [Nat.abs_cast]
  exact_mod_cast h

/-- A power of ten is a multiple of a lower one. -/
theorem ten_zpow_multiple {e f : Int} (h : f ≤ e) : ∃ c : Int, (10 : ℚ) ^ e = c * 10 ^ f := by
  obtain ⟨n, rfl⟩ := Int.le.dest h
  refine ⟨10 ^ n, ?_⟩
  rw [zpow_add₀ (by norm_num), zpow_natCast]
  push_cast
  ring

variable {p : Nat} {x y : ℚ}

theorem significant_zero : significant p 0 = 0 := if_pos rfl

theorem zpow_log_le (h : 0 < x) : (10 : ℚ) ^ Int.log 10 |x| ≤ x := by
  have := Int.zpow_log_le_self (b := 10) (by norm_num) h
  rwa [abs_of_pos h]

theorem lt_zpow_log (h : 0 < x) : x < (10 : ℚ) ^ (Int.log 10 |x| + 1) := by
  have := Int.lt_zpow_succ_log_self (b := 10) (by norm_num) x
  rwa [abs_of_pos h]

/-- Rounding stays between the powers of ten around the number. -/
theorem significant_bounds (hp : 0 < p) (h : 0 < x) :
    (10 : ℚ) ^ Int.log 10 |x| ≤ significant p x ∧ significant p x ≤ 10 ^ (Int.log 10 |x| + 1) := by
  unfold significant
  rw [if_neg h.ne']
  have hmultiple {e : Int} (he : Int.log 10 |x| ≤ e) : toScale (lastPlace p x) (10 ^ e) = 10 ^ e :=
    toScale_of (ten_zpow_multiple (by unfold lastPlace; omega))
  constructor
  · rw [← hmultiple le_rfl]
    exact toScale_mono _ (zpow_log_le h)
  · rw [← hmultiple (show Int.log 10 |x| ≤ Int.log 10 |x| + 1 by omega)]
    exact toScale_mono _ (lt_zpow_log h).le

theorem significant_mono (hp : 0 < p) (h0 : 0 ≤ x) (h : x ≤ y) : significant p x ≤ significant p y := by
  rcases h0.eq_or_lt with rfl | hx
  · rw [significant_zero]
    unfold significant
    split
    · exact le_rfl
    · exact toScale_nonneg _ h
  have hy : 0 < y := hx.trans_le h
  have hlog : Int.log 10 |x| ≤ Int.log 10 |y| := by
    rw [abs_of_pos hx, abs_of_pos hy]
    exact Int.log_mono_right hx h
  rcases hlog.eq_or_lt with heq | hlt
  · unfold significant lastPlace
    rw [if_neg hx.ne', if_neg hy.ne', heq]
    exact toScale_mono _ h
  · calc significant p x ≤ 10 ^ (Int.log 10 |x| + 1) := (significant_bounds hp hx).2
      _ ≤ 10 ^ Int.log 10 |y| := zpow_le_zpow_right₀ (by norm_num) (by omega)
      _ ≤ significant p y := (significant_bounds hp hy).1

theorem significant_nonneg (h : 0 ≤ x) : 0 ≤ significant p x := by
  unfold significant
  split
  · exact le_rfl
  · exact toScale_nonneg _ h

/-- A number of `p` digits is a multiple of its last place. -/
theorem Representable.multiple (hp : 0 < p) (h : Representable p x) (hx : 0 < x) :
    ∃ d : Int, x = d * 10 ^ lastPlace p x := by
  obtain ⟨c, e, hc, heq⟩ := h
  rcases le_or_gt (lastPlace p x) e with hle | hlt
  · obtain ⟨d, hd⟩ := ten_zpow_multiple hle
    refine ⟨c * d, ?_⟩
    push_cast
    rw [mul_assoc, ← hd, ← heq]
  · -- then the coefficient is the next power of ten
    have hcoefficient : (c : ℚ) ≤ 10 ^ p := by exact_mod_cast (le_abs_self c).trans hc
    have hupper : x ≤ 10 ^ ((p : Int) + e) := by
      rw [heq, zpow_add₀ (by norm_num), zpow_natCast]
      exact mul_le_mul_of_nonneg_right hcoefficient (ten_zpow_pos e).le
    have hpower : (10 : ℚ) ^ ((p : Int) + e) ≤ 10 ^ Int.log 10 |x| :=
      zpow_le_zpow_right₀ (by norm_num) (by unfold lastPlace at hlt; omega)
    have hx : x = 10 ^ Int.log 10 |x| := le_antisymm (hupper.trans hpower) (zpow_log_le hx)
    obtain ⟨d, hd⟩ := ten_zpow_multiple (show lastPlace p x ≤ Int.log 10 |x| by unfold lastPlace; omega)
    exact ⟨d, hx.trans hd⟩

theorem significant_of (hp : 0 < p) (h : Representable p x) (h0 : 0 ≤ x) : significant p x = x := by
  unfold significant
  split
  · exact (‹x = 0›).symm
  · rename_i hne
    exact toScale_of (h.multiple hp (lt_of_le_of_ne h0 (Ne.symm hne)))

theorem le_significant {n : ℚ} (hp : 0 < p) (hn : Representable p n) (h0 : 0 ≤ n) (h : n ≤ x) : n ≤ significant p x := by
  have := significant_mono hp h0 h
  rwa [significant_of hp hn h0] at this

theorem significant_le {n : ℚ} (hp : 0 < p) (hn : Representable p n) (h0 : 0 ≤ x) (h : x ≤ n) : significant p x ≤ n := by
  have := significant_mono hp h0 h
  rwa [significant_of hp hn (h0.trans h)] at this

theorem significant_representable (hp : 0 < p) (h0 : 0 ≤ x) : Representable p (significant p x) := by
  rcases h0.eq_or_lt with rfl | hx
  · rw [significant_zero]
    exact ⟨0, 0, by simp, by simp⟩
  have hround : significant p x = halfUp (x / 10 ^ lastPlace p x) * 10 ^ lastPlace p x := if_neg hx.ne'
  refine ⟨halfUp (x / 10 ^ lastPlace p x), lastPlace p x, ?_, hround⟩
  have hplaces : Int.log 10 |x| + 1 = (p : Int) + lastPlace p x := by
    unfold lastPlace
    omega
  have hupper := (significant_bounds hp hx).2
  rw [hround, hplaces, zpow_add₀ (by norm_num), zpow_natCast] at hupper
  have hle : (halfUp (x / 10 ^ lastPlace p x) : ℚ) ≤ 10 ^ p := le_of_mul_le_mul_right hupper (ten_zpow_pos _)
  rw [abs_of_nonneg (halfUp_nonneg (div_nonneg hx.le (ten_zpow_pos _).le))]
  exact_mod_cast hle

/-! ## Integers around a rounded number

Below the power of ten with `p` digits every integer is representable. -/

section Integers

variable {n bound : Nat}

theorem natCast_le_significant (hp : 0 < p) (hbound : bound < 10 ^ p) (hsmall : significant p x ≤ bound) (h : n ≤ x) :
    n ≤ significant p x := by
  rcases le_or_gt n (10 ^ p) with hn | hn
  · exact le_significant hp (representable_natCast hn) (Nat.cast_nonneg n) h
  · have hpower : ((10 ^ p : Nat) : ℚ) ≤ x := le_trans (by exact_mod_cast hn.le) h
    have hround := le_significant hp (representable_natCast le_rfl) (Nat.cast_nonneg _) hpower
    have : (10 ^ p : Nat) ≤ bound := by exact_mod_cast hround.trans hsmall
    omega

theorem significant_le_natCast (hp : 0 < p) (hbound : bound < 10 ^ p) (hsmall : significant p x ≤ bound) (h0 : 0 ≤ x)
    (h : x ≤ n) : significant p x ≤ n := by
  rcases le_or_gt n (10 ^ p) with hn | hn
  · exact significant_le hp (representable_natCast hn) h0 h
  · exact hsmall.trans (by exact_mod_cast (hbound.trans hn).le)

end Integers

/-! ## Rounded sums -/

/-- A sum that is rounded after every addition. -/
def roundedSum (p : Nat) (s : ℚ) (l : List ℚ) : ℚ := l.foldl (fun sum x => significant p (sum + x)) s

theorem le_roundedSum {s : ℚ} {l : List ℚ} (hp : 0 < p) (hs : Representable p s) (h0 : 0 ≤ s) (hl : ∀ x ∈ l, 0 ≤ x) :
    s ≤ roundedSum p s l := by
  induction l generalizing s with
  | nil => exact le_rfl
  | cons x l ih =>
    have hx : 0 ≤ x := hl x (by simp)
    have hsum : 0 ≤ s + x := by linarith
    calc s ≤ significant p (s + x) := le_significant hp hs h0 (by linarith)
      _ ≤ roundedSum p s (x :: l) :=
        ih (significant_representable hp hsum) (significant_nonneg hsum) fun y hy => hl y (by simp [hy])

theorem representable_roundedSum {s : ℚ} {l : List ℚ} (hp : 0 < p) (hs : l = [] → Representable p s) (h0 : 0 ≤ s)
    (hl : ∀ x ∈ l, 0 ≤ x) : Representable p (roundedSum p s l) := by
  induction l generalizing s with
  | nil => exact hs rfl
  | cons x l ih =>
    have hsum : 0 ≤ s + x := add_nonneg h0 (hl x (by simp))
    exact ih (fun _ => significant_representable hp hsum) (significant_nonneg hsum) fun y hy => hl y (by simp [hy])

theorem floor_toNat_le (h : 0 ≤ x) : ((⌊x⌋.toNat : Nat) : ℚ) ≤ x := by
  rw [← Int.cast_natCast, Int.toNat_of_nonneg (Int.floor_nonneg.mpr h)]
  exact Int.floor_le x

theorem le_floor_toNat_add_one (h : 0 ≤ x) : x ≤ (⌊x⌋.toNat : Nat) + 1 := by
  rw [← Int.cast_natCast, Int.toNat_of_nonneg (Int.floor_nonneg.mpr h)]
  exact (Int.lt_floor_add_one x).le

/-- The rounded sum of a list is at least the sum of the floors, and at most as many more as
    there are numbers. -/
theorem roundedSum_bounds {s : ℚ} {l : List ℚ} {floors count bound : Nat} (hp : 0 < p) (hbound : bound < 10 ^ p)
    (hl : ∀ x ∈ l, 0 ≤ x) (hlower : floors ≤ s) (hupper : s ≤ (floors + count : Nat))
    (hsmall : roundedSum p s l ≤ bound) :
    (floors + (l.map fun x => ⌊x⌋.toNat).sum : Nat) ≤ roundedSum p s l ∧
      roundedSum p s l ≤ (floors + (l.map fun x => ⌊x⌋.toNat).sum + (count + l.length) : Nat) := by
  induction l generalizing s floors count with
  | nil => exact ⟨by simpa [roundedSum] using hlower, by simpa [roundedSum] using hupper⟩
  | cons x l ih =>
    have hx : 0 ≤ x := hl x (by simp)
    have hrest : ∀ y ∈ l, 0 ≤ y := fun y hy => hl y (by simp [hy])
    have hsum : 0 ≤ s + x := add_nonneg (le_trans (Nat.cast_nonneg _) hlower) hx
    have hle : significant p (s + x) ≤ bound :=
      (le_roundedSum hp (significant_representable hp hsum) (significant_nonneg hsum) hrest).trans hsmall
    have hnextLower : ((floors + ⌊x⌋.toNat : Nat) : ℚ) ≤ significant p (s + x) := by
      apply natCast_le_significant hp hbound hle
      rw [Nat.cast_add]
      exact add_le_add hlower (floor_toNat_le hx)
    have hnextUpper : significant p (s + x) ≤ (floors + ⌊x⌋.toNat + (count + 1) : Nat) := by
      apply significant_le_natCast hp hbound hle hsum
      have hceil := le_floor_toNat_add_one hx
      push_cast at hupper ⊢
      linarith
    have hboth := ih hrest hnextLower hnextUpper hsmall
    rw [List.map_cons, List.sum_cons, List.length_cons, ← add_assoc]
    refine ⟨hboth.1, hboth.2.trans_eq ?_⟩
    congr 1
    omega

/-- The sum from zero, between the floors and one more for every number. -/
theorem roundedSum_floors {l : List ℚ} {bound : Nat} (hp : 0 < p) (hbound : bound < 10 ^ p) (hl : ∀ x ∈ l, 0 ≤ x)
    (hsmall : roundedSum p 0 l ≤ bound) :
    ((l.map fun x => ⌊x⌋.toNat).sum : Nat) ≤ roundedSum p 0 l ∧
      roundedSum p 0 l ≤ ((l.map fun x => ⌊x⌋.toNat).sum + l.length : Nat) := by
  have hzero : ((0 : Nat) : ℚ) ≤ 0 := by simp
  have hcount : (0 : ℚ) ≤ ((0 + 0 : Nat) : ℚ) := by simp
  simpa only [zero_add] using roundedSum_bounds hp hbound hl hzero hcount hsmall

/-! ## Rounding errors -/

/-- By how much rounding moves a number. -/
def roundingError (p : Nat) (x : ℚ) : ℚ := significant p x - x

theorem significant_eq_add (x : ℚ) : significant p x = x + roundingError p x := by
  unfold roundingError
  ring

theorem roundingError_of (hp : 0 < p) (h : Representable p x) (h0 : 0 ≤ x) : roundingError p x = 0 := by
  unfold roundingError
  rw [significant_of hp h h0, sub_self]

/-- The errors of the additions of a rounded sum. -/
def additionErrors (p : Nat) (s : ℚ) : List ℚ → List ℚ
  | [] => []
  | x :: l => roundingError p (s + x) :: additionErrors p (significant p (s + x)) l

/-- A rounded sum is the sum and the errors of its additions. -/
theorem roundedSum_eq (s : ℚ) (l : List ℚ) : roundedSum p s l = s + l.sum + (additionErrors p s l).sum := by
  induction l generalizing s with
  | nil => simp [roundedSum, additionErrors]
  | cons x l ih =>
    have hrest : roundedSum p s (x :: l) = roundedSum p (significant p (s + x)) l := rfl
    have hfirst := significant_eq_add (p := p) (s + x)
    rw [hrest, ih, additionErrors, List.sum_cons, List.sum_cons]
    linarith

/-- `p` digits hold every partial sum. -/
def SumsHeld (p : Nat) (s : ℚ) (l : List ℚ) : Prop := ∀ n < l.length, Representable p (s + (l.take (n + 1)).sum)

/-- While `p` digits hold the partial sums no addition has an error. -/
theorem additionErrors_of {s : ℚ} {l : List ℚ} (hp : 0 < p) (h0 : 0 ≤ s) (hl : ∀ x ∈ l, 0 ≤ x) (h : SumsHeld p s l) :
    (additionErrors p s l).sum = 0 := by
  induction l generalizing s with
  | nil => rfl
  | cons x l ih =>
    have hx : 0 ≤ x := hl x (by simp)
    have hfirst : Representable p (s + x) := by simpa using h 0 (by simp)
    have hrest : SumsHeld p (s + x) l := by
      intro n hn
      simpa [add_assoc] using h (n + 1) (by simpa using hn)
    rw [additionErrors, List.sum_cons, roundingError_of hp hfirst (add_nonneg h0 hx), zero_add,
      significant_of hp hfirst (add_nonneg h0 hx)]
    exact ih (add_nonneg h0 hx) (fun y hy => hl y (by simp [hy])) hrest

/-- So the rounded sum is the sum. -/
theorem roundedSum_of {s : ℚ} {l : List ℚ} (hp : 0 < p) (h0 : 0 ≤ s) (hl : ∀ x ∈ l, 0 ≤ x) (h : SumsHeld p s l) :
    roundedSum p s l = s + l.sum := by
  rw [roundedSum_eq, additionErrors_of hp h0 hl h, add_zero]

theorem halfUp_of_nonneg (h : 0 ≤ x) : halfUp x = ⌊x + 1 / 2⌋ := if_pos h

/-- What a number rounds to does not change exactly while it stays between the same halves. -/
theorem halfUp_add_eq_iff {e : ℚ} (h : 0 ≤ x) (h' : 0 ≤ x + e) :
    halfUp (x + e) = halfUp x ↔ -Int.fract (x + 1 / 2) ≤ e ∧ e < 1 - Int.fract (x + 1 / 2) := by
  rw [halfUp_of_nonneg h, halfUp_of_nonneg h', Int.floor_eq_iff]
  have hsplit := Int.floor_add_fract (x + 1 / 2)
  constructor
  · rintro ⟨hlower, hupper⟩
    constructor <;> linarith
  · rintro ⟨hlower, hupper⟩
    constructor <;> linarith

/-- The part of a number of `p` digits behind the point has at most as many. -/
theorem Representable.fract (h : Representable p x) (h0 : 0 ≤ x) : Representable p (Int.fract x) := by
  obtain ⟨c, e, hc, rfl⟩ := h
  have hcoefficient : 0 ≤ c := by
    by_contra hneg
    have : ((c : Int) : ℚ) < 0 := by exact_mod_cast not_le.mp hneg
    exact absurd h0 (not_le.mpr (mul_neg_of_neg_of_pos this (ten_zpow_pos e)))
  rcases le_or_gt 0 e with he | he
  · obtain ⟨n, rfl⟩ := Int.eq_ofNat_of_zero_le he
    have hwhole : (c : ℚ) * 10 ^ (n : Int) = ((c * 10 ^ n : Int) : ℚ) := by
      push_cast
      rw [zpow_natCast]
    rw [hwhole, Int.fract_intCast]
    exact ⟨0, 0, by simp, by simp⟩
  · obtain ⟨n, hn⟩ := Int.eq_ofNat_of_zero_le (show 0 ≤ -e by omega)
    have hexponent : e = -(n : Int) := by omega
    subst hexponent
    have hpower : (0 : Int) < 10 ^ n := by positivity
    refine ⟨c % 10 ^ n, -(n : Int), ?_, ?_⟩
    · rw [abs_of_nonneg (Int.emod_nonneg c hpower.ne')]
      have hquotient : 0 ≤ 10 ^ n * (c / 10 ^ n) := mul_nonneg hpower.le (Int.ediv_nonneg hcoefficient hpower.le)
      have hsplit := Int.mul_ediv_add_emod c (10 ^ n)
      have hbound := (le_abs_self c).trans hc
      omega
    · have hquotient : (c : ℚ) * 10 ^ (-(n : Int)) = ((c / 10 ^ n : Int) : ℚ) + ((c % 10 ^ n : Int) : ℚ) * 10 ^ (-(n : Int)) := by
        have hdivided : (c : ℚ) = ((10 ^ n : Int) : ℚ) * ((c / 10 ^ n : Int) : ℚ) + ((c % 10 ^ n : Int) : ℚ) := by
          exact_mod_cast (Int.mul_ediv_add_emod c (10 ^ n)).symm
        rw [zpow_neg, zpow_natCast]
        have hne : ((10 : ℚ) ^ n) ≠ 0 := by positivity
        rw [hdivided]
        push_cast
        field_simp
      rw [hquotient, Int.fract_intCast_add, Int.fract_eq_self]
      constructor
      · exact mul_nonneg (by exact_mod_cast Int.emod_nonneg c hpower.ne') (ten_zpow_pos _).le
      · rw [zpow_neg, zpow_natCast, ← div_eq_mul_inv, div_lt_one (by positivity)]
        exact_mod_cast Int.emod_lt_of_pos c hpower

/-- Rounding a number of `p` digits to a scale leaves one of `p` digits. -/
theorem Representable.toScale (h : Representable p x) (h0 : 0 ≤ x) (e : Int) : Representable p (toScale e x) := by
  obtain ⟨c, f, hc, rfl⟩ := h
  rcases le_or_gt e f with hle | hlt
  · obtain ⟨d, hd⟩ := ten_zpow_multiple hle
    have hmultiple : (c : ℚ) * 10 ^ f = ((c * d : Int) : ℚ) * 10 ^ e := by
      rw [hd]
      push_cast
      ring
    rw [toScale_of ⟨_, hmultiple⟩]
    exact ⟨c, f, hc, rfl⟩
  · -- what is left of the digits is no more than there were
    refine ⟨halfUp (c * 10 ^ f / 10 ^ e), e, ?_, rfl⟩
    have hscaled : 0 ≤ (c : ℚ) * 10 ^ f / 10 ^ e := div_nonneg h0 (ten_zpow_pos e).le
    have hcoefficient : (c : ℚ) ≤ 10 ^ p := by exact_mod_cast (le_abs_self c).trans hc
    have hpower : (10 : ℚ) ^ f ≤ 10 ^ e := zpow_le_zpow_right₀ (by norm_num) hlt.le
    have hbound : (c : ℚ) * 10 ^ f / 10 ^ e ≤ ((10 ^ p : Int) : ℚ) := by
      rw [div_le_iff₀ (ten_zpow_pos e)]
      push_cast
      exact mul_le_mul hcoefficient hpower (ten_zpow_pos f).le (by positivity)
    rw [abs_of_nonneg (halfUp_nonneg hscaled)]
    exact halfUp_le hbound

theorem halfUp_representable (h : Representable p x) (h0 : 0 ≤ x) : Representable p (halfUp x) := by
  have hround := h.toScale h0 0
  unfold Library.toScale at hround
  simpa using hround

/-! ## Numbers below zero -/

theorem halfUp_neg (x : ℚ) : halfUp (-x) = -halfUp x := by
  have hzero : halfUp 0 = 0 := halfUp_intCast 0
  rcases lt_trichotomy x 0 with hx | rfl | hx
  · rw [halfUp, if_pos (by linarith), halfUp, if_neg (by linarith), neg_neg]
  · rw [neg_zero, hzero, neg_zero]
  · rw [halfUp, if_neg (by linarith), halfUp, if_pos hx.le, neg_neg]

theorem toScale_neg (e : Int) (x : ℚ) : toScale e (-x) = -toScale e x := by
  unfold toScale
  rw [neg_div, halfUp_neg]
  push_cast
  ring

theorem significant_neg (p : Nat) (x : ℚ) : significant p (-x) = -significant p x := by
  unfold significant lastPlace
  by_cases hx : x = 0
  · simp [hx]
  · rw [if_neg (neg_ne_zero.mpr hx), if_neg hx, abs_neg, toScale_neg]

theorem abs_significant (p : Nat) (x : ℚ) : |significant p x| = significant p |x| := by
  rcases le_total 0 x with hx | hx
  · rw [abs_of_nonneg hx, abs_of_nonneg (significant_nonneg hx)]
  · have hneg : 0 ≤ significant p (-x) := significant_nonneg (by linarith)
    rw [abs_of_nonpos hx, ← abs_of_nonneg hneg, significant_neg, abs_neg]

theorem Representable.neg (h : Representable p x) : Representable p (-x) := by
  obtain ⟨c, e, hc, rfl⟩ := h
  refine ⟨-c, e, by rwa [abs_neg], ?_⟩
  push_cast
  ring

theorem significant_eq (hp : 0 < p) (h : Representable p x) : significant p x = x := by
  rcases le_total 0 x with hx | hx
  · exact significant_of hp h hx
  · rw [← neg_neg x, significant_neg, significant_of hp h.neg (by linarith)]

theorem representable_significant (hp : 0 < p) (x : ℚ) : Representable p (significant p x) := by
  rcases le_total 0 x with hx | hx
  · exact significant_representable hp hx
  · rw [← neg_neg x, significant_neg]
    exact (significant_representable hp (by linarith)).neg

theorem representable_iff (hp : 0 < p) : Representable p x ↔ significant p x = x := by
  constructor
  · exact significant_eq hp
  · intro h
    rw [← h]
    exact representable_significant hp x

/-- Rounding to digits and then to a scale keeps the numbers that have both. -/
theorem toScale_significant_iff (hp : 0 < p) (e : Int) :
    toScale e (significant p x) = x ↔ Representable p x ∧ ∃ c : Int, x = c * 10 ^ e := by
  constructor
  · intro h
    have hscale : ∃ c : Int, x = c * 10 ^ e := ⟨_, h.symm⟩
    have hself : significant p x = x := by
      by_cases hx : x = 0
      · rw [hx, significant_zero]
      have hround : significant p x = toScale (lastPlace p x) x := if_neg hx
      rcases le_total (lastPlace p x) e with hplace | hplace
      · -- the scale ends before the digits do
        obtain ⟨c, hc⟩ := hscale
        obtain ⟨k, hk⟩ := ten_zpow_multiple hplace
        rw [hround]
        refine toScale_of ⟨c * k, ?_⟩
        calc x = c * 10 ^ e := hc
          _ = c * (k * 10 ^ lastPlace p x) := by rw [hk]
          _ = ((c * k : Int) : ℚ) * 10 ^ lastPlace p x := by push_cast; ring
      · -- the digits end before the scale does
        obtain ⟨k, hk⟩ := ten_zpow_multiple hplace
        refine (toScale_of ⟨halfUp (x / 10 ^ lastPlace p x) * k, ?_⟩).symm.trans h
        calc significant p x = halfUp (x / 10 ^ lastPlace p x) * 10 ^ lastPlace p x := hround
          _ = halfUp (x / 10 ^ lastPlace p x) * (k * 10 ^ e) := by rw [hk]
          _ = ((halfUp (x / 10 ^ lastPlace p x) * k : Int) : ℚ) * 10 ^ e := by push_cast; ring
    exact ⟨hself ▸ representable_significant hp x, hscale⟩
  · rintro ⟨hrepresentable, hscale⟩
    rw [significant_eq hp hrepresentable]
    exact toScale_of hscale

/-! ## Texts -/

/-- The number with that many decimals. The sign is that of the number before it is rounded. -/
def toFixed (places : Nat) (x : ℚ) : String :=
  let digits := Nat.toDigits 10 (halfUp (x * 10 ^ places)).natAbs
  String.ofList ((if x < 0 then ['-'] else []) ++ Numeral.fixed digits (digits.length - places))

theorem halfUp_nonpos {x : ℚ} (h : x ≤ 0) : halfUp x ≤ 0 := by
  have hzero := halfUp_intCast 0
  rw [← hzero]
  exact halfUp_mono (by simpa using h)

/-- The text reads back as the number rounded to that many decimals. -/
theorem value_toFixed (places : Nat) (x : ℚ) :
    Numeral.value (toFixed places x).toList = halfUp (x * 10 ^ places) * 10 ^ (-(places : Int)) := by
  have hplain := Numeral.plain_toDigits (halfUp (x * 10 ^ places)).natAbs
  have hunsigned := Numeral.unsigned_fixed hplain
    ((Nat.toDigits 10 (halfUp (x * 10 ^ places)).natAbs).length - (places : Int))
  rw [Nat.ofDigitChars_ten_toDigits, show ∀ a b : Int, a - b - a = -b by omega] at hunsigned
  unfold toFixed
  rw [String.toList_ofList]
  split
  · rename_i hneg
    have hround : halfUp (x * 10 ^ places) ≤ 0 :=
      halfUp_nonpos (mul_nonpos_of_nonpos_of_nonneg hneg.le (by positivity))
    have habs : ((halfUp (x * 10 ^ places)).natAbs : ℚ) = -(halfUp (x * 10 ^ places) : ℚ) := by
      rw [Nat.cast_natAbs, abs_of_nonpos hround, Int.cast_neg]
    rw [List.cons_append, List.nil_append]
    show -Numeral.unsigned _ = _
    rw [hunsigned, habs]
    ring
  · rename_i hnonneg
    have hround : 0 ≤ halfUp (x * 10 ^ places) := halfUp_nonneg (mul_nonneg (not_lt.mp hnonneg) (by positivity))
    have habs : ((halfUp (x * 10 ^ places)).natAbs : ℚ) = (halfUp (x * 10 ^ places) : ℚ) := by
      rw [Nat.cast_natAbs, abs_of_nonneg hround]
    rw [List.nil_append, Numeral.value_unsigned (Numeral.fixed_first hplain Nat.toDigits_ne_nil _), hunsigned, habs]

end TokenPilot.Library
