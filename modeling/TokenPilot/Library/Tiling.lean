/-
  TokenPilot.Library.Tiling — when windows that are found by an index tile time.

  Every instant has the index of a period, and every index a boundary; the window of an
  instant is from the boundary of its index to that of the next one. Nothing says that the
  indices grow with time. The windows `Tiles` when each holds its instants and ends where one
  begins, and an index is `Crossed` when the instants before its boundary are exactly those
  with an earlier index. A window whose ends are crossed tiles (`tiles_of_crossed`). Where
  boundaries are near the indices (`Near`), all windows from an index on tile exactly when
  all their ends are crossed (`tiles_iff_crossed`).
-/

import Mathlib.Order.Lattice
import Mathlib.Tactic.Common

namespace TokenPilot.Library

section Tiling

variable {T : Type} [LinearOrder T] (index : T → Int) (boundary : Int → T)

/-- The window of the instant holds it and gives the same window to all it holds, and another
    window begins where it ends. -/
structure Tiles (t : T) : Prop where
  start : boundary (index t) ≤ t
  finish : t < boundary (index t + 1)
  same : ∀ u, boundary (index t) ≤ u → u < boundary (index t + 1) →
    boundary (index u) = boundary (index t) ∧ boundary (index u + 1) = boundary (index t + 1)
  next : boundary (index (boundary (index t + 1))) = boundary (index t + 1)

/-- The instants of earlier periods are those before the boundary. -/
def Crossed (p : Int) : Prop := ∀ u, index u < p ↔ u < boundary p

/-- From the index `first` on no boundary is as far off as two periods, nor the one after the
    next where three periods are over. -/
structure Near (first : Int) : Prop where
  apart : ∀ p q, first ≤ p → p + 2 ≤ q → boundary p < boundary q
  behind : ∀ p u, first ≤ p → p + 2 ≤ index u → boundary p ≤ u
  ahead : ∀ p u, first ≤ p → index u + 3 ≤ p → u < boundary p

variable {index boundary}

theorem tiles_of_crossed {t : T} (hstart : Crossed index boundary (index t)) (hfinish : Crossed index boundary (index t + 1))
    (hnext : Crossed index boundary (index (boundary (index t + 1)))) : Tiles index boundary t where
  start := not_lt.mp fun h => absurd ((hstart t).mpr h) (lt_irrefl _)
  finish := (hfinish t).mp (by omega)
  same u hlower hupper := by
    have hge : index t ≤ index u := not_lt.mp fun h => absurd ((hstart u).mp h) (not_lt.mpr hlower)
    have hle := (hfinish u).mpr hupper
    have heq : index u = index t := by omega
    rw [heq]
    exact ⟨rfl, rfl⟩
  next := by
    have hafter : index t + 1 ≤ index (boundary (index t + 1)) :=
      not_lt.mp fun h => lt_irrefl _ ((hfinish _).mp h)
    apply le_antisymm
    · exact not_lt.mp fun h => absurd ((hnext _).mpr h) (lt_irrefl _)
    · -- an instant before the boundary would have an index before the period
      refine not_lt.mp fun h => ?_
      have hbefore := (hfinish _).mpr h
      have hcrossed := (hnext (boundary (index (boundary (index t + 1))))).not.mpr (lt_irrefl _)
      omega

section Necessary

variable {first : Int} (hnear : Near index boundary (first - 3))
  (htiles : ∀ t, first ≤ index t → Tiles index boundary t)

include hnear

theorem Tiles.next_index {t : T} (ht : first ≤ index t) (h : Tiles index boundary t) :
    index t + 1 ≤ index (boundary (index t + 1)) := by
  have hlt := lt_of_le_of_lt h.start h.finish
  have hnext := h.next
  by_contra hnot
  rcases Int.lt_or_le (index (boundary (index t + 1))) (index t - 1) with hfar | hclose
  · exact absurd (hnear.ahead (index t + 1) _ (by omega) (by omega)) (lt_irrefl _)
  · rcases Int.lt_or_le (index (boundary (index t + 1))) (index t) with hbefore | hsame
    · exact absurd (hnear.apart (index (boundary (index t + 1))) (index t + 1) (by omega) (by omega)) (by rw [hnext]; exact lt_irrefl _)
    · have heq : index (boundary (index t + 1)) = index t := by omega
      rw [heq] at hnext
      exact absurd hlt (by rw [hnext]; exact lt_irrefl _)

include htiles

theorem crossed_start {t : T} (ht : first ≤ index t) : Crossed index boundary (index t) := by
  intro u
  have htile := htiles t ht
  have hlt := lt_of_le_of_lt htile.start htile.finish
  constructor
  · intro hu
    by_contra hnot
    rcases Int.lt_or_le (index u) (index t - 2) with hfar | hclose
    · exact hnot (hnear.ahead _ u (by omega) (by omega))
    rcases lt_or_ge u (boundary (index t + 1)) with hbefore | hafter
    · -- in the window, which has the boundaries of another index
      obtain ⟨hsame, hsame'⟩ := htile.same u (not_lt.mp hnot) hbefore
      rcases Int.lt_or_le (index u) (index t - 1) with hlast | hprevious
      · exact absurd (hnear.apart (index u) (index t) (by omega) (by omega)) (by rw [hsame]; exact lt_irrefl _)
      · have heq : index u + 1 = index t := by omega
        rw [heq] at hsame'
        exact absurd hlt (by rw [hsame']; exact lt_irrefl _)
    · -- in the next window or after it
      have hindex := htile.next_index hnear ht
      have hnext := htiles _ (show first ≤ index (boundary (index t + 1)) by omega)
      rcases lt_or_ge u (boundary (index (boundary (index t + 1)) + 1)) with hbefore | hover
      · obtain ⟨hsame, -⟩ := hnext.same u (by rw [htile.next]; exact hafter) hbefore
        exact absurd (hnear.apart (index u) (index (boundary (index t + 1))) (by omega) (by omega))
          (by rw [hsame]; exact lt_irrefl _)
      · exact absurd (hnear.ahead (index (boundary (index t + 1)) + 1) u (by omega) (by omega)) (not_lt.mpr hover)
  · intro hu
    by_contra hnot
    rcases Int.lt_or_le (index u) (index t + 2) with hclose | hfar
    · have htile' := htiles u (by omega)
      rcases Int.lt_or_le (index u) (index t + 1) with hsame | hnext
      · have heq : index u = index t := by omega
        exact absurd hu (not_lt.mpr (by rw [← heq]; exact htile'.start))
      · have heq : index u = index t + 1 := by omega
        have hstart := htile'.start
        rw [heq] at hstart
        exact absurd (lt_of_le_of_lt hstart hu) (not_lt.mpr hlt.le)
    · exact absurd (hnear.behind (index t) u (by omega) hfar) (not_le.mpr hu)

theorem crossed_finish {t : T} (ht : first ≤ index t) : Crossed index boundary (index t + 1) := by
  have htile := htiles t ht
  have hindex := htile.next_index hnear ht
  rcases hindex.eq_or_lt with heq | hlt
  · rw [heq]
    exact crossed_start hnear htiles (by omega)
  · -- no instant is in the next period, so its boundary is that of the one after it
    have hnone : ∀ u, index u ≠ index t + 1 := by
      intro u hu
      have hcrossed := crossed_start hnear htiles (t := u) (by omega)
      rw [hu] at hcrossed
      have hcrossed' := crossed_start hnear htiles (t := boundary (index t + 1)) (by omega)
      have hu' := (hcrossed' u).mp (by omega)
      rw [htile.next] at hu'
      have := (hcrossed u).mpr hu'
      omega
    have heq : index (boundary (index t + 1)) = index t + 2 := by
      by_contra hne
      exact absurd (hnear.apart (index t + 1) (index (boundary (index t + 1))) (by omega) (by omega))
        (by rw [htile.next]; exact lt_irrefl _)
    have hcrossed := crossed_start hnear htiles (t := boundary (index t + 1)) (by omega)
    intro u
    have hu := hcrossed u
    rw [htile.next, heq] at hu
    rw [← hu]
    have := hnone u
    omega

end Necessary

/-- From an index on all windows tile exactly when both ends of each are crossed. -/
theorem tiles_iff_crossed {first : Int} (hnear : Near index boundary (first - 3)) :
    (∀ t, first ≤ index t → Tiles index boundary t) ↔
      ∀ t, first ≤ index t → Crossed index boundary (index t) ∧ Crossed index boundary (index t + 1) := by
  constructor
  · exact fun htiles t ht => ⟨crossed_start hnear htiles ht, crossed_finish hnear htiles ht⟩
  · intro hcrossed t ht
    obtain ⟨hstart, hfinish⟩ := hcrossed t ht
    have hafter : index t + 1 ≤ index (boundary (index t + 1)) := not_lt.mp fun h => lt_irrefl _ ((hfinish _).mp h)
    exact tiles_of_crossed hstart hfinish (hcrossed _ (by omega)).1

end Tiling

end TokenPilot.Library
