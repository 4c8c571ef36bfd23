/-
  TokenPilot.Library.Journal — lists that only grow at the end.

  `since own resets` is what the journal holds of one subject (`own`) after the last
  entry that starts it anew (`resets`). Entries fall into groups by a key; when no
  group's sum is negative, one group is at most the whole (`group_le_sumOf`). Such a
  journal is how a balance that several sources raise and lower is shown to cover what
  one of them takes back. `first_sorted` says which entry a query that sorts and takes
  the first row returns.
-/

import Mathlib.Data.List.Sort
import TokenPilot.Library.Table

namespace TokenPilot.Library

variable {α κ : Type}

/-- The subject's entries after the last that resets it. -/
def since (own resets : α → Bool) (l : List α) : List α :=
  l.foldl (fun acc e => if own e then if resets e then [] else acc ++ [e] else acc) []

theorem since_snoc (own resets : α → Bool) (l : List α) (e : α) :
    since own resets (l ++ [e]) =
      if own e then if resets e then [] else since own resets l ++ [e] else since own resets l := by
  unfold since
  rw [List.foldl_append]
  rfl

variable [DecidableEq κ] {key : α → κ} {w : α → Int}

/-- The sum of the entries of one key. -/
def groupSum (key : α → κ) (w : α → Int) (k : κ) (l : List α) : Int := sumOf (fun e => key e == k) w l

theorem groupSum_snoc (k : κ) (l : List α) (e : α) :
    groupSum key w k (l ++ [e]) = groupSum key w k l + if key e = k then w e else 0 := by
  unfold groupSum
  rw [sumOf_snoc]
  simp only [beq_iff_eq]

variable (key) in
theorem sumOf_split (k : κ) (l : List α) :
    sumOf (fun _ => true) w l = groupSum key w k l + sumOf (fun _ => true) w (l.filter fun e => key e != k) := by
  induction l with
  | nil => rfl
  | cons x l ih =>
    have hgroup : groupSum key w k (x :: l) = (if key x == k then w x else 0) + groupSum key w k l := sumOf_cons _ _ _ _
    rw [sumOf_cons, hgroup, ih, if_pos rfl]
    by_cases h : key x = k
    · rw [List.filter_cons_of_neg (by simp [h]), if_pos (by simp [h])]
      omega
    · rw [List.filter_cons_of_pos (by simp [h]), sumOf_cons, if_pos rfl, if_neg (by simp [h])]
      omega

theorem groupSum_filter (k k' : κ) (l : List α) :
    groupSum key w k' (l.filter fun e => key e != k) = if k' = k then 0 else groupSum key w k' l := by
  unfold groupSum sumOf
  rw [List.filter_filter]
  split
  · rename_i h
    have hnone : (l.filter fun e => key e == k' && key e != k) = [] := by
      rw [List.filter_eq_nil_iff]
      intro e _
      simp [h]
    rw [hnone]
    rfl
  · rename_i h
    congr 2
    refine List.filter_congr ?_
    intro e _
    by_cases he : key e = k'
    · simp [he, h]
    · simp [he]

variable (key) in
theorem sumOf_nonneg_of_groups (l : List α) (h : ∀ k, 0 ≤ groupSum key w k l) : 0 ≤ sumOf (fun _ => true) w l := by
  -- by the number of entries: take out the group of the first
  generalize hn : l.length = n
  induction n using Nat.strongRecOn generalizing l with
  | _ n ih =>
    cases l with
    | nil => simp
    | cons x l =>
      rw [sumOf_split key (key x)]
      have hlt : ((x :: l).filter fun e => key e != key x).length < n := by
        rw [List.filter_cons_of_neg (by simp), ← hn, List.length_cons]
        exact Nat.lt_succ_of_le (List.length_filter_le _ _)
      have hrest := ih _ hlt ((x :: l).filter fun e => key e != key x) (fun k => by
        rw [groupSum_filter]
        split
        · exact Int.le_refl 0
        · exact h k) rfl
      have := h (key x)
      omega

theorem group_le_sumOf (l : List α) (h : ∀ k, 0 ≤ groupSum key w k l) (k : κ) :
    groupSum key w k l ≤ sumOf (fun _ => true) w l := by
  rw [sumOf_split key k]
  have := sumOf_nonneg_of_groups key (w := w) (l.filter fun e => key e != k) fun k' => by
    rw [groupSum_filter]
    split
    · exact Int.le_refl 0
    · exact h k'
  omega

/-- The first of the sorted rows is the one that no other comes before. -/
theorem first_sorted {r : α → α → Prop} [DecidableRel r] [Std.Total r] [IsTrans α r] {l : List α} {x : α} (hx : x ∈ l)
    (h : ∀ y ∈ l, y ≠ x → ¬ r y x) : (l.insertionSort r).head? = some x := by
  cases hs : l.insertionSort r with
  | nil =>
    have : x ∈ l.insertionSort r := (List.mem_insertionSort r).mpr hx
    rw [hs] at this
    cases this
  | cons y t =>
    have hy : y ∈ l := (List.mem_insertionSort r).mp (by rw [hs]; exact List.mem_cons_self)
    have hsorted := List.pairwise_insertionSort r l
    rw [hs, List.pairwise_cons] at hsorted
    have hmem : x ∈ y :: t := by rw [← hs]; exact (List.mem_insertionSort r).mpr hx
    rcases List.mem_cons.mp hmem with rfl | hxt
    · rfl
    · by_cases hyx : y = x
      · rw [hyx]; rfl
      · exact absurd (hsorted.1 x hxt) (h y hy hyx)

end TokenPilot.Library
