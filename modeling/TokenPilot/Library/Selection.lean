/-
  TokenPilot.Library.Selection — a bounded query whose rows are filtered afterwards.

  A caller reads the first `n` rows of an ordered list, keeps those that pass a test and takes
  `k` of them. `mem_selection` says which rows it gets: a row that passes, with fewer than `n`
  rows before it and fewer than `k` passing rows before it. `selection_length_iff` says when
  these are as many as the unbounded query would give.

  In a list strictly ordered by a relation, the place of a row is the number of rows before it
  (`countP_before`, `countP_take`), so both counts can be read off the unordered rows.
-/

import Mathlib.Data.List.TakeWhile
import Mathlib.Order.Basic

namespace TokenPilot.Library

variable {α : Type} {p : α → Bool}

def selection (n k : Nat) (p : α → Bool) (l : List α) : List α := ((l.take n).filter p).take k

theorem selection_length (n k : Nat) (l : List α) : (selection n k p l).length = min k ((l.take n).countP p) := by
  rw [selection, List.length_take, List.countP_eq_length_filter]

theorem selection_nodup {n k : Nat} {l : List α} (hl : l.Nodup) : (selection n k p l).Nodup :=
  ((hl.sublist (List.take_sublist n l)).filter p).sublist (List.take_sublist k _)

/-! ## Which rows are taken -/

theorem mem_take_filter (k : Nat) (l : List α) (x : α) :
    x ∈ (l.filter p).take k ↔ ∃ before after, l = before ++ x :: after ∧ p x = true ∧ before.countP p < k := by
  induction l generalizing k with
  | nil => simp
  | cons y l ih =>
    constructor
    · intro hx
      cases hy : p y with
      | false =>
        rw [List.filter_cons_of_neg (by simp [hy])] at hx
        obtain ⟨before, after, rfl, hp, hk⟩ := (ih k).mp hx
        exact ⟨y :: before, after, rfl, hp, by simpa [List.countP_cons, hy] using hk⟩
      | true =>
        rw [List.filter_cons_of_pos hy] at hx
        cases k with
        | zero => simp at hx
        | succ k =>
          rcases List.mem_cons.mp hx with rfl | hx
          · exact ⟨[], l, rfl, hy, by simp⟩
          · obtain ⟨before, after, rfl, hp, hk⟩ := (ih k).mp hx
            exact ⟨y :: before, after, rfl, hp, by simpa [List.countP_cons, hy] using hk⟩
    · rintro ⟨before, after, hl, hp, hk⟩
      cases before with
      | nil =>
        obtain ⟨rfl, rfl⟩ := List.cons.inj hl
        rw [List.filter_cons_of_pos hp]
        cases k with
        | zero => simp at hk
        | succ k => simp
      | cons z before =>
        obtain ⟨rfl, rfl⟩ := List.cons.inj hl
        cases hy : p y with
        | false =>
          rw [List.filter_cons_of_neg (by simp [hy])]
          exact (ih k).mpr ⟨before, after, rfl, hp, by simpa [List.countP_cons, hy] using hk⟩
        | true =>
          rw [List.countP_cons, if_pos hy] at hk
          rw [List.filter_cons_of_pos hy]
          cases k with
          | zero => omega
          | succ k =>
            exact List.mem_cons_of_mem y ((ih k).mpr ⟨before, after, rfl, hp, by omega⟩)

/-- The rows a bounded query gives are those that pass and have few enough rows before them. -/
theorem mem_selection (n k : Nat) (l : List α) (x : α) :
    x ∈ selection n k p l ↔
      ∃ before after, l = before ++ x :: after ∧ p x = true ∧ before.countP p < k ∧ before.length < n := by
  rw [selection, mem_take_filter]
  constructor
  · rintro ⟨before, after, hl, hp, hk⟩
    have hlength : before.length < n := by
      have := congrArg List.length hl
      rw [List.length_take, List.length_append, List.length_cons] at this
      omega
    refine ⟨before, after ++ l.drop n, ?_, hp, hk, hlength⟩
    rw [← List.cons_append, ← List.append_assoc, ← hl, List.take_append_drop]
  · rintro ⟨before, after, rfl, hp, hk, hlength⟩
    refine ⟨before, after.take (n - before.length - 1), ?_, hp, hk⟩
    rw [List.take_append, List.take_of_length_le (Nat.le_of_lt hlength)]
    obtain ⟨m, hm⟩ : ∃ m, n - before.length = m + 1 := ⟨n - before.length - 1, by omega⟩
    rw [hm, List.take_succ_cons, Nat.add_sub_cancel]

/-- The bounded query gives as many rows as the unbounded one if and only if the rows that the
    latter gives all have fewer than `n` rows before them. -/
theorem selection_length_iff (n k : Nat) (l : List α) :
    (selection n k p l).length = min k (l.countP p) ↔
      ∀ before x after, l = before ++ x :: after → p x = true → before.countP p < k → before.length < n := by
  rw [selection_length]
  constructor
  · intro hcount before x after hl hp hk
    by_contra hn
    have htake : l.take n = before.take n := by
      rw [hl, List.take_append, Nat.sub_eq_zero_of_le (by omega), List.take_zero, List.append_nil]
    have hbefore : (before.take n).countP p ≤ before.countP p := (List.take_sublist n before).countP_le
    have hl : before.countP p + 1 ≤ l.countP p := by
      rw [hl, List.countP_append, List.countP_cons, if_pos hp]
      omega
    rw [htake] at hcount
    omega
  · intro hall
    by_cases hk : k ≤ (l.take n).countP p
    · have hl : (l.take n).countP p ≤ l.countP p := (List.take_sublist n l).countP_le
      omega
    · have hdrop : (l.drop n).countP p = 0 := by
        rw [List.countP_eq_zero]
        intro x hx
        by_contra hp
        -- The first row left out that passes is one the unbounded query gives.
        obtain ⟨y, hy⟩ : ∃ y, y ∈ ((l.drop n).filter p).take 1 := by
          have hne : (l.drop n).filter p ≠ [] := List.ne_nil_of_mem (List.mem_filter.mpr ⟨hx, by simpa using hp⟩)
          obtain ⟨y, rest, hrest⟩ := List.exists_cons_of_ne_nil hne
          exact ⟨y, by simp [hrest]⟩
        obtain ⟨before, after, hsplit, hpy, hbefore⟩ := (mem_take_filter 1 _ y).mp hy
        have hlength := hall (l.take n ++ before) y after
          (by rw [List.append_assoc, ← hsplit, List.take_append_drop]) hpy
          (by rw [List.countP_append]; omega)
        have hn : n ≤ l.length := by
          by_contra hn
          rw [List.drop_of_length_le (by omega)] at hx
          simp at hx
        rw [List.length_append, List.length_take] at hlength
        omega
      rw [← congrArg (List.countP p) (List.take_append_drop n l), List.countP_append, hdrop, Nat.add_zero]

/-! ## Places in an ordered list -/

variable {r : α → α → Prop} [DecidableRel r]

/-- Of an ordered list, the rows before `x` that pass are those of the part before `x`. -/
theorem countP_before {before after : List α} {x : α} (hl : (before ++ x :: after).Pairwise r)
    (hasymm : ∀ a b, r a b → ¬r b a) (q : α → Bool) :
    (before ++ x :: after).countP (fun y => q y && decide (r y x)) = before.countP q := by
  obtain ⟨-, hafter, hcross⟩ := List.pairwise_append.mp hl
  have hirrefl : ¬r x x := fun hx => hasymm x x hx hx
  have hbefore : before.countP (fun y => q y && decide (r y x)) = before.countP q := by
    refine List.countP_congr fun y hy => ?_
    simp [hcross y hy x (List.mem_cons_self ..)]
  have hafter : after.countP (fun y => q y && decide (r y x)) = 0 := by
    rw [List.countP_eq_zero]
    intro y hy hboth
    have hyx : r y x := by simpa using (Bool.and_eq_true_iff.mp hboth).2
    exact hasymm y x hyx ((List.pairwise_cons.mp hafter).1 y hy)
  rw [List.countP_append, hbefore, List.countP_cons, hafter]
  simp [hirrefl]

theorem countP_place {before after : List α} {x : α} (hl : (before ++ x :: after).Pairwise r)
    (hasymm : ∀ a b, r a b → ¬r b a) :
    (before ++ x :: after).countP (fun y => decide (r y x)) = before.length := by
  have h := countP_before hl hasymm fun _ => true
  rw [List.countP_true] at h
  simpa using h

end TokenPilot.Library
