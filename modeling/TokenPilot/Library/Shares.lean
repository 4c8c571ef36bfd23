/-
  TokenPilot.Library.Shares — a line cut into half-open shares.

  A list of positive weights cuts the line from zero to their total: the element after `before`
  owns the points from the total of `before` up to that and its own weight. Every point below
  the total has one owner (`exists_owner`, `owner_unique`).
-/

import Mathlib.Algebra.Order.BigOperators.Group.List
import Mathlib.Algebra.Order.Field.Rat
import Mathlib.Tactic.Linarith

namespace TokenPilot.Library

variable {α : Type} (weight : α → ℚ)

def total (l : List α) : ℚ := (l.map weight).sum

/-- The element between `before` and `after` owns `point`. -/
structure Owns (l before : List α) (a : α) (after : List α) (point : ℚ) : Prop where
  split : l = before ++ a :: after
  starts : total weight before ≤ point
  ends : point < total weight before + weight a

variable {weight}

@[simp] theorem total_nil : total weight ([] : List α) = 0 := rfl

@[simp] theorem total_cons (a : α) (l : List α) : total weight (a :: l) = weight a + total weight l := by
  simp [total]

@[simp] theorem total_append (l m : List α) : total weight (l ++ m) = total weight l + total weight m := by
  simp [total]

theorem total_nonneg {l : List α} (h : ∀ a ∈ l, 0 < weight a) : 0 ≤ total weight l := by
  induction l with
  | nil => exact le_refl _
  | cons a l ih =>
    have ha := h a (by simp)
    have hl := ih fun b hb => h b (by simp [hb])
    rw [total_cons]
    linarith

theorem exists_owner {l : List α} {point : ℚ} (h0 : 0 ≤ point) (h : point < total weight l) :
    ∃ before a after, Owns weight l before a after point := by
  induction l generalizing point with
  | nil =>
    rw [total_nil] at h
    linarith
  | cons a l ih =>
    by_cases hfirst : point < weight a
    · exact ⟨[], a, l, rfl, h0, by simpa using hfirst⟩
    · rw [total_cons] at h
      obtain ⟨before, b, after, hsplit, hstarts, hends⟩ := ih (by linarith : 0 ≤ point - weight a) (by linarith)
      refine ⟨a :: before, b, after, by rw [hsplit, List.cons_append], ?_, ?_⟩
      · rw [total_cons]
        linarith
      · rw [total_cons]
        linarith

/-- Of two owners of one point, neither comes before the other. -/
theorem owner_unique {l before before' after after' : List α} {a a' : α} {point : ℚ} (hpos : ∀ b ∈ l, 0 < weight b)
    (h : Owns weight l before a after point) (h' : Owns weight l before' a' after' point) :
    before = before' ∧ a = a' ∧ after = after' := by
  induction l generalizing before before' point with
  | nil =>
    have hsplit := h.split
    simp at hsplit
  | cons b l ih =>
    have hb := hpos b (by simp)
    have hl : ∀ c ∈ l, 0 < weight c := fun c hc => hpos c (by simp [hc])
    -- an owner that is not the first element owns the point moved by the first weight
    have hlater {c : α} {front back : List α} {d : α} (howns : Owns weight (b :: l) (c :: front) d back point) :
        Owns weight l front d back (point - weight b) ∧ weight b ≤ point := by
      obtain ⟨hsplit, hstarts, hends⟩ := howns
      rw [List.cons_append, List.cons.injEq] at hsplit
      obtain ⟨rfl, rfl⟩ := hsplit
      rw [total_cons] at hstarts hends
      have hfront : 0 ≤ total weight front := total_nonneg fun c hc => hl c (by simp [hc])
      exact ⟨⟨rfl, by linarith, by linarith⟩, by linarith⟩
    have hfirst {d : α} {back : List α} (howns : Owns weight (b :: l) [] d back point) :
        d = b ∧ back = l ∧ point < weight b := by
      obtain ⟨hsplit, -, hends⟩ := howns
      rw [List.nil_append, List.cons.injEq] at hsplit
      obtain ⟨rfl, rfl⟩ := hsplit
      exact ⟨rfl, rfl, by simpa using hends⟩
    cases before with
    | nil =>
      obtain ⟨rfl, rfl, hpoint⟩ := hfirst h
      cases before' with
      | nil =>
        obtain ⟨rfl, rfl, -⟩ := hfirst h'
        exact ⟨rfl, rfl, rfl⟩
      | cons c front =>
        have := (hlater h').2
        linarith
    | cons c front =>
      obtain ⟨howns, hpoint⟩ := hlater h
      have hhead : b = c := by
        have hsplit := h.split
        rw [List.cons_append, List.cons.injEq] at hsplit
        exact hsplit.1
      cases before' with
      | nil =>
        have := (hfirst h').2.2
        linarith
      | cons c' front' =>
        obtain ⟨howns', -⟩ := hlater h'
        have hhead' : b = c' := by
          have hsplit := h'.split
          rw [List.cons_append, List.cons.injEq] at hsplit
          exact hsplit.1
        obtain ⟨hfront, ha, hafter⟩ := ih hl howns howns'
        exact ⟨by rw [hfront, ← hhead, ← hhead'], ha, hafter⟩

/-! ## The picked one first -/

/-- Moving one of a list to the front keeps the list, when keys tell its members apart. -/
theorem cons_filter_perm {β : Type} [DecidableEq β] {key : α → β} {l : List α} {a : α} (hnodup : (l.map key).Nodup)
    (hmem : a ∈ l) : (a :: l.filter (key · ≠ key a)).Perm l := by
  obtain ⟨before, after, rfl⟩ := List.append_of_mem hmem
  have hothers : ∀ other ∈ before ++ after, key other ≠ key a := by
    intro other hother heq
    rw [List.map_append, List.map_cons, List.nodup_append] at hnodup
    obtain ⟨-, hafter, hdisjoint⟩ := hnodup
    rw [List.nodup_cons] at hafter
    rcases List.mem_append.mp hother with hother | hother
    · exact hdisjoint _ (List.mem_map_of_mem hother) _ (by simp) heq
    · exact hafter.1 (heq ▸ List.mem_map_of_mem hother)
  have hbefore : before.filter (key · ≠ key a) = before :=
    List.filter_eq_self.mpr fun other hother => by simpa using hothers other (by simp [hother])
  have hafter : after.filter (key · ≠ key a) = after :=
    List.filter_eq_self.mpr fun other hother => by simpa using hothers other (by simp [hother])
  rw [List.filter_append, hbefore, List.filter_cons_of_neg (by simp), hafter]
  exact List.perm_middle.symm

end TokenPilot.Library
