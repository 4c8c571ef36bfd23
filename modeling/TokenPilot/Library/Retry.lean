/-
  TokenPilot.Library.Retry — a plan of tries, made in order until one of them decides.

  `run i a` is what the `i`-th try comes to when it is made of `a`, and `again` says that it
  decides nothing. `attempted` lists the tries that are made; what a loop over a plan counts,
  marks or reports is read off it.

  - `attempted_append`: the second half of a plan is tried when the first decided nothing.
  - `mem_attempted`: which tries are made.
  - `attempted_length_le`: when they are few.
  - `attempted_lastOnly`: when a mark falls on the last of them and on no other.
  - `attempted_alike`: when two plans look the same from outside.
-/

import Mathlib.Data.List.Basic

namespace TokenPilot.Library

variable {α β γ τ : Type}

/-! ## Marks -/

/-- The last of a list is marked, and no other. -/
def LastOnly (mark : τ → Bool) (l : List τ) : Prop :=
  ∃ before last, l = before ++ [last] ∧ mark last = true ∧ ∀ t ∈ before, mark t = false

theorem lastOnly_nil (mark : τ → Bool) : ¬LastOnly mark [] := by
  rintro ⟨before, last, h, -⟩
  simp at h

theorem lastOnly_cons (mark : τ → Bool) (t : τ) (l : List τ) :
    LastOnly mark (t :: l) ↔ l = [] ∧ mark t = true ∨ mark t = false ∧ LastOnly mark l := by
  constructor
  · rintro ⟨before, last, h, hlast, hbefore⟩
    cases before with
    | nil =>
      simp only [List.nil_append, List.cons.injEq] at h
      exact .inl ⟨h.2, h.1 ▸ hlast⟩
    | cons first before =>
      simp only [List.cons_append, List.cons.injEq] at h
      refine .inr ⟨?_, before, last, h.2, hlast, fun t hmem => hbefore t (List.mem_cons_of_mem _ hmem)⟩
      rw [h.1]
      exact hbefore first List.mem_cons_self
  · rintro (⟨rfl, ht⟩ | ⟨ht, before, last, rfl, hlast, hbefore⟩)
    · exact ⟨[], t, rfl, ht, by simp⟩
    · refine ⟨t :: before, last, rfl, hlast, ?_⟩
      intro other hmem
      rcases List.mem_cons.mp hmem with rfl | hmem
      · exact ht
      · exact hbefore other hmem

theorem lastOnly_map (f : γ → τ) (mark : τ → Bool) (l : List γ) :
    LastOnly mark (l.map f) ↔ LastOnly (fun c => mark (f c)) l := by
  induction l with
  | nil => exact iff_of_false (lastOnly_nil mark) (lastOnly_nil _)
  | cons c l ih => rw [List.map_cons, lastOnly_cons, lastOnly_cons, ih, List.map_eq_nil_iff]

/-! ## Tries -/

section Tries

variable (run : Nat → α → β) (again : β → Bool)

/-- The tries of a plan, from the `i`-th on, up to the first that decides. -/
def attempted : Nat → List α → List (Nat × α × β)
  | _, [] => []
  | i, a :: rest => (i, a, run i a) :: if again (run i a) then attempted (i + 1) rest else []

/-- Nothing in the plan decides. -/
def Undecided (i : Nat) (plan : List α) : Prop :=
  ∀ k a, plan[k]? = some a → again (run (i + k) a) = true

/-- The `k`-th of the plan is tried: what stands before it decides nothing. -/
def Reached (i : Nat) (plan : List α) (k : Nat) (a : α) : Prop :=
  plan[k]? = some a ∧ ∀ j < k, ∀ b, plan[j]? = some b → again (run (i + j) b) = true

variable {run again}

attribute [local simp] attempted

theorem next_index (i k : Nat) : i + 1 + k = i + (k + 1) := by omega

theorem undecided_cons {i : Nat} {a : α} {rest : List α} :
    Undecided run again i (a :: rest) ↔ again (run i a) = true ∧ Undecided run again (i + 1) rest := by
  constructor
  · intro h
    refine ⟨h 0 a rfl, fun k b hb => ?_⟩
    rw [next_index]
    exact h (k + 1) b hb
  · rintro ⟨ha, hrest⟩ k b hb
    cases k with
    | zero =>
      cases hb
      exact ha
    | succ k =>
      rw [← next_index]
      exact hrest k b hb

theorem attempted_indices (i : Nat) (plan : List α) :
    (attempted run again i plan).map (·.1) = List.range' i (attempted run again i plan).length := by
  induction plan generalizing i with
  | nil => rfl
  | cons a rest ih =>
    unfold attempted
    split
    · simp [ih (i + 1), List.range'_succ]
    · simp

/-- The tries of a plan that decides nothing are all of its. -/
theorem attempted_undecided {i : Nat} {plan : List α} (h : Undecided run again i plan) :
    (attempted run again i plan).map (·.2.1) = plan ∧
      ∀ t ∈ attempted run again i plan, again t.2.2 = true := by
  induction plan generalizing i with
  | nil => simp [attempted]
  | cons a rest ih =>
    obtain ⟨ha, hrest⟩ := undecided_cons.mp h
    obtain ⟨hplan, hall⟩ := ih hrest
    refine ⟨by simp [attempted, ha, hplan], ?_⟩
    intro t hmem
    simp only [attempted, ha, if_true, List.mem_cons] at hmem
    rcases hmem with rfl | hmem
    · exact ha
    · exact hall t hmem

theorem attempted_append (i : Nat) (plan more : List α) :
    (Undecided run again i plan →
      attempted run again i (plan ++ more) =
        attempted run again i plan ++ attempted run again (i + plan.length) more) ∧
    (¬Undecided run again i plan → attempted run again i (plan ++ more) = attempted run again i plan) := by
  induction plan generalizing i with
  | nil => simp [attempted, Undecided]
  | cons a rest ih =>
    rw [undecided_cons]
    by_cases ha : again (run i a) = true
    · obtain ⟨hon, hoff⟩ := ih (i + 1)
      simp only [List.cons_append, attempted, ha, if_true, true_and, List.length_cons]
      refine ⟨fun h => ?_, fun h => by rw [hoff h]⟩
      rw [hon h, next_index]

    · simp [attempted, ha]

theorem mem_attempted {i : Nat} {plan : List α} {t : Nat × α × β} :
    t ∈ attempted run again i plan ↔
      ∃ k, Reached run again i plan k t.2.1 ∧ t.1 = i + k ∧ t.2.2 = run t.1 t.2.1 := by
  induction plan generalizing i with
  | nil => simp [attempted, Reached]
  | cons a rest ih =>
    constructor
    · intro hmem
      unfold attempted at hmem
      rcases List.mem_cons.mp hmem with rfl | hmem
      · exact ⟨0, ⟨rfl, by simp⟩, rfl, rfl⟩
      · split at hmem
        · rename_i ha
          obtain ⟨k, ⟨hk, hbefore⟩, hindex, hrun⟩ := ih.mp hmem
          refine ⟨k + 1, ⟨hk, fun j hj b hb => ?_⟩, by omega, hrun⟩
          cases j with
          | zero =>
            cases hb
            exact ha
          | succ j =>
            rw [← next_index]
            exact hbefore j (by omega) b hb
        · simp at hmem
    · rintro ⟨k, ⟨hk, hbefore⟩, hindex, hrun⟩
      obtain ⟨index, b, result⟩ := t
      simp only at hk hindex hrun
      unfold attempted
      cases k with
      | zero =>
        cases hk
        simp [hindex, hrun]
      | succ k =>
        have ha : again (run i a) = true := hbefore 0 (by omega) a rfl
        rw [if_pos ha]
        refine List.mem_cons_of_mem _ (ih.mpr ⟨k, ⟨hk, fun j hj c hc => ?_⟩, by simp only; omega, hrun⟩)
        rw [next_index]
        exact hbefore (j + 1) (by omega) c hc

theorem attempted_length_le (i : Nat) (plan : List α) (n : Nat) :
    (attempted run again i plan).length ≤ n ↔
      plan.length ≤ n ∨ ∃ k < n, ∃ a, plan[k]? = some a ∧ again (run (i + k) a) = false := by
  induction plan generalizing i n with
  | nil => simp [attempted]
  | cons a rest ih =>
    cases n with
    | zero => simp [attempted]
    | succ n =>
      unfold attempted
      by_cases ha : again (run i a) = true
      · rw [if_pos ha, List.length_cons, List.length_cons, Nat.add_le_add_iff_right, Nat.add_le_add_iff_right,
          ih (i + 1) n]
        refine or_congr_right ⟨?_, ?_⟩
        · rintro ⟨k, hk, b, hb, hdecides⟩
          exact ⟨k + 1, by omega, b, hb, by rwa [← next_index]⟩
        · rintro ⟨k, hk, b, hb, hdecides⟩
          cases k with
          | zero =>
            cases hb
            rw [Nat.add_zero, ha] at hdecides
            cases hdecides
          | succ k =>
            exact ⟨k, by omega, b, hb, by rwa [next_index]⟩
      · rw [if_neg ha]
        refine iff_of_true (by simp) (.inr ⟨0, by omega, a, rfl, ?_⟩)
        simpa using ha

/-- A try that others follow decided nothing. -/
theorem attempted_before {i : Nat} {plan : List α} {before after : List (Nat × α × β)} {t : Nat × α × β}
    (h : attempted run again i plan = before ++ t :: after) (hafter : after ≠ []) : again t.2.2 = true := by
  induction plan generalizing i before with
  | nil => simp [attempted] at h
  | cons a rest ih =>
    unfold attempted at h
    cases before with
    | nil =>
      simp only [List.nil_append, List.cons.injEq] at h
      obtain ⟨rfl, hrest⟩ := h
      by_contra ha
      rw [if_neg ha] at hrest
      exact hafter hrest.symm
    | cons first before =>
      simp only [List.cons_append, List.cons.injEq] at h
      split at h
      · exact ih h.2
      · simp at h

/-- A mark that a deciding try bears, and else the last of the plan at most, falls on the last
    try and no other if and only if something decides or the last of the plan bears it. -/
theorem attempted_lastOnly (mark : α → Bool) (i : Nat) (plan : List α)
    (hmark : plan.Pairwise fun a _ => mark a = false) :
    LastOnly (fun t => !again t.2.2 || mark t.2.1) (attempted run again i plan) ↔
      ¬Undecided run again i plan ∨ plan.getLast?.any mark = true := by
  induction plan generalizing i with
  | nil => simp [attempted, Undecided, lastOnly_nil]
  | cons a rest ih =>
    rw [undecided_cons]
    unfold attempted
    by_cases ha : again (run i a) = true
    · rw [if_pos ha, lastOnly_cons]
      simp only [ha, Bool.not_true, Bool.false_or, true_and]
      cases rest with
      | nil => simp [attempted, Undecided, lastOnly_nil]
      | cons b rest =>
        obtain ⟨hfirst, hlater⟩ := List.pairwise_cons.mp hmark
        have hunmarked : mark a = false := hfirst b List.mem_cons_self
        have hrest := ih (i + 1) hlater
        rw [hrest, hunmarked]
        simp [List.getLast?_cons_cons, attempted]
    · rw [if_neg ha, lastOnly_cons]
      simp [ha]

/-! ## Two plans -/

/-- As far as the first plan is tried, both show the same. -/
def AlikeWhile (run : Nat → α → β) (again : β → Bool) (view : α → β → γ) (i : Nat) (plan other : List α) : Prop :=
  ∀ k, (∀ j < k, ∀ a, plan[j]? = some a → again (run (i + j) a) = true) →
    plan[k]?.map (fun a => view a (run (i + k) a)) = other[k]?.map fun a => view a (run (i + k) a)

theorem alikeWhile_cons {view : α → β → γ} {i : Nat} {a b : α} {plan other : List α} :
    AlikeWhile run again view i (a :: plan) (b :: other) ↔
      view a (run i a) = view b (run i b) ∧
        (again (run i a) = true → AlikeWhile run again view (i + 1) plan other) := by
  constructor
  · intro h
    refine ⟨by simpa using h 0 (by simp), fun ha k hbefore => ?_⟩
    have hnext := h (k + 1) fun j hj c hc => by
      cases j with
      | zero =>
        cases hc
        exact ha
      | succ j =>
        rw [← next_index]
        exact hbefore j (by omega) c hc
    simpa only [List.getElem?_cons_succ, next_index] using hnext
  · rintro ⟨hview, hrest⟩ k hbefore
    cases k with
    | zero => simpa using hview
    | succ k =>
      have hnext := hrest (hbefore 0 (by omega) a rfl) k fun j hj c hc => by
        rw [next_index]
        exact hbefore (j + 1) (by omega) c hc
      simpa only [List.getElem?_cons_succ, next_index] using hnext

/-- The tries of two plans look the same if and only if the plans do as far as they are tried. -/
theorem attempted_alike (view : α → β → γ) (i : Nat) (plan other : List α)
    (hview : ∀ j, ∀ a ∈ plan, ∀ b ∈ other, view a (run j a) = view b (run j b) →
      again (run j a) = again (run j b)) :
    ((attempted run again i plan).map fun t => (t.1, view t.2.1 t.2.2)) =
        ((attempted run again i other).map fun t => (t.1, view t.2.1 t.2.2)) ↔
      AlikeWhile run again view i plan other := by
  induction plan generalizing i other with
  | nil =>
    cases other with
    | nil => simp [AlikeWhile]
    | cons b other =>
      refine iff_of_false (by simp [attempted]) fun h => ?_
      simpa using h 0 (by simp)
  | cons a plan ih =>
    cases other with
    | nil =>
      refine iff_of_false (by simp [attempted]) fun h => ?_
      simpa using h 0 (by simp)
    | cons b other =>
      rw [alikeWhile_cons]
      simp only [attempted, List.map_cons, List.cons.injEq, Prod.mk.injEq, true_and]
      refine and_congr_right fun hfirst => ?_
      have hagain := hview i a List.mem_cons_self b List.mem_cons_self hfirst
      rw [← hagain]
      by_cases ha : again (run i a) = true
      · simp only [ha, if_true, forall_const]
        exact ih (i + 1) other fun j c hc d hd =>
          hview j c (List.mem_cons_of_mem _ hc) d (List.mem_cons_of_mem _ hd)
      · simp [ha]

end Tries

end TokenPilot.Library
