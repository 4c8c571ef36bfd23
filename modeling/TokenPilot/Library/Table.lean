/-
  TokenPilot.Library.Table — relational tables with their constraints.

  A row type names its UNIQUE keys (`clash`: two rows that share one) and its CHECK
  constraints (`refused`: the name of the one a row breaks). A table is a list of rows
  in insertion order, pairwise free of clashes and none refused, so a table that breaks
  a constraint cannot be built. The statements a transaction issues are `insert` and `updateMany`; each
  either fails with the constraint it would break or returns the next table. Reads
  are `List.find?` and `List.filter` on the rows.

  `insert_ok` and `updateMany_ok` say everything a statement that went through did;
  `updateMany_one` is the case of an update whose row count the caller compared with
  1, and `updateMany_of_one` when such an update goes through. `sumOf` is an aggregate
  over the rows: `sumOf_snoc` and `sumOf_replace` say how one row moves it. `groupBy` is a
  grouping of the rows by a key (`groupBy_key`, `groupBy_mem`, `groupBy_keys`).
-/

import Mathlib.Algebra.Ring.Int.Defs

namespace TokenPilot.Library

class Row (α : Type) where
  /-- The rows share a UNIQUE key. -/
  clash : α → α → Bool
  clash_self : ∀ a, clash a a = true
  clash_comm : ∀ a b, clash a b = clash b a
  /-- The CHECK constraint the row breaks. -/
  refused : α → Option String

inductive Violation where
  | unique
  | check (constraint : String)
  deriving DecidableEq, Repr

@[ext]
structure Table (α : Type) [Row α] where
  rows : List α
  unique : rows.Pairwise fun a b => Row.clash a b = false
  checked : ∀ r ∈ rows, Row.refused r = none

namespace Table

variable {α : Type} [Row α]

def empty : Table α := ⟨[], .nil, by simp⟩

/-- What an update leaves in place of each row. -/
def rewrite (p : α → Bool) (f : α → α) (r : α) : α := if p r then f r else r

theorem rewrite_clash {p : α → Bool} {f : α → α} (hf : ∀ a b, Row.clash (f a) b = Row.clash a b) (a b : α) :
    Row.clash (rewrite p f a) (rewrite p f b) = Row.clash a b := by
  have left : ∀ x y, Row.clash (rewrite p f x) y = Row.clash x y := by
    intro x y
    unfold rewrite
    split
    · exact hf x y
    · rfl
  rw [left, Row.clash_comm, left, Row.clash_comm]

/-- An update that selects no row. -/
theorem map_rewrite_none {p : α → Bool} {f : α → α} {l : List α} (h : ∀ r ∈ l, p r = false) :
    l.map (rewrite p f) = l := by
  refine (List.map_congr_left fun r hr => ?_).trans (List.map_id l)
  rw [rewrite, h r hr]
  rfl

/-- The CHECK constraints are evaluated before the row reaches the unique indexes. -/
def insert (t : Table α) (r : α) : Except Violation (Table α) :=
  match hc : Row.refused r with
  | some constraint => .error (.check constraint)
  | none =>
    if hu : ∀ x ∈ t.rows, Row.clash x r = false then
      .ok ⟨t.rows ++ [r],
        by rw [List.pairwise_append]; exact ⟨t.unique, by simp, by simpa using hu⟩,
        by intro x hx; rcases List.mem_append.mp hx with h | h
           · exact t.checked x h
           · simp at h; subst h; exact hc⟩
    else .error .unique

/-- Rewrite the selected rows with a function that keeps their keys, and count them. -/
def updateMany (t : Table α) (p : α → Bool) (f : α → α) (hf : ∀ a b, Row.clash (f a) b = Row.clash a b) :
    Except Violation (Table α × Nat) :=
  match hc : t.rows.findSome? fun r => Row.refused (rewrite p f r) with
  | some constraint => .error (.check constraint)
  | none =>
    .ok (⟨t.rows.map (rewrite p f),
      List.pairwise_map.mpr (t.unique.imp fun {a b} h => by rw [rewrite_clash hf]; exact h),
      by intro x hx; obtain ⟨r, hr, rfl⟩ := List.mem_map.mp hx; exact List.findSome?_eq_none_iff.mp hc r hr⟩,
      t.rows.countP p)

/-! ## What a statement did -/

theorem insert_ok {t t' : Table α} {r : α} (h : t.insert r = .ok t') :
    Row.refused r = none ∧ (∀ x ∈ t.rows, Row.clash x r = false) ∧ t'.rows = t.rows ++ [r] := by
  unfold insert at h
  split at h
  · cases h
  · rename_i hc
    split at h
    · rename_i hu
      injection h with h
      subst h
      exact ⟨hc, hu, rfl⟩
    · cases h

theorem insert_of {t : Table α} {r : α} (hc : Row.refused r = none) (hu : ∀ x ∈ t.rows, Row.clash x r = false) :
    ∃ t', t.insert r = .ok t' ∧ t'.rows = t.rows ++ [r] := by
  unfold insert
  split
  · rename_i h
    rw [hc] at h
    cases h
  · rw [dif_pos hu]
    exact ⟨_, rfl, rfl⟩

/-- A row with a key that is taken is refused, by its own constraints or by the key. -/
theorem insert_error {t : Table α} {r : α} (hc : Row.refused r = none) {x : α} (hx : x ∈ t.rows)
    (h : Row.clash x r = true) : t.insert r = .error .unique := by
  have hu : ¬ ∀ x ∈ t.rows, Row.clash x r = false := by
    intro hall
    rw [hall x hx] at h
    cases h
  unfold insert
  split
  · rename_i h
    rw [hc] at h
    cases h
  · rw [dif_neg hu]

theorem insert_check {t : Table α} {r : α} {c : String} (h : t.insert r = .error (.check c)) :
    Row.refused r = some c := by
  unfold insert at h
  split at h
  · rename_i hc
    injection h with h
    injection h with h
    rw [hc, h]
  · split at h <;> cases h

theorem updateMany_ok {t t' : Table α} {p : α → Bool} {f : α → α} {hf} {n : Nat}
    (h : t.updateMany p f hf = .ok (t', n)) :
    (∀ r ∈ t.rows, Row.refused (rewrite p f r) = none) ∧ t'.rows = t.rows.map (rewrite p f) ∧ n = t.rows.countP p := by
  unfold updateMany at h
  split at h
  · cases h
  · rename_i hc
    simp only [Except.ok.injEq, Prod.mk.injEq] at h
    obtain ⟨rfl, rfl⟩ := h
    exact ⟨List.findSome?_eq_none_iff.mp hc, rfl, rfl⟩

theorem updateMany_of {t : Table α} {p : α → Bool} {f : α → α} (hf : ∀ a b, Row.clash (f a) b = Row.clash a b)
    (hc : ∀ r ∈ t.rows, p r = true → Row.refused (f r) = none) :
    ∃ t', t.updateMany p f hf = .ok (t', t.rows.countP p) ∧ t'.rows = t.rows.map (rewrite p f) := by
  have hall : t.rows.findSome? (fun r => Row.refused (rewrite p f r)) = none := by
    rw [List.findSome?_eq_none_iff]
    intro r hr
    unfold rewrite
    split
    · exact hc r hr ‹_›
    · exact t.checked r hr
  unfold updateMany
  split
  · rename_i h
    rw [hall] at h
    cases h
  · exact ⟨_, rfl, rfl⟩

/-- An update is refused by a constraint a row it selects would break, and only so. -/
theorem updateMany_check {t : Table α} {p : α → Bool} {f : α → α} {hf} {v : Violation}
    (h : t.updateMany p f hf = .error v) :
    ∃ r ∈ t.rows, p r = true ∧ ∃ c, v = .check c ∧ Row.refused (f r) = some c := by
  unfold updateMany at h
  split at h
  · rename_i c hc
    injection h with h
    obtain ⟨r, hr, hrc⟩ := List.exists_of_findSome?_eq_some hc
    unfold rewrite at hrc
    split at hrc
    · exact ⟨r, hr, ‹_›, c, h.symm, hrc⟩
    · rw [t.checked r hr] at hrc; cases hrc
  · cases h

/-! ## Keys -/

theorem eq_of_clash (t : Table α) {a b : α} (ha : a ∈ t.rows) (hb : b ∈ t.rows) (h : Row.clash a b = true) :
    a = b := by
  have key : ∀ l : List α, (l.Pairwise fun a b => Row.clash a b = false) → a ∈ l → b ∈ l → a = b := by
    intro l hl
    induction l with
    | nil => intro ha; cases ha
    | cons x l ih =>
      rw [List.pairwise_cons] at hl
      intro ha hb
      rcases List.mem_cons.mp ha with hax | hal <;> rcases List.mem_cons.mp hb with hbx | hbl
      · rw [hax, hbx]
      · rw [hax, hl.1 b hbl] at h; cases h
      · rw [hbx, Row.clash_comm, hl.1 a hal] at h; cases h
      · exact ih hl.2 hal hbl
  exact key t.rows t.unique ha hb

theorem nodup (t : Table α) : t.rows.Nodup := by
  refine t.unique.imp ?_
  rintro a b h rfl
  rw [Row.clash_self] at h
  cases h

/-- A read by key returns the row that has it. -/
theorem find?_of_clash (t : Table α) {p : α → Bool} {r : α} (hr : r ∈ t.rows) (h : p r = true)
    (hp : ∀ x, p x = true → Row.clash x r = true) : t.rows.find? p = some r := by
  cases hf : t.rows.find? p with
  | none => exact absurd h (by simpa using List.find?_eq_none.mp hf r hr)
  | some x => rw [t.eq_of_clash (List.mem_of_find?_eq_some hf) hr (hp x (List.find?_some hf))]

/-- A selection by key of the row that has it. -/
theorem filter_of_clash (t : Table α) {p : α → Bool} {r : α} (hr : r ∈ t.rows) (h : p r = true)
    (hp : ∀ x ∈ t.rows, p x = true → Row.clash x r = true) : t.rows.filter p = [r] := by
  obtain ⟨before, after, hrows⟩ := List.append_of_mem hr
  have hnodup := t.nodup
  rw [hrows] at hnodup
  have hnone : ∀ x ∈ t.rows, x ≠ r → ¬ p x = true := fun x hx hne hpx => hne (t.eq_of_clash hx hr (hp x hx hpx))
  have hbefore : before.filter p = [] := by
    rw [List.filter_eq_nil_iff]
    intro x hx
    refine hnone x (by rw [hrows]; exact List.mem_append_left _ hx) ?_
    rintro rfl
    exact (List.nodup_append.mp hnodup).2.2 x hx x List.mem_cons_self rfl
  have hafter : after.filter p = [] := by
    rw [List.filter_eq_nil_iff]
    intro x hx
    refine hnone x (by rw [hrows]; exact List.mem_append_right _ (List.mem_cons_of_mem _ hx)) ?_
    rintro rfl
    exact (List.nodup_cons.mp (List.nodup_append.mp hnodup).2.1).1 hx
  rw [hrows, List.filter_append, List.filter_cons_of_pos h, hbefore, hafter]
  rfl

theorem find?_mem {t : Table α} {p : α → Bool} {r : α} (h : t.rows.find? p = some r) : r ∈ t.rows ∧ p r = true :=
  ⟨List.mem_of_find?_eq_some h, List.find?_some h⟩

end Table

/-! ## One row -/

section Replace

variable {α : Type} [DecidableEq α]

/-- The rows with `r'` in the place of `r`. -/
def replace (r r' : α) (l : List α) : List α := l.map fun x => if x = r then r' else x

theorem mem_replace {r r' : α} {l : List α} (hr : r ∈ l) {x : α} :
    x ∈ replace r r' l ↔ x = r' ∨ (x ∈ l ∧ x ≠ r) := by
  unfold replace
  rw [List.mem_map]
  constructor
  · intro hyp
    obtain ⟨y, hy, rfl⟩ := hyp
    split
    · exact Or.inl rfl
    · exact Or.inr ⟨hy, ‹_›⟩
  · rintro (rfl | ⟨hx, hne⟩)
    · exact ⟨r, hr, if_pos rfl⟩
    · exact ⟨x, hx, if_neg hne⟩

variable [Row α]

/-- A selection of rows that clash with `r` rewrites at most `r`. -/
theorem Table.map_rewrite_one (t : Table α) {p : α → Bool} {f : α → α} {r : α} (hr : r ∈ t.rows)
    (hp : ∀ x, p x = true → Row.clash x r = true) (h : p r = true) :
    t.rows.map (Table.rewrite p f) = replace r (f r) t.rows := by
  refine List.map_congr_left ?_
  intro x hx
  unfold Table.rewrite
  by_cases hpx : p x = true
  · have hxr := t.eq_of_clash hx hr (hp x hpx)
    rw [if_pos hpx, if_pos hxr, hxr]
  · have hne : x ≠ r := by
      rintro rfl
      exact hpx h
    rw [if_neg hpx, if_neg hne]

theorem Table.countP_one (t : Table α) {p : α → Bool} {r : α} (hr : r ∈ t.rows)
    (hp : ∀ x, p x = true → Row.clash x r = true) : t.rows.countP p = 1 ↔ p r = true := by
  have hcount : t.rows.countP p = if p r = true then 1 else 0 := by
    have hiff : ∀ x ∈ t.rows, p x = true ↔ (decide (x = r) && p r) = true := by
      intro x hx
      constructor
      · intro h
        have hxr := t.eq_of_clash hx hr (hp x h)
        subst hxr
        simpa using h
      · intro h
        simp only [Bool.and_eq_true, decide_eq_true_eq] at h
        rw [h.1]
        exact h.2
    rw [List.countP_congr hiff]
    split
    · rename_i h
      simp only [h, Bool.and_true]
      have hone : t.rows.count r = 1 := by rw [t.nodup.count, if_pos hr]
      rw [← hone, List.count]
      refine List.countP_congr ?_
      intro x _
      simp
    · rename_i h
      simp [Bool.eq_false_iff.mpr h]
  rw [hcount]
  split <;> simp_all

/-- An update meant for one row, whose count the caller checked (or whose selection holds of the row). -/
theorem Table.updateMany_one {t t' : Table α} {p : α → Bool} {f : α → α} {hf} {n : Nat}
    (h : t.updateMany p f hf = .ok (t', n)) {r : α} (hr : r ∈ t.rows)
    (hp : ∀ x, p x = true → Row.clash x r = true) (hn : n = 1 ∨ p r = true) :
    p r = true ∧ Row.refused (f r) = none ∧ t'.rows = replace r (f r) t.rows := by
  obtain ⟨hc, hrows, hcount⟩ := Table.updateMany_ok h
  have hpr : p r = true := by
    rcases hn with hn | hn
    · rw [hcount] at hn
      exact (t.countP_one hr hp).mp hn
    · exact hn
  refine ⟨hpr, ?_, ?_⟩
  · have := hc r hr
    rwa [Table.rewrite, if_pos hpr] at this
  · rw [hrows, t.map_rewrite_one hr hp hpr]

theorem Table.updateMany_of_one {t : Table α} {p : α → Bool} {f : α → α}
    (hf : ∀ a b, Row.clash (f a) b = Row.clash a b) {r : α} (hr : r ∈ t.rows)
    (hp : ∀ x, p x = true → Row.clash x r = true) (h : p r = true) (hc : Row.refused (f r) = none) :
    ∃ t', t.updateMany p f hf = .ok (t', 1) ∧ t'.rows = replace r (f r) t.rows := by
  obtain ⟨t', ht, hrows⟩ := Table.updateMany_of (t := t) (p := p) hf fun x hx hpx => by
    rw [t.eq_of_clash hx hr (hp x hpx)]; exact hc
  refine ⟨t', ?_, ?_⟩
  · rw [ht, (t.countP_one hr hp).mpr h]
  · rw [hrows, t.map_rewrite_one hr hp h]

end Replace

/-! ## Sums over the rows -/

section Sums

variable {α : Type}

/-- The sum of `w` over the rows `p` selects. -/
def sumOf (p : α → Bool) (w : α → Int) (l : List α) : Int := ((l.filter p).map w).sum

@[simp] theorem sumOf_nil (p : α → Bool) (w : α → Int) : sumOf p w [] = 0 := rfl

theorem sumOf_cons (p : α → Bool) (w : α → Int) (x : α) (l : List α) :
    sumOf p w (x :: l) = (if p x then w x else 0) + sumOf p w l := by
  unfold sumOf
  by_cases h : p x = true
  · simp [h]
  · simp [h]

theorem sumOf_snoc (p : α → Bool) (w : α → Int) (l : List α) (x : α) :
    sumOf p w (l ++ [x]) = sumOf p w l + if p x then w x else 0 := by
  induction l with
  | nil => simp [sumOf_cons]
  | cons y l ih => rw [List.cons_append, sumOf_cons, sumOf_cons, ih]; omega

theorem sumOf_nonneg {p : α → Bool} {w : α → Int} {l : List α} (h : ∀ x ∈ l, p x = true → 0 ≤ w x) :
    0 ≤ sumOf p w l := by
  induction l with
  | nil => simp
  | cons x l ih =>
    rw [sumOf_cons]
    have := ih fun y hy => h y (List.mem_cons_of_mem _ hy)
    split
    · have := h x List.mem_cons_self ‹_›; omega
    · omega

theorem sumOf_eq_zero {p : α → Bool} {w : α → Int} {l : List α} (h : ∀ x ∈ l, p x = true → w x = 0) :
    sumOf p w l = 0 := by
  induction l with
  | nil => rfl
  | cons x l ih =>
    rw [sumOf_cons, ih fun y hy => h y (List.mem_cons_of_mem _ hy)]
    split
    · rw [h x List.mem_cons_self ‹_›]; rfl
    · rfl

/-- One selected row of nonnegative rows is at most the sum. -/
theorem le_sumOf {p : α → Bool} {w : α → Int} {l : List α} (h : ∀ x ∈ l, p x = true → 0 ≤ w x) {r : α}
    (hr : r ∈ l) (hp : p r = true) : w r ≤ sumOf p w l := by
  induction l with
  | nil => cases hr
  | cons x l ih =>
    rw [sumOf_cons]
    have hl : ∀ y ∈ l, p y = true → 0 ≤ w y := fun y hy => h y (List.mem_cons_of_mem _ hy)
    rcases List.mem_cons.mp hr with rfl | hr
    · have := sumOf_nonneg hl; rw [if_pos hp]; omega
    · have := ih hl hr
      split
      · have := h x List.mem_cons_self ‹_›; omega
      · omega

/-- An update that keeps every row's share of the sum keeps the sum. -/
theorem sumOf_map_congr {p q : α → Bool} {w v : α → Int} {g : α → α} {l : List α}
    (h : ∀ x ∈ l, (if q (g x) then v (g x) else 0) = if p x then w x else 0) :
    sumOf q v (l.map g) = sumOf p w l := by
  induction l with
  | nil => rfl
  | cons x l ih =>
    rw [List.map_cons, sumOf_cons, sumOf_cons, ih fun y hy => h y (List.mem_cons_of_mem _ hy),
      h x List.mem_cons_self]

theorem sumOf_replace [DecidableEq α] {p : α → Bool} {w : α → Int} {r r' : α} {l : List α} (hl : l.Nodup)
    (hr : r ∈ l) :
    sumOf p w (replace r r' l) =
      sumOf p w l - (if p r then w r else 0) + if p r' then w r' else 0 := by
  induction l with
  | nil => cases hr
  | cons x l ih =>
    rw [List.nodup_cons] at hl
    have hcons : replace r r' (x :: l) = (if x = r then r' else x) :: replace r r' l := rfl
    rw [hcons, sumOf_cons, sumOf_cons]
    by_cases hx : x = r
    · subst hx
      -- the rest of the rows do not hold `x`, so they stay
      have hrest : replace x r' l = l := by
        unfold replace
        conv => rhs; rw [← List.map_id l]
        refine List.map_congr_left ?_
        intro y hy
        rw [if_neg, id]
        rintro rfl
        exact hl.1 hy
      rw [if_pos rfl, hrest]
      omega
    · rw [if_neg hx, ih hl.2 ((List.mem_cons.mp hr).resolve_left fun h => hx h.symm)]
      omega

end Sums

/-! ## Groups -/

section Groups

variable {α κ : Type} [DecidableEq κ]

/-- `GROUP BY`: the rows of each key, the keys in the order they first appear. -/
def groupBy (key : α → κ) (rows : List α) : List (κ × List α) :=
  (rows.map key).eraseDups.map fun k => (k, rows.filter fun row => key row = k)

theorem eraseDups_nodup (l : List κ) : l.eraseDups.Nodup := by
  induction hn : l.length using Nat.strongRecOn generalizing l with
  | ind n ih =>
    cases l with
    | nil => simp
    | cons a l =>
      rw [List.eraseDups_cons, List.nodup_cons]
      have hlt : (l.filter fun b => !b == a).length < n := by
        have := List.length_filter_le (fun b => !b == a) l
        simp only [List.length_cons] at hn
        omega
      exact ⟨by simp [List.mem_eraseDups], ih _ hlt _ rfl⟩

theorem groupBy_key {key : α → κ} {rows : List α} {group : κ × List α} (h : group ∈ groupBy key rows) :
    ∃ row ∈ rows, key row = group.1 := by
  obtain ⟨k, hk, rfl⟩ := List.mem_map.mp h
  exact List.mem_map.mp (List.mem_eraseDups.mp hk)

theorem groupBy_mem {key : α → κ} {rows : List α} {group : κ × List α} (h : group ∈ groupBy key rows) {row : α}
    (hrow : row ∈ group.2) : row ∈ rows := by
  obtain ⟨k, -, rfl⟩ := List.mem_map.mp h
  exact (List.mem_filter.mp hrow).1

/-- A key has one group. -/
theorem groupBy_keys (key : α → κ) (rows : List α) : ((groupBy key rows).map Prod.fst).Nodup := by
  unfold groupBy
  rw [List.map_map]
  have hkeys : (Prod.fst ∘ fun k : κ => (k, rows.filter fun row => key row = k)) = id := rfl
  rw [hkeys, List.map_id]
  exact eraseDups_nodup _

end Groups

end TokenPilot.Library
