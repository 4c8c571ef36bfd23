/-
  TokenPilot.Management.Refresher — which user groups one pass of the worker refreshes:
  `refreshDue` (`worker/user-groups/refresher.ts`).

  The pass reads at most four times `limit` groups that are enabled and have an interval, the
  longest unevaluated first and those never evaluated last, and drops the ones that are not due
  only afterwards. So a due group is refreshed if and only if fewer than `limit` due groups and
  fewer than four times `limit` groups of any kind stand before it (`mem_dueGroups`). The pass
  takes as many due groups as it may if and only if every due group that `limit` leaves room for
  is within reach in this sense (`dueGroups_complete_iff`); groups with long intervals can keep a
  group that was never evaluated out of every pass (`never_reached`).

  What the refresh of one group does is in `TokenPilot.Management.UserGroups`; here the answers
  of the Redis lock and the outcomes of the refreshes are parameters. The log is left out.
-/

import TokenPilot.Library.Selection
import TokenPilot.Management.UserGroups

namespace TokenPilot.Management

open Library Quota

variable {Condition : Type}

structure ApplicationUserGroupRow (Condition : Type) where
  id : Uuid
  applicationId : Uuid
  group : UserGroupRow Condition
  deriving DecidableEq, Repr

/-- `application_user_groups`: the id is the primary key. -/
structure UserGroupTable (Condition : Type) where
  rows : List (ApplicationUserGroupRow Condition)
  ids_nodup : (rows.map (·.id)).Nodup

/-- `where: { enabled: true, refreshMinutes: { not: null } }` -/
def refreshable (row : ApplicationUserGroupRow Condition) : Bool :=
  row.group.enabled && row.group.refreshMinutes.isSome

/-- `orderBy: [{ time: "asc" }, { id: "asc" }]`; a null comes last. -/
def NullsLast (time : Option Int) (id : Nat) (time' : Option Int) (id' : Nat) : Prop :=
  match time, time' with
  | some s, some t => s < t ∨ s = t ∧ id < id'
  | some _, none => True
  | none, some _ => False
  | none, none => id < id'

def EvaluatedBefore (a b : ApplicationUserGroupRow Condition) : Prop :=
  NullsLast a.group.lastEvaluatedAt a.id b.group.lastEvaluatedAt b.id

instance : DecidableRel (@EvaluatedBefore Condition) := fun a b => by
  unfold EvaluatedBefore NullsLast
  split <;> infer_instance

/-- `findMany` -/
def refreshCandidates (table : UserGroupTable Condition) : List (ApplicationUserGroupRow Condition) :=
  (table.rows.filter refreshable).insertionSort fun a b => ¬EvaluatedBefore b a

/-- The filter on what was read. -/
def intervalElapsed (now : Timestamp) (row : ApplicationUserGroupRow Condition) : Bool :=
  row.group.refreshMinutes.any fun minutes =>
    row.group.lastEvaluatedAt.all fun last => last + minutes * 60000 ≤ now

def dueGroups (table : UserGroupTable Condition) (limit : Nat) (now : Timestamp) :
    List (ApplicationUserGroupRow Condition) :=
  selection (max (limit * 4) limit) limit (intervalElapsed now) (refreshCandidates table)

structure UserGroupRefreshOutcome where
  due : Nat
  refreshed : Nat
  failed : Nat
  deriving DecidableEq, Repr

/-- A group whose lock another worker holds is passed over. -/
def refreshDue (table : UserGroupTable Condition) (limit : Nat) (now : Timestamp)
    (locked refresh : ApplicationUserGroupRow Condition → Bool) : UserGroupRefreshOutcome :=
  let due := dueGroups table limit now
  let attempted := due.filter locked
  { due := due.length
    refreshed := attempted.countP refresh
    failed := attempted.countP fun row => !refresh row }

/-! ## The order of the candidates -/

variable {table : UserGroupTable Condition} {limit : Nat} {now : Timestamp} {row : ApplicationUserGroupRow Condition}

theorem NullsLast.asymm {s t : Option Int} {i j : Nat} (h : NullsLast s i t j) : ¬NullsLast t j s i := by
  unfold NullsLast at h ⊢
  cases s <;> cases t <;> simp only [not_false_eq_true] at h ⊢ <;> omega

/-- A third group stands after the first of two or before the second. -/
theorem NullsLast.between {s t u : Option Int} {i j k : Nat} (h : NullsLast s i t j) :
    NullsLast s i u k ∨ NullsLast u k t j := by
  unfold NullsLast at h ⊢
  cases s <;> cases t <;> cases u <;> simp only [true_or, or_true, or_false] at h ⊢ <;> omega

theorem NullsLast.total {s t : Option Int} {i j : Nat} (h : i ≠ j) : NullsLast s i t j ∨ NullsLast t j s i := by
  unfold NullsLast
  cases s <;> cases t <;> simp only [true_or, or_true] <;> omega

theorem mem_refreshCandidates : row ∈ refreshCandidates table ↔ row ∈ table.rows ∧ refreshable row = true := by
  rw [refreshCandidates, List.mem_insertionSort, List.mem_filter]

theorem perm_refreshCandidates : (refreshCandidates table).Perm (table.rows.filter refreshable) :=
  List.perm_insertionSort _ _

/-- No two groups share their place, since their ids differ. -/
theorem refreshCandidates_ordered (table : UserGroupTable Condition) :
    (refreshCandidates table).Pairwise EvaluatedBefore := by
  have htotal : Std.Total fun a b : ApplicationUserGroupRow Condition => ¬EvaluatedBefore b a := by
    refine ⟨fun a b => ?_⟩
    by_cases h : EvaluatedBefore b a
    · exact .inr h.asymm
    · exact .inl h
  have htrans : IsTrans (ApplicationUserGroupRow Condition) fun a b => ¬EvaluatedBefore b a := by
    refine ⟨fun a b c hab hbc hca => ?_⟩
    rcases NullsLast.between hca with h | h
    · exact hbc h
    · exact hab h
  have hsorted : (refreshCandidates table).Pairwise fun a b => ¬EvaluatedBefore b a :=
    List.pairwise_insertionSort _ _
  have hids : (refreshCandidates table).Pairwise fun a b => a.id ≠ b.id := by
    have hrows : table.rows.Pairwise fun a b => a.id ≠ b.id := List.pairwise_map.mp table.ids_nodup
    exact (perm_refreshCandidates.pairwise_iff fun h => h.symm).mpr (hrows.filter refreshable)
  exact (hsorted.and hids).imp fun h => (NullsLast.total h.2).resolve_right h.1

theorem due_refreshable : due row.group now = (refreshable row && intervalElapsed now row) := by
  unfold due refreshable intervalElapsed
  cases row.group.refreshMinutes <;> simp

/-! ## Which groups are taken -/

/-- The groups of a kind before `row`. -/
def countBefore (table : UserGroupTable Condition) (kind : ApplicationUserGroupRow Condition → Bool)
    (row : ApplicationUserGroupRow Condition) : Nat :=
  table.rows.countP fun other => kind other && decide (EvaluatedBefore other row)

theorem countP_refreshCandidates (kind : ApplicationUserGroupRow Condition → Bool) :
    (refreshCandidates table).countP kind = table.rows.countP fun other => refreshable other && kind other := by
  rw [perm_refreshCandidates.countP_eq kind, List.countP_filter]
  exact List.countP_congr fun other _ => by rw [Bool.and_comm]

/-- The counts before a candidate in the list are those over the table. -/
theorem split_counts {before after : List (ApplicationUserGroupRow Condition)}
    (hsplit : refreshCandidates table = before ++ row :: after) :
    before.countP (intervalElapsed now) = countBefore table (fun other => due other.group now) row ∧
      before.length = countBefore table refreshable row := by
  have hordered := refreshCandidates_ordered table
  have hasymm : ∀ a b : ApplicationUserGroupRow Condition, EvaluatedBefore a b → ¬EvaluatedBefore b a :=
    fun _ _ h => h.asymm
  rw [hsplit] at hordered
  constructor
  · rw [← countP_before hordered hasymm, ← hsplit, countP_refreshCandidates, countBefore]
    refine List.countP_congr fun other _ => ?_
    rw [due_refreshable, Bool.and_assoc]
  · rw [← countP_place hordered hasymm, ← hsplit, countP_refreshCandidates, countBefore]

/-- A due group is taken if and only if few enough groups stand before it. -/
theorem mem_dueGroups (table : UserGroupTable Condition) (limit : Nat) (now : Timestamp)
    (row : ApplicationUserGroupRow Condition) :
    row ∈ dueGroups table limit now ↔
      row ∈ table.rows ∧ due row.group now = true ∧
        countBefore table (fun other => due other.group now) row < limit ∧
        countBefore table refreshable row < limit * 4 := by
  have hlimit : max (limit * 4) limit = limit * 4 := by omega
  rw [dueGroups, mem_selection, hlimit, due_refreshable]
  constructor
  · rintro ⟨before, after, hsplit, helapsed, hdue, hplace⟩
    obtain ⟨hcount, hlength⟩ := @split_counts _ _ now _ _ _ hsplit
    obtain ⟨hrow, hrefreshable⟩ := mem_refreshCandidates.mp
      (hsplit ▸ List.mem_append_right before (List.mem_cons_self ..))
    exact ⟨hrow, by rw [hrefreshable, helapsed]; rfl, hcount ▸ hdue, hlength ▸ hplace⟩
  · rintro ⟨hrow, hboth, hdue, hplace⟩
    obtain ⟨hrefreshable, helapsed⟩ := Bool.and_eq_true_iff.mp hboth
    obtain ⟨before, after, hsplit⟩ := List.append_of_mem (mem_refreshCandidates.mpr ⟨hrow, hrefreshable⟩)
    obtain ⟨hcount, hlength⟩ := @split_counts _ _ now _ _ _ hsplit
    exact ⟨before, after, hsplit, helapsed, hcount ▸ hdue, hlength ▸ hplace⟩

theorem dueGroups_nodup (table : UserGroupTable Condition) (limit : Nat) (now : Timestamp) :
    (dueGroups table limit now).Nodup := by
  have hrows : table.rows.Nodup := List.Nodup.of_map _ table.ids_nodup
  exact selection_nodup (perm_refreshCandidates.nodup_iff.mpr (hrows.filter refreshable))

/-- Four times `limit` groups before a group keep it out of every pass, due or not. -/
theorem never_reached (h : limit * 4 ≤ countBefore table refreshable row) (now : Timestamp) :
    row ∉ dueGroups table limit now := by
  intro hrow
  have hplace := ((mem_dueGroups table limit now row).mp hrow).2.2.2
  omega

/-- Every due group that `limit` leaves room for is among those that are read. -/
def DueWithinReach (table : UserGroupTable Condition) (limit : Nat) (now : Timestamp) : Prop :=
  ∀ row ∈ table.rows, due row.group now = true →
    countBefore table (fun other => due other.group now) row < limit → countBefore table refreshable row < limit * 4

/-- A pass takes as many due groups as there are, up to `limit`, and no others. -/
theorem dueGroups_complete_iff (table : UserGroupTable Condition) (limit : Nat) (now : Timestamp)
    (locked refresh : ApplicationUserGroupRow Condition → Bool) :
    ((refreshDue table limit now locked refresh).due = min limit (table.rows.countP fun row => due row.group now) ∧
        (dueGroups table limit now).Nodup ∧ ∀ row ∈ dueGroups table limit now, row ∈ table.rows ∧ due row.group now = true) ↔
      DueWithinReach table limit now := by
  have hdue : table.rows.countP (fun row => due row.group now) =
      (refreshCandidates table).countP (intervalElapsed now) := by
    rw [countP_refreshCandidates]
    exact List.countP_congr fun row _ => by rw [due_refreshable]
  have hall : ∀ row ∈ dueGroups table limit now, row ∈ table.rows ∧ due row.group now = true := by
    intro row hrow
    obtain ⟨hmem, hdue, -⟩ := (mem_dueGroups table limit now row).mp hrow
    exact ⟨hmem, hdue⟩
  have hlength : (dueGroups table limit now).length =
      min limit (table.rows.countP fun row => due row.group now) ↔ DueWithinReach table limit now := by
    rw [hdue, dueGroups, selection_length_iff]
    constructor
    · intro h row hrow hboth hroom
      rw [due_refreshable] at hboth
      obtain ⟨hrefreshable, helapsed⟩ := Bool.and_eq_true_iff.mp hboth
      obtain ⟨before, after, hsplit⟩ := List.append_of_mem (mem_refreshCandidates.mpr ⟨hrow, hrefreshable⟩)
      obtain ⟨hcount, hplace⟩ := @split_counts _ _ now _ _ _ hsplit
      have := h before row after hsplit helapsed (hcount ▸ hroom)
      omega
    · intro h before row after hsplit helapsed hroom
      obtain ⟨hrow, hrefreshable⟩ := mem_refreshCandidates.mp
        (hsplit ▸ List.mem_append_right before (List.mem_cons_self ..))
      obtain ⟨hcount, hplace⟩ := @split_counts _ _ now _ _ _ hsplit
      have := h row hrow (by rw [due_refreshable, hrefreshable, helapsed]; rfl) (hcount ▸ hroom)
      omega
  constructor
  · rintro ⟨hcount, -⟩
    exact hlength.mp hcount
  · intro h
    exact ⟨hlength.mpr h, dueGroups_nodup table limit now, hall⟩

/-! ## A group that is never reached -/

def groupRow (id : Uuid) (minutes : Nat) (last : Option Timestamp) : ApplicationUserGroupRow Nat :=
  ⟨id, 0, ⟨⟨.all, []⟩, 1, some minutes, true, last⟩⟩

/-- Two hundred groups of a week's interval, all evaluated at one time, and one never evaluated. -/
def weekly : UserGroupTable Nat where
  rows := (List.range 201).map fun id => groupRow id (if id < 200 then 10080 else 5) (if id < 200 then some 0 else none)
  ids_nodup := by
    rw [List.map_map]
    exact (List.map_id (List.range 201)).symm ▸ List.nodup_range

/-- The one due group is left out of a pass of fifty. -/
theorem weekly_starved :
    ∃ limit > 0, ∃ now, (refreshDue weekly limit now (fun _ => true) fun _ => true).due ≠
      min limit (weekly.rows.countP fun row => due row.group now) :=
  ⟨50, by decide, 60000, by decide +kernel⟩

end TokenPilot.Management
