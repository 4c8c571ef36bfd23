/-
  TokenPilot.Quota.ReservedBalance — a quota's reserved counter is the sum of its open
  reservations.

  The counter moves by increment, by decrement and by overwrite, and reservations are
  closed one by one or in bulk by user or by quota. `Change.openReserved_own` says that
  each change moves the sum of its own quota's open reservations as it moves the
  counter, `Change.openReserved_other` that it moves no other quota's. The invariant
  (`ReservedBalance`) follows for one move (`ReservedBalance.move`) and for every
  reachable store (`reachable_reservedBalance`).

  Main result: `reserved_is_sum_of_open_reservations`, with what the sweeper relies on:
  its "reserved balance is inconsistent" is never thrown.
-/

import TokenPilot.Quota.Effects

namespace TokenPilot.Quota

open TokenPilot.Library

/-- The amount of the reservations of the quota that are RESERVED. -/
def openReserved (l : List UserAiuReservation) (q : UserAiuQuota) : Int :=
  sumOf (fun r => r.quotaId == q.id && r.status == .reserved) (·.reservedAiuMicros) l

def ReservedBalance (s : QuotaStore) : Prop :=
  ∀ q ∈ s.quotas.rows, q.reservedAiuMicros = openReserved s.reservations.rows q

theorem openReserved_congr {l : List UserAiuReservation} {q q' : UserAiuQuota} (h : q.id = q'.id) :
    openReserved l q = openReserved l q' := by
  unfold openReserved
  rw [h]

/-- What a reservation adds to the sum of a quota. -/
def openShare (q : UserAiuQuota) (r : UserAiuReservation) : Int :=
  if r.quotaId == q.id && r.status == .reserved then r.reservedAiuMicros else 0

theorem openReserved_replace {s : QuotaStore} {r r' : UserAiuReservation} {q : UserAiuQuota}
    (hr : r ∈ s.reservations.rows) :
    openReserved (replace r r' s.reservations.rows) q =
      openReserved s.reservations.rows q - openShare q r + openShare q r' :=
  sumOf_replace s.reservations.nodup hr

/-- A reservation that is not open takes no part in any sum. -/
theorem openShare_closed {q : UserAiuQuota} {r : UserAiuReservation} (h : r.status ≠ .reserved) : openShare q r = 0 := by
  unfold openShare
  rw [beq_false_of_ne h, Bool.and_false]
  rfl

theorem openShare_open {q : UserAiuQuota} {r : UserAiuReservation} (hid : r.quotaId = q.id)
    (h : r.status = .reserved) : openShare q r = r.reservedAiuMicros := by
  simp [openShare, hid, h]

theorem openShare_other {q : UserAiuQuota} {r : UserAiuReservation} (hid : r.quotaId ≠ q.id) : openShare q r = 0 := by
  simp [openShare, hid]

section Change

variable {s : QuotaStore} {q x : UserAiuQuota} {c : Change}

/-- Closing everything open of a quota leaves it nothing. -/
theorem openReserved_closeAll {status : AiuReservationStatus} (hst : status ≠ .reserved) :
    openReserved (s.reservations.rows.map
      (Table.rewrite (Change.isOpenOf q) fun r => r.written (status, r.settledAiuMicros))) q = 0 := by
  refine sumOf_eq_zero ?_
  intro r' hr' hp
  obtain ⟨r, -, rfl⟩ := List.mem_map.mp hr'
  unfold Table.rewrite at hp
  split at hp
  · simp only [UserAiuReservation.written, Bool.and_eq_true, beq_iff_eq] at hp
    exact absurd hp.2 hst
  · rename_i hopen
    exact absurd hp hopen

theorem Change.openReserved_own (hg : c.Guard s q) (hc : c ≠ .grant)
    (hbal : q.reservedAiuMicros = openReserved s.reservations.rows q) :
    c.reserved q.reservedAiuMicros = openReserved (c.reservations q s.reservations.rows) q := by
  cases c with
  | grant => exact absurd rfl hc
  | settings => exact hbal
  | renew closed =>
    obtain ⟨-, hnone, hsome⟩ := hg
    cases closed with
    | none => exact (hnone rfl).symm.trans hbal
    | some status =>
      refine (openReserved_closeAll ?_).symm
      rcases hsome status rfl with rfl | rfl <;> decide
  | reserve r =>
    obtain ⟨-, -, hof, hst, -⟩ := hg
    have hsnoc : openReserved (s.reservations.rows ++ [r]) q = openReserved s.reservations.rows q + openShare q r :=
      sumOf_snoc _ _ _ _
    rw [Change.reservations, hsnoc, openShare_open hof.1 hst, ← hbal]
    rfl
  | close r status =>
    obtain ⟨-, hr, hof, hst, hclosed⟩ := hg
    have hne : (r.written (status, r.settledAiuMicros)).status ≠ .reserved := by
      rcases hclosed with rfl | rfl <;> simp [UserAiuReservation.written]
    rw [Change.reservations, openReserved_replace hr, openShare_open hof.1 hst, openShare_closed hne, ← hbal,
      Int.add_zero]
    rfl
  | settle r amount event =>
    obtain ⟨-, hr, hof, hst, -⟩ := hg
    rw [Change.reservations, openReserved_replace hr, openShare_open hof.1 hst,
      openShare_closed (by simp [UserAiuReservation.written]), ← hbal, Int.add_zero]
    rfl
  | reconcile r amount event =>
    obtain ⟨-, hr, -, hst, -⟩ := hg
    rw [Change.reservations, openReserved_replace hr, openShare_closed (by rw [hst]; decide),
      openShare_closed (by simp [UserAiuReservation.written]), ← hbal, Int.sub_zero, Int.add_zero]
    rfl
  | consume amount event => exact hbal

theorem Change.openReserved_other (hg : c.Guard s q) (hne : x.id ≠ q.id) :
    openReserved (c.reservations q s.reservations.rows) x = openReserved s.reservations.rows x := by
  have hone : ∀ {r : UserAiuReservation} {data}, r ∈ s.reservations.rows → r.quotaId = q.id →
      openReserved (replace r (r.written data) s.reservations.rows) x = openReserved s.reservations.rows x := by
    intro r data hr hid
    have hx : r.quotaId ≠ x.id := by rw [hid]; exact Ne.symm hne
    rw [openReserved_replace hr, openShare_other hx, openShare_other (r := r.written data) hx, Int.sub_zero, Int.add_zero]
  cases c with
  | renew closed =>
    cases closed with
    | none => rfl
    | some status =>
      refine sumOf_map_congr ?_
      intro r _
      unfold Table.rewrite Change.isOpenOf
      by_cases hid : r.quotaId = q.id
      · have hx : r.quotaId ≠ x.id := by rw [hid]; exact Ne.symm hne
        split <;> simp [UserAiuReservation.written, hx]
      · simp [hid]
  | reserve r =>
    obtain ⟨-, -, hof, -⟩ := hg
    have hx : r.quotaId ≠ x.id := by rw [hof.1]; exact Ne.symm hne
    have hsnoc : openReserved (s.reservations.rows ++ [r]) x = openReserved s.reservations.rows x + openShare x r :=
      sumOf_snoc _ _ _ _
    rw [Change.reservations, hsnoc, openShare_other hx, Int.add_zero]
  | close r status => exact hone hg.2.1 hg.2.2.1.1
  | settle r amount event => exact hone hg.2.1 hg.2.2.1.1
  | reconcile r amount event => exact hone hg.2.1 hg.2.2.1.1
  | _ => rfl

end Change

/-! ## The invariant -/

theorem ReservedBalance.move {m : Move} {s s' : QuotaStore} (hl : Linked s) (hbal : ReservedBalance s)
    (h : m.Applies s s') : ReservedBalance s' := by
  intro x hx
  rw [h.reservations]
  rcases h.quota_iff.mp hx with rfl | ⟨hx, hne⟩
  · rw [m.reserved, openReserved_congr m.same.1]
    by_cases hc : m.change = .grant
    · -- a quota that was not there has no reservations yet
      have hg := h.guard
      rw [hc] at hg ⊢
      refine hg.2.2.trans (Eq.symm (sumOf_eq_zero fun r hr hp => ?_))
      obtain ⟨q, hq, hof⟩ := hl.reservation r hr
      have hfresh := hg.1 q hq
      simp only [Bool.and_eq_true, beq_iff_eq] at hp
      simp [Row.clash, ← hof.1, hp.1] at hfresh
    · exact Change.openReserved_own h.guard hc (hbal _ (h.guard.mem hc))
  · rw [Change.openReserved_other h.guard hne]
    exact hbal x hx

theorem ReservedBalance.same {s s' : QuotaStore} (h : SameRecords s s') (hbal : ReservedBalance s) :
    ReservedBalance s' := by
  unfold ReservedBalance
  rw [h.quotas, h.reservations]
  exact hbal

variable {settings : ReservationSettings}

theorem reachable_reservedBalance {s : QuotaStore} (h : Reachable settings s) : ReservedBalance s :=
  (reachable_invariant (P := ReservedBalance) (by simp [ReservedBalance, QuotaStore.empty, Table.empty])
    (fun _ _ => ReservedBalance.same) (fun _ _ _ => ReservedBalance.move) h).2

/-- An open reservation is at most what its quota has reserved. -/
theorem ReservedBalance.le {s : QuotaStore} (hbal : ReservedBalance s) {q : UserAiuQuota} (hq : q ∈ s.quotas.rows)
    {r : UserAiuReservation} (hr : r ∈ s.reservations.rows) (hid : r.quotaId = q.id) (hst : r.status = .reserved) :
    r.reservedAiuMicros ≤ q.reservedAiuMicros := by
  rw [hbal q hq]
  exact le_sumOf (fun x hx _ => (QuotaStore.reservation_amounts hx).2.1) hr (by simp [hid, hst])

/-- The sweeper's own check holds wherever the balance does. -/
theorem ReservedBalance.expire_consistent {s : QuotaStore} (hl : Linked s) (hbal : ReservedBalance s)
    (call : ExpireCall) : expire s call ≠ .error (.typeError "User AIU reserved balance is inconsistent") := by
  intro h
  unfold expire at h
  split at h
  · cases h
  rename_i row hrow
  split at h
  · cases h
  rename_i quota hquota
  obtain ⟨hmem, hp⟩ := Table.find?_mem hrow
  simp only [Bool.and_eq_true, beq_iff_eq, decide_eq_true_eq] at hp
  obtain ⟨hq, hof⟩ := hl.of_quotaById hmem hquota
  have hle := hbal.le hq hmem hof.1 hp.1.2
  -- the check holds, and the statements after it fail in other ways
  rcases bind_error h with h | ⟨_, -, h⟩
  · exact (require_error h).1 (by omega)
  rcases bind_error h with h | ⟨⟨s₁, n⟩, -, h⟩
  · obtain ⟨_, _, _, c, hc, _⟩ := QuotaStore.updateReservations_error h
    cases hc
  rcases bind_error h with h | ⟨⟨s₂, n₂⟩, -, h⟩
  · obtain ⟨_, _, _, c, hc, _⟩ := QuotaStore.updateQuotas_error h
    cases hc
  rcases bind_error h with h | ⟨_, -, h⟩
  · cases (require_error h).2
  rcases bind_error h with h | ⟨s₃, -, h⟩
  · rcases QuotaStore.insertLedgerEntry_error h with hc | ⟨c, hc, _⟩ <;> cases hc
  · cases h

/-- In every run, a quota has reserved exactly what its open reservations hold; so the
    counter is never negative and the sweeper never finds it inconsistent. -/
theorem reserved_is_sum_of_open_reservations (settings : ReservationSettings) (ops : List Op) :
    let s := (system settings).run .empty ops
    (∀ q ∈ s.quotas.rows, q.reservedAiuMicros = openReserved s.reservations.rows q ∧ 0 ≤ q.reservedAiuMicros) ∧
      ∀ call, expire s call ≠ .error (.typeError "User AIU reserved balance is inconsistent") := by
  intro s
  have hreach : Reachable settings s := ⟨ops, rfl⟩
  have hbal := reachable_reservedBalance hreach
  refine ⟨fun q hq => ⟨hbal q hq, ?_⟩, fun call => hbal.expire_consistent (reachable_linked hreach) call⟩
  rw [hbal q hq]
  exact sumOf_nonneg fun r hr _ => (QuotaStore.reservation_amounts hr).2.1

end TokenPilot.Quota
