/-
  TokenPilot.Quota.LedgerReplay — the ledger against the balance, and the
  reconciliation operation `rebuildQuota` (apps/worker/src/reconciliation/
  operation-executor.ts).

  Every move writes one entry with what it added and what the counters are after it, so
  in every reachable store the deltas of a quota's entries add up to its counters, and
  the entry written last carries them and the limit (`Replays`, `reachable_replays`).

  `rebuildQuota` sets each quota from its entry with the greatest `created_at`, and among
  equal ones the greatest id. That is the entry written last when each entry is stamped
  after its quota's earlier ones (`InOrder`), and need not be otherwise: a `create` that
  materializes a policy and reserves writes two entries in one transaction, with one
  `created_at` and random ids (`rebuild_forgets_the_reservation`).

  Main result: `rebuild_keeps_balances_in_order`.
-/

import TokenPilot.Library.Journal
import TokenPilot.Quota.Outcomes

namespace TokenPilot.Quota

open TokenPilot.Library

/-! ## The reconciliation operation -/

/-- `ORDER BY created_at DESC, id DESC`. -/
def Newer (a b : UserAiuLedgerEntry) : Prop :=
  b.createdAt < a.createdAt ∨ (a.createdAt = b.createdAt ∧ b.id ≤ a.id)

instance : DecidableRel Newer := fun _ _ => inferInstanceAs (Decidable (_ ∨ _))

instance : Std.Total Newer where
  total a b := by
    rcases Int.lt_trichotomy a.createdAt b.createdAt with h | h | h
    · exact Or.inr (Or.inl h)
    · rcases Nat.le_total a.id b.id with h' | h'
      · exact Or.inr (Or.inr ⟨h.symm, h'⟩)
      · exact Or.inl (Or.inr ⟨h, h'⟩)
    · exact Or.inl (Or.inl h)

instance : IsTrans UserAiuLedgerEntry Newer where
  trans a b c := by
    rintro (h | ⟨h, hid⟩) (h' | ⟨h', hid'⟩)
    · exact Or.inl (Int.lt_trans h' h)
    · exact Or.inl (h' ▸ h)
    · exact Or.inl (h ▸ h')
    · exact Or.inr ⟨h.trans h', Nat.le_trans hid' hid⟩

/-- The `latest` entry of a quota. -/
def latest (s : QuotaStore) (applicationId quotaId : Uuid) : Option UserAiuLedgerEntry :=
  ((s.ledger.rows.filter fun e => e.applicationId == applicationId && e.quotaId == quotaId).insertionSort Newer).head?

/-- The quota with the balances of its latest entry. -/
def rebuilt (s : QuotaStore) (applicationId : Uuid) (q : UserAiuQuota) : UserAiuQuota :=
  match latest s applicationId q.id with
  | none => q
  | some e => { q with
    consumedAiuMicros := e.consumedAfterMicros
    reservedAiuMicros := e.reservedAfterMicros
    limitAiuMicros := e.limitAfterMicros }

def rebuildQuota (s : QuotaStore) (applicationId : Uuid) : Except Failure (QuotaStore × Nat) :=
  s.updateQuotas (fun q => q.applicationId == applicationId && (latest s applicationId q.id).isSome)
    (rebuilt s applicationId)

/-! ## The ledger replays the balance -/

/-- The entry's balances are the quota's. -/
def UserAiuLedgerEntry.Carries (e : UserAiuLedgerEntry) (q : UserAiuQuota) : Prop :=
  e.consumedAfterMicros = q.consumedAiuMicros ∧ e.reservedAfterMicros = q.reservedAiuMicros ∧
    e.limitAfterMicros = q.limitAiuMicros

/-- The entries of a quota, as they were written. -/
def entriesOf (l : List UserAiuLedgerEntry) (quotaId : Uuid) : List UserAiuLedgerEntry :=
  l.filter fun e => e.quotaId == quotaId

structure ReplaysQuota (l : List UserAiuLedgerEntry) (q : UserAiuQuota) : Prop where
  consumed : sumOf (fun e => e.quotaId == q.id) (·.consumedDeltaMicros) l = q.consumedAiuMicros
  reserved : sumOf (fun e => e.quotaId == q.id) (·.reservedDeltaMicros) l = q.reservedAiuMicros
  last : ∃ e, (entriesOf l q.id).getLast? = some e ∧ e.Carries q

def Replays (s : QuotaStore) : Prop := ∀ q ∈ s.quotas.rows, ReplaysQuota s.ledger.rows q

theorem entriesOf_snoc (l : List UserAiuLedgerEntry) (e : UserAiuLedgerEntry) (quotaId : Uuid) :
    entriesOf (l ++ [e]) quotaId = if e.quotaId = quotaId then entriesOf l quotaId ++ [e] else entriesOf l quotaId := by
  unfold entriesOf
  rw [List.filter_append]
  split
  · rename_i h
    rw [List.filter_cons_of_pos (by simp [h])]
    rfl
  · rename_i h
    rw [List.filter_cons_of_neg (by simp [h])]
    exact List.append_nil _

theorem Replays.move {m : Move} {s s' : QuotaStore} (hl : Linked s) (hr : Replays s) (h : m.Applies s s') :
    Replays s' := by
  intro x hx
  rw [h.ledger]
  rcases h.quota_iff.mp hx with rfl | ⟨hx, hne⟩
  · have hown : m.entry.quotaId = m.next.id := m.recorded.quotaId.trans m.same.1.symm
    -- what the entries before the move add up to
    have hbefore : sumOf (fun e => e.quotaId == m.next.id) (·.consumedDeltaMicros) s.ledger.rows =
          m.quota.consumedAiuMicros ∧
        sumOf (fun e => e.quotaId == m.next.id) (·.reservedDeltaMicros) s.ledger.rows = m.quota.reservedAiuMicros := by
      rw [m.same.1]
      by_cases hc : m.change = .grant
      · have hg := h.guard
        rw [hc] at hg
        have hnone : ∀ e ∈ s.ledger.rows, ¬ (e.quotaId == m.quota.id) = true := by
          intro e he hid
          obtain ⟨q, hq, hqid, -⟩ := hl.entry e he
          have hfresh := hg.1 q hq
          rw [beq_iff_eq] at hid
          simp [Row.clash, ← hqid, hid] at hfresh
        exact ⟨(sumOf_eq_zero fun e he hid => absurd hid (hnone e he)).trans hg.2.1.symm,
          (sumOf_eq_zero fun e he hid => absurd hid (hnone e he)).trans hg.2.2.symm⟩
      · obtain ⟨hcon, hres, -⟩ := hr m.quota (h.guard.mem hc)
        exact ⟨hcon, hres⟩
    refine ⟨?_, ?_, m.entry, ?_, m.recorded.consumedAfter, m.recorded.reservedAfter, m.recorded.limitAfter⟩
    · rw [sumOf_snoc, hbefore.1, if_pos (by simp [hown]), m.recorded.consumedDelta]
      omega
    · rw [sumOf_snoc, hbefore.2, if_pos (by simp [hown]), m.recorded.reservedDelta]
      omega
    · rw [entriesOf_snoc, if_pos hown, List.getLast?_concat]
  · have hother : m.entry.quotaId ≠ x.id := by rw [m.recorded.quotaId]; exact Ne.symm hne
    obtain ⟨hcon, hres, hlast⟩ := hr x hx
    refine ⟨?_, ?_, ?_⟩
    · rw [sumOf_snoc, if_neg (by simp [hother]), Int.add_zero, hcon]
    · rw [sumOf_snoc, if_neg (by simp [hother]), Int.add_zero, hres]
    · rw [entriesOf_snoc, if_neg hother]
      exact hlast

variable {settings : ReservationSettings}

theorem reachable_replays {s : QuotaStore} (h : Reachable settings s) : Replays s :=
  (reachable_invariant (P := Replays) (by simp [Replays, QuotaStore.empty, Table.empty])
    (fun _ _ hs hr => by unfold Replays; rw [hs.quotas, hs.ledger]; exact hr)
    (fun _ _ _ hl hr ha => hr.move hl ha) h).2

/-! ## What the rebuild selects -/

theorem latest_eq {s : QuotaStore} (hl : Linked s) {q : UserAiuQuota} (hq : q ∈ s.quotas.rows) :
    latest s q.applicationId q.id = ((entriesOf s.ledger.rows q.id).insertionSort Newer).head? := by
  unfold latest entriesOf
  congr 2
  refine List.filter_congr ?_
  intro e he
  obtain ⟨q', hq', hid, ha⟩ := hl.entry e he
  rw [Bool.eq_iff_iff]
  simp only [Bool.and_eq_true, beq_iff_eq, and_iff_right_iff_imp]
  intro heq
  rw [ha, QuotaStore.quota_eq_of_id hq' hq (hid.symm.trans heq)]

/-- Each entry is stamped after the earlier ones of its quota. -/
def InOrder (l : List UserAiuLedgerEntry) : Prop :=
  l.Pairwise fun a b => a.quotaId = b.quotaId → ¬ Newer a b

instance (l : List UserAiuLedgerEntry) : Decidable (InOrder l) := inferInstanceAs (Decidable (List.Pairwise _ l))

/-- Stamped in order, the entry the rebuild selects is the one written last. -/
theorem InOrder.first {l : List UserAiuLedgerEntry} (h : InOrder l) {quotaId : Uuid} {e : UserAiuLedgerEntry}
    (he : (entriesOf l quotaId).getLast? = some e) : ((entriesOf l quotaId).insertionSort Newer).head? = some e := by
  obtain ⟨before, hsplit⟩ := List.getLast?_eq_some_iff.mp he
  have hown : ∀ x ∈ entriesOf l quotaId, x.quotaId = quotaId := by
    intro x hx
    simpa using (List.mem_filter.mp hx).2
  have hpair : (entriesOf l quotaId).Pairwise fun a b => a.quotaId = b.quotaId → ¬ Newer a b := h.filter _
  rw [hsplit] at hown hpair ⊢
  rw [List.pairwise_append] at hpair
  refine first_sorted (by simp) ?_
  intro y hy hne
  have hy' : y ∈ before := by
    rcases List.mem_append.mp hy with hy | hy
    · exact hy
    · exact absurd (List.mem_singleton.mp hy) hne
  exact hpair.2.2 y hy' e (List.mem_singleton.mpr rfl) ((hown y hy).trans (hown e (by simp)).symm)

/-! ## The rebuild -/

def UserAiuQuota.balances (q : UserAiuQuota) : Uuid × Int × Int × Int :=
  (q.id, q.consumedAiuMicros, q.reservedAiuMicros, q.limitAiuMicros)

/-- A rebuild from entries that carry the balances changes none. -/
theorem rebuild_keeps {s : QuotaStore}
    (h : ∀ q ∈ s.quotas.rows, ∃ e, latest s q.applicationId q.id = some e ∧ e.Carries q) (applicationId : Uuid) :
    ∃ s' n, rebuildQuota s applicationId = .ok (s', n) ∧
      s'.quotas.rows.map (·.balances) = s.quotas.rows.map (·.balances) := by
  have hsame : ∀ q ∈ s.quotas.rows, q.applicationId = applicationId → rebuilt s applicationId q = q := by
    intro q hq ha
    obtain ⟨e, he, hcon, hres, hlim⟩ := h q hq
    rw [ha] at he
    simp only [rebuilt, he, hcon, hres, hlim]
  obtain ⟨quotas, hu, hrows⟩ := Table.updateMany_of (t := s.quotas)
    (p := fun q => q.applicationId == applicationId && (latest s applicationId q.id).isSome)
    (f := (·.written (rebuilt s applicationId))) (fun _ _ => rfl) (fun q hq hp => by
      simp only [Bool.and_eq_true, beq_iff_eq] at hp
      have heq := hsame q hq hp.1
      refine quota_accepted hq ?_ ?_
      · simp only [UserAiuQuota.written, heq, and_self]
      · simpa only [UserAiuQuota.written, heq] using QuotaStore.quota_counters hq)
  refine ⟨{ s with quotas }, s.quotas.rows.countP _, bind_of (by rw [hu]; rfl) rfl, ?_⟩
  rw [hrows, List.map_map]
  refine List.map_congr_left ?_
  intro q hq
  simp only [Function.comp_apply, Table.rewrite]
  split
  · rename_i hp
    simp only [Bool.and_eq_true, beq_iff_eq] at hp
    simp only [UserAiuQuota.balances, UserAiuQuota.written, hsame q hq hp.1]
  · rfl

/-- In every run that stamps each ledger entry after the earlier ones of its quota: the
    deltas add up to the counters, the entry the rebuild selects carries them and the
    limit, and a rebuild changes no quota's counters or limit. -/
theorem rebuild_keeps_balances_in_order (settings : ReservationSettings) (ops : List Op)
    (h : (system settings).Guarded (fun s op => InOrder ((system settings).step s op).ledger.rows) .empty ops) :
    let s := (system settings).run .empty ops
    (∀ q ∈ s.quotas.rows,
      sumOf (fun e => e.quotaId == q.id) (·.consumedDeltaMicros) s.ledger.rows = q.consumedAiuMicros ∧
      sumOf (fun e => e.quotaId == q.id) (·.reservedDeltaMicros) s.ledger.rows = q.reservedAiuMicros ∧
      ∃ e, latest s q.applicationId q.id = some e ∧ e.Carries q) ∧
    ∀ applicationId, ∃ s' n, rebuildQuota s applicationId = .ok (s', n) ∧
      s'.quotas.rows.map (·.balances) = s.quotas.rows.map (·.balances) := by
  intro s
  have hreach : Reachable settings s := ⟨ops, rfl⟩
  have hreplays := reachable_replays hreach
  have horder : InOrder s.ledger.rows :=
    Machine.guarded_invariant (P := fun s : QuotaStore => InOrder s.ledger.rows)
      (fun s op answer s' _ hord hexec => by rwa [(system settings).step_of_ok hexec] at hord) ops .empty
      List.Pairwise.nil h
  have hlatest : ∀ q ∈ s.quotas.rows, ∃ e, latest s q.applicationId q.id = some e ∧ e.Carries q := by
    intro q hq
    obtain ⟨e, he, hcarries⟩ := (hreplays q hq).last
    exact ⟨e, (latest_eq (reachable_linked hreach) hq).trans (horder.first he), hcarries⟩
  exact ⟨fun q hq => ⟨(hreplays q hq).consumed, (hreplays q hq).reserved, hlatest q hq⟩, rebuild_keeps hlatest⟩

open Sample in
/-- Save, reserve, settle, each stamped later than the one before. -/
theorem rebuild_keeps_the_settlement :
    let s := (system service).run .empty spent
    (∀ q ∈ s.quotas.rows,
      sumOf (fun e => e.quotaId == q.id) (·.consumedDeltaMicros) s.ledger.rows = q.consumedAiuMicros ∧
      sumOf (fun e => e.quotaId == q.id) (·.reservedDeltaMicros) s.ledger.rows = q.reservedAiuMicros ∧
      ∃ e, latest s q.applicationId q.id = some e ∧ e.Carries q) ∧
    ∀ applicationId, ∃ s' n, rebuildQuota s applicationId = .ok (s', n) ∧
      s'.quotas.rows.map (·.balances) = s.quotas.rows.map (·.balances) :=
  rebuild_keeps_balances_in_order service spent (by decide +kernel)

open Sample in
/-- A first call under an application policy grants the quota and reserves 5 in one
    transaction. With one `created_at` and the grant's id the greater, the rebuild takes
    the reserved counter from the grant. -/
theorem rebuild_forgets_the_reservation :
    let s := (system service).run .empty [.configure users policies [], .create { createCall 7 "call-1" 5 1000 with
      policyIds := ⟨2, 207, ⟨999, 1000⟩⟩ }]
    s.ledger.rows.map (fun e => (e.entryType, e.id, e.createdAt)) = [(.grant, 999, 1000), (.reserve, 407, 1000)] ∧
    s.quotas.rows.map (·.reservedAiuMicros) = [5] ∧
    (rebuildQuota s 0).toOption.map (fun r => r.1.quotas.rows.map (·.reservedAiuMicros)) = some [0] := by
  decide +kernel

end TokenPilot.Quota
