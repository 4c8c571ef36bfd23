/-
  TokenPilot.Quota.ConsumedBalance — when the consumed counter stays nonnegative.

  The worker reconciles a settled reservation by adding (rated - settled) to the quota.
  The settled amount is on the reservation, the counter on the quota, and a rollover, a
  changed period or a reset sets the counter to zero without touching settled
  reservations. A rating below the settled amount then takes back what the counter no
  longer holds, and `user_aiu_quotas_counters_check` refuses the update
  (`late_rating_after_rollover_breaks_the_check`).

  `added` is what the ledger shows a reservation to have added to its quota since the
  quota was last renewed. The counter is the sum of what all sources added since then
  (`Explained`), so a worker that never takes back more than the reservation added
  (`TakesBackAdded`) never makes it negative.

  Main result: `counters_check_never_fails`. `Spares` follows the constraint through every
  statement of every operation.
-/

import TokenPilot.Library.Journal
import TokenPilot.Quota.ReservedBalance

namespace TokenPilot.Quota

open TokenPilot.Library

/-- The entry starts its quota from zero: it is for no reservation and no event, and
    nothing is consumed after it. -/
def UserAiuLedgerEntry.renews (e : UserAiuLedgerEntry) : Bool :=
  e.sourceReservationId.isNone && e.sourceEventId.isNone && e.consumedAfterMicros == 0

/-- The entries of a quota since it was last renewed. -/
def sinceRenewal (l : List UserAiuLedgerEntry) (quotaId : Uuid) : List UserAiuLedgerEntry :=
  since (fun e => e.quotaId == quotaId) (·.renews) l

/-- What a source (a reservation, or none) added to a quota since it was last renewed. -/
def addedBy (l : List UserAiuLedgerEntry) (quotaId : Uuid) (source : Option Uuid) : Int :=
  groupSum (·.sourceReservationId) (·.consumedDeltaMicros) source (sinceRenewal l quotaId)

def added (l : List UserAiuLedgerEntry) (r : UserAiuReservation) : Int := addedBy l r.quotaId (some r.id)

/-- The consumed counter is what was added since the last renewal, and no source took
    back more than it added. -/
def Explained (s : QuotaStore) : Prop :=
  ∀ q ∈ s.quotas.rows,
    q.consumedAiuMicros = sumOf (fun _ => true) (·.consumedDeltaMicros) (sinceRenewal s.ledger.rows q.id) ∧
    ∀ source, 0 ≤ addedBy s.ledger.rows q.id source

theorem Explained.added_le {s : QuotaStore} (h : Explained s) {q : UserAiuQuota} (hq : q ∈ s.quotas.rows)
    {r : UserAiuReservation} (hr : r.quotaId = q.id) : added s.ledger.rows r ≤ q.consumedAiuMicros := by
  obtain ⟨hsum, hgroups⟩ := h q hq
  rw [hsum, added, hr]
  exact group_le_sumOf _ hgroups _

/-! ## One move -/

/-- A move that takes back no more than its reservation added. -/
def Move.TakesBackAdded (m : Move) (s : QuotaStore) : Prop :=
  ∀ r amount event, m.change = .reconcile r amount event →
    r.settledAiuMicros - amount ≤ added s.ledger.rows r

/-- What the entry of a move that renews nothing adds is not below what its source had. -/
theorem Move.Applies.delta_ge {m : Move} {s s' : QuotaStore} (h : m.Applies s s') (hex : Explained s)
    (hc : m.change ≠ .grant) (hne : ¬ m.entry.renews = true) (hback : m.TakesBackAdded s) :
    0 ≤ addedBy s.ledger.rows m.quota.id m.entry.sourceReservationId + m.entry.consumedDeltaMicros := by
  have hg := h.guard
  have hsrc := (hex m.quota (hg.mem hc)).2
  rw [m.recorded.consumedDelta, m.consumed]
  have hzero : m.change.consumed m.quota.consumedAiuMicros = m.quota.consumedAiuMicros →
      0 ≤ addedBy s.ledger.rows m.quota.id m.entry.sourceReservationId +
        (m.change.consumed m.quota.consumedAiuMicros - m.quota.consumedAiuMicros) := by
    intro heq
    have := hsrc m.entry.sourceReservationId
    omega
  cases hm : m.change with
  | grant => exact absurd hm hc
  | settings => rw [hm] at hzero; exact hzero rfl
  | renew closed =>
    refine absurd ?_ hne
    simp [UserAiuLedgerEntry.renews, m.recorded.sourceReservationId, m.recorded.sourceEventId, m.recorded.consumedAfter,
      m.consumed, hm, Change.consumed, Change.sourceReservationId, Change.sourceEventId]
  | reserve r => rw [hm] at hzero; exact hzero rfl
  | close r status => rw [hm] at hzero; exact hzero rfl
  | settle r amount event =>
    rw [hm] at hg
    have := hsrc m.entry.sourceReservationId
    have hamount := hg.2.2.2.2
    simp only [Change.consumed]
    omega
  | reconcile r amount event =>
    rw [hm] at hg
    have hle := hback r amount event hm
    have hsource : m.entry.sourceReservationId = some r.id := by rw [m.recorded.sourceReservationId, hm]; rfl
    rw [hsource, ← hg.2.2.1.1]
    simp only [Change.consumed]
    unfold added at hle
    omega
  | consume amount event =>
    rw [hm] at hg
    have := hsrc m.entry.sourceReservationId
    have hamount := hg.2.2
    simp only [Change.consumed]
    omega

theorem Explained.move {m : Move} {s s' : QuotaStore} (hex : Explained s) (hback : m.TakesBackAdded s)
    (h : m.Applies s s') : Explained s' := by
  intro x hx
  unfold addedBy sinceRenewal
  rw [h.ledger]
  simp only [since_snoc, m.recorded.quotaId]
  rcases h.quota_iff.mp hx with rfl | ⟨hx, hne⟩
  · rw [m.same.1, if_pos (by simp)]
    by_cases hren : m.entry.renews = true
    · -- nothing is consumed after an entry that renews
      have hzero : m.next.consumedAiuMicros = 0 := by
        rw [← m.recorded.consumedAfter]
        simp only [UserAiuLedgerEntry.renews, Bool.and_eq_true, beq_iff_eq] at hren
        exact hren.2
      rw [if_pos hren]
      exact ⟨hzero, fun _ => Int.le_refl 0⟩
    · have hc : m.change ≠ .grant := by
        intro hc
        have hg := h.guard
        rw [hc] at hg
        refine hren ?_
        simp [UserAiuLedgerEntry.renews, m.recorded.sourceReservationId, m.recorded.sourceEventId,
          m.recorded.consumedAfter, m.consumed, hc, Change.consumed, Change.sourceReservationId, Change.sourceEventId,
          hg.2.1]
      obtain ⟨hsum, hsrc⟩ := hex m.quota (h.guard.mem hc)
      have hdelta := h.delta_ge hex hc hren hback
      rw [if_neg hren, sumOf_snoc, if_pos rfl]
      refine ⟨?_, fun source => ?_⟩
      · have := m.recorded.consumedDelta
        unfold sinceRenewal at hsum
        omega
      · rw [groupSum_snoc]
        have hs := hsrc source
        unfold addedBy sinceRenewal at hs hdelta
        split
        · rename_i heq
          rw [heq] at hdelta
          exact hdelta
        · omega
  · rw [if_neg (by simpa using Ne.symm hne)]
    exact hex x hx

theorem Explained.same {s s' : QuotaStore} (h : SameRecords s s') (hex : Explained s) : Explained s' := by
  unfold Explained
  rw [h.quotas, h.ledger]
  exact hex

/-! ## One call -/

/-- The worker takes back no more than the settled reservation added. Nothing is asked
    of the other operations. -/
def TakesBackAdded (s : QuotaStore) : Op → Prop
  | .applyUserAiu call => ∀ r ∈ s.reservations.rows, call.reservationId = some r.id → r.status = .settled →
      r.settledAiuMicros - call.settled ≤ added s.ledger.rows r
  | _ => True

instance : ∀ s op, Decidable (TakesBackAdded s op)
  | s, .applyUserAiu call => inferInstanceAs (Decidable (∀ r ∈ s.reservations.rows, call.reservationId = some r.id →
      r.status = .settled → r.settledAiuMicros - call.settled ≤ added s.ledger.rows r))
  | _, .configure _ _ _ | _, .identify _ _ _ | _, .create _ | _, .transition _ | _, .materialize _ | _, .save _
  | _, .reset _ | _, .expire _ => isTrue trivial

variable {settings : ReservationSettings}

theorem Op.Makes.not_reconcile {op : Op} {c : Change} (h : op.Makes c) (hop : ∀ call, op ≠ .applyUserAiu call) :
    ∀ r amount event, c ≠ .reconcile r amount event := by
  rintro r amount event rfl
  by_cases hsdk : ∃ call, op = .transition call
  · obtain ⟨call, rfl⟩ := hsdk
    obtain ⟨_, -, -, h⟩ := h
    unfold TransitionAction.change at h
    split at h <;> cases h
  · cases h.spends_false (fun call hc => hsdk ⟨call, hc⟩) hop

theorem Explained.exec {s s' : QuotaStore} {op : Op} {answer : Answer} (hl : Linked s) (hex : Explained s)
    (hback : TakesBackAdded s op) (h : exec settings s op = .ok (answer, s')) : Explained s' := by
  by_cases hop : ∃ call, op = .applyUserAiu call
  · obtain ⟨call, rfl⟩ := hop
    obtain ⟨c, h⟩ := answered_ok h
    rcases applyUserAiu_moves hl h with rfl | ⟨m, hm, happ⟩
    · exact hex
    · refine hex.move ?_ happ
      intro r amount event hc
      have hg := happ.guard
      rw [hc] at hm hg
      rcases hm with ⟨r', hid, -, -, hm | hm⟩ | ⟨-, actual, -, hm⟩
      · cases hm
      · cases hm
        exact hback r hg.2.1 hid hg.2.2.2.1
      · cases hm
  · obtain ⟨ms, hms, hmakes, -⟩ := exec_moves hl h
    refine (hms.invariant (P := Explained) (fun m => op.Makes m.change) (fun _ _ => Explained.same) ?_ hl hex
      hmakes).2
    intro m s s' _ hex hmk happ
    refine hex.move ?_ happ
    intro r amount event hc
    exact absurd hc (hmk.not_reconcile (fun call hcall => hop ⟨call, hcall⟩) r amount event)

/-! ## The constraint -/

/-- The call does not fail on the counters' CHECK constraint. -/
def Spares {α : Type} (x : Except Failure α) : Prop :=
  x ≠ .error (.database (.check "user_aiu_quotas_counters_check"))

section Spares

variable {α β : Type} {s : QuotaStore}

theorem Spares.ok (a : α) : Spares (.ok a) := nofun

theorem Spares.bind {x : Except Failure α} {f : α → Except Failure β} (hx : Spares x)
    (hf : ∀ a, x = .ok a → Spares (f a)) : Spares (x >>= f) := by
  intro h
  rcases bind_error h with h | ⟨a, ha, h⟩
  · exact hx h
  · exact hf a ha h

theorem spares_require {holds : Prop} [Decidable holds] {failure : Failure}
    (h : failure ≠ .database (.check "user_aiu_quotas_counters_check")) : Spares (require holds failure) := by
  intro he
  exact h (require_error he).2.symm

/-- A row with nonnegative counters can only be refused for its period. -/
theorem refused_period {q : UserAiuQuota}
    (h : 0 ≤ q.limitAiuMicros ∧ 0 ≤ q.consumedAiuMicros ∧ 0 ≤ q.reservedAiuMicros) :
    Row.refused q ≠ some "user_aiu_quotas_counters_check" := by
  simp only [Row.refused]
  rw [if_neg (not_not_intro h)]
  split <;> simp

theorem spares_updateQuotas {p : UserAiuQuota → Bool} {data : UserAiuQuota → UserAiuQuota}
    (h : ∀ q ∈ s.quotas.rows, p q = true →
      0 ≤ (data q).limitAiuMicros ∧ 0 ≤ (data q).consumedAiuMicros ∧ 0 ≤ (data q).reservedAiuMicros) :
    Spares (s.updateQuotas p data) := by
  intro he
  obtain ⟨q, hq, hp, c, hc, hr⟩ := QuotaStore.updateQuotas_error he
  cases hc
  exact refused_period (q := q.written data) (h q hq hp) hr

theorem spares_insertQuota {q : UserAiuQuota}
    (h : 0 ≤ q.limitAiuMicros ∧ 0 ≤ q.consumedAiuMicros ∧ 0 ≤ q.reservedAiuMicros) : Spares (s.insertQuota q) := by
  intro he
  rcases bind_error he with he | ⟨_, -, he⟩
  · obtain ⟨v, hv, hc⟩ := statement_error he
    cases hc
    exact refused_period h (Table.insert_check hv)
  · cases he

theorem spares_insertLedgerEntry (e : UserAiuLedgerEntry) : Spares (s.insertLedgerEntry e) := by
  intro he
  rcases QuotaStore.insertLedgerEntry_error he with hc | ⟨c, hc, hr⟩
  · cases hc
  · cases hc
    simp only [Row.refused] at hr
    split at hr <;> simp at hr

theorem spares_updateReservations (p : UserAiuReservation → Bool)
    (data : UserAiuReservation → AiuReservationStatus × Int) : Spares (s.updateReservations p data) := by
  intro he
  obtain ⟨r, -, -, c, hc, hr⟩ := QuotaStore.updateReservations_error he
  cases hc
  simp only [Row.refused] at hr
  split at hr <;> simp at hr

theorem spares_insertReservation (r : UserAiuReservation) : Spares (s.insertReservation r) := by
  intro he
  rcases bind_error he with he | ⟨_, -, he⟩
  · obtain ⟨v, hv, hc⟩ := statement_error he
    cases hc
    have hr := Table.insert_check hv
    simp only [Row.refused] at hr
    split at hr <;> simp at hr
  · cases he

theorem spares_window (type : QuotaPeriodType) (timezone : Timezone) (now : Timestamp)
    (fixed : Option (Timestamp × Timestamp)) : Spares (aiuQuotaPeriodWindow type timezone now fixed) := by
  unfold aiuQuotaPeriodWindow
  split
  · exact Spares.ok _
  · split
    · split
      · nofun
      · exact Spares.ok _
    · nofun
  · exact Spares.ok _

theorem spares_policyWindow (timezone : Timezone) (now : Timestamp) (policy : AiuQuotaPolicy) :
    Spares (policyWindow timezone now policy) := by
  unfold policyWindow
  split
  · split
    · exact Spares.ok _
    · nofun
  · exact spares_window _ _ _ _

end Spares

/-! Every operation, statement by statement. -/

section Operations

variable {s : QuotaStore}

theorem resolve_mem {applicationId userId : Uuid} {policy : AiuQuotaPolicy}
    (h : resolveEffectiveAiuQuotaPolicy s applicationId userId = some policy) : policy ∈ s.policies.rows := by
  have hcand : ∀ {p : AiuQuotaPolicy → Bool} {x : AiuQuotaPolicy},
      (effectiveCandidates s applicationId userId).find? p = some x → x ∈ s.policies.rows := by
    intro p x hx
    have hmem := List.mem_of_find?_eq_some hx
    unfold effectiveCandidates at hmem
    rw [List.mem_insertionSort] at hmem
    exact (List.mem_filter.mp hmem).1
  unfold resolveEffectiveAiuQuotaPolicy at h
  dsimp only at h
  split at h
  · cases h; exact hcand ‹_›
  · split at h
    · cases h; exact hcand ‹_›
    · exact hcand h

theorem policy_limit {policy : AiuQuotaPolicy} (h : policy ∈ s.policies.rows) : 0 ≤ policy.limitAiuMicros := by
  have hc := s.policies.checked policy h
  simp only [Row.refused] at hc
  split at hc
  · cases hc
  · omega

theorem withdrawPolicy_spares (input : MaterializeInput) (ids : MaterializeIds) (current : UserAiuQuota) :
    Spares (withdrawPolicy s input ids current) := by
  unfold withdrawPolicy
  split
  · exact Spares.ok _
  · refine Spares.bind (spares_updateQuotas fun q hq _ => QuotaStore.quota_counters (q := q) hq) ?_
    intro a _
    exact Spares.bind (spares_insertLedgerEntry _) fun _ _ => Spares.ok _

theorem grantPolicy_spares (input : MaterializeInput) (ids : MaterializeIds) {policy : AiuQuotaPolicy}
    (window : QuotaPeriodWindowValue) (hp : policy ∈ s.policies.rows) :
    Spares (grantPolicy s input ids policy window) := by
  unfold grantPolicy
  refine Spares.bind (spares_insertQuota ⟨policy_limit hp, Int.le_refl 0, Int.le_refl 0⟩) ?_
  intro a _
  exact Spares.bind (spares_insertLedgerEntry _) fun _ _ => Spares.ok _

theorem applyPolicy_spares (input : MaterializeInput) (ids : MaterializeIds) {policy : AiuQuotaPolicy}
    (window : QuotaPeriodWindowValue) {current : UserAiuQuota} (hp : policy ∈ s.policies.rows)
    (hmem : current ∈ s.quotas.rows) : Spares (applyPolicy s input ids policy window current) := by
  have hcur := QuotaStore.quota_counters hmem
  unfold applyPolicy
  dsimp only
  split
  · exact Spares.ok _
  refine Spares.bind ?_ fun s₁ _ => ?_
  · unfold releaseOpen
    split
    · exact Spares.bind (spares_updateReservations _ _) fun _ _ => Spares.ok _
    · exact Spares.ok _
  refine Spares.bind (spares_updateQuotas fun q _ _ => ?_) fun a _ => ?_
  · refine ⟨policy_limit hp, ?_, ?_⟩
    · dsimp only [materialized]; split <;> omega
    · dsimp only [materialized]; split <;> omega
  · exact Spares.bind (spares_insertLedgerEntry _) fun _ _ => Spares.ok _

theorem materialize_spares (applicationId userId : Uuid) (timezone : Timezone) (now : Timestamp) (reason : String)
    (ids : MaterializeIds) :
    Spares (materializeEffectiveAiuQuotaPolicy s ⟨applicationId, userId, policyWindow timezone now, reason⟩ ids) := by
  unfold materializeEffectiveAiuQuotaPolicy
  dsimp only
  split
  · split
    · exact Spares.ok _
    · exact withdrawPolicy_spares _ _ _
  · rename_i policy hpolicy
    refine Spares.bind (spares_policyWindow _ _ _) ?_
    intro window _
    split
    · exact grantPolicy_spares _ _ _ (resolve_mem hpolicy)
    · exact applyPolicy_spares _ _ _ (resolve_mem hpolicy) (QuotaStore.quotaOf_mem ‹_›).1

theorem rollover_spares (quota : UserAiuQuota) (userId applicationId : Uuid) (timezone : Timezone)
    (clock : CreateClock) (entry : Stamp) :
    Spares (rolloverReservationQuota s quota userId applicationId timezone clock entry) := by
  unfold rolloverReservationQuota
  split
  · exact Spares.ok _
  split
  · exact Spares.ok _
  refine Spares.bind (spares_window _ _ _ _) ?_
  intro window _
  refine Spares.bind (spares_require (by simp)) ?_
  intro _ _
  refine Spares.bind (spares_updateQuotas fun q hq _ => ?_) fun a _ => ?_
  · exact ⟨(QuotaStore.quota_counters hq).1, Int.le_refl 0, Int.le_refl 0⟩
  refine Spares.bind (spares_require (by simp [retryableReservationConflict])) ?_
  intro _ _
  refine Spares.bind (spares_updateReservations _ _) ?_
  intro a _
  exact Spares.bind (spares_insertLedgerEntry _) fun _ _ => Spares.ok _

theorem reserve_spares (call : CreateCall) (userId : Uuid) (quota : UserAiuQuota) :
    Spares (reserve settings s call userId quota) := by
  unfold reserve
  dsimp only
  split
  · exact Spares.ok _
  refine Spares.bind (spares_updateQuotas fun q hq _ => ?_) fun a _ => ?_
  · have := QuotaStore.quota_counters hq
    exact ⟨this.1, this.2.1, by dsimp only; omega⟩
  refine Spares.bind (spares_require (by simp [retryableReservationConflict])) ?_
  intro _ _
  refine Spares.bind (spares_insertReservation _) ?_
  intro a _
  exact Spares.bind (spares_insertLedgerEntry _) fun _ _ => Spares.ok _

theorem existing_spares (codec : UserReservationTokenCodec) (row : UserAiuReservation) (quota : Option UserAiuQuota)
    (request : UserReservationRequest) (candidates : List Uuid) :
    Spares (existing codec row quota request candidates) := by
  unfold existing
  split
  · nofun
  split
  · exact Spares.ok _
  dsimp only
  split
  · nofun
  · exact Spares.ok _

theorem create_spares (call : CreateCall) : Spares (createReservation settings s call) := by
  unfold createReservation
  refine Spares.bind (materialize_spares _ _ _ _ _ _) ?_
  intro a _
  dsimp only
  split
  · nofun
  split
  · split <;> exact Spares.ok _
  split
  · exact Spares.ok _
  split
  · exact Spares.ok _
  split
  · exact Spares.ok _
  refine Spares.bind (rollover_spares _ _ _ _ _ _) ?_
  intro b _
  split
  · exact Spares.bind (existing_spares _ _ _ _ _) fun _ _ => Spares.ok _
  · exact reserve_spares _ _ _

/-- What an open reservation gives back is there. -/
theorem ReservedBalance.give_back (hbal : ReservedBalance s) {row : UserAiuReservation}
    (hrow : row ∈ s.reservations.rows) (hst : row.status = .reserved) {q : UserAiuQuota} (hq : q ∈ s.quotas.rows)
    (hid : q.id = row.quotaId) {amount : Int} (ha : 0 ≤ amount) :
    0 ≤ q.limitAiuMicros ∧ 0 ≤ q.consumedAiuMicros + amount ∧ 0 ≤ q.reservedAiuMicros - row.reservedAiuMicros := by
  have hle := hbal.le hq hrow hid.symm hst
  have := QuotaStore.quota_counters hq
  omega

theorem transition_spares (hbal : ReservedBalance s) (codec : UserReservationTokenCodec) (call : TransitionCall) :
    Spares (transition codec s call) := by
  unfold transition
  refine Spares.bind ?_ fun verified _ => ?_
  · unfold verifyTransitionToken
    split
    · rename_i e _
      cases e <;> nofun
    · exact Spares.bind (spares_require (by simp)) fun _ _ => Spares.ok _
  split
  · nofun
  rename_i row hrow
  split
  · nofun
  refine Spares.bind (spares_require (by simp)) ?_
  intro _ _
  split
  · exact Spares.bind (spares_require (by simp)) fun _ _ => Spares.ok _
  · nofun
  · rename_i hst
    unfold closeReservation
    refine Spares.bind (spares_updateReservations _ _) fun ⟨s₁, n⟩ h₁ => ?_
    refine Spares.bind (spares_require (by simp [retryableReservationConflict])) ?_
    intro _ _
    obtain ⟨reservations, rfl, -⟩ := QuotaStore.updateReservations_ok h₁
    refine Spares.bind (spares_updateQuotas fun q hq hp => ?_) fun a _ => ?_
    · simp only [Bool.and_eq_true, beq_iff_eq] at hp
      refine hbal.give_back (Table.find?_mem hrow).1 hst hq hp.1.1 ?_
      unfold TransitionAction.consumed
      split <;> omega
    refine Spares.bind (spares_require (by simp [retryableReservationConflict])) ?_
    intro _ _
    exact Spares.bind (spares_insertLedgerEntry _) fun _ _ => Spares.ok _
  · exact Spares.ok _
  · nofun

/-- The policies' constraints have other names. -/
theorem policy_refused_otherwise (p : AiuQuotaPolicy) : Row.refused p ≠ some "user_aiu_quotas_counters_check" := by
  intro h
  simp only [Row.refused] at h
  repeat' split at h
  all_goals simp at h

theorem save_spares (call : SaveCall) : Spares (save s call) := by
  unfold save
  refine Spares.bind ?_ fun user _ => ?_
  · unfold requireUser
    split
    · nofun
    · exact Spares.ok _
  refine Spares.bind (spares_window _ _ _ _) ?_
  intro window _
  refine Spares.bind ?_ fun ⟨policyId, s₁⟩ h₁ => ?_
  · intro he
    unfold upsertUserPolicy at he
    split at he
    · rcases bind_error he with he | ⟨_, -, he⟩
      · obtain ⟨v, hv, hc⟩ := statement_error he
        cases hc
        obtain ⟨p, -, -, c, hc, hr⟩ := Table.updateMany_check hv
        cases hc
        exact policy_refused_otherwise _ hr
      · cases he
    · rcases bind_error he with he | ⟨_, -, he⟩
      · obtain ⟨v, hv, hc⟩ := statement_error he
        cases hc
        exact policy_refused_otherwise _ (Table.insert_check hv)
      · cases he
  refine Spares.bind ?_ fun a _ => ?_
  · obtain ⟨policies, rfl⟩ := upsertUserPolicy_ok h₁
    unfold upsertUserQuota
    split
    · refine Spares.bind (spares_updateQuotas fun q hq _ => ?_) fun _ _ => Spares.ok _
      exact ⟨Int.natCast_nonneg _, (QuotaStore.quota_counters (s := s) hq).2⟩
    · exact Spares.bind (spares_insertQuota ⟨Int.natCast_nonneg _, Int.le_refl 0, Int.le_refl 0⟩) fun _ _ => Spares.ok _
  exact Spares.bind (spares_insertLedgerEntry _) fun _ _ => Spares.ok _

theorem reset_spares (call : ResetCall) : Spares (reset s call) := by
  unfold reset
  refine Spares.bind ?_ fun user _ => ?_
  · unfold requireUser
    split
    · nofun
    · exact Spares.ok _
  split
  · nofun
  refine Spares.bind (spares_window _ _ _ _) ?_
  intro window _
  unfold resetTransaction
  refine Spares.bind (spares_updateReservations _ _) ?_
  intro a _
  refine Spares.bind (spares_updateQuotas fun q hq _ => ?_) fun a _ => ?_
  · exact ⟨(QuotaStore.quota_counters hq).1, Int.le_refl 0, Int.le_refl 0⟩
  refine Spares.bind (spares_require (by simp)) ?_
  intro _ _
  exact Spares.bind (spares_insertLedgerEntry _) fun _ _ => Spares.ok _

theorem expire_spares (hbal : ReservedBalance s) (call : ExpireCall) : Spares (expire s call) := by
  unfold expire
  split
  · exact Spares.ok _
  rename_i row hrow
  split
  · exact Spares.ok _
  refine Spares.bind (spares_require (by simp)) ?_
  intro _ _
  refine Spares.bind (spares_updateReservations _ _) fun ⟨s₁, n⟩ h₁ => ?_
  obtain ⟨reservations, rfl, -⟩ := QuotaStore.updateReservations_ok h₁
  refine Spares.bind (spares_updateQuotas fun q hq hp => ?_) fun a _ => ?_
  · obtain ⟨hmem, hprow⟩ := Table.find?_mem hrow
    simp only [Bool.and_eq_true, beq_iff_eq, decide_eq_true_eq] at hp hprow
    simpa using hbal.give_back hmem hprow.1.2 hq hp.1.1 (Int.le_refl 0)
  refine Spares.bind (spares_require (by simp)) ?_
  intro _ _
  exact Spares.bind (spares_insertLedgerEntry _) fun _ _ => Spares.ok _

theorem reconcileSettled_spares {call : AiuCall} {r : UserAiuReservation} {quota : UserAiuQuota} (hex : Explained s)
    (hback : r.settledAiuMicros - call.settled ≤ added s.ledger.rows r) :
    Spares (reconcileSettled s call r quota) := by
  unfold reconcileSettled
  dsimp only
  split
  · exact Spares.ok _
  refine Spares.bind (spares_updateReservations _ _) ?_
  intro hyp h₁
  obtain ⟨s₁, n⟩ := hyp
  obtain ⟨reservations, rfl, -⟩ := QuotaStore.updateReservations_ok h₁
  refine Spares.bind (spares_updateQuotas fun q hq hp => ?_) fun a _ => ?_
  · simp only [Bool.and_eq_true, beq_iff_eq] at hp
    have hle := hex.added_le hq hp.1.2.symm
    have := QuotaStore.quota_counters (s := s) hq
    dsimp only
    omega
  refine Spares.bind (spares_require (by simp [reservationChanged])) ?_
  intro _ _
  exact Spares.bind (spares_insertLedgerEntry _) fun _ _ => Spares.ok _

theorem settleReserved_spares {call : AiuCall} {r : UserAiuReservation} {quota : UserAiuQuota}
    (hbal : ReservedBalance s) (hr : r ∈ s.reservations.rows) (hst : r.status = .reserved) :
    Spares (settleReserved s call r quota) := by
  unfold settleReserved
  dsimp only
  refine Spares.bind (spares_updateReservations _ _) fun ⟨s₁, n⟩ h₁ => ?_
  obtain ⟨reservations, rfl, -⟩ := QuotaStore.updateReservations_ok h₁
  refine Spares.bind (spares_updateQuotas fun q hq hp => ?_) fun a _ => ?_
  · simp only [Bool.and_eq_true, beq_iff_eq] at hp
    exact hbal.give_back hr hst hq hp.1.2 (Int.natCast_nonneg _)
  refine Spares.bind (spares_require (by simp [reservationChanged])) ?_
  intro _ _
  exact Spares.bind (spares_insertLedgerEntry _) fun _ _ => Spares.ok _

theorem consumeUnreserved_spares (call : AiuCall) (quota : UserAiuQuota) (actual : Nat) :
    Spares (consumeUnreserved s call quota actual) := by
  unfold consumeUnreserved
  split
  · exact Spares.ok _
  refine Spares.bind (spares_updateQuotas fun q hq _ => ?_) fun a _ => ?_
  · have := QuotaStore.quota_counters hq
    dsimp only
    omega
  refine Spares.bind (spares_require (by simp)) ?_
  intro _ _
  exact Spares.bind (spares_insertLedgerEntry _) fun _ _ => Spares.ok _

theorem applyUserAiu_spares {call : AiuCall} (hbal : ReservedBalance s) (hex : Explained s)
    (hback : TakesBackAdded s (.applyUserAiu call)) : Spares (applyUserAiu s call) := by
  unfold applyUserAiu
  split
  · rename_i id hid
    split
    · nofun
    rename_i r hr
    split
    · nofun
    obtain ⟨hmem, hp⟩ := Table.find?_mem hr
    simp only [Bool.and_eq_true, beq_iff_eq] at hp
    split
    · exact reconcileSettled_spares hex (hback r hmem (by rw [hid, hp.1.2]) ‹_›)
    · exact settleReserved_spares hbal hmem ‹_›
    · nofun
  · split
    · exact Spares.ok _
    split
    · exact Spares.ok _
    split
    · exact consumeUnreserved_spares _ _ _
    · exact Spares.ok _

theorem identify_spares (applicationId id : Uuid) (externalId : String) :
    Spares (upsertApplicationUser s applicationId externalId id) := by
  unfold upsertApplicationUser
  split
  · exact Spares.ok _
  · refine Spares.bind ?_ fun _ _ => Spares.ok _
    intro he
    obtain ⟨v, hv, hc⟩ := statement_error he
    cases hc
    cases Table.insert_check hv

theorem spares_answered {α : Type} {f : α → Answer} {x : Except Failure (α × QuotaStore)} (h : Spares x) :
    Spares (answered f x) := by
  intro he
  unfold answered at he
  split at he
  · cases he
  · cases he; exact h rfl

theorem exec_spares {op : Op} (hbal : ReservedBalance s) (hex : Explained s) (hback : TakesBackAdded s op) :
    Spares (exec settings s op) := by
  cases op with
  | configure => exact Spares.ok _
  | identify => exact spares_answered (identify_spares _ _ _)
  | create call => exact spares_answered (create_spares call)
  | transition call => exact spares_answered (transition_spares hbal _ call)
  | materialize call => exact spares_answered (materialize_spares _ _ _ _ _ _)
  | save call => exact spares_answered (save_spares call)
  | reset call => exact spares_answered (reset_spares call)
  | expire call => exact spares_answered (expire_spares hbal call)
  | applyUserAiu call => exact spares_answered (applyUserAiu_spares hbal hex hback)

end Operations

/-! ## Every run -/

/-- The invariant of the runs in which the worker takes back no more than was added. -/
structure Covered (s : QuotaStore) : Prop where
  linked : Linked s
  balance : ReservedBalance s
  explained : Explained s

theorem Covered.exec {s s' : QuotaStore} {op : Op} {answer : Answer} (h : Covered s) (hback : TakesBackAdded s op)
    (hexec : exec settings s op = .ok (answer, s')) : Covered s' := by
  obtain ⟨ms, hms, -, -⟩ := exec_moves h.linked hexec
  obtain ⟨hl, hbal⟩ := hms.invariant (fun _ => True) (fun _ _ => ReservedBalance.same)
    (fun _ _ _ hl hbal _ ha => hbal.move hl ha) h.linked h.balance fun _ _ => trivial
  exact ⟨hl, hbal, h.explained.exec h.linked hback hexec⟩

theorem empty_covered : Covered .empty :=
  ⟨empty_linked, by simp [ReservedBalance, QuotaStore.empty, Table.empty],
    by simp [Explained, QuotaStore.empty, Table.empty]⟩

/-- In every run in which the worker never takes back more than the reservation added
    since the quota was renewed, no call fails on the counters' CHECK: every update keeps
    the consumed counter nonnegative. -/
theorem counters_check_never_fails (settings : ReservationSettings) (ops : List Op)
    (h : (system settings).Guarded TakesBackAdded .empty ops) :
    (system settings).Guarded (fun s op => exec settings s op ≠
      .error (.database (.check "user_aiu_quotas_counters_check"))) .empty ops :=
  Machine.guarded_calls (P := Covered) (fun _ _ _ _ hs hback hexec => hs.exec hback hexec)
    (fun _ _ hs hback => exec_spares hs.balance hs.explained hback) ops .empty empty_covered h

open Sample in
/-- A rating of 3 after a settlement of 5, within the day. -/
theorem counters_check_spared_within_the_day :
    (system service).Guarded (fun s op => exec service s op ≠
      .error (.database (.check "user_aiu_quotas_counters_check"))) .empty (spent ++ [rate 7 firstEvent (some 3) 3000]) :=
  counters_check_never_fails service _ (by decide +kernel)

open Sample in
/-- The SDK settles 5, the next day's first call starts the quota from zero, and the
    worker then rates the event at 3: the counter would become -2. -/
theorem late_rating_after_rollover_breaks_the_check :
    exec service ((system service).run .empty (spent ++ [create 8 "call-2" 1 90000000]))
      (rate 7 firstEvent (some 3) 90001000) = .error (.database (.check "user_aiu_quotas_counters_check")) :=
  rfl

end TokenPilot.Quota
