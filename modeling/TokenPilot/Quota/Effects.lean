/-
  TokenPilot.Quota.Effects — every operation is a list of moves.

  One lemma per transaction says which moves it makes, and `exec_moves` puts them
  together: a call that returns made moves of its own kind (`Op.Makes`), and only the
  first of them may have changed a limit. A call that fails made none. `reachable_linked`
  and `reachable_invariant` are what the invariants of the other modules start from.
  `PolicyIdle` is when a policy step makes no move, and `run_reservation_kept` what a run
  leaves of a reservation.
-/

import TokenPilot.Quota.Moves

namespace TokenPilot.Quota

open TokenPilot.Library

/-! ## Policies -/

section Policies

variable {s s' : QuotaStore} {input : MaterializeInput} {ids : MaterializeIds} {current : UserAiuQuota}
  {a : Option UserAiuQuota}

theorem withdrawPolicy_moves (hcur : s.quotaOf input.applicationId input.userId = some current)
    (h : withdrawPolicy s input ids current = .ok (a, s')) :
    s' = s ∨ ∃ m : Move, m.change = .settings ∧ m.Applies s s' := by
  obtain ⟨hmem, ha, -⟩ := QuotaStore.quotaOf_mem hcur
  unfold withdrawPolicy at h
  split at h
  · cases h; exact Or.inl rfl
  · right
    obtain ⟨⟨s₁, n⟩, h₁, h⟩ := bind_ok h
    obtain ⟨s₂, h₂, h⟩ := bind_ok h
    cases h
    obtain ⟨-, quotas, rfl, hq⟩ := QuotaStore.updateQuota_ok h₁ hmem (by simp) (Or.inr (by simp))
    obtain ⟨-, ledger, rfl, he⟩ := QuotaStore.insertLedgerEntry_ok h₂
    obtain ⟨m, hm, -, -, -, happ⟩ := Move.exists_applies s { s with quotas, ledger } .settings hmem hq rfl he
      ⟨rfl, rfl, rfl⟩ rfl rfl nofun
      ⟨ha.symm, rfl, by simp [Change.entryTypes], rfl, rfl, rfl, (Int.sub_self _).symm,
        (Int.sub_self _).symm, rfl, rfl, rfl⟩
    exact ⟨m, hm, happ⟩

theorem grantPolicy_moves {policy : AiuQuotaPolicy} {window : QuotaPeriodWindowValue}
    (h : grantPolicy s input ids policy window = .ok (a, s')) :
    ∃ m : Move, m.change = .grant ∧ m.Applies s s' := by
  unfold grantPolicy at h
  obtain ⟨s₁, h₁, h⟩ := bind_ok h
  obtain ⟨s₂, h₂, h⟩ := bind_ok h
  cases h
  obtain ⟨hfresh, quotas, rfl, hq⟩ := QuotaStore.insertQuota_ok h₁
  obtain ⟨-, ledger, rfl, he⟩ := QuotaStore.insertLedgerEntry_ok h₂
  obtain ⟨m, hm, -, -, -, happ⟩ := Move.exists_applies s { s with quotas, ledger } .grant ⟨hfresh, rfl, rfl⟩ hq rfl he
    ⟨rfl, rfl, rfl⟩ rfl rfl nofun
    ⟨rfl, rfl, by simp [Change.entryTypes], rfl, rfl, rfl, rfl, rfl, rfl, rfl, rfl⟩
  exact ⟨m, hm, happ⟩

/-- In a linked store the user's open reservations are the quota's. -/
theorem Linked.open_iff (hl : Linked s) (hmem : current ∈ s.quotas.rows) {r : UserAiuReservation}
    (hr : r ∈ s.reservations.rows) :
    (r.applicationId == current.applicationId && r.userId == current.userId && r.status == .reserved) =
      Change.isOpenOf current r := by
  obtain ⟨q, hq, hid, ha, hu⟩ := hl.reservation r hr
  unfold Change.isOpenOf
  have hiff : (r.applicationId = current.applicationId ∧ r.userId = current.userId) ↔ r.quotaId = current.id := by
    constructor
    · intro hyp
      obtain ⟨ha', hu'⟩ := hyp
      rw [hid, QuotaStore.quota_eq_of_user hq hmem (ha.symm.trans ha') (hu.symm.trans hu')]
    · intro hid'
      rw [← QuotaStore.quota_eq_of_id hq hmem (hid.symm.trans hid')]
      exact ⟨ha, hu⟩
  rw [Bool.eq_iff_iff]
  simp only [Bool.and_eq_true, beq_iff_eq]
  rw [hiff]

/-- Closing a user's open reservations is closing the quota's. -/
theorem Linked.close_user (hl : Linked s) (hmem : current ∈ s.quotas.rows) {a u : Uuid}
    (ha : current.applicationId = a) (hu : current.userId = u)
    {f : UserAiuReservation → UserAiuReservation} :
    s.reservations.rows.map (Table.rewrite (fun r => r.applicationId == a && r.userId == u && r.status == .reserved) f) =
      s.reservations.rows.map (Table.rewrite (Change.isOpenOf current) f) := by
  subst ha hu
  refine List.map_congr_left ?_
  intro r hr
  simp only [Table.rewrite, hl.open_iff hmem hr]

theorem applyPolicy_moves {policy : AiuQuotaPolicy} {window : QuotaPeriodWindowValue} (hl : Linked s)
    (hcur : s.quotaOf input.applicationId input.userId = some current)
    (h : applyPolicy s input ids policy window current = .ok (a, s')) :
    s' = s ∨ ∃ m : Move, (m.change = .settings ∨ ∃ closed, m.change = .renew closed) ∧ m.Applies s s' := by
  obtain ⟨hmem, ha, hu⟩ := QuotaStore.quotaOf_mem hcur
  unfold applyPolicy at h
  dsimp only at h
  split at h
  · cases h; exact Or.inl rfl
  right
  obtain ⟨s₁, h₁, h⟩ := bind_ok h
  obtain ⟨⟨s₂, n⟩, h₂, h⟩ := bind_ok h
  obtain ⟨s₃, h₃, h⟩ := bind_ok h
  cases h
  cases hch : periodChanged current policy window with
  | false =>
    -- the same period: the settings change, the counters stay
    rw [hch] at h₁ h₂ h₃
    cases h₁
    obtain ⟨-, quotas, rfl, hq⟩ := QuotaStore.updateQuota_ok h₂ hmem (by simp) (Or.inr (by simp))
    obtain ⟨-, ledger, rfl, he⟩ := QuotaStore.insertLedgerEntry_ok h₃
    obtain ⟨m, hm, -, -, -, happ⟩ := Move.exists_applies s { s with quotas, ledger } .settings hmem hq rfl he
      ⟨rfl, rfl, rfl⟩ rfl rfl nofun
      ⟨ha.symm, rfl, by simp [Change.entryTypes], rfl, rfl, rfl, rfl, rfl, rfl, rfl, rfl⟩
    exact ⟨m, Or.inl hm, happ⟩
  | true =>
    rw [hch] at h₁ h₂ h₃
    obtain ⟨closed, reservations, hclosed, rfl, hr⟩ : ∃ (closed : Option AiuReservationStatus) (reservations : _),
        ((closed = none → current.reservedAiuMicros = 0) ∧
          ∀ status, closed = some status → status = .released ∨ status = .expired) ∧
        s₁ = { s with reservations } ∧
        reservations.rows = (Change.renew closed).reservations current s.reservations.rows := by
      unfold releaseOpen at h₁
      split at h₁
      · obtain ⟨⟨s₀, k⟩, h₀, h₁⟩ := bind_ok h₁
        cases h₁
        obtain ⟨reservations, rfl, hrows⟩ := QuotaStore.updateReservations_ok h₀
        exact ⟨some .released, reservations, by simp, rfl, hrows.trans (hl.close_user hmem ha hu)⟩
      · rename_i hneg
        cases h₁
        refine ⟨none, s.reservations, ⟨fun _ => ?_, by simp⟩, rfl, rfl⟩
        have := QuotaStore.quota_counters hmem
        simp only [Bool.true_and, decide_eq_true_eq] at hneg
        omega
    obtain ⟨-, quotas, rfl, hq⟩ := QuotaStore.updateQuota_ok h₂ hmem (by simp) (Or.inr (by simp))
    obtain ⟨-, ledger, rfl, he⟩ := QuotaStore.insertLedgerEntry_ok h₃
    obtain ⟨m, hm, -, -, -, happ⟩ := Move.exists_applies s { s with quotas, reservations, ledger } (.renew closed)
      ⟨hmem, hclosed⟩ hq hr he ⟨rfl, rfl, rfl⟩ rfl rfl nofun
      ⟨ha.symm, rfl, by simp [Change.entryTypes], rfl, rfl, rfl, rfl, rfl, rfl, rfl, rfl⟩
    exact ⟨m, Or.inr ⟨closed, hm⟩, happ⟩

theorem materialize_moves (hl : Linked s) (h : materializeEffectiveAiuQuotaPolicy s input ids = .ok (a, s')) :
    s' = s ∨ ∃ m : Move, m.change.configures = true ∧ m.Applies s s' := by
  unfold materializeEffectiveAiuQuotaPolicy at h
  dsimp only at h
  split at h
  · split at h
    · cases h; exact Or.inl rfl
    · rcases withdrawPolicy_moves ‹_› h with h | ⟨m, hm, ha⟩
      · exact Or.inl h
      · exact Or.inr ⟨m, by rw [hm]; rfl, ha⟩
  · obtain ⟨window, -, h⟩ := bind_ok h
    split at h
    · obtain ⟨m, hm, ha⟩ := grantPolicy_moves h
      exact Or.inr ⟨m, by rw [hm]; rfl, ha⟩
    · rcases applyPolicy_moves hl ‹_› h with h | ⟨m, hm, ha⟩
      · exact Or.inl h
      · refine Or.inr ⟨m, ?_, ha⟩
        rcases hm with hm | ⟨closed, hm⟩ <;> rw [hm] <;> rfl

/-- There is no policy and the quota has none in force, or the quota is what the policy says. -/
def PolicyIdle (s : QuotaStore) (input : MaterializeInput) : Prop :=
  match resolveEffectiveAiuQuotaPolicy s input.applicationId input.userId, s.quotaOf input.applicationId input.userId with
  | none, none => True
  | none, some quota => (quota.policyId.isNone || !quota.enabled) = true
  | some _, none => False
  | some policy, some quota => ∃ window, input.window policy = .ok window ∧ policyUnchanged quota policy window = true

theorem materialize_idle (ids : MaterializeIds) (h : PolicyIdle s input) :
    ∃ a, materializeEffectiveAiuQuotaPolicy s input ids = .ok (a, s) := by
  unfold PolicyIdle at h
  unfold materializeEffectiveAiuQuotaPolicy
  dsimp only
  split at h
  · rename_i hpolicy hquota
    simp only [hpolicy, hquota]
    exact ⟨none, rfl⟩
  · rename_i quota hpolicy hquota
    simp only [hpolicy, hquota]
    exact ⟨some quota, if_pos h⟩
  · exact absurd h id
  · rename_i policy quota hpolicy hquota
    obtain ⟨window, hwindow, hsame⟩ := h
    simp only [hpolicy, hquota]
    exact ⟨some quota, bind_of hwindow (if_pos hsame)⟩

/-- A policy step that returned was idle, or its last write was its ledger entry. -/
theorem materialize_writes (h : materializeEffectiveAiuQuotaPolicy s input ids = .ok (a, s')) :
    (PolicyIdle s input ∧ s' = s) ∨ ∃ (s₁ : QuotaStore) (e : UserAiuLedgerEntry), s₁.insertLedgerEntry e = .ok s' ∧
      e.id = ids.entry.id ∧ s₁.ledger = s.ledger ∧ s₁.users = s.users ∧ s₁.policies = s.policies ∧
      s₁.groups = s.groups := by
  unfold PolicyIdle
  unfold materializeEffectiveAiuQuotaPolicy at h
  dsimp only at h
  split at h
  · rename_i hpolicy
    split at h
    · rename_i hquota
      cases h
      simp [hpolicy, hquota]
    rename_i quota hquota
    simp only [hpolicy, hquota]
    unfold withdrawPolicy at h
    split at h
    · cases h
      exact Or.inl ⟨‹_›, rfl⟩
    obtain ⟨⟨s₁, n⟩, h₁, h⟩ := bind_ok h
    obtain ⟨s₂, h₂, h⟩ := bind_ok h
    cases h
    obtain ⟨quotas, rfl⟩ := QuotaStore.updateQuotas_ok h₁
    exact Or.inr ⟨_, _, h₂, rfl, rfl, rfl, rfl, rfl⟩
  · rename_i policy hpolicy
    obtain ⟨window, hwindow, h⟩ := bind_ok h
    split at h
    · unfold grantPolicy at h
      obtain ⟨s₁, h₁, h⟩ := bind_ok h
      obtain ⟨s₂, h₂, h⟩ := bind_ok h
      cases h
      obtain ⟨-, quotas, rfl, -⟩ := QuotaStore.insertQuota_ok h₁
      exact Or.inr ⟨_, _, h₂, rfl, rfl, rfl, rfl, rfl⟩
    rename_i quota hquota
    simp only [hpolicy, hquota]
    unfold applyPolicy at h
    dsimp only at h
    split at h
    · cases h
      exact Or.inl ⟨⟨window, hwindow, ‹_›⟩, rfl⟩
    obtain ⟨s₁, h₁, h⟩ := bind_ok h
    obtain ⟨⟨s₂, n⟩, h₂, h⟩ := bind_ok h
    obtain ⟨s₃, h₃, h⟩ := bind_ok h
    cases h
    obtain ⟨quotas, rfl⟩ := QuotaStore.updateQuotas_ok h₂
    refine Or.inr ⟨_, _, h₃, rfl, ?_⟩
    unfold releaseOpen at h₁
    split at h₁
    · obtain ⟨⟨s₀, k⟩, h₀, h₁⟩ := bind_ok h₁
      cases h₁
      obtain ⟨reservations, rfl, -⟩ := QuotaStore.updateReservations_ok h₀
      exact ⟨rfl, rfl, rfl, rfl⟩
    · cases h₁
      exact ⟨rfl, rfl, rfl, rfl⟩

theorem materialize_users (h : materializeEffectiveAiuQuotaPolicy s input ids = .ok (a, s')) : s'.users = s.users := by
  rcases materialize_writes h with ⟨-, rfl⟩ | ⟨s₁, e, he, -, -, husers, -⟩
  · rfl
  · obtain ⟨-, ledger, rfl, -⟩ := QuotaStore.insertLedgerEntry_ok he
    exact husers

theorem materialize_policies (h : materializeEffectiveAiuQuotaPolicy s input ids = .ok (a, s')) :
    s'.policies = s.policies ∧ s'.groups = s.groups := by
  rcases materialize_writes h with ⟨-, rfl⟩ | ⟨s₁, e, he, -, -, -, hpolicies⟩
  · exact ⟨rfl, rfl⟩
  · obtain ⟨-, ledger, rfl, -⟩ := QuotaStore.insertLedgerEntry_ok he
    exact hpolicies

/-- A policy step that returned was idle, or wrote a ledger entry. -/
theorem materialize_entry (h : materializeEffectiveAiuQuotaPolicy s input ids = .ok (a, s')) :
    (PolicyIdle s input ∧ s' = s) ∨ ∃ e, e.id = ids.entry.id ∧ s'.ledger.rows = s.ledger.rows ++ [e] := by
  rcases materialize_writes h with hidle | ⟨s₁, e, he, hid, hledger, -⟩
  · exact Or.inl hidle
  · obtain ⟨-, ledger, rfl, hrows⟩ := QuotaStore.insertLedgerEntry_ok he
    exact Or.inr ⟨e, hid, hrows.trans (by rw [hledger])⟩

theorem materialize_linked (hl : Linked s) (h : materializeEffectiveAiuQuotaPolicy s input ids = .ok (a, s')) :
    Linked s' := by
  rcases materialize_moves hl h with rfl | ⟨m, -, happ⟩
  · exact hl
  · exact hl.move happ

end Policies

/-! ## Reservations -/

section Reservations

variable {s s' : QuotaStore}

theorem rollover_moves {quota q' : UserAiuQuota} {userId applicationId : Uuid} {timezone : Timezone}
    {clock : CreateClock} {entry : Stamp} (hl : Linked s) (hmem : quota ∈ s.quotas.rows)
    (h : rolloverReservationQuota s quota userId applicationId timezone clock entry = .ok (q', s')) :
    (s' = s ∧ q' = quota) ∨ ∃ m : Move, m.change = .renew (some .expired) ∧ m.next = q' ∧
      m.next.limitAiuMicros = m.quota.limitAiuMicros ∧ q'.id = quota.id ∧ q'.enabled = quota.enabled ∧
      q'.hardLimit = quota.hardLimit ∧ m.Applies s s' := by
  unfold rolloverReservationQuota at h
  split at h
  · cases h; exact Or.inl ⟨rfl, rfl⟩
  split at h
  · cases h; exact Or.inl ⟨rfl, rfl⟩
  right
  obtain ⟨window, -, h⟩ := bind_ok h
  obtain ⟨-, -, h⟩ := bind_ok h
  obtain ⟨⟨s₁, n⟩, h₁, h⟩ := bind_ok h
  obtain ⟨_, hn, h⟩ := bind_ok h
  obtain ⟨⟨s₂, n₂⟩, h₂, h⟩ := bind_ok h
  obtain ⟨s₃, h₃, h⟩ := bind_ok h
  cases h
  obtain ⟨hp, quotas, rfl, hq⟩ := QuotaStore.updateQuota_ok h₁ hmem
    (by simp only [Bool.and_eq_true, beq_iff_eq]; exact fun x hx => hx.1.1) (Or.inl (require_ok hn))
  obtain ⟨reservations, rfl, hr⟩ := QuotaStore.updateReservations_ok h₂
  obtain ⟨-, ledger, rfl, he⟩ := QuotaStore.insertLedgerEntry_ok h₃
  simp only [Bool.and_eq_true, beq_iff_eq] at hp
  -- the reservations of the quota are all of its application
  have hclose : s.reservations.rows.map (Table.rewrite (fun r => r.applicationId == applicationId &&
        r.quotaId == quota.id && r.status == .reserved) fun r => r.written (.expired, r.settledAiuMicros)) =
      (Change.renew (some .expired)).reservations quota s.reservations.rows := by
    refine List.map_congr_left ?_
    intro r hr
    obtain ⟨q, hq, hid, ha, -⟩ := hl.reservation r hr
    have hiff : (r.applicationId == applicationId && r.quotaId == quota.id) = (r.quotaId == quota.id) := by
      rw [Bool.eq_iff_iff]
      simp only [Bool.and_eq_true, beq_iff_eq, and_iff_right_iff_imp]
      intro hrq
      rw [ha, QuotaStore.quota_eq_of_id hq hmem (hid.symm.trans hrq), hp.1.2]
    simp only [Table.rewrite, Change.isOpenOf, hiff]
    rfl
  obtain ⟨m, hm, hmq, hmn, -, happ⟩ := Move.exists_applies s { s with quotas, reservations, ledger }
    (.renew (some .expired)) ⟨hmem, by simp, by simp⟩ hq (hr.trans hclose) he ⟨rfl, rfl, rfl⟩ rfl rfl
    (by simp [Change.configures])
    ⟨hp.1.2.symm, rfl, by simp [Change.entryTypes], rfl, rfl, rfl, (Int.zero_sub _).symm,
      (Int.zero_sub _).symm, rfl, rfl, rfl⟩
  exact ⟨m, hm, hmn, by rw [hmn, hmq]; rfl, rfl, rfl, rfl, happ⟩

theorem reserve_moves {settings : ReservationSettings} {call : CreateCall} {userId : Uuid} {quota : UserAiuQuota}
    {answer : ReservationAnswer} (hmem : quota ∈ s.quotas.rows) (ha : quota.applicationId = call.applicationId)
    (hu : quota.userId = userId) (hen : quota.enabled = true) (hhard : quota.hardLimit = true)
    (h : reserve settings s call userId quota = .ok (answer, s')) :
    s' = s ∨ ∃ m : Move, m.change = .reserve (newReservation settings call userId quota) ∧ m.Applies s s' := by
  unfold reserve at h
  dsimp only at h
  split at h
  · cases h; exact Or.inl rfl
  rename_i hrem
  right
  obtain ⟨⟨s₁, n⟩, h₁, h⟩ := bind_ok h
  obtain ⟨_, hn, h⟩ := bind_ok h
  obtain ⟨s₂, h₂, h⟩ := bind_ok h
  obtain ⟨s₃, h₃, h⟩ := bind_ok h
  cases h
  obtain ⟨-, quotas, rfl, hq⟩ := QuotaStore.updateQuota_ok h₁ hmem
    (by simp only [Bool.and_eq_true, beq_iff_eq]; exact fun x hx => hx.1.1) (Or.inl (require_ok hn))
  obtain ⟨hfresh, reservations, rfl, hr⟩ := QuotaStore.insertReservation_ok h₂
  obtain ⟨-, ledger, rfl, he⟩ := QuotaStore.insertLedgerEntry_ok h₃
  obtain ⟨m, hm, -, -, -, happ⟩ := Move.exists_applies s { s with quotas, reservations, ledger }
    (.reserve (newReservation settings call userId quota))
    ⟨hmem, hfresh, ⟨rfl, ha.symm, hu.symm⟩, rfl, rfl, hen, hhard, Int.not_lt.mp hrem⟩ hq hr he
    ⟨rfl, rfl, rfl⟩ rfl rfl (fun _ => rfl)
    ⟨ha.symm, rfl, by simp [Change.entryTypes], rfl, rfl, by simp [Change.keyed], (Int.sub_self _).symm,
      by dsimp only [UserAiuQuota.written]; omega, rfl, rfl, rfl⟩
  exact ⟨m, hm, happ⟩

theorem mem_tail_append {α : Type} {l l' : List α} (hl : l.length ≤ 1) {x : α} (h : x ∈ (l ++ l').tail) : x ∈ l' := by
  match l, hl with
  | [], _ => exact List.mem_of_mem_tail h
  | [_], _ => exact h

/-- The policy step of a `create`. -/
def CreateCall.policyInput (call : CreateCall) : MaterializeInput :=
  ⟨call.applicationId, call.userId, policyWindow call.timezone call.clock.policy,
    "Applied the effective AIU quota rule before model access"⟩

/-- After its policy step a `create` gets past the checks on the user and the quota, to
    the rollover and the duplicate check. -/
structure Admitted (s : QuotaStore) (call : CreateCall) (quota : UserAiuQuota) : Prop where
  user : ∃ u ∈ s.users.rows, (u.applicationId = call.applicationId ∧ u.id = call.userId) ∧ u.status ≠ .blocked
  quotaOf : s.quotaOf call.applicationId call.userId = some quota
  enabled : quota.enabled = true
  hardLimit : quota.hardLimit = true
  period : ¬ (quota.periodType = .fixedWindow ∧ quota.periodEnd.any (fun e => decide (e ≤ call.clock.ended)))

/-- The predicate of the duplicate check. -/
def CreateCall.isRepeat (call : CreateCall) (r : UserAiuReservation) : Bool :=
  r.applicationId == call.applicationId && r.userId == call.userId && r.operationId == call.request.operationId

theorem user_eq_of_id {u v : ApplicationUser} (hu : u ∈ s.users.rows) (hv : v ∈ s.users.rows) (h : u.id = v.id) :
    u = v :=
  s.users.eq_of_clash hu hv (by simp [Row.clash, h])

/-- How a `create` that answers got there. -/
theorem createReservation_ok {settings : ReservationSettings} {call : CreateCall} {answer : ReservationAnswer}
    (h : createReservation settings s call = .ok (answer, s')) :
    ∃ a s₁, materializeEffectiveAiuQuotaPolicy s call.policyInput call.policyIds = .ok (a, s₁) ∧
      ((s' = s₁ ∧ answer.reservation = none ∧ ∀ quota, ¬ Admitted s₁ call quota) ∨
        ∃ quota q₂ s₂, Admitted s₁ call quota ∧
          rolloverReservationQuota s₁ quota call.userId call.applicationId call.timezone call.clock
            call.rolloverEntry = .ok (q₂, s₂) ∧
          ((∃ row, s₂.reservations.rows.find? call.isRepeat = some row ∧ s' = s₂ ∧
              existing settings.codec row (s₂.quotaById row.applicationId row.quotaId) call.request call.candidates =
                .ok answer) ∨
            (s₂.reservations.rows.find? call.isRepeat = none ∧
              reserve settings s₂ call call.userId q₂ = .ok (answer, s')))) := by
  unfold createReservation at h
  obtain ⟨⟨a, s₁⟩, h₁, h⟩ := bind_ok h
  refine ⟨a, s₁, h₁, ?_⟩
  dsimp only at h
  split at h
  · cases h
  rename_i current hcurrent
  obtain ⟨hu, hp⟩ := Table.find?_mem hcurrent
  simp only [Bool.and_eq_true, beq_iff_eq] at hp
  rw [hp.2] at h
  have hblocked : current.status = .blocked → ∀ quota, ¬ Admitted s₁ call quota := by
    intro hb quota hyp
    obtain ⟨⟨v, hv, hid, hst⟩, -⟩ := hyp
    rw [user_eq_of_id hv hu (hid.2.trans hp.2.symm)] at hst
    exact hst hb
  split at h
  · rename_i hnone
    have hno : ∀ quota, ¬ Admitted s₁ call quota := by
      intro quota hadm
      rw [hadm.quotaOf] at hnone
      cases hnone
    split at h <;> (cases h; exact Or.inl ⟨rfl, rfl, hno⟩)
  rename_i quota hquota
  have hsome : ∀ {q}, Admitted s₁ call q → q = quota := by
    intro q hadm
    rw [hadm.quotaOf] at hquota
    exact Option.some.inj hquota
  split at h
  · cases h
    exact Or.inl ⟨rfl, rfl, hblocked ‹_›⟩
  rename_i hactive
  split at h
  · rename_i hflags
    cases h
    refine Or.inl ⟨rfl, rfl, fun q hadm => ?_⟩
    cases hsome hadm
    simp [hadm.enabled, hadm.hardLimit] at hflags
  rename_i hflags
  simp only [Bool.or_eq_true, Bool.not_eq_true', not_or, Bool.not_eq_false] at hflags
  split at h
  · rename_i hended
    cases h
    refine Or.inl ⟨rfl, rfl, fun q hadm => ?_⟩
    cases hsome hadm
    exact hadm.period hended
  rename_i hended
  obtain ⟨⟨q₂, s₂⟩, h₂, h⟩ := bind_ok h
  refine Or.inr ⟨quota, q₂, s₂, ⟨⟨current, hu, hp, hactive⟩, hquota, hflags.1, hflags.2, hended⟩, h₂, ?_⟩
  dsimp only at h
  split at h
  · rename_i row hrow
    obtain ⟨answer', h₃, h⟩ := bind_ok h
    cases h
    exact Or.inl ⟨row, hrow, rfl, h₃⟩
  · exact Or.inr ⟨‹_›, h⟩

theorem create_moves {settings : ReservationSettings} {call : CreateCall} {answer : ReservationAnswer} (hl : Linked s)
    (h : createReservation settings s call = .ok (answer, s')) :
    ∃ ms, Moves s ms s' ∧ (∀ m ∈ ms, m.change.configures = true ∨ ∃ r, m.change = .reserve r) ∧
      ∀ m ∈ ms.tail, m.next.limitAiuMicros = m.quota.limitAiuMicros := by
  obtain ⟨a, s₁, h₁, h⟩ := createReservation_ok h
  obtain ⟨ms₁, hms₁, hconf, hlen, hl₁⟩ : ∃ ms, Moves s ms s₁ ∧ (∀ m ∈ ms, m.change.configures = true) ∧
      ms.length ≤ 1 ∧ Linked s₁ := by
    rcases materialize_moves hl h₁ with rfl | ⟨m, hm, happ⟩
    · exact ⟨[], .nil (.refl s₁), by simp, by simp, hl⟩
    · exact ⟨[m], .one happ, by simpa using hm, by simp, hl.move happ⟩
  -- what follows the policy step keeps every limit
  suffices hrest : ∃ ms, Moves s₁ ms s' ∧ (∀ m ∈ ms, (m.change.configures = true ∨ ∃ r, m.change = .reserve r) ∧
      m.next.limitAiuMicros = m.quota.limitAiuMicros) by
    obtain ⟨ms₂, hms₂, hall⟩ := hrest
    refine ⟨ms₁ ++ ms₂, hms₁.append hms₂, ?_, ?_⟩
    · intro m hm
      rcases List.mem_append.mp hm with hm | hm
      · exact Or.inl (hconf m hm)
      · exact (hall m hm).1
    · exact fun m hm => (hall m (mem_tail_append hlen hm)).2
  rcases h with ⟨rfl, -, -⟩ | ⟨quota, q₂, s₂, hadm, h₂, h⟩
  · exact ⟨[], .nil (.refl s'), by simp⟩
  obtain ⟨hmem, ha, hu⟩ := QuotaStore.quotaOf_mem hadm.quotaOf
  obtain ⟨ms₂, hms₂, hkeep, hmem₂, hq₂, hl₂⟩ : ∃ ms, Moves s₁ ms s₂ ∧
      (∀ m ∈ ms, (m.change.configures = true ∨ ∃ r, m.change = .reserve r) ∧
        m.next.limitAiuMicros = m.quota.limitAiuMicros) ∧
      q₂ ∈ s₂.quotas.rows ∧ (q₂.id = quota.id ∧ q₂.applicationId = quota.applicationId ∧ q₂.userId = quota.userId ∧
        q₂.enabled = quota.enabled ∧ q₂.hardLimit = quota.hardLimit) ∧ Linked s₂ := by
    rcases rollover_moves hl₁ hmem h₂ with ⟨rfl, rfl⟩ | ⟨m, hm, rfl, hlim, hid, hen, hhard, happ⟩
    · exact ⟨[], .nil (.refl _), by simp, hmem, by simp, hl₁⟩
    · have hmq := QuotaStore.quota_eq_of_id (happ.guard.mem (by simp [hm])) hmem (m.same.1.symm.trans hid)
      refine ⟨[m], .one happ, ?_, happ.next_mem, ?_, hl₁.move happ⟩
      · simp only [List.mem_singleton, forall_eq]
        exact ⟨Or.inl (by rw [hm]; rfl), hlim⟩
      · exact ⟨hid, by rw [m.same.2.1, hmq], by rw [m.same.2.2, hmq], hen, hhard⟩
  rcases h with ⟨row, -, rfl, -⟩ | ⟨-, h⟩
  · exact ⟨ms₂, hms₂, hkeep⟩
  · rcases reserve_moves hmem₂ (hq₂.2.1.trans ha) (hq₂.2.2.1.trans hu) (hq₂.2.2.2.1.trans hadm.enabled)
      (hq₂.2.2.2.2.trans hadm.hardLimit) h with rfl | ⟨m, hm, happ⟩
    · exact ⟨ms₂, hms₂, hkeep⟩
    · refine ⟨ms₂ ++ [m], hms₂.append (.one happ), ?_⟩
      intro x hx
      rcases List.mem_append.mp hx with hx | hx
      · exact hkeep x hx
      · rw [List.mem_singleton] at hx
        subst hx
        exact ⟨Or.inr ⟨_, hm⟩, by rw [x.rest (by rw [hm]; rfl)]⟩

/-- The reservation a request names, with its quota. -/
theorem Linked.of_quotaById (hl : Linked s) {r : UserAiuReservation} (hr : r ∈ s.reservations.rows) {q : UserAiuQuota}
    (hq : s.quotaById r.applicationId r.quotaId = some q) : q ∈ s.quotas.rows ∧ r.Of q := by
  obtain ⟨hmem, -, hid⟩ := QuotaStore.quotaById_mem hq
  obtain ⟨q', hmem', hof⟩ := hl.reservation r hr
  rw [QuotaStore.quota_eq_of_id hmem hmem' (hid.trans hof.1)]
  exact ⟨hmem', hof⟩

/-- The change `settle` and `release` make. -/
def TransitionAction.change (r : UserAiuReservation) : TransitionAction → Change
  | .settle actual => .settle r actual none
  | .release _ => .close r .released

theorem closeReservation_moves {call : TransitionCall} {row : UserAiuReservation} {quota : UserAiuQuota}
    {answer : TransitionAnswer} (hrow : row ∈ s.reservations.rows) (hid : row.id = call.id)
    (ha : row.applicationId = call.applicationId) (hmem : quota ∈ s.quotas.rows) (hof : row.Of quota)
    (hst : row.status = .reserved) (h : closeReservation s call row quota = .ok (answer, s')) :
    ∃ m : Move, m.change = call.action.change row ∧ m.entry = transitionEntry call row quota ∧ m.Applies s s' := by
  unfold closeReservation at h
  obtain ⟨⟨s₁, n⟩, h₁, h⟩ := bind_ok h
  obtain ⟨_, hn, h⟩ := bind_ok h
  obtain ⟨⟨s₂, n₂⟩, h₂, h⟩ := bind_ok h
  obtain ⟨_, hn₂, h⟩ := bind_ok h
  obtain ⟨s₃, h₃, h⟩ := bind_ok h
  cases h
  obtain ⟨-, reservations, rfl, hr⟩ := QuotaStore.updateReservation_ok h₁ hrow
    (by simp only [Bool.and_eq_true, beq_iff_eq]; exact fun x hx => hx.1.1.1.trans hid.symm) (Or.inl (require_ok hn))
  obtain ⟨-, quotas, rfl, hq⟩ := QuotaStore.updateQuota_ok h₂ hmem
    (by simp only [Bool.and_eq_true, beq_iff_eq]; exact fun x hx => hx.1.1.trans hof.1) (Or.inl (require_ok hn₂))
  obtain ⟨-, ledger, rfl, he⟩ := QuotaStore.insertLedgerEntry_ok h₃
  have happ : call.applicationId = quota.applicationId := ha.symm.trans hof.2.1
  unfold transitionEntry at he
  cases hact : call.action with
  | settle actual =>
    rw [hact] at hr hq he
    obtain ⟨m, hm, -, -, hme, happ⟩ := Move.exists_applies s { s with quotas, reservations, ledger }
      (.settle row actual none) ⟨hmem, hrow, hof, hst, Int.natCast_nonneg _⟩ hq hr he ⟨rfl, rfl, rfl⟩ rfl rfl
      (fun _ => rfl) ⟨happ, hof.1, by simp [Change.entryTypes], rfl, rfl, by simp [Change.keyed],
        by simp only [UserAiuQuota.written, TransitionAction.consumed]; omega,
        by simp only [UserAiuQuota.written]; omega, rfl, rfl, rfl⟩
    exact ⟨m, hm, by rw [hme, transitionEntry, hact], happ⟩
  | release reason =>
    rw [hact] at hr hq he
    obtain ⟨m, hm, -, -, hme, happ⟩ := Move.exists_applies s { s with quotas, reservations, ledger }
      (.close row .released) ⟨hmem, hrow, hof, hst, Or.inl rfl⟩ hq hr he ⟨rfl, rfl, rfl⟩ (Int.add_zero _) rfl
      (fun _ => rfl) ⟨happ, hof.1, by simp [Change.entryTypes], rfl, rfl, by simp [Change.keyed],
        by simp only [UserAiuQuota.written, TransitionAction.consumed]; omega,
        by simp only [UserAiuQuota.written]; omega, rfl, rfl, rfl⟩
    exact ⟨m, hm, by rw [hme, transitionEntry, hact], happ⟩

theorem transition_moves {codec : UserReservationTokenCodec} {call : TransitionCall} {answer : TransitionAnswer}
    (hl : Linked s) (h : transition codec s call = .ok (answer, s')) :
    s' = s ∨ ∃ (m : Move) (r : UserAiuReservation), r.id = call.id ∧ r.applicationId = call.applicationId ∧
      m.change = call.action.change r ∧ m.Applies s s' := by
  unfold transition at h
  obtain ⟨verified, -, h⟩ := bind_ok h
  split at h
  · cases h
  rename_i row hrow
  split at h
  · cases h
  rename_i quota hquota
  obtain ⟨_, -, h⟩ := bind_ok h
  obtain ⟨hmem, hp⟩ := Table.find?_mem hrow
  simp only [Bool.and_eq_true, beq_iff_eq] at hp
  obtain ⟨hq, hof⟩ := hl.of_quotaById hmem hquota
  split at h
  · obtain ⟨_, -, h⟩ := bind_ok h
    cases h
    exact Or.inl rfl
  · cases h
  · obtain ⟨m, hm, -, happ⟩ := closeReservation_moves hmem hp.1 hp.2 hq hof ‹_› h
    exact Or.inr ⟨m, row, hp.1, hp.2, hm, happ⟩
  · cases h; exact Or.inl rfl
  · cases h

end Reservations

/-! ## Administration -/

section Administration

variable {s s' : QuotaStore}

theorem upsertUserPolicy_ok {call : SaveCall} {window : QuotaPeriodWindowValue} {policyId : Uuid}
    (h : upsertUserPolicy s call window = .ok (policyId, s')) : ∃ policies, s' = { s with policies } := by
  unfold upsertUserPolicy at h
  split at h
  · obtain ⟨⟨policies, n⟩, -, h⟩ := bind_ok h
    cases h
    exact ⟨policies, rfl⟩
  · obtain ⟨policies, -, h⟩ := bind_ok h
    cases h
    exact ⟨policies, rfl⟩

theorem save_moves {call : SaveCall} {u : Unit} (h : save s call = .ok (u, s')) :
    ∃ m : Move, (m.change = .grant ∨ m.change = .settings) ∧ m.Applies s s' := by
  unfold save at h
  obtain ⟨user, huser, h⟩ := bind_ok h
  obtain ⟨window, -, h⟩ := bind_ok h
  obtain ⟨⟨policyId, s₁⟩, h₁, h⟩ := bind_ok h
  obtain ⟨⟨saved, s₂⟩, h₂, h⟩ := bind_ok h
  obtain ⟨s₃, h₃, h⟩ := bind_ok h
  cases h
  obtain ⟨policies, rfl⟩ := upsertUserPolicy_ok h₁
  unfold upsertUserQuota at h₂
  split at h₂
  · rename_i quota hquota
    obtain ⟨hmem, ha, -⟩ := QuotaStore.quotaOf_mem hquota
    obtain ⟨⟨s₄, n⟩, h₄, h₂⟩ := bind_ok h₂
    cases h₂
    obtain ⟨-, quotas, rfl, hq⟩ := QuotaStore.updateQuota_ok h₄ hmem (by simp) (Or.inr (by simp))
    obtain ⟨-, ledger, rfl, he⟩ := QuotaStore.insertLedgerEntry_ok h₃
    obtain ⟨m, hm, -, -, -, happ⟩ := Move.exists_applies s { s with policies, quotas, ledger } .settings hmem hq rfl he
      ⟨rfl, rfl, rfl⟩ rfl rfl nofun
      ⟨ha.symm, rfl, by simp [Change.entryTypes], rfl, rfl, rfl, (Int.sub_self _).symm,
        (Int.sub_self _).symm, rfl, rfl, rfl⟩
    exact ⟨m, Or.inr hm, happ⟩
  · obtain ⟨s₄, h₄, h₂⟩ := bind_ok h₂
    cases h₂
    obtain ⟨hfresh, quotas, rfl, hq⟩ := QuotaStore.insertQuota_ok h₄
    obtain ⟨-, ledger, rfl, he⟩ := QuotaStore.insertLedgerEntry_ok h₃
    obtain ⟨m, hm, -, -, -, happ⟩ := Move.exists_applies s { s with policies, quotas, ledger } .grant
      ⟨hfresh, rfl, rfl⟩ hq rfl he ⟨rfl, rfl, rfl⟩ rfl rfl nofun
      ⟨rfl, rfl, by simp [Change.entryTypes], rfl, rfl, rfl, rfl, rfl, rfl, rfl, rfl⟩
    exact ⟨m, Or.inl hm, happ⟩

theorem requireUser_id {applicationId id : Uuid} {user : ApplicationUser}
    (h : requireUser s applicationId id = .ok user) : user.id = id := by
  unfold requireUser at h
  split at h
  · cases h
  · rename_i u hu
    cases h
    have hp := (Table.find?_mem hu).2
    simp only [Bool.and_eq_true, beq_iff_eq] at hp
    exact hp.2

theorem reset_moves {call : ResetCall} {u : Unit} (hl : Linked s) (h : reset s call = .ok (u, s')) :
    ∃ m : Move, m.change = .renew (some .released) ∧ m.Applies s s' := by
  unfold reset at h
  obtain ⟨user, huser, h⟩ := bind_ok h
  split at h
  · cases h
  rename_i quota hquota
  obtain ⟨window, -, h⟩ := bind_ok h
  unfold resetTransaction at h
  obtain ⟨⟨s₁, n⟩, h₁, h⟩ := bind_ok h
  obtain ⟨⟨s₂, n₂⟩, h₂, h⟩ := bind_ok h
  obtain ⟨_, hn, h⟩ := bind_ok h
  obtain ⟨s₃, h₃, h⟩ := bind_ok h
  cases h
  have huid : user.id = call.userId := requireUser_id huser
  obtain ⟨hmem, ha, hu⟩ := QuotaStore.quotaOf_mem hquota
  obtain ⟨reservations, rfl, hr⟩ := QuotaStore.updateReservations_ok h₁
  obtain ⟨-, quotas, rfl, hq⟩ := QuotaStore.updateQuota_ok h₂ hmem
    (by simp only [Bool.and_eq_true, beq_iff_eq]; exact fun x hx => hx.1.1) (Or.inl (require_ok hn))
  obtain ⟨-, ledger, rfl, he⟩ := QuotaStore.insertLedgerEntry_ok h₃
  obtain ⟨m, hm, -, -, -, happ⟩ := Move.exists_applies s { s with quotas, reservations, ledger }
    (.renew (some .released)) ⟨hmem, nofun, by simp⟩ hq (hr.trans (hl.close_user hmem ha (hu.trans huid))) he
    ⟨rfl, rfl, rfl⟩ rfl rfl nofun
    ⟨ha.symm, rfl, by simp [Change.entryTypes], rfl, rfl, rfl, (Int.zero_sub _).symm,
      (Int.zero_sub _).symm, rfl, rfl, rfl⟩
  exact ⟨m, hm, happ⟩

end Administration

/-! ## Settlement -/

section Settlement

variable {s s' : QuotaStore}

theorem reconcileSettled_moves {call : AiuCall} {r : UserAiuReservation} {quota : UserAiuQuota}
    {c : Option UserAiuConsumption} (hr : r ∈ s.reservations.rows) (ha : r.applicationId = call.applicationId)
    (hmem : quota ∈ s.quotas.rows) (hof : r.Of quota) (hst : r.status = .settled)
    (h : reconcileSettled s call r quota = .ok (c, s')) :
    (r.settledAiuMicros = call.settled ∧ s' = s) ∨ ∃ m : Move, m.change = .reconcile r call.settled call.eventId ∧
      m.entry = reconciliationEntry call r quota ∧ m.Applies s s' := by
  unfold reconcileSettled at h
  dsimp only at h
  split at h
  · cases h; exact Or.inl ⟨‹_›, rfl⟩
  rename_i hne
  right
  obtain ⟨⟨s₁, n⟩, h₁, h⟩ := bind_ok h
  obtain ⟨⟨s₂, n₂⟩, h₂, h⟩ := bind_ok h
  obtain ⟨_, hn, h⟩ := bind_ok h
  obtain ⟨s₃, h₃, h⟩ := bind_ok h
  cases h
  obtain ⟨hn₁, hn₂⟩ := require_ok hn
  obtain ⟨-, reservations, rfl, hr'⟩ := QuotaStore.updateReservation_ok h₁ hr
    (by simp only [Bool.and_eq_true, beq_iff_eq]; exact fun x hx => hx.1.1.2) (Or.inl hn₁)
  obtain ⟨-, quotas, rfl, hq⟩ := QuotaStore.updateQuota_ok h₂ hmem
    (by simp only [Bool.and_eq_true, beq_iff_eq]; exact fun x hx => hx.1.2.trans hof.1) (Or.inl hn₂)
  obtain ⟨-, ledger, rfl, he⟩ := QuotaStore.insertLedgerEntry_ok h₃
  obtain ⟨m, hm, -, -, hme, happ⟩ := Move.exists_applies s { s with quotas, reservations, ledger }
    (.reconcile r call.settled call.eventId) ⟨hmem, hr, hof, hst, Ne.symm hne, Int.natCast_nonneg _⟩ hq hr' he
    ⟨rfl, rfl, rfl⟩ rfl rfl (fun _ => rfl)
    ⟨ha.symm.trans hof.2.1, hof.1, by simp [Change.entryTypes, reconciliationEntry], rfl, rfl,
      by simp [Change.keyed, reconciliationEntry],
      by dsimp only [UserAiuQuota.written, reconciliationEntry]; omega, (Int.sub_self _).symm, rfl, rfl, rfl⟩
  exact ⟨m, hm, hme, happ⟩

theorem settleReserved_moves {call : AiuCall} {r : UserAiuReservation} {quota : UserAiuQuota}
    {c : Option UserAiuConsumption} (hr : r ∈ s.reservations.rows) (ha : r.applicationId = call.applicationId)
    (hmem : quota ∈ s.quotas.rows) (hof : r.Of quota) (hst : r.status = .reserved)
    (h : settleReserved s call r quota = .ok (c, s')) :
    ∃ m : Move, m.change = .settle r call.settled (some call.eventId) ∧ m.entry = settlementEntry call r quota ∧
      m.Applies s s' := by
  unfold settleReserved at h
  dsimp only at h
  obtain ⟨⟨s₁, n⟩, h₁, h⟩ := bind_ok h
  obtain ⟨⟨s₂, n₂⟩, h₂, h⟩ := bind_ok h
  obtain ⟨_, hn, h⟩ := bind_ok h
  obtain ⟨s₃, h₃, h⟩ := bind_ok h
  cases h
  obtain ⟨hn₁, hn₂⟩ := require_ok hn
  obtain ⟨-, reservations, rfl, hr'⟩ := QuotaStore.updateReservation_ok h₁ hr
    (by simp only [Bool.and_eq_true, beq_iff_eq]; exact fun x hx => hx.1.1.2) (Or.inl hn₁)
  obtain ⟨-, quotas, rfl, hq⟩ := QuotaStore.updateQuota_ok h₂ hmem
    (by simp only [Bool.and_eq_true, beq_iff_eq]; exact fun x hx => hx.1.2.trans hof.1) (Or.inl hn₂)
  obtain ⟨-, ledger, rfl, he⟩ := QuotaStore.insertLedgerEntry_ok h₃
  obtain ⟨m, hm, -, -, hme, happ⟩ := Move.exists_applies s { s with quotas, reservations, ledger }
    (.settle r call.settled (some call.eventId)) ⟨hmem, hr, hof, hst, Int.natCast_nonneg _⟩ hq hr' he
    ⟨rfl, rfl, rfl⟩ rfl rfl (fun _ => rfl)
    ⟨ha.symm.trans hof.2.1, hof.1, by simp [Change.entryTypes, settlementEntry], rfl, rfl,
      by simp [Change.keyed, settlementEntry], by dsimp only [UserAiuQuota.written, settlementEntry]; omega,
      by dsimp only [UserAiuQuota.written, settlementEntry]; omega, rfl, rfl, rfl⟩
  exact ⟨m, hm, hme, happ⟩

theorem consumeUnreserved_moves {call : AiuCall} {quota : UserAiuQuota} {actual : Nat}
    {c : Option UserAiuConsumption} (hmem : quota ∈ s.quotas.rows) (ha : quota.applicationId = call.applicationId)
    (hen : quota.enabled = true) (h : consumeUnreserved s call quota actual = .ok (c, s')) :
    s' = s ∨ ∃ m : Move, m.change = .consume actual call.eventId ∧ m.Applies s s' := by
  unfold consumeUnreserved at h
  split at h
  · cases h; exact Or.inl rfl
  right
  obtain ⟨⟨s₁, n⟩, h₁, h⟩ := bind_ok h
  obtain ⟨_, hn, h⟩ := bind_ok h
  obtain ⟨s₂, h₂, h⟩ := bind_ok h
  cases h
  obtain ⟨-, quotas, rfl, hq⟩ := QuotaStore.updateQuota_ok h₁ hmem
    (by simp only [Bool.and_eq_true, beq_iff_eq]; exact fun x hx => hx.1.2) (Or.inl (require_ok hn))
  obtain ⟨-, ledger, rfl, he⟩ := QuotaStore.insertLedgerEntry_ok h₂
  obtain ⟨m, hm, -, -, -, happ⟩ := Move.exists_applies s { s with quotas, ledger }
    (.consume actual call.eventId) ⟨hmem, hen, Int.natCast_nonneg _⟩ hq rfl he
    ⟨rfl, rfl, rfl⟩ rfl rfl (fun _ => rfl)
    ⟨ha.symm, rfl, by simp [Change.entryTypes, consumptionEntry], rfl, rfl, by simp [Change.keyed, consumptionEntry],
      by dsimp only [UserAiuQuota.written, consumptionEntry]; omega, (Int.sub_self _).symm, rfl, rfl, rfl⟩
  exact ⟨m, hm, happ⟩

/-- The changes the worker makes for an event. -/
def AiuCall.Makes (call : AiuCall) (c : Change) : Prop :=
  (∃ r : UserAiuReservation, call.reservationId = some r.id ∧ r.applicationId = call.applicationId ∧
    r.userId = call.userId ∧
    (c = .settle r call.settled (some call.eventId) ∨ c = .reconcile r call.settled call.eventId)) ∨
  (call.reservationId = none ∧ ∃ actual : Nat, call.actual = some actual ∧ c = .consume actual call.eventId)

theorem applyUserAiu_moves {call : AiuCall} {c : Option UserAiuConsumption} (hl : Linked s)
    (h : applyUserAiu s call = .ok (c, s')) : s' = s ∨ ∃ m : Move, call.Makes m.change ∧ m.Applies s s' := by
  unfold applyUserAiu at h
  split at h
  · rename_i id hid
    split at h
    · cases h
    rename_i r hr
    split at h
    · cases h
    rename_i quota hquota
    obtain ⟨hmem, hp⟩ := Table.find?_mem hr
    simp only [Bool.and_eq_true, beq_iff_eq] at hp
    obtain ⟨⟨ha, hrid⟩, hu⟩ := hp
    obtain ⟨hq, hof⟩ := hl.of_quotaById hmem hquota
    split at h
    · rcases reconcileSettled_moves hmem ha hq hof ‹_› h with ⟨-, h⟩ | ⟨m, hm, -, happ⟩
      · exact Or.inl h
      · exact Or.inr ⟨m, Or.inl ⟨r, by rw [hid, hrid], ha, hu, Or.inr hm⟩, happ⟩
    · obtain ⟨m, hm, -, happ⟩ := settleReserved_moves hmem ha hq hof ‹_› h
      exact Or.inr ⟨m, Or.inl ⟨r, by rw [hid, hrid], ha, hu, Or.inl hm⟩, happ⟩
    · cases h
  · rename_i hid
    split at h
    · cases h; exact Or.inl rfl
    rename_i actual hactual
    split at h
    · cases h; exact Or.inl rfl
    rename_i quota hquota
    split at h
    · rename_i hen
      obtain ⟨hmem, ha, -⟩ := QuotaStore.quotaOf_mem hquota
      rcases consumeUnreserved_moves hmem ha hen h with h | ⟨m, hm, happ⟩
      · exact Or.inl h
      · exact Or.inr ⟨m, Or.inr ⟨hid, actual, hactual, hm⟩, happ⟩
    · cases h; exact Or.inl rfl

theorem applyUserAiu_users {call : AiuCall} {c : Option UserAiuConsumption} (h : applyUserAiu s call = .ok (c, s')) :
    s'.users = s.users := by
  -- the statements of the three writing branches
  have hwritten : ∀ {p : UserAiuQuota → Bool} {f : UserAiuQuota → UserAiuQuota} {n : Nat} {e : UserAiuLedgerEntry}
      {s₁ s₂ : QuotaStore}, s₁.updateQuotas p f = .ok (s₂, n) → s₂.insertLedgerEntry e = .ok s' → s₁.users = s.users →
      s'.users = s.users := by
    intro p f n e s₁ s₂ h₂ h₃ hs₁
    obtain ⟨quotas, rfl⟩ := QuotaStore.updateQuotas_ok h₂
    obtain ⟨-, ledger, rfl, -⟩ := QuotaStore.insertLedgerEntry_ok h₃
    exact hs₁
  unfold applyUserAiu at h
  split at h
  · split at h
    · cases h
    split at h
    · cases h
    split at h
    · unfold reconcileSettled at h
      dsimp only at h
      split at h
      · cases h; rfl
      obtain ⟨⟨s₁, n⟩, h₁, h⟩ := bind_ok h
      obtain ⟨⟨s₂, n₂⟩, h₂, h⟩ := bind_ok h
      obtain ⟨_, -, h⟩ := bind_ok h
      obtain ⟨s₃, h₃, h⟩ := bind_ok h
      cases h
      obtain ⟨reservations, rfl, -⟩ := QuotaStore.updateReservations_ok h₁
      exact hwritten h₂ h₃ rfl
    · obtain ⟨⟨s₁, n⟩, h₁, h⟩ := bind_ok h
      obtain ⟨⟨s₂, n₂⟩, h₂, h⟩ := bind_ok h
      obtain ⟨_, -, h⟩ := bind_ok h
      obtain ⟨s₃, h₃, h⟩ := bind_ok h
      cases h
      obtain ⟨reservations, rfl, -⟩ := QuotaStore.updateReservations_ok h₁
      exact hwritten h₂ h₃ rfl
    · cases h
  · split at h
    · cases h; rfl
    split at h
    · cases h; rfl
    split at h
    · unfold consumeUnreserved at h
      split at h
      · cases h; rfl
      obtain ⟨⟨s₁, n⟩, h₁, h⟩ := bind_ok h
      obtain ⟨_, -, h⟩ := bind_ok h
      obtain ⟨s₂, h₂, h⟩ := bind_ok h
      cases h
      exact hwritten h₁ h₂ rfl
    · cases h; rfl

theorem expire_moves {call : ExpireCall} {swept : Bool} (hl : Linked s) (h : expire s call = .ok (swept, s')) :
    s' = s ∨ ∃ (m : Move) (r : UserAiuReservation), r.id = call.id ∧ m.change = .close r .expired ∧ m.Applies s s' := by
  unfold expire at h
  split at h
  · cases h; exact Or.inl rfl
  rename_i r hr
  split at h
  · cases h; exact Or.inl rfl
  rename_i quota hquota
  right
  obtain ⟨hmem, hp⟩ := Table.find?_mem hr
  simp only [Bool.and_eq_true, beq_iff_eq, decide_eq_true_eq] at hp
  obtain ⟨⟨⟨hid, ha⟩, hst⟩, -⟩ := hp
  obtain ⟨hq, hof⟩ := hl.of_quotaById hmem hquota
  obtain ⟨_, -, h⟩ := bind_ok h
  obtain ⟨⟨s₁, n⟩, h₁, h⟩ := bind_ok h
  obtain ⟨⟨s₂, n₂⟩, h₂, h⟩ := bind_ok h
  obtain ⟨_, hn, h⟩ := bind_ok h
  obtain ⟨s₃, h₃, h⟩ := bind_ok h
  cases h
  obtain ⟨hn₁, hn₂⟩ := require_ok hn
  obtain ⟨-, reservations, rfl, hr'⟩ := QuotaStore.updateReservation_ok h₁ hmem
    (by simp only [Bool.and_eq_true, beq_iff_eq]; exact fun x hx => hx.1.1.1) (Or.inl hn₁)
  obtain ⟨-, quotas, rfl, hq'⟩ := QuotaStore.updateQuota_ok h₂ hq
    (by simp only [Bool.and_eq_true, beq_iff_eq]; exact fun x hx => hx.1.1.trans hof.1) (Or.inl hn₂)
  obtain ⟨-, ledger, rfl, he⟩ := QuotaStore.insertLedgerEntry_ok h₃
  obtain ⟨m, hm, -, -, -, happ⟩ := Move.exists_applies s { s with quotas, reservations, ledger }
    (.close r .expired) ⟨hq, hmem, hof, hst, Or.inr rfl⟩ hq' hr' he ⟨rfl, rfl, rfl⟩ rfl rfl (fun _ => rfl)
    ⟨ha.symm.trans hof.2.1, hof.1, by simp [Change.entryTypes], rfl, rfl, by simp [Change.keyed],
      (Int.sub_self _).symm, by dsimp only [UserAiuQuota.written]; omega, rfl, rfl, rfl⟩
  exact ⟨m, r, hid, hm, happ⟩

end Settlement

/-! ## Every operation -/

/-- The changes an operation can make. -/
def Op.Makes : Op → Change → Prop
  | .configure _ _ _, _ => False
  | .identify _ _ _, _ => False
  | .create _, c => c.configures = true ∨ ∃ r, c = .reserve r
  | .transition call, c => ∃ r : UserAiuReservation, r.id = call.id ∧ r.applicationId = call.applicationId ∧
      c = call.action.change r
  | .materialize _, c => c.configures = true
  | .save _, c => c = .grant ∨ c = .settings
  | .reset _, c => c = .renew (some .released)
  | .expire call, c => ∃ r : UserAiuReservation, r.id = call.id ∧ c = .close r .expired
  | .applyUserAiu call, c => call.Makes c

/-- Only the SDK and the worker spend. -/
theorem Op.Makes.spends_false {op : Op} {c : Change} (h : op.Makes c) (hsdk : ∀ call, op ≠ .transition call)
    (hworker : ∀ call, op ≠ .applyUserAiu call) : c.spends = false := by
  have hconf : c.configures = true → c.spends = false := by cases c <;> simp [Change.configures, Change.spends]
  cases op with
  | configure | identify => exact absurd h id
  | create =>
    rcases h with h | ⟨r, rfl⟩
    · exact hconf h
    · rfl
  | transition call => exact absurd rfl (hsdk call)
  | materialize => exact hconf h
  | save => rcases h with rfl | rfl <;> rfl
  | reset => cases h; rfl
  | expire => obtain ⟨r, -, rfl⟩ := h; rfl
  | applyUserAiu call => exact absurd rfl (hworker call)

theorem answered_ok {α : Type} {f : α → Answer} {x : Except Failure (α × QuotaStore)} {answer : Answer}
    {s' : QuotaStore} (h : answered f x = .ok (answer, s')) : ∃ a, x = .ok (a, s') := by
  unfold answered at h
  split at h
  · cases h; exact ⟨_, rfl⟩
  · cases h

theorem answered_error {α : Type} {f : α → Answer} {x : Except Failure (α × QuotaStore)} {e : Failure}
    (h : x = .error e) : answered f x = .error e := by
  rw [h]
  rfl

theorem upsertApplicationUser_same {s s' : QuotaStore} {applicationId id : Uuid} {externalId : String}
    {user : ApplicationUser} (h : upsertApplicationUser s applicationId externalId id = .ok (user, s')) :
    SameRecords s s' := by
  unfold upsertApplicationUser at h
  split at h
  · cases h; exact .refl s
  · obtain ⟨users, -, h⟩ := bind_ok h
    cases h
    exact ⟨rfl, rfl, rfl⟩

variable {settings : ReservationSettings}

/-- A call that returns made moves of its own kind; only the first may have changed a limit. -/
theorem exec_moves {s s' : QuotaStore} {op : Op} {answer : Answer} (hl : Linked s)
    (h : exec settings s op = .ok (answer, s')) :
    ∃ ms, Moves s ms s' ∧ (∀ m ∈ ms, op.Makes m.change) ∧
      ∀ m ∈ ms.tail, m.next.limitAiuMicros = m.quota.limitAiuMicros := by
  have hsame : SameRecords s s' → ∃ ms, Moves s ms s' ∧ (∀ m ∈ ms, op.Makes m.change) ∧
      ∀ m ∈ ms.tail, m.next.limitAiuMicros = m.quota.limitAiuMicros :=
    fun hs => ⟨[], .nil hs, by simp, by simp⟩
  have hone : ∀ m : Move, op.Makes m.change → m.Applies s s' → ∃ ms, Moves s ms s' ∧
      (∀ m ∈ ms, op.Makes m.change) ∧ ∀ m ∈ ms.tail, m.next.limitAiuMicros = m.quota.limitAiuMicros :=
    fun m hm happ => ⟨[m], .one happ, by simpa using hm, by simp⟩
  cases op with
  | configure users policies groups =>
    cases h
    exact hsame ⟨rfl, rfl, rfl⟩
  | identify applicationId externalId id =>
    obtain ⟨a, h⟩ := answered_ok h
    exact hsame (upsertApplicationUser_same h)
  | create call =>
    obtain ⟨a, h⟩ := answered_ok h
    exact create_moves hl h
  | transition call =>
    obtain ⟨a, h⟩ := answered_ok h
    rcases transition_moves hl h with rfl | ⟨m, r, hid, ha, hm, happ⟩
    · exact hsame (.refl _)
    · exact hone m ⟨r, hid, ha, hm⟩ happ
  | materialize call =>
    obtain ⟨a, h⟩ := answered_ok h
    rcases materialize_moves hl h with rfl | ⟨m, hm, happ⟩
    · exact hsame (.refl _)
    · exact hone m hm happ
  | save call =>
    obtain ⟨a, h⟩ := answered_ok h
    obtain ⟨m, hm, happ⟩ := save_moves h
    exact hone m hm happ
  | reset call =>
    obtain ⟨a, h⟩ := answered_ok h
    obtain ⟨m, hm, happ⟩ := reset_moves hl h
    exact hone m hm happ
  | expire call =>
    obtain ⟨a, h⟩ := answered_ok h
    rcases expire_moves hl h with rfl | ⟨m, r, hid, hm, happ⟩
    · exact hsame (.refl _)
    · exact hone m ⟨r, hid, hm⟩ happ
  | applyUserAiu call =>
    obtain ⟨a, h⟩ := answered_ok h
    rcases applyUserAiu_moves hl h with rfl | ⟨m, hm, happ⟩
    · exact hsame (.refl _)
    · exact hone m hm happ

/-! ## Runs -/

theorem empty_linked : Linked .empty := by
  constructor <;> simp [QuotaStore.empty, Table.empty]

theorem run_linked {s : QuotaStore} (hl : Linked s) (ops : List Op) : Linked ((system settings).run s ops) := by
  refine Machine.run_invariant (P := Linked) ?_ ops s hl
  intro s op answer s' hl hexec
  obtain ⟨ms, hms, -, -⟩ := exec_moves hl hexec
  exact hms.linked hl

/-- A property of the records that every move keeps holds of every reachable store. -/
theorem reachable_invariant {P : QuotaStore → Prop} (hempty : P .empty)
    (hsame : ∀ s s', SameRecords s s' → P s → P s')
    (hmove : ∀ m s s', Linked s → P s → Move.Applies m s s' → P s') {s : QuotaStore} (h : Reachable settings s) :
    Linked s ∧ P s := by
  obtain ⟨ops, rfl⟩ := h
  refine Machine.run_invariant (P := fun s => Linked s ∧ P s) ?_ ops .empty ⟨empty_linked, hempty⟩
  intro s op answer s' hyp hexec
  obtain ⟨hl, hP⟩ := hyp
  obtain ⟨ms, hms, -, -⟩ := exec_moves hl hexec
  exact hms.invariant (fun _ => True) hsame (fun m s s' hl hP _ ha => hmove m s s' hl hP ha) hl hP fun _ _ => trivial

theorem reachable_linked {s : QuotaStore} (h : Reachable settings s) : Linked s := by
  obtain ⟨ops, rfl⟩ := h
  exact run_linked empty_linked ops

theorem Moves.reservation_kept {s s' : QuotaStore} {ms : List Move} (h : Moves s ms s') {r : UserAiuReservation}
    (hr : r ∈ s.reservations.rows) : ∃ r' ∈ s'.reservations.rows,
      r'.terms = r.terms ∧ (r.status ≠ .reserved → r'.status = r.status) := by
  induction h generalizing r with
  | nil hs => exact ⟨r, by rw [hs.reservations]; exact hr, rfl, fun _ => rfl⟩
  | cons ha _ ih =>
    obtain ⟨r₁, hr₁, ht₁, hst₁⟩ := Change.reservations_kept ha.guard hr
    rw [← ha.reservations] at hr₁
    obtain ⟨r', hr', ht', hst'⟩ := ih hr₁
    refine ⟨r', hr', ht'.trans ht₁, fun hne => ?_⟩
    rw [hst' (by rw [hst₁ hne]; exact hne), hst₁ hne]

variable (settings) in
/-- Through any run a reservation keeps its terms, and its status once that is not open. -/
theorem run_reservation_kept {s : QuotaStore} (hl : Linked s) {r : UserAiuReservation} (hr : r ∈ s.reservations.rows)
    (ops : List Op) : ∃ r' ∈ ((system settings).run s ops).reservations.rows,
      r'.terms = r.terms ∧ (r.status ≠ .reserved → r'.status = r.status) := by
  refine (Machine.run_invariant (m := system settings) (P := fun x => Linked x ∧ ∃ r' ∈ x.reservations.rows,
    r'.terms = r.terms ∧ (r.status ≠ .reserved → r'.status = r.status)) ?_ ops s ⟨hl, r, hr, rfl, fun _ => rfl⟩).2
  intro x op answer x' hyp hexec
  obtain ⟨hlx, r₁, hr₁, ht₁, hst₁⟩ := hyp
  obtain ⟨ms, hms, -, -⟩ := exec_moves hlx hexec
  obtain ⟨r', hr', ht', hst'⟩ := hms.reservation_kept hr₁
  refine ⟨hms.linked hlx, r', hr', ht'.trans ht₁, fun hne => ?_⟩
  rw [hst' (by rw [hst₁ hne]; exact hne), hst₁ hne]

end TokenPilot.Quota
