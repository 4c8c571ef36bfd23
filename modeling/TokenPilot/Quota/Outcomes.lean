/-
  TokenPilot.Quota.Outcomes — how `applyUserAiu` and the SDK's settlement end.

  `TokenPilot.Quota.Effects` says what a call that returned did. Here it is said when
  it returns, and how it fails otherwise: the worker on a reservation that is open
  (`settleReserved_ok`, `settleReserved_taken`), settled (`reconcileSettled_ok`,
  `reconcileSettled_taken`, `reconcileSettled_refused`) or closed, the worker on usage
  without a reservation (`applyUserAiu_unreserved`), and the SDK, by the status of the
  reservation (`transition_eq`, `closeReservation_ok`). The generated id of the ledger
  entry is taken to be new; whether its idempotency key is (`Taken`) is part of the
  outcome.
-/

import TokenPilot.Quota.ReservedBalance

namespace TokenPilot.Quota

open TokenPilot.Library

/-! ## Constraints of the rows written -/

section Refused

variable {s : QuotaStore} {q : UserAiuQuota}

theorem period_kept (hq : q ∈ s.quotas.rows) : q.periodEnd.any (fun e => decide (e ≤ q.periodStart)) = false := by
  have h := s.quotas.checked q hq
  simp only [Row.refused] at h
  split at h
  · cases h
  · split at h
    · cases h
    · rename_i hp
      exact Bool.eq_false_iff.mpr hp

/-- A row with nonnegative counters and the period of an accepted row is accepted. -/
theorem quota_accepted {q' : UserAiuQuota} (hq : q ∈ s.quotas.rows)
    (hperiod : q'.periodStart = q.periodStart ∧ q'.periodEnd = q.periodEnd)
    (h : 0 ≤ q'.limitAiuMicros ∧ 0 ≤ q'.consumedAiuMicros ∧ 0 ≤ q'.reservedAiuMicros) : Row.refused q' = none := by
  simp only [Row.refused]
  rw [if_neg (not_not_intro h), hperiod.1, hperiod.2, period_kept hq]
  rfl

theorem quota_refused {q' : UserAiuQuota}
    (h : ¬ (0 ≤ q'.limitAiuMicros ∧ 0 ≤ q'.consumedAiuMicros ∧ 0 ≤ q'.reservedAiuMicros)) :
    Row.refused q' = some "user_aiu_quotas_counters_check" :=
  if_pos h

theorem reservation_accepted {r : UserAiuReservation} (hr : r ∈ s.reservations.rows) {data : AiuReservationStatus × Int}
    (h : 0 ≤ data.2) : Row.refused (r.written data) = none := by
  have := QuotaStore.reservation_amounts hr
  exact if_pos ⟨this.1, this.2.1, h⟩

theorem entry_accepted {e : UserAiuLedgerEntry}
    (h : 0 ≤ e.consumedAfterMicros ∧ 0 ≤ e.reservedAfterMicros ∧ 0 ≤ e.limitAfterMicros) : Row.refused e = none :=
  if_pos h

end Refused

theorem QuotaStore.FreshStamp.no_clash {s : QuotaStore} {e : UserAiuLedgerEntry} {stamp : Stamp}
    (hs : s.FreshStamp stamp) (hid : e.id = stamp.id) (hk : ¬ s.Taken e.applicationId e.idempotencyKey) :
    ∀ x ∈ s.ledger.rows, Row.clash x e = false := by
  intro x hx
  have hne : x.id ≠ e.id := by rw [hid]; exact hs x hx
  simp only [Row.clash, Bool.or_eq_false_iff, beq_eq_false_iff_ne, Bool.and_eq_false_iff]
  refine ⟨hne, ?_⟩
  by_cases ha : x.applicationId = e.applicationId
  · exact Or.inr fun hkey => hk ⟨x, hx, ha, hkey⟩
  · exact Or.inl ha

theorem QuotaStore.Taken.clash {s : QuotaStore} {e : UserAiuLedgerEntry}
    (h : s.Taken e.applicationId e.idempotencyKey) : ∃ x ∈ s.ledger.rows, Row.clash x e = true := by
  obtain ⟨x, hx, ha, hk⟩ := h
  exact ⟨x, hx, by simp [Row.clash, ha, hk]⟩

/-! ## The worker -/

section Worker

variable {s : QuotaStore} {call : AiuCall} {r : UserAiuReservation} {quota : UserAiuQuota}

variable (call) in
/-- The writes of `settleReserved`, up to its ledger entry. -/
theorem settleReserved_eq (hbal : ReservedBalance s) (hr : r ∈ s.reservations.rows)
    (ha : r.applicationId = call.applicationId) (hq : quota ∈ s.quotas.rows) (hof : r.Of quota)
    (hst : r.status = .reserved) :
    ∃ reservations quotas, settleReserved s call r quota =
      (({ s with reservations, quotas } : QuotaStore).insertLedgerEntry (settlementEntry call r quota) >>= fun s' =>
        .ok (some ⟨call.settled, .allow⟩, s')) := by
  have hle := hbal.le hq hr hof.1 hst
  have hc := QuotaStore.quota_counters hq
  have hset : 0 ≤ call.settled := Int.natCast_nonneg _
  obtain ⟨reservations, h₁, -⟩ := QuotaStore.updateReservation_of (s := s)
    (p := fun x => x.applicationId == call.applicationId && x.id == r.id && x.status == .reserved &&
      x.lockVersion == r.lockVersion) (d := fun _ => (.settled, call.settled)) hr
    (by simp only [Bool.and_eq_true, beq_iff_eq]; exact fun x hx => hx.1.1.2) (by simp [ha, hst])
    (reservation_accepted hr hset)
  obtain ⟨quotas, h₂, -⟩ := QuotaStore.updateQuota_of (s := { s with reservations })
    (p := fun q => q.applicationId == call.applicationId && q.id == r.quotaId && q.lockVersion == quota.lockVersion)
    (f := fun q => { q with
      reservedAiuMicros := q.reservedAiuMicros - r.reservedAiuMicros
      consumedAiuMicros := q.consumedAiuMicros + call.settled }) hq
    (by simp only [Bool.and_eq_true, beq_iff_eq]; exact fun x hx => hx.1.2.trans hof.1)
    (by simp [← hof.1, ← hof.2.1, ha]) (quota_accepted hq ⟨rfl, rfl⟩ (by dsimp only [UserAiuQuota.written]; omega))
  exact ⟨reservations, quotas, bind_of h₁ (bind_of h₂ (bind_of (require_of _ ⟨rfl, rfl⟩) rfl))⟩

theorem settlementEntry_accepted (hbal : ReservedBalance s) (hr : r ∈ s.reservations.rows)
    (hq : quota ∈ s.quotas.rows) (hof : r.Of quota) (hst : r.status = .reserved) :
    Row.refused (settlementEntry call r quota) = none := by
  have hle := hbal.le hq hr hof.1 hst
  have hc := QuotaStore.quota_counters hq
  have hset : 0 ≤ call.settled := Int.natCast_nonneg _
  exact entry_accepted (by dsimp only [settlementEntry]; omega)

theorem settleReserved_ok (hbal : ReservedBalance s) (hr : r ∈ s.reservations.rows)
    (ha : r.applicationId = call.applicationId) (hq : quota ∈ s.quotas.rows) (hof : r.Of quota)
    (hst : r.status = .reserved) (hstamp : s.FreshStamp call.entry)
    (hkey : ¬ s.Taken call.applicationId (.usageSettle call.eventId)) :
    ∃ s', settleReserved s call r quota = .ok (some ⟨call.settled, .allow⟩, s') := by
  obtain ⟨reservations, quotas, heq⟩ := settleReserved_eq call hbal hr ha hq hof hst
  obtain ⟨ledger, h₃, -⟩ := QuotaStore.insertLedgerEntry_of (s := { s with reservations, quotas })
    (settlementEntry_accepted hbal hr hq hof hst) (hstamp.no_clash rfl hkey)
  exact ⟨_, heq.trans (bind_of h₃ rfl)⟩

theorem settleReserved_taken (hbal : ReservedBalance s) (hr : r ∈ s.reservations.rows)
    (ha : r.applicationId = call.applicationId) (hq : quota ∈ s.quotas.rows) (hof : r.Of quota)
    (hst : r.status = .reserved) (hkey : s.Taken call.applicationId (.usageSettle call.eventId)) :
    settleReserved s call r quota = .error (.database .unique) := by
  obtain ⟨reservations, quotas, heq⟩ := settleReserved_eq call hbal hr ha hq hof hst
  obtain ⟨x, hx, hclash⟩ := QuotaStore.Taken.clash (e := settlementEntry call r quota) hkey
  exact heq.trans (bind_throws (QuotaStore.insertLedgerEntry_clash (s := { s with reservations, quotas })
    (settlementEntry_accepted hbal hr hq hof hst) hx hclash))

/-- A repeated amount changes nothing. -/
theorem reconcileSettled_same (h : r.settledAiuMicros = call.settled) :
    reconcileSettled s call r quota = .ok (some ⟨call.settled, .allow⟩, s) := by
  unfold reconcileSettled
  dsimp only
  rw [if_pos h, h]
  rfl

/-- The rows a reconciliation of another amount reaches, and whether its quota update is accepted. -/
theorem reconcileSettled_eq (hr : r ∈ s.reservations.rows) (ha : r.applicationId = call.applicationId)
    (hq : quota ∈ s.quotas.rows) (hof : r.Of quota) (hst : r.status = .settled)
    (hne : r.settledAiuMicros ≠ call.settled) :
    (quota.consumedAiuMicros + call.settled < r.settledAiuMicros ∧
      reconcileSettled s call r quota = .error (.database (.check "user_aiu_quotas_counters_check"))) ∨
    (r.settledAiuMicros ≤ quota.consumedAiuMicros + call.settled ∧
      ∃ reservations quotas, reconcileSettled s call r quota =
        (({ s with reservations, quotas } : QuotaStore).insertLedgerEntry (reconciliationEntry call r quota) >>= fun s' =>
          .ok (some ⟨call.settled, .allow⟩, s'))) := by
  have hc := QuotaStore.quota_counters hq
  have hset : 0 ≤ call.settled := Int.natCast_nonneg _
  obtain ⟨reservations, h₁, -⟩ := QuotaStore.updateReservation_of (s := s)
    (p := fun x => x.applicationId == call.applicationId && x.id == r.id && x.status == .settled &&
      x.lockVersion == r.lockVersion) (d := fun _ => (.settled, call.settled)) hr
    (by simp only [Bool.and_eq_true, beq_iff_eq]; exact fun x hx => hx.1.1.2) (by simp [ha, hst])
    (reservation_accepted hr hset)
  have hunfold : ∀ y, (({ s with reservations } : QuotaStore).updateQuotas
      (fun q => q.applicationId == call.applicationId && q.id == r.quotaId && q.lockVersion == quota.lockVersion)
      (fun q => { q with consumedAiuMicros := q.consumedAiuMicros + (call.settled - r.settledAiuMicros) }) >>= fun x => do
        require ((1 : Nat) = 1 ∧ x.2 = 1) reservationChanged
        let s' ← x.1.insertLedgerEntry (reconciliationEntry call r quota)
        return (some ⟨call.settled, .allow⟩, s')) = y → reconcileSettled s call r quota = y := by
    intro y hy
    unfold reconcileSettled
    dsimp only
    rw [if_neg hne]
    exact bind_of h₁ hy
  by_cases hneg : quota.consumedAiuMicros + call.settled < r.settledAiuMicros
  · refine Or.inl ⟨hneg, hunfold _ (bind_throws ?_)⟩
    exact QuotaStore.updateQuota_refused (s := { s with reservations }) hq
      (by simp only [Bool.and_eq_true, beq_iff_eq]; exact fun x hx => hx.1.2.trans hof.1)
      (by simp [← hof.1, ← hof.2.1, ha]) (quota_refused (by dsimp only [UserAiuQuota.written]; omega))
  · refine Or.inr ⟨by omega, reservations, ?_⟩
    obtain ⟨quotas, h₂, -⟩ := QuotaStore.updateQuota_of (s := { s with reservations })
      (p := fun q => q.applicationId == call.applicationId && q.id == r.quotaId && q.lockVersion == quota.lockVersion)
      (f := fun q => { q with consumedAiuMicros := q.consumedAiuMicros + (call.settled - r.settledAiuMicros) }) hq
      (by simp only [Bool.and_eq_true, beq_iff_eq]; exact fun x hx => hx.1.2.trans hof.1)
      (by simp [← hof.1, ← hof.2.1, ha]) (quota_accepted hq ⟨rfl, rfl⟩ (by dsimp only [UserAiuQuota.written]; omega))
    exact ⟨quotas, hunfold _ (bind_of h₂ (bind_of (require_of _ ⟨rfl, rfl⟩) rfl))⟩

theorem reconciliationEntry_accepted (hq : quota ∈ s.quotas.rows)
    (hle : r.settledAiuMicros ≤ quota.consumedAiuMicros + call.settled) :
    Row.refused (reconciliationEntry call r quota) = none := by
  have hc := QuotaStore.quota_counters hq
  exact entry_accepted (by dsimp only [reconciliationEntry]; omega)

theorem reconcileSettled_ok (hr : r ∈ s.reservations.rows) (ha : r.applicationId = call.applicationId)
    (hq : quota ∈ s.quotas.rows) (hof : r.Of quota) (hst : r.status = .settled) (hstamp : s.FreshStamp call.entry)
    (hkey : ¬ s.Taken call.applicationId (.usageReconciliation call.eventId))
    (hle : r.settledAiuMicros ≤ quota.consumedAiuMicros + call.settled) :
    ∃ s', reconcileSettled s call r quota = .ok (some ⟨call.settled, .allow⟩, s') := by
  by_cases hne : r.settledAiuMicros = call.settled
  · exact ⟨s, reconcileSettled_same hne⟩
  rcases reconcileSettled_eq hr ha hq hof hst hne with ⟨hlt, -⟩ | ⟨-, reservations, quotas, heq⟩
  · omega
  · obtain ⟨ledger, h₃, -⟩ := QuotaStore.insertLedgerEntry_of (s := { s with reservations, quotas })
      (reconciliationEntry_accepted hq hle) (hstamp.no_clash rfl hkey)
    exact ⟨_, heq.trans (bind_of h₃ rfl)⟩

theorem reconcileSettled_refused (hr : r ∈ s.reservations.rows) (ha : r.applicationId = call.applicationId)
    (hq : quota ∈ s.quotas.rows) (hof : r.Of quota) (hst : r.status = .settled)
    (hlt : quota.consumedAiuMicros + call.settled < r.settledAiuMicros) :
    reconcileSettled s call r quota = .error (.database (.check "user_aiu_quotas_counters_check")) := by
  have hc := QuotaStore.quota_counters hq
  rcases reconcileSettled_eq hr ha hq hof hst (by omega) with ⟨-, h⟩ | ⟨hle, -⟩
  · exact h
  · omega

theorem reconcileSettled_taken (hr : r ∈ s.reservations.rows) (ha : r.applicationId = call.applicationId)
    (hq : quota ∈ s.quotas.rows) (hof : r.Of quota) (hst : r.status = .settled)
    (hne : r.settledAiuMicros ≠ call.settled)
    (hkey : s.Taken call.applicationId (.usageReconciliation call.eventId)) :
    ∃ e, reconcileSettled s call r quota = .error e := by
  rcases reconcileSettled_eq hr ha hq hof hst hne with ⟨-, h⟩ | ⟨hle, reservations, quotas, heq⟩
  · exact ⟨_, h⟩
  · obtain ⟨x, hx, hclash⟩ := QuotaStore.Taken.clash (e := reconciliationEntry call r quota) hkey
    exact ⟨_, heq.trans (bind_throws (QuotaStore.insertLedgerEntry_clash (s := { s with reservations, quotas })
      (reconciliationEntry_accepted hq hle) hx hclash))⟩

end Worker

/-! ## Reads of a linked store -/

section Reads

variable {s : QuotaStore} {r : UserAiuReservation} {quota : UserAiuQuota}

theorem quotaById_of (hq : quota ∈ s.quotas.rows) (hof : r.Of quota) :
    s.quotaById r.applicationId r.quotaId = some quota :=
  s.quotas.find?_of_clash hq (by simp [hof.1, hof.2.1]) fun x hx => by
    simp only [Bool.and_eq_true, beq_iff_eq] at hx
    simp [Row.clash, hx.2, hof.1]

/-- `applyUserAiu` on an event that names a reservation of its user goes by the status. -/
theorem applyUserAiu_reserved {call : AiuCall} (hr : r ∈ s.reservations.rows) (hid : call.reservationId = some r.id)
    (ha : r.applicationId = call.applicationId) (hu : r.userId = call.userId) (hq : quota ∈ s.quotas.rows)
    (hof : r.Of quota) :
    applyUserAiu s call = match r.status with
      | .settled => reconcileSettled s call r quota
      | .reserved => settleReserved s call r quota
      | _ => .error (.typeError "Usage event AIU reservation is already closed") := by
  have hfind : s.reservations.rows.find? (fun x => x.applicationId == call.applicationId && x.id == r.id &&
      x.userId == call.userId) = some r :=
    s.reservations.find?_of_clash hr (by simp [ha, hu]) fun x hx => by
      simp only [Bool.and_eq_true, beq_iff_eq] at hx
      simp [Row.clash, hx.1.2]
  unfold applyUserAiu
  simp only [hid, hfind, quotaById_of hq hof]
  rfl

/-- Usage without a reservation is always taken. -/
theorem applyUserAiu_unreserved {call : AiuCall} (hid : call.reservationId = none) (hstamp : s.FreshStamp call.entry) :
    ∃ result, applyUserAiu s call = .ok result := by
  unfold applyUserAiu
  simp only [hid]
  split
  · exact ⟨_, rfl⟩
  rename_i actual hactual
  split
  · exact ⟨_, rfl⟩
  rename_i q hquota
  split
  swap
  · exact ⟨_, rfl⟩
  unfold consumeUnreserved
  split
  · exact ⟨_, rfl⟩
  rename_i hnone
  obtain ⟨hq, ha, -⟩ := QuotaStore.quotaOf_mem hquota
  have hc := QuotaStore.quota_counters hq
  obtain ⟨quotas, h₁, -⟩ := QuotaStore.updateQuota_of (s := s)
    (p := fun x => x.applicationId == call.applicationId && x.id == q.id && x.lockVersion == q.lockVersion)
    (f := fun x => { x with consumedAiuMicros := x.consumedAiuMicros + actual }) hq
    (by simp only [Bool.and_eq_true, beq_iff_eq]; exact fun x hx => hx.1.2) (by simp [ha])
    (quota_accepted hq ⟨rfl, rfl⟩ (by dsimp only [UserAiuQuota.written]; omega))
  have hfree : ¬ s.Taken call.applicationId (.usageConsume call.eventId) := by
    intro hyp
    obtain ⟨e, he, hea, hek⟩ := hyp
    exact List.find?_eq_none.mp hnone e he (by simp [hea, hek])
  obtain ⟨ledger, h₂, -⟩ := QuotaStore.insertLedgerEntry_of (s := { s with quotas }) (e := consumptionEntry call q actual)
    (entry_accepted (by dsimp only [consumptionEntry]; omega)) (hstamp.no_clash rfl hfree)
  exact ⟨_, bind_of h₁ (bind_of (require_of _ rfl) (bind_of h₂ rfl))⟩

/-- The token is the reservation's own. -/
structure TokenOf (codec : UserReservationTokenCodec) (r : UserAiuReservation) (token : String) : Prop where
  verify : codec.verify token = .ok (reservationClaims r)
  hash : codec.hash token = r.tokenHash

theorem transition_eq {codec : UserReservationTokenCodec} {call : TransitionCall} (hr : r ∈ s.reservations.rows)
    (hid : r.id = call.id) (ha : r.applicationId = call.applicationId) (hq : quota ∈ s.quotas.rows) (hof : r.Of quota)
    (ht : TokenOf codec r call.token) :
    transition codec s call = match r.status, call.action with
      | .settled, .settle actual => do
        require (r.settledAiuMicros = actual) (.conflict "AIU reservation is already settled")
        return (reservationTransitionResult r quota, s)
      | .settled, .release _ => .error (.conflict "AIU reservation is already settled")
      | .reserved, _ => closeReservation s call r quota
      | _, .release _ => .ok (reservationTransitionResult r quota, s)
      | _, .settle _ => .error (.conflict "AIU reservation is already closed") := by
  have hfind : s.reservations.rows.find? (fun x => x.id == call.id && x.applicationId == call.applicationId) = some r :=
    s.reservations.find?_of_clash hr (by simp [ha, hid]) fun x hx => by
      simp only [Bool.and_eq_true, beq_iff_eq] at hx
      simp [Row.clash, hx.1, hid]
  have hverify : verifyTransitionToken codec call = .ok (reservationClaims r) := by
    unfold verifyTransitionToken
    rw [ht.verify]
    exact bind_of (require_of _ ⟨hid, ha⟩) rfl
  have hlineage : assertReservationTokenLineage codec r (reservationClaims r) call.token = .ok () :=
    require_of _ ⟨ht.hash, rfl⟩
  unfold transition
  refine bind_of hverify ?_
  simp only [hfind, quotaById_of hq hof]
  exact bind_of hlineage rfl

end Reads

/-! ## The SDK -/

section Sdk

variable {s : QuotaStore} {call : TransitionCall} {r : UserAiuReservation} {quota : UserAiuQuota}

theorem closeReservation_ok (hbal : ReservedBalance s) (hr : r ∈ s.reservations.rows) (hid : r.id = call.id)
    (ha : r.applicationId = call.applicationId) (hq : quota ∈ s.quotas.rows) (hof : r.Of quota)
    (hst : r.status = .reserved) (hstamp : s.FreshStamp call.entry)
    (hkey : ¬ s.Taken call.applicationId (transitionEntry call r quota).idempotencyKey) :
    ∃ answer s', closeReservation s call r quota = .ok (answer, s') := by
  have hle := hbal.le hq hr hof.1 hst
  have hc := QuotaStore.quota_counters hq
  have hconsumed : 0 ≤ call.action.consumed := by
    unfold TransitionAction.consumed
    split <;> omega
  have hclosed : 0 ≤ (call.action.closed r).2 := by
    unfold TransitionAction.closed
    split
    · exact Int.natCast_nonneg _
    · exact (QuotaStore.reservation_amounts hr).2.2
  obtain ⟨reservations, h₁, -⟩ := QuotaStore.updateReservation_of (s := s)
    (p := fun x => x.id == call.id && x.applicationId == call.applicationId && x.lockVersion == r.lockVersion &&
      x.status == .reserved) (d := call.action.closed) hr
    (by simp only [Bool.and_eq_true, beq_iff_eq]; exact fun x hx => hx.1.1.1.trans hid.symm) (by simp [ha, hid, hst])
    (reservation_accepted hr hclosed)
  obtain ⟨quotas, h₂, -⟩ := QuotaStore.updateQuota_of (s := { s with reservations })
    (p := fun q => q.id == r.quotaId && q.applicationId == call.applicationId && q.lockVersion == quota.lockVersion)
    (f := fun q => { q with
      reservedAiuMicros := q.reservedAiuMicros - r.reservedAiuMicros
      consumedAiuMicros := q.consumedAiuMicros + call.action.consumed }) hq
    (by simp only [Bool.and_eq_true, beq_iff_eq]; exact fun x hx => hx.1.1.trans hof.1)
    (by simp [← hof.1, ← hof.2.1, ha]) (quota_accepted hq ⟨rfl, rfl⟩ (by dsimp only [UserAiuQuota.written]; omega))
  obtain ⟨ledger, h₃, -⟩ := QuotaStore.insertLedgerEntry_of (s := { s with reservations, quotas })
    (e := transitionEntry call r quota) (entry_accepted (by dsimp only [transitionEntry]; omega))
    (hstamp.no_clash rfl hkey)
  exact ⟨_, _, bind_of h₁ (bind_of (require_of _ rfl) (bind_of h₂ (bind_of (require_of _ rfl) (bind_of h₃ rfl))))⟩

end Sdk

end TokenPilot.Quota
