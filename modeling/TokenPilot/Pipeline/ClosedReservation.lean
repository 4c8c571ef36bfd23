/-
  TokenPilot.Pipeline.ClosedReservation — a usage event whose reservation is closed.

  A reservation is closed by the SDK's release, the sweeper, a rollover, a reset, or a
  policy that changes the period, which the commit of the event may itself apply a few
  lines before it settles. The worker takes an event only while its reservation is
  open or settled: on any other status `applyUserAiu` throws a `TypeError`, which is
  not retried, and the event goes to the dead letters.

  Main result: `commit_returns_iff`, exactly when the commit of an event that names a
  reservation of its user returns, in any reachable state.
  `released_reservation_rejects_its_event` is the SDK's own failure path, and a commit
  that closes the reservation it was to settle.
-/

import TokenPilot.Pipeline.Writer

namespace TokenPilot.Pipeline

open TokenPilot.Library TokenPilot.Quota

/-- A reservation the worker can settle at the rated amount: open, with the event not
    settled before; or settled, at this amount or at one that the quota can be moved from
    under a key the event has not used. -/
def Accepts (s : QuotaStore) (call : AiuCall) (r : UserAiuReservation) (quota : UserAiuQuota) : Prop :=
  (r.status = .reserved ∧ ¬ s.Taken call.applicationId (.usageSettle call.eventId)) ∨
  (r.status = .settled ∧ (r.settledAiuMicros = call.settled ∨
    (¬ s.Taken call.applicationId (.usageReconciliation call.eventId) ∧
      r.settledAiuMicros ≤ quota.consumedAiuMicros + call.settled)))

theorem applyUserAiu_returns_iff {settings : ReservationSettings} {s : QuotaStore} (hs : Reachable settings s)
    {call : AiuCall} {r : UserAiuReservation} {quota : UserAiuQuota} (hr : r ∈ s.reservations.rows)
    (hid : call.reservationId = some r.id) (ha : r.applicationId = call.applicationId) (hu : r.userId = call.userId)
    (hq : quota ∈ s.quotas.rows) (hof : r.Of quota) (hstamp : s.FreshStamp call.entry) :
    (∃ result, applyUserAiu s call = .ok result) ↔ Accepts s call r quota := by
  have hbal := reachable_reservedBalance hs
  rw [applyUserAiu_reserved hr hid ha hu hq hof]
  unfold Accepts
  cases hst : r.status with
  | reserved =>
    dsimp only
    by_cases hkey : s.Taken call.applicationId (.usageSettle call.eventId)
    · rw [settleReserved_taken hbal hr ha hq hof hst hkey]
      simp [hkey]
    · obtain ⟨s', h⟩ := settleReserved_ok hbal hr ha hq hof hst hstamp hkey
      rw [h]
      simp [hkey]
  | settled =>
    dsimp only
    by_cases hsame : r.settledAiuMicros = call.settled
    · rw [reconcileSettled_same hsame]
      simp [hsame]
    by_cases hkey : s.Taken call.applicationId (.usageReconciliation call.eventId)
    · obtain ⟨e, h⟩ := reconcileSettled_taken hr ha hq hof hst hsame hkey
      rw [h]
      simp [hsame, hkey]
    by_cases hle : r.settledAiuMicros ≤ quota.consumedAiuMicros + call.settled
    · obtain ⟨s', h⟩ := reconcileSettled_ok hr ha hq hof hst hstamp hkey hle
      rw [h]
      simp [hkey, hle]
    · rw [reconcileSettled_refused hr ha hq hof hst (by omega)]
      simp [hsame, hle]
  | _ => simp

/-- The commit of an event that names a reservation of its user returns if and only if the
    event has its rating or PostgreSQL takes the one that is written, and the reservation, as
    the policy step of the commit leaves it, is open or settled and takes the amount. `s` is the
    store after that step, where `applyUserAiu` is called. -/
theorem commit_returns_iff (settings : ReservationSettings) (db : Database) (context : PipelineSettlementContext)
    (values : CommitValues) (hdb : Reachable settings db.quota) {cost : CostRatingArtifact} {aiu : AiuRatingArtifact}
    {registry : UsageEventRegistry} {modelId : Uuid} (hcost : context.providerCost = .applicationCost cost)
    (haiu : context.aiu = .applicationAiu aiu)
    (hregistry : db.registryOf context.applicationId context.event.eventId = some registry)
    (hmodel : context.resolution.modelId = some modelId) (hrating : ∀ x ∈ db.ratings.rows, x.id ≠ values.ratingId)
    {s : QuotaStore} (hpolicy : usagePolicyStep db context registry.applicationUserId aiu.totalMicros values = .ok s)
    (hstamp : s.FreshStamp values.entry) {r : UserAiuReservation} (hr : r ∈ s.reservations.rows)
    (hid : (usageCall context registry aiu.totalMicros values.entry).reservationId = some r.id)
    (ha : r.applicationId = context.applicationId) (hu : r.userId = registry.applicationUserId) (quota : UserAiuQuota)
    (hq : quota ∈ s.quotas.rows) (hrq : r.quotaId = quota.id) :
    (∃ result, commit db context values = .ok result) ↔
      RatingTaken db context cost aiu ∧ Accepts s (usageCall context registry aiu.totalMicros values.entry) r quota := by
  have hs := usagePolicyStep_reachable hdb hpolicy
  have hof : r.Of quota := (reachable_linked hs).of_id hr hq hrq
  rw [← applyUserAiu_returns_iff hs hr hid ha hu hq hof hstamp]
  constructor
  · intro hyp
    obtain ⟨⟨result, db'⟩, h⟩ := hyp
    obtain ⟨htaken, consumption, hsettle⟩ := (commit_ok h).1.usage hcost haiu hregistry (by rw [hmodel]; exact nofun)
    obtain ⟨s', hs', h'⟩ := bind_ok hsettle
    cases hpolicy.symm.trans hs'
    exact ⟨htaken, _, h'⟩
  · intro hyp
    obtain ⟨htaken, ⟨consumption, s'⟩, h⟩ := hyp
    obtain ⟨result, ratings, h'⟩ := commit_of (.inr (.inr hrating))
      (.settled hcost haiu hregistry hmodel htaken (bind_of hpolicy h))
    exact ⟨_, h'⟩

open Quota.Sample Sample in
/-- The event of an open reservation. -/
theorem open_reservation_takes_its_event :
    ∃ result, commit (database ((system service).run .empty opened)) (rated firstEvent (some 7) 3) (values 40 2000) =
      .ok result :=
  (commit_returns_iff service (database ((system service).run .empty opened)) (rated firstEvent (some 7) 3)
    (values 40 2000) ⟨opened, rfl⟩ rfl rfl rfl rfl (by decide +kernel)
    (s := (system service).run .empty opened) rfl (by decide +kernel) (r := reservation) (by decide +kernel) rfl rfl rfl
    ⟨2, 0, 1, some 3, .calendarDay, 0, some 86400000, 10, 0, 5, true, true, 1⟩ (by decide +kernel) rfl).mpr
    ⟨.inr (unused_fits (by decide)), Or.inl ⟨rfl, by decide +kernel⟩⟩

open Quota.Sample Sample in
/-- The SDK released the reservation after a failed call, and then reported the call. Or
    nobody closed it, and the commit itself does: a day later its policy step starts a
    new period, which releases what was open. -/
theorem released_reservation_rejects_its_event :
    let released := (system service).run .empty
      (opened ++ [.transition ⟨0, 7, "tpur1.7", .release "AIU reservation released", ⟨500, 2000⟩⟩])
    let still := (system service).run .empty opened
    commit (database released) (rated firstEvent (some 7) 3) (values 40 3000) =
        .error (.typeError "Usage event AIU reservation is already closed") ∧
      still.reservations.rows.map (·.status) = [.reserved] ∧
      commit (database still) (rated firstEvent (some 7) 3) (values 40 90000000) =
        .error (.typeError "Usage event AIU reservation is already closed") := by
  with_unfolding_all exact ⟨rfl, rfl, rfl⟩

end TokenPilot.Pipeline
