/-
  TokenPilot.Pipeline.Completion — which runs of the pipeline complete, and what they leave
  of the quota.

  The processor replaces a stage that is off, or that a replay keeps, by a placeholder. The
  writer takes no placeholder for the cost or the AIU rating, so such a run never gets past
  its commit (`settles_iff`): with the AIU flag off every event goes to the dead letters, and
  so does every replay of a reconciliation, since each keeps one of the two ratings.
  For the quota it is the other way round: the writer takes the placeholder for an event
  without a reservation, falls back to the registry's, and settles it.

  `Takes` is when the quota takes an event, by the state its commit finds: the reservation
  is open or settled and can be moved to the amount (`settleUsage_returns_iff`).

  Main results: `process_completes_iff` (which runs complete) and `quota_untouched_iff`
  (when a run that should leave the quota alone does). The cases that go wrong are
  `disabled_rating_is_dead_lettered` and `disabled_quota_is_settled`.
-/

import TokenPilot.Pipeline.ClosedReservation
import TokenPilot.Pipeline.Processor
import TokenPilot.Quota.Reapplication

namespace TokenPilot.Pipeline

open TokenPilot.Library TokenPilot.Quota

section

variable {settings : ProcessorSettings} {db : Database} {lease : InboxLease} {context : PipelineSettlementContext}
  {values : CommitValues} {expires : Int}

theorem providerCostStage_ok {flags : PipelineRuntimeFlags} {handlers : StageHandlers}
    {resolution : PipelineResolutionArtifact} {artifact : StageArtifact}
    (h : providerCostStage flags handlers lease resolution = .ok artifact) :
    (∃ cost, artifact = .applicationCost cost) ↔ providerCostEnabled flags lease.replayIntent = true := by
  unfold providerCostStage at h
  split at h
  · obtain ⟨cost, -, h⟩ := bind_ok h
    cases h
    exact ⟨fun _ => ‹_›, fun _ => ⟨cost, rfl⟩⟩
  · cases h
    exact ⟨nofun, fun hen => absurd hen ‹_›⟩

theorem aiuStage_ok {flags : PipelineRuntimeFlags} {handlers : StageHandlers}
    {resolution : PipelineResolutionArtifact} {artifact : StageArtifact}
    (h : aiuStage flags handlers lease resolution = .ok artifact) :
    (∃ aiu, artifact = .applicationAiu aiu) ↔ aiuEnabled flags lease.replayIntent = true := by
  unfold aiuStage at h
  split at h
  · obtain ⟨aiu, -, h⟩ := bind_ok h
    cases h
    exact ⟨fun _ => ‹_›, fun _ => ⟨aiu, rfl⟩⟩
  · cases h
    exact ⟨nofun, fun hen => absurd hen ‹_›⟩

/-- Both ratings are made only outside a replay, with both flags on. -/
theorem both_rated_iff {flags : PipelineRuntimeFlags} (h : Holds db lease expires) :
    (providerCostEnabled flags lease.replayIntent = true ∧ aiuEnabled flags lease.replayIntent = true) ↔
      (lease.replayIntent = none ∧ flags.providerCost = true ∧ flags.aiu = true) := by
  obtain ⟨row, -, -, hmap⟩ := h.row
  obtain ⟨-, hparse, -, -⟩ := mapLease_ok hmap
  cases hintent : lease.replayIntent with
  | none => simp [providerCostEnabled, aiuEnabled]
  | some intent =>
    rw [hintent] at hparse
    have := parsePipelineReplayIntent_some hparse
    simp only [providerCostEnabled, aiuEnabled, beq_iff_eq, reduceCtorEq, false_and, iff_false]
    exact this

end

/-! ## Settlements that go through -/

/-- The generated values of a commit are new. -/
structure NewValues (db : Database) (values : CommitValues) : Prop where
  rating : ∀ x ∈ db.ratings.rows, x.id ≠ values.ratingId
  entry : db.quota.FreshStamp values.entry
  policyEntry : values.policyIds.entry.id ≠ values.entry.id

/-- The policy step returns, and a reservation the event names is one of its user and then
    takes the amount. -/
def Takes (db : Database) (context : PipelineSettlementContext) (registry : UsageEventRegistry)
    (totalMicros : Option Nat) (values : CommitValues) : Prop :=
  ∃ s, usagePolicyStep db context registry.applicationUserId totalMicros values = .ok s ∧
    ∀ id, (usageCall context registry totalMicros values.entry).reservationId = some id →
      ∃ r ∈ s.reservations.rows, ∃ quota ∈ s.quotas.rows,
        (r.id = id ∧ r.applicationId = context.applicationId ∧ r.userId = registry.applicationUserId) ∧
        r.quotaId = quota.id ∧ Accepts s (usageCall context registry totalMicros values.entry) r quota

section Takes

variable {service : ReservationSettings} {db : Database} {context : PipelineSettlementContext}
  {registry : UsageEventRegistry} {totalMicros : Option Nat} {values : CommitValues}

/-- The policy step changes nothing, or writes one ledger entry. -/
theorem usagePolicyStep_entry {userId : Uuid} {quota : QuotaStore}
    (h : usagePolicyStep db context userId totalMicros values = .ok quota) :
    quota = db.quota ∨ ∃ e, e.id = values.policyIds.entry.id ∧ quota.ledger.rows = db.quota.ledger.rows ++ [e] := by
  rcases usagePolicyStep_ok h with ⟨-, rfl⟩ | ⟨application, a, -, hm⟩
  · exact Or.inl rfl
  rcases materialize_entry hm with ⟨-, hsame⟩ | hentry
  · exact Or.inl hsame
  · exact Or.inr hentry

theorem NewValues.fresh (hnew : NewValues db values) {userId : Uuid} {quota : QuotaStore}
    (h : usagePolicyStep db context userId totalMicros values = .ok quota) : quota.FreshStamp values.entry := by
  rcases usagePolicyStep_entry h with rfl | ⟨e, hid, hrows⟩
  · exact hnew.entry
  intro x hx
  rw [hrows] at hx
  rcases List.mem_append.mp hx with hx | hx
  · exact hnew.entry x hx
  · rw [List.mem_singleton.mp hx, hid]
    exact hnew.policyEntry

theorem settleUsage_returns_iff (hdb : Reachable service db.quota) (hnew : NewValues db values) :
    (∃ result, settleUsage db context registry totalMicros values = .ok result) ↔
      Takes db context registry totalMicros values := by
  constructor
  · intro hyp
    obtain ⟨⟨consumption, quota⟩, h⟩ := hyp
    obtain ⟨s, hpolicy, h⟩ := bind_ok h
    have hs := usagePolicyStep_reachable hdb hpolicy
    refine ⟨s, hpolicy, fun id hid => ?_⟩
    obtain ⟨r, hr, ⟨hrid, ha, hu⟩, -⟩ := applyUserAiu_settles (reachable_linked hs) hid h
    obtain ⟨q, hq, hof⟩ := (reachable_linked hs).reservation r hr
    refine ⟨r, hr, q, hq, ⟨hrid, ha, hu⟩, hof.1, ?_⟩
    exact (applyUserAiu_returns_iff hs hr (hid.trans (by rw [hrid])) ha hu hq hof (hnew.fresh hpolicy)).mp ⟨_, h⟩
  · intro hyp
    obtain ⟨s, hpolicy, hres⟩ := hyp
    have hs := usagePolicyStep_reachable hdb hpolicy
    obtain ⟨result, h⟩ : ∃ result, applyUserAiu s (usageCall context registry totalMicros values.entry) = .ok result := by
      cases hid : (usageCall context registry totalMicros values.entry).reservationId with
      | none => exact applyUserAiu_unreserved hid (hnew.fresh hpolicy)
      | some id =>
        obtain ⟨r, hr, q, hq, ⟨hrid, ha, hu⟩, hrq, haccepts⟩ := hres id hid
        have hof := (reachable_linked hs).of_id hr hq hrq
        exact (applyUserAiu_returns_iff hs hr (hid.trans (by rw [hrid])) ha hu hq hof (hnew.fresh hpolicy)).mpr haccepts
    exact ⟨result, bind_of hpolicy h⟩

end Takes

/-! ## Runs that complete -/

/-- The registry row and the ratings the commit settles by are there, and both the ratings and
    the quota take the event. -/
def EventTaken (db : Database) (context : PipelineSettlementContext) (values : CommitValues) : Prop :=
  ∃ registry cost aiu, db.registryOf context.applicationId context.event.eventId = some registry ∧
    context.providerCost = .applicationCost cost ∧ context.aiu = .applicationAiu aiu ∧
    RatingTaken db context cost aiu ∧ Takes db context registry aiu.totalMicros values

section

variable {service : ReservationSettings} {settings : ProcessorSettings} {db : Database} {lease : InboxLease}
  {context : PipelineSettlementContext} {values : CommitValues} {expires : Int}

theorem settles_iff (hdb : Reachable service db.quota) (hnew : NewValues db values) (h : Holds db lease expires)
    (hevent : lease.payload.eventId = lease.eventId) (hcontext : StagesReturn settings lease context) :
    (∃ quota, Settles db context values quota) ↔
      (lease.replayIntent = none ∧ settings.flags.providerCost = true ∧ settings.flags.aiu = true) ∧
        (context.resolution.modelId = none ∨ EventTaken db context values) := by
  obtain ⟨resolution, providerCost, aiu, -, hcost, haiu, rfl⟩ := hcontext
  obtain ⟨registry, hregistry, -⟩ := h.registry
  rw [← both_rated_iff h, ← providerCostStage_ok hcost, ← aiuStage_ok haiu]
  constructor
  · intro hyp
    obtain ⟨quota, hsettles⟩ := hyp
    cases hsettles with
    | unresolved hc ha hr hm => exact ⟨⟨⟨_, hc⟩, ⟨_, ha⟩⟩, Or.inl hm⟩
    | settled hc ha hr hm ht hs =>
      exact ⟨⟨⟨_, hc⟩, ⟨_, ha⟩⟩, Or.inr ⟨_, _, _, hr, hc, ha, ht, (settleUsage_returns_iff hdb hnew).mp ⟨_, hs⟩⟩⟩
  · intro hyp
    obtain ⟨⟨⟨cost, hc⟩, ⟨rating, ha⟩⟩, hm⟩ := hyp
    have hr : db.registryOf lease.applicationId lease.payload.eventId = some registry := by rw [hevent]; exact hregistry
    cases hmodel : resolution.modelId with
    | none => exact ⟨db.quota, .unresolved hc ha hr hmodel⟩
    | some modelId =>
      rcases hm with hm | ⟨registry', cost', rating', hr', hc', ha', ht, htakes⟩
      · cases hmodel.symm.trans hm
      · obtain ⟨⟨consumption, quota⟩, hs⟩ := (settleUsage_returns_iff hdb hnew).mpr htakes
        exact ⟨quota, .settled hc' ha' hr' hmodel ht hs⟩

end

/-- A run of the pipeline completes if and only if the handlers of the stages that are on
    return and the row is resumed past its commit, or it is no replay, both rating flags
    are on, and (unless the model is unknown) the ratings and the quota take the event. -/
theorem process_completes_iff (service : ReservationSettings) (settings : ProcessorSettings) (db : Database)
    (lease : InboxLease) (expires : Int) (values : CommitValues) (clock : ProcessClock)
    (hdb : Reachable service db.quota) (hnew : NewValues db values) (hlease : Holds db lease expires)
    (hlasts : LeaseLasts settings.leaseDuration expires
      (leaseChecks (stageRank lease.stage) clock [(clock.complete, false)]))
    (hevent : lease.payload.eventId = lease.eventId)
    (huser : ∃ u ∈ db.quota.users.rows, u.applicationId = lease.applicationId ∧
      u.externalId = lease.payload.userId) :
    (process settings db lease values clock).1.status = .completed ↔
      ∃ context, StagesReturn settings lease context ∧
        (stageRank .outboxCreated ≤ stageRank lease.stage ∨
          (lease.replayIntent = none ∧ settings.flags.providerCost = true ∧ settings.flags.aiu = true) ∧
            (context.resolution.modelId = none ∨ EventTaken db context values)) := by
  rw [process_completed_iff hlease hlasts hnew.rating huser]
  refine exists_congr fun context => and_congr_right fun hcontext => or_congr_right ?_
  exact settles_iff hdb hnew hlease hevent hcontext

/-! ## A worker of the small application

It has leased one event, whose ratings cost nothing and come to an AIU amount of 6. -/

namespace Sample

def inboxRow (event : UsageEvent) (replayIntentJson : JsonValue) : IngestionInbox :=
  ⟨90, 0, event.eventId, some event, .leased, .received, 1, 0, none, some "pipeline-1", some 60000000, replayIntentJson⟩

def leased (quota : QuotaStore) (event : UsageEvent) (replayIntentJson : JsonValue) : Database :=
  { database quota with inbox := ⟨[inboxRow event replayIntentJson], by simp, by simp [Row.refused]⟩ }

def lease (event : UsageEvent) (payloadHash : String) (replayIntent : Option PipelineReplayIntent) : InboxLease :=
  ⟨90, 0, event.eventId, payloadHash, event, .received, 1, "pipeline-1", 60000000, replayIntent⟩

def processor (flags : PipelineRuntimeFlags) : ProcessorSettings where
  flags := flags
  handlers := ⟨fun _ _ => .ok ⟨.matched, some 5⟩, fun _ _ _ => .ok cost, fun _ _ _ => .ok (aiu 6)⟩
  maxAttempts := 8
  leaseDuration := 60000000

def clock : ProcessClock := ⟨1, 2, 3, 4, 5, ⟨6, 7, 8⟩, 9, 10, 2000⟩

def everythingOn : InstanceFeatureFlags := ⟨true, true, true, true, true, true⟩

def runId : String := "018f3b2e-7c1a-7d10-9a51-0c2a7e4b9d11"

def replay (replayType : String) : JsonValue :=
  .object [("authority", .string "reconciliation"), ("run_id", .string runId), ("replay_type", .string replayType)]

end Sample

open Quota.Sample Sample in
/-- With every stage on, the event without a reservation is completed. -/
theorem event_without_reservation_completes :
    (process (processor (pipelineRuntimeFlags everythingOn))
      (leased ((system service).run .empty opened) (event unreservedEvent none) .null)
      (lease (event unreservedEvent none) unreservedHash none) (values 40 2000) clock).1.status = .completed :=
  (process_completes_iff service (processor (pipelineRuntimeFlags everythingOn))
    (leased ((system service).run .empty opened) (event unreservedEvent none) .null)
    (lease (event unreservedEvent none) unreservedHash none) 60000000 (values 40 2000) clock ⟨opened, rfl⟩ ⟨by decide +kernel, by decide +kernel, by decide⟩
    ⟨⟨inboxRow (event unreservedEvent none) .null, by simp [leased], ⟨rfl, rfl, rfl, rfl⟩, rfl⟩,
      ⟨0, unreservedEvent, 1, none, unreservedHash, .received⟩, rfl, rfl⟩
    (by decide) rfl ⟨⟨1, 0, "alice", .active⟩, by decide +kernel, rfl, rfl⟩).mpr
    ⟨_, ⟨⟨.matched, some 5⟩, .applicationCost cost, .applicationAiu (aiu 6), rfl, rfl, rfl, rfl⟩,
      Or.inr ⟨⟨rfl, rfl, rfl⟩,
        Or.inr ⟨⟨0, unreservedEvent, 1, none, unreservedHash, .received⟩, cost, aiu 6, rfl, rfl, rfl,
          .inr (unused_fits (by decide)), _, rfl, nofun⟩⟩⟩

open Quota.Sample Sample in
/-- An instance without AIU is admitted, and each of its events is dead-lettered. With
    everything on, both replays of a reconciliation are. -/
theorem disabled_rating_is_dead_lettered :
    let withoutAiu : InstanceFeatureFlags := ⟨true, true, false, false, false, false⟩
    let run (flags : InstanceFeatureFlags) (json : JsonValue) (intent : Option PipelineReplayIntent) :=
      (process (processor (pipelineRuntimeFlags flags))
        (leased ((system service).run .empty opened) (event unreservedEvent none) json)
        (lease (event unreservedEvent none) unreservedHash intent) (values 40 2000) clock).1
    instanceFeatureConfigurationIssues withoutAiu ⟨false, .disabled, false, false⟩ = [] ∧
      run withoutAiu .null none =
        ⟨unreservedEvent, .deadLettered, .deadLetter, some (.typeError "Application AIU rating is missing")⟩ ∧
      instanceFeatureConfigurationIssues everythingOn ⟨true, .hardLimit, true, true⟩ = [] ∧
      parsePipelineReplayIntent 90 (replay "rerun_provider_cost") =
        .ok (some ⟨runId, some .rerate, some .keepUnrated, .keepExisting⟩) ∧
      run everythingOn (replay "rerun_provider_cost") (some ⟨runId, some .rerate, some .keepUnrated, .keepExisting⟩) =
        ⟨unreservedEvent, .deadLettered, .deadLetter, some (.typeError "Application AIU rating is missing")⟩ ∧
      parsePipelineReplayIntent 90 (replay "rerun_aiu_observe") =
        .ok (some ⟨runId, some .keepExisting, some .backfill, .keepExisting⟩) ∧
      run everythingOn (replay "rerun_aiu_observe") (some ⟨runId, some .keepExisting, some .backfill, .keepExisting⟩) =
        ⟨unreservedEvent, .deadLettered, .deadLetter, some (.typeError "Application cost rating is missing")⟩ :=
  ⟨rfl, rfl, rfl, rfl, rfl, rfl, rfl⟩

/-! ## Runs that leave the quota alone -/

/-- The call of `applyUserAiu` when the quota stage did not run: the writer falls back to the
    reservation of the registry row. -/
def fallbackCall (context : PipelineSettlementContext) (registry : UsageEventRegistry) (totalMicros : Option Nat)
    (entry : Stamp) : AiuCall where
  applicationId := context.applicationId
  userId := registry.applicationUserId
  reservationId := registry.reservationId
  eventId := context.event.eventId
  actual := totalMicros
  entry := entry

/-- The event would change nothing: the quota is what its policy says, and the amount is
    applied already. -/
def NothingToSettle (db : Database) (context : PipelineSettlementContext) (registry : UsageEventRegistry)
    (totalMicros : Option Nat) (values : CommitValues) : Prop :=
  (totalMicros = none ∨ ∃ application, db.application context.applicationId = some application ∧
    PolicyIdle db.quota (usagePolicyInput context registry.applicationUserId application.timezone values.now)) ∧
  Applied db.quota (fallbackCall context registry totalMicros values.entry)

section Untouched

variable {service : ReservationSettings} {db : Database} {context : PipelineSettlementContext}
  {registry : UsageEventRegistry} {totalMicros : Option Nat} {values : CommitValues} {quota : QuotaStore}

theorem usageCall_fallback {status : String} (h : context.quota = .placeholder status) (entry : Stamp) :
    usageCall context registry totalMicros entry = fallbackCall context registry totalMicros entry := by
  unfold usageCall fallbackCall
  rw [h]
  rfl

theorem quota_placeholder {settings : ProcessorSettings} {lease : InboxLease}
    (hoff : quotaEnabled settings.flags lease.replayIntent = false) (hcontext : StagesReturn settings lease context) :
    context.quota = .placeholder "not_applicable" := by
  obtain ⟨resolution, providerCost, aiu, -, -, -, rfl⟩ := hcontext
  exact if_neg (by rw [hoff]; decide)

theorem NothingToSettle.settleUsage {status : String} (hl : Linked db.quota) (hstage : context.quota = .placeholder status)
    (h : NothingToSettle db context registry totalMicros values) :
    ∃ consumption, settleUsage db context registry totalMicros values = .ok (consumption, db.quota) := by
  obtain ⟨hpolicy, happlied⟩ := h
  rw [← usageCall_fallback hstage] at happlied
  obtain ⟨consumption, hagain⟩ := applyUserAiu_again hl happlied
  refine ⟨consumption, bind_of ?_ hagain⟩
  unfold usagePolicyStep
  cases totalMicros with
  | none => rfl
  | some total =>
    rcases hpolicy with hnone | ⟨application, happlication, hidle⟩
    · cases hnone
    · obtain ⟨a, hsame⟩ := materialize_idle values.policyIds hidle
      rw [happlication]
      exact bind_of rfl (bind_of hsame rfl)

/-- A settlement that leaves the records as they are had nothing to settle: whatever it did
    would be in the ledger. -/
theorem nothingToSettle_of_same {consumption : Option UserAiuConsumption} {status : String} (hl : Linked db.quota)
    (hstage : context.quota = .placeholder status)
    (h : settleUsage db context registry totalMicros values = .ok (consumption, quota))
    (hsame : SameRecords db.quota quota) : NothingToSettle db context registry totalMicros values := by
  obtain ⟨s, hpolicy, h⟩ := bind_ok h
  have hlen : quota.ledger.rows.length = db.quota.ledger.rows.length := by rw [hsame.ledger]
  have hls : Linked s := by
    obtain ⟨ms, hms, -⟩ := usagePolicyStep_moves hl hpolicy
    exact hms.linked hl
  have hle : s.ledger.rows.length ≤ quota.ledger.rows.length := by
    rcases applyUserAiu_moves hls h with rfl | ⟨m, -, happ⟩
    · exact le_rfl
    · rw [happ.ledger, List.length_append]
      omega
  have hs : s = db.quota := by
    rcases usagePolicyStep_entry hpolicy with hs | ⟨e, -, hrows⟩
    · exact hs
    · rw [hrows, List.length_append, List.length_singleton] at hle
      omega
  subst hs
  refine ⟨?_, ?_⟩
  · rcases usagePolicyStep_ok hpolicy with ⟨hnone, -⟩ | ⟨application, a, happlication, hm⟩
    · exact Or.inl hnone
    rcases materialize_entry hm with ⟨hidle, -⟩ | ⟨e, -, hrows⟩
    · exact Or.inr ⟨application, happlication, hidle⟩
    · have := congrArg List.length hrows
      simp at this
  · rw [← usageCall_fallback hstage]
    rcases applyUserAiu_applied hl h with happlied | ⟨m, happ⟩
    · exact happlied
    · rw [happ.ledger, List.length_append, List.length_singleton] at hlen
      omega

end Untouched

/-- A run whose quota stage is not applicable leaves every quota, reservation and ledger row
    as it is if and only if its commit does not go through (the lease was lost, the row is
    past the commit, a stage throws, a rating is missing, the model is unknown, or the ratings or
    the quota do not take the event), or there is nothing to settle. -/
theorem quota_untouched_iff (service : ReservationSettings) (settings : ProcessorSettings) (db : Database)
    (lease : InboxLease) (expires : Int) (values : CommitValues) (clock : ProcessClock)
    (hdb : Reachable service db.quota) (hnew : NewValues db values) (hlease : Holds db lease expires)
    (hevent : lease.payload.eventId = lease.eventId)
    (huser : ∃ u ∈ db.quota.users.rows, u.applicationId = lease.applicationId ∧ u.externalId = lease.payload.userId)
    (hoff : quotaEnabled settings.flags lease.replayIntent = false) :
    SameRecords db.quota (process settings db lease values clock).2.quota ↔
      (LeaseLasts settings.leaseDuration expires (leaseChecks (stageRank lease.stage) clock []) →
        stageRank lease.stage < stageRank .outboxCreated →
        (lease.replayIntent = none ∧ settings.flags.providerCost = true ∧ settings.flags.aiu = true) →
        ∀ context, StagesReturn settings lease context → context.resolution.modelId ≠ none →
        ∀ registry cost aiu, db.registryOf context.applicationId context.event.eventId = some registry →
          context.providerCost = .applicationCost cost → context.aiu = .applicationAiu aiu →
          RatingTaken db context cost aiu → Takes db context registry aiu.totalMicros values →
          NothingToSettle db context registry aiu.totalMicros values) := by
  have hl := reachable_linked hdb
  constructor
  · intro hsame hlasts hneeded hrated context hcontext hmodel registry cost aiu hregistry hcost haiu htaken htakes
    obtain ⟨⟨consumption, quota⟩, hsettle⟩ := (settleUsage_returns_iff hdb hnew).mpr htakes
    obtain ⟨modelId, hmodel⟩ := Option.ne_none_iff_exists'.mp hmodel
    obtain ⟨lease', db', -, hok, hquota, -⟩ := settleStages_of hlease hlasts hnew.rating huser hcontext
      (Or.inr ⟨hneeded, .settled hcost haiu hregistry hmodel htaken hsettle⟩)
    rw [process_quota_of_settled hok, hquota] at hsame
    exact nothingToSettle_of_same hl (quota_placeholder hoff hcontext) hsettle hsame
  · intro hcond
    cases hrun : settleStages settings db lease values clock with
    | error at_ =>
      rw [process_quota_of_interrupted hrun]
      exact .refl _
    | ok result =>
      obtain ⟨lease', db'⟩ := result
      rw [process_quota_of_settled hrun]
      obtain ⟨context, hcontext, hcommits, hlasts⟩ := settleStages_ok hlease hrun
      rcases hcommits with ⟨-, hquota⟩ | ⟨hneeded, hsettles⟩
      · rw [hquota]
        exact .refl _
      have hrated := ((settles_iff hdb hnew hlease hevent hcontext).mp ⟨_, hsettles⟩).1
      generalize db'.quota = quota at hsettles
      cases hsettles with
      | unresolved => exact .refl _
      | settled hcost haiu hregistry hmodel htaken hsettle =>
        have htakes := (settleUsage_returns_iff hdb hnew).mp ⟨_, hsettle⟩
        have hnothing := hcond hlasts hneeded hrated context hcontext (by rw [hmodel]; exact nofun) _ _ _ hregistry hcost
          haiu htaken htakes
        obtain ⟨consumption, hsame⟩ := hnothing.settleUsage hl (quota_placeholder hoff hcontext)
        cases hsame.symm.trans hsettle
        exact .refl _

open Quota.Sample Sample in
/-- The quota stage is off, and the event's reservation was settled by the SDK at the amount
    the event is rated at: the commit finds nothing to settle. -/
theorem quota_untouched_when_settled :
    SameRecords ((system service).run .empty (opened ++ [settle 7 "tpur1.7" 6 1500]))
      (process (processor ⟨true, true, true, true, false⟩)
        (leased ((system service).run .empty (opened ++ [settle 7 "tpur1.7" 6 1500])) (event firstEvent (some 7)) .null)
        (lease (event firstEvent (some 7)) firstHash none) (values 40 2000) clock).2.quota :=
  (quota_untouched_iff service (processor ⟨true, true, true, true, false⟩)
    (leased ((system service).run .empty (opened ++ [settle 7 "tpur1.7" 6 1500])) (event firstEvent (some 7)) .null)
    (lease (event firstEvent (some 7)) firstHash none) 60000000 (values 40 2000) clock ⟨_, rfl⟩ ⟨by decide +kernel, by decide +kernel, by decide⟩
    ⟨⟨inboxRow (event firstEvent (some 7)) .null, by simp [leased], ⟨rfl, rfl, rfl, rfl⟩, rfl⟩,
      ⟨0, firstEvent, 1, some 7, firstHash, .received⟩, rfl, rfl⟩
    rfl ⟨⟨1, 0, "alice", .active⟩, by decide +kernel, rfl, rfl⟩ rfl).mpr
    (by
      rintro - - - context ⟨resolution, providerCost, aiu, hres, hcost, haiu, rfl⟩ - registry price rating hregistry - hrating - -
      cases hres
      cases hcost
      cases haiu
      cases hregistry
      cases hrating
      refine ⟨Or.inr ⟨⟨0, utc⟩, rfl, ?_⟩, reservation, ⟨rfl, rfl, rfl⟩, ?_⟩
      · exact ⟨_, rfl, rfl⟩
      · exact ⟨{ reservation with status := .settled, settledAiuMicros := 6, lockVersion := 1 }, by decide +kernel, rfl,
          rfl, rfl⟩)

open Quota.Sample Sample in
/-- The quota stage is off, the event's reservation is open, and the commit settles it. -/
theorem disabled_quota_is_settled :
    let withoutQuota : InstanceFeatureFlags := ⟨true, true, true, false, false, false⟩
    let before := (system service).run .empty opened
    let after := process (processor (pipelineRuntimeFlags withoutQuota)) (leased before (event firstEvent (some 7)) .null)
      (lease (event firstEvent (some 7)) firstHash none) (values 40 2000) clock
    instanceFeatureConfigurationIssues withoutQuota ⟨true, .observe, false, false⟩ = [] ∧
      quotaEnabled (pipelineRuntimeFlags withoutQuota) none = false ∧ after.1.status = .completed ∧
      before.quotas.rows.map (fun q => (q.consumedAiuMicros, q.reservedAiuMicros)) = [(0, 5)] ∧
      after.2.quota.quotas.rows.map (fun q => (q.consumedAiuMicros, q.reservedAiuMicros)) = [(6, 0)] ∧
      before.reservations.rows.map (·.status) = [.reserved] ∧
      after.2.quota.reservations.rows.map (·.status) = [.settled] ∧ ¬ SameRecords before after.2.quota := by
  with_unfolding_all
    exact ⟨rfl, rfl, rfl, rfl, rfl, rfl, rfl, fun h => absurd (congrArg List.length h.ledger) (by decide +kernel)⟩

end TokenPilot.Pipeline
