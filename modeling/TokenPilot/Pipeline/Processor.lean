/-
  TokenPilot.Pipeline.Processor — `UsagePipelineProcessor.process`
  (apps/worker/src/pipeline/processor.ts).

  The stages run in order for every lease, wherever it is resumed; only the checkpoints
  and the official commit are skipped when the row is past them. A stage that is off
  hands on a placeholder. What a stage throws, or a transaction, ends the run with a
  retry or a dead letter; what was checkpointed before stays.

  `settleStages_of` and `settleStages_ok` say when a run gets past its commit: the lease
  lasts (`LeaseLasts`), every stage that is on returns (`StagesReturn`) and, unless the row
  is past the commit already, the settlement goes through (`Commits`). From them follow
  when a run completes (`process_completed_iff`) and what it leaves of the quota
  (`process_quota_of_settled`, `process_quota_of_interrupted`).

  The handlers are the ones of the application (`ApplicationUsageStageHandlers`): what they
  read from the model catalogue is behind the functions. Left out: metrics and durations.
-/

import TokenPilot.Pipeline.InboxStore

namespace TokenPilot.Pipeline

open TokenPilot.Library TokenPilot.Quota

/-! ## Stages -/

structure StageHandlers where
  resolveModel : Uuid → UsageEvent → Except Failure PipelineResolutionArtifact
  rateProviderCost : Uuid → UsageEvent → PipelineResolutionArtifact → Except Failure CostRatingArtifact
  rateAiu : Uuid → UsageEvent → PipelineResolutionArtifact → Except Failure AiuRatingArtifact

def settleQuota (event : UsageEvent) : ApplicationQuotaArtifact := ⟨event.reservationId⟩

def disabledResolution : PipelineResolutionArtifact := ⟨.disabled, none⟩

def providerCostEnabled (flags : PipelineRuntimeFlags) (replayIntent : Option PipelineReplayIntent) : Bool :=
  match replayIntent with
  | none => flags.providerCost
  | some intent => intent.providerCost == some .rerate

def aiuEnabled (flags : PipelineRuntimeFlags) (replayIntent : Option PipelineReplayIntent) : Bool :=
  match replayIntent with
  | none => flags.aiu
  | some intent => intent.aiu == some .backfill

def quotaEnabled (flags : PipelineRuntimeFlags) (replayIntent : Option PipelineReplayIntent) : Bool :=
  aiuEnabled flags replayIntent && flags.quota && (replayIntent.map (·.quota)) != some .keepExisting

section Stages

variable (flags : PipelineRuntimeFlags) (handlers : StageHandlers) (lease : InboxLease)

def resolutionStage : Except Failure PipelineResolutionArtifact :=
  if flags.modelResolution || lease.replayIntent.isSome then handlers.resolveModel lease.applicationId lease.payload
  else .ok disabledResolution

def providerCostStage (resolution : PipelineResolutionArtifact) : Except Failure StageArtifact :=
  if providerCostEnabled flags lease.replayIntent then do
    let cost ← handlers.rateProviderCost lease.applicationId lease.payload resolution
    return .applicationCost cost
  else .ok (.placeholder "disabled")

def aiuStage (resolution : PipelineResolutionArtifact) : Except Failure StageArtifact :=
  if aiuEnabled flags lease.replayIntent then do
    let aiu ← handlers.rateAiu lease.applicationId lease.payload resolution
    return .applicationAiu aiu
  else .ok (.placeholder "disabled")

def quotaStage : StageArtifact :=
  if quotaEnabled flags lease.replayIntent then .applicationQuota (settleQuota lease.payload)
  else .placeholder "not_applicable"

/-- What the stages hand to the official commit. -/
def settlementContext (resolution : PipelineResolutionArtifact) (providerCost aiu : StageArtifact) :
    PipelineSettlementContext where
  applicationId := lease.applicationId
  event := lease.payload
  resolution := resolution
  providerCost := providerCost
  aiu := aiu
  quota := quotaStage flags lease
  replayIntent := lease.replayIntent

end Stages

/-! ## One run -/

/-- The times of the statements that look at the lease, in source order. -/
structure ProcessClock where
  normalized : Int
  modelResolved : Int
  providerCostRated : Int
  aiuRated : Int
  quotaSettled : Int
  commit : CommitClock
  complete : Int
  failed : Int
  /-- `Date.now() + retryDelayMs(…)`. -/
  retryAt : Timestamp
  deriving DecidableEq, Repr

structure ProcessorSettings where
  flags : PipelineRuntimeFlags
  handlers : StageHandlers
  maxAttempts : Nat
  leaseDuration : Int

/-- Where a run was when something threw. -/
structure Interrupted where
  lease : InboxLease
  db : Database
  failure : Failure

def during {α : Type} (lease : InboxLease) (db : Database) : Except Failure α → Except Interrupted α
  | .ok a => .ok a
  | .error e => .error ⟨lease, db, e⟩

def advanceIfNeeded (db : Database) (lease : InboxLease) (target : PipelineStageName) (now duration : Int) :
    Except Interrupted (InboxLease × Database) :=
  if stageRank lease.stage ≥ stageRank target then .ok (lease, db)
  else during lease db (advance db lease target now duration)

def officialCommit (settings : ProcessorSettings) (db : Database) (lease : InboxLease)
    (context : PipelineSettlementContext) (values : CommitValues) (clock : CommitClock) :
    Except Interrupted (InboxLease × Database) :=
  if stageRank lease.stage < stageRank .outboxCreated then do
    let ((lease, _), db) ← during lease db (commitOfficial db lease context values clock settings.leaseDuration)
    return (lease, db)
  else .ok (lease, db)

/-- The `try` block, up to the official commit. -/
def settleStages (settings : ProcessorSettings) (db : Database) (lease : InboxLease) (values : CommitValues)
    (clock : ProcessClock) : Except Interrupted (InboxLease × Database) := do
  let (lease, db) ← advanceIfNeeded db lease .normalized clock.normalized settings.leaseDuration
  let resolution ← during lease db (resolutionStage settings.flags settings.handlers lease)
  let (lease, db) ← advanceIfNeeded db lease .modelResolved clock.modelResolved settings.leaseDuration
  let providerCost ← during lease db (providerCostStage settings.flags settings.handlers lease resolution)
  let (lease, db) ← advanceIfNeeded db lease .providerCostRated clock.providerCostRated settings.leaseDuration
  let aiu ← during lease db (aiuStage settings.flags settings.handlers lease resolution)
  let (lease, db) ← advanceIfNeeded db lease .aiuRated clock.aiuRated settings.leaseDuration
  let (lease, db) ← advanceIfNeeded db lease .quotaSettled clock.quotaSettled settings.leaseDuration
  officialCommit settings db lease (settlementContext settings.flags lease resolution providerCost aiu) values
    clock.commit

/-- The `try` block. -/
def processStages (settings : ProcessorSettings) (db : Database) (lease : InboxLease) (values : CommitValues)
    (clock : ProcessClock) : Except Interrupted Database := do
  let (lease, db) ← settleStages settings db lease values clock
  during lease db (complete db lease clock.complete)

inductive ProcessStatus where
  | completed
  | retryScheduled
  | failed
  | deadLettered
  deriving DecidableEq, Repr

structure PipelineProcessOutcome where
  eventId : String
  status : ProcessStatus
  stage : PipelineStageName
  failure : Option Failure := none
  deriving DecidableEq, Repr

/-- `classifyPipelineError(…).retryable`. -/
def retryable : Failure → Bool
  | .retryable _ => true
  | _ => false

/-- The `catch` block. -/
def processFailure (settings : ProcessorSettings) (clock : ProcessClock) (at_ : Interrupted) :
    PipelineProcessOutcome × Database :=
  let outcome (status : ProcessStatus) (stage : PipelineStageName) : PipelineProcessOutcome :=
    ⟨at_.lease.eventId, status, stage, some at_.failure⟩
  if retryable at_.failure && decide (at_.lease.attemptCount < settings.maxAttempts) then
    match retry at_.db at_.lease clock.failed clock.retryAt with
    | .ok db => (outcome .retryScheduled at_.lease.stage, db)
    | .error _ => (outcome .failed at_.lease.stage, at_.db)
  else
    match deadLetter at_.db at_.lease clock.failed at_.failure with
    | .ok db => (outcome .deadLettered .deadLetter, db)
    | .error _ => (outcome .failed at_.lease.stage, at_.db)

def process (settings : ProcessorSettings) (db : Database) (lease : InboxLease) (values : CommitValues)
    (clock : ProcessClock) : PipelineProcessOutcome × Database :=
  match processStages settings db lease values clock with
  | .ok db => (⟨lease.eventId, .completed, .completed, none⟩, db)
  | .error at_ => processFailure settings clock at_

/-! ## Leases that stay valid -/

/-- No check of the lease comes too late; a check that also prolongs it has `true`. -/
def LeaseLasts (duration : Int) : Int → List (Int × Bool) → Prop
  | _, [] => True
  | expires, (now, prolongs) :: checks =>
    now < expires ∧ LeaseLasts duration (if prolongs then max (expires + 1) (now + duration) else expires) checks

instance (duration : Int) : (expires : Int) → (checks : List (Int × Bool)) → Decidable (LeaseLasts duration expires checks)
  | _, [] => .isTrue trivial
  | expires, (now, prolongs) :: checks =>
    have := instDecidableLeaseLasts duration (if prolongs then max (expires + 1) (now + duration) else expires) checks
    inferInstanceAs (Decidable (_ ∧ _))

def checkpointCheck (rank : Nat) (target : PipelineStageName) (now : Int) : List (Int × Bool) :=
  if rank < stageRank target then [(now, true)] else []

def commitChecks (rank : Nat) (clock : CommitClock) : List (Int × Bool) :=
  if rank < stageRank .outboxCreated then
    [(clock.lock, false), (clock.officialCommitted, true), (clock.outboxCreated, true)]
  else []

/-- The checks of a run that is resumed at the rank, up to its commit, and those that follow. -/
def leaseChecks (rank : Nat) (clock : ProcessClock) (rest : List (Int × Bool)) : List (Int × Bool) :=
  checkpointCheck rank .normalized clock.normalized ++ (checkpointCheck rank .modelResolved clock.modelResolved ++
    (checkpointCheck rank .providerCostRated clock.providerCostRated ++ (checkpointCheck rank .aiuRated clock.aiuRated ++
      (checkpointCheck rank .quotaSettled clock.quotaSettled ++ (commitChecks rank clock.commit ++ rest)))))

/-- A checkpoint of a run that was resumed at `rank`, after the checkpoint of rank `k`. -/
theorem advanceIfNeeded_of {db : Database} {lease : InboxLease} {expires now duration : Int} {rank k : Nat}
    {target : PipelineStageName} {rest : List (Int × Bool)} (h : Holds db lease expires)
    (hrank : stageRank lease.stage = max rank k) (hk : k < stageRank target)
    (hlasts : LeaseLasts duration expires (checkpointCheck rank target now ++ rest)) :
    ∃ stage expires' expires'' db', advanceIfNeeded db lease target now duration =
        .ok (lease.advanced stage expires', db') ∧ Holds db' (lease.advanced stage expires') expires'' ∧
      Frame db db' ∧ stageRank stage = max rank (stageRank target) ∧ LeaseLasts duration expires'' rest := by
  unfold checkpointCheck at hlasts
  unfold advanceIfNeeded
  by_cases hneeded : rank < stageRank target
  · rw [if_pos hneeded] at hlasts
    rw [if_neg (by omega)]
    obtain ⟨db', hadvance, hholds, hframe⟩ := advance_ok h hlasts.1 target duration
    exact ⟨target, _, _, db', by rw [hadvance]; rfl, hholds, hframe, by omega, hlasts.2⟩
  · rw [if_neg hneeded] at hlasts
    rw [if_pos (by omega)]
    exact ⟨lease.stage, lease.leaseExpiresAt, expires, db, rfl, h, .refl db, by omega, hlasts⟩

theorem during_ok {α : Type} {lease : InboxLease} {db : Database} {x : Except Failure α} {a : α} :
    during lease db x = .ok a ↔ x = .ok a := by
  cases x with
  | ok b => exact ⟨fun h => by cases h; rfl, fun h => by cases h; rfl⟩
  | error e => exact ⟨nofun, nofun⟩

/-- What throws leaves the database as the last transaction did. -/
theorem during_error {α : Type} {lease : InboxLease} {db : Database} {x : Except Failure α} {at_ : Interrupted}
    (h : during lease db x = .error at_) : at_.db = db := by
  cases x with
  | ok b => cases h
  | error e => cases h; rfl

theorem advanceIfNeeded_outbox {db db' : Database} {lease lease' : InboxLease} {now duration : Int}
    {target : PipelineStageName} (h : advanceIfNeeded db lease target now duration = .ok (lease', db')) :
    db'.outbox = db.outbox := by
  unfold advanceIfNeeded at h
  split at h
  · cases h; rfl
  · exact advance_outbox (during_ok.mp h)

theorem advanceIfNeeded_error {db : Database} {lease : InboxLease} {now duration : Int} {target : PipelineStageName}
    {at_ : Interrupted} (h : advanceIfNeeded db lease target now duration = .error at_) : at_.db = db := by
  unfold advanceIfNeeded at h
  split at h
  · cases h
  · exact during_error h

/-- A checkpoint that was made was made in time. -/
theorem advanceIfNeeded_ok {db db' : Database} {lease lease' : InboxLease} {expires now duration : Int} {rank k : Nat}
    {target : PipelineStageName} (h : Holds db lease expires) (hrank : stageRank lease.stage = max rank k)
    (hk : k < stageRank target) (hok : advanceIfNeeded db lease target now duration = .ok (lease', db')) :
    ∃ stage expires' expires'', lease' = lease.advanced stage expires' ∧ Holds db' lease' expires'' ∧ Frame db db' ∧
      stageRank stage = max rank (stageRank target) ∧
      ∀ rest, LeaseLasts duration expires'' rest →
        LeaseLasts duration expires (checkpointCheck rank target now ++ rest) := by
  unfold advanceIfNeeded at hok
  unfold checkpointCheck
  by_cases hneeded : rank < stageRank target
  · rw [if_neg (by omega)] at hok
    rw [if_pos hneeded]
    have hadv := during_ok.mp hok
    have hnow := advance_in_time h hadv
    obtain ⟨db'', hadvance, hholds, hframe⟩ := advance_ok h hnow target duration
    cases hadvance.symm.trans hadv
    exact ⟨target, _, _, rfl, hholds, hframe, by omega, fun rest hrest => ⟨hnow, hrest⟩⟩
  · rw [if_pos (by omega)] at hok
    rw [if_neg hneeded]
    cases hok
    exact ⟨lease.stage, lease.leaseExpiresAt, expires, rfl, h, .refl db, by omega, fun rest hrest => hrest⟩

/-! ## The official commit of a run -/

/-- Every stage that is on returns; what the stages hand to the commit. -/
def StagesReturn (settings : ProcessorSettings) (lease : InboxLease) (context : PipelineSettlementContext) : Prop :=
  ∃ resolution providerCost aiu, resolutionStage settings.flags settings.handlers lease = .ok resolution ∧
    providerCostStage settings.flags settings.handlers lease resolution = .ok providerCost ∧
    aiuStage settings.flags settings.handlers lease resolution = .ok aiu ∧
    context = settlementContext settings.flags lease resolution providerCost aiu

/-- A run that is resumed at the rank gets past its commit with the quota tables `quota`. -/
def Commits (db : Database) (context : PipelineSettlementContext) (values : CommitValues) (rank : Nat)
    (quota : QuotaStore) : Prop :=
  (stageRank .outboxCreated ≤ rank ∧ quota = db.quota) ∨
    (rank < stageRank .outboxCreated ∧ Settles db context values quota)

theorem Commits.frame {db db' : Database} {context : PipelineSettlementContext} {values : CommitValues} {rank : Nat}
    {quota : QuotaStore} (hf : Frame db db') (h : Commits db context values rank quota) :
    Commits db' context values rank quota := by
  rcases h with ⟨hrank, h⟩ | ⟨hrank, h⟩
  · exact Or.inl ⟨hrank, h.trans hf.quota.symm⟩
  · exact Or.inr ⟨hrank, h.frame hf⟩

section OfficialCommit

variable {settings : ProcessorSettings} {db db' : Database} {lease lease' : InboxLease} {expires : Int}
  {context : PipelineSettlementContext} {values : CommitValues} {clock : CommitClock} {rank : Nat}
  {rest : List (Int × Bool)}

variable (settings) in
theorem officialCommit_of {quota : QuotaStore} (h : Holds db lease expires)
    (hrank : stageRank lease.stage = max rank (stageRank .quotaSettled))
    (hlasts : LeaseLasts settings.leaseDuration expires (commitChecks rank clock ++ rest))
    (hrating : ∀ x ∈ db.ratings.rows, x.id ≠ values.ratingId)
    (huser : ∃ u ∈ db.quota.users.rows, u.applicationId = context.applicationId ∧ u.externalId = context.event.userId)
    (hcommits : Commits db context values rank quota) :
    ∃ lease' db' expires', officialCommit settings db lease context values clock = .ok (lease', db') ∧
      db'.quota = quota ∧ Holds db' lease' expires' ∧ LeaseLasts settings.leaseDuration expires' rest := by
  have hlast : stageRank .quotaSettled < stageRank .outboxCreated := by decide
  unfold commitChecks at hlasts
  unfold officialCommit
  rcases hcommits with ⟨hpast, rfl⟩ | ⟨hneeded, hsettles⟩
  · rw [if_neg (by omega)] at hlasts
    rw [if_neg (by omega)]
    exact ⟨lease, db, expires, rfl, rfl, h, hlasts⟩
  · rw [if_pos hneeded] at hlasts
    rw [if_pos (by omega)]
    obtain ⟨hlock, hofficial, houtbox, hrest⟩ := hlasts
    obtain ⟨lease', metrics, db', expires', hcommit, hquota, hholds, rfl⟩ :=
      commitOfficial_of h hlock hofficial houtbox hrating huser hsettles
    exact ⟨lease', db', _, bind_of (during_ok.mpr hcommit) rfl, hquota, hholds, hrest⟩

theorem officialCommit_ok (h : Holds db lease expires)
    (hrank : stageRank lease.stage = max rank (stageRank .quotaSettled))
    (hok : officialCommit settings db lease context values clock = .ok (lease', db')) :
    Commits db context values rank db'.quota ∧
      LeaseLasts settings.leaseDuration expires (commitChecks rank clock ++ []) := by
  have hlast : stageRank .quotaSettled < stageRank .outboxCreated := by decide
  unfold commitChecks
  unfold officialCommit at hok
  by_cases hneeded : rank < stageRank .outboxCreated
  · rw [if_pos (by omega)] at hok
    rw [if_pos hneeded]
    obtain ⟨⟨⟨l, metrics⟩, d⟩, hcommit, hok⟩ := bind_ok hok
    cases hok
    have hcommit := during_ok.mp hcommit
    obtain ⟨hlock, hofficial, houtbox⟩ := commitOfficial_in_time h hcommit
    exact ⟨Or.inr ⟨hneeded, commitOfficial_ok hcommit⟩, hlock, hofficial, houtbox, trivial⟩
  · rw [if_neg (by omega)] at hok
    rw [if_neg hneeded]
    cases hok
    exact ⟨Or.inl ⟨by omega, rfl⟩, trivial⟩

theorem officialCommit_error {at_ : Interrupted}
    (h : officialCommit settings db lease context values clock = .error at_) : at_.db = db := by
  unfold officialCommit at h
  split at h
  · rcases bind_error h with h | ⟨a, -, h⟩
    · exact during_error h
    · cases h
  · cases h

end OfficialCommit

/-! ## The run up to its commit -/

section Settle

variable {settings : ProcessorSettings} {db db' : Database} {lease lease' : InboxLease} {expires : Int}
  {values : CommitValues} {clock : ProcessClock}

/-- Under a lease that lasts, a run whose stages return gets to its commit, having changed
    nothing that the commit reads. -/
theorem settleStages_upto {context : PipelineSettlementContext} {rest : List (Int × Bool)} (values : CommitValues)
    (h : Holds db lease expires)
    (hlasts : LeaseLasts settings.leaseDuration expires (leaseChecks (stageRank lease.stage) clock rest))
    (hcontext : StagesReturn settings lease context) :
    ∃ stage expires' expires₁ db₁, settleStages settings db lease values clock =
        officialCommit settings db₁ (lease.advanced stage expires') context values clock.commit ∧
      Holds db₁ (lease.advanced stage expires') expires₁ ∧ Frame db db₁ ∧ db₁.outbox = db.outbox ∧
      stageRank stage = max (stageRank lease.stage) (stageRank .quotaSettled) ∧
      LeaseLasts settings.leaseDuration expires₁ (commitChecks (stageRank lease.stage) clock.commit ++ rest) := by
  obtain ⟨resolution, providerCost, aiu, hres, hcost, haiu, rfl⟩ := hcontext
  -- each checkpoint leaves the lease as it was but for its stage and expiry
  obtain ⟨st₁, e₁, x₁, db₁, hadv₁, hh₁, hf₁, hr₁, hl₁⟩ := advanceIfNeeded_of (k := 0) h (by omega) (by decide) hlasts
  obtain ⟨st₂, e₂, x₂, db₂, hadv₂, hh₂, hf₂, hr₂, hl₂⟩ := advanceIfNeeded_of hh₁ hr₁ (by decide) hl₁
  obtain ⟨st₃, e₃, x₃, db₃, hadv₃, hh₃, hf₃, hr₃, hl₃⟩ := advanceIfNeeded_of hh₂ hr₂ (by decide) hl₂
  obtain ⟨st₄, e₄, x₄, db₄, hadv₄, hh₄, hf₄, hr₄, hl₄⟩ := advanceIfNeeded_of hh₃ hr₃ (by decide) hl₃
  obtain ⟨st₅, e₅, x₅, db₅, hadv₅, hh₅, hf₅, hr₅, hl₅⟩ := advanceIfNeeded_of hh₄ hr₄ (by decide) hl₄
  have houtbox : db₅.outbox = db.outbox := by
    rw [advanceIfNeeded_outbox hadv₅, advanceIfNeeded_outbox hadv₄, advanceIfNeeded_outbox hadv₃,
      advanceIfNeeded_outbox hadv₂, advanceIfNeeded_outbox hadv₁]
  refine ⟨st₅, e₅, x₅, db₅, ?_, hh₅, (((hf₁.trans hf₂).trans hf₃).trans hf₄).trans hf₅, houtbox, hr₅, hl₅⟩
  refine bind_of hadv₁ (bind_of (during_ok.mpr hres) (bind_of hadv₂ (bind_of (during_ok.mpr hcost) ?_)))
  exact bind_of hadv₃ (bind_of (during_ok.mpr haiu) (bind_of hadv₄ (bind_of hadv₅ rfl)))

/-- Under a lease that lasts, a run gets past its commit when its stages return and the
    commit goes through. -/
theorem settleStages_of {context : PipelineSettlementContext} {quota : QuotaStore} {rest : List (Int × Bool)}
    (h : Holds db lease expires)
    (hlasts : LeaseLasts settings.leaseDuration expires (leaseChecks (stageRank lease.stage) clock rest))
    (hrating : ∀ x ∈ db.ratings.rows, x.id ≠ values.ratingId)
    (huser : ∃ u ∈ db.quota.users.rows, u.applicationId = lease.applicationId ∧ u.externalId = lease.payload.userId)
    (hcontext : StagesReturn settings lease context)
    (hcommits : Commits db context values (stageRank lease.stage) quota) :
    ∃ lease' db' expires', settleStages settings db lease values clock = .ok (lease', db') ∧ db'.quota = quota ∧
      Holds db' lease' expires' ∧ LeaseLasts settings.leaseDuration expires' rest := by
  obtain ⟨stage, e, expires₁, db₁, hupto, hholds, hframe, -, hrank, hrest⟩ := settleStages_upto values h hlasts hcontext
  have huser' : ∃ u ∈ db₁.quota.users.rows, u.applicationId = context.applicationId ∧
      u.externalId = context.event.userId := by
    obtain ⟨resolution, providerCost, aiu, -, -, -, rfl⟩ := hcontext
    rw [hframe.quota]
    exact huser
  obtain ⟨lease', db', expires', hofficial, hend⟩ := officialCommit_of settings hholds hrank hrest
    (by rw [hframe.ratings]; exact hrating) huser' (hcommits.frame hframe)
  exact ⟨lease', db', expires', hupto.trans hofficial, hend⟩

theorem settleStages_ok (h : Holds db lease expires)
    (hok : settleStages settings db lease values clock = .ok (lease', db')) :
    ∃ context, StagesReturn settings lease context ∧ Commits db context values (stageRank lease.stage) db'.quota ∧
      LeaseLasts settings.leaseDuration expires (leaseChecks (stageRank lease.stage) clock []) := by
  obtain ⟨⟨lease₁, db₁⟩, h₁, hok⟩ := bind_ok hok
  obtain ⟨resolution, hres, hok⟩ := bind_ok hok
  obtain ⟨⟨lease₂, db₂⟩, h₂, hok⟩ := bind_ok hok
  obtain ⟨providerCost, hcost, hok⟩ := bind_ok hok
  obtain ⟨⟨lease₃, db₃⟩, h₃, hok⟩ := bind_ok hok
  obtain ⟨aiu, haiu, hok⟩ := bind_ok hok
  obtain ⟨⟨lease₄, db₄⟩, h₄, hok⟩ := bind_ok hok
  obtain ⟨⟨lease₅, db₅⟩, h₅, hok⟩ := bind_ok hok
  have hrank : stageRank lease.stage = max (stageRank lease.stage) 0 := by omega
  obtain ⟨st₁, e₁, x₁, rfl, hh₁, hf₁, hr₁, hl₁⟩ := advanceIfNeeded_ok h hrank (by decide) h₁
  obtain ⟨st₂, e₂, x₂, rfl, hh₂, hf₂, hr₂, hl₂⟩ := advanceIfNeeded_ok hh₁ hr₁ (by decide) h₂
  obtain ⟨st₃, e₃, x₃, rfl, hh₃, hf₃, hr₃, hl₃⟩ := advanceIfNeeded_ok hh₂ hr₂ (by decide) h₃
  obtain ⟨st₄, e₄, x₄, rfl, hh₄, hf₄, hr₄, hl₄⟩ := advanceIfNeeded_ok hh₃ hr₃ (by decide) h₄
  obtain ⟨st₅, e₅, x₅, rfl, hh₅, hf₅, hr₅, hl₅⟩ := advanceIfNeeded_ok hh₄ hr₄ (by decide) h₅
  have hframe : Frame db db₅ := (((hf₁.trans hf₂).trans hf₃).trans hf₄).trans hf₅
  obtain ⟨hcommits, hlasts⟩ := officialCommit_ok hh₅ hr₅ hok
  refine ⟨settlementContext settings.flags lease resolution providerCost aiu, ?_, hcommits.frame hframe.symm, ?_⟩
  · exact ⟨resolution, providerCost, aiu, during_ok.mp hres, during_ok.mp hcost, during_ok.mp haiu, rfl⟩
  · exact hl₁ _ (hl₂ _ (hl₃ _ (hl₄ _ (hl₅ _ hlasts))))

/-- A run that is interrupted before its commit went through has not touched the quota. -/
theorem settleStages_error {at_ : Interrupted} (h : settleStages settings db lease values clock = .error at_) :
    at_.db.quota = db.quota := by
  have hadvanced : ∀ {d d' : Database} {l l' : InboxLease} {target : PipelineStageName} {now : Int},
      advanceIfNeeded d l target now settings.leaseDuration = .ok (l', d') → d.quota = db.quota →
      d'.quota = db.quota := by
    intro d d' l l' target now hok hd
    unfold advanceIfNeeded at hok
    split at hok
    · cases hok; exact hd
    · exact (advance_frame (during_ok.mp hok)).quota.trans hd
  rcases bind_error h with h | ⟨⟨lease₁, db₁⟩, h₁, h⟩
  · rw [advanceIfNeeded_error h]
  have hq₁ := hadvanced h₁ rfl
  rcases bind_error h with h | ⟨resolution, -, h⟩
  · rw [during_error h, hq₁]
  rcases bind_error h with h | ⟨⟨lease₂, db₂⟩, h₂, h⟩
  · rw [advanceIfNeeded_error h, hq₁]
  have hq₂ := hadvanced h₂ hq₁
  rcases bind_error h with h | ⟨providerCost, -, h⟩
  · rw [during_error h, hq₂]
  rcases bind_error h with h | ⟨⟨lease₃, db₃⟩, h₃, h⟩
  · rw [advanceIfNeeded_error h, hq₂]
  have hq₃ := hadvanced h₃ hq₂
  rcases bind_error h with h | ⟨aiu, -, h⟩
  · rw [during_error h, hq₃]
  rcases bind_error h with h | ⟨⟨lease₄, db₄⟩, h₄, h⟩
  · rw [advanceIfNeeded_error h, hq₃]
  have hq₄ := hadvanced h₄ hq₃
  rcases bind_error h with h | ⟨⟨lease₅, db₅⟩, h₅, h⟩
  · rw [advanceIfNeeded_error h, hq₄]
  rw [officialCommit_error h, hadvanced h₅ hq₄]

end Settle

/-! ## The run -/

section Process

variable {settings : ProcessorSettings} {db : Database} {lease : InboxLease} {expires : Int} {values : CommitValues}
  {clock : ProcessClock}

theorem process_status_iff : (process settings db lease values clock).1.status = .completed ↔
    ∃ db', processStages settings db lease values clock = .ok db' := by
  unfold process
  cases processStages settings db lease values clock with
  | ok db' => exact ⟨fun _ => ⟨db', rfl⟩, fun _ => rfl⟩
  | error at_ =>
    refine ⟨fun h => absurd h ?_, nofun⟩
    dsimp only
    unfold processFailure
    dsimp only
    split
    · split <;> exact nofun
    · split <;> exact nofun

/-- Against a store whose leases stay valid, a run completes if and only if every stage that
    is on returns and, unless the row is past the commit, the settlement goes through. -/
theorem process_completed_iff (h : Holds db lease expires)
    (hlasts : LeaseLasts settings.leaseDuration expires
      (leaseChecks (stageRank lease.stage) clock [(clock.complete, false)]))
    (hrating : ∀ x ∈ db.ratings.rows, x.id ≠ values.ratingId)
    (huser : ∃ u ∈ db.quota.users.rows, u.applicationId = lease.applicationId ∧
      u.externalId = lease.payload.userId) :
    (process settings db lease values clock).1.status = .completed ↔
      ∃ context, StagesReturn settings lease context ∧
        (stageRank .outboxCreated ≤ stageRank lease.stage ∨ ∃ quota, Settles db context values quota) := by
  rw [process_status_iff]
  constructor
  · intro hyp
    obtain ⟨db', hrun⟩ := hyp
    obtain ⟨⟨lease₁, db₁⟩, hsettle, -⟩ := bind_ok hrun
    obtain ⟨context, hcontext, hcommits, -⟩ := settleStages_ok h hsettle
    refine ⟨context, hcontext, ?_⟩
    rcases hcommits with ⟨hpast, -⟩ | ⟨-, hsettles⟩
    · exact Or.inl hpast
    · exact Or.inr ⟨_, hsettles⟩
  · intro hyp
    obtain ⟨context, hcontext, hcond⟩ := hyp
    obtain ⟨quota, hcommits⟩ : ∃ quota, Commits db context values (stageRank lease.stage) quota := by
      by_cases hneeded : stageRank lease.stage < stageRank .outboxCreated
      · rcases hcond with hpast | ⟨quota, hsettles⟩
        · omega
        · exact ⟨quota, Or.inr ⟨hneeded, hsettles⟩⟩
      · exact ⟨db.quota, Or.inl ⟨by omega, rfl⟩⟩
    obtain ⟨lease', db', expires', hsettle, -, hholds, hrest⟩ :=
      settleStages_of h hlasts hrating huser hcontext hcommits
    obtain ⟨db'', hcomplete⟩ := complete_ok hholds hrest.1
    exact ⟨db'', bind_of hsettle (during_ok.mpr hcomplete)⟩

theorem processFailure_quota {at_ : Interrupted} :
    (processFailure settings clock at_).2.quota = at_.db.quota := by
  unfold processFailure
  dsimp only
  split
  · split
    · exact updateLeased_quota ‹_›
    · rfl
  · split
    · exact deadLetter_quota ‹_›
    · rfl

/-- What a run leaves of the quota is what its commit left of it. -/
theorem process_quota_of_settled {lease' : InboxLease} {db' : Database}
    (h : settleStages settings db lease values clock = .ok (lease', db')) :
    (process settings db lease values clock).2.quota = db'.quota := by
  unfold process
  cases hcomplete : complete db' lease' clock.complete with
  | ok db'' =>
    have hrun : processStages settings db lease values clock = .ok db'' := bind_of h (during_ok.mpr hcomplete)
    rw [hrun]
    exact complete_quota hcomplete
  | error e =>
    have hrun : processStages settings db lease values clock = .error ⟨lease', db', e⟩ :=
      bind_of h (congrArg (during lease' db') hcomplete)
    rw [hrun]
    exact processFailure_quota

theorem process_quota_of_interrupted {at_ : Interrupted}
    (h : settleStages settings db lease values clock = .error at_) :
    (process settings db lease values clock).2.quota = db.quota := by
  have hrun : processStages settings db lease values clock = .error at_ := bind_throws h
  unfold process
  rw [hrun]
  exact processFailure_quota.trans (settleStages_error h)

end Process

end TokenPilot.Pipeline
