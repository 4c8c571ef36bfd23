/-
  TokenPilot.Pipeline.Writer — `ApplicationUsageOfficialWriter.commit`
  (apps/worker/src/application-usage/official-writer.ts), the transaction that makes
  the ratings of a usage event official and applies its AIU to the user's quota.

  The stages hand their results over as values of type `unknown`; an artifact is one
  of the three the handlers produce, or the placeholder of a stage that did not run.
  The cost and the AIU artifact must be the real ones (`costArtifact`, `aiuArtifact`);
  a quota artifact that is not is taken as one without a reservation
  (`quotaArtifact`), and then the reservation of the registry row is used.

  `commit_ok` and `commit_of` say when a commit goes through (`Settles`): what it asks
  for before the quota is touched, and the two quota steps, the policy and one
  `applyUserAiu`. To the quota tables these are operations like any other
  (`Settles.reachable`).

  PostgreSQL refuses a rating whose numbers its columns do not hold, or whose states and
  tokens break a CHECK (`ApplicationUsageRating.violation`); `RatingTaken` says when it takes
  the one a commit writes.

  Left out: the tags, properties and property definitions that outbox messages also copy;
  the transaction does not read them back. The texts of a rating are those of the registry
  row and of a version, which columns of the same lengths hold.
-/

import TokenPilot.Pipeline.Stages
import TokenPilot.Pipeline.UsageLines
import TokenPilot.Quota.Outcomes

namespace TokenPilot.Pipeline

open TokenPilot.Library TokenPilot.Quota

/-! ## Usage events -/

/-- A usage event the schema accepted, by the fields the pipeline reads, with its usage as
    the lines that normalization makes of it. A reservation is named by its UUID: ingestion
    stores it in a column of that type. -/
structure UsageEvent where
  eventId : String
  userId : String
  reservationId : Option Uuid
  virtualModel : Option String
  modelId : Option String
  connectionId : Option String
  requestModel : String
  eventTime : Timestamp
  usageLines : List ApplicationUsageLine
  deriving DecidableEq, Repr

/-! ## Artifacts -/

inductive CostStatus where
  | official
  | unpriced
  deriving DecidableEq, Repr

inductive AiuStatus where
  | official
  | unrated
  deriving DecidableEq, Repr

structure CostLine where
  usageType : Option String
  unitKey : String
  quantity : String
  rateItemId : Option Uuid
  amountPerUnit : Option String
  amount : Option String
  deriving DecidableEq, Repr

inductive CostSource where
  | reported
  | reportedEstimate
  | rule
  deriving DecidableEq, Repr

structure CostRatingArtifact where
  status : CostStatus
  source : Option CostSource
  versionId : Option Uuid
  ruleId : Option Uuid
  ruleName : Option String
  currency : Option String
  total : Option String
  lines : List CostLine
  deriving DecidableEq, Repr

structure AiuLine where
  usageType : String
  unitKey : String
  quantity : String
  rateItemId : Option Uuid
  rawAiuMicros : Option String
  chargedAiuMicros : Option String
  deriving DecidableEq, Repr

structure AiuRatingArtifact where
  status : AiuStatus
  versionId : Option Uuid
  totalMicros : Option Nat
  lines : List AiuLine
  deriving DecidableEq, Repr

structure ApplicationQuotaArtifact where
  reservationId : Option Uuid
  deriving DecidableEq, Repr

/-- What a stage hands on. A placeholder has a `status` and no `kind`. -/
inductive StageArtifact where
  | placeholder (status : String)
  | applicationCost (artifact : CostRatingArtifact)
  | applicationAiu (artifact : AiuRatingArtifact)
  | applicationQuota (artifact : ApplicationQuotaArtifact)
  deriving DecidableEq, Repr

def costArtifact : StageArtifact → Except Failure CostRatingArtifact
  | .applicationCost artifact => .ok artifact
  | _ => .error (.typeError "Application cost rating is missing")

def aiuArtifact : StageArtifact → Except Failure AiuRatingArtifact
  | .applicationAiu artifact => .ok artifact
  | _ => .error (.typeError "Application AIU rating is missing")

def quotaArtifact : StageArtifact → ApplicationQuotaArtifact
  | .applicationQuota artifact => artifact
  | _ => ⟨none⟩

inductive ResolutionStatus where
  | matched
  | unmapped
  | conflict
  | disabled
  deriving DecidableEq, Repr

structure PipelineResolutionArtifact where
  status : ResolutionStatus
  modelId : Option Uuid
  deriving DecidableEq, Repr

structure PipelineSettlementContext where
  applicationId : Uuid
  event : UsageEvent
  resolution : PipelineResolutionArtifact
  providerCost : StageArtifact
  aiu : StageArtifact
  quota : StageArtifact
  replayIntent : Option PipelineReplayIntent
  deriving DecidableEq, Repr

/-! ## Tables -/

structure Application where
  id : Uuid
  timezone : Timezone

structure UsageEventRegistry where
  applicationId : Uuid
  eventId : String
  applicationUserId : Uuid
  reservationId : Option Uuid
  payloadHash : String
  processingStage : PipelineStageName := .received
  deriving DecidableEq, Repr

/-- The cost is in units of its 18 decimals, the tokens in units of their 9. -/
structure ApplicationUsageRating where
  id : Uuid
  applicationId : Uuid
  eventId : String
  userId : Uuid
  modelId : Uuid
  virtualModel : Option String
  costStatus : CostStatus
  providerCost : Option Int
  currency : Option String
  costVersionId : Option Uuid
  costLines : List CostLine
  inputTokens : Int
  outputTokens : Int
  cachedTokens : Int
  totalTokens : Int
  aiuStatus : AiuStatus
  aiuMicros : Option Nat
  aiuVersionId : Option Uuid
  aiuLines : List AiuLine
  deriving DecidableEq, Repr

/-- `aggregateType` and `aggregateId`. -/
inductive Aggregate where
  | usageEvent (eventId : String)
  | applicationUser (userId : Uuid)
  | applicationUsageRating (ratingId : Uuid)
  deriving DecidableEq, Repr

/-- `PipelineOutbox.idempotencyKey`, by its templates. -/
inductive OutboxKey where
  /-- `clickhouse-raw:<event>:<hash>` -/
  | clickhouseRaw (eventId payloadHash : String)
  /-- `clickhouse-usage-lines:<event>:<hash>` -/
  | clickhouseUsageLines (eventId payloadHash : String)
  /-- `clickhouse-user-profile:<event>:<hash>` -/
  | clickhouseUserProfile (eventId payloadHash : String)
  /-- `application-rating:<application>:<event>:cost` -/
  | ratingCost (applicationId : Uuid) (eventId : String)
  /-- `application-rating:<application>:<event>:aiu` -/
  | ratingAiu (applicationId : Uuid) (eventId : String)
  deriving DecidableEq, Repr

/-- `ratingBase`: the fields of the event, with the rating they belong to. -/
structure RatingBase where
  applicationId : Uuid
  event : UsageEvent
  ratingId : Uuid
  modelId : Uuid
  deriving DecidableEq, Repr

/-- The JSON document of a message, by the values it is computed from. -/
inductive OutboxPayload where
  | usageEventsRaw (applicationId : Uuid) (event : UsageEvent) (resolution : PipelineResolutionArtifact)
      (payloadHash : String)
  | usageLines (applicationId : Uuid) (event : UsageEvent) (resolution : PipelineResolutionArtifact)
  | userProfile (applicationId : Uuid) (user : ApplicationUser)
  | providerCost (base : RatingBase) (cost : CostRatingArtifact)
  | aiu (base : RatingBase) (aiu : AiuRatingArtifact)
  deriving DecidableEq, Repr

structure PipelineOutboxMessage where
  aggregate : Aggregate
  eventType : String
  idempotencyKey : OutboxKey
  payload : OutboxPayload
  deriving DecidableEq, Repr

structure PipelineOutbox where
  applicationId : Uuid
  message : PipelineOutboxMessage
  deriving DecidableEq, Repr

inductive InboxStatus where
  | pending
  | leased
  | completed
  | failed
  | deadLetter
  deriving DecidableEq, Repr

/-- The payload is the event the schema reads from it; a purged one is gone. Lease times
    are microseconds, the resolution of the column. -/
structure IngestionInbox where
  id : Uuid
  applicationId : Uuid
  eventId : String
  payload : Option UsageEvent
  status : InboxStatus
  stage : PipelineStageName
  attemptCount : Nat
  availableAt : Timestamp
  nextRetryAt : Option Timestamp
  leaseOwner : Option String
  leaseExpiresAt : Option Int
  replayIntentJson : JsonValue

inductive DeadLetterStatus where
  | open
  | replayQueued
  | resolved
  | ignored
  deriving DecidableEq, Repr

structure DeadLetterEvent where
  applicationId : Uuid
  eventId : String
  inboxId : Uuid
  stage : PipelineStageName
  failure : Failure
  attemptCount : Nat
  status : DeadLetterStatus
  deriving DecidableEq, Repr

instance : Row UsageEventRegistry where
  clash a b := a.applicationId == b.applicationId && a.eventId == b.eventId
  clash_self a := by simp
  clash_comm a b := by simp only [Bool.beq_comm]
  refused _ := none

namespace ApplicationUsageRating

/-- A BIGINT and numbers of 38 digits hold the numbers. -/
def inRange (r : ApplicationUsageRating) : Bool :=
  r.aiuMicros.all (fun micros => decide (micros < 2 ^ 63)) &&
    r.providerCost.all (fun cost => decide (cost.natAbs < 10 ^ 38)) &&
    decide (r.inputTokens.natAbs < 10 ^ 38 ∧ r.outputTokens.natAbs < 10 ^ 38 ∧ r.cachedTokens.natAbs < 10 ^ 38 ∧
      r.totalTokens.natAbs < 10 ^ 38)

def aiuCheck (r : ApplicationUsageRating) : Bool :=
  match r.aiuStatus with
  | .official => r.aiuMicros.isSome && r.aiuVersionId.isSome
  | .unrated => r.aiuMicros.isNone

def costCheck (r : ApplicationUsageRating) : Bool :=
  match r.costStatus with
  | .official => r.providerCost.any (fun cost => decide (0 ≤ cost)) && r.currency.isSome
  | .unpriced => r.providerCost.isNone && r.currency.isNone

def tokensCheck (r : ApplicationUsageRating) : Bool :=
  decide (0 ≤ r.inputTokens ∧ 0 ≤ r.outputTokens ∧ 0 ≤ r.cachedTokens ∧
    r.totalTokens = r.inputTokens + r.outputTokens)

/-- What PostgreSQL refuses a rating for. -/
def violation (r : ApplicationUsageRating) : Option String :=
  if !r.inRange then some "numeric_value_out_of_range"
  else if !r.aiuCheck then some "application_usage_ratings_aiu_check"
  else if !r.costCheck then some "application_usage_ratings_cost_check"
  else if !r.tokensCheck then some "application_usage_ratings_tokens_check"
  else none

end ApplicationUsageRating

instance : Row ApplicationUsageRating where
  clash a b := a.id == b.id || (a.applicationId == b.applicationId && a.eventId == b.eventId)
  clash_self a := by simp
  clash_comm a b := by simp only [Bool.beq_comm]
  refused := ApplicationUsageRating.violation

instance : Row PipelineOutbox where
  clash a b := a.applicationId == b.applicationId && a.message.idempotencyKey == b.message.idempotencyKey
  clash_self a := by simp
  clash_comm a b := by simp only [Bool.beq_comm]
  refused _ := none

instance : Row IngestionInbox where
  clash a b := a.id == b.id || (a.applicationId == b.applicationId && a.eventId == b.eventId)
  clash_self a := by simp
  clash_comm a b := by simp only [Bool.beq_comm]
  refused _ := none

structure Database where
  quota : QuotaStore
  applications : List Application
  registry : Table UsageEventRegistry
  ratings : Table ApplicationUsageRating
  inbox : Table IngestionInbox
  outbox : Table PipelineOutbox
  deadLetters : List DeadLetterEvent

namespace Database

def registryOf (db : Database) (applicationId : Uuid) (eventId : String) : Option UsageEventRegistry :=
  db.registry.rows.find? fun r => r.applicationId == applicationId && r.eventId == eventId

def ratingOf (db : Database) (applicationId : Uuid) (eventId : String) : Option ApplicationUsageRating :=
  db.ratings.rows.find? fun r => r.applicationId == applicationId && r.eventId == eventId

def application (db : Database) (id : Uuid) : Option Application := db.applications.find? fun a => a.id == id

end Database

/-- `findFirstOrThrow` and `findUniqueOrThrow`. -/
def orThrow {α : Type} (x : Option α) : Except Failure α :=
  match x with
  | some a => .ok a
  | none => .error (.notFound "No record was found for a query.")

/-! ## The commit -/

/-- The values generated in one commit. -/
structure CommitValues where
  now : Timestamp
  ratingId : Uuid
  policyIds : MaterializeIds
  entry : Stamp
  deriving DecidableEq, Repr

structure PipelineOfficialMetrics where
  providerCostUnpriced : Bool := false
  aiuUnrated : Bool := false
  ratedAiuMicros : Option Nat := none
  consumption : Option UserAiuConsumption := none
  deriving DecidableEq, Repr

structure OfficialCommitResult where
  additionalOutboxMessages : List PipelineOutboxMessage
  metrics : PipelineOfficialMetrics
  deriving DecidableEq, Repr

def ratingBase (context : PipelineSettlementContext) (ratingId modelId : Uuid) : RatingBase :=
  ⟨context.applicationId, context.event, ratingId, modelId⟩

def ratingOutboxes (context : PipelineSettlementContext) (rating : ApplicationUsageRating) (cost : CostRatingArtifact)
    (aiu : AiuRatingArtifact) : List PipelineOutboxMessage :=
  let base := ratingBase context rating.id rating.modelId
  [⟨.applicationUsageRating rating.id,
      if cost.status = .official then "provider_cost.official_delta" else "provider_cost.unpriced",
      .ratingCost context.applicationId context.event.eventId, .providerCost base cost⟩,
    ⟨.applicationUsageRating rating.id, if aiu.status = .official then "aiu.official_delta" else "aiu.decision",
      .ratingAiu context.applicationId context.event.eventId, .aiu base aiu⟩]

def newRating (context : PipelineSettlementContext) (id userId modelId : Uuid) (cost : CostRatingArtifact)
    (aiu : AiuRatingArtifact) : ApplicationUsageRating where
  id := id
  applicationId := context.applicationId
  eventId := context.event.eventId
  userId := userId
  modelId := modelId
  virtualModel := context.event.virtualModel
  costStatus := cost.status
  providerCost := cost.total.map fun total => stored 18 (decimal total)
  currency := cost.currency
  costVersionId := cost.versionId
  costLines := cost.lines
  inputTokens := stored 9 (tokenTotals context.event.usageLines).input
  outputTokens := stored 9 (tokenTotals context.event.usageLines).output
  cachedTokens := stored 9 (tokenTotals context.event.usageLines).cached
  totalTokens := stored 9 (tokenTotals context.event.usageLines).total
  aiuStatus := aiu.status
  aiuMicros := aiu.totalMicros
  aiuVersionId := aiu.versionId
  aiuLines := aiu.lines

/-- The rating of the event, written on its first commit. -/
def findOrCreateRating (db : Database) (rating : ApplicationUsageRating) :
    Except Failure (ApplicationUsageRating × Database) := do
  match db.ratingOf rating.applicationId rating.eventId with
  | some existing => return (existing, db)
  | none =>
    let ratings ← statement (db.ratings.insert rating)
    return (rating, { db with ratings })

def usagePolicyInput (context : PipelineSettlementContext) (userId : Uuid) (timezone : Timezone) (now : Timestamp) :
    MaterializeInput :=
  ⟨context.applicationId, userId, policyWindow timezone now,
    "Applied the effective AIU quota rule during usage settlement"⟩

/-- The policy step of a commit: a rated event first brings the user's quota up to date. -/
def usagePolicyStep (db : Database) (context : PipelineSettlementContext) (userId : Uuid) (totalMicros : Option Nat)
    (values : CommitValues) : Except Failure QuotaStore := do
  match totalMicros with
  | none => return db.quota
  | some _ =>
    let application ← orThrow (db.application context.applicationId)
    let (_, quota) ← materializeEffectiveAiuQuotaPolicy db.quota
      (usagePolicyInput context userId application.timezone values.now) values.policyIds
    return quota

/-- The call of `applyUserAiu` in a commit. -/
def usageCall (context : PipelineSettlementContext) (registry : UsageEventRegistry) (totalMicros : Option Nat)
    (entry : Stamp) : AiuCall where
  applicationId := context.applicationId
  userId := registry.applicationUserId
  reservationId := (quotaArtifact context.quota).reservationId.or registry.reservationId
  eventId := context.event.eventId
  actual := totalMicros
  entry := entry

/-- The quota steps of a commit. -/
def settleUsage (db : Database) (context : PipelineSettlementContext) (registry : UsageEventRegistry)
    (totalMicros : Option Nat) (values : CommitValues) : Except Failure (Option UserAiuConsumption × QuotaStore) := do
  let quota ← usagePolicyStep db context registry.applicationUserId totalMicros values
  applyUserAiu quota (usageCall context registry totalMicros values.entry)

def commit (db : Database) (context : PipelineSettlementContext) (values : CommitValues) :
    Except Failure (OfficialCommitResult × Database) := do
  let cost ← costArtifact context.providerCost
  let aiu ← aiuArtifact context.aiu
  let registry ← orThrow (db.registryOf context.applicationId context.event.eventId)
  match context.resolution.modelId with
  | none => return (⟨[], { providerCostUnpriced := true, aiuUnrated := true }⟩, db)
  | some modelId =>
    let (rating, db) ← findOrCreateRating db
      (newRating context values.ratingId registry.applicationUserId modelId cost aiu)
    let (consumption, quota) ← settleUsage db context registry aiu.totalMicros values
    return (⟨ratingOutboxes context rating cost aiu, {
        providerCostUnpriced := decide (cost.status = .unpriced)
        aiuUnrated := decide (aiu.status = .unrated)
        ratedAiuMicros := aiu.totalMicros
        consumption := consumption }⟩, { db with quota })

/-- The database after the transaction, which is rolled back when it fails. -/
def committed (db : Database) (context : PipelineSettlementContext) (values : CommitValues) : Database :=
  match commit db context values with
  | .ok (_, db') => db'
  | .error _ => db

/-! ## What a commit does -/

section Commit

variable {db db' : Database} {context : PipelineSettlementContext} {values : CommitValues}

theorem orThrow_ok {α : Type} {x : Option α} {a : α} (h : orThrow x = .ok a) : x = some a := by
  cases x with
  | none => cases h
  | some b => cases h; rfl

theorem costArtifact_ok {artifact : StageArtifact} {cost : CostRatingArtifact} (h : costArtifact artifact = .ok cost) :
    artifact = .applicationCost cost := by
  cases artifact with
  | applicationCost a => cases h; rfl
  | _ => cases h

theorem aiuArtifact_ok {artifact : StageArtifact} {aiu : AiuRatingArtifact} (h : aiuArtifact artifact = .ok aiu) :
    artifact = .applicationAiu aiu := by
  cases artifact with
  | applicationAiu a => cases h; rfl
  | _ => cases h

theorem violation_none_iff {r : ApplicationUsageRating} : r.violation = none ↔
    r.inRange = true ∧ r.aiuCheck = true ∧ r.costCheck = true ∧ r.tokensCheck = true := by
  unfold ApplicationUsageRating.violation
  cases r.inRange <;> cases r.aiuCheck <;> cases r.costCheck <;> cases r.tokensCheck <;> decide

/-- The columns and the CHECKs of a rating take what is rated: the micros of the AIU in 64 bits,
    the cost in 38 digits with 18 decimals and the tokens in 38 with 9, a total that is the sum
    of its parts as they are stored, and an amount, a currency and a version where they belong. -/
structure RatingFits (lines : List ApplicationUsageLine) (cost : CostRatingArtifact) (aiu : AiuRatingArtifact) : Prop where
  micros : ∀ total ∈ aiu.totalMicros, total < 2 ^ 63
  amount : ∀ total ∈ cost.total, (stored 18 (decimal total)).natAbs < 10 ^ 38
  input : 0 ≤ stored 9 (tokenTotals lines).input ∧ stored 9 (tokenTotals lines).input < 10 ^ 38
  output : 0 ≤ stored 9 (tokenTotals lines).output ∧ stored 9 (tokenTotals lines).output < 10 ^ 38
  cached : 0 ≤ stored 9 (tokenTotals lines).cached ∧ stored 9 (tokenTotals lines).cached < 10 ^ 38
  total : stored 9 (tokenTotals lines).total = stored 9 (tokenTotals lines).input + stored 9 (tokenTotals lines).output ∧
    stored 9 (tokenTotals lines).total < 10 ^ 38
  rated : match aiu.status with
    | .official => aiu.totalMicros.isSome = true ∧ aiu.versionId.isSome = true
    | .unrated => aiu.totalMicros = none
  priced : match cost.status with
    | .official => (∃ total ∈ cost.total, 0 ≤ stored 18 (decimal total)) ∧ cost.currency.isSome = true
    | .unpriced => cost.total = none ∧ cost.currency = none

theorem newRating_aiuCheck_iff {id userId modelId : Uuid} {cost : CostRatingArtifact} {aiu : AiuRatingArtifact} :
    (newRating context id userId modelId cost aiu).aiuCheck = true ↔
      match aiu.status with
      | .official => aiu.totalMicros.isSome = true ∧ aiu.versionId.isSome = true
      | .unrated => aiu.totalMicros = none := by
  unfold ApplicationUsageRating.aiuCheck newRating
  cases aiu.status with
  | official => simp only [Bool.and_eq_true]
  | unrated => simp only [Option.isNone_iff_eq_none]

theorem newRating_costCheck_iff {id userId modelId : Uuid} {cost : CostRatingArtifact} {aiu : AiuRatingArtifact} :
    (newRating context id userId modelId cost aiu).costCheck = true ↔
      match cost.status with
      | .official => (∃ total ∈ cost.total, 0 ≤ stored 18 (decimal total)) ∧ cost.currency.isSome = true
      | .unpriced => cost.total = none ∧ cost.currency = none := by
  unfold ApplicationUsageRating.costCheck newRating
  cases cost.status with
  | official => simp [Option.any_eq_true]
  | unpriced => simp

theorem inRange_iff {r : ApplicationUsageRating} : r.inRange = true ↔
    ((∀ micros ∈ r.aiuMicros, micros < 2 ^ 63) ∧ ∀ cost ∈ r.providerCost, cost.natAbs < 10 ^ 38) ∧
      r.inputTokens.natAbs < 10 ^ 38 ∧ r.outputTokens.natAbs < 10 ^ 38 ∧ r.cachedTokens.natAbs < 10 ^ 38 ∧
      r.totalTokens.natAbs < 10 ^ 38 := by
  simp only [ApplicationUsageRating.inRange, Bool.and_eq_true, Option.all_eq_true, decide_eq_true_eq, Option.mem_def]

theorem tokensCheck_iff {r : ApplicationUsageRating} : r.tokensCheck = true ↔
    0 ≤ r.inputTokens ∧ 0 ≤ r.outputTokens ∧ 0 ≤ r.cachedTokens ∧ r.totalTokens = r.inputTokens + r.outputTokens := by
  simp only [ApplicationUsageRating.tokensCheck, decide_eq_true_eq]

theorem newRating_violation_iff {id userId modelId : Uuid} {cost : CostRatingArtifact} {aiu : AiuRatingArtifact} :
    (newRating context id userId modelId cost aiu).violation = none ↔ RatingFits context.event.usageLines cost aiu := by
  rw [violation_none_iff, newRating_aiuCheck_iff, newRating_costCheck_iff, inRange_iff, tokensCheck_iff]
  dsimp only [newRating]
  constructor
  · rintro ⟨⟨⟨hmicros, hamount⟩, hnumbers⟩, hrated, hpriced, htokens⟩
    refine ⟨hmicros, fun total htotal => ?_, by omega, by omega, by omega, by omega, hrated, hpriced⟩
    exact hamount _ (Option.mem_map_of_mem _ htotal)
  · rintro ⟨hmicros, hamount, hinput, houtput, hcached, htotal, hrated, hpriced⟩
    refine ⟨⟨⟨hmicros, fun cost hcost => ?_⟩, by omega, by omega, by omega, by omega⟩, hrated, hpriced, hinput.1,
      houtput.1, hcached.1, htotal.1⟩
    obtain ⟨total, htotal, rfl⟩ := Option.mem_map.mp hcost
    exact hamount total htotal

/-- The event has its rating, or PostgreSQL takes the one that is written. -/
def RatingTaken (db : Database) (context : PipelineSettlementContext) (cost : CostRatingArtifact)
    (aiu : AiuRatingArtifact) : Prop :=
  (db.ratingOf context.applicationId context.event.eventId).isSome = true ∨
    RatingFits context.event.usageLines cost aiu

/-- The rating step leaves everything else as it is. -/
theorem findOrCreateRating_ok {rating rating' : ApplicationUsageRating}
    (h : findOrCreateRating db rating = .ok (rating', db')) :
    ((db.ratingOf rating.applicationId rating.eventId).isSome = true ∨ Row.refused rating = none) ∧
      ∃ ratings, db' = { db with ratings } ∧
        ∃ r ∈ ratings.rows, r.applicationId = rating.applicationId ∧ r.eventId = rating.eventId := by
  unfold findOrCreateRating at h
  split at h
  · rename_i hfound
    cases h
    have hkey := List.find?_some hfound
    simp only [Bool.and_eq_true, beq_iff_eq] at hkey
    exact ⟨Or.inl (by rw [hfound]; rfl), db.ratings, rfl, _, List.mem_of_find?_eq_some hfound, hkey⟩
  · obtain ⟨ratings, hinsert, h⟩ := bind_ok h
    cases h
    obtain ⟨hfits, -, hrows⟩ := Table.insert_ok (statement_ok hinsert)
    exact ⟨Or.inr hfits, ratings, rfl, rating, by rw [hrows]; simp, rfl, rfl⟩

variable (db) in
theorem findOrCreateRating_of (rating : ApplicationUsageRating)
    (hid : (db.ratingOf rating.applicationId rating.eventId).isSome = true ∨ ∀ x ∈ db.ratings.rows, x.id ≠ rating.id)
    (htaken : (db.ratingOf rating.applicationId rating.eventId).isSome = true ∨ Row.refused rating = none) :
    ∃ rating' ratings, findOrCreateRating db rating = .ok (rating', { db with ratings }) := by
  unfold findOrCreateRating
  split
  · exact ⟨_, db.ratings, rfl⟩
  · rename_i hnone
    rw [hnone, Option.isSome_none] at hid htaken
    have hid := hid.resolve_left (by decide)
    have hnew : ∀ x ∈ db.ratings.rows, Row.clash x rating = false := by
      intro x hx
      have hkey := List.find?_eq_none.mp hnone x hx
      simp only [Row.clash, Bool.or_eq_false_iff, beq_eq_false_iff_ne]
      exact ⟨hid x hx, by simpa using hkey⟩
    obtain ⟨ratings, hinsert, -⟩ := Table.insert_of (t := db.ratings) (r := rating) (htaken.resolve_left (by decide)) hnew
    exact ⟨rating, ratings, bind_of (congrArg statement hinsert) rfl⟩

/-- The event is in the registry, both ratings were made, and, when its model is known, its
    rating is taken and the quota steps return. -/
inductive Settles (db : Database) (context : PipelineSettlementContext) (values : CommitValues) : QuotaStore → Prop
  | unresolved {cost aiu registry} : context.providerCost = .applicationCost cost →
      context.aiu = .applicationAiu aiu → db.registryOf context.applicationId context.event.eventId = some registry →
      context.resolution.modelId = none → Settles db context values db.quota
  | settled {cost aiu registry modelId consumption quota} : context.providerCost = .applicationCost cost →
      context.aiu = .applicationAiu aiu → db.registryOf context.applicationId context.event.eventId = some registry →
      context.resolution.modelId = some modelId → RatingTaken db context cost aiu →
      settleUsage db context registry aiu.totalMicros values = .ok (consumption, quota) →
      Settles db context values quota

theorem commit_ok {result : OfficialCommitResult} (h : commit db context values = .ok (result, db')) :
    Settles db context values db'.quota ∧ ∃ ratings quota, db' = { db with ratings, quota } := by
  unfold commit at h
  obtain ⟨cost, hcost, h⟩ := bind_ok h
  obtain ⟨aiu, haiu, h⟩ := bind_ok h
  obtain ⟨registry, hregistry, h⟩ := bind_ok h
  have hcost := costArtifact_ok hcost
  have haiu := aiuArtifact_ok haiu
  have hregistry := orThrow_ok hregistry
  split at h
  · cases h
    exact ⟨.unresolved hcost haiu hregistry ‹_›, db.ratings, db.quota, rfl⟩
  · obtain ⟨⟨rating, db₁⟩, hrating, h⟩ := bind_ok h
    obtain ⟨⟨consumption, quota⟩, hsettle, h⟩ := bind_ok h
    cases h
    obtain ⟨htaken, ratings, rfl, -⟩ := findOrCreateRating_ok hrating
    exact ⟨.settled hcost haiu hregistry ‹_› (htaken.imp_right newRating_violation_iff.mp) hsettle, ratings, quota, rfl⟩

/-- The event of a commit that went through has a rating, when its model is known. -/
theorem commit_rating {result : OfficialCommitResult} (h : commit db context values = .ok (result, db'))
    (hmodel : context.resolution.modelId ≠ none) :
    ∃ r ∈ db'.ratings.rows, r.applicationId = context.applicationId ∧ r.eventId = context.event.eventId := by
  unfold commit at h
  obtain ⟨cost, -, h⟩ := bind_ok h
  obtain ⟨aiu, -, h⟩ := bind_ok h
  obtain ⟨registry, -, h⟩ := bind_ok h
  split at h
  · exact absurd ‹_› hmodel
  · obtain ⟨⟨rating, db₁⟩, hrating, h⟩ := bind_ok h
    obtain ⟨⟨consumption, quota⟩, -, h⟩ := bind_ok h
    cases h
    obtain ⟨-, ratings, rfl, hmem⟩ := findOrCreateRating_ok hrating
    exact hmem

theorem ratingOf_isSome {applicationId : Uuid} {eventId : String} {r : ApplicationUsageRating} (hr : r ∈ db.ratings.rows)
    (ha : r.applicationId = applicationId) (he : r.eventId = eventId) :
    (db.ratingOf applicationId eventId).isSome = true :=
  List.find?_isSome.mpr ⟨r, hr, by simp [ha, he]⟩

/-- A commit that settles goes through, where it has no rating to write or a new id for it. -/
theorem commit_of {quota : QuotaStore}
    (hid : context.resolution.modelId = none ∨ (db.ratingOf context.applicationId context.event.eventId).isSome = true ∨
      ∀ x ∈ db.ratings.rows, x.id ≠ values.ratingId)
    (h : Settles db context values quota) :
    ∃ result ratings, commit db context values = .ok (result, { db with ratings, quota }) := by
  cases h with
  | unresolved hcost haiu hregistry hmodel =>
    refine ⟨⟨[], { providerCostUnpriced := true, aiuUnrated := true }⟩, db.ratings, ?_⟩
    unfold commit
    simp only [hcost, haiu, hregistry, hmodel]
    rfl
  | @settled cost aiu registry modelId consumption _ hcost haiu hregistry hmodel htaken hsettle =>
    obtain ⟨rating, ratings, hrating⟩ := findOrCreateRating_of db
      (newRating context values.ratingId registry.applicationUserId modelId cost aiu)
      (hid.resolve_left (by rw [hmodel]; exact nofun)) (htaken.imp_right newRating_violation_iff.mpr)
    have hsettle' : settleUsage { db with ratings } context registry aiu.totalMicros values =
      .ok (consumption, quota) := hsettle
    refine ⟨⟨ratingOutboxes context rating cost aiu, {
      providerCostUnpriced := decide (cost.status = .unpriced)
      aiuUnrated := decide (aiu.status = .unrated)
      ratedAiuMicros := aiu.totalMicros
      consumption := consumption }⟩, ratings, ?_⟩
    unfold commit
    simp only [hcost, haiu, hregistry, hmodel]
    exact bind_of rfl (bind_of rfl (bind_of rfl (bind_of hrating (bind_of hsettle' rfl))))

theorem Settles.cost {quota : QuotaStore} (h : Settles db context values quota) :
    ∃ cost, context.providerCost = .applicationCost cost := by
  cases h with
  | unresolved hcost => exact ⟨_, hcost⟩
  | settled hcost => exact ⟨_, hcost⟩

/-- What a settlement of a known model did, by the ratings and the registry row of the event. -/
theorem Settles.usage {quota : QuotaStore} {cost : CostRatingArtifact} {aiu : AiuRatingArtifact}
    {registry : UsageEventRegistry} (h : Settles db context values quota)
    (hcost : context.providerCost = .applicationCost cost) (haiu : context.aiu = .applicationAiu aiu)
    (hregistry : db.registryOf context.applicationId context.event.eventId = some registry)
    (hmodel : context.resolution.modelId ≠ none) :
    RatingTaken db context cost aiu ∧
      ∃ consumption, settleUsage db context registry aiu.totalMicros values = .ok (consumption, quota) := by
  cases h with
  | unresolved _ _ _ hnone => exact absurd hnone hmodel
  | settled hcost' haiu' hregistry' _ htaken hsettle =>
    cases hcost.symm.trans hcost'
    cases haiu.symm.trans haiu'
    cases hregistry.symm.trans hregistry'
    exact ⟨htaken, _, hsettle⟩

end Commit

/-! ## A commit among the quota's operations -/

section Quota

variable {db : Database} {context : PipelineSettlementContext} {values : CommitValues}

/-- The policy step is nothing, or the operation `materialize`. -/
theorem usagePolicyStep_ok {userId : Uuid} {totalMicros : Option Nat} {quota : QuotaStore}
    (h : usagePolicyStep db context userId totalMicros values = .ok quota) :
    (totalMicros = none ∧ quota = db.quota) ∨
      ∃ application a, db.application context.applicationId = some application ∧
        materializeEffectiveAiuQuotaPolicy db.quota
          (usagePolicyInput context userId application.timezone values.now) values.policyIds = .ok (a, quota) := by
  unfold usagePolicyStep at h
  split at h
  · cases h
    exact Or.inl ⟨rfl, rfl⟩
  · obtain ⟨application, happlication, h⟩ := bind_ok h
    obtain ⟨⟨a, s⟩, hs, h⟩ := bind_ok h
    cases h
    exact Or.inr ⟨application, a, orThrow_ok happlication, hs⟩

theorem usagePolicyStep_moves {userId : Uuid} {totalMicros : Option Nat} {quota : QuotaStore} (hl : Linked db.quota)
    (h : usagePolicyStep db context userId totalMicros values = .ok quota) :
    ∃ ms, Moves db.quota ms quota ∧ ∀ m ∈ ms, m.change.configures = true := by
  rcases usagePolicyStep_ok h with ⟨-, rfl⟩ | ⟨application, a, -, hm⟩
  · exact ⟨[], .nil (.refl _), by simp⟩
  rcases materialize_moves hl hm with rfl | ⟨m, hconf, happ⟩
  · exact ⟨[], .nil (.refl _), by simp⟩
  · exact ⟨[m], .one happ, by simpa using hconf⟩

theorem usagePolicyStep_reachable {settings : ReservationSettings} {userId : Uuid} {totalMicros : Option Nat}
    {quota : QuotaStore} (hs : Reachable settings db.quota)
    (h : usagePolicyStep db context userId totalMicros values = .ok quota) : Reachable settings quota := by
  rcases usagePolicyStep_ok h with ⟨-, rfl⟩ | ⟨application, a, -, hm⟩
  · exact hs
  · let call : MaterializeCall := ⟨context.applicationId, userId, application.timezone, values.now,
      "Applied the effective AIU quota rule during usage settlement", values.policyIds⟩
    have hexec : (system settings).exec db.quota (.materialize call) = .ok (.quota a, quota) := by
      have : materializeEffectiveAiuQuotaPolicy db.quota call.input call.ids = .ok (a, quota) := hm
      simp only [system, exec, this, answered]
    obtain ⟨ops, hops⟩ := hs
    refine ⟨ops ++ [.materialize call], ?_⟩
    rw [Machine.run_append, ← hops]
    exact (Machine.step_of_ok (system settings) hexec).symm

/-- To the quota tables, a commit is a run of the quota's operations. -/
theorem Settles.reachable {settings : ReservationSettings} {quota : QuotaStore} (hs : Reachable settings db.quota)
    (h : Settles db context values quota) : Reachable settings quota := by
  cases h with
  | unresolved => exact hs
  | @settled cost aiu registry modelId consumption _ _ _ _ _ _ hsettle =>
    obtain ⟨s₁, h₁, h₂⟩ := bind_ok hsettle
    obtain ⟨ops, hops⟩ := usagePolicyStep_reachable hs h₁
    refine ⟨ops ++ [.applyUserAiu (usageCall context registry aiu.totalMicros values.entry)], ?_⟩
    rw [Machine.run_append, ← hops]
    refine (Machine.step_of_ok (system settings) (o := .consumption consumption) ?_).symm
    simp only [system, exec, h₂, answered]

theorem Settles.users {quota : QuotaStore} (h : Settles db context values quota) : quota.users = db.quota.users := by
  cases h with
  | unresolved => rfl
  | settled _ _ _ _ _ hsettle =>
    obtain ⟨s₁, h₁, h₂⟩ := bind_ok hsettle
    refine (applyUserAiu_users h₂).trans ?_
    rcases usagePolicyStep_ok h₁ with ⟨-, rfl⟩ | ⟨application, a, -, hm⟩
    · rfl
    · exact materialize_users hm

end Quota

/-! ## Events of the small application

Two events of its user, sent with the same reservation, and one without. -/

namespace Sample

def event (eventId : String) (reservationId : Option Uuid) : UsageEvent :=
  ⟨eventId, "alice", reservationId, some "chat", none, none, "gpt", 1500, []⟩

def firstHash : String := "5feceb66ffc86f38d952786c6d696c79c2dbc239dd4e91b46729d73a27fb57e1"

def secondHash : String := "5feceb66ffc86f38d952786c6d696c79c2dbc239dd4e91b46729d73a27fb57e2"

def unreservedHash : String := "5feceb66ffc86f38d952786c6d696c79c2dbc239dd4e91b46729d73a27fb57e3"

def registry : Table UsageEventRegistry where
  rows := [⟨0, Quota.Sample.firstEvent, 1, some 7, firstHash, .received⟩,
    ⟨0, Quota.Sample.secondEvent, 1, some 7, secondHash, .received⟩,
    ⟨0, Quota.Sample.unreservedEvent, 1, none, unreservedHash, .received⟩]
  unique := by simp [Row.clash, Quota.Sample.firstEvent, Quota.Sample.secondEvent, Quota.Sample.unreservedEvent]
  checked := by simp [Row.refused]

def database (quota : QuotaStore) : Database :=
  ⟨quota, [⟨0, Quota.Sample.utc⟩], registry, .empty, .empty, .empty, []⟩

def cost : CostRatingArtifact := ⟨.unpriced, none, none, none, none, none, none, []⟩

def aiu (totalMicros : Nat) : AiuRatingArtifact := ⟨.official, some 30, some totalMicros, []⟩

def rated (eventId : String) (reservationId : Option Uuid) (totalMicros : Nat) : PipelineSettlementContext where
  applicationId := 0
  event := event eventId reservationId
  resolution := ⟨.matched, some 5⟩
  providerCost := .applicationCost cost
  aiu := .applicationAiu (aiu totalMicros)
  quota := .applicationQuota ⟨reservationId⟩
  replayIntent := none

/-- The rating of an event without usage, at no price. -/
theorem unused_fits {totalMicros : Nat} (h : totalMicros < 2 ^ 63) : RatingFits [] cost (aiu totalMicros) where
  micros total htotal := by cases htotal; exact h
  amount total htotal := by cases htotal
  input := by decide +kernel
  output := by decide +kernel
  cached := by decide +kernel
  total := by decide +kernel
  rated := ⟨rfl, rfl⟩
  priced := ⟨rfl, rfl⟩

def values (id : Uuid) (now : Timestamp) : CommitValues := ⟨now, id, ⟨2, id, ⟨id, now⟩⟩, ⟨id + 1, now⟩⟩

end Sample

end TokenPilot.Pipeline
