/-
  TokenPilot.Reconciliation.Snapshots — what a run of the worker reads of the two stores
  (snapshot-source.ts, clickhouse-snapshot-query.ts) of the events that the pipeline settled
  (official-writer.ts, the mappers of the sink).

  A decimal column is a number of its last places: PostgreSQL rounds what is stored and
  refuses a cast that does not fit, ClickHouse adds in 128 and 64 bits. A store may hold any
  rows of the settled events, each any number of times: those not yet written are missing,
  those written again are there twice. Groups stand in the order of their first rows; the
  engine sorts their keys.

  The texts of `metrics` are those that `String` makes of a `bigint` or of a decimal of
  decimal.js, and ClickHouse of a decimal. `sha256` is a parameter.
-/

import TokenPilot.Analytics.Tables
import TokenPilot.Library.Table
import TokenPilot.Reconciliation.ColumnTexts

namespace TokenPilot.Reconciliation

open TokenPilot.Library
open TokenPilot.Analytics (RatingKind UsageLineRow)
open TokenPilot.Pipeline (ApplicationUsageLine CostRatingArtifact AiuRatingArtifact ModelCostVersion ModelAiuVersion decimal
  stored tokenTotals inputTypes cachedTypes outputTypes normalizeUsageEvent rateApplicationCost rateApplicationAiu)
open TokenPilot.Runtime (Value usageEventSchema)
open TokenPilot.Runtime.Connector (get textOf)

/-- The milliseconds of a valid `Date`. -/
def Instant := { t : Int // -8640000000000000 ≤ t ∧ t ≤ 8640000000000000 }

/-! ## Settled events -/

structure Settled where
  applicationId : String
  event : Value
  eventTime : Instant
  /-- `model_id` of the registry -/
  registeredModelId : Option String
  /-- `resolution.modelId` -/
  modelId : Option String
  ratingId : String
  cost : CostRatingArtifact
  aiu : AiuRatingArtifact

def Settled.usageLines (e : Settled) : List ApplicationUsageLine := (normalizeUsageEvent e.event).usageLines

def Settled.eventId (e : Settled) : String := (textOf (get e.event "event_id")).getD ""

def Settled.userId (e : Settled) : String := (textOf (get (get e.event "user") "user_id")).getD ""

def Settled.modelText (e : Settled) (key : String) : Option String := textOf (get (get e.event "model") key)

/-- A valid event with the ratings the pipeline makes of it. -/
structure Settled.Valid (localeCompare : String → String → Ordering) (e : Settled) : Prop where
  schema : usageEventSchema e.event = true
  cost : ∃ version, rateApplicationCost localeCompare version (normalizeUsageEvent e.event) = .ok e.cost
  aiu : ∃ version, e.aiu = rateApplicationAiu version e.usageLines

/-! ## Rows of PostgreSQL -/

structure RegistryRow where
  applicationId : String
  eventId : String
  eventTime : Instant
  virtualModel : Option String
  modelId : Option String
  requestModel : String
  provider : Option String
  externalUserId : String

def registryRow (e : Settled) : RegistryRow where
  applicationId := e.applicationId
  eventId := e.eventId
  eventTime := e.eventTime
  virtualModel := e.modelText "virtual_model"
  modelId := e.registeredModelId
  requestModel := (e.modelText "request_model").getD ""
  provider := e.modelText "provider"
  externalUserId := e.userId

structure UsageRating where
  id : String
  applicationId : String
  eventId : String
  inputTokens : Int
  cachedTokens : Int
  outputTokens : Int
  costStatus : Pipeline.CostStatus
  providerCost : Option Int
  costVersionId : Option Quota.Uuid
  aiuStatus : Pipeline.AiuStatus
  aiuMicros : Option Nat
  aiuVersionId : Option Quota.Uuid

/-- `commit` writes a rating of an event whose model was resolved. -/
def usageRating (e : Settled) : Option UsageRating :=
  e.modelId.map fun _ =>
    let tokens := tokenTotals e.usageLines
    { id := e.ratingId
      applicationId := e.applicationId
      eventId := e.eventId
      inputTokens := stored 9 tokens.input
      cachedTokens := stored 9 tokens.cached
      outputTokens := stored 9 tokens.output
      costStatus := e.cost.status
      providerCost := e.cost.total.map fun total => stored 18 (decimal total)
      costVersionId := e.cost.versionId
      aiuStatus := e.aiu.status
      aiuMicros := e.aiu.totalMicros
      aiuVersionId := e.aiu.versionId }

structure PostgresStore where
  registry : List RegistryRow
  ratings : List UsageRating
  /-- The rows of `pipeline_outbox` of a rating that are pending, failed or leased. -/
  undelivered : String → Nat

/-! ## Rows of ClickHouse -/

structure RawEventRow where
  applicationId : String
  eventId : String
  eventTime : Instant
  userId : String
  virtualModel : String
  modelId : String
  requestModel : String
  provider : String

def rawEventRow (e : Settled) : RawEventRow where
  applicationId := e.applicationId
  eventId := e.eventId
  eventTime := e.eventTime
  userId := e.userId
  virtualModel := (e.modelText "virtual_model").getD ""
  modelId := (e.modelId.or (e.modelText "model_id")).getD ""
  requestModel := (e.modelText "request_model").getD ""
  provider := (e.modelText "provider").getD ""

def usageLineRows (e : Settled) : List UsageLineRow :=
  e.usageLines.map fun line => ⟨e.applicationId, e.eventId, line.usageType, stored 9 (decimal line.quantity)⟩

structure RatingEventRow extends Analytics.RatingEventRow where
  amount : Option Int
  aiuMicros : Option Nat
  /-- The status is `unpriced` or `unrated`. -/
  unsettled : Bool
  versionId : Option Quota.Uuid

def costRows (outboxId : Nat) (e : Settled) : List RatingEventRow :=
  [{ applicationId := e.applicationId
     sourceEventId := e.eventId
     ratingEventId := e.ratingId ++ ":cost"
     authorityOutboxId := outboxId
     ratingKind := .providerCost
     ratingSign := 1
     amount := e.cost.total.map fun total => stored 18 (decimal total)
     aiuMicros := none
     unsettled := e.cost.status = .unpriced
     versionId := e.cost.versionId }]

/-- A row for each line, or one with the total of no lines. -/
def aiuRows (outboxId : Nat) (e : Settled) : List RatingEventRow :=
  let magnitudes := if e.aiu.lines.isEmpty then [e.aiu.totalMicros] else
    e.aiu.lines.map fun line => line.chargedAiuMicros.map integer
  magnitudes.zipIdx.map fun magnitude =>
    { applicationId := e.applicationId
      sourceEventId := e.eventId
      ratingEventId := e.ratingId ++ ":aiu:" ++ toString magnitude.2
      authorityOutboxId := outboxId
      ratingKind := .aiu
      ratingSign := 1
      amount := none
      aiuMicros := magnitude.1
      unsettled := e.aiu.status = .unrated
      versionId := e.aiu.versionId }

structure ClickHouseStore where
  events : List RawEventRow
  lines : List UsageLineRow
  ratings : List RatingEventRow

/-- The rows of both stores are those of settled events. -/
structure Holds (settled : List Settled) (pg : PostgresStore) (ch : ClickHouseStore) : Prop where
  registry : ∀ row ∈ pg.registry, ∃ e ∈ settled, row = registryRow e
  usageRatings : ∀ row ∈ pg.ratings, ∃ e ∈ settled, usageRating e = some row
  events : ∀ row ∈ ch.events, ∃ e ∈ settled, row = rawEventRow e
  lines : ∀ row ∈ ch.lines, ∃ e ∈ settled, row ∈ usageLineRows e
  ratings : ∀ row ∈ ch.ratings, ∃ e ∈ settled, e.modelId.isSome = true ∧ ∃ outboxId, row ∈ costRows outboxId e ++ aiuRows outboxId e

/-! ## Plans and groups -/

inductive RunType where
  | hourly
  | daily
  | manual
  deriving DecidableEq, Repr

structure RunPlan where
  applicationId : String
  runType : RunType
  rangeStart : Instant
  rangeEnd : Instant
  virtualModel : Option String
  modelId : Option String
  userId : Option String

def RunPlan.bucketSize (plan : RunPlan) : BucketSize := if plan.runType = .daily then .day else .hour

/-- `date_trunc`, `toStartOfHour` and `toStartOfDay` in UTC -/
def bucketStart : BucketSize → Int → Int
  | .hour, t => t / 3600000 * 3600000
  | .day, t => t / 86400000 * 86400000

/-- What rows of a store are grouped by. -/
structure GroupKey where
  applicationId : String
  bucket : Int
  virtualModel : Option String
  modelId : Option String
  requestModel : Option String
  provider : Option String
  userId : Option String
  deriving DecidableEq

def inRange (plan : RunPlan) (t : Instant) : Bool := plan.rangeStart.1 ≤ t.1 && t.1 < plan.rangeEnd.1

/-- The empty text for none. -/
def nullableText (text : Option String) : Option String := text.filter fun s => s ≠ ""

def GroupKey.dimensions (size : BucketSize) (key : GroupKey) : ReconciliationDimensions where
  applicationId := key.applicationId
  bucketStart := Runtime.isoString key.bucket
  bucketSize := size
  virtualModel := nullableText key.virtualModel
  modelId := nullableText key.modelId
  requestModel := nullableText key.requestModel
  provider := nullableText key.provider
  userId := nullableText key.userId

/-- The value of a column where the rows of a group have one. -/
def singleVersion (versions : List (Option Quota.Uuid)) : Option Quota.Uuid :=
  match (versions.filterMap id).eraseDups with
  | [version] => some version
  | _ => none

section Snapshots

variable (sha256 : String → String)

def identityFingerprint (dimensions : ReconciliationDimensions) : String :=
  "sha256:" ++ sha256 (String.ofList (Json.render Empty.elim (.arr [.str dimensions.applicationId,
    textOrNull dimensions.virtualModel, textOrNull dimensions.modelId, textOrNull dimensions.requestModel,
    textOrNull dimensions.provider])))

def projectionId (dimensions : ReconciliationDimensions) : String :=
  "reconciliation:" ++ sha256 (String.ofList (Json.render Empty.elim (.obj [
    ("applicationId", .str dimensions.applicationId), ("bucketStart", .str dimensions.bucketStart),
    ("bucketSize", .str dimensions.bucketSize.text), ("virtualModel", textOrNull dimensions.virtualModel),
    ("modelId", textOrNull dimensions.modelId), ("requestModel", textOrNull dimensions.requestModel),
    ("provider", textOrNull dimensions.provider), ("userId", textOrNull dimensions.userId)])))

/-! ## The snapshot of PostgreSQL -/

structure DatabaseError where
  message : String
  deriving DecidableEq, Repr

/-- A cast to a decimal of 38 digits. -/
def castDecimal (units : Int) : Except DatabaseError Int :=
  if |units| < 10 ^ 38 then .ok units else .error ⟨"numeric field overflow"⟩

def castBigint (n : Nat) : Except DatabaseError Nat :=
  if n < 2 ^ 63 then .ok n else .error ⟨"bigint out of range"⟩

def postgresWhere (plan : RunPlan) (row : RegistryRow) : Bool :=
  row.applicationId = plan.applicationId && inRange plan row.eventTime &&
    plan.virtualModel.all (fun name => row.virtualModel = some name) &&
    plan.modelId.all (fun id => row.modelId = some id) && plan.userId.all (fun id => row.externalUserId = id)

def postgresKey (plan : RunPlan) (row : RegistryRow) : GroupKey :=
  ⟨row.applicationId, bucketStart plan.bucketSize row.eventTime.1, row.virtualModel, row.modelId, some row.requestModel,
    row.provider, some row.externalUserId⟩

def postgresGroups (plan : RunPlan) (pg : PostgresStore) : List (GroupKey × List RegistryRow) :=
  groupBy (postgresKey plan) (pg.registry.filter (postgresWhere plan))

/-- The ratings of the events of a group. -/
def joinedRatings (pg : PostgresStore) (rows : List RegistryRow) : List UsageRating :=
  rows.flatMap fun row => pg.ratings.filter fun rating =>
    rating.applicationId = row.applicationId && rating.eventId = row.eventId

def tokenSum (column : UsageRating → Int) (ratings : List UsageRating) : Int := (ratings.map column).sum

def costSum (ratings : List UsageRating) : Int := (ratings.map fun rating => rating.providerCost.getD 0).sum

def aiuSum (ratings : List UsageRating) : Nat := (ratings.map fun rating => rating.aiuMicros.getD 0).sum

def postgresSnapshot (plan : RunPlan) (pg : PostgresStore) (found : GroupKey × List RegistryRow) :
    Except DatabaseError ReconciliationSnapshotRow := do
  let ratings := joinedRatings pg found.2
  let inputTokens ← castDecimal (tokenSum (·.inputTokens) ratings)
  let cachedTokens ← castDecimal (tokenSum (·.cachedTokens) ratings)
  let outputTokens ← castDecimal (tokenSum (·.outputTokens) ratings)
  let providerCost ← castDecimal (costSum ratings)
  let aiuMicros ← castBigint (aiuSum ratings)
  let identity := found.1.dimensions plan.bucketSize
  return {
    projectionId := projectionId sha256 identity
    dimensions := identity
    metrics := fun
      | .eventCount => toString (found.2.map (·.eventId)).eraseDups.length
      | .inputTokens => driverText 9 inputTokens
      | .cachedInputTokens => driverText 9 cachedTokens
      | .outputTokens => driverText 9 outputTokens
      | .providerCost => driverText 18 providerCost
      | .aiuMicros => toString aiuMicros
      | .unpricedCount => toString (ratings.countP fun rating => rating.costStatus = .unpriced)
      | .unratedCount => toString (ratings.countP fun rating => rating.aiuStatus = .unrated)
    duplicateProjectionCount := some "0"
    sampleEventIds := (sortTexts (found.2.map (·.eventId)).eraseDups).take 100
    modelIdentityFingerprint := some (identityFingerprint sha256 identity)
    costVersionId := (singleVersion (ratings.map (·.costVersionId))).map toString
    aiuVersionId := (singleVersion (ratings.map (·.aiuVersionId))).map toString
    payloadHashConflict := false
    officialDeltaPending := ratings.any fun rating => 0 < pg.undelivered rating.id
    lateEventCount := "0"
    unprojectedAdjustmentCount := toString (ratings.map fun rating => pg.undelivered rating.id).sum }

def loadPostgres (plan : RunPlan) (pg : PostgresStore) : Except DatabaseError (List ReconciliationSnapshotRow) :=
  (postgresGroups plan pg).mapM (postgresSnapshot sha256 plan pg)

/-! ## The snapshot of ClickHouse -/

/-- A sum of decimals in 128 bits. -/
def sumDecimal (units : List Int) : Int := units.sum.bmod (2 ^ 128)

def sumInt64 (values : List Int) : Int := values.sum.bmod (2 ^ 64)

def clickHouseWhere (plan : RunPlan) (row : RawEventRow) : Bool :=
  row.applicationId = plan.applicationId && inRange plan row.eventTime &&
    plan.virtualModel.all (fun name => row.virtualModel = name) && plan.modelId.all (fun id => row.modelId = id) &&
    plan.userId.all (fun id => row.userId = id)

/-- `nullIf(text, '')` -/
def nullIfEmpty (text : String) : Option String := if text = "" then none else some text

def clickHouseKey (plan : RunPlan) (row : RawEventRow) : GroupKey :=
  ⟨row.applicationId, bucketStart plan.bucketSize row.eventTime.1, nullIfEmpty row.virtualModel, nullIfEmpty row.modelId,
    nullIfEmpty row.requestModel, nullIfEmpty row.provider, some row.userId⟩

def clickHouseGroups (plan : RunPlan) (ch : ClickHouseStore) : List (GroupKey × List RawEventRow) :=
  groupBy (clickHouseKey plan) (ch.events.filter (clickHouseWhere plan))

/-- `sumIf(quantity, usage_type IN (..))` of the lines of an event -/
def lineQuantity (types : List String) (ch : ClickHouseStore) (row : RawEventRow) : Int :=
  sumDecimal ((ch.lines.filter fun line =>
    line.applicationId = row.applicationId && line.eventId = row.eventId && types.contains line.usageType).map (·.quantity))

def ratingRows (kind : RatingKind) (ch : ClickHouseStore) (row : RawEventRow) : List RatingEventRow :=
  ch.ratings.filter fun rating =>
    rating.applicationId = row.applicationId && rating.sourceEventId = row.eventId && rating.ratingKind = kind

def ratingCost (ch : ClickHouseStore) (row : RawEventRow) : Int :=
  sumDecimal ((ratingRows .providerCost ch row).map fun rating => rating.ratingSign * rating.amount.getD 0)

def ratingAiu (ch : ClickHouseStore) (row : RawEventRow) : Int :=
  sumInt64 ((ratingRows .aiu ch row).map fun rating => rating.ratingSign * ((rating.aiuMicros.getD 0 : Nat) : Int))

/-- `argMaxIf(status, (authority_outbox_id, rating_event_id), ..)` -/
def latestUnsettled (rows : List RatingEventRow) : Bool :=
  ((rows.foldl (fun latest row =>
    match latest with
    | none => some row
    | some best =>
      if best.authorityOutboxId < row.authorityOutboxId ∨ best.authorityOutboxId = row.authorityOutboxId ∧
          Text.units best.ratingEventId < Text.units row.ratingEventId then some row else some best) none).map
    (·.unsettled)).getD false

def versionOf (kind : RatingKind) (ch : ClickHouseStore) (row : RawEventRow) : Option Quota.Uuid :=
  singleVersion ((ratingRows kind ch row).map (·.versionId))

def quantitySum (types : List String) (ch : ClickHouseStore) (rows : List RawEventRow) : Int :=
  sumDecimal (rows.map (lineQuantity types ch))

def ratingCostSum (ch : ClickHouseStore) (rows : List RawEventRow) : Int := sumDecimal (rows.map (ratingCost ch))

def ratingAiuSum (ch : ClickHouseStore) (rows : List RawEventRow) : Int := sumInt64 (rows.map (ratingAiu ch))

def clickHouseSnapshot (plan : RunPlan) (ch : ClickHouseStore) (found : GroupKey × List RawEventRow) :
    ReconciliationSnapshotRow :=
  let identity := found.1.dimensions plan.bucketSize
  { projectionId := projectionId sha256 identity
    dimensions := identity
    metrics := fun
      | .eventCount => toString (found.2.map (·.eventId)).eraseDups.length
      | .inputTokens => clickHouseText 9 (quantitySum inputTypes ch found.2)
      | .cachedInputTokens => clickHouseText 9 (quantitySum cachedTypes ch found.2)
      | .outputTokens => clickHouseText 9 (quantitySum outputTypes ch found.2)
      | .providerCost => clickHouseText 18 (ratingCostSum ch found.2)
      | .aiuMicros => toString (ratingAiuSum ch found.2)
      | .unpricedCount => toString (found.2.countP fun row => latestUnsettled (ratingRows .providerCost ch row))
      | .unratedCount => toString (found.2.countP fun row => latestUnsettled (ratingRows .aiu ch row))
    duplicateProjectionCount := some (toString (found.2.length - (found.2.map (·.eventId)).eraseDups.length))
    sampleEventIds := (found.2.map (·.eventId)).eraseDups.take 100
    modelIdentityFingerprint := some (identityFingerprint sha256 identity)
    costVersionId := (singleVersion (found.2.map (versionOf .providerCost ch))).map toString
    aiuVersionId := (singleVersion (found.2.map (versionOf .aiu ch))).map toString
    payloadHashConflict := false
    officialDeltaPending := false
    lateEventCount := "0"
    unprojectedAdjustmentCount := "0" }

def loadClickHouse (plan : RunPlan) (ch : ClickHouseStore) : List ReconciliationSnapshotRow :=
  (clickHouseGroups plan ch).map (clickHouseSnapshot sha256 plan ch)

/-! ## A run -/

/-- The times of the watermarks and of the run, that are written with `toISOString()`. -/
structure Watermarks where
  pgEventTime : Instant
  chEventTime : Instant
  chLastSuccessAt : Instant
  now : Instant

def Watermarks.texts (times : Watermarks) : Watermark where
  pgEventTime := Runtime.isoString times.pgEventTime.1
  chEventTime := Runtime.isoString times.chEventTime.1
  chLastSuccessAt := Runtime.isoString times.chLastSuccessAt.1
  now := Runtime.isoString times.now.1

inductive RunError where
  | database (error : DatabaseError)
  | engine (error : TypeError)
  deriving DecidableEq, Repr

/-- The reads and the comparison of `execute`. -/
def runDiffs (dateParse : String → Option Int) (plan : RunPlan) (pg : PostgresStore) (ch : ClickHouseStore)
    (tolerance : ReconciliationTolerance) (times : Watermarks) : Except RunError (List ReconciliationDiff) := do
  let pgRows ← (loadPostgres sha256 plan pg).mapError .database
  (reconcileSnapshots dateParse pgRows (loadClickHouse sha256 plan ch) tolerance (some times.texts)).mapError .engine

end Snapshots

end TokenPilot.Reconciliation
