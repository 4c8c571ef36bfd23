/-
  TokenPilot.Reports.Usage — the pages of usage
  (apps/api/src/reports/analytics-usage.ts; `usageReportItem` of data.ts).

  A page holds the events before its cursor in the order of their times and ids, latest first,
  each with the ratings and the usage lines of its id. The next cursor names the last event of
  the page; it is given while the events that were read are fewer than all that match.
-/

import Mathlib.Data.List.Sort
import TokenPilot.Pipeline.UsageLines
import TokenPilot.Reports.Filters

namespace TokenPilot.Reports

open TokenPilot.Library
open TokenPilot.Analytics (Payload)
open TokenPilot.Pipeline (inputTypes cachedTypes outputTypes)
open TokenPilot.Quota.Token (unitsOf textOf)

/-! ## Items -/

/-- The properties of an event or a user: a property of a later map replaces one of an earlier. -/
abbrev ItemProperties := List (String × Payload)

structure UsageReportItem where
  eventId : String
  requestId : String
  attemptId : String
  attemptIndex : Nat
  isFinalAttempt : Bool
  operationId : Option String
  eventTime : String
  receivedAt : Option String
  schemaVersion : String
  applicationVersion : Option String
  sdkVersion : Option String
  connectorVersion : Option String
  configVersion : Option String
  userId : String
  displayUser : Option String
  sessionId : Option String
  conversationId : Option String
  traceId : Option String
  virtualModel : Option String
  modelId : Option String
  connectionId : Option String
  connectionDriver : Option String
  requestModel : String
  provider : Option String
  status : String
  routeReason : Option String
  fallbackFrom : Option String
  latencyMs : Option Nat
  inputTokens : String
  cachedInputTokens : String
  outputTokens : String
  reasoningOutputTokens : String
  totalTokens : String
  providerCostStatus : Option String
  providerCostAmount : Option String
  providerCostCurrency : Option String
  aiuStatus : Option String
  aiuMicros : Option String
  aiuChargeable : Option Bool
  quotaStatus : Option String
  eventProperties : ItemProperties
  userProperties : ItemProperties

/-- `target[key] = value`: the key `__proto__` sets no property. -/
def assignField (target : ItemProperties) (key : String) (value : Payload) : ItemProperties :=
  if key = "__proto__" then target
  else if target.any fun f => f.1 = key then target.map fun f => if f.1 = key then (key, value) else f
  else target ++ [(key, value)]

/-- `Object.assign(target, source)` -/
def assignAll (target source : ItemProperties) : ItemProperties :=
  source.foldl (fun kept field => assignField kept field.1 field.2) target

/-- `properties(row, scope)` -/
def itemProperties (maps : PropertyMaps) : ItemProperties :=
  [maps.text.map fun f => (f.1, .str f.2), maps.number.map fun f => (f.1, .num (.finite f.2)),
    maps.boolean.map fun f => (f.1, .bool f.2), maps.datetime.map fun f => (f.1, .str (timeText f.2)),
    maps.enum.map fun f => (f.1, .str f.2), maps.textList.map fun f => (f.1, .arr (f.2.map .str))].foldl assignAll []

/-- What the page says of the ratings of an event. -/
structure ItemRating where
  providerCostStatus : String
  providerCostCurrency : String
  providerCostAmount : Option String
  aiuStatus : String
  aiuMicros : Option String

def ratingOrder (rating : RatingEventRow) : Nat × String := (rating.authorityOutboxId, rating.ratingEventId)

/-- `pageRatingProjection` for one event -/
def itemRating (ratings : List RatingEventRow) : ItemRating :=
  let cost (rating : RatingEventRow) : Bool := rating.ratingKind = .providerCost
  let aiu (rating : RatingEventRow) : Bool := rating.ratingKind = .aiu
  let amounts := ratings.filter fun rating => cost rating && rating.amountDecimal.isSome
  let micros := ratings.filter fun rating => aiu rating && rating.aiuMicros.isSome
  { providerCostStatus := argMaxIf RatingEventRow.status ratingOrder cost ratings
    providerCostCurrency := argMaxIf (fun rating => rating.currency.getD "") ratingOrder cost ratings
    providerCostAmount :=
      if amounts.isEmpty then none
      else some (decimalText 18 (sumOf (fun rating => rating.ratingSign * rating.amountDecimal.getD 0) amounts))
    aiuStatus := argMaxIf RatingEventRow.status ratingOrder aiu ratings
    aiuMicros :=
      if micros.isEmpty then none
      else some (toString (sumOf (fun rating => rating.ratingSign * rating.aiuMicros.getD 0) micros)) }

/-- `toString(sumIf(quantity, usage_type IN (…)))`; the text of no line is empty, which is
    reported as zero. -/
def tokens (types : List String) (lines : List UsageLineRow) : String :=
  if lines.isEmpty then "0"
  else decimalText 9 (sumOf (·.quantity) (lines.filter fun line => types.contains line.usageType))

/-- The row of an event of a page, and what is joined to it. -/
structure UsageRow where
  event : UsageEventRow
  ratings : List RatingEventRow
  lines : List UsageLineRow

def missingIdentity : ReportFailure :=
  .thrown "UsageReportIdentityError" "Usage report row is missing canonical identity fields"

def required (s : String) : Except ReportFailure String := if s = "" then .error missingIdentity else .ok s

def reportLatency : Option Nat → Except ReportFailure (Option Nat)
  | none => .ok none
  | some latency =>
    match reportCount latency with
    | .ok n => .ok (some n)
    | .error _ => .error (.thrown "UsageReportLatencyError" "Usage report row has an invalid latency")

def usageReportItem (platform : Analytics.Platform) (row : UsageRow) : Except ReportFailure UsageReportItem := do
  let event := row.event
  let eventTime ← match reportInstant platform (timeText event.eventTime) with
    | some t => pure t
    | none => throw (.thrown "UsageReportTimeError" "Usage report row has an invalid event time")
  let eventId ← required event.eventId
  let requestId ← required event.requestId
  let attemptId ← required event.attemptId
  let schemaVersion ← required event.schemaVersion
  let status ← required event.status
  let userId ← required event.userId
  let requestModel ← required event.requestModel
  let latencyMs ← reportLatency event.latencyMs
  let rating := itemRating row.ratings
  return {
    eventId, requestId, attemptId, eventTime, schemaVersion, status, userId, requestModel, latencyMs
    attemptIndex := event.attemptIndex
    isFinalAttempt := event.isFinalAttempt
    operationId := reportString event.operationId
    receivedAt := reportInstant platform (timeText event.receivedAt)
    applicationVersion := reportString event.applicationVersion
    sdkVersion := reportString event.sdkVersion
    connectorVersion := reportString event.connectorVersion
    configVersion := reportString event.configVersion
    displayUser := reportString event.displayUser
    sessionId := reportString event.sessionId
    conversationId := reportString event.conversationId
    traceId := reportString event.traceId
    virtualModel := reportString event.virtualModel
    modelId := reportString event.modelId
    connectionId := reportString event.connectionId
    connectionDriver := reportString event.connectionDriver
    provider := reportString event.provider
    routeReason := reportString event.routeReason
    fallbackFrom := reportString event.fallbackFrom
    inputTokens := tokens inputTypes row.lines
    cachedInputTokens := tokens cachedTypes row.lines
    outputTokens := tokens outputTypes row.lines
    reasoningOutputTokens := tokens ["reasoning_output_token"] row.lines
    totalTokens := tokens (inputTypes ++ outputTypes) row.lines
    providerCostStatus := reportString rating.providerCostStatus
    providerCostAmount := rating.providerCostAmount
    providerCostCurrency := reportString rating.providerCostCurrency
    aiuStatus := reportString rating.aiuStatus
    aiuMicros := rating.aiuMicros
    aiuChargeable := none
    quotaStatus := reportString (readMap "" event.analyticsDimensions "quota_status")
    eventProperties := itemProperties event.eventProperties
    userProperties := itemProperties event.userProperties }

/-! ## Pages -/

structure UsagePageEnvelope where
  items : List UsageReportItem
  pageSize : Nat
  total : Nat
  nextCursor : Option String

/-- `ORDER BY event_time DESC, event_id DESC` -/
def laterEvent (a b : Int × String) : Prop := b.1 < a.1 ∨ b.1 = a.1 ∧ b.2 ≤ a.2

instance : DecidableRel laterEvent := fun a b => inferInstanceAs (Decidable (b.1 < a.1 ∨ b.1 = a.1 ∧ b.2 ≤ a.2))

/-- `cursorPredicate`: the events before the cursor's. -/
def beforeCursor (cursor event : Int × String) : Bool :=
  event.1 < cursor.1 || (event.1 = cursor.1 && event.2 < cursor.2)

def UsageEventRow.place (row : UsageEventRow) : Int × String := (row.eventTime.1, row.eventId)

def newestFirst (rows : List UsageEventRow) : List UsageEventRow :=
  rows.insertionSort fun a b => laterEvent a.place b.place

section Pages

variable (platform : Analytics.Platform) (clickhouse : ClickHouse) (data : AnalyticsData) (query : ReportQuery)

/-- The parameters of the cursor. -/
def cursorPlace (cursor : UsageCursor) : Except ReportFailure (Int × String) :=
  match parseDateTime64BestEffort (textOf cursor.eventTime) with
  | some t => .ok (t, textOf cursor.eventId)
  | none => .error (.serviceUnavailable "统计服务暂时不可用，请稍后重试")

/-- `page_events` -/
def pageEvents (cursor : Option (Int × String)) : List UsageEventRow :=
  let rows := newestFirst (matchingEvents clickhouse data query)
  (match cursor with
    | none => rows
    | some place => rows.filter fun row => beforeCursor place row.place).take query.pageSize

/-- The events of a page with `page_ratings` and `page_usage`, joined by their ids. -/
def usageRows (page : List UsageEventRow) : List UsageRow :=
  page.map fun event =>
    { event
      ratings := data.ratings.filter fun rating =>
        (page.any fun e => e.eventTime = rating.eventTime ∧ e.eventId = rating.sourceEventId) &&
          rating.sourceEventId = event.eventId
      lines := data.lines.filter fun line =>
        line.applicationId = query.applicationId &&
          (page.any fun e => e.eventTime = line.eventTime ∧ e.eventId = line.eventId) && line.eventId = event.eventId }

def usageTotal : Nat := query.knownUsageTotal.getD (matchingEvents clickhouse data query).length

/-- The cursor after a page. -/
def nextUsageCursor (items : List UsageReportItem) (total : Nat) : Option String :=
  let position := (query.usageCursor.map UsageCursor.position).getD 0 + items.length
  items.getLast?.bind fun last =>
    if position < total then some (encodeUsageCursor ⟨unitsOf last.eventTime, unitsOf last.eventId, position⟩) else none

def queryAnalyticsUsage : Except ReportFailure UsagePageEnvelope :=
  execute clickhouse query do
    let cursor ← query.usageCursor.mapM cursorPlace
    let items ← (usageRows data query (pageEvents clickhouse data query cursor)).mapM (usageReportItem platform)
    let total ← reportCount (usageTotal clickhouse data query)
    return ⟨items, query.pageSize, total, nextUsageCursor query items total⟩

end Pages

end TokenPilot.Reports
