/-
  TokenPilot.Reports.Summaries — the reports that are not paged
  (apps/api/src/reports/analytics-report-data.ts, analytics-repository.ts).
-/

import TokenPilot.Reports.Groups

namespace TokenPilot.Reports

open TokenPilot.Library
open TokenPilot.Pipeline (inputTypes outputTypes)

/-! ## Overview -/

structure RequestTrendPoint where
  bucket : String
  requests : Nat
  deriving DecidableEq, Repr

structure OverviewReportData where
  providerCost : Option ReportMoney
  providerCosts : List ReportMoney
  requests : Nat
  totalTokens : String
  attempts : Nat
  success : Nat
  errors : Nat
  unpricedEvents : Nat
  unmappedEvents : Nat
  aiu : Option ReportAiu
  lastUsageReceivedAt : Option String
  requestTrend : List RequestTrendPoint

section Summaries

variable (platform : Analytics.Platform) (clickhouse : ClickHouse) (data : AnalyticsData) (query : ReportQuery)

def matchingColumns : List EventColumns := (matchingEvents clickhouse data query).map UsageEventRow.toEventColumns

/-- `filteredEventIds` -/
def matchingIds : List String := (matchingColumns clickhouse data query).map EventColumns.eventId

/-- The ratings that the overview reads: filtered themselves, or by the events they are of. -/
def overviewRatings : List RatingEventRow :=
  if canFilterRatingsDirectly query then matchingRatings clickhouse data query
  else ratingsOf data query (matchingIds clickhouse data query)

/-- `GROUP BY currency ORDER BY currency` of aggregates or ratings. -/
def overviewCosts : List CostLine :=
  if wholeMinutes query then aggregateCosts clickhouse data query
  else (overviewRatings clickhouse data query).filterMap fun rating =>
    match rating.currency, rating.amountDecimal with
    | some currency, some amount =>
      if rating.ratingKind = .providerCost then some ⟨"", currency, rating.status, rating.ratingSign * amount⟩ else none
    | _, _ => none

def overviewMicros : Int :=
  if wholeMinutes query then
    sumOf (fun row => row.provisionalAiuMicros + row.officialAiuMicrosDelta) (matchingAggregates clickhouse data query)
  else
    sumOf (fun rating => rating.ratingSign * rating.aiuMicros.getD 0)
      ((overviewRatings clickhouse data query).filter fun rating => rating.ratingKind = .aiu && rating.aiuMicros.isSome)

def overviewTokens : Int :=
  sumOf (·.quantity)
    (data.lines.filter fun line =>
      line.applicationId = query.applicationId && query.from_ ≤ line.eventTime.1 && line.eventTime.1 < query.to_ &&
        (matchingIds clickhouse data query).contains line.eventId && (inputTypes ++ outputTypes).contains line.usageType)

def trendInterval : Interval :=
  if query.to_ - query.from_ ≤ 2 * 86400000 then .hour
  else if query.to_ - query.from_ ≤ 60 * 86400000 then .day
  else .week

def requestTrend : List (String × Nat) :=
  (((groupBy (fun event => clickhouse.trendText (trendInterval query) event.eventTime)
      (matchingColumns clickhouse data query)).map fun group =>
        (group.1, uniqExact (group.2.map EventColumns.requestId))).insertionSort fun a b => a.1 ≤ b.1).take 500

def trendPoint (point : String × Nat) : Except ReportFailure RequestTrendPoint := do
  let requests ← reportCount point.2
  return ⟨point.1, requests⟩

/-- The text of the latest time, none of no event. -/
def latestText (times : List DateTime64) : Option String := (maxTime? times).bind fun t => reportInstant platform (timeText t)

def queryAnalyticsOverview : Except ReportFailure OverviewReportData :=
  execute clickhouse query do
    let events := matchingColumns clickhouse data query
    let eventCount ← reportCount events.length
    let pricedEvents ← reportCount (pricedCount (overviewRatings clickhouse data query))
    let ratedAiuCount ← reportCount (statusCount .aiu ratedStatuses (overviewRatings clickhouse data query))
    let costs := moneyTotals (moneyOf (overviewCosts clickhouse data query))
    let requests ← reportCount (uniqExact (events.map EventColumns.requestId))
    let attempts ← reportCount (uniqExact (events.map fun event => (event.requestId, event.attemptId)))
    let success ← reportCount (events.countP fun event => event.status = "success")
    let errors ← reportCount (events.countP fun event => event.status ≠ "success")
    let unmappedEvents ← reportCount (events.countP fun event => event.modelId = "")
    let requestTrend ← (requestTrend clickhouse data query).mapM trendPoint
    return {
      providerCost := if costs.length = 1 then costs.head? else none
      providerCosts := costs
      requests
      totalTokens := decimalText 9 (overviewTokens clickhouse data query)
      attempts, success, errors
      unpricedEvents := eventCount - pricedEvents
      unmappedEvents
      aiu := if ratedAiuCount = 0 then none else some ⟨toString (overviewMicros clickhouse data query)⟩
      lastUsageReceivedAt := latestText platform (events.map EventColumns.eventTime)
      requestTrend }

/-! ## The other reports -/

structure PipelineHealthReportData where
  eventCount : Nat
  lastEventAt : Option String
  lastInsertedAt : Option String

def queryAnalyticsPipelineHealth : Except ReportFailure PipelineHealthReportData :=
  execute clickhouse query do
    let events := matchingColumns clickhouse data query
    let eventCount ← reportCount events.length
    return {
      eventCount
      lastEventAt := latestText platform (events.map EventColumns.eventTime)
      lastInsertedAt := latestText platform (events.map EventColumns.insertedAt) }

/-- Groups with their counts, the largest first. -/
def largestFirst {κ : Type} [DecidableEq κ] (lessOrEqual : κ → κ → Bool) (keys : List κ) : List (κ × Nat) :=
  ((groupBy id keys).map fun group => (group.1, group.2.length)).insertionSort fun a b =>
    b.2 < a.2 ∨ b.2 = a.2 ∧ lessOrEqual a.1 b.1

def cacheStatus (event : EventColumns) : String :=
  if mapContains event.analyticsDimensions "response_cache_hit" then readMap "" event.analyticsDimensions "response_cache_hit"
  else "unknown"

def cacheReport : Except ReportFailure (List (String × Nat)) :=
  execute clickhouse query do
    return largestFirst (fun a b => a ≤ b) ((matchingColumns clickhouse data query).map cacheStatus)

def pairOrder (a b : String × String) : Bool := a.1 < b.1 || (a.1 = b.1 && a.2 ≤ b.2)

def fallbackReport : Except ReportFailure (List ((String × String × String) × Nat)) :=
  execute clickhouse query do
    let events := (matchingColumns clickhouse data query).filter fun event => event.fallbackFrom ≠ ""
    return (largestFirst (fun a b => pairOrder (a.1, a.2.1) (b.1, b.2.1))
      (events.map fun event => (event.fallbackFrom, event.virtualModel, event.status))).take 500

def dimensionsReport : Except ReportFailure (List ((String × String) × Nat)) :=
  execute clickhouse query do
    return (largestFirst pairOrder ((matchingColumns clickhouse data query).flatMap EventColumns.analyticsDimensions)).take 500

structure AnalyticsWatermark where
  watermark : Option String
  lagSeconds : Option Nat
  deriving DecidableEq, Repr

/-- `dateDiff('second', time, now64(3))`, at least zero. -/
def lagSeconds (now : Int) (t : DateTime64) : Nat := (now / 1000 - t.1 / 1000).toNat

def queryWatermark (now : Int) : Except ReportFailure AnalyticsWatermark :=
  execute clickhouse query do
    let times := (matchingColumns clickhouse data query).map EventColumns.eventTime
    let lag ← ((maxTime? times).map (lagSeconds now)).mapM reportCount
    return ⟨latestText platform times, lag⟩

end Summaries

end TokenPilot.Reports
