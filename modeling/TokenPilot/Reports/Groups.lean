/-
  TokenPilot.Reports.Groups — the reports that are grouped
  (apps/api/src/reports/analytics-group-query.ts, analytics-provider-cost.ts, analytics-aiu.ts,
  analytics-activity.ts; the plan of analytics-overview-query.ts).

  A page of groups holds those after the cursor's in the order of their keys; provider costs have
  a group for each currency. The costs and the AIU of whole minutes are those of the aggregates
  when nothing is asked that these lack, and those of the ratings otherwise.
-/

import TokenPilot.Reports.Usage

namespace TokenPilot.Reports

open TokenPilot.Library
open TokenPilot.Analytics (RatingKind)
open TokenPilot.Pipeline (inputTypes outputTypes)
open TokenPilot.Quota.Token (unitsOf textOf)

/-! ## Plans -/

def canFilterRatingsDirectly (query : ReportQuery) : Bool :=
  query.filters.all fun filter => match filter.condition with
    | .builtin field _ _ => denormalizedFilterFields.contains field
    | .property _ _ _ _ => false

/-- `useMinuteAggregate` of the overview -/
def wholeMinutes (query : ReportQuery) : Bool :=
  canFilterRatingsDirectly query && query.from_ % 60000 = 0 && query.to_ % 60000 = 0

def minuteGroupDimensions : List ReportGroupDimension :=
  [.modelId, .requestModel, .virtualModel, .connectionId, .connectionDriver, .provider, .routeReason, .time, .hour, .day,
    .week, .month]

def useMinuteAggregate (query : ReportQuery) : Bool :=
  wholeMinutes query && minuteGroupDimensions.contains query.groupDimension

def grainInterval : ReportTimeGrain → Interval
  | .hour => .hour
  | .day => .day
  | .week => .week
  | .month => .month

section Groups

variable (clickhouse : ClickHouse) (query : ReportQuery)

/-- `propertyGroupExpression`: the text of a property, or of the default of its type. -/
def propertyGroup (maps : PropertyMaps) (type : Analytics.PropertyType) (key : String) : String :=
  match type with
  | .text => readMap "" maps.text key
  | .number => clickhouse.floatText (readMap (.ofInt 0) maps.number key)
  | .boolean => if readMap false maps.boolean key then "1" else "0"
  | .datetime => timeText (readMap epoch maps.datetime key)
  | .enum => readMap "" maps.enum key
  | .textList => ", ".intercalate (readMap [] maps.textList key)

/-- `groupExpression` for an event; an event with several tags is in several groups. -/
def eventGroups (row : UsageEventRow) : List String :=
  match query.groupDimension with
  | .modelId => [row.modelId]
  | .requestModel => [row.requestModel]
  | .virtualModel => [row.virtualModel]
  | .connectionId => [row.connectionId]
  | .connectionDriver => [row.connectionDriver]
  | .provider => [row.provider]
  | .userId => [row.userId]
  | .userTag => if row.userTags.isEmpty then [""] else row.userTags
  | .routeReason => [row.routeReason]
  | .property =>
    match query.groupProperty, query.groupDataType with
    | some group, some type => [propertyGroup clickhouse (row.source.maps group.scope) type group.key]
    | _, _ => []
  | .time | .hour => [clickhouse.intervalText .hour query.timezone row.eventTime]
  | .day => [clickhouse.intervalText .day query.timezone row.eventTime]
  | .week => [clickhouse.intervalText .week query.timezone row.eventTime]
  | .month => [clickhouse.intervalText .month query.timezone row.eventTime]

/-- `groupExpression` for an aggregate, of the dimensions that aggregates have. -/
def aggregateGroup (row : UsageAggregateRow) : String :=
  match query.groupDimension with
  | .modelId => row.modelId
  | .requestModel => row.requestModel
  | .virtualModel => row.virtualModel
  | .connectionId => row.connectionId
  | .connectionDriver => row.connectionDriver
  | .provider => row.provider
  | .routeReason => row.routeReason
  | .time | .hour => clickhouse.intervalText .hour query.timezone row.bucketStart
  | .day => clickhouse.intervalText .day query.timezone row.bucketStart
  | .week => clickhouse.intervalText .week query.timezone row.bucketStart
  | .month => clickhouse.intervalText .month query.timezone row.bucketStart
  | .userId | .userTag | .property => ""

/-- A query by a property whose type was not resolved throws. -/
def checkGroup : Except ReportFailure Unit :=
  if query.groupDimension = .property ∧ (query.groupProperty = none ∨ query.groupDataType = none) then
    .error (thrownType "Custom group field was not resolved")
  else .ok ()

/-- `filtered_events`: an event, with a key of its groups. -/
structure ScopedEvent where
  columns : EventColumns
  groupKey : String
  deriving DecidableEq

def scopedEvents (events : List UsageEventRow) : List ScopedEvent :=
  events.flatMap fun row => (eventGroups clickhouse query row).map fun key => ⟨row.toEventColumns, key⟩

end Groups

/-! ## Provider cost -/

structure ReportMoney where
  value : String
  currency : String
  deriving DecidableEq, Repr

structure ReportAiu where
  micros : String
  deriving DecidableEq, Repr

/-- `reportMoney`: of a row without a currency nothing. -/
def reportMoney (money : ReportMoney) : Option ReportMoney := if money.currency = "" ∨ money.value = "" then none else some money

def moneyTotals (rows : List ReportMoney) : List ReportMoney := rows.filterMap reportMoney

def singleMoney : List ReportMoney → Option ReportMoney
  | [money] => reportMoney money
  | _ => none

/-- A group of provider cost, before it is checked and after. -/
structure ProviderCostGroup where
  key : String
  currency : String
  amount : String
  deriving DecidableEq, Repr

structure ProviderCostReportData where
  total : Option ReportMoney
  totals : List ReportMoney
  failedAttemptCost : Option ReportMoney
  fallbackExtraCost : Option ReportMoney
  unpricedEvents : Nat
  groupDimension : ReportGroupDimension
  groups : List ProviderCostGroup
  pageSize : Nat
  totalGroups : Nat
  nextCursor : Option String

/-- A cost with its currency, the columns of its event's status, and the keys it is grouped by. -/
structure CostLine where
  groupKey : String
  currency : String
  status : String
  amount : Int

section ProviderCost

variable (clickhouse : ClickHouse) (data : AnalyticsData) (query : ReportQuery)

/-- The costs of aggregates, of those that have a currency. -/
def aggregateCosts : List CostLine :=
  (matchingAggregates clickhouse data query).filterMap fun row =>
    if row.currency = "" then none
    else some ⟨aggregateGroup clickhouse query row, row.currency, row.status,
      row.provisionalProviderCost + row.officialProviderCostDelta⟩

/-- `filtered_events INNER JOIN current_rating_events`, of ratings with an amount and a currency. -/
def joinedCosts (events : List ScopedEvent) : List CostLine :=
  events.flatMap fun event =>
    data.ratings.filterMap fun rating =>
      match rating.currency, rating.amountDecimal with
      | some currency, some amount =>
        if rating.eventTime = event.columns.eventTime ∧ rating.sourceEventId = event.columns.eventId ∧
            rating.ratingKind = .providerCost then
          some ⟨event.groupKey, currency, event.columns.status, rating.ratingSign * amount⟩
        else none
      | _, _ => none

def costEvents : List ScopedEvent := scopedEvents clickhouse query (matchingEvents clickhouse data query)

/-- The costs that are grouped. -/
def costLines : List CostLine :=
  if useMinuteAggregate query then aggregateCosts clickhouse data query
  else joinedCosts data (costEvents clickhouse data query)

/-- `GROUP BY currency ORDER BY currency` -/
def costsByCurrency (lines : List CostLine) : List (String × List CostLine) :=
  (groupBy CostLine.currency lines).insertionSort fun a b => a.1 ≤ b.1

def moneyOf (lines : List CostLine) : List ReportMoney :=
  (costsByCurrency lines).map fun group => ⟨decimalText 18 (sumOf CostLine.amount group.2), group.1⟩

/-- The cost of the attempts that failed, of the currencies of all costs. -/
def failedMoney (lines : List CostLine) : List ReportMoney :=
  (costsByCurrency lines).map fun group =>
    ⟨decimalText 18 (sumOf CostLine.amount (group.2.filter fun line => line.status ≠ "success")), group.1⟩

/-- The groups in the order of a page: `ORDER BY group_key, currency`. -/
def providerGroups : List ProviderCostGroup :=
  ((groupBy (fun line : CostLine => (line.groupKey, line.currency)) (costLines clickhouse data query)).map fun group =>
      ⟨group.1.1, group.1.2, decimalText 18 (sumOf CostLine.amount group.2)⟩).insertionSort fun a b =>
    a.key < b.key ∨ a.key = b.key ∧ a.currency ≤ b.currency

/-- `providerGroupCursorPredicate` -/
def afterProviderCursor (cursor group : String × String) : Bool :=
  cursor.1 < group.1 || (group.1 = cursor.1 && cursor.2 < group.2)

def ProviderCostGroup.place (group : ProviderCostGroup) : String × String := (group.key, group.currency)

def costGroup (group : ProviderCostGroup) : Except ReportFailure ProviderCostGroup :=
  if group.currency = "" ∨ group.amount = "" then .error (thrownType "Invalid Provider Cost group") else .ok group

def groupPlace (cursor : GroupCursor) : String × String := (textOf cursor.groupKey, textOf cursor.secondaryKey)

def providerPage : List ProviderCostGroup :=
  let groups := providerGroups clickhouse data query
  (match query.groupCursor with
    | none => groups
    | some cursor => groups.filter fun group => afterProviderCursor (groupPlace cursor) group.place).take query.pageSize

/-- How many events have one of the statuses in their latest rating of a kind. -/
def statusCount (kind : RatingKind) (statuses : List String) (ratings : List RatingEventRow) : Nat :=
  (groupBy (·.sourceEventId) ratings).countP fun group =>
    statuses.contains (argMaxIf RatingEventRow.status ratingOrder (fun rating => rating.ratingKind = kind) group.2)

def pricedCount (ratings : List RatingEventRow) : Nat := statusCount .providerCost ["provisional", "official"] ratings

/-- The ratings of the range of some events, by their ids. -/
def ratingsOf (ids : List String) : List RatingEventRow :=
  data.ratings.filter fun rating => inRatingRange query rating && ids.contains rating.sourceEventId

def scopedIds (events : List ScopedEvent) : List String := events.map fun event => event.columns.eventId

def unpricedEvents : Nat :=
  if canFilterRatingsDirectly query then
    (matchingEvents clickhouse data query).length - pricedCount (matchingRatings clickhouse data query)
  else
    let events := costEvents clickhouse data query
    events.length - pricedCount (ratingsOf data query (scopedIds events))

def nextGroupCursor (kind : GroupKind) (last : Option (String × String)) (count total : Nat) : Option String :=
  let position := (query.groupCursor.map GroupCursor.position).getD 0 + count
  last.bind fun place =>
    if position < total then
      some (encodeGroupCursor ⟨kind, groupCursorDimension query, unitsOf place.1, unitsOf place.2, position⟩)
    else none

def queryAnalyticsProviderCost : Except ReportFailure ProviderCostReportData := do
  checkGroup query
  execute clickhouse query do
    let lines := costLines clickhouse data query
    let fallbacks := joinedCosts data ((costEvents clickhouse data query).filter fun event => event.columns.fallbackFrom ≠ "")
    let groups ← (providerPage clickhouse data query).mapM costGroup
    let totalGroups ← reportCount (providerGroups clickhouse data query).length
    let unpricedEvents ← reportCount (unpricedEvents clickhouse data query)
    let totals := moneyTotals (moneyOf lines)
    return {
      total := if totals.length = 1 then totals.head? else none
      totals
      failedAttemptCost := singleMoney (failedMoney lines)
      fallbackExtraCost := singleMoney (moneyOf fallbacks)
      unpricedEvents
      groupDimension := query.groupDimension
      groups
      pageSize := query.pageSize
      totalGroups
      nextCursor := nextGroupCursor query .providerCost (groups.getLast?.map ProviderCostGroup.place) groups.length totalGroups }

end ProviderCost

/-! ## AIU -/

structure AiuGroup where
  key : String
  aiuMicros : String
  deriving DecidableEq, Repr

structure AiuReportData where
  total : Option ReportAiu
  unratedEvents : Nat
  unmappedEvents : Nat
  groupDimension : ReportGroupDimension
  groups : List AiuGroup
  pageSize : Nat
  totalGroups : Nat
  nextCursor : Option String

section Aiu

variable (clickhouse : ClickHouse) (data : AnalyticsData) (query : ReportQuery)

/-- `rating_by_event`, for one event -/
def eventMicros (ratings : List RatingEventRow) (event : ScopedEvent) : Int :=
  sumOf (fun rating => rating.ratingSign * rating.aiuMicros.getD 0)
    (ratings.filter fun rating =>
      rating.ratingKind = .aiu && rating.aiuMicros.isSome && rating.sourceEventId = event.columns.eventId)

/-- The AIU that are grouped, with their keys. -/
def microLines : List (String × Int) :=
  if useMinuteAggregate query then
    (matchingAggregates clickhouse data query).map fun row =>
      (aggregateGroup clickhouse query row, row.provisionalAiuMicros + row.officialAiuMicrosDelta)
  else
    let events := costEvents clickhouse data query
    events.map fun event => (event.groupKey, eventMicros (ratingsOf data query (scopedIds events)) event)

/-- The groups in the order of a page: `ORDER BY group_key`. -/
def aiuGroups : List AiuGroup :=
  ((groupBy Prod.fst (microLines clickhouse data query)).map fun group =>
      ⟨group.1, toString (sumOf Prod.snd group.2)⟩).insertionSort fun a b => a.key ≤ b.key

def aiuGroup (group : AiuGroup) : Except ReportFailure AiuGroup :=
  if group.aiuMicros = "" then .error (thrownType "Invalid AIU group") else .ok group

/-- A page, with `aiuGroupCursorPredicate`. -/
def aiuPage : List AiuGroup :=
  let groups := aiuGroups clickhouse data query
  (match query.groupCursor with
    | none => groups
    | some cursor => groups.filter fun group => textOf cursor.groupKey < group.key).take query.pageSize

def ratedStatuses : List String := ["provisional", "official", "not_chargeable", "disabled"]

def ratedEvents : Nat :=
  statusCount .aiu ratedStatuses
    (if canFilterRatingsDirectly query then matchingRatings clickhouse data query
    else ratingsOf data query (scopedIds (costEvents clickhouse data query)))

/-- The AIU of all groups, where an event counts once. -/
def totalMicros : Int :=
  if useMinuteAggregate query then
    sumOf (fun row => row.provisionalAiuMicros + row.officialAiuMicrosDelta) (matchingAggregates clickhouse data query)
  else
    sumOf (fun rating => rating.ratingSign * rating.aiuMicros.getD 0)
      ((ratingsOf data query (scopedIds (costEvents clickhouse data query))).filter fun rating =>
        rating.ratingKind = .aiu && rating.aiuMicros.isSome)

def queryAnalyticsAiu : Except ReportFailure AiuReportData := do
  checkGroup query
  execute clickhouse query do
    let events := (matchingEvents clickhouse data query).map UsageEventRow.toEventColumns
    let eventCount ← reportCount events.length
    let ratedEvents ← reportCount (ratedEvents clickhouse data query)
    let groups ← (aiuPage clickhouse data query).mapM aiuGroup
    let totalGroups ← reportCount (aiuGroups clickhouse data query).length
    let unmappedEvents ← reportCount (events.countP fun event => event.modelId = "")
    return {
      total := if ratedEvents = 0 then none else some ⟨toString (totalMicros clickhouse data query)⟩
      unratedEvents := eventCount - ratedEvents
      unmappedEvents
      groupDimension := query.groupDimension
      groups
      pageSize := query.pageSize
      totalGroups
      nextCursor := nextGroupCursor query .aiu (groups.getLast?.map fun group => (group.key, "")) groups.length totalGroups }

end Aiu

/-! ## Activity -/

inductive ActivityMetricUnit where
  | calls
  | tokens
  | users
  | percent
  | milliseconds
  deriving DecidableEq, Repr

def metricUnit : ReportMetric → Option ActivityMetricUnit
  | .requests => some .calls
  | .tokens => some .tokens
  | .uniqueUsers => some .users
  | .successRate => some .percent
  | .averageLatency => some .milliseconds
  | .providerCost | .aiu => none

structure ActivityMetricPoint where
  key : String
  value : Option String
  deriving DecidableEq, Repr

structure ActivityReportData where
  metric : ReportMetric
  unit : Option ActivityMetricUnit
  total : Option String
  groupDimension : ReportGroupDimension
  groups : List ActivityMetricPoint
  trend : List ActivityMetricPoint
  pageSize : Nat
  totalGroups : Nat
  nextCursor : Option String

section Activity

variable (clickhouse : ClickHouse) (data : AnalyticsData) (query : ReportQuery)

def operationKey (event : ScopedEvent) : String :=
  if event.columns.operationId = "" then event.columns.requestId else event.columns.operationId

/-- `usageProjection` for one event -/
def eventTokens (event : ScopedEvent) : Int :=
  sumOf (·.quantity)
    (data.lines.filter fun line =>
      line.applicationId = query.applicationId && query.from_ ≤ line.eventTime.1 && line.eventTime.1 < query.to_ &&
        line.eventId = event.columns.eventId && (inputTypes ++ outputTypes).contains line.usageType)

/-- `metricExpression` -/
def metricValue (events : List ScopedEvent) : Option String :=
  match query.metric with
  | .requests => some (toString (uniqExact (events.map operationKey)))
  | .tokens => some (decimalText 9 (sumOf (eventTokens data query) events))
  | .uniqueUsers =>
    some (toString (uniqExact ((events.map fun event => event.columns.userId).filter fun userId => userId ≠ "")))
  | .successRate =>
    let whole := uniqExact (events.map operationKey)
    if whole = 0 then none
    else some (clickhouse.percentText
      (uniqExact ((events.filter fun event => event.columns.status = "success").map operationKey)) whole)
  | .averageLatency | .providerCost | .aiu =>
    let latencies := events.filterMap fun event => event.columns.latencyMs
    if latencies.isEmpty then none else some (clickhouse.averageText latencies)

/-- `GROUP BY group_key ORDER BY group_key` -/
def metricPoints (events : List ScopedEvent) : List ActivityMetricPoint :=
  ((groupBy ScopedEvent.groupKey events).map fun group =>
      ⟨group.1, metricValue clickhouse data query group.2⟩).insertionSort fun a b => a.key ≤ b.key

/-- The events in the intervals of the trend. -/
def trendEvents : List ScopedEvent :=
  (matchingEvents clickhouse data query).map fun row =>
    ⟨row.toEventColumns, clickhouse.intervalText (grainInterval query.grain) query.timezone row.eventTime⟩

def activityPage : List ActivityMetricPoint :=
  let groups := metricPoints clickhouse data query (costEvents clickhouse data query)
  (match query.groupCursor with
    | none => groups
    | some cursor => groups.filter fun group => textOf cursor.groupKey < group.key).take query.pageSize

/-- A last group with the empty key gets no cursor. -/
def queryAnalyticsActivity : Except ReportFailure ActivityReportData := do
  checkGroup query
  execute clickhouse query do
    let events := costEvents clickhouse data query
    let groups := activityPage clickhouse data query
    let totalGroups ← reportCount (groupBy ScopedEvent.groupKey events).length
    let last := (groups.getLast?.map ActivityMetricPoint.key).bind reportString
    return {
      metric := query.metric
      unit := metricUnit query.metric
      total := metricValue clickhouse data query events
      groupDimension := query.groupDimension
      groups
      trend := (metricPoints clickhouse data query (trendEvents clickhouse data query)).take 10000
      pageSize := query.pageSize
      totalGroups
      nextCursor := nextGroupCursor query .activity (last.map fun key => (key, "")) groups.length totalGroups }

end Activity

end TokenPilot.Reports
