/-
  TokenPilot.Reports.Data — what reports read of ClickHouse
  (packages/clickhouse/migrations/0001 to 0006 and the views of them; apps/api/src/reports/data.ts).

  The tables, with the columns that the queries of reports name, and the functions of ClickHouse
  that the queries call: those on the case of Unicode texts, on time zones and on floating-point
  numbers are parameters.

  A column of `Decimal(38, n)` holds a number of units of its last place. An application has one
  row for an event (`AnalyticsData.eventIds`): the registry and the sink own idempotency, the sink
  as long as no two workers ask for one delivery at a time (`Analytics.ExactlyOnce`).
-/

import Mathlib.Data.String.Basic
import TokenPilot.Analytics.Tables
import TokenPilot.Library.Table
import TokenPilot.Reconciliation.ColumnTexts
import TokenPilot.Reports.Instants
import TokenPilot.Reports.Query

namespace TokenPilot.Reports

open TokenPilot.Library
open TokenPilot.Analytics (RatingKind)

/-! ## Tables -/

/-- The property columns of a scope; the keys of a map are distinct. -/
structure PropertyMaps where
  text : List (String × String)
  number : List (String × Decimal)
  boolean : List (String × Bool)
  datetime : List (String × DateTime64)
  enum : List (String × String)
  textList : List (String × List String)

/-- The other columns of `usage_events_raw` that reports read. -/
structure EventColumns where
  applicationId : String
  eventId : String
  requestId : String
  attemptId : String
  attemptIndex : Nat
  isFinalAttempt : Bool
  operationId : String
  eventTime : DateTime64
  receivedAt : DateTime64
  insertedAt : DateTime64
  schemaVersion : String
  applicationVersion : String
  sdkVersion : String
  connectorVersion : String
  configVersion : String
  userId : String
  displayUser : String
  userTags : List String
  sessionId : String
  conversationId : String
  traceId : String
  virtualModel : String
  modelId : String
  connectionId : String
  connectionDriver : String
  requestModel : String
  provider : String
  status : String
  routeReason : String
  fallbackFrom : String
  latencyMs : Option Nat
  analyticsDimensions : List (String × String)
  deriving DecidableEq

structure UsageEventRow extends EventColumns where
  eventProperties : PropertyMaps
  userProperties : PropertyMaps

structure UsageLineRow extends Analytics.UsageLineRow where
  eventTime : DateTime64

structure RatingEventRow extends Analytics.RatingEventRow where
  eventTime : DateTime64
  virtualModel : String
  modelId : String
  connectionId : String
  connectionDriver : String
  requestModel : String
  provider : String
  status : String
  routeReason : String
  currency : Option String
  amountDecimal : Option Int
  aiuMicros : Option Int

/-- The columns of `usage_agg_1m` that `aggregateEventProjection` names. -/
structure UsageAggregateRow where
  bucketStart : DateTime64
  applicationId : String
  virtualModel : String
  modelId : String
  connectionId : String
  connectionDriver : String
  requestModel : String
  provider : String
  status : String
  routeReason : String
  currency : String
  provisionalProviderCost : Int
  officialProviderCostDelta : Int
  provisionalAiuMicros : Int
  officialAiuMicrosDelta : Int

structure AnalyticsData where
  events : List UsageEventRow
  lines : List UsageLineRow
  ratings : List RatingEventRow
  aggregates : List UsageAggregateRow
  eventIds : events.Pairwise fun a b => a.applicationId = b.applicationId → a.eventId ≠ b.eventId

/-! ## Functions of ClickHouse -/

/-- `toStartOfInterval(time, INTERVAL 1 HOUR)` and its like -/
inductive Interval where
  | hour
  | day
  | week
  | month
  deriving DecidableEq, Repr

structure ClickHouse where
  positionCaseInsensitiveUTF8 : String → String → Nat
  lowerUTF8 : String → String
  /-- `formatDateTime` in UTC of the start of an interval in a time zone. -/
  intervalText : Interval → String → DateTime64 → String
  /-- `formatDateTime` in UTC of `toStartOfHour`, `toStartOfDay` or `toStartOfWeek`. -/
  trendText : Interval → DateTime64 → String
  /-- A parameter of type `DateTime64(3, 'UTC')`, none for one that cannot be parsed. -/
  dateTimeParameter : String → Option Int
  floatText : Decimal → String
  /-- `toString(round(100 * part / whole, 6))` -/
  percentText : Nat → Nat → String
  /-- `toString(round(avg(values), 6))` -/
  averageText : List Nat → String

/-- `parseDateTime64BestEffort(text, 3, 'UTC')`, none for a text that is refused. -/
def parseDateTime64BestEffort (s : String) : Option Int := Analytics.readIso s

/-- `map[key]` -/
def readMap {α : Type} (default : α) (map : List (String × α)) (key : String) : α := (map.lookup key).getD default

/-- `mapContains` -/
def mapContains {α : Type} (map : List (String × α)) (key : String) : Bool := (map.lookup key).isSome

/-- `toString` of a column `Decimal(38, places)`. -/
def decimalText (places : Nat) (units : Int) : String := Reconciliation.clickHouseText places units

/-- `DateTime64` of no value. -/
def epoch : DateTime64 := ⟨0, by decide⟩

/-- The order of tuples of a number and a text. -/
def tupleLess (a b : Nat × String) : Bool := a.1 < b.1 || (a.1 = b.1 && a.2 < b.2)

/-- `argMax(value, order)`: the first of the rows with the greatest order. -/
def argMax {α β : Type} (value : α → β) (order : α → Nat × String) : List α → Option β
  | [] => none
  | row :: rest =>
    some (value (rest.foldl (fun greatest other => if tupleLess (order greatest) (order other) then other else greatest) row))

/-- `argMaxIf`, with the empty text for no row. -/
def argMaxIf {α : Type} (value : α → String) (order : α → Nat × String) (condition : α → Bool) (rows : List α) : String :=
  (argMax value order (rows.filter condition)).getD ""

def sumOf {α : Type} (value : α → Int) (rows : List α) : Int := (rows.map value).sum

/-- `uniqExact` -/
def uniqExact {α : Type} [BEq α] (values : List α) : Nat := values.eraseDups.length

/-- `max` -/
def maxTime? (times : List DateTime64) : Option DateTime64 :=
  match times with
  | [] => none
  | t :: rest => some (rest.foldl (fun latest other => if latest.1 < other.1 then other else latest) t)

/-! ## Values of a result -/

/-- `reportString` of a text -/
def reportString (s : String) : Option String := if s = "" then none else some s

def thrownType (message : String) : ReportFailure := .thrown "TypeError" message

/-- `reportCount` of a count -/
def reportCount (n : Nat) : Except ReportFailure Nat :=
  if n ≤ 9007199254740991 then .ok n else .error (thrownType "Report count must be a non-negative safe integer")

end TokenPilot.Reports
