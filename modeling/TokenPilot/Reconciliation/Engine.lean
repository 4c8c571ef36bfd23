/-
  TokenPilot.Reconciliation.Engine — `reconcileSnapshots` (reconciler.ts and metrics.ts of the
  reconciliation engine).

  A record of metrics is a function of its keys, and a `Partial` of one has a value for the
  keys it holds. A metric stays the text it came as; it is parsed where the source parses it.
  A cost is the number its text stands for, and `minus` rounds it to the 20 significant
  digits of decimal.js. `Date.parse` is a parameter, `none` where it returns NaN.

  The tolerances are what their texts stand for: the checks of them are the fields of
  `ReconciliationTolerance`.
-/

import TokenPilot.Pipeline.Rating

namespace TokenPilot.Reconciliation

open TokenPilot.Library
open TokenPilot.Pipeline (decimal PrismaDecimal.minus)

/-! ## Types -/

inductive BucketSize where
  | hour
  | day
  deriving DecidableEq, Repr

structure ReconciliationDimensions where
  applicationId : String
  bucketStart : String
  bucketSize : BucketSize
  virtualModel : Option String
  modelId : Option String
  requestModel : Option String
  provider : Option String
  userId : Option String
  deriving DecidableEq, Repr

inductive MetricKey where
  | eventCount
  | inputTokens
  | cachedInputTokens
  | outputTokens
  | providerCost
  | aiuMicros
  | unpricedCount
  | unratedCount
  deriving DecidableEq, Repr

abbrev ReconciliationMetrics := MetricKey → String

abbrev PartialMetrics := MetricKey → Option String

structure ReconciliationSnapshotRow where
  projectionId : String
  dimensions : ReconciliationDimensions
  metrics : ReconciliationMetrics
  duplicateProjectionCount : Option String
  sampleEventIds : List String
  modelIdentityFingerprint : Option String
  costVersionId : Option String
  aiuVersionId : Option String
  payloadHashConflict : Bool
  officialDeltaPending : Bool
  lateEventCount : String
  unprojectedAdjustmentCount : String

inductive ReconciliationDiffType where
  | chMissing
  | pgMissing
  | duplicateProjection
  | payloadHashConflict
  | usageNormalizationMismatch
  | modelIdentityMismatch
  | priceVersionMismatch
  | aiuRateVersionMismatch
  | provisionalOfficialDeltaPending
  | ledgerProjectionMissing
  | lateEvent
  | adjustmentNotProjected
  | watermarkStalled
  deriving DecidableEq, Repr

inductive ReconciliationSeverity where
  | info
  | warning
  | error
  | critical
  deriving DecidableEq, Repr

structure ReconciliationDiff where
  type : ReconciliationDiffType
  severity : ReconciliationSeverity
  dimensions : Option ReconciliationDimensions
  count : String
  amount : Option String
  pgValues : Option ReconciliationMetrics
  chValues : Option ReconciliationMetrics
  deltaValues : PartialMetrics
  sampleEventIds : List String
  explanation : String

structure ReconciliationTolerance where
  providerCost : ℚ
  aiuMicros : Nat
  watermarkStallSeconds : Int
  providerCost_nonneg : 0 ≤ providerCost

structure Watermark where
  pgEventTime : String
  chEventTime : String
  chLastSuccessAt : String
  now : String

structure TypeError where
  message : String
  deriving DecidableEq, Repr

/-! ## Metrics -/

def MetricKey.name : MetricKey → String
  | .eventCount => "eventCount"
  | .inputTokens => "inputTokens"
  | .cachedInputTokens => "cachedInputTokens"
  | .outputTokens => "outputTokens"
  | .providerCost => "providerCost"
  | .aiuMicros => "aiuMicros"
  | .unpricedCount => "unpricedCount"
  | .unratedCount => "unratedCount"

def integerMetricKeys : List MetricKey :=
  [.eventCount, .inputTokens, .cachedInputTokens, .outputTokens, .aiuMicros, .unpricedCount, .unratedCount]

def usageMetricKeys : List MetricKey :=
  [.eventCount, .inputTokens, .cachedInputTokens, .outputTokens, .unpricedCount, .unratedCount]

/-- `/^(?:0|[1-9][0-9]*)$/u` -/
def integerText : List Char → Bool
  | [] => false
  | c :: rest => (c = '0' && rest.isEmpty) || (c.isDigit && c ≠ '0' && rest.all Char.isDigit)

/-- `/^(?:0|[1-9][0-9]*)(?:\.[0-9]+)?$/u` -/
def decimalText (s : List Char) : Bool :=
  integerText (s.takeWhile Char.isDigit) &&
    match s.dropWhile Char.isDigit with
    | [] => true
    | c :: fraction => c = '.' && !fraction.isEmpty && fraction.all Char.isDigit

/-- `BigInt(value)` of an integer text -/
def integer (value : String) : Nat := Nat.ofDigitChars 10 value.toList 0

def parseMetricInteger (value field : String) : Except TypeError Nat :=
  if integerText value.toList then .ok (integer value)
  else .error ⟨field ++ " must be a non-negative integer string"⟩

def parseCost (value field : String) : Except TypeError ℚ :=
  if decimalText value.toList then .ok (decimal value)
  else .error ⟨field ++ " must be a non-negative decimal string"⟩

def validateMetrics (metrics : ReconciliationMetrics) : Except TypeError Unit := do
  for key in integerMetricKeys do
    let _ ← parseMetricInteger (metrics key) key.name
  let _ ← parseCost (metrics .providerCost) "providerCost"

def signedIntegerDelta (left right : String) : Except TypeError String := do
  let l ← parseMetricInteger left "left"
  let r ← parseMetricInteger right "right"
  return toString ((l : Int) - r)

def signedCostDelta (left right : String) : Except TypeError String := do
  let l ← parseCost left "left"
  let r ← parseCost right "right"
  return toFixed 18 (PrismaDecimal.minus l r)

/-! ## Differences -/

def severity : ReconciliationDiffType → ReconciliationSeverity
  | .chMissing => .error
  | .pgMissing => .warning
  | .duplicateProjection => .error
  | .payloadHashConflict => .critical
  | .usageNormalizationMismatch => .error
  | .modelIdentityMismatch => .error
  | .priceVersionMismatch => .error
  | .aiuRateVersionMismatch => .error
  | .provisionalOfficialDeltaPending => .warning
  | .ledgerProjectionMissing => .critical
  | .lateEvent => .info
  | .adjustmentNotProjected => .critical
  | .watermarkStalled => .critical

def BucketSize.text : BucketSize → String
  | .hour => "hour"
  | .day => "day"

def textOrNull : Option String → Json String Empty
  | some s => .str s
  | none => .null

def dimensionsKey (value : ReconciliationDimensions) : String :=
  String.ofList (Json.render Empty.elim (.arr [.str value.bucketSize.text, .str value.bucketStart,
    .str value.applicationId, textOrNull value.virtualModel, textOrNull value.modelId, textOrNull value.requestModel,
    textOrNull value.provider, textOrNull value.userId]))

/-- `sort()` of strings, by their units -/
def sortTexts (texts : List String) : List String := texts.insertionSort fun a b => Text.units a ≤ Text.units b

def samples (pg ch : List String) : List String := (sortTexts (pg ++ ch).eraseDups).take 100

def eventCount (side : String) : Option ReconciliationMetrics → Except TypeError Nat
  | none => .ok 0
  | some metrics => parseMetricInteger (metrics .eventCount) (side ++ ".eventCount")

def countDelta (pg ch : Option ReconciliationMetrics) : Except TypeError String := do
  let left ← eventCount "pg" pg
  let right ← eventCount "ch" ch
  return toString ((left : Int) - right).natAbs

def noDelta : PartialMetrics := fun _ => none

/-- The two snapshot rows a difference is about. -/
structure Sides where
  pg : Option ReconciliationSnapshotRow
  ch : Option ReconciliationSnapshotRow

/-- `pgRows[0]?.dimensions ?? chRows[0]?.dimensions ?? null` -/
def Sides.dimensions (sides : Sides) : Option ReconciliationDimensions :=
  (sides.pg.map (·.dimensions)).or (sides.ch.map (·.dimensions))

def Sides.samples (sides : Sides) : List String :=
  Reconciliation.samples ((sides.pg.map (·.sampleEventIds)).getD []) ((sides.ch.map (·.sampleEventIds)).getD [])

def diff (type : ReconciliationDiffType) (dimensions : Option ReconciliationDimensions) (sides : Sides)
    (deltaValues : PartialMetrics) (count amount : Option String) (explanation : String) :
    Except TypeError ReconciliationDiff := do
  let pgValues := sides.pg.map (·.metrics)
  let chValues := sides.ch.map (·.metrics)
  let shown ← match count with
    | some text => pure text
    | none => countDelta pgValues chValues
  return {
    type, severity := severity type, dimensions, count := shown, amount, pgValues, chValues, deltaValues,
    sampleEventIds := sides.samples, explanation }

/-- `if (violated) output.push(diff(..))` -/
def pushed (violated : Bool) (found : Except TypeError ReconciliationDiff) : Except TypeError (List ReconciliationDiff) :=
  if violated then found.map fun d => [d] else .ok []

/-! ## Grouping -/

section Times

variable (dateParse : String → Option Int)

def validateRow (row : ReconciliationSnapshotRow) : Except TypeError Unit := do
  validateMetrics row.metrics
  let _ ← parseMetricInteger (row.duplicateProjectionCount.getD "0") "duplicateProjectionCount"
  if (dateParse row.dimensions.bucketStart).isNone then throw ⟨"reconciliation bucketStart is invalid"⟩

abbrev Grouped := List (String × List ReconciliationSnapshotRow)

def Grouped.rows (grouped : Grouped) (key : String) : List ReconciliationSnapshotRow := (grouped.lookup key).getD []

/-- `grouped.set(key, rows)`: a key keeps its place -/
def Grouped.set (key : String) (rows : List ReconciliationSnapshotRow) : Grouped → Grouped
  | [] => [(key, rows)]
  | entry :: rest => if entry.1 = key then (key, rows) :: rest else entry :: Grouped.set key rows rest

def group (rows : List ReconciliationSnapshotRow) : Except TypeError Grouped :=
  rows.foldlM (fun grouped row => do
    validateRow dateParse row
    let key := dimensionsKey row.dimensions
    return Grouped.set key (Grouped.rows grouped key ++ [row]) grouped) []

end Times

/-! ## Paired rows -/

section Paired

variable (pg ch : ReconciliationSnapshotRow) (tolerance : ReconciliationTolerance)

def paired : Sides := ⟨some pg, some ch⟩

def usageDelta : Except TypeError PartialMetrics :=
  usageMetricKeys.foldlM (fun delta key => do
    if pg.metrics key ≠ ch.metrics key then
      let text ← signedIntegerDelta (pg.metrics key) (ch.metrics key)
      return Function.update delta key (some text)
    else return delta) noDelta

def pending : Bool := pg.officialDeltaPending || ch.officialDeltaPending

def identityDiffs : Except TypeError (List ReconciliationDiff) := do
  let conflict ← pushed (pg.payloadHashConflict || ch.payloadHashConflict)
    (diff .payloadHashConflict (some pg.dimensions) (paired pg ch) noDelta (some "1") none
      "the same event id was observed with different canonical payload hashes")
  let identity ← pushed (pg.modelIdentityFingerprint ≠ ch.modelIdentityFingerprint)
    (diff .modelIdentityMismatch (some pg.dimensions) (paired pg ch) noDelta (some "1") none
      "model identity differs between official and projected data")
  let price ← pushed (pg.costVersionId ≠ ch.costVersionId)
    (diff .priceVersionMismatch (some pg.dimensions) (paired pg ch) noDelta (some "1") none
      "provider price version differs between official and projected data")
  let aiuRate ← pushed (pg.aiuVersionId ≠ ch.aiuVersionId)
    (diff .aiuRateVersionMismatch (some pg.dimensions) (paired pg ch) noDelta (some "1") none
      "AIU rate-card version differs between official and projected data")
  return conflict ++ identity ++ price ++ aiuRate

def usageDiffs : Except TypeError (List ReconciliationDiff) := do
  let delta ← usageDelta pg ch
  pushed (usageMetricKeys.any fun key => (delta key).isSome)
    (diff .usageNormalizationMismatch (some pg.dimensions) (paired pg ch) delta none none
      "normalized counts or mutually-exclusive usage buckets differ")

def costDiffs : Except TypeError (List ReconciliationDiff) := do
  let pgCost ← parseCost (pg.metrics .providerCost) "pg.providerCost"
  let chCost ← parseCost (ch.metrics .providerCost) "ch.providerCost"
  let costDelta := PrismaDecimal.minus pgCost chCost
  if tolerance.providerCost < |costDelta| then
    let signed ← signedCostDelta (pg.metrics .providerCost) (ch.metrics .providerCost)
    pushed true
      (diff (if pending pg ch then .provisionalOfficialDeltaPending else .ledgerProjectionMissing)
        (some pg.dimensions) (paired pg ch) (Function.update noDelta .providerCost (some signed)) none
        (some (toFixed 18 |costDelta|))
        (if pending pg ch then "official provider-cost delta is queued but not yet reflected in ClickHouse"
          else "official provider-cost ledger total is not reflected in ClickHouse"))
  else return []

def aiuDiffs : Except TypeError (List ReconciliationDiff) := do
  let pgAiu ← parseMetricInteger (pg.metrics .aiuMicros) "pg.aiuMicros"
  let chAiu ← parseMetricInteger (ch.metrics .aiuMicros) "ch.aiuMicros"
  let aiuDelta := (pgAiu : Int) - chAiu
  pushed (tolerance.aiuMicros < aiuDelta.natAbs)
    (diff .ledgerProjectionMissing (some pg.dimensions) (paired pg ch)
      (Function.update noDelta .aiuMicros (some (toString aiuDelta))) none none
      "official AIU ledger total is not reflected in ClickHouse")

def correctionDiffs : Except TypeError (List ReconciliationDiff) := do
  let lateCount ← parseMetricInteger pg.lateEventCount "lateEventCount"
  let late ← pushed (0 < lateCount)
    (diff .lateEvent (some pg.dimensions) (paired pg ch) noDelta (some (toString lateCount)) none
      "events arrived after the aggregate watermark and require deterministic replay")
  let adjustments ← parseMetricInteger pg.unprojectedAdjustmentCount "unprojectedAdjustmentCount"
  let unprojected ← pushed (0 < adjustments)
    (diff .adjustmentNotProjected (some pg.dimensions) (paired pg ch) noDelta (some (toString adjustments)) none
      "append-only official corrections are missing from the projection")
  return late ++ unprojected

def pairedDiffs : Except TypeError (List ReconciliationDiff) := do
  let identity ← identityDiffs pg ch
  let usage ← usageDiffs pg ch
  let cost ← costDiffs pg ch tolerance
  let aiu ← aiuDiffs pg ch tolerance
  let corrections ← correctionDiffs pg ch
  return identity ++ usage ++ cost ++ aiu ++ corrections

end Paired

/-! ## Reconciliation -/

/-- The rows beyond the first of each side, and the physical rows every row counts. -/
def duplicates (pgRows chRows : List ReconciliationSnapshotRow) : Except TypeError Nat :=
  (pgRows ++ chRows).foldlM (fun total row => do
    let count ← parseMetricInteger (row.duplicateProjectionCount.getD "0") "duplicateProjectionCount"
    return total + count) ((pgRows.length - 1) + (chRows.length - 1))

def firstSides (pgRows chRows : List ReconciliationSnapshotRow) : Sides := ⟨pgRows.head?, chRows.head?⟩

def comparedDiffs (tolerance : ReconciliationTolerance) (pgRows chRows : List ReconciliationSnapshotRow) :
    Except TypeError (List ReconciliationDiff) :=
  let sides := firstSides pgRows chRows
  match pgRows, chRows with
  | [], _ => pushed true (diff .pgMissing sides.dimensions ⟨none, chRows.head?⟩ noDelta none none
      "ClickHouse projection has no corresponding PostgreSQL official aggregate")
  | pg :: _, [] => pushed true (diff .chMissing sides.dimensions ⟨some pg, none⟩ noDelta none none
      "PostgreSQL official aggregate has not been projected to ClickHouse")
  | pg :: _, ch :: _ => pairedDiffs pg ch tolerance

def keyDiffs (tolerance : ReconciliationTolerance) (pgRows chRows : List ReconciliationSnapshotRow) :
    Except TypeError (List ReconciliationDiff) := do
  let sides := firstSides pgRows chRows
  let duplicateProjectionCount ← duplicates pgRows chRows
  let duplicate ← pushed (0 < duplicateProjectionCount)
    (diff .duplicateProjection sides.dimensions sides noDelta (some (toString duplicateProjectionCount)) none
      "duplicate physical projection rows or aggregate rows exist for the canonical dimension key")
  let compared ← comparedDiffs tolerance pgRows chRows
  return duplicate ++ compared

def watermarkDiffs (dateParse : String → Option Int) (tolerance : ReconciliationTolerance) :
    Option Watermark → Except TypeError (List ReconciliationDiff)
  | none => .ok []
  | some { pgEventTime, chEventTime, chLastSuccessAt, now } =>
    match dateParse pgEventTime, dateParse chEventTime, dateParse chLastSuccessAt, dateParse now with
    | some pgTime, some chTime, some lastSuccess, some current =>
      pushed (chTime < pgTime && tolerance.watermarkStallSeconds * 1000 < current - lastSuccess)
        (diff .watermarkStalled none ⟨none, none⟩ noDelta (some "1") none
          "ClickHouse watermark is behind PostgreSQL and has not advanced within the configured interval")
    | _, _, _, _ => .error ⟨"watermark timestamps are invalid"⟩

def keys (pg ch : Grouped) : List String := sortTexts (pg.map Prod.fst ++ ch.map Prod.fst).eraseDups

def reconcileSnapshots (dateParse : String → Option Int) (pgRows chRows : List ReconciliationSnapshotRow)
    (tolerance : ReconciliationTolerance) (watermark : Option Watermark) : Except TypeError (List ReconciliationDiff) := do
  let pg ← group dateParse pgRows
  let ch ← group dateParse chRows
  let output ← (keys pg ch).mapM fun key => keyDiffs tolerance (pg.rows key) (ch.rows key)
  let stalled ← watermarkDiffs dateParse tolerance watermark
  return output.flatten ++ stalled

end TokenPilot.Reconciliation
