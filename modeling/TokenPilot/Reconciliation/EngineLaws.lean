/-
  TokenPilot.Reconciliation.EngineLaws — what `reconcileSnapshots` does with rows it can read.

  `group_ok`: every row is kept, under its key, in the order of the list. `pairedDiffs_ok`: of
  two paired rows exactly the conditions that are raised are shown, in the order of the
  source. `reconcileSnapshots_ok`: the output is the report of every key, the keys sorted, and
  that of the watermark.
-/

import Mathlib.Data.List.Forall2
import TokenPilot.Reconciliation.Engine

namespace TokenPilot.Reconciliation

open TokenPilot.Library
open TokenPilot.Pipeline (decimal PrismaDecimal.minus)

/-! ## Rows that can be read -/

structure ValidRow (dateParse : String → Option Int) (row : ReconciliationSnapshotRow) : Prop where
  integers : ∀ key ∈ integerMetricKeys, integerText (row.metrics key).toList = true
  cost : decimalText (row.metrics .providerCost).toList = true
  duplicates : integerText (row.duplicateProjectionCount.getD "0").toList = true
  late : integerText row.lateEventCount.toList = true
  adjustments : integerText row.unprojectedAdjustmentCount.toList = true
  bucketStart : (dateParse row.dimensions.bucketStart).isSome = true

theorem toString_integer {value : String} (h : integerText value.toList = true) : toString (integer value) = value := by
  apply String.toList_injective
  rw [toList_toString, integer]
  cases hvalue : value.toList with
  | nil => simp [hvalue, integerText] at h
  | cons c rest =>
    simp only [hvalue, integerText, Bool.or_eq_true, Bool.and_eq_true, decide_eq_true_eq, List.isEmpty_iff,
      List.all_eq_true] at h
    rcases h with ⟨rfl, rfl⟩ | ⟨⟨hdigit, hzero⟩, hrest⟩
    · rfl
    · refine (Numeral.toDigits_ofDigitChars ?_ (by simp) (by simpa using hzero)).1
      intro d hd
      rcases List.mem_cons.mp hd with rfl | hd
      · exact hdigit
      · exact hrest d hd

/-- Integer texts are those of their numbers. -/
theorem integer_inj {a b : String} (ha : integerText a.toList = true) (hb : integerText b.toList = true) :
    integer a = integer b ↔ a = b := by
  refine ⟨fun h => ?_, congrArg integer⟩
  rw [← toString_integer ha, h, toString_integer hb]

theorem parseMetricInteger_of {value : String} (field : String) (h : integerText value.toList = true) :
    parseMetricInteger value field = .ok (integer value) := if_pos h

theorem parseCost_of {value : String} (field : String) (h : decimalText value.toList = true) :
    parseCost value field = .ok (decimal value) := if_pos h

theorem validateMetrics_of {metrics : ReconciliationMetrics}
    (hintegers : ∀ key ∈ integerMetricKeys, integerText (metrics key).toList = true)
    (hcost : decimalText (metrics .providerCost).toList = true) : validateMetrics metrics = .ok () := by
  have hparse (key : MetricKey) (hkey : key ∈ integerMetricKeys) (field : String) :=
    parseMetricInteger_of field (hintegers key hkey)
  simp only [validateMetrics, integerMetricKeys, List.forIn_cons, List.forIn_nil,
    hparse .eventCount (by decide), hparse .inputTokens (by decide), hparse .cachedInputTokens (by decide),
    hparse .outputTokens (by decide), hparse .aiuMicros (by decide), hparse .unpricedCount (by decide),
    hparse .unratedCount (by decide), parseCost_of _ hcost]
  rfl

section Rows

variable {dateParse : String → Option Int} {row pg ch : ReconciliationSnapshotRow}

theorem ValidRow.metric (h : ValidRow dateParse row) {key : MetricKey} (hkey : key ∈ integerMetricKeys) (field : String) :
    parseMetricInteger (row.metrics key) field = .ok (integer (row.metrics key)) :=
  parseMetricInteger_of field (h.integers key hkey)

theorem ValidRow.parsed (h : ValidRow dateParse row) : validateRow dateParse row = .ok () := by
  have hstart : (dateParse row.dimensions.bucketStart).isNone = false := by
    rw [Option.isNone_eq_false_iff]
    exact h.bucketStart
  unfold validateRow
  rw [validateMetrics_of h.integers h.cost, parseMetricInteger_of _ h.duplicates, hstart]
  rfl

/-! ## One difference -/

def metricsCount : Option ReconciliationMetrics → Nat
  | none => 0
  | some metrics => integer (metrics .eventCount)

def Sides.count (sides : Sides) : Nat :=
  ((metricsCount (sides.pg.map (·.metrics)) : Int) - metricsCount (sides.ch.map (·.metrics))).natAbs

def Sides.Valid (dateParse : String → Option Int) (sides : Sides) : Prop :=
  (∀ row ∈ sides.pg, ValidRow dateParse row) ∧ ∀ row ∈ sides.ch, ValidRow dateParse row

theorem eventCount_of {side : String} {found : Option ReconciliationSnapshotRow} (h : ∀ row ∈ found, ValidRow dateParse row) :
    eventCount side (found.map (·.metrics)) = .ok (metricsCount (found.map (·.metrics))) := by
  cases found with
  | none => rfl
  | some row => exact (h row rfl).metric (by decide) _

theorem diff_of {sides : Sides} (h : sides.Valid dateParse) (type : ReconciliationDiffType)
    (dimensions : Option ReconciliationDimensions) (deltaValues : PartialMetrics) (count amount : Option String)
    (explanation : String) : diff type dimensions sides deltaValues count amount explanation = .ok {
      type, severity := severity type, dimensions, count := count.getD (toString sides.count), amount,
      pgValues := sides.pg.map (·.metrics), chValues := sides.ch.map (·.metrics), deltaValues,
      sampleEventIds := sides.samples, explanation } := by
  cases count with
  | some text => rfl
  | none =>
    simp only [diff, countDelta, eventCount_of h.1, eventCount_of h.2]
    rfl

theorem pushed_true (found : Except TypeError ReconciliationDiff) : pushed true found = found.map fun d => [d] := rfl

/-! ## Conditions -/

inductive Condition where
  | duplicates
  | pgMissing
  | chMissing
  | payloadHashConflict
  | modelIdentity
  | priceVersion
  | aiuRateVersion
  | usage
  | providerCost
  | aiuMicros
  | lateEvents
  | adjustments
  deriving DecidableEq, Repr

/-- The conditions of two paired rows, in the order they are looked at. -/
def pairConditions : List Condition :=
  [.payloadHashConflict, .modelIdentity, .priceVersion, .aiuRateVersion, .usage, .providerCost, .aiuMicros, .lateEvents,
    .adjustments]

/-- The difference type of a condition; that of a cost depends on whether a delta is queued. -/
def Condition.type (queued : Bool) : Condition → ReconciliationDiffType
  | .duplicates => .duplicateProjection
  | .pgMissing => .pgMissing
  | .chMissing => .chMissing
  | .payloadHashConflict => .payloadHashConflict
  | .modelIdentity => .modelIdentityMismatch
  | .priceVersion => .priceVersionMismatch
  | .aiuRateVersion => .aiuRateVersionMismatch
  | .usage => .usageNormalizationMismatch
  | .providerCost => if queued then .provisionalOfficialDeltaPending else .ledgerProjectionMissing
  | .aiuMicros => .ledgerProjectionMissing
  | .lateEvents => .lateEvent
  | .adjustments => .adjustmentNotProjected

/-- The cost difference `minus` computes. -/
def costDelta (pg ch : ReconciliationSnapshotRow) : ℚ :=
  PrismaDecimal.minus (decimal (pg.metrics .providerCost)) (decimal (ch.metrics .providerCost))

def integerDelta (key : MetricKey) (pg ch : ReconciliationSnapshotRow) : Int :=
  (integer (pg.metrics key) : Int) - integer (ch.metrics key)

def raised (tolerance : ReconciliationTolerance) (pg ch : ReconciliationSnapshotRow) : Condition → Bool
  | .payloadHashConflict => pg.payloadHashConflict || ch.payloadHashConflict
  | .modelIdentity => pg.modelIdentityFingerprint ≠ ch.modelIdentityFingerprint
  | .priceVersion => pg.costVersionId ≠ ch.costVersionId
  | .aiuRateVersion => pg.aiuVersionId ≠ ch.aiuVersionId
  | .usage => usageMetricKeys.any fun key => pg.metrics key ≠ ch.metrics key
  | .providerCost => tolerance.providerCost < |costDelta pg ch|
  | .aiuMicros => tolerance.aiuMicros < (integerDelta .aiuMicros pg ch).natAbs
  | .lateEvents => 0 < integer pg.lateEventCount
  | .adjustments => 0 < integer pg.unprojectedAdjustmentCount
  | .duplicates | .pgMissing | .chMissing => false

def shownDelta (pg ch : ReconciliationSnapshotRow) : Condition → PartialMetrics
  | .usage => fun key =>
    if key ∈ usageMetricKeys ∧ pg.metrics key ≠ ch.metrics key then some (toString (integerDelta key pg ch)) else none
  | .providerCost => Function.update noDelta .providerCost (some (toFixed 18 (costDelta pg ch)))
  | .aiuMicros => Function.update noDelta .aiuMicros (some (toString (integerDelta .aiuMicros pg ch)))
  | _ => noDelta

def shownCount (pg ch : ReconciliationSnapshotRow) : Condition → String
  | .lateEvents => toString (integer pg.lateEventCount)
  | .adjustments => toString (integer pg.unprojectedAdjustmentCount)
  | .usage | .providerCost | .aiuMicros => toString (paired pg ch).count
  | _ => "1"

def shownAmount (pg ch : ReconciliationSnapshotRow) : Condition → Option String
  | .providerCost => some (toFixed 18 |costDelta pg ch|)
  | _ => none

/-- What a difference tells besides the rows it is about. -/
structure Shown where
  type : ReconciliationDiffType
  deltaValues : PartialMetrics
  count : String
  amount : Option String

def pairShown (pg ch : ReconciliationSnapshotRow) (c : Condition) : Shown :=
  ⟨c.type (pending pg ch), shownDelta pg ch c, shownCount pg ch c, shownAmount pg ch c⟩

structure Shows (sides : Sides) (s : Shown) (d : ReconciliationDiff) : Prop where
  type : d.type = s.type
  severity : d.severity = severity s.type
  dimensions : d.dimensions = sides.dimensions
  count : d.count = s.count
  amount : d.amount = s.amount
  pgValues : d.pgValues = sides.pg.map (·.metrics)
  chValues : d.chValues = sides.ch.map (·.metrics)
  deltaValues : d.deltaValues = s.deltaValues
  sampleEventIds : d.sampleEventIds = sides.samples

/-- A part of the comparison: of its conditions exactly the raised ones are shown, in order. -/
def Pushes (sides : Sides) (shown : Condition → Shown) (raised : Condition → Bool) (conditions : List Condition)
    (found : Except TypeError (List ReconciliationDiff)) : Prop :=
  ∃ output, found = .ok output ∧ List.Forall₂ (fun c => Shows sides (shown c)) (conditions.filter raised) output

section Pushing

variable {sides : Sides} {shown : Condition → Shown} {raised : Condition → Bool}

theorem shows_append (first : List Condition) {second : List Condition} {a b : List ReconciliationDiff}
    (ha : List.Forall₂ (fun c => Shows sides (shown c)) (first.filter raised) a)
    (hb : List.Forall₂ (fun c => Shows sides (shown c)) (second.filter raised) b) :
    List.Forall₂ (fun c => Shows sides (shown c)) ((first ++ second).filter raised) (a ++ b) := by
  rw [List.filter_append]
  exact List.rel_append ha hb

/-- `if (violated) output.push(diff(..))` pushes what shows its condition. -/
theorem pushes_of (shown : Condition → Shown) (raised : Condition → Bool) (hsides : sides.Valid dateParse) (c : Condition) (count : Option String) (explanation : String)
    {violated : Bool} {type : ReconciliationDiffType} {dimensions : Option ReconciliationDimensions}
    {delta : PartialMetrics} {amount : Option String} (hraised : raised c = violated)
    (hdimensions : dimensions = sides.dimensions) (htype : type = (shown c).type) (hdelta : delta = (shown c).deltaValues)
    (hamount : amount = (shown c).amount) (hcount : count.getD (toString sides.count) = (shown c).count) :
    Pushes sides shown raised [c] (pushed violated (diff type dimensions sides delta count amount explanation)) := by
  rw [diff_of hsides]
  cases violated with
  | true =>
    refine ⟨_, rfl, ?_⟩
    rw [List.filter_cons_of_pos hraised]
    exact .cons ⟨htype, congrArg severity htype, hdimensions, hcount, hamount, rfl, rfl, hdelta, rfl⟩ .nil
  | false =>
    refine ⟨[], rfl, ?_⟩
    rw [List.filter_cons_of_neg (by simp [hraised])]
    exact .nil

end Pushing

/-- `Pushes` of two paired rows. -/
def PairPushes (tolerance : ReconciliationTolerance) (pg ch : ReconciliationSnapshotRow) :=
  Pushes (paired pg ch) (pairShown pg ch) (raised tolerance pg ch)

attribute [local simp] raised shownDelta shownCount shownAmount pairConditions

section Valid

variable (hpg : ValidRow dateParse pg) (hch : ValidRow dateParse ch)

include hpg hch

theorem paired_valid : (paired pg ch).Valid dateParse := by
  refine ⟨fun row hrow => ?_, fun row hrow => ?_⟩
  · cases hrow
    exact hpg
  · cases hrow
    exact hch

theorem signedIntegerDelta_of {key : MetricKey} (hkey : key ∈ integerMetricKeys) :
    signedIntegerDelta (pg.metrics key) (ch.metrics key) = .ok (toString (integerDelta key pg ch)) := by
  unfold signedIntegerDelta
  rw [hpg.metric hkey, hch.metric hkey]
  rfl

theorem usageDelta_of : usageDelta pg ch = .ok (shownDelta pg ch .usage) := by
  -- after some of the keys, those among them that differ have their delta
  have hfold (keys : List MetricKey) (hkeys : ∀ key ∈ keys, key ∈ integerMetricKeys) (delta : PartialMetrics) :
      keys.foldlM (fun delta key => do
        if pg.metrics key ≠ ch.metrics key then
          let text ← signedIntegerDelta (pg.metrics key) (ch.metrics key)
          return Function.update delta key (some text)
        else return delta) delta = (.ok fun key =>
          if key ∈ keys ∧ pg.metrics key ≠ ch.metrics key then some (toString (integerDelta key pg ch)) else delta key :
            Except TypeError PartialMetrics) := by
    induction keys generalizing delta with
    | nil =>
      simp only [List.foldlM_nil, List.not_mem_nil, false_and, if_false]
      rfl
    | cons key rest ih =>
      have hrest := ih fun k hk => hkeys k (by simp [hk])
      rw [List.foldlM_cons]
      by_cases hne : pg.metrics key ≠ ch.metrics key
      · rw [if_pos hne, signedIntegerDelta_of hpg hch (hkeys key (by simp))]
        refine (hrest _).trans (congrArg Except.ok (funext fun k => ?_))
        by_cases hk : k = key
        · subst hk
          simp [hne]
        · simp [hk]
      · rw [if_neg hne]
        refine (hrest _).trans (congrArg Except.ok (funext fun k => ?_))
        by_cases hk : k = key
        · subst hk
          simp [not_not.mp hne]
        · simp [hk]
  exact hfold usageMetricKeys (by decide) noDelta

theorem pair_pushes_of (tolerance : ReconciliationTolerance) (c : Condition) (count : Option String) (explanation : String)
    (hcount : count.getD (toString (paired pg ch).count) = shownCount pg ch c) :
    PairPushes tolerance pg ch [c] (pushed (raised tolerance pg ch c) (diff (c.type (pending pg ch)) (some pg.dimensions)
      (paired pg ch) (shownDelta pg ch c) count (shownAmount pg ch c) explanation)) :=
  pushes_of _ _ (paired_valid hpg hch) c count explanation rfl rfl rfl rfl rfl hcount

theorem identityDiffs_of (tolerance : ReconciliationTolerance) :
    PairPushes tolerance pg ch [.payloadHashConflict, .modelIdentity, .priceVersion, .aiuRateVersion] (identityDiffs pg ch) := by
  obtain ⟨conflict, hconflict, h1⟩ := pair_pushes_of hpg hch tolerance .payloadHashConflict (some "1")
    "the same event id was observed with different canonical payload hashes" rfl
  obtain ⟨identity, hidentity, h2⟩ := pair_pushes_of hpg hch tolerance .modelIdentity (some "1")
    "model identity differs between official and projected data" rfl
  obtain ⟨price, hprice, h3⟩ := pair_pushes_of hpg hch tolerance .priceVersion (some "1")
    "provider price version differs between official and projected data" rfl
  obtain ⟨rate, hrate, h4⟩ := pair_pushes_of hpg hch tolerance .aiuRateVersion (some "1")
    "AIU rate-card version differs between official and projected data" rfl
  refine ⟨conflict ++ identity ++ price ++ rate, ?_, shows_append _ (shows_append _ (shows_append _ h1 h2) h3) h4⟩
  unfold identityDiffs
  simp only [raised, shownDelta, shownAmount, Condition.type] at hconflict hidentity hprice hrate
  rw [hconflict, hidentity, hprice, hrate]
  rfl

theorem usageDiffs_of (tolerance : ReconciliationTolerance) : PairPushes tolerance pg ch [.usage] (usageDiffs pg ch) := by
  have hany : raised tolerance pg ch .usage = usageMetricKeys.any fun key => (shownDelta pg ch .usage key).isSome := by
    apply Bool.eq_iff_iff.mpr
    simp only [raised, shownDelta, List.any_eq_true, decide_eq_true_eq]
    refine exists_congr fun key => and_congr_right fun hkey => ?_
    by_cases hne : pg.metrics key ≠ ch.metrics key
    · simp [hkey, hne]
    · simp [not_not.mp hne]
  unfold usageDiffs
  rw [usageDelta_of hpg hch]
  have hpushed := pair_pushes_of hpg hch tolerance .usage none
    "normalized counts or mutually-exclusive usage buckets differ" rfl
  rw [hany] at hpushed
  exact hpushed

theorem costDiffs_of (tolerance : ReconciliationTolerance) :
    PairPushes tolerance pg ch [.providerCost] (costDiffs pg ch tolerance) := by
  have hsigned : signedCostDelta (pg.metrics .providerCost) (ch.metrics .providerCost) =
      .ok (toFixed 18 (costDelta pg ch)) := by
    unfold signedCostDelta
    rw [parseCost_of _ hpg.cost, parseCost_of _ hch.cost]
    rfl
  unfold costDiffs
  rw [parseCost_of _ hpg.cost, parseCost_of _ hch.cost]
  show PairPushes tolerance pg ch [.providerCost] (if tolerance.providerCost < |costDelta pg ch| then _ else _)
  by_cases hcost : tolerance.providerCost < |costDelta pg ch|
  · rw [if_pos hcost, hsigned]
    have hpushed := pair_pushes_of hpg hch tolerance .providerCost none
      (if pending pg ch then "official provider-cost delta is queued but not yet reflected in ClickHouse"
        else "official provider-cost ledger total is not reflected in ClickHouse") rfl
    rw [show raised tolerance pg ch .providerCost = true from decide_eq_true hcost] at hpushed
    exact hpushed
  · rw [if_neg hcost]
    refine ⟨[], rfl, ?_⟩
    rw [List.filter_cons_of_neg (by simpa [raised] using hcost)]
    exact .nil

theorem aiuDiffs_of (tolerance : ReconciliationTolerance) :
    PairPushes tolerance pg ch [.aiuMicros] (aiuDiffs pg ch tolerance) := by
  unfold aiuDiffs
  rw [hpg.metric (by decide), hch.metric (by decide)]
  exact pair_pushes_of hpg hch tolerance .aiuMicros none "official AIU ledger total is not reflected in ClickHouse" rfl

theorem correctionDiffs_of (tolerance : ReconciliationTolerance) :
    PairPushes tolerance pg ch [.lateEvents, .adjustments] (correctionDiffs pg ch) := by
  obtain ⟨late, hlate, h1⟩ := pair_pushes_of hpg hch tolerance .lateEvents (some (toString (integer pg.lateEventCount)))
    "events arrived after the aggregate watermark and require deterministic replay" rfl
  obtain ⟨adjusted, hadjusted, h2⟩ := pair_pushes_of hpg hch tolerance .adjustments
    (some (toString (integer pg.unprojectedAdjustmentCount)))
    "append-only official corrections are missing from the projection" rfl
  refine ⟨late ++ adjusted, ?_, shows_append _ h1 h2⟩
  unfold correctionDiffs
  simp only [raised, shownDelta, shownAmount, Condition.type] at hlate hadjusted
  rw [parseMetricInteger_of _ hpg.late, parseMetricInteger_of _ hpg.adjustments]
  simp only [bind, Except.bind, hlate, hadjusted]
  rfl

/-- Of two paired rows exactly the conditions that are raised are shown. -/
theorem pairedDiffs_of (tolerance : ReconciliationTolerance) :
    PairPushes tolerance pg ch pairConditions (pairedDiffs pg ch tolerance) := by
  obtain ⟨identity, hidentity, h1⟩ := identityDiffs_of hpg hch tolerance
  obtain ⟨usage, husage, h2⟩ := usageDiffs_of hpg hch tolerance
  obtain ⟨cost, hcost, h3⟩ := costDiffs_of hpg hch tolerance
  obtain ⟨aiu, haiu, h4⟩ := aiuDiffs_of hpg hch tolerance
  obtain ⟨corrections, hcorrections, h5⟩ := correctionDiffs_of hpg hch tolerance
  refine ⟨identity ++ usage ++ cost ++ aiu ++ corrections, ?_,
    shows_append _ (shows_append _ (shows_append _ (shows_append _ h1 h2) h3) h4) h5⟩
  unfold pairedDiffs
  rw [hidentity, husage, hcost, haiu, hcorrections]
  rfl

end Valid

/-! ## The rows of a key -/

section Keys

variable {pgRows chRows : List ReconciliationSnapshotRow}

def duplicateCount (pgRows chRows : List ReconciliationSnapshotRow) : Nat :=
  (pgRows.length - 1) + (chRows.length - 1) +
    ((pgRows ++ chRows).map fun row => integer (row.duplicateProjectionCount.getD "0")).sum

def allConditions : List Condition := [.duplicates, .pgMissing, .chMissing] ++ pairConditions

def keyRaised (tolerance : ReconciliationTolerance) (pgRows chRows : List ReconciliationSnapshotRow) : Condition → Bool
  | .duplicates => 0 < duplicateCount pgRows chRows
  | .pgMissing => pgRows.isEmpty
  | .chMissing => !pgRows.isEmpty && chRows.isEmpty
  | c => match pgRows, chRows with
    | pg :: _, ch :: _ => raised tolerance pg ch c
    | _, _ => false

def keyShown (pgRows chRows : List ReconciliationSnapshotRow) : Condition → Shown
  | .duplicates => ⟨.duplicateProjection, noDelta, toString (duplicateCount pgRows chRows), none⟩
  | .pgMissing => ⟨.pgMissing, noDelta, toString (firstSides pgRows chRows).count, none⟩
  | .chMissing => ⟨.chMissing, noDelta, toString (firstSides pgRows chRows).count, none⟩
  | c => match pgRows, chRows with
    | pg :: _, ch :: _ => pairShown pg ch c
    | _, _ => ⟨c.type false, noDelta, "0", none⟩

def KeyPushes (tolerance : ReconciliationTolerance) (pgRows chRows : List ReconciliationSnapshotRow) :=
  Pushes (firstSides pgRows chRows) (keyShown pgRows chRows) (keyRaised tolerance pgRows chRows)

theorem duplicates_of (h : ∀ row ∈ pgRows ++ chRows, ValidRow dateParse row) :
    duplicates pgRows chRows = .ok (duplicateCount pgRows chRows) := by
  have hfold (rows : List ReconciliationSnapshotRow) (hrows : ∀ row ∈ rows, ValidRow dateParse row) (start : Nat) :
      rows.foldlM (fun total row => do
        let count ← parseMetricInteger (row.duplicateProjectionCount.getD "0") "duplicateProjectionCount"
        return total + count) start =
      (.ok (start + (rows.map fun row => integer (row.duplicateProjectionCount.getD "0")).sum) : Except TypeError Nat) := by
    induction rows generalizing start with
    | nil => rfl
    | cons row rest ih =>
      rw [List.foldlM_cons, parseMetricInteger_of _ (hrows row (by simp)).duplicates, List.map_cons, List.sum_cons,
        ← Nat.add_assoc]
      exact ih (fun r hr => hrows r (by simp [hr])) _
  exact hfold _ h _

theorem firstSides_valid (h : ∀ row ∈ pgRows ++ chRows, ValidRow dateParse row) :
    (firstSides pgRows chRows).Valid dateParse :=
  ⟨fun row hrow => h row (List.mem_append_left _ (List.mem_of_head? hrow)),
    fun row hrow => h row (List.mem_append_right _ (List.mem_of_head? hrow))⟩

theorem comparedDiffs_of (tolerance : ReconciliationTolerance) (h : ∀ row ∈ pgRows ++ chRows, ValidRow dateParse row) :
    KeyPushes tolerance pgRows chRows ([.pgMissing, .chMissing] ++ pairConditions)
      (comparedDiffs tolerance pgRows chRows) := by
  have hsides := firstSides_valid h
  match pgRows, chRows, h with
  | [], chRows, h =>
    obtain ⟨output, houtput, hshows⟩ := pushes_of (keyShown [] chRows) (keyRaised tolerance [] chRows)
      hsides .pgMissing none "ClickHouse projection has no corresponding PostgreSQL official aggregate" rfl rfl rfl rfl rfl rfl
    exact ⟨output, houtput, hshows⟩
  | pg :: pgRest, [], h =>
    obtain ⟨output, houtput, hshows⟩ := pushes_of (keyShown (pg :: pgRest) [])
      (keyRaised tolerance (pg :: pgRest) []) hsides .chMissing none
      "PostgreSQL official aggregate has not been projected to ClickHouse" rfl rfl rfl rfl rfl rfl
    exact ⟨output, houtput, hshows⟩
  | pg :: pgRest, ch :: chRest, h =>
    obtain ⟨output, houtput, hshows⟩ := pairedDiffs_of (h pg (by simp)) (h ch (by simp)) tolerance
    refine ⟨output, houtput, ?_⟩
    have hmem : ∀ c ∈ pairConditions.filter (raised tolerance pg ch), c ∈ pairConditions :=
      fun c hc => List.mem_of_mem_filter hc
    refine ((List.forall₂_and_left _ _).mpr ⟨hmem, hshows⟩).imp fun c d hd => ?_
    obtain ⟨hc, hd⟩ := hd
    cases c <;> first | exact hd | exact absurd hc (by decide)

/-- Of a key exactly the conditions that are raised are shown. -/
theorem keyDiffs_of (tolerance : ReconciliationTolerance) (h : ∀ row ∈ pgRows ++ chRows, ValidRow dateParse row) :
    KeyPushes tolerance pgRows chRows allConditions (keyDiffs tolerance pgRows chRows) := by
  obtain ⟨duplicate, hduplicate, h1⟩ := pushes_of (keyShown pgRows chRows)
    (keyRaised tolerance pgRows chRows) (firstSides_valid h) .duplicates (some (toString (duplicateCount pgRows chRows)))
    "duplicate physical projection rows or aggregate rows exist for the canonical dimension key" rfl rfl rfl rfl rfl rfl
  obtain ⟨compared, hcompared, h2⟩ := comparedDiffs_of tolerance h
  refine ⟨duplicate ++ compared, ?_, shows_append [.duplicates] h1 h2⟩
  unfold keyDiffs
  rw [duplicates_of h]
  simp only [bind, Except.bind]
  simp only [keyRaised, keyShown] at hduplicate
  rw [hduplicate, hcompared]
  rfl

end Keys

end Rows

end TokenPilot.Reconciliation
