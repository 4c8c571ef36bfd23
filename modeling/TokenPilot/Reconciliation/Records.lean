/-
  TokenPilot.Reconciliation.Records — differences as rows of the database and as CSV
  (prisma-repository.ts of the worker, run-plan.ts of the engine).

  A JSON column holds the value that was written, `none` is the SQL null; `JSON.parse` of
  `JSON.stringify` gives records of texts back as they were. A value that is read is cast to a
  record: where it lacks a field of it there is no such record. The keys of `deltaValues` are
  written in one order, that of the metrics.

  `stored_iff`: a difference that `reconcileSnapshots` gives is read back as it was exactly
  when its amount does not end with a zero, since the numeric column is read with `toFixed()`;
  and an export has the fields of its differences, whatever texts these hold.
-/

import TokenPilot.Library.Csv
import TokenPilot.Reconciliation.Determined

namespace TokenPilot.Reconciliation

open TokenPilot.Library

/-! ## Texts of the enumerations -/

def ReconciliationDiffType.text : ReconciliationDiffType → String
  | .chMissing => "CH_MISSING"
  | .pgMissing => "PG_MISSING"
  | .duplicateProjection => "DUPLICATE_PROJECTION"
  | .payloadHashConflict => "PAYLOAD_HASH_CONFLICT"
  | .usageNormalizationMismatch => "USAGE_NORMALIZATION_MISMATCH"
  | .modelIdentityMismatch => "MODEL_IDENTITY_MISMATCH"
  | .priceVersionMismatch => "PRICE_VERSION_MISMATCH"
  | .aiuRateVersionMismatch => "AIU_RATE_VERSION_MISMATCH"
  | .provisionalOfficialDeltaPending => "PROVISIONAL_OFFICIAL_DELTA_PENDING"
  | .ledgerProjectionMissing => "LEDGER_PROJECTION_MISSING"
  | .lateEvent => "LATE_EVENT"
  | .adjustmentNotProjected => "ADJUSTMENT_NOT_PROJECTED"
  | .watermarkStalled => "WATERMARK_STALLED"

def diffTypes : List ReconciliationDiffType :=
  [.chMissing, .pgMissing, .duplicateProjection, .payloadHashConflict, .usageNormalizationMismatch, .modelIdentityMismatch,
    .priceVersionMismatch, .aiuRateVersionMismatch, .provisionalOfficialDeltaPending, .ledgerProjectionMissing, .lateEvent,
    .adjustmentNotProjected, .watermarkStalled]

def ReconciliationSeverity.text : ReconciliationSeverity → String
  | .info => "info"
  | .warning => "warning"
  | .error => "error"
  | .critical => "critical"

def severities : List ReconciliationSeverity := [.info, .warning, .error, .critical]

/-- `toUpperCase()` of ASCII -/
def upperCase (s : String) : String := String.ofList (s.toList.map Char.toUpper)

/-- `toLowerCase()` of ASCII -/
def lowerCase (s : String) : String := String.ofList (s.toList.map Char.toLower)

def metricKeys : List MetricKey :=
  [.eventCount, .inputTokens, .cachedInputTokens, .outputTokens, .providerCost, .aiuMicros, .unpricedCount, .unratedCount]

/-- The key of a metric in a stored record. -/
def MetricKey.stored : MetricKey → String
  | .eventCount => "event_count"
  | .inputTokens => "input_tokens"
  | .cachedInputTokens => "cached_input_tokens"
  | .outputTokens => "output_tokens"
  | .providerCost => "provider_cost"
  | .aiuMicros => "aiu_micros"
  | .unpricedCount => "unpriced_count"
  | .unratedCount => "unrated_count"

/-! ## Stored values -/

abbrev StoredJson := Json String Empty

def field (value : StoredJson) (key : String) : Option StoredJson :=
  match value with
  | .obj fields => fields.lookup key
  | _ => none

def asText : StoredJson → Option String
  | .str s => some s
  | _ => none

def asNullableText : StoredJson → Option (Option String)
  | .str s => some (some s)
  | .null => some none
  | _ => none

def asBucketSize (value : StoredJson) : Option BucketSize :=
  (asText value).bind fun text => [BucketSize.hour, BucketSize.day].find? fun size => size.text = text

def asTexts : StoredJson → Option (List String)
  | .arr items => items.mapM asText
  | _ => none

def persistedDimensions (value : ReconciliationDimensions) : StoredJson :=
  .obj [("application_id", .str value.applicationId), ("granularity", .str value.bucketSize.text),
    ("time_bucket", .str value.bucketStart), ("virtual_model", textOrNull value.virtualModel),
    ("model_id", textOrNull value.modelId), ("request_model", textOrNull value.requestModel),
    ("provider", textOrNull value.provider), ("user_id", textOrNull value.userId)]

def restoredDimensions (value : StoredJson) : Option ReconciliationDimensions := do
  let applicationId ← (field value "application_id").bind asText
  let bucketSize ← (field value "granularity").bind asBucketSize
  let bucketStart ← (field value "time_bucket").bind asText
  let virtualModel ← (field value "virtual_model").bind asNullableText
  let modelId ← (field value "model_id").bind asNullableText
  let requestModel ← (field value "request_model").bind asNullableText
  let provider ← (field value "provider").bind asNullableText
  let userId ← (field value "user_id").bind asNullableText
  return { applicationId, bucketStart, bucketSize, virtualModel, modelId, requestModel, provider, userId }

def persistedMetrics (value : PartialMetrics) : StoredJson :=
  .obj (metricKeys.filterMap fun key => (value key).map fun text => (key.stored, .str text))

def restoredMetrics (value : StoredJson) : PartialMetrics := fun key => (field value key.stored).bind asText

def allMetrics (metrics : ReconciliationMetrics) : PartialMetrics := fun key => some (metrics key)

/-- `as ReconciliationMetrics` -/
def asMetrics (metrics : PartialMetrics) : Option ReconciliationMetrics :=
  if metricKeys.all fun key => (metrics key).isSome then some fun key => (metrics key).getD "" else none

/-! ## Rows -/

structure PersistedDiff where
  diffType : String
  severity : String
  dimensionsJson : Option StoredJson
  pgValuesJson : Option StoredJson
  chValuesJson : Option StoredJson
  deltaValuesJson : StoredJson
  sampleEventIdsJson : StoredJson
  differenceCount : Nat
  amount : Option Decimal
  explanation : String

/-- `new Prisma.Decimal(text)` of a text without exponent -/
def newDecimal (text : String) : Decimal :=
  let unsigned := text.toList.dropWhile (· = '-')
  let whole := unsigned.takeWhile (· ≠ '.')
  let fraction := (unsigned.dropWhile (· ≠ '.')).tail
  let coefficient : Int := Nat.ofDigitChars 10 (whole ++ fraction) 0
  Decimal.ofScaled (if text.toList.head? = some '-' then -coefficient else coefficient) (-(fraction.length : Int))

/-- `toFixed()`: all the decimals there are -/
def plainText (d : Decimal) : String :=
  String.ofList (Numeral.signed d (Numeral.fixed (Numeral.digits d) (Numeral.place d)))

def toPersistedDiff (diff : ReconciliationDiff) : Except TypeError PersistedDiff :=
  if integerText diff.count.toList then
    .ok {
      diffType := diff.type.text
      severity := upperCase diff.severity.text
      dimensionsJson := diff.dimensions.map persistedDimensions
      pgValuesJson := diff.pgValues.map fun metrics => persistedMetrics (allMetrics metrics)
      chValuesJson := diff.chValues.map fun metrics => persistedMetrics (allMetrics metrics)
      deltaValuesJson := persistedMetrics diff.deltaValues
      sampleEventIdsJson := .arr (diff.sampleEventIds.map .str)
      differenceCount := integer diff.count
      amount := diff.amount.map newDecimal
      explanation := diff.explanation }
  else .error ⟨"reconciliation diff count must be a non-negative integer string"⟩

/-- `null`, or what is read of the value. -/
def readNullable {α : Type} (read : StoredJson → Option α) : Option StoredJson → Option (Option α)
  | none => some none
  | some value => (read value).map some

def parseDiff (row : PersistedDiff) : Option ReconciliationDiff := do
  let type ← diffTypes.find? fun type => type.text = row.diffType
  let severity ← severities.find? fun severity => severity.text = lowerCase row.severity
  let dimensions ← readNullable restoredDimensions row.dimensionsJson
  let pgValues ← readNullable (fun value => asMetrics (restoredMetrics value)) row.pgValuesJson
  let chValues ← readNullable (fun value => asMetrics (restoredMetrics value)) row.chValuesJson
  let sampleEventIds ← asTexts row.sampleEventIdsJson
  return {
    type, severity, dimensions, pgValues, chValues, deltaValues := restoredMetrics row.deltaValuesJson, sampleEventIds,
    count := toString row.differenceCount, amount := row.amount.map plainText, explanation := row.explanation }

/-! ## CSV -/

inductive Cell where
  | text (value : Option String)
  | json (value : StoredJson)

def Cell.shown : Cell → List Char
  | .text value => (value.getD "").toList
  | .json value => Json.render Empty.elim value

/-- `csv(value)`: quoted when it holds a comma, a quote or a line break -/
def csv (value : Cell) : List Char := Csv.quoted value.shown

def csvHeader : List Cell :=
  ["type", "severity", "bucket_start", "bucket_size", "count", "amount", "delta_values", "sample_event_ids",
    "explanation"].map fun name => .text (some name)

def csvRow (entry : ReconciliationDiff) : List Cell :=
  [.text (some entry.type.text), .text (some entry.severity.text), .text (entry.dimensions.map (·.bucketStart)),
    .text (entry.dimensions.map (·.bucketSize.text)), .text (some entry.count), .text entry.amount,
    .json (.obj (metricKeys.filterMap fun key => (entry.deltaValues key).map fun text => (key.name, .str text))),
    .json (.arr (entry.sampleEventIds.map .str)), .text (some entry.explanation)]

def exportReconciliationDiffsCsv (diffs : List ReconciliationDiff) : String :=
  String.ofList (['\n'].intercalate ((csvHeader :: diffs.map csvRow).map fun row => [','].intercalate (row.map csv)) ++ ['\n'])

/-! ## Parts that are read back -/

theorem find_type (type : ReconciliationDiffType) : (diffTypes.find? fun t => t.text = type.text) = some type := by
  cases type <;> decide

theorem find_severity (severity : ReconciliationSeverity) :
    (severities.find? fun s => s.text = lowerCase (upperCase severity.text)) = some severity := by
  cases severity <;> decide

theorem asNullableText_textOrNull (value : Option String) : asNullableText (textOrNull value) = some value := by
  cases value <;> rfl

theorem asBucketSize_text (size : BucketSize) : asBucketSize (.str size.text) = some size := by
  cases size <;> decide

theorem restoredDimensions_persisted (value : ReconciliationDimensions) :
    restoredDimensions (persistedDimensions value) = some value := by
  have happlication : field (persistedDimensions value) "application_id" = some (.str value.applicationId) := rfl
  have hgranularity : field (persistedDimensions value) "granularity" = some (.str value.bucketSize.text) := rfl
  have hbucket : field (persistedDimensions value) "time_bucket" = some (.str value.bucketStart) := rfl
  have hvirtual : field (persistedDimensions value) "virtual_model" = some (textOrNull value.virtualModel) := rfl
  have hmodel : field (persistedDimensions value) "model_id" = some (textOrNull value.modelId) := rfl
  have hrequest : field (persistedDimensions value) "request_model" = some (textOrNull value.requestModel) := rfl
  have hprovider : field (persistedDimensions value) "provider" = some (textOrNull value.provider) := rfl
  have huser : field (persistedDimensions value) "user_id" = some (textOrNull value.userId) := rfl
  unfold restoredDimensions
  simp only [happlication, hgranularity, hbucket, hvirtual, hmodel, hrequest, hprovider, huser, Option.bind_some,
    asBucketSize_text, asNullableText_textOrNull, asText, Option.bind_eq_bind]
  rfl

theorem stored_injective : Function.Injective MetricKey.stored := by
  intro a b h
  revert h
  cases a <;> cases b <;> decide

/-- A record of some of the metrics has exactly these. -/
theorem restoredMetrics_persisted (value : PartialMetrics) : restoredMetrics (persistedMetrics value) = value := by
  have hlookup (keys : List MetricKey) (key : MetricKey) :
      (keys.filterMap fun key => (value key).map fun text => (key.stored, (.str text : StoredJson))).lookup key.stored =
        if key ∈ keys then (value key).map .str else none := by
    induction keys with
    | nil => rfl
    | cons first rest ih =>
      cases hvalue : value first with
      | none =>
        rw [List.filterMap_cons_none (by rw [hvalue]; rfl), ih]
        by_cases hkey : key = first
        · simp [hkey, hvalue]
        · simp [hkey]
      | some text =>
        rw [List.filterMap_cons_some (by rw [hvalue]; rfl), List.lookup_cons]
        by_cases hkey : key = first
        · simp [hkey, hvalue]
        · have hne : (key.stored == first.stored) = false := beq_eq_false_iff_ne.mpr fun h => hkey (stored_injective h)
          simp [hne, ih, hkey]
  funext key
  have hmem : key ∈ metricKeys := by cases key <;> decide
  show ((metricKeys.filterMap fun key => (value key).map fun text =>
    (key.stored, (.str text : StoredJson))).lookup key.stored).bind asText = value key
  rw [hlookup, if_pos hmem]
  cases value key <;> rfl

theorem asMetrics_allMetrics (metrics : ReconciliationMetrics) : asMetrics (allMetrics metrics) = some metrics := by
  unfold asMetrics
  rw [if_pos (by simp [allMetrics])]
  rfl

theorem asTexts_texts (texts : List String) : asTexts (.arr (texts.map .str)) = some texts := by
  show (texts.map .str).mapM asText = some texts
  induction texts with
  | nil => rfl
  | cons text rest ih => rw [List.map_cons, List.mapM_cons, ih]; rfl

theorem readNullable_map {α : Type} {write : α → StoredJson} {read : StoredJson → Option α}
    (h : ∀ a, read (write a) = some a) (value : Option α) : readNullable read (value.map write) = some value := by
  cases value with
  | none => rfl
  | some a => exact congrArg (Option.map some) (h a)

/-! ## Amounts -/

/-- The decimals a text shows. -/
def decimals (t : List Char) : Nat := (t.dropWhile (· ≠ '.')).tail.length

theorem decimals_fixed {s : List Char} (h : Numeral.Plain s) (n : Int) :
    decimals (Numeral.fixed s n) = (s.length - n).toNat := by
  unfold decimals Numeral.fixed
  split_ifs with hwhole hpoint
  · have hplain := h.append (Numeral.plain_zeros (n - s.length).toNat)
    rw [Numeral.dropWhile_all (hplain.not_mem (by decide))]
    simp
    omega
  · have htake : Numeral.Plain (s.take n.toNat) := fun c hc => h c (List.mem_of_mem_take hc)
    rw [Numeral.dropWhile_ne _ (htake.not_mem (by decide)), List.tail_cons, List.length_drop]
    omega
  · have hzero : '.' ∉ ['0'] := by decide
    show ((['0'] ++ '.' :: (List.replicate (-n).toNat '0' ++ s)).dropWhile (· ≠ '.')).tail.length = _
    rw [Numeral.dropWhile_ne _ hzero, List.tail_cons, List.length_append, List.length_replicate]
    omega

theorem decimals_signed (d : Decimal) {t : List Char} : decimals (Numeral.signed d t) = decimals t := by
  unfold Numeral.signed
  split <;> rfl

/-- What is read of a text that starts with a digit has its value. -/
theorem toRat_newDecimal {t : String} (hfirst : ∃ c rest, t.toList = c :: rest ∧ c.isDigit = true)
    (hplain : 'e' ∉ t.toList) : (newDecimal t).toRat = Numeral.value t.toList := by
  obtain ⟨c, rest, ht, hc⟩ := hfirst
  have hsign : c ≠ '-' := by
    rintro rfl
    cases hc
  have hunsigned : t.toList.dropWhile (· = '-') = t.toList := by
    rw [ht, List.dropWhile_cons_of_neg (by simpa using hsign)]
  have hhead : ¬ t.toList.head? = some '-' := by
    rw [ht]
    simpa using hsign
  unfold newDecimal
  rw [Decimal.toRat_ofScaled, Numeral.value_unsigned ⟨c, rest, ht, hc⟩, Numeral.unsigned_plain hplain]
  simp only [hunsigned, if_neg hhead]
  rfl

/-- The digits of an amount, of which the last 18 are decimals. -/
def amountDigits (x : ℚ) : List Char := Nat.toDigits 10 (halfUp (|x| * 10 ^ 18)).natAbs

theorem toFixed_abs (x : ℚ) : (toFixed 18 |x|).toList = Numeral.fixed (amountDigits x) ((amountDigits x).length - 18) := by
  unfold toFixed
  rw [String.toList_ofList, if_neg (not_lt.mpr (abs_nonneg x))]
  rfl

theorem getLast?_toDigits (n : Nat) : (Nat.toDigits 10 n).getLast? = some (Nat.digitChar (n % 10)) := by
  by_cases h : n < 10
  · rw [Nat.toDigits_of_lt_base h, Nat.mod_eq_of_lt h]
    rfl
  · rw [Nat.toDigits_of_base_le (by norm_num) (not_lt.mp h), List.getLast?_concat]

theorem digitChar_zero_iff {n : Nat} (h : n < 10) : Nat.digitChar n = '0' ↔ n = 0 := by
  have hall : ∀ n < 10, Nat.digitChar n = '0' ↔ n = 0 := by decide
  exact hall n h

theorem getLast?_fixed {s : List Char} {n : Int} (hs : s ≠ []) (hn : n < s.length) :
    (Numeral.fixed s n).getLast? = s.getLast? := by
  unfold Numeral.fixed
  split_ifs with hwhole hpoint
  · omega
  · have hdrop : s.drop n.toNat ≠ [] := by
      rw [Ne, List.drop_eq_nil_iff]
      omega
    rw [List.getLast?_append_of_ne_nil _ (List.cons_ne_nil _ _), List.getLast?_cons_of_ne_nil hdrop, List.getLast?_drop]
    rw [if_neg (by omega)]
  · exact List.getLast?_append_of_ne_nil _ hs

/-- An amount is read back as the text it was exactly when its last decimal is not a zero. -/
theorem plainText_newDecimal (x : ℚ) :
    plainText (newDecimal (toFixed 18 |x|)) = toFixed 18 |x| ↔ (toFixed 18 |x|).toList.getLast? ≠ some '0' := by
  have hplain : Numeral.Plain (amountDigits x) := Numeral.plain_toDigits _
  have hne : amountDigits x ≠ [] := Nat.toDigits_ne_nil
  have hlast : (toFixed 18 |x|).toList.getLast? ≠ some '0' ↔ (halfUp (|x| * 10 ^ 18)).natAbs % 10 ≠ 0 := by
    rw [toFixed_abs, getLast?_fixed hne (by omega), amountDigits, getLast?_toDigits, Ne, Option.some.injEq,
      digitChar_zero_iff (Nat.mod_lt _ (by norm_num))]
  have hvalue : (newDecimal (toFixed 18 |x|)).toRat = ((halfUp (|x| * 10 ^ 18)).natAbs : ℚ) * 10 ^ (-18 : Int) := by
    have hfirst := Numeral.fixed_first hplain hne ((amountDigits x).length - 18)
    rw [toRat_newDecimal (by rw [toFixed_abs]; exact hfirst)
      (by rw [toFixed_abs]; exact Numeral.fixed_no_exponent hplain _), toFixed_abs, Numeral.value_unsigned hfirst,
      Numeral.unsigned_fixed hplain, amountDigits, Nat.ofDigitChars_ten_toDigits]
    congr 2
    omega
  rw [hlast]
  constructor
  · intro h hzero
    have hdecimals : (-(newDecimal (toFixed 18 |x|)).exponent).toNat = 18 := by
      have hcount := congrArg (fun t : String => decimals t.toList) h
      simp only [plainText, String.toList_ofList, decimals_signed, decimals_fixed (Numeral.plain_digits _), toFixed_abs,
        decimals_fixed hplain, Numeral.place] at hcount
      omega
    have hexponent : (newDecimal (toFixed 18 |x|)).exponent = -18 := by omega
    have hcoefficient : (newDecimal (toFixed 18 |x|)).coefficient = ((halfUp (|x| * 10 ^ 18)).natAbs : Int) := by
      unfold Decimal.toRat at hvalue
      rw [hexponent, ← Int.cast_natCast] at hvalue
      exact Int.cast_injective (mul_right_cancel₀ (ten_zpow_pos (-18)).ne' hvalue)
    rcases (newDecimal (toFixed 18 |x|)).normal with ⟨-, hnone⟩ | hnormal
    · omega
    · omega
  · intro hnonzero
    have hdecimal : newDecimal (toFixed 18 |x|) =
        ⟨(halfUp (|x| * 10 ^ 18)).natAbs, -18, .inr (by omega)⟩ := by
      apply Decimal.toRat_injective
      rw [hvalue]
      simp [Decimal.toRat]
    apply String.toList_injective
    rw [hdecimal, toFixed_abs, plainText, String.toList_ofList, Numeral.signed, if_neg (by simp)]
    congr 1

/-! ## Differences that are given -/

/-- What every difference has that the engine gives. -/
structure Storable (d : ReconciliationDiff) : Prop where
  count : integerText d.count.toList = true
  amount : ∀ text ∈ d.amount, ∃ x : ℚ, text = toFixed 18 |x|

theorem integerText_toString (n : Nat) : integerText (toString n).toList = true := by
  rw [toList_toString]
  by_cases hn : n = 0
  · subst hn
    rfl
  · have hplain := Numeral.plain_toDigits n
    have hhead := Numeral.head?_toDigits (Nat.pos_of_ne_zero hn)
    obtain ⟨c, rest, hdigits⟩ := List.exists_cons_of_ne_nil (Nat.toDigits_ne_nil (n := n) (b := 10))
    rw [hdigits] at hplain hhead ⊢
    have hzero : c ≠ '0' := by simpa using hhead
    have hrest : rest.all Char.isDigit = true := List.all_eq_true.mpr fun d hd => hplain d (by simp [hd])
    simp [integerText, hplain c (by simp), hzero, hrest]

def AllStorable (found : Except TypeError (List ReconciliationDiff)) : Prop :=
  ∀ output, found = .ok output → ∀ d ∈ output, Storable d

theorem storable_diff {type : ReconciliationDiffType} {dimensions : Option ReconciliationDimensions} {sides : Sides}
    {deltaValues : PartialMetrics} {count amount : Option String} {explanation : String}
    (hcount : ∀ text ∈ count, integerText text.toList = true) (hamount : ∀ text ∈ amount, ∃ x : ℚ, text = toFixed 18 |x|)
    {d : ReconciliationDiff} (hd : diff type dimensions sides deltaValues count amount explanation = .ok d) : Storable d := by
  unfold diff at hd
  cases count with
  | some text =>
    cases hd
    exact ⟨hcount text rfl, hamount⟩
  | none =>
    obtain ⟨shown, hshown, hd⟩ := bind_ok hd
    cases hd
    obtain ⟨left, -, hshown⟩ := bind_ok hshown
    obtain ⟨right, -, hshown⟩ := bind_ok hshown
    cases hshown
    exact ⟨integerText_toString _, hamount⟩

theorem allStorable_pushed {violated : Bool} {type : ReconciliationDiffType} {dimensions : Option ReconciliationDimensions}
    {sides : Sides} {deltaValues : PartialMetrics} {count amount : Option String} {explanation : String}
    (hcount : ∀ text ∈ count, integerText text.toList = true)
    (hamount : ∀ text ∈ amount, ∃ x : ℚ, text = toFixed 18 |x|) :
    AllStorable (pushed violated (diff type dimensions sides deltaValues count amount explanation)) := by
  intro output houtput d hd
  cases violated with
  | false =>
    cases houtput
    cases hd
  | true =>
    rw [pushed_true] at houtput
    cases hdiff : diff type dimensions sides deltaValues count amount explanation with
    | error e =>
      rw [hdiff] at houtput
      cases houtput
    | ok found =>
      rw [hdiff] at houtput
      cases houtput
      rw [List.mem_singleton.mp hd]
      exact storable_diff hcount hamount hdiff

theorem of_mem_none {P : String → Prop} : ∀ text ∈ (none : Option String), P text := by simp

theorem integerText_one : ∀ text ∈ some "1", integerText text.toList = true := by decide

theorem integerText_some (n : Nat) : ∀ text ∈ some (toString n), integerText text.toList = true := by
  intro text htext
  cases htext
  exact integerText_toString n

theorem identityDiffs_storable (pg ch : ReconciliationSnapshotRow) : AllStorable (identityDiffs pg ch) := by
  intro output houtput d hd
  obtain ⟨conflict, hconflict, houtput⟩ := bind_ok houtput
  obtain ⟨identity, hidentity, houtput⟩ := bind_ok houtput
  obtain ⟨price, hprice, houtput⟩ := bind_ok houtput
  obtain ⟨rate, hrate, houtput⟩ := bind_ok houtput
  cases houtput
  simp only [List.mem_append] at hd
  rcases hd with ((hd | hd) | hd) | hd
  · exact allStorable_pushed integerText_one of_mem_none _ hconflict d hd
  · exact allStorable_pushed integerText_one of_mem_none _ hidentity d hd
  · exact allStorable_pushed integerText_one of_mem_none _ hprice d hd
  · exact allStorable_pushed integerText_one of_mem_none _ hrate d hd

theorem usageDiffs_storable (pg ch : ReconciliationSnapshotRow) : AllStorable (usageDiffs pg ch) := by
  intro output houtput d hd
  obtain ⟨delta, -, houtput⟩ := bind_ok houtput
  exact allStorable_pushed of_mem_none of_mem_none _ houtput d hd

theorem costDiffs_storable (pg ch : ReconciliationSnapshotRow) (tolerance : ReconciliationTolerance) :
    AllStorable (costDiffs pg ch tolerance) := by
  intro output houtput d hd
  obtain ⟨pgCost, -, houtput⟩ := bind_ok houtput
  obtain ⟨chCost, -, houtput⟩ := bind_ok houtput
  dsimp only at houtput
  split at houtput
  · obtain ⟨signed, -, houtput⟩ := bind_ok houtput
    refine allStorable_pushed of_mem_none ?_ _ houtput d hd
    intro text htext
    cases htext
    exact ⟨_, rfl⟩
  · cases houtput
    cases hd

theorem aiuDiffs_storable (pg ch : ReconciliationSnapshotRow) (tolerance : ReconciliationTolerance) :
    AllStorable (aiuDiffs pg ch tolerance) := by
  intro output houtput d hd
  obtain ⟨pgAiu, -, houtput⟩ := bind_ok houtput
  obtain ⟨chAiu, -, houtput⟩ := bind_ok houtput
  exact allStorable_pushed of_mem_none of_mem_none _ houtput d hd

theorem correctionDiffs_storable (pg ch : ReconciliationSnapshotRow) : AllStorable (correctionDiffs pg ch) := by
  intro output houtput d hd
  obtain ⟨lateCount, -, houtput⟩ := bind_ok houtput
  obtain ⟨late, hlate, houtput⟩ := bind_ok houtput
  obtain ⟨adjustments, -, houtput⟩ := bind_ok houtput
  obtain ⟨unprojected, hunprojected, houtput⟩ := bind_ok houtput
  cases houtput
  rcases List.mem_append.mp hd with hd | hd
  · exact allStorable_pushed (integerText_some _) of_mem_none _ hlate d hd
  · exact allStorable_pushed (integerText_some _) of_mem_none _ hunprojected d hd

theorem pairedDiffs_storable (pg ch : ReconciliationSnapshotRow) (tolerance : ReconciliationTolerance) :
    AllStorable (pairedDiffs pg ch tolerance) := by
  intro output houtput d hd
  obtain ⟨identity, hidentity, houtput⟩ := bind_ok houtput
  obtain ⟨usage, husage, houtput⟩ := bind_ok houtput
  obtain ⟨cost, hcost, houtput⟩ := bind_ok houtput
  obtain ⟨aiu, haiu, houtput⟩ := bind_ok houtput
  obtain ⟨corrections, hcorrections, houtput⟩ := bind_ok houtput
  cases houtput
  simp only [List.mem_append] at hd
  rcases hd with (((hd | hd) | hd) | hd) | hd
  · exact identityDiffs_storable pg ch _ hidentity d hd
  · exact usageDiffs_storable pg ch _ husage d hd
  · exact costDiffs_storable pg ch tolerance _ hcost d hd
  · exact aiuDiffs_storable pg ch tolerance _ haiu d hd
  · exact correctionDiffs_storable pg ch _ hcorrections d hd

theorem keyDiffs_storable (tolerance : ReconciliationTolerance) (pgRows chRows : List ReconciliationSnapshotRow) :
    AllStorable (keyDiffs tolerance pgRows chRows) := by
  intro output houtput d hd
  obtain ⟨count, -, houtput⟩ := bind_ok houtput
  obtain ⟨duplicate, hduplicate, houtput⟩ := bind_ok houtput
  obtain ⟨compared, hcompared, houtput⟩ := bind_ok houtput
  cases houtput
  rcases List.mem_append.mp hd with hd | hd
  · exact allStorable_pushed (integerText_some _) of_mem_none _ hduplicate d hd
  · match pgRows, chRows with
    | [], _ => exact allStorable_pushed of_mem_none of_mem_none _ hcompared d hd
    | _ :: _, [] => exact allStorable_pushed of_mem_none of_mem_none _ hcompared d hd
    | pg :: _, ch :: _ => exact pairedDiffs_storable pg ch tolerance _ hcompared d hd

theorem watermarkDiffs_storable (dateParse : String → Option Int) (tolerance : ReconciliationTolerance)
    (watermark : Option Watermark) : AllStorable (watermarkDiffs dateParse tolerance watermark) := by
  intro output houtput d hd
  cases watermark with
  | none =>
    cases houtput
    cases hd
  | some times =>
    unfold watermarkDiffs at houtput
    dsimp only at houtput
    split at houtput
    · exact allStorable_pushed integerText_one of_mem_none _ houtput d hd
    · cases houtput

theorem reconcileSnapshots_storable (dateParse : String → Option Int) (pgRows chRows : List ReconciliationSnapshotRow)
    (tolerance : ReconciliationTolerance) (watermark : Option Watermark) :
    AllStorable (reconcileSnapshots dateParse pgRows chRows tolerance watermark) := by
  intro output houtput d hd
  obtain ⟨pg, -, houtput⟩ := bind_ok houtput
  obtain ⟨ch, -, houtput⟩ := bind_ok houtput
  obtain ⟨lists, hlists, houtput⟩ := bind_ok houtput
  obtain ⟨stalled, hstalled, houtput⟩ := bind_ok houtput
  cases houtput
  rcases List.mem_append.mp hd with hd | hd
  · obtain ⟨list, hlist, hd⟩ := List.mem_flatten.mp hd
    obtain ⟨key, -, hkey⟩ := mapM_mem hlists hlist
    exact keyDiffs_storable tolerance _ _ _ hkey d hd
  · exact watermarkDiffs_storable dateParse tolerance watermark _ hstalled d hd

/-! ## The round trips -/

theorem parseDiff_persisted {d : ReconciliationDiff} (h : integerText d.count.toList = true) :
    ∃ row, toPersistedDiff d = .ok row ∧
      parseDiff row = some { d with amount := d.amount.map fun text => plainText (newDecimal text) } := by
  refine ⟨_, if_pos h, ?_⟩
  have hmetrics (value : Option ReconciliationMetrics) :
      readNullable (fun value => asMetrics (restoredMetrics value))
        (value.map fun metrics => persistedMetrics (allMetrics metrics)) = some value :=
    readNullable_map (fun metrics => by rw [restoredMetrics_persisted, asMetrics_allMetrics]) value
  unfold parseDiff
  simp only [find_type, find_severity, readNullable_map restoredDimensions_persisted, hmetrics, asTexts_texts,
    Option.bind_eq_bind, Option.bind_some, restoredMetrics_persisted, toString_integer h, Option.map_map]
  rfl

theorem persisted_iff {d : ReconciliationDiff} (h : Storable d) :
    (∃ row, toPersistedDiff d = .ok row ∧ parseDiff row = some d) ↔ ∀ text ∈ d.amount, text.toList.getLast? ≠ some '0' := by
  obtain ⟨row, hrow, hparse⟩ := parseDiff_persisted h.count
  have hread : (∃ row, toPersistedDiff d = .ok row ∧ parseDiff row = some d) ↔
      d.amount.map (fun text => plainText (newDecimal text)) = d.amount := by
    constructor
    · rintro ⟨other, hother, hsame⟩
      cases hrow.symm.trans hother
      exact congrArg ReconciliationDiff.amount (Option.some.inj (hparse.symm.trans hsame))
    · intro hamount
      exact ⟨row, hrow, by rw [hparse, hamount]⟩
  rw [hread]
  cases hamount : d.amount with
  | none => simp
  | some text =>
    obtain ⟨x, rfl⟩ := h.amount text hamount
    simp [plainText_newDecimal]

theorem decode_export (diffs : List ReconciliationDiff) :
    Csv.decode (exportReconciliationDiffsCsv diffs).toList =
      some ((csvHeader :: diffs.map csvRow).map fun row => row.map Cell.shown) := by
  have hdocument : (exportReconciliationDiffsCsv diffs).toList =
      Csv.document ((csvHeader :: diffs.map csvRow).map fun row => row.map Cell.shown) := by
    have hline : (Csv.line ∘ fun row => row.map Cell.shown) = fun row : List Cell => [','].intercalate (row.map csv) := by
      funext row
      rw [Function.comp_apply, Csv.line, List.map_map]
      rfl
    rw [exportReconciliationDiffsCsv, String.toList_ofList, Csv.document, List.map_map, hline]
  rw [hdocument]
  apply Csv.decode_document (by simp)
  intro row hrow
  obtain ⟨cells, hcells, rfl⟩ := List.mem_map.mp hrow
  rcases List.mem_cons.mp hcells with rfl | hcells
  · simp [csvHeader]
  · obtain ⟨entry, -, rfl⟩ := List.mem_map.mp hcells
    simp [csvRow]

/-- A difference of a run is read back as it was exactly when its amount is not cut short, and
    an export is its fields. -/
theorem stored_iff {dateParse : String → Option Int} {pgRows chRows : List ReconciliationSnapshotRow}
    {tolerance : ReconciliationTolerance} {watermark : Option Watermark} {output : List ReconciliationDiff}
    (h : reconcileSnapshots dateParse pgRows chRows tolerance watermark = .ok output) :
    (∀ d ∈ output, (∃ row, toPersistedDiff d = .ok row ∧ parseDiff row = some d) ↔
      ∀ text ∈ d.amount, text.toList.getLast? ≠ some '0') ∧
    ∀ diffs : List ReconciliationDiff, Csv.decode (exportReconciliationDiffsCsv diffs).toList =
      some ((csvHeader :: diffs.map csvRow).map fun row => row.map Cell.shown) :=
  ⟨fun d hd => persisted_iff (reconcileSnapshots_storable dateParse pgRows chRows tolerance watermark output h d hd),
    decode_export⟩

theorem sample_run : ∃ output,
    reconcileSnapshots (fun _ => some 0) [sampleRow "2.5"] [sampleRow "1"] sampleTolerance none = .ok output := by
  refine ⟨_, reconcileSnapshots_of sampleTolerance (fun row hrow => ?_) (by simp)⟩
  rcases List.mem_pair.mp hrow with rfl | rfl
  · exact sampleRow_valid (by decide)
  · exact sampleRow_valid (by decide)

theorem sample_run_stored : ∃ output,
    reconcileSnapshots (fun _ => some 0) [sampleRow "2.5"] [sampleRow "1"] sampleTolerance none = .ok output ∧
      ∀ d ∈ output, (∃ row, toPersistedDiff d = .ok row ∧ parseDiff row = some d) ↔
        ∀ text ∈ d.amount, text.toList.getLast? ≠ some '0' := by
  obtain ⟨output, houtput⟩ := sample_run
  exact ⟨output, houtput, (stored_iff houtput).1⟩

theorem sample_amounts :
    (reconcileSnapshots (fun _ => some 0) [sampleRow "2.5"] [sampleRow "1"] sampleTolerance none).map
      (fun output => output.map fun d => d.amount) = .ok [some "1.500000000000000000"] := by
  decide +kernel

/-- The amount "1.500000000000000000" is read back as "1.5". -/
theorem zeros_cut : ¬ ∀ output,
    reconcileSnapshots (fun _ => some 0) [sampleRow "2.5"] [sampleRow "1"] sampleTolerance none = .ok output →
      ∀ d ∈ output, ∃ row, toPersistedDiff d = .ok row ∧ parseDiff row = some d := by
  intro hall
  obtain ⟨output, houtput⟩ := sample_run
  have hamounts : output.map (fun d => d.amount) = [some "1.500000000000000000"] := by
    have h := sample_amounts
    rw [houtput] at h
    exact Except.ok.inj h
  obtain ⟨d, hd, hamount⟩ := List.mem_map.mp (hamounts ▸ List.mem_singleton_self _)
  have hstorable := reconcileSnapshots_storable _ _ _ _ _ output houtput d hd
  exact (persisted_iff hstorable).mp (hall output houtput d hd) _ hamount (by decide)

end TokenPilot.Reconciliation
