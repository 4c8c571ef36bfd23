/-
  TokenPilot.Reconciliation.Accepted — when a run reads what the pipeline stored.

  `run_ok_iff`: a run over the rows of settled events compares them exactly when every group
  of both snapshots is legible. In PostgreSQL the tokens of a group are then whole and below
  10 ^ 21, its cost is zero or between 0.000001 and 10 ^ 20, and its micros fit a bigint; in
  ClickHouse the tokens are whole and no sum is below zero. A schema admits quantities of nine
  decimals and costs of eighteen, so a run can stop on events that are valid.
-/

import TokenPilot.Pipeline.Apportionment
import TokenPilot.Pipeline.CostTotals
import TokenPilot.Reconciliation.Snapshots

namespace TokenPilot.Reconciliation

open TokenPilot.Library
open TokenPilot.Pipeline (ApplicationUsageLine CostRatingArtifact decimal decimal_nonneg decimalPattern_nonneg stored stored_nonneg tokenTotal_nonneg
  inputTypes cachedTypes outputTypes normalizeUsageEvent rateApplicationCost amountText ruleTotal_nonneg usageLines
  customUnits)
open TokenPilot.Runtime (Value usageEventSchema)
open TokenPilot.Runtime.Connector (get textOf)

/-! ## What the engine accepts -/

theorem parsed_integer {value field : String} {n : Nat} (h : parseMetricInteger value field = .ok n) :
    integerText value.toList = true := by
  unfold parseMetricInteger at h
  split at h
  · assumption
  · cases h

theorem parsed_cost {value field : String} {x : ℚ} (h : parseCost value field = .ok x) : decimalText value.toList = true := by
  unfold parseCost at h
  split at h
  · assumption
  · cases h

theorem validateMetrics_ok {metrics : ReconciliationMetrics} (h : validateMetrics metrics = .ok ()) :
    (∀ key ∈ integerMetricKeys, integerText (metrics key).toList = true) ∧
      decimalText (metrics .providerCost).toList = true := by
  simp only [validateMetrics, integerMetricKeys, List.forIn_cons, List.forIn_nil, bind_assoc, pure_bind] at h
  obtain ⟨_, hevents, h⟩ := bind_ok h
  obtain ⟨_, hinput, h⟩ := bind_ok h
  obtain ⟨_, hcached, h⟩ := bind_ok h
  obtain ⟨_, houtput, h⟩ := bind_ok h
  obtain ⟨_, haiu, h⟩ := bind_ok h
  obtain ⟨_, hunpriced, h⟩ := bind_ok h
  obtain ⟨_, hunrated, h⟩ := bind_ok h
  obtain ⟨_, hcost, h⟩ := bind_ok h
  refine ⟨fun key hkey => ?_, parsed_cost hcost⟩
  cases key with
  | eventCount => exact parsed_integer hevents
  | inputTokens => exact parsed_integer hinput
  | cachedInputTokens => exact parsed_integer hcached
  | outputTokens => exact parsed_integer houtput
  | providerCost => exact absurd hkey (by decide)
  | aiuMicros => exact parsed_integer haiu
  | unpricedCount => exact parsed_integer hunpriced
  | unratedCount => exact parsed_integer hunrated

theorem validateRow_ok {dateParse : String → Option Int} {row : ReconciliationSnapshotRow}
    (h : validateRow dateParse row = .ok ()) : validateMetrics row.metrics = .ok () := by
  obtain ⟨_, hmetrics, -⟩ := bind_ok h
  exact hmetrics

theorem group_validates {dateParse : String → Option Int} {rows : List ReconciliationSnapshotRow} {grouped : Grouped}
    (h : group dateParse rows = .ok grouped) : ∀ row ∈ rows, validateRow dateParse row = .ok () := by
  have hfold (rows : List ReconciliationSnapshotRow) (start : Grouped) (h : rows.foldlM (fun grouped row => do
      validateRow dateParse row
      let key := dimensionsKey row.dimensions
      return Grouped.set key (Grouped.rows grouped key ++ [row]) grouped) start = (.ok grouped : Except TypeError Grouped)) :
      ∀ row ∈ rows, validateRow dateParse row = .ok () := by
    induction rows generalizing start with
    | nil => simp
    | cons row rest ih =>
      rw [List.foldlM_cons] at h
      obtain ⟨next, hnext, hrest⟩ := bind_ok h
      obtain ⟨_, hrow, -⟩ := bind_ok hnext
      intro other hother
      rcases List.mem_cons.mp hother with rfl | hother
      · exact hrow
      · exact ih next hrest other hother
  exact hfold rows [] h

/-- Rows that have the counts and the date in order are compared exactly when their metrics are accepted. -/
theorem reconcileSnapshots_ok_iff {dateParse : String → Option Int} {pgRows chRows : List ReconciliationSnapshotRow}
    (tolerance : ReconciliationTolerance) {watermark : Option Watermark}
    (hwatermark : ∀ times ∈ watermark, ValidWatermark dateParse times)
    (hrows : ∀ row ∈ pgRows ++ chRows, validateMetrics row.metrics = .ok () → ValidRow dateParse row) :
    (∃ output, reconcileSnapshots dateParse pgRows chRows tolerance watermark = .ok output) ↔
      ∀ row ∈ pgRows ++ chRows, validateMetrics row.metrics = .ok () := by
  constructor
  · rintro ⟨output, houtput⟩ row hrow
    obtain ⟨pg, hpg, houtput⟩ := bind_ok houtput
    obtain ⟨ch, hch, -⟩ := bind_ok houtput
    rcases List.mem_append.mp hrow with hrow | hrow
    · exact validateRow_ok (group_validates hpg row hrow)
    · exact validateRow_ok (group_validates hch row hrow)
  · intro hmetrics
    exact ⟨_, reconcileSnapshots_of tolerance (fun row hrow => hrows row hrow (hmetrics row hrow)) hwatermark⟩

theorem mapM_ok_iff {ε α β : Type} {f : α → Except ε β} {P : β → Prop} (l : List α) :
    (∃ l', l.mapM f = .ok l' ∧ ∀ b ∈ l', P b) ↔ ∀ a ∈ l, ∃ b, f a = .ok b ∧ P b := by
  constructor
  · rintro ⟨l', hl', hall⟩ a ha
    obtain ⟨b, hb, hab⟩ := mapM_result hl' ha
    exact ⟨b, hab, hall b hb⟩
  · intro h
    induction l with
    | nil => exact ⟨[], rfl, by simp⟩
    | cons a l ih =>
      obtain ⟨b, hb, hPb⟩ := h a (by simp)
      obtain ⟨l', hl', hall⟩ := ih fun a ha => h a (by simp [ha])
      refine ⟨b :: l', ?_, ?_⟩
      · rw [List.mapM_cons, hb]
        rw [hl']
        rfl
      · intro c hc
        rcases List.mem_cons.mp hc with rfl | hc
        · exact hPb
        · exact hall c hc

/-! ## Legible groups -/

def WholeTokens (units : Int) : Prop := 10 ^ 9 ∣ units ∧ units < 10 ^ 30

/-- The sums of a group that PostgreSQL casts and whose texts the engine accepts. -/
structure PostgresLegible (ratings : List UsageRating) : Prop where
  input : WholeTokens (tokenSum (·.inputTokens) ratings)
  cached : WholeTokens (tokenSum (·.cachedTokens) ratings)
  output : WholeTokens (tokenSum (·.outputTokens) ratings)
  cost : costSum ratings = 0 ∨ 10 ^ 12 ≤ costSum ratings ∧ costSum ratings < 10 ^ 38
  aiu : aiuSum ratings < 2 ^ 63

structure ClickHouseLegible (ch : ClickHouseStore) (rows : List RawEventRow) : Prop where
  input : 0 ≤ quantitySum inputTypes ch rows ∧ 10 ^ 9 ∣ quantitySum inputTypes ch rows
  cached : 0 ≤ quantitySum cachedTypes ch rows ∧ 10 ^ 9 ∣ quantitySum cachedTypes ch rows
  output : 0 ≤ quantitySum outputTypes ch rows ∧ 10 ^ 9 ∣ quantitySum outputTypes ch rows
  cost : 0 ≤ ratingCostSum ch rows
  aiu : 0 ≤ ratingAiuSum ch rows

structure Legible (plan : RunPlan) (pg : PostgresStore) (ch : ClickHouseStore) : Prop where
  postgres : ∀ found ∈ postgresGroups plan pg, PostgresLegible (joinedRatings pg found.2)
  clickHouse : ∀ found ∈ clickHouseGroups plan ch, ClickHouseLegible ch found.2

/-! ## Numbers that are not negative -/

/-- The quantities of a valid event are decimals of the contract. -/
theorem usageLines_decimal {event : Value} (h : usageEventSchema event = true) :
    ∀ line ∈ usageLines event, Runtime.decimalPattern 28 9 line.quantity = true := by
  have husage : Runtime.rawUsageSchema (get event "usage") = true :=
    Runtime.isStrictObject_needed h (by simp)
  unfold Runtime.rawUsageSchema at husage
  rw [Bool.and_eq_true] at husage
  intro line hline
  rcases List.mem_append.mp hline with hline | hline
  · obtain ⟨⟨name, usageType⟩, hmem, hquantity⟩ := List.mem_filterMap.mp hline
    obtain ⟨quantity, htext, rfl⟩ := Option.map_eq_some_iff.mp hquantity
    have hbucket : name ∈ Runtime.usageBuckets := by
      have hall : ∀ entry ∈ Pipeline.standardUsage, entry.1 ∈ Runtime.usageBuckets := by decide
      exact hall _ hmem
    rcases Runtime.isStrictObject_optional husage.1
        (List.mem_append_left _ (List.mem_map_of_mem (f := fun bucket => (bucket, Runtime.decimal38_9)) hbucket))
      with hnull | hdecimal
    · rw [hnull] at htext
      cases htext
    · obtain ⟨s, hs, hpattern⟩ := Runtime.isText_elim hdecimal
      rw [hs] at htext
      cases htext
      exact hpattern
  · obtain ⟨custom, hcustom, rfl⟩ := List.mem_map.mp hline
    rcases Runtime.isStrictObject_optional husage.1
        (List.mem_append_right _ (List.mem_singleton_self ("custom_units", Runtime.customUnitsSchema))) with hnull | hunits
    · unfold customUnits at hcustom
      rw [hnull] at hcustom
      cases hcustom
    · unfold customUnits at hcustom
      unfold Runtime.customUnitsSchema at hunits
      cases hvalue : get (get event "usage") "custom_units" with
      | arr units =>
        rw [hvalue] at hcustom hunits
        simp only [Bool.and_eq_true, List.all_eq_true] at hunits
        have hquantity : Runtime.decimal38_9 (get custom "quantity") = true :=
          Runtime.isStrictObject_needed (hunits.1.1 custom hcustom) (by simp)
        obtain ⟨s, hs, hpattern⟩ := Runtime.isText_elim hquantity
        rw [hs]
        exact hpattern
      | _ =>
        rw [hvalue] at hcustom
        cases hcustom

theorem usageLines_nonneg {event : Value} (h : usageEventSchema event = true) :
    ∀ line ∈ usageLines event, 0 ≤ decimal line.quantity :=
  fun line hline => decimalPattern_nonneg (usageLines_decimal h line hline)

theorem amountText_nonneg {x : ℚ} (h : 0 ≤ x) : 0 ≤ decimal (amountText x) := by
  unfold amountText decimal
  rw [value_toFixed]
  have hscaled : 0 ≤ halfUp (Pipeline.PrismaDecimal.toDecimalPlaces 18 x * 10 ^ 18) :=
    halfUp_nonneg (mul_nonneg (toScale_nonneg _ h) (by positivity))
  exact mul_nonneg (by exact_mod_cast hscaled) (ten_zpow_pos _).le

theorem reportedAmount_nonneg {sourceCost : Value} (h : Runtime.sourceCostSchema sourceCost = true) :
    0 ≤ decimal ((textOf (get sourceCost "amount")).getD "") := by
  have hnone : 0 ≤ decimal "" := decimal_nonneg (by decide)
  cases sourceCost with
  | obj fields =>
    have hamount : Runtime.decimal38_18 (get (.obj fields) "amount") = true := Runtime.isStrictObject_needed h (by simp)
    obtain ⟨s, hs, hpattern⟩ := Runtime.isText_elim hamount
    rw [hs]
    exact decimalPattern_nonneg hpattern
  | _ => exact hnone

theorem cost_nonneg {localeCompare : String → String → Ordering} {version : Option Pipeline.ModelCostVersion} {event : Value}
    {cost : CostRatingArtifact} (h : usageEventSchema event = true)
    (hcost : rateApplicationCost localeCompare version (normalizeUsageEvent event) = .ok cost) :
    ∀ total ∈ cost.total, 0 ≤ decimal total := by
  have hsource : Runtime.sourceCostSchema (get event "source_cost") = true :=
    Runtime.isStrictObject_needed h (by simp)
  intro total htotal
  unfold rateApplicationCost at hcost
  split at hcost
  · cases hcost
    cases htotal
  · obtain ⟨rule, -, hcost⟩ := bind_ok hcost
    cases rule with
    | none =>
      cases hcost
      cases htotal
    | some rule =>
      cases hcost
      cases htotal
      exact amountText_nonneg (ruleTotal_nonneg (usageLines_nonneg h))
  · cases hcost
    cases htotal
    exact amountText_nonneg (reportedAmount_nonneg hsource)

/-! ## The snapshot of PostgreSQL -/

theorem castDecimal_ok {units units' : Int} (h : castDecimal units = .ok units') : units' = units ∧ |units| < 10 ^ 38 := by
  unfold castDecimal at h
  split at h
  · cases h
    exact ⟨rfl, ‹_›⟩
  · cases h

theorem castBigint_ok {n n' : Nat} (h : castBigint n = .ok n') : n' = n ∧ n < 2 ^ 63 := by
  unfold castBigint at h
  split at h
  · cases h
    exact ⟨rfl, ‹_›⟩
  · cases h

theorem wholeTokens_iff {units : Int} (h : 0 ≤ units) :
    integerText (driverText 9 units).toList = true ↔ WholeTokens units := integerText_driver h

/-- Ratings of stored values that are not below zero. -/
structure Counted (ratings : List UsageRating) : Prop where
  tokens : ∀ rating ∈ ratings, 0 ≤ rating.inputTokens ∧ 0 ≤ rating.cachedTokens ∧ 0 ≤ rating.outputTokens
  cost : ∀ rating ∈ ratings, 0 ≤ rating.providerCost.getD 0

theorem usageRating_counted {localeCompare : String → String → Ordering} {e : Settled} (he : e.Valid localeCompare)
    {rating : UsageRating} (h : usageRating e = some rating) :
    (0 ≤ rating.inputTokens ∧ 0 ≤ rating.cachedTokens ∧ 0 ≤ rating.outputTokens) ∧ 0 ≤ rating.providerCost.getD 0 := by
  obtain ⟨version, hcost⟩ := he.cost
  have hlines := usageLines_nonneg he.schema
  obtain ⟨_, -, rfl⟩ := Option.map_eq_some_iff.mp h
  refine ⟨⟨stored_nonneg (tokenTotal_nonneg _ hlines), stored_nonneg (tokenTotal_nonneg _ hlines),
    stored_nonneg (tokenTotal_nonneg _ hlines)⟩, ?_⟩
  have htotal := cost_nonneg he.schema hcost
  cases htext : e.cost.total with
  | none => simp
  | some total =>
    have hstored : 0 ≤ stored 18 (decimal total) := stored_nonneg (htotal total htext)
    simpa [htext] using hstored

theorem tokenSum_nonneg {column : UsageRating → Int} {ratings : List UsageRating}
    (h : ∀ rating ∈ ratings, 0 ≤ column rating) : 0 ≤ tokenSum column ratings := by
  apply List.sum_nonneg
  intro units hunits
  obtain ⟨rating, hrating, rfl⟩ := List.mem_map.mp hunits
  exact h rating hrating

section Runs

variable {sha256 : String → String} {plan : RunPlan} {pg : PostgresStore} {ch : ClickHouseStore}

theorem postgresSnapshot_ok_iff {found : GroupKey × List RegistryRow} (h : Counted (joinedRatings pg found.2)) :
    (∃ row, postgresSnapshot sha256 plan pg found = .ok row ∧ validateMetrics row.metrics = .ok ()) ↔
      PostgresLegible (joinedRatings pg found.2) := by
  have hinput := tokenSum_nonneg fun rating hrating => (h.tokens rating hrating).1
  have hcached := tokenSum_nonneg fun rating hrating => (h.tokens rating hrating).2.1
  have houtput := tokenSum_nonneg fun rating hrating => (h.tokens rating hrating).2.2
  have hcost : 0 ≤ costSum (joinedRatings pg found.2) := tokenSum_nonneg h.cost
  constructor
  · rintro ⟨row, hrow, hmetrics⟩
    obtain ⟨input, hinput', hrow⟩ := bind_ok hrow
    obtain ⟨cached, hcached', hrow⟩ := bind_ok hrow
    obtain ⟨output, houtput', hrow⟩ := bind_ok hrow
    obtain ⟨cost, hcost', hrow⟩ := bind_ok hrow
    obtain ⟨aiu, haiu', hrow⟩ := bind_ok hrow
    obtain ⟨rfl, -⟩ := castDecimal_ok hinput'
    obtain ⟨rfl, -⟩ := castDecimal_ok hcached'
    obtain ⟨rfl, -⟩ := castDecimal_ok houtput'
    obtain ⟨rfl, hcostfits⟩ := castDecimal_ok hcost'
    obtain ⟨rfl, haiufits⟩ := castBigint_ok haiu'
    cases hrow
    obtain ⟨hintegers, hdecimal⟩ := validateMetrics_ok hmetrics
    refine ⟨(wholeTokens_iff hinput).mp (hintegers .inputTokens (by decide)),
      (wholeTokens_iff hcached).mp (hintegers .cachedInputTokens (by decide)),
      (wholeTokens_iff houtput).mp (hintegers .outputTokens (by decide)), ?_, haiufits⟩
    rw [abs_of_nonneg hcost] at hcostfits
    rcases (decimalText_driver hcost (by norm_num)).mp hdecimal with hzero | hshown
    · exact .inl hzero
    · exact .inr ⟨hshown.1, hcostfits⟩
  · intro hlegible
    have hfits {units : Int} (hunits : 0 ≤ units) (hwhole : WholeTokens units) : castDecimal units = .ok units := by
      have hbound : units < 10 ^ 38 := hwhole.2.trans (by norm_num)
      exact if_pos (by rwa [abs_of_nonneg hunits])
    have hcostfits : castDecimal (costSum (joinedRatings pg found.2)) = .ok (costSum (joinedRatings pg found.2)) := by
      refine if_pos ?_
      rw [abs_of_nonneg hcost]
      rcases hlegible.cost with hzero | hshown
      · rw [hzero]
        norm_num
      · exact hshown.2
    have haiufits : castBigint (aiuSum (joinedRatings pg found.2)) = .ok (aiuSum (joinedRatings pg found.2)) :=
      if_pos hlegible.aiu
    refine ⟨_, bind_of (hfits hinput hlegible.input) (bind_of (hfits hcached hlegible.cached)
      (bind_of (hfits houtput hlegible.output) (bind_of hcostfits (bind_of haiufits rfl)))), validateMetrics_of ?_ ?_⟩
    · intro key hkey
      cases key with
      | eventCount => exact integerText_toString _
      | inputTokens => exact (wholeTokens_iff hinput).mpr hlegible.input
      | cachedInputTokens => exact (wholeTokens_iff hcached).mpr hlegible.cached
      | outputTokens => exact (wholeTokens_iff houtput).mpr hlegible.output
      | providerCost => exact absurd hkey (by decide)
      | aiuMicros => exact integerText_toString _
      | unpricedCount => exact integerText_toString _
      | unratedCount => exact integerText_toString _
    · refine (decimalText_driver hcost (by norm_num)).mpr ?_
      rcases hlegible.cost with hzero | hshown
      · exact .inl hzero
      · exact .inr ⟨hshown.1, hshown.2.trans (by norm_num)⟩

/-! ## The snapshot of ClickHouse -/

theorem integerText_intToString (n : Int) : integerText (toString n).toList = true ↔ 0 ≤ n := by
  cases n with
  | ofNat m => exact iff_of_true (integerText_toString m) (Int.natCast_nonneg m)
  | negSucc m =>
    refine iff_of_false (fun hinteger => ?_) (by omega)
    have hsign : (toString (Int.negSucc m)).toList = '-' :: (toString (m + 1)).toList := String.toList_append
    rw [hsign] at hinteger
    exact absurd (integerText_digits hinteger '-' List.mem_cons_self) (by decide)

theorem clickHouseSnapshot_ok_iff {found : GroupKey × List RawEventRow} :
    validateMetrics (clickHouseSnapshot sha256 plan ch found).metrics = .ok () ↔ ClickHouseLegible ch found.2 := by
  constructor
  · intro hmetrics
    obtain ⟨hintegers, hdecimal⟩ := validateMetrics_ok hmetrics
    exact ⟨integerText_clickHouse.mp (hintegers .inputTokens (by decide)),
      integerText_clickHouse.mp (hintegers .cachedInputTokens (by decide)),
      integerText_clickHouse.mp (hintegers .outputTokens (by decide)), decimalText_clickHouse.mp hdecimal,
      (integerText_intToString _).mp (hintegers .aiuMicros (by decide))⟩
  · intro hlegible
    refine validateMetrics_of ?_ (decimalText_clickHouse.mpr hlegible.cost)
    intro key hkey
    cases key with
    | eventCount => exact integerText_toString _
    | inputTokens => exact integerText_clickHouse.mpr hlegible.input
    | cachedInputTokens => exact integerText_clickHouse.mpr hlegible.cached
    | outputTokens => exact integerText_clickHouse.mpr hlegible.output
    | providerCost => exact absurd hkey (by decide)
    | aiuMicros => exact (integerText_intToString _).mpr hlegible.aiu
    | unpricedCount => exact integerText_toString _
    | unratedCount => exact integerText_toString _

/-! ## Runs -/

theorem bucketStart_valid (size : BucketSize) (t : Instant) :
    -8640000000000000 ≤ bucketStart size t.1 ∧ bucketStart size t.1 ≤ 8640000000000000 := by
  obtain ⟨t, hlow, hhigh⟩ := t
  cases size with
  | hour =>
    show -8640000000000000 ≤ t / 3600000 * 3600000 ∧ t / 3600000 * 3600000 ≤ 8640000000000000
    omega
  | day =>
    show -8640000000000000 ≤ t / 86400000 * 86400000 ∧ t / 86400000 * 86400000 ≤ 8640000000000000
    omega

variable {dateParse : String → Option Int}

/-- Every time that `toISOString()` writes is read. -/
def ReadsDates (dateParse : String → Option Int) : Prop :=
  ∀ t : Instant, (dateParse (Runtime.isoString t.1)).isSome = true

theorem Watermarks.valid (hdate : ReadsDates dateParse) (times : Watermarks) : ValidWatermark dateParse times.texts :=
  ⟨hdate _, hdate _, hdate _, hdate _⟩

theorem postgresRow_valid (hdate : ReadsDates dateParse) {found : GroupKey × List RegistryRow}
    (hfound : found ∈ postgresGroups plan pg) {row : ReconciliationSnapshotRow}
    (hrow : postgresSnapshot sha256 plan pg found = .ok row) (hmetrics : validateMetrics row.metrics = .ok ()) :
    ValidRow dateParse row := by
  obtain ⟨hintegers, hdecimal⟩ := validateMetrics_ok hmetrics
  obtain ⟨entry, -, hkey⟩ := groupBy_key hfound
  have hbucket : (dateParse (Runtime.isoString found.1.bucket)).isSome = true := by
    rw [← hkey]
    exact hdate ⟨_, bucketStart_valid plan.bucketSize entry.eventTime⟩
  obtain ⟨_, -, hrow⟩ := bind_ok hrow
  obtain ⟨_, -, hrow⟩ := bind_ok hrow
  obtain ⟨_, -, hrow⟩ := bind_ok hrow
  obtain ⟨_, -, hrow⟩ := bind_ok hrow
  obtain ⟨_, -, hrow⟩ := bind_ok hrow
  cases hrow
  have hzero : integerText "0".toList = true := by decide
  exact ⟨hintegers, hdecimal, hzero, hzero, integerText_toString _, hbucket⟩

theorem clickHouseRow_valid (hdate : ReadsDates dateParse) {found : GroupKey × List RawEventRow}
    (hfound : found ∈ clickHouseGroups plan ch)
    (hmetrics : validateMetrics (clickHouseSnapshot sha256 plan ch found).metrics = .ok ()) :
    ValidRow dateParse (clickHouseSnapshot sha256 plan ch found) := by
  obtain ⟨hintegers, hdecimal⟩ := validateMetrics_ok hmetrics
  obtain ⟨entry, -, hkey⟩ := groupBy_key hfound
  have hbucket : (dateParse (Runtime.isoString found.1.bucket)).isSome = true := by
    rw [← hkey]
    exact hdate ⟨_, bucketStart_valid plan.bucketSize entry.eventTime⟩
  have hzero : integerText "0".toList = true := by decide
  exact ⟨hintegers, hdecimal, integerText_toString _, hzero, hzero, hbucket⟩

theorem joinedRatings_counted {localeCompare : String → String → Ordering} {settled : List Settled}
    (hvalid : ∀ e ∈ settled, e.Valid localeCompare) (hholds : Holds settled pg ch) (rows : List RegistryRow) :
    Counted (joinedRatings pg rows) := by
  have hrating (rating : UsageRating) (h : rating ∈ joinedRatings pg rows) :
      ∃ e ∈ settled, usageRating e = some rating := by
    obtain ⟨row, -, h⟩ := List.mem_flatMap.mp h
    exact hholds.usageRatings rating (List.mem_of_mem_filter h)
  constructor
  · intro rating h
    obtain ⟨e, he, hwritten⟩ := hrating rating h
    exact (usageRating_counted (hvalid e he) hwritten).1
  · intro rating h
    obtain ⟨e, he, hwritten⟩ := hrating rating h
    exact (usageRating_counted (hvalid e he) hwritten).2

/-- A run compares the snapshots, and does not throw, exactly when every group of them is legible. -/
theorem run_ok_iff {localeCompare : String → String → Ordering} {settled : List Settled} (sha256 : String → String)
    (plan : RunPlan) (tolerance : ReconciliationTolerance) (times : Watermarks)
    (hvalid : ∀ e ∈ settled, e.Valid localeCompare) (hholds : Holds settled pg ch) (hdate : ReadsDates dateParse) :
    (∃ output, runDiffs sha256 dateParse plan pg ch tolerance times = .ok output) ↔ Legible plan pg ch := by
  have hcompared {pgRows : List ReconciliationSnapshotRow} (hload : loadPostgres sha256 plan pg = .ok pgRows) :
      (∃ output, reconcileSnapshots dateParse pgRows (loadClickHouse sha256 plan ch) tolerance (some times.texts) =
          .ok output) ↔
        ∀ row ∈ pgRows ++ loadClickHouse sha256 plan ch, validateMetrics row.metrics = .ok () := by
    apply reconcileSnapshots_ok_iff
    · intro watermark hwatermark
      cases hwatermark
      exact times.valid hdate
    · intro row hrow hmetrics
      rcases List.mem_append.mp hrow with hrow | hrow
      · obtain ⟨found, hfound, hsnapshot⟩ := mapM_mem hload hrow
        exact postgresRow_valid hdate hfound hsnapshot hmetrics
      · obtain ⟨found, hfound, rfl⟩ := List.mem_map.mp hrow
        exact clickHouseRow_valid hdate hfound hmetrics
  have hpostgres : (∃ pgRows, loadPostgres sha256 plan pg = .ok pgRows ∧
      ∀ row ∈ pgRows, validateMetrics row.metrics = .ok ()) ↔
        ∀ found ∈ postgresGroups plan pg, PostgresLegible (joinedRatings pg found.2) := by
    unfold loadPostgres
    rw [mapM_ok_iff]
    exact forall₂_congr fun found _ => postgresSnapshot_ok_iff (joinedRatings_counted hvalid hholds found.2)
  constructor
  · rintro ⟨output, houtput⟩
    obtain ⟨pgRows, hload, houtput⟩ := bind_ok houtput
    cases hread : loadPostgres sha256 plan pg with
    | error e =>
      rw [hread] at hload
      cases hload
    | ok rows =>
      rw [hread] at hload
      cases hload
      cases hdiffs : reconcileSnapshots dateParse pgRows (loadClickHouse sha256 plan ch) tolerance (some times.texts) with
      | error e =>
        rw [hdiffs] at houtput
        cases houtput
      | ok diffs =>
        have hmetrics := (hcompared hread).mp ⟨diffs, hdiffs⟩
        refine ⟨hpostgres.mp ⟨pgRows, hread, fun row hrow => hmetrics row (List.mem_append_left _ hrow)⟩, ?_⟩
        intro found hfound
        exact clickHouseSnapshot_ok_iff.mp (hmetrics _ (List.mem_append_right _ (List.mem_map_of_mem hfound)))
  · rintro ⟨hlegible, hlegible'⟩
    obtain ⟨rows, hread, hrows⟩ := hpostgres.mpr hlegible
    have hmetrics : ∀ row ∈ rows ++ loadClickHouse sha256 plan ch, validateMetrics row.metrics = .ok () := by
      intro row hrow
      rcases List.mem_append.mp hrow with hrow | hrow
      · exact hrows row hrow
      · obtain ⟨found, hfound, rfl⟩ := List.mem_map.mp hrow
        exact clickHouseSnapshot_ok_iff.mpr (hlegible' found hfound)
    obtain ⟨diffs, hdiffs⟩ := (hcompared hread).mpr hmetrics
    refine ⟨diffs, ?_⟩
    unfold runDiffs
    rw [hread]
    show (reconcileSnapshots dateParse rows (loadClickHouse sha256 plan ch) tolerance (some times.texts)).mapError _ = _
    rw [hdiffs]
    rfl

end Runs

/-! ## Runs on fixed events -/

def integerValue (n : Int) : Value := .num (Decimal.ofInt n)

def sampleEvent (outputTokens : String) : Value :=
  .obj
    [ ("schema_version", .str "2.0"), ("event_id", .str "01J00000000000000000000001"),
      ("event_time", .str "1970-01-01T00:00:00.000Z"), ("user", .obj [("user_id", .str "user-1")]),
      ("source", .obj [("type", .str "sdk"), ("name", .str "tokenpilot-node"), ("version", .str "0.2.0"),
        ("instance_id", .str "node-sdk")]),
      ("request", .obj [("request_id", .str "req_1"), ("attempt_id", .str "att_1"), ("attempt_index", integerValue 0),
        ("is_final_attempt", .bool true), ("operation_id", .null), ("parent_request_id", .null), ("session_id", .null),
        ("conversation_id", .null), ("trace_id", .null)]),
      ("model", .obj [("request_model", .str "fast")]), ("route", .null), ("analytics_dimensions", .obj []),
      ("result", .obj [("status", .str "success"), ("http_status", integerValue 200), ("latency_ms", integerValue 5),
        ("error_class", .null)]),
      ("source_cost", .null),
      ("privacy", .obj [("contains_prompt", .bool false), ("contains_response", .bool false)]),
      ("usage", .obj [("output_tokens", .str outputTokens)]) ]

def epoch : Instant := ⟨0, by decide⟩

def sampleSettled (outputTokens : String) : Settled where
  applicationId := "application-1"
  event := sampleEvent outputTokens
  eventTime := epoch
  registeredModelId := some "model-1"
  modelId := some "model-1"
  ratingId := "rating-1"
  cost := Pipeline.unpricedCost none
  aiu := Pipeline.rateApplicationAiu none (usageLines (sampleEvent outputTokens))

def samplePostgres (outputTokens : String) : PostgresStore where
  registry := [registryRow (sampleSettled outputTokens)]
  ratings := (usageRating (sampleSettled outputTokens)).toList
  undelivered := fun _ => 0

def sampleClickHouse (outputTokens : String) : ClickHouseStore where
  events := [rawEventRow (sampleSettled outputTokens)]
  lines := usageLineRows (sampleSettled outputTokens)
  ratings := costRows 1 (sampleSettled outputTokens) ++ aiuRows 2 (sampleSettled outputTokens)

def samplePlan : RunPlan := ⟨"application-1", .hourly, epoch, ⟨3600000, by decide⟩, none, none, none⟩

theorem sample_holds (outputTokens : String) :
    Holds [sampleSettled outputTokens] (samplePostgres outputTokens) (sampleClickHouse outputTokens) := by
  have hsettled : sampleSettled outputTokens ∈ [sampleSettled outputTokens] := List.mem_singleton_self _
  refine ⟨?_, ?_, ?_, fun row hrow => ⟨_, hsettled, hrow⟩, ?_⟩
  · intro row hrow
    exact ⟨_, hsettled, List.mem_singleton.mp hrow⟩
  · intro row hrow
    exact ⟨_, hsettled, Option.mem_toList.mp hrow⟩
  · intro row hrow
    exact ⟨_, hsettled, List.mem_singleton.mp hrow⟩
  · intro row hrow
    refine ⟨_, hsettled, rfl, ?_⟩
    rcases List.mem_append.mp hrow with hrow | hrow
    · exact ⟨1, List.mem_append_left _ hrow⟩
    · exact ⟨2, List.mem_append_right _ hrow⟩

theorem sample_valid {outputTokens : String} (h : usageEventSchema (sampleEvent outputTokens) = true) :
    ∀ e ∈ [sampleSettled outputTokens], e.Valid compare := by
  intro e he
  rw [List.mem_singleton.mp he]
  exact ⟨h, ⟨none, rfl⟩, ⟨none, rfl⟩⟩

theorem whole_tokens_run :
    (∃ output, runDiffs id (fun _ => some 0) samplePlan (samplePostgres "15") (sampleClickHouse "15") sampleTolerance
        ⟨epoch, epoch, epoch, epoch⟩ = .ok output) ↔
      Legible samplePlan (samplePostgres "15") (sampleClickHouse "15") :=
  run_ok_iff id samplePlan sampleTolerance ⟨epoch, epoch, epoch, epoch⟩ (sample_valid (by decide +kernel))
    (sample_holds "15") (fun _ => rfl)

/-- A valid event with one and a half output tokens stops every run over its hour. -/
theorem fraction_stops :
    (∀ e ∈ [sampleSettled "1.5"], e.Valid compare) ∧
      Holds [sampleSettled "1.5"] (samplePostgres "1.5") (sampleClickHouse "1.5") ∧
      ¬ ∃ output, runDiffs id (fun _ => some 0) samplePlan (samplePostgres "1.5") (sampleClickHouse "1.5") sampleTolerance
        ⟨epoch, epoch, epoch, epoch⟩ = .ok output := by
  refine ⟨sample_valid (by decide +kernel), sample_holds "1.5", ?_⟩
  rintro ⟨output, houtput⟩
  have hthrown : (runDiffs id (fun _ => some 0) samplePlan (samplePostgres "1.5") (sampleClickHouse "1.5") sampleTolerance
      ⟨epoch, epoch, epoch, epoch⟩).map (fun _ => ()) =
      .error (.engine ⟨"outputTokens must be a non-negative integer string"⟩) := by decide +kernel
  rw [houtput] at hthrown
  cases hthrown

end TokenPilot.Reconciliation
