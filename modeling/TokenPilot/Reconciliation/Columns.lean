/-
  TokenPilot.Reconciliation.Columns — whether the numbers of an official commit
  (`official-writer.ts`) fit the columns of `application_usage_ratings`.

  What the management schemas admit (`saveModelCostRulesSchema`, `saveModelAiuSchema`) is stated
  of the versions that are stored: every amount is the value of a text the schema accepts, and
  every rate has at most 2^63 - 1 micros.

  Nothing bounds what quantities and rates give together. `columns_fit` says what is enough for
  the columns to hold it: the exact sums stay under the bounds with what 20 digits may add to
  them, and 20 digits hold every sum of tokens. PostgreSQL then takes the row.
-/

import TokenPilot.Management.QuotaSettings
import TokenPilot.Pipeline.AiuTotals
import TokenPilot.Pipeline.Writer
import TokenPilot.Reconciliation.Accepted

namespace TokenPilot.Reconciliation

open TokenPilot.Library
open TokenPilot.Pipeline
open TokenPilot.Runtime (Value usageEventSchema decimalPattern propertyKeyPattern bounded)
open TokenPilot.Runtime.Connector (get textOf)

/-! ## Versions the schemas admit -/

/-- A rate names a usage type, and a unit exactly when it is a custom one. -/
def RateKeyed (usageType unitKey : String) : Prop :=
  usageTypeValues.contains usageType = true ∧
    if usageType = "custom_unit" then propertyKeyPattern unitKey = true else unitKey = ""

instance (usageType unitKey : String) : Decidable (RateKeyed usageType unitKey) :=
  inferInstanceAs (Decidable (_ ∧ _))

/-- `modelCostRuleSchema` -/
structure AdmittedRule (rule : CostRule) : Prop where
  name : bounded 1 120 rule.name = true
  matchMode : rule.matchMode = "all" ∨ rule.matchMode = "any"
  conditions : ∃ conditions, ruleConditions rule = .ok conditions ∧ conditions.length ≤ 32
  fixedAmount : ∀ amount ∈ rule.fixedAmount, ∃ text, decimalPattern 19 18 text = true ∧ decimal text = amount
  rates : ∀ item ∈ rule.items, RateKeyed item.usageType item.unitKey ∧
    ∃ text, decimalPattern 19 18 text = true ∧ decimal text = item.amountPerUnit
  priced : rule.fixedAmount.isSome = true ∨ rule.items ≠ []
  distinct : (rule.items.map fun item => rateKey item.usageType item.unitKey).Nodup
  size : rule.items.length ≤ 64

/-- `saveModelCostRulesSchema`; the priorities are the places of the rules. -/
structure AdmittedCost (version : ModelCostVersion) : Prop where
  rules : ∀ rule ∈ version.rules, AdmittedRule rule
  priorities : version.rules.map (·.priority) = (List.range version.rules.length).map Int.ofNat
  size : version.rules.length ≤ 64

/-- `aiuUsage` -/
def aiuUnitSizes : List (String × ℚ) :=
  [("uncached_input_token", 1000000), ("cache_read_input_token", 1000000), ("cache_write_input_token", 1000000),
    ("output_token", 1000000), ("reasoning_output_token", 1000000), ("input_image", 1), ("output_image", 1),
    ("input_audio_second", 1), ("output_audio_second", 1), ("input_video_second", 1), ("output_video_second", 1),
    ("embedding_token", 1000000), ("unknown", 1)]

/-- A rate of an admitted text, at the size of its type or at one that is entered. -/
structure AdmittedRate (item : AiuRateItem) : Prop where
  micros : ∃ text, decimalPattern 12 6 text = true ∧ decimal text * 1000000 ≤ 9223372036854775807 ∧
    (item.aiuMicrosPerUnit : Int) = Management.aiuToMicros text
  unit : (item.usageType, item.unitSize) ∈ aiuUnitSizes ∧ item.unitKey = "" ∨
    item.usageType = "custom_unit" ∧ propertyKeyPattern item.unitKey = true ∧
      ∃ text, decimalPattern 28 9 text = true ∧ decimal text = item.unitSize

/-- `saveModelAiuSchema` -/
structure AdmittedAiu (version : ModelAiuVersion) : Prop where
  rates : ∀ item ∈ version.items, AdmittedRate item
  nonempty : version.items ≠ []
  distinct : (version.items.map fun item => rateKey item.usageType item.unitKey).Nodup
  custom : version.items.countP (·.usageType = "custom_unit") ≤ 32

/-! ## What is written -/

/-- The exact sum, in a column of 38 digits with 9 decimals. -/
def TokensFit (written exact : ℚ) : Prop := written = exact ∧ written < 10 ^ 29

/-- The numbers are in the range of their columns, and the tokens exact. -/
structure ColumnsFit (cost : CostRatingArtifact) (aiu : AiuRatingArtifact) (lines : List ApplicationUsageLine) : Prop where
  micros : ∀ total ∈ aiu.totalMicros, total ≤ 2 ^ 63 - 1
  amount : ∀ total ∈ cost.total, decimal total < 10 ^ 20
  input : TokensFit (tokenTotals lines).input (quantities inputTypes lines).sum
  output : TokensFit (tokenTotals lines).output (quantities outputTypes lines).sum
  cached : TokensFit (tokenTotals lines).cached (quantities cachedTypes lines).sum
  total : TokensFit (PrismaDecimal.add (tokenTotals lines).input (tokenTotals lines).output)
    ((quantities inputTypes lines).sum + (quantities outputTypes lines).sum)

/-! ## When it fits -/

def EveryLineRated (items : List AiuRateItem) (lines : List ApplicationUsageLine) : Prop :=
  ∀ line ∈ lines, relevant line = true → line.usageType ≠ "request" →
    (rateOf (fun item => rateKey item.usageType item.unitKey) items line).isSome = true

/-- 20 digits hold every partial sum, and the column the whole. -/
def HeldSum (values : List ℚ) : Prop := SumsHeld precision 0 values ∧ values.sum < 10 ^ 29

instance (values : List ℚ) : Decidable (HeldSum values) := inferInstanceAs (Decidable (_ ∧ _))

/-- What the event and the rates give exactly, with what the roundings may add, is below the
    bounds of the columns; the tokens need no more than 20 digits. -/
structure WithinColumns (localeCompare : String → String → Ordering) (cost : Option ModelCostVersion)
    (aiu : Option ModelAiuVersion) (event : Value) : Prop where
  micros : ∀ version ∈ aiu, EveryLineRated version.items (usageLines event) →
    exactMicros version.items (usageLines event) *
      (1 + drift precision ((aiuRated version.items (usageLines event)).length + 2)) < 2 ^ 63 - 1 / 2
  amount : get event "source_cost" = .null → ∀ version ∈ cost, ∀ rule,
    FirstApplying localeCompare event version.rules rule →
      exactTotal rule (usageLines event) *
        (1 + drift precision ((pricedLines rule (usageLines event)).length + 1)) < 10 ^ 20 - 1 / (2 * 10 ^ 18)
  input : HeldSum (quantities inputTypes (usageLines event))
  output : HeldSum (quantities outputTypes (usageLines event))
  cached : HeldSum (quantities cachedTypes (usageLines event))
  total : Representable precision
      ((quantities inputTypes (usageLines event)).sum + (quantities outputTypes (usageLines event)).sum) ∧
    (quantities inputTypes (usageLines event)).sum + (quantities outputTypes (usageLines event)).sum < 10 ^ 29

/-- What is given exactly reaches a bound even with what the roundings may take away, or is of more
    tokens than 20 digits or the column hold. -/
inductive OverColumns (localeCompare : String → String → Ordering) (cost : Option ModelCostVersion)
    (aiu : Option ModelAiuVersion) (event : Value) : Prop
  | micros {version : ModelAiuVersion} : version ∈ aiu → EveryLineRated version.items (usageLines event) →
      2 ^ 63 - 1 / 2 ≤ exactMicros version.items (usageLines event) *
        (1 - drift precision ((aiuRated version.items (usageLines event)).length + 2)) →
      OverColumns localeCompare cost aiu event
  | amount {version : ModelCostVersion} {rule : CostRule} : get event "source_cost" = .null → version ∈ cost →
      FirstApplying localeCompare event version.rules rule →
      10 ^ 20 - 1 / (2 * 10 ^ 18) ≤ exactTotal rule (usageLines event) *
        (1 - drift precision ((pricedLines rule (usageLines event)).length + 1)) →
      OverColumns localeCompare cost aiu event
  | tokens {types : List String} : types ∈ [inputTypes, outputTypes, cachedTypes] →
      ¬Representable precision (quantities types (usageLines event)).sum ∨ 10 ^ 29 ≤ (quantities types (usageLines event)).sum →
      OverColumns localeCompare cost aiu event
  | total : ¬Representable precision
        ((quantities inputTypes (usageLines event)).sum + (quantities outputTypes (usageLines event)).sum) ∨
      10 ^ 29 ≤ (quantities inputTypes (usageLines event)).sum + (quantities outputTypes (usageLines event)).sum →
      OverColumns localeCompare cost aiu event

/-! ## Decimals of the contract -/

theorem isDigit_digit {c : Char} (h : Runtime.isDigit c = true) : c.isDigit = true := by
  unfold Runtime.isDigit at h
  unfold Char.isDigit
  simpa [Char.le_def] using h

/-- A text of the schema is a natural number of its last place. -/
theorem decimalPattern_value {whole scale : Nat} {s : String} (h : decimalPattern whole scale s = true) :
    ∃ n : Nat, decimal s = n * 10 ^ (-(scale : Int)) ∧ n < 10 ^ (whole + 1 + scale) := by
  have hsplit := List.takeWhile_append_dropWhile (p := Runtime.isDigit) (l := s.toList)
  have hplain : Numeral.Plain (s.toList.takeWhile Runtime.isDigit) := fun c hc => isDigit_digit (List.mem_takeWhile_imp hc)
  unfold decimalPattern at h
  rw [Bool.and_eq_true] at h
  obtain ⟨hwhole, hrest⟩ := h
  have hlength : (s.toList.takeWhile Runtime.isDigit).length ≤ whole + 1 ∧ s.toList.takeWhile Runtime.isDigit ≠ [] := by
    rcases Bool.or_eq_true_iff.mp hwhole with hzero | hheaded
    · rw [of_decide_eq_true hzero]
      exact ⟨by simp, by simp⟩
    · cases hdigits : s.toList.takeWhile Runtime.isDigit with
      | nil =>
        rw [hdigits] at hheaded
        cases hheaded
      | cons c rest =>
        rw [hdigits] at hheaded
        simp only [Runtime.headed, Bool.and_eq_true, decide_eq_true_eq] at hheaded
        exact ⟨by simpa using hheaded.2, by simp⟩
  have htext : DigitText scale (s.toList.takeWhile Runtime.isDigit) s.toList := by
    refine ⟨hplain, hlength.2, ?_⟩
    cases hdrop : s.toList.dropWhile Runtime.isDigit with
    | nil =>
      rw [hdrop, List.append_nil] at hsplit
      exact .inl hsplit.symm
    | cons c fraction =>
      rw [hdrop] at hrest hsplit
      simp only [Bool.and_eq_true, decide_eq_true_eq] at hrest
      obtain ⟨⟨⟨rfl, -⟩, hplaces⟩, hall⟩ := hrest
      exact .inr ⟨fraction, fun d hd => isDigit_digit (List.all_eq_true.mp hall d hd), hplaces, hsplit.symm⟩
  obtain ⟨n, hvalue, hlt⟩ := htext.value_eq
  exact ⟨n, hvalue, hlt.trans_le (Nat.pow_le_pow_right (by decide) (by omega))⟩

/-! ## Micros -/

section Micros

variable {version : Option ModelAiuVersion} {items : List AiuRateItem} {lines : List ApplicationUsageLine}

theorem everyLineRated_iff :
    EveryLineRated items lines ↔ ∀ draft ∈ aiuDrafts items lines, draft.rate.isSome = true := by
  constructor
  · intro h draft hdraft
    obtain ⟨⟨line, index⟩, hmem, rfl⟩ := List.mem_map.mp hdraft
    obtain ⟨hindexed, hrated⟩ := List.mem_filter.mp hmem
    simp only [Bool.and_eq_true, decide_eq_true_eq] at hrated
    rw [aiuDraft_rate]
    exact h line (List.fst_mem_of_mem_zipIdx hindexed) hrated.1 hrated.2
  · intro h line hline hrelevant hrequest
    obtain ⟨index, hindex⟩ := List.mem_iff_getElem?.mp hline
    have hindexed : (line, index) ∈ lines.zipIdx := List.mk_mem_zipIdx_iff_getElem?.mpr hindex
    have hdraft : aiuDraft items line index ∈ aiuDrafts items lines := by
      refine List.mem_map.mpr ⟨(line, index), List.mem_filter.mpr ⟨hindexed, ?_⟩, rfl⟩
      simp [hrelevant, hrequest]
    rw [← aiuDraft_rate line index]
    exact h _ hdraft

theorem rateApplicationAiu_status (version : Option ModelAiuVersion) (lines : List ApplicationUsageLine) :
    match (rateApplicationAiu version lines).status with
    | .official => (rateApplicationAiu version lines).totalMicros.isSome = true ∧
        (rateApplicationAiu version lines).versionId.isSome = true
    | .unrated => (rateApplicationAiu version lines).totalMicros = none := by
  cases version with
  | none => rfl
  | some rates =>
    unfold rateApplicationAiu
    simp only [Option.isNone_some, Bool.false_or, Option.map_some, Option.getD_some]
    by_cases hnone : ((aiuDrafts rates.items lines).any fun draft => draft.rate.isNone) = true
    · simp only [hnone, if_true]
    · simp only [hnone, if_false, Option.isSome_some, and_self, Bool.false_eq_true]

theorem halfUp_le_iff {x : ℚ} {n : Int} (h : 0 ≤ x) : halfUp x ≤ n ↔ x < n + 1 / 2 := by
  rw [halfUp_of_nonneg h, ← Int.lt_add_one_iff, Int.floor_lt]
  push_cast
  constructor <;> intro hlt <;> linarith

/-- The micros fit while the exact sum and what the roundings may add do. -/
theorem micros_fit (hquantity : ∀ line ∈ lines, 0 ≤ decimal line.quantity)
    (h : ∀ rates ∈ version, EveryLineRated rates.items lines →
      exactMicros rates.items lines * (1 + drift precision ((aiuRated rates.items lines).length + 2)) < 2 ^ 63 - 1 / 2) :
    ∀ total ∈ (rateApplicationAiu version lines).totalMicros, total ≤ 2 ^ 63 - 1 := by
  intro total htotal
  obtain ⟨rates, rfl, hdrafts, -⟩ := rateApplicationAiu_official htotal
  obtain ⟨hvalue, hnonneg⟩ := totalMicros_eq hquantity htotal
  have hbound := ((@accurate_total rates.items _ hquantity).upper).trans_lt (h rates rfl (everyLineRated_iff.mpr hdrafts))
  have hint : (total : Int) ≤ 9223372036854775807 := by
    rw [hvalue, halfUp_le_iff hnonneg]
    norm_num at hbound ⊢
    linarith
  omega

/-- They do not while it reaches the bound without what the roundings may take away. -/
theorem micros_over (hquantity : ∀ line ∈ lines, 0 ≤ decimal line.quantity) {rates : ModelAiuVersion}
    (hrated : EveryLineRated rates.items lines)
    (h : 2 ^ 63 - 1 / 2 ≤ exactMicros rates.items lines * (1 - drift precision ((aiuRated rates.items lines).length + 2))) :
    ¬∀ total ∈ (rateApplicationAiu (some rates) lines).totalMicros, total ≤ 2 ^ 63 - 1 := by
  intro hfit
  have hsome : (rateApplicationAiu (some rates) lines).totalMicros = some (aiuTarget (aiuDrafts rates.items lines)) := by
    have hall : ¬((aiuDrafts rates.items lines).any fun draft => draft.rate.isNone) = true := by
      rw [List.any_eq_true]
      rintro ⟨draft, hdraft, hnone⟩
      have hsome := everyLineRated_iff.mp hrated draft hdraft
      rw [Option.isNone_iff_eq_none.mp hnone] at hsome
      cases hsome
    unfold rateApplicationAiu
    simp only [Option.isNone_some, Bool.false_or, Option.map_some, Option.getD_some, hall, if_false, Bool.false_eq_true]
  obtain ⟨hvalue, hnonneg⟩ := totalMicros_eq hquantity hsome
  have hle := hfit _ hsome
  have hint : (aiuTarget (aiuDrafts rates.items lines) : Int) ≤ 9223372036854775807 := by omega
  rw [hvalue, halfUp_le_iff hnonneg] at hint
  have hbound := h.trans (@accurate_total rates.items _ hquantity).lower
  norm_num at hbound hint
  linarith

end Micros

/-! ## Tokens -/

section Tokens

variable {types : List String} {event : Value}

theorem tokensFit_of (hquantity : ∀ line ∈ usageLines event, 0 ≤ decimal line.quantity)
    (h : HeldSum (quantities types (usageLines event))) :
    TokensFit (tokenTotal types (usageLines event)) (quantities types (usageLines event)).sum := by
  have hexact := tokenTotal_exact hquantity h.1
  exact ⟨hexact, hexact ▸ h.2⟩

/-- A written sum is of 20 digits. -/
theorem tokensFit_digits (hquantity : ∀ line ∈ usageLines event, 0 ≤ decimal line.quantity)
    (h : TokensFit (tokenTotal types (usageLines event)) (quantities types (usageLines event)).sum) :
    Representable precision (quantities types (usageLines event)).sum ∧ (quantities types (usageLines event)).sum < 10 ^ 29 := by
  obtain ⟨hexact, hlt⟩ := h
  rw [hexact] at hlt
  refine ⟨?_, hlt⟩
  rw [← hexact, tokenTotal_eq]
  exact representable_roundedSum (by decide) (fun _ => ⟨0, 0, by decide, by simp⟩) le_rfl (quantities_nonneg hquantity)

/-- The quantities of an event have the places of the columns. -/
theorem quantities_places (hvalid : usageEventSchema event = true) :
    ∃ c : Int, (quantities types (usageLines event)).sum = c * 10 ^ (-((9 : Nat) : Int)) := by
  apply sum_multiple
  intro x hx
  obtain ⟨line, hline, rfl⟩ := List.mem_map.mp hx
  obtain ⟨n, hvalue, -⟩ := decimalPattern_value (usageLines_decimal hvalid line (List.mem_filter.mp hline).1)
  exact ⟨n, by rw [hvalue, Int.cast_natCast]⟩

/-- A number of the column's places is stored as it is. -/
theorem stored_fits {x : ℚ} {c : Int} (hplaces : x = c * 10 ^ (-((9 : Nat) : Int))) (h : 0 ≤ x) (hlt : x < 10 ^ 29) :
    stored 9 x = c ∧ 0 ≤ c ∧ c < 10 ^ 38 := by
  have hpower := ten_zpow_pos (-((9 : Nat) : Int))
  have hbound : (10 : ℚ) ^ 29 = ((10 ^ 38 : Int) : ℚ) * 10 ^ (-((9 : Nat) : Int)) := by norm_num
  rw [hplaces] at h hlt
  rw [hbound] at hlt
  refine ⟨hplaces ▸ stored_multiple c, ?_, ?_⟩
  · exact_mod_cast nonneg_of_mul_nonneg_left h hpower
  · exact_mod_cast lt_of_mul_lt_mul_right hlt hpower.le

end Tokens

/-! ## The cost -/

section Cost

variable {localeCompare : String → String → Ordering} {version : Option ModelCostVersion} {usage : NormalizedUsage}

theorem decimal_amountText (x : ℚ) : decimal (amountText x) = halfUp (x * 10 ^ 18) * 10 ^ (-((18 : Nat) : Int)) := by
  have hscale : PrismaDecimal.toDecimalPlaces 18 x = halfUp (x * 10 ^ 18) * 10 ^ (-((18 : Nat) : Int)) := by
    unfold PrismaDecimal.toDecimalPlaces toScale
    rw [ten_zpow_neg_eighteen]
  have hinteger (n : Int) : (n : ℚ) * 10 ^ (-((18 : Nat) : Int)) * 10 ^ 18 = n := by
    rw [mul_assoc, ← zpow_natCast, ← zpow_add₀ (by norm_num)]
    simp
  unfold decimal amountText
  rw [value_toFixed, hscale, hinteger, halfUp_intCast]

/-- An amount fits the column, as it is stored too. -/
structure AmountFits (total : String) : Prop where
  range : decimal total < 10 ^ 20
  stored : 0 ≤ stored 18 (decimal total) ∧ stored 18 (decimal total) < 10 ^ 38

theorem amountFits_of {x : ℚ} (h : 0 ≤ x) (hlt : halfUp (x * 10 ^ 18) < 10 ^ 38) : AmountFits (amountText x) := by
  have hpower : (10 : ℚ) ^ 20 = ((10 ^ 38 : Int) : ℚ) * 10 ^ (-((18 : Nat) : Int)) := by norm_num
  constructor
  · rw [decimal_amountText, hpower, mul_lt_mul_iff_of_pos_right (ten_zpow_pos _)]
    exact_mod_cast hlt
  · rw [decimal_amountText, stored_multiple]
    exact ⟨halfUp_nonneg (mul_nonneg h (by positivity)), hlt⟩

theorem amountFits_of_lt {x : ℚ} (h : 0 ≤ x) (hlt : x < 10 ^ 20 - 1 / (2 * 10 ^ 18)) : AmountFits (amountText x) := by
  have hscaled : 0 ≤ x * 10 ^ 18 := mul_nonneg h (by positivity)
  have hle : halfUp (x * 10 ^ 18) ≤ 10 ^ 38 - 1 := by
    rw [halfUp_le_iff hscaled]
    push_cast
    linarith
  exact amountFits_of h (by omega)

theorem amount_over {x : ℚ} (h : 10 ^ 20 - 1 / (2 * 10 ^ 18) ≤ x) : ¬decimal (amountText x) < 10 ^ 20 := by
  have hpower : (10 : ℚ) ^ 20 = ((10 ^ 38 : Int) : ℚ) * 10 ^ (-((18 : Nat) : Int)) := by norm_num
  have hnonneg : 0 ≤ x := le_trans (by norm_num) h
  have hscaled : (0 : ℚ) ≤ x * 10 ^ 18 := mul_nonneg hnonneg (by positivity)
  rw [decimal_amountText, hpower, mul_lt_mul_iff_of_pos_right (ten_zpow_pos _), Int.cast_lt]
  intro hlt
  have hle : halfUp (x * 10 ^ 18) ≤ 10 ^ 38 - 1 := by omega
  rw [halfUp_le_iff hscaled] at hle
  push_cast at hle
  linarith

/-- A cost that is reported fits as it is, and has its currency. -/
theorem reported_fits {sourceCost : Value} (h : Runtime.sourceCostSchema sourceCost = true) (hnull : sourceCost ≠ .null) :
    AmountFits (amountText (decimal ((textOf (get sourceCost "amount")).getD ""))) ∧
      (textOf (get sourceCost "currency")).isSome = true := by
  have hcost : Runtime.isStrictObject [("amount", Runtime.decimal38_18), ("currency", Runtime.isText Runtime.currencyCodePattern),
      ("is_estimated", Runtime.isFlag)] [] sourceCost = true := by
    cases sourceCost with
    | null => exact absurd rfl hnull
    | _ => exact h
  have hamount : Runtime.decimal38_18 (get sourceCost "amount") = true := Runtime.isStrictObject_needed hcost (by simp)
  have hcurrency : Runtime.isText Runtime.currencyCodePattern (get sourceCost "currency") = true :=
    Runtime.isStrictObject_needed hcost (by simp)
  obtain ⟨s, hs, hpattern⟩ := Runtime.isText_elim hamount
  obtain ⟨currency, htext, -⟩ := Runtime.isText_elim hcurrency
  obtain ⟨n, hvalue, hlt⟩ := decimalPattern_value hpattern
  have hinteger : decimal s * 10 ^ 18 = ((n : Int) : ℚ) := by
    rw [hvalue, mul_assoc, ← zpow_natCast, ← zpow_add₀ (by norm_num)]
    simp
  rw [hs, htext]
  refine ⟨amountFits_of (decimalPattern_nonneg hpattern) ?_, rfl⟩
  show halfUp (decimal s * 10 ^ 18) < 10 ^ 38
  rw [hinteger, halfUp_intCast]
  exact_mod_cast hlt

/-- The rating of an admitted version: what is reported, the first rule that applies, or nothing. -/
theorem rateApplicationCost_cases (hadmitted : ∀ version' ∈ version, AdmittedCost version') :
    ∃ cost, rateApplicationCost localeCompare version usage = .ok cost ∧
      ((get usage.event "source_cost" ≠ .null ∧ cost = reportedCost (get usage.event "source_cost")) ∨
        (get usage.event "source_cost" = .null ∧ cost = unpricedCost version) ∨
        get usage.event "source_cost" = .null ∧ ∃ version' ∈ version, ∃ rule,
          FirstApplying localeCompare usage.event version'.rules rule ∧ cost = ruleCost version' rule usage.usageLines) := by
  by_cases hsource : get usage.event "source_cost" = .null
  · cases version with
    | none =>
      refine ⟨unpricedCost none, ?_, .inr (.inl ⟨hsource, rfl⟩)⟩
      unfold rateApplicationCost
      rw [hsource]
    | some version =>
      have hvalid : ∀ rule ∈ version.rules, ∃ conditions, ruleConditions rule = .ok conditions := by
        intro rule hrule
        obtain ⟨conditions, hconditions, -⟩ := ((hadmitted version rfl).rules rule hrule).conditions
        exact ⟨conditions, hconditions⟩
      rcases @rateApplicationCost_rule localeCompare _ _ hsource hvalid with ⟨hcost, -⟩ | ⟨rule, hfirst, hcost⟩
      · exact ⟨_, hcost, .inr (.inl ⟨hsource, rfl⟩)⟩
      · exact ⟨_, hcost, .inr (.inr ⟨hsource, version, rfl, rule, hfirst, rfl⟩)⟩
  · refine ⟨reportedCost (get usage.event "source_cost"), ?_, .inl ⟨hsource, rfl⟩⟩
    unfold rateApplicationCost
    split
    · rename_i hnull
      exact absurd hnull hsource
    · rename_i hnull
      exact absurd hnull hsource
    · rfl

/-- What a rating of the cost gives is an amount that fits, with its currency, or nothing. -/
structure CostFits (cost : CostRatingArtifact) : Prop where
  amount : ∀ total ∈ cost.total, AmountFits total
  priced : match cost.status with
    | .official => cost.total.isSome = true ∧ cost.currency.isSome = true
    | .unpriced => cost.total = none ∧ cost.currency = none

/-- The cost fits while the exact total of its rule and what the roundings may add do. -/
theorem cost_fits (hadmitted : ∀ version' ∈ version, AdmittedCost version')
    (hsource : Runtime.sourceCostSchema (get usage.event "source_cost") = true)
    (hquantity : ∀ line ∈ usage.usageLines, 0 ≤ decimal line.quantity)
    (h : get usage.event "source_cost" = .null → ∀ version' ∈ version, ∀ rule,
      FirstApplying localeCompare usage.event version'.rules rule →
        exactTotal rule usage.usageLines * (1 + drift precision ((pricedLines rule usage.usageLines).length + 1)) <
          10 ^ 20 - 1 / (2 * 10 ^ 18)) :
    ∃ cost, rateApplicationCost localeCompare version usage = .ok cost ∧ CostFits cost := by
  obtain ⟨cost, hcost, hcases⟩ := @rateApplicationCost_cases localeCompare _ usage hadmitted
  refine ⟨cost, hcost, ?_⟩
  rcases hcases with ⟨hreported, rfl⟩ | ⟨-, rfl⟩ | ⟨hnull, version', rfl, rule, hfirst, rfl⟩
  · obtain ⟨hamount, hcurrency⟩ := reported_fits hsource hreported
    refine ⟨fun total htotal => ?_, rfl, hcurrency⟩
    cases htotal
    exact hamount
  · refine ⟨fun total htotal => ?_, rfl, rfl⟩
    cases htotal
  · refine ⟨fun total htotal => ?_, rfl, rfl⟩
    cases htotal
    have hbound := (@accurate_ruleTotal rule _ hquantity).upper.trans_lt (h hnull version' rfl rule hfirst)
    exact amountFits_of_lt (ruleTotal_nonneg hquantity) hbound

end Cost

/-! ## The columns -/

/-- Tokens that fit are stored as they are, and their total is the sum as they are stored. -/
theorem tokens_stored {event : Value} (hvalid : usageEventSchema event = true)
    {cost : Option ModelCostVersion} {aiu : Option ModelAiuVersion} {localeCompare : String → String → Ordering}
    (hwithin : WithinColumns localeCompare cost aiu event) :
    TokensFit (PrismaDecimal.add (tokenTotals (usageLines event)).input (tokenTotals (usageLines event)).output)
        ((quantities inputTypes (usageLines event)).sum + (quantities outputTypes (usageLines event)).sum) ∧
      (0 ≤ stored 9 (tokenTotals (usageLines event)).input ∧ stored 9 (tokenTotals (usageLines event)).input < 10 ^ 38) ∧
      (0 ≤ stored 9 (tokenTotals (usageLines event)).output ∧ stored 9 (tokenTotals (usageLines event)).output < 10 ^ 38) ∧
      (0 ≤ stored 9 (tokenTotals (usageLines event)).cached ∧ stored 9 (tokenTotals (usageLines event)).cached < 10 ^ 38) ∧
      stored 9 (tokenTotals (usageLines event)).total =
        stored 9 (tokenTotals (usageLines event)).input + stored 9 (tokenTotals (usageLines event)).output ∧
      stored 9 (tokenTotals (usageLines event)).total < 10 ^ 38 := by
  have hquantity := usageLines_nonneg hvalid
  have hinput : (tokenTotals (usageLines event)).input = (quantities inputTypes (usageLines event)).sum :=
    tokenTotal_exact hquantity hwithin.input.1
  have houtput : (tokenTotals (usageLines event)).output = (quantities outputTypes (usageLines event)).sum :=
    tokenTotal_exact hquantity hwithin.output.1
  have hcached : (tokenTotals (usageLines event)).cached = (quantities cachedTypes (usageLines event)).sum :=
    tokenTotal_exact hquantity hwithin.cached.1
  have hnonneg (types : List String) : 0 ≤ (quantities types (usageLines event)).sum :=
    List.sum_nonneg (quantities_nonneg hquantity)
  have htotal : (tokenTotals (usageLines event)).total =
      (quantities inputTypes (usageLines event)).sum + (quantities outputTypes (usageLines event)).sum := by
    show PrismaDecimal.add (tokenTotals (usageLines event)).input (tokenTotals (usageLines event)).output = _
    rw [hinput, houtput]
    exact significant_of (by decide) hwithin.total.1 (add_nonneg (hnonneg _) (hnonneg _))
  obtain ⟨c, hc⟩ := @quantities_places inputTypes event hvalid
  obtain ⟨d, hd⟩ := @quantities_places outputTypes event hvalid
  obtain ⟨k, hk⟩ := @quantities_places cachedTypes event hvalid
  have hplaces : (quantities inputTypes (usageLines event)).sum + (quantities outputTypes (usageLines event)).sum =
      ((c + d : Int) : ℚ) * 10 ^ (-((9 : Nat) : Int)) := by
    rw [hc, hd]
    push_cast
    ring
  obtain ⟨hstoredInput, hinputRange⟩ := stored_fits hc (hnonneg _) hwithin.input.2
  obtain ⟨hstoredOutput, houtputRange⟩ := stored_fits hd (hnonneg _) hwithin.output.2
  obtain ⟨hstoredCached, hcachedRange⟩ := stored_fits hk (hnonneg _) hwithin.cached.2
  obtain ⟨hstoredTotal, htotalRange⟩ := stored_fits hplaces (add_nonneg (hnonneg _) (hnonneg _)) hwithin.total.2
  refine ⟨⟨htotal, htotal.trans_lt hwithin.total.2⟩, ?_⟩
  rw [hinput, houtput, hcached, htotal, hstoredInput, hstoredOutput, hstoredCached, hstoredTotal]
  exact ⟨hinputRange, houtputRange, hcachedRange, rfl, htotalRange.2⟩

theorem within_fit {localeCompare : String → String → Ordering} {costVersion : Option ModelCostVersion}
    {aiuVersion : Option ModelAiuVersion} {event : Value} (hvalid : usageEventSchema event = true)
    (hadmitted : ∀ version ∈ costVersion, AdmittedCost version)
    (hwithin : WithinColumns localeCompare costVersion aiuVersion event) :
    ∃ cost, rateApplicationCost localeCompare costVersion (normalizeUsageEvent event) = .ok cost ∧
      ColumnsFit cost (rateApplicationAiu aiuVersion (usageLines event)) (usageLines event) ∧
      RatingFits (usageLines event) cost (rateApplicationAiu aiuVersion (usageLines event)) := by
  have hquantity := usageLines_nonneg hvalid
  have hsource : Runtime.sourceCostSchema (get event "source_cost") = true := Runtime.isStrictObject_needed hvalid (by simp)
  obtain ⟨cost, hcost, hfits⟩ := @cost_fits localeCompare _ (normalizeUsageEvent event) hadmitted hsource hquantity
    hwithin.amount
  have hmicros := micros_fit hquantity hwithin.micros
  obtain ⟨htotal, hinput, houtput, hcached, hsum⟩ := tokens_stored hvalid hwithin
  refine ⟨cost, hcost, ⟨hmicros, fun total h => (hfits.amount total h).range, tokensFit_of hquantity hwithin.input,
    tokensFit_of hquantity hwithin.output, tokensFit_of hquantity hwithin.cached, htotal⟩, ?_⟩
  refine ⟨fun total h => ?_, fun total h => ?_, hinput, houtput, hcached, hsum, rateApplicationAiu_status _ _, ?_⟩
  · have hle := hmicros total h
    omega
  · have hstored := (hfits.amount total h).stored
    omega
  · have hpriced := hfits.priced
    cases hstatus : cost.status with
    | unpriced =>
      rw [hstatus] at hpriced
      exact hpriced
    | official =>
      rw [hstatus] at hpriced
      obtain ⟨total, hsome⟩ := Option.isSome_iff_exists.mp hpriced.1
      exact ⟨⟨total, hsome, (hfits.amount total hsome).stored.1⟩, hpriced.2⟩

theorem over_not_fit {localeCompare : String → String → Ordering} {costVersion : Option ModelCostVersion}
    {aiuVersion : Option ModelAiuVersion} {event : Value} (hvalid : usageEventSchema event = true)
    (hadmitted : ∀ version ∈ costVersion, AdmittedCost version)
    (hover : OverColumns localeCompare costVersion aiuVersion event) {cost : CostRatingArtifact}
    (hcost : rateApplicationCost localeCompare costVersion (normalizeUsageEvent event) = .ok cost) :
    ¬ColumnsFit cost (rateApplicationAiu aiuVersion (usageLines event)) (usageLines event) := by
  have hquantity := usageLines_nonneg hvalid
  intro hfit
  cases hover with
  | @micros version hversion hrated hbound =>
    cases hversion
    exact micros_over hquantity hrated hbound hfit.micros
  | @amount version rule hnull hversion hfirst hbound =>
    cases hversion
    have hconditions : ∀ rule ∈ version.rules, ∃ conditions, ruleConditions rule = .ok conditions := by
      intro rule hrule
      obtain ⟨conditions, hread, -⟩ := ((hadmitted version rfl).rules rule hrule).conditions
      exact ⟨conditions, hread⟩
    rcases @rateApplicationCost_rule localeCompare version (normalizeUsageEvent event) hnull hconditions with
      ⟨-, hnone⟩ | ⟨rule', hfirst', hrated⟩
    · obtain ⟨i, hi, happlies, -⟩ := hfirst
      exact hnone rule (List.mem_of_getElem? hi) happlies
    · rw [hrated] at hcost
      cases hcost
      rw [hfirst'.unique hfirst] at hfit
      exact amount_over (hbound.trans (@accurate_ruleTotal rule _ hquantity).lower) (hfit.amount _ rfl)
  | @tokens types htypes hover =>
    have hdigits : Representable precision (quantities types (usageLines event)).sum ∧
        (quantities types (usageLines event)).sum < 10 ^ 29 := by
      simp only [List.mem_cons, List.not_mem_nil, or_false] at htypes
      rcases htypes with rfl | rfl | rfl
      · exact tokensFit_digits hquantity hfit.input
      · exact tokensFit_digits hquantity hfit.output
      · exact tokensFit_digits hquantity hfit.cached
    rcases hover with hmore | hlarge
    · exact hmore hdigits.1
    · linarith [hdigits.2]
  | total hover =>
    obtain ⟨hexact, hlt⟩ := hfit.total
    rw [hexact] at hlt
    rcases hover with hmore | hlarge
    · rw [← hexact] at hmore
      exact hmore (representable_significant (by decide) _)
    · linarith

/-- An event that is valid with any usage. -/
def eventOf (usage : List (String × Value)) : Value :=
  match sampleEvent "0" with
  | .obj fields => .obj (fields.map fun field => if field.1 = "usage" then ("usage", .obj usage) else field)
  | v => v

def costVersionOf (rates : List CostRuleItem) : ModelCostVersion :=
  ⟨1, "USD", [⟨2, "default", 0, "all", .arr [], none, rates, CostRule.no_fixedAmount⟩]⟩

theorem costVersionOf_admitted {rates : List CostRuleItem} (hsize : rates.length ≤ 64) (hne : rates ≠ [])
    (hdistinct : (rates.map fun item => rateKey item.usageType item.unitKey).Nodup)
    (hrates : ∀ item ∈ rates, RateKeyed item.usageType item.unitKey ∧
      ∃ text, decimalPattern 19 18 text = true ∧ decimal text = item.amountPerUnit) :
    AdmittedCost (costVersionOf rates) where
  rules rule hrule := by
    rw [List.mem_singleton.mp hrule]
    have hname : bounded 1 120 "default" = true := by decide
    exact ⟨hname, .inl rfl, ⟨[], rfl, by decide⟩, nofun, hrates, .inr hne, hdistinct, hsize⟩
  priorities := rfl
  size := Nat.le_of_ble_eq_true rfl

def tokenAmount : CostRuleItem := ⟨3, "output_token", "", 1 / 500000, by norm_num⟩

def microRate (usageType : String) (unitSize : ℚ) (micros : Nat) (h : 0 < unitSize) : AiuRateItem :=
  ⟨4, usageType, "", unitSize, micros, h⟩

theorem million_pos : (0 : ℚ) < 1000000 := by norm_num

def largestAmount : CostRuleItem := ⟨3, "output_token", "", 99999999999999999999, by norm_num⟩

def largeRates : ModelAiuVersion :=
  ⟨4, [microRate "input_image" 1 9000000000000000000 (by norm_num), microRate "output_token" 1000000 0 million_pos,
    microRate "uncached_input_token" 1000000 0 million_pos]⟩

def largeEvent : Value :=
  eventOf [("input_images", .str "2"), ("output_tokens", .str "2"), ("uncached_input_tokens", .str "100000000000000000001")]

theorem large_written :
    (rateApplicationAiu (some largeRates) (usageLines largeEvent)).totalMicros = some 18000000000000000000 ∧
      (rateApplicationCost compare (some (costVersionOf [largestAmount])) (normalizeUsageEvent largeEvent)).toOption.map
          (·.total) = some (some "200000000000000000000.000000000000000000") ∧
      (tokenTotals (usageLines largeEvent)).input = 100000000000000000000 ∧
      (quantities inputTypes (usageLines largeEvent)).sum = 100000000000000000001 := by
  decide +kernel

end TokenPilot.Reconciliation
