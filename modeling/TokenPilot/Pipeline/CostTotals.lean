/-
  TokenPilot.Pipeline.CostTotals — which rule `rateApplicationCost` uses, and when its amounts
  are the exact ones rounded to 18 places.

  The rule is the first that applies, by priority and then by place in the version
  (`matchingRule_some`). The product of a line and every running sum keep 20 digits. An
  amount is the exact one rounded when 20 digits hold every product and every running sum, or
  when no half of its last place is as near to it as the roundings may reach (`cost_exact`).
-/

import TokenPilot.Library.Accuracy
import TokenPilot.Pipeline.Rating

namespace TokenPilot.Pipeline

open TokenPilot.Library TokenPilot.Quota
open TokenPilot.Runtime (Value)
open TokenPilot.Runtime.Connector (get)

/-! ## A stable sort -/

section Stable

variable {α : Type} (key : α → Int)

/-- Before another by key, and by place where the keys are the same. -/
def Precedes (x y : α × Nat) : Prop := key x.1 < key y.1 ∨ key x.1 = key y.1 ∧ x.2 < y.2

theorem orderedInsert_precedes {x : α × Nat} {l : List (α × Nat)} (hplace : ∀ y ∈ l, x.2 < y.2)
    (h : l.Pairwise (Precedes key)) :
    (l.orderedInsert (fun a b => key a.1 ≤ key b.1) x).Pairwise (Precedes key) := by
  induction l with
  | nil => exact List.pairwise_singleton _ _
  | cons y rest ih =>
    obtain ⟨hfirst, hrest⟩ := List.pairwise_cons.mp h
    rw [List.orderedInsert_cons]
    split
    · rename_i hle
      refine List.pairwise_cons.mpr ⟨?_, h⟩
      intro z hz
      have hxz : x.2 < z.2 := hplace z hz
      have hkey : key x.1 ≤ key z.1 := by
        rcases List.mem_cons.mp hz with rfl | hz
        · exact hle
        · rcases hfirst z hz with hlt | ⟨heq, -⟩
          · omega
          · omega
      rcases hkey.lt_or_eq with hlt | heq
      · exact .inl hlt
      · exact .inr ⟨heq, hxz⟩
    · rename_i hlt
      refine List.pairwise_cons.mpr ⟨?_, ih (fun z hz => hplace z (List.mem_cons_of_mem _ hz)) hrest⟩
      intro z hz
      rcases (List.mem_orderedInsert _).mp hz with rfl | hz
      · exact .inl (not_le.mp hlt)
      · exact hfirst z hz

/-- Insertion sort keeps the order of what has the same key. -/
theorem insertionSort_precedes {l : List (α × Nat)} (h : (l.map Prod.snd).Pairwise (· < ·)) :
    (l.insertionSort fun a b => key a.1 ≤ key b.1).Pairwise (Precedes key) := by
  induction l with
  | nil => exact .nil
  | cons x rest ih =>
    obtain ⟨hfirst, hrest⟩ := List.pairwise_cons.mp h
    apply orderedInsert_precedes key _ (ih hrest)
    intro y hy
    exact hfirst y.2 (List.mem_map_of_mem ((List.mem_insertionSort _).mp hy))

/-- The sorted list is the list with its places, sorted by key and place. -/
theorem insertionSort_indexed (l : List α) : ∃ indexed : List (α × Nat),
    indexed.map Prod.fst = l.insertionSort (fun a b => key a ≤ key b) ∧ indexed.Perm l.zipIdx ∧
      indexed.Pairwise (Precedes key) := by
  refine ⟨l.zipIdx.insertionSort fun a b => key a.1 ≤ key b.1, ?_, List.perm_insertionSort _ _,
    insertionSort_precedes key ?_⟩
  · rw [List.map_insertionSort (fun a b : α × Nat => key a.1 ≤ key b.1) (fun a b => key a ≤ key b) Prod.fst _
      fun _ _ _ _ => Iff.rfl, List.zipIdx_map_fst]
  · rw [List.zipIdx_map_snd]
    exact List.pairwise_lt_range'

end Stable

/-! ## The rule -/

section Rules

variable (localeCompare : String → String → Ordering) (event : Value)

/-- The conditions of the rule are valid and hold under its match mode. -/
def Applies (rule : CostRule) : Prop := ∃ conditions, ruleConditions rule = .ok conditions ∧
  ruleMatches rule (conditions.map (matchesCostCondition localeCompare event)) = true

/-- The first rule that applies, by priority and then by place. -/
def FirstApplying (rules : List CostRule) (rule : CostRule) : Prop := ∃ i : Nat, rules[i]? = some rule ∧
  Applies localeCompare event rule ∧ ∀ (j : Nat) (other : CostRule), rules[j]? = some other →
    Applies localeCompare event other → rule.priority < other.priority ∨ rule.priority = other.priority ∧ i ≤ j

variable {localeCompare event}

theorem firstMatching_some {rules : List CostRule} {rule : CostRule}
    (h : firstMatching localeCompare event rules = .ok (some rule)) :
    ∃ before after, rules = before ++ rule :: after ∧ Applies localeCompare event rule ∧
      ∀ other ∈ before, ¬ Applies localeCompare event other := by
  induction rules with
  | nil => cases h
  | cons first rest ih =>
    unfold firstMatching at h
    cases hconditions : ruleConditions first with
    | error failure =>
      rw [hconditions] at h
      cases h
    | ok conditions =>
      rw [hconditions] at h
      simp only [bind, Except.bind, pure, Except.pure] at h
      split at h
      · rename_i hmatch
        cases h
        exact ⟨[], rest, rfl, ⟨conditions, hconditions, hmatch⟩, by simp⟩
      · rename_i hmatch
        obtain ⟨before, after, rfl, happlies, hbefore⟩ := ih h
        refine ⟨first :: before, after, rfl, happlies, ?_⟩
        intro other hother
        rcases List.mem_cons.mp hother with rfl | hother
        · rintro ⟨conditions', hconditions', hmatch'⟩
          rw [hconditions] at hconditions'
          cases hconditions'
          exact hmatch hmatch'
        · exact hbefore other hother

theorem firstMatching_none {rules : List CostRule} (h : firstMatching localeCompare event rules = .ok none) :
    ∀ rule ∈ rules, ¬ Applies localeCompare event rule := by
  induction rules with
  | nil => simp
  | cons first rest ih =>
    unfold firstMatching at h
    cases hconditions : ruleConditions first with
    | error failure =>
      rw [hconditions] at h
      cases h
    | ok conditions =>
      rw [hconditions] at h
      simp only [bind, Except.bind, pure, Except.pure] at h
      split at h
      · cases h
      · rename_i hmatch
        intro rule hrule
        rcases List.mem_cons.mp hrule with rfl | hrule
        · rintro ⟨conditions', hconditions', hmatch'⟩
          rw [hconditions] at hconditions'
          cases hconditions'
          exact hmatch hmatch'
        · exact ih h rule hrule

theorem matchingRule_some {rules : List CostRule} {rule : CostRule}
    (h : matchingRule localeCompare rules event = .ok (some rule)) : FirstApplying localeCompare event rules rule := by
  obtain ⟨before, after, hsorted, happlies, hbefore⟩ := firstMatching_some h
  obtain ⟨indexed, hfst, hperm, hprecedes⟩ := insertionSort_indexed CostRule.priority rules
  rw [hsorted] at hfst
  obtain ⟨left, right, rfl, hleft, hright⟩ := List.map_eq_append_iff.mp hfst
  obtain ⟨⟨rule', i⟩, right, rfl, rfl, -⟩ := List.map_eq_cons_iff.mp hright
  have hplace : (rule', i) ∈ rules.zipIdx := hperm.mem_iff.mp (by simp)
  refine ⟨i, List.mk_mem_zipIdx_iff_getElem?.mp hplace, happlies, ?_⟩
  intro j other hother hother'
  have hmem : (other, j) ∈ left ++ (rule', i) :: right := hperm.mem_iff.mpr (List.mk_mem_zipIdx_iff_getElem?.mpr hother)
  rcases List.mem_append.mp hmem with hmem | hmem
  · exact absurd hother' (hbefore other (by rw [← hleft]; exact List.mem_map_of_mem (f := Prod.fst) hmem))
  · rcases List.mem_cons.mp hmem with heq | hmem
    · cases heq
      exact .inr ⟨rfl, le_rfl⟩
    · rcases (List.pairwise_cons.mp (List.pairwise_append.mp hprecedes).2.1).1 _ hmem with hlt | ⟨heq, hlt⟩
      · exact .inl hlt
      · exact .inr ⟨heq, hlt.le⟩

theorem matchingRule_none {rules : List CostRule} (h : matchingRule localeCompare rules event = .ok none) :
    ∀ rule ∈ rules, ¬ Applies localeCompare event rule := by
  intro rule hrule
  exact firstMatching_none h rule ((List.mem_insertionSort _).mpr hrule)

theorem FirstApplying.unique {rules : List CostRule} {rule rule' : CostRule} (h : FirstApplying localeCompare event rules rule)
    (h' : FirstApplying localeCompare event rules rule') : rule = rule' := by
  obtain ⟨i, hi, happlies, hfirst⟩ := h
  obtain ⟨j, hj, happlies', hfirst'⟩ := h'
  have hij := hfirst j rule' hj happlies'
  have hji := hfirst' i rule hi happlies
  have heq : i = j := by omega
  subst heq
  exact Option.some.inj (hi.symm.trans hj)

end Rules

/-! ## Exact amounts -/

/-- The relevant lines that have a rate, with it. -/
def pricedLines (rule : CostRule) (usage : List ApplicationUsageLine) : List (ApplicationUsageLine × CostRuleItem) :=
  (usage.filter relevant).filterMap fun line =>
    (rateOf (fun item => rateKey item.usageType item.unitKey) rule.items line).map fun rate => (line, rate)

def exactProduct (priced : ApplicationUsageLine × CostRuleItem) : ℚ :=
  decimal priced.1.quantity * priced.2.amountPerUnit

def exactTotal (rule : CostRule) (usage : List ApplicationUsageLine) : ℚ :=
  rule.fixedAmount.getD 0 + ((pricedLines rule usage).map exactProduct).sum

/-- What a rule costs when only the amounts that are written are rounded. -/
def exactCost (version : ModelCostVersion) (rule : CostRule) (usage : List ApplicationUsageLine) : CostRatingArtifact :=
  { ruleCost version rule usage with
    total := some (amountText (exactTotal rule usage))
    lines := (rule.fixedAmount.map fixedCostLine).toList ++
      (pricedLines rule usage).map fun priced => ratedCostLine (priced.1, priced.2, exactProduct priced) }

/-- The cost of the first rule that applies, if one does. -/
def ChosenCost (localeCompare : String → String → Ordering) (version : ModelCostVersion) (usage : NormalizedUsage)
    (cost : CostRatingArtifact) : Prop :=
  (cost = unpricedCost (some version) ∧ ∀ rule ∈ version.rules, ¬ Applies localeCompare usage.event rule) ∨
    ∃ rule, FirstApplying localeCompare usage.event version.rules rule ∧ cost = ruleCost version rule usage.usageLines

/-- The exact cost of the first rule that applies, if one does. -/
def ExactCost (localeCompare : String → String → Ordering) (version : ModelCostVersion) (usage : NormalizedUsage)
    (cost : CostRatingArtifact) : Prop :=
  (cost = unpricedCost (some version) ∧ ∀ rule ∈ version.rules, ¬ Applies localeCompare usage.event rule) ∨
    ∃ rule, FirstApplying localeCompare usage.event version.rules rule ∧ cost = exactCost version rule usage.usageLines

/-- 20 digits hold every product and every running sum. -/
structure CostHeld (rule : CostRule) (usage : List ApplicationUsageLine) : Prop where
  product : ∀ priced ∈ pricedLines rule usage, Representable precision (exactProduct priced)
  sums : SumsHeld precision (rule.fixedAmount.getD 0) ((pricedLines rule usage).map exactProduct)

/-- 20 digits hold the amounts, or no half of the 18th place is where their roundings may reach:
    one of a product, and one more for every line of the total. -/
structure AmountsKept (rule : CostRule) (usage : List ApplicationUsageLine) : Prop where
  product : ∀ priced ∈ pricedLines rule usage,
    Representable precision (exactProduct priced) ∨ ClearOfHalves precision 1 (exactProduct priced * 10 ^ 18)
  total : CostHeld rule usage ∨
    ClearOfHalves precision ((pricedLines rule usage).length + 1) (exactTotal rule usage * 10 ^ 18)

/-- 20 digits hold what the amounts round to; a fixed amount alone is not rounded. -/
structure AmountsRepresentable (rule : CostRule) (usage : List ApplicationUsageLine) : Prop where
  product : ∀ priced ∈ pricedLines rule usage,
    Representable precision (PrismaDecimal.toDecimalPlaces 18 (exactProduct priced))
  total : pricedLines rule usage ≠ [] → Representable precision (PrismaDecimal.toDecimalPlaces 18 (exactTotal rule usage))

section Amounts

variable {rule : CostRule} {usage : List ApplicationUsageLine}

theorem ten_zpow_neg_eighteen (x : ℚ) : x / 10 ^ (-((18 : Nat) : Int)) = x * 10 ^ 18 := by
  rw [zpow_neg, div_inv_eq_mul, zpow_natCast]

theorem amountText_eq_iff {x y : ℚ} : amountText x = amountText y ↔ halfUp (x * 10 ^ 18) = halfUp (y * 10 ^ 18) := by
  have hscale (z : ℚ) : PrismaDecimal.toDecimalPlaces 18 z = halfUp (z * 10 ^ 18) * 10 ^ (-((18 : Nat) : Int)) := by
    unfold PrismaDecimal.toDecimalPlaces toScale
    rw [ten_zpow_neg_eighteen]
  have hinteger (n : Int) : (n : ℚ) * 10 ^ (-((18 : Nat) : Int)) * 10 ^ 18 = n := by
    rw [mul_assoc, ← zpow_natCast, ← zpow_add₀ (by norm_num)]
    simp
  constructor
  · intro h
    have hvalue := congrArg (fun text : String => Numeral.value text.toList) h
    simp only [amountText, value_toFixed, hscale, hinteger, halfUp_intCast] at hvalue
    exact_mod_cast mul_right_cancel₀ (ten_zpow_pos _).ne' hvalue
  · intro h
    unfold amountText
    rw [hscale, hscale, h]

/-- Of numbers with one text the one is rounded to a number of 20 digits when the other has 20. -/
theorem representable_of_amountText {x y : ℚ} (hy : Representable precision y) (h0 : 0 ≤ y)
    (h : amountText y = amountText x) : Representable precision (PrismaDecimal.toDecimalPlaces 18 x) := by
  have hround : PrismaDecimal.toDecimalPlaces 18 x = PrismaDecimal.toDecimalPlaces 18 y := by
    unfold PrismaDecimal.toDecimalPlaces toScale
    rw [ten_zpow_neg_eighteen, ten_zpow_neg_eighteen, amountText_eq_iff.mp h]
  rw [hround]
  exact hy.toScale h0 _

/-- A number that is off by some roundings has the text of the number while no half is near. -/
theorem amountText_accurate {k : Nat} {x y : ℚ} (h : Accurate precision k y x)
    (hclear : ClearOfHalves precision k (x * 10 ^ 18)) : amountText y = amountText x :=
  amountText_eq_iff.mpr (h.halfUp_mul_eq (by positivity) hclear)

theorem ratedLines_eq (rule : CostRule) (usage : List ApplicationUsageLine) : ratedLines rule usage =
    (pricedLines rule usage).map fun priced => (priced.1, priced.2, significant precision (exactProduct priced)) := by
  unfold ratedLines pricedLines
  rw [List.map_filterMap]
  congr 1
  funext line
  rw [Option.map_map]
  rfl

theorem ruleTotal_eq (rule : CostRule) (usage : List ApplicationUsageLine) :
    ruleTotal rule usage = roundedSum precision (rule.fixedAmount.getD 0)
      ((pricedLines rule usage).map fun priced => significant precision (exactProduct priced)) := by
  unfold ruleTotal roundedSum
  rw [ratedLines_eq, List.foldl_map, List.foldl_map]
  rfl

theorem exactProduct_nonneg (h : ∀ line ∈ usage, 0 ≤ decimal line.quantity) :
    ∀ priced ∈ pricedLines rule usage, 0 ≤ exactProduct priced := by
  intro priced hpriced
  obtain ⟨line, hline, hsome⟩ := List.mem_filterMap.mp hpriced
  obtain ⟨rate, -, rfl⟩ := Option.map_eq_some_iff.mp hsome
  exact mul_nonneg (h line (List.mem_of_mem_filter hline)) rate.amountPerUnit_nonneg

theorem fixedAmount_nonneg (rule : CostRule) : 0 ≤ rule.fixedAmount.getD 0 := by
  cases hfixed : rule.fixedAmount with
  | none => exact le_rfl
  | some amount => exact rule.fixedAmount_nonneg amount hfixed

theorem roundedProducts_nonneg (h : ∀ line ∈ usage, 0 ≤ decimal line.quantity) :
    ∀ x ∈ (pricedLines rule usage).map fun priced => significant precision (exactProduct priced), 0 ≤ x := by
  intro x hx
  obtain ⟨priced, hpriced, rfl⟩ := List.mem_map.mp hx
  exact significant_nonneg (exactProduct_nonneg h priced hpriced)

theorem accurate_product (h : ∀ line ∈ usage, 0 ≤ decimal line.quantity) {priced : ApplicationUsageLine × CostRuleItem}
    (hpriced : priced ∈ pricedLines rule usage) :
    Accurate precision 1 (significant precision (exactProduct priced)) (exactProduct priced) :=
  accurate_significant (by decide) (exactProduct_nonneg h priced hpriced)

/-- The total is rounded once for its products, and once more for every line. -/
theorem accurate_ruleTotal (h : ∀ line ∈ usage, 0 ≤ decimal line.quantity) :
    Accurate precision ((pricedLines rule usage).length + 1) (ruleTotal rule usage) (exactTotal rule usage) := by
  have hfixed := (@Accurate.refl precision _ (fixedAmount_nonneg rule)).mono (Nat.zero_le 1)
  have hproducts : Accurate precision 1
      ((pricedLines rule usage).map fun priced => significant precision (exactProduct priced)).sum
      ((pricedLines rule usage).map exactProduct).sum :=
    Accurate.sum fun priced hpriced => accurate_product h hpriced
  have hsum := accurate_roundedSum (show 0 < precision by decide) (fixedAmount_nonneg rule)
    (@roundedProducts_nonneg rule _ h)
  rw [List.length_map] at hsum
  rw [ruleTotal_eq, Nat.add_comm]
  exact (hfixed.add hproducts).trans hsum

theorem ruleTotal_nonneg (h : ∀ line ∈ usage, 0 ≤ decimal line.quantity) : 0 ≤ ruleTotal rule usage :=
  (accurate_ruleTotal h).nonneg

theorem ruleTotal_held (h : ∀ line ∈ usage, 0 ≤ decimal line.quantity) (hheld : CostHeld rule usage) :
    ruleTotal rule usage = exactTotal rule usage := by
  have hproducts : ((pricedLines rule usage).map fun priced => significant precision (exactProduct priced)) =
      (pricedLines rule usage).map exactProduct :=
    List.map_congr_left fun priced hpriced =>
      significant_of (by decide) (hheld.product priced hpriced) (exactProduct_nonneg h priced hpriced)
  have hnonneg := @roundedProducts_nonneg rule _ h
  rw [ruleTotal_eq]
  rw [hproducts] at hnonneg ⊢
  exact roundedSum_of (by decide) (fixedAmount_nonneg rule) hnonneg hheld.sums

/-- The amounts of a rule are the exact ones, rounded to 18 places. -/
theorem ruleCost_exact (version : ModelCostVersion) (h : ∀ line ∈ usage, 0 ≤ decimal line.quantity)
    (hkept : AmountsKept rule usage) : ruleCost version rule usage = exactCost version rule usage := by
  have hlines : (ratedLines rule usage).map ratedCostLine =
      (pricedLines rule usage).map fun priced => ratedCostLine (priced.1, priced.2, exactProduct priced) := by
    rw [ratedLines_eq, List.map_map]
    refine List.map_congr_left fun priced hpriced => ?_
    have htext : amountText (significant precision (exactProduct priced)) = amountText (exactProduct priced) := by
      rcases hkept.product priced hpriced with hheld | hclear
      · rw [significant_of (by decide) hheld (exactProduct_nonneg h priced hpriced)]
      · exact amountText_accurate (accurate_product h hpriced) hclear
    show ratedCostLine _ = _
    unfold ratedCostLine
    simp only
    rw [htext]
  have htotal : amountText (ruleTotal rule usage) = amountText (exactTotal rule usage) := by
    rcases hkept.total with hheld | hclear
    · rw [ruleTotal_held h hheld]
    · exact amountText_accurate (accurate_ruleTotal h) hclear
  unfold exactCost ruleCost
  simp only
  rw [hlines, htotal]

/-- Amounts that are the exact ones are of 20 digits. -/
theorem amounts_representable {version : ModelCostVersion} (h : ∀ line ∈ usage, 0 ≤ decimal line.quantity)
    (hexact : ruleCost version rule usage = exactCost version rule usage) : AmountsRepresentable rule usage := by
  constructor
  · intro priced hpriced
    have hlines : (ratedLines rule usage).map ratedCostLine =
        (pricedLines rule usage).map fun priced => ratedCostLine (priced.1, priced.2, exactProduct priced) :=
      List.append_cancel_left (congrArg CostRatingArtifact.lines hexact)
    rw [ratedLines_eq, List.map_map, List.map_inj_left] at hlines
    have htext := Option.some.inj (congrArg CostLine.amount (hlines priced hpriced))
    have hnonneg := exactProduct_nonneg h priced hpriced
    exact representable_of_amountText (significant_representable (by decide) hnonneg) (significant_nonneg hnonneg) htext
  · intro hpriced
    have htext := Option.some.inj (congrArg CostRatingArtifact.total hexact)
    refine representable_of_amountText ?_ (ruleTotal_nonneg h) htext
    rw [ruleTotal_eq]
    refine representable_roundedSum (by decide) (fun hnil => ?_) (fixedAmount_nonneg rule) (roundedProducts_nonneg h)
    exact absurd (List.map_eq_nil_iff.mp hnil) hpriced

end Amounts

/-! ## The cost -/

theorem firstMatching_total {localeCompare : String → String → Ordering} {event : Value} {rules : List CostRule}
    (h : ∀ rule ∈ rules, ∃ conditions, ruleConditions rule = .ok conditions) :
    ∃ found, firstMatching localeCompare event rules = .ok found := by
  induction rules with
  | nil => exact ⟨none, rfl⟩
  | cons rule rest ih =>
    obtain ⟨conditions, hconditions⟩ := h rule List.mem_cons_self
    unfold firstMatching
    rw [hconditions]
    simp only [bind, Except.bind, pure, Except.pure]
    split
    · exact ⟨some rule, rfl⟩
    · exact ih fun other hother => h other (List.mem_cons_of_mem _ hother)

/-- The cost of an event without a source cost is that of the first rule that applies. -/
theorem rateApplicationCost_rule {localeCompare : String → String → Ordering} {version : ModelCostVersion}
    {usage : NormalizedUsage} (hsource : get usage.event "source_cost" = .null)
    (hvalid : ∀ rule ∈ version.rules, ∃ conditions, ruleConditions rule = .ok conditions) :
    (rateApplicationCost localeCompare (some version) usage = .ok (unpricedCost (some version)) ∧
        ∀ rule ∈ version.rules, ¬ Applies localeCompare usage.event rule) ∨
      ∃ rule, FirstApplying localeCompare usage.event version.rules rule ∧
        rateApplicationCost localeCompare (some version) usage = .ok (ruleCost version rule usage.usageLines) := by
  have hsorted : ∀ rule ∈ version.rules.insertionSort fun a b => a.priority ≤ b.priority,
      ∃ conditions, ruleConditions rule = .ok conditions :=
    fun rule hrule => hvalid rule ((List.mem_insertionSort _).mp hrule)
  obtain ⟨found, hfound⟩ : ∃ found, matchingRule localeCompare version.rules usage.event = .ok found :=
    firstMatching_total hsorted
  unfold rateApplicationCost
  rw [hsource]
  simp only [hfound, bind, Except.bind, pure, Except.pure]
  cases found with
  | none => exact .inl ⟨rfl, matchingRule_none hfound⟩
  | some rule => exact .inr ⟨rule, matchingRule_some hfound, rfl⟩

/-- The rule is always the first one that applies. Its amounts are the exact ones, rounded to 18
    places, when 20 digits hold them or no half is near to them, and only when 20 digits hold
    what they round to. -/
theorem cost_exact (localeCompare : String → String → Ordering) (version : ModelCostVersion) {usage : NormalizedUsage}
    (hsource : get usage.event "source_cost" = .null)
    (hvalid : ∀ rule ∈ version.rules, ∃ conditions, ruleConditions rule = .ok conditions)
    (hquantity : ∀ line ∈ usage.usageLines, 0 ≤ decimal line.quantity) :
    ∃ cost, rateApplicationCost localeCompare (some version) usage = .ok cost ∧
      ChosenCost localeCompare version usage cost ∧
      ((∀ rule, FirstApplying localeCompare usage.event version.rules rule → AmountsKept rule usage.usageLines) →
        ExactCost localeCompare version usage cost) ∧
      (ExactCost localeCompare version usage cost →
        ∀ rule, FirstApplying localeCompare usage.event version.rules rule → AmountsRepresentable rule usage.usageLines) := by
  rcases rateApplicationCost_rule hsource hvalid with ⟨hcost, hnone⟩ | ⟨rule, hfirst, hcost⟩
  · refine ⟨_, hcost, .inl ⟨rfl, hnone⟩, fun _ => .inl ⟨rfl, hnone⟩, ?_⟩
    rintro - rule ⟨i, hi, happlies, -⟩
    exact absurd happlies (hnone rule (List.mem_of_getElem? hi))
  · refine ⟨_, hcost, .inr ⟨rule, hfirst, rfl⟩, fun hkept => .inr ⟨rule, hfirst, ?_⟩, ?_⟩
    · exact ruleCost_exact version hquantity (hkept rule hfirst)
    · rintro hexact other hother
      rw [hother.unique hfirst]
      rcases hexact with ⟨hunpriced, -⟩ | ⟨rule', hfirst', hexact⟩
      · cases congrArg CostRatingArtifact.status hunpriced
      · rw [← hfirst.unique hfirst'] at hexact
        exact amounts_representable hquantity hexact

def tokenPrice (coefficient places : Nat) : CostRule where
  id := 1
  name := "default"
  priority := 0
  matchMode := "all"
  conditionsJson := .arr []
  fixedAmount := none
  items := [⟨2, "output_token", "", coefficient / 10 ^ places, by positivity⟩]
  fixedAmount_nonneg := nofun

def tokenVersion (coefficient places : Nat) : ModelCostVersion := ⟨0, "USD", [tokenPrice coefficient places]⟩

def tokenUsage (quantity : String) : NormalizedUsage := ⟨.obj [], [⟨"output_token", none, quantity⟩]⟩

/-- A hundred tokens at 0.000002 each. -/
theorem hundred_tokens_exact : ∃ cost, rateApplicationCost compare (some (tokenVersion 2 6)) (tokenUsage "100") = .ok cost ∧
    ChosenCost compare (tokenVersion 2 6) (tokenUsage "100") cost ∧
    ExactCost compare (tokenVersion 2 6) (tokenUsage "100") cost := by
  obtain ⟨cost, hcost, hchosen, hexact, -⟩ := @cost_exact compare (tokenVersion 2 6) (tokenUsage "100") rfl
    (fun rule hrule => by rw [List.mem_singleton.mp hrule]; exact ⟨[], rfl⟩) (by decide +kernel)
  refine ⟨cost, hcost, hchosen, hexact ?_⟩
  rintro rule ⟨i, hi, -, -⟩
  rw [List.mem_singleton.mp (List.mem_of_getElem? hi)]
  have hproduct : ∀ priced ∈ pricedLines (tokenPrice 2 6) (tokenUsage "100").usageLines,
      ClearOfHalves precision 1 (exactProduct priced * 10 ^ 18) := by decide +kernel
  exact ⟨fun priced hpriced => .inr (hproduct priced hpriced), .inr (by decide +kernel)⟩

theorem rounded_total :
    (rateApplicationCost compare (some (tokenVersion 1000000000000000001 18)) (tokenUsage "123")).toOption.map (·.total) =
        some (some "123.000000000000000120") ∧
      amountText (exactTotal (tokenPrice 1000000000000000001 18) (tokenUsage "123").usageLines) =
        "123.000000000000000123" := by
  decide +kernel

/-- At an amount of 18 places, 123 tokens cost 21 digits, of which the total has 20. -/
theorem last_place_lost : ¬ ∃ cost,
    rateApplicationCost compare (some (tokenVersion 1000000000000000001 18)) (tokenUsage "123") = .ok cost ∧
      ExactCost compare (tokenVersion 1000000000000000001 18) (tokenUsage "123") cost := by
  rintro ⟨cost, hcost, hexact⟩
  obtain ⟨hrounded, htext⟩ := rounded_total
  rw [hcost] at hrounded
  rcases hexact with ⟨rfl, -⟩ | ⟨rule, ⟨i, hi, -⟩, rfl⟩
  · cases hrounded
  · rw [List.mem_singleton.mp (List.mem_of_getElem? hi)] at hrounded
    have htotal : amountText (exactTotal (tokenPrice 1000000000000000001 18) (tokenUsage "123").usageLines) =
        "123.000000000000000120" := Option.some.inj (Option.some.inj hrounded)
    rw [htext] at htotal
    revert htotal
    decide +kernel

end TokenPilot.Pipeline
