/-
  TokenPilot.Reconciliation.Determined — when the output of `reconcileSnapshots` is sound,
  complete and the same for every order of the rows.

  `reconciled_iff`: that is so exactly when `Determined` holds of the rows. The subtraction of
  two costs is rounded to 20 digits and the delta to 18 decimals, so a cost difference has to
  fit (`CostExact`); the rows of a key that one side has alone are not looked into; and of
  several rows of a key the first is compared and shown, so which one is first must make no
  difference (`Alike`).
-/

import TokenPilot.Reconciliation.Agreement

namespace TokenPilot.Reconciliation

open TokenPilot.Library
open TokenPilot.Pipeline (decimal precision PrismaDecimal.minus)

structure Reconciled (dateParse : String → Option Int) (pgRows chRows : List ReconciliationSnapshotRow)
    (tolerance : ReconciliationTolerance) (watermark : Option Watermark) (output : List ReconciliationDiff) : Prop where
  empty_iff : output = [] ↔ Consistent dateParse pgRows chRows tolerance watermark
  announced : List.Forall₂ (Announces pgRows chRows) (violations dateParse pgRows chRows tolerance watermark) output
  permuted : ∀ pgRows' chRows' : List ReconciliationSnapshotRow, pgRows'.Perm pgRows → chRows'.Perm chRows →
    reconcileSnapshots dateParse pgRows' chRows' tolerance watermark = .ok output

/-! ## When the output is that -/

/-- A cost difference within the tolerance stays there when it is rounded; one beyond it has
    no more than 20 digits and 18 decimals. -/
def CostExact (tolerance d : ℚ) : Prop :=
  if |d| ≤ tolerance then significant precision |d| ≤ tolerance
  else Representable precision d ∧ ∃ c : Int, d = c * 10 ^ (-18 : Int)

/-- Two pairs of rows of a key that give the same differences. -/
structure AlikePair (tolerance : ReconciliationTolerance) (pg ch pg' ch' : ReconciliationSnapshotRow) : Prop where
  conflict : (pg.payloadHashConflict || ch.payloadHashConflict) = (pg'.payloadHashConflict || ch'.payloadHashConflict)
  fingerprint : pg.modelIdentityFingerprint = ch.modelIdentityFingerprint ↔
    pg'.modelIdentityFingerprint = ch'.modelIdentityFingerprint
  costVersion : pg.costVersionId = ch.costVersionId ↔ pg'.costVersionId = ch'.costVersionId
  aiuVersion : pg.aiuVersionId = ch.aiuVersionId ↔ pg'.aiuVersionId = ch'.aiuVersionId
  queued : tolerance.providerCost < |exactCost pg ch| → pending pg ch = pending pg' ch'
  late : integer pg.lateEventCount = integer pg'.lateEventCount
  adjustments : integer pg.unprojectedAdjustmentCount = integer pg'.unprojectedAdjustmentCount

structure Alike (tolerance : ReconciliationTolerance) (sides sides' : Sides) : Prop where
  pgMetrics : sides.pg.map (·.metrics) = sides'.pg.map (·.metrics)
  chMetrics : sides.ch.map (·.metrics) = sides'.ch.map (·.metrics)
  samples : sides.samples = sides'.samples
  pair : ∀ pg ∈ sides.pg, ∀ ch ∈ sides.ch, ∀ pg' ∈ sides'.pg, ∀ ch' ∈ sides'.ch, AlikePair tolerance pg ch pg' ch'

/-- The rows of a side that some order puts first. -/
def firsts (rows : List ReconciliationSnapshotRow) : List (Option ReconciliationSnapshotRow) :=
  if rows.isEmpty then [none] else rows.map some

/-- Rows that some order of the two lists puts first for the key. -/
def CanLead (pgRows chRows : List ReconciliationSnapshotRow) (key : String) (sides : Sides) : Prop :=
  sides.pg ∈ firsts (rowsOf key pgRows) ∧ sides.ch ∈ firsts (rowsOf key chRows)

structure Determined (pgRows chRows : List ReconciliationSnapshotRow) (tolerance : ReconciliationTolerance) : Prop where
  cost : ∀ pg ∈ pgRows, ∀ ch ∈ chRows, pg.dimensions = ch.dimensions → CostExact tolerance.providerCost (exactCost pg ch)
  pgAlone : ∀ pg ∈ pgRows, (∀ ch ∈ chRows, pg.dimensions ≠ ch.dimensions) →
    pg.payloadHashConflict = false ∧ integer pg.lateEventCount = 0 ∧ integer pg.unprojectedAdjustmentCount = 0
  chAlone : ∀ ch ∈ chRows, (∀ pg ∈ pgRows, pg.dimensions ≠ ch.dimensions) → ch.payloadHashConflict = false
  alike : ∀ key sides sides', CanLead pgRows chRows key sides → CanLead pgRows chRows key sides' →
    Alike tolerance sides sides'

/-! ## Cost differences -/

theorem minus_abs (pg ch : ReconciliationSnapshotRow) : |costDelta pg ch| = significant precision |exactCost pg ch| :=
  abs_significant _ _

theorem signed_value (pg ch : ReconciliationSnapshotRow) :
    decimal (toFixed 18 (costDelta pg ch)) = toScale (-18) (significant precision (exactCost pg ch)) := by
  unfold decimal
  rw [value_toFixed]
  unfold toScale
  rw [div_eq_mul_inv, ← zpow_neg, neg_neg, zpow_ofNat]
  rfl

theorem costExact_iff (tolerance : ReconciliationTolerance) (pg ch : ReconciliationSnapshotRow) :
    ((tolerance.providerCost < |costDelta pg ch| ↔ tolerance.providerCost < |exactCost pg ch|) ∧
      (tolerance.providerCost < |exactCost pg ch| → decimal (toFixed 18 (costDelta pg ch)) = exactCost pg ch)) ↔
    CostExact tolerance.providerCost (exactCost pg ch) := by
  rw [minus_abs, signed_value]
  unfold CostExact
  by_cases hwithin : |exactCost pg ch| ≤ tolerance.providerCost
  · rw [if_pos hwithin]
    simp [not_lt.mpr hwithin]
  · have hbeyond := not_le.mp hwithin
    rw [if_neg hwithin, ← toScale_significant_iff (by decide)]
    constructor
    · exact fun h => h.2 hbeyond
    · intro h
      refine ⟨iff_of_true ?_ hbeyond, fun _ => h⟩
      have hself := significant_eq (by decide) ((toScale_significant_iff (by decide) _).mp h).1
      rwa [← abs_significant, hself]

/-! ## Rows that lead alike give the same differences -/

theorem diff_congr {sides sides' : Sides} (hpg : sides.pg.map (·.metrics) = sides'.pg.map (·.metrics))
    (hch : sides.ch.map (·.metrics) = sides'.ch.map (·.metrics)) (hsamples : sides.samples = sides'.samples)
    (type : ReconciliationDiffType) (dimensions : Option ReconciliationDimensions) (deltaValues : PartialMetrics)
    (count amount : Option String) (explanation : String) :
    diff type dimensions sides deltaValues count amount explanation =
      diff type dimensions sides' deltaValues count amount explanation := by
  unfold diff
  rw [hpg, hch, hsamples]

section Congruence

variable {dateParse : String → Option Int} {tolerance : ReconciliationTolerance}

theorem pairedDiffs_congr {pg ch pg' ch' : ReconciliationSnapshotRow} (hpg : ValidRow dateParse pg)
    (hpg' : ValidRow dateParse pg') (hch' : ValidRow dateParse ch') (hdimensions : pg.dimensions = pg'.dimensions)
    (halike : Alike tolerance (paired pg ch) (paired pg' ch'))
    (hcost : tolerance.providerCost < |costDelta pg ch| → tolerance.providerCost < |exactCost pg ch|) :
    pairedDiffs pg ch tolerance = pairedDiffs pg' ch' tolerance := by
  have hpgMetrics : pg.metrics = pg'.metrics := Option.some.inj halike.pgMetrics
  have hchMetrics : ch.metrics = ch'.metrics := Option.some.inj halike.chMetrics
  have hpair := halike.pair pg rfl ch rfl pg' rfl ch' rfl
  have hdiff := diff_congr halike.pgMetrics halike.chMetrics halike.samples
  have hidentity : identityDiffs pg ch = identityDiffs pg' ch' := by
    unfold identityDiffs
    simp only [hdiff, hdimensions, hpair.conflict, decide_eq_decide.mpr hpair.fingerprint.not,
      decide_eq_decide.mpr hpair.costVersion.not, decide_eq_decide.mpr hpair.aiuVersion.not]
  have husage : usageDiffs pg ch = usageDiffs pg' ch' := by
    unfold usageDiffs usageDelta
    simp only [hdiff, hdimensions, hpgMetrics, hchMetrics]
  have hcosts : costDiffs pg ch tolerance = costDiffs pg' ch' tolerance := by
    have hsame : |costDelta pg ch| = |costDelta pg' ch'| := by
      unfold costDelta
      rw [hpgMetrics, hchMetrics]
    unfold costDiffs
    simp only [hdiff, hdimensions, hpgMetrics, hchMetrics]
    rw [parseCost_of _ hpg'.cost, parseCost_of _ hch'.cost]
    show (if tolerance.providerCost < |costDelta pg' ch'| then _ else _) =
      (if tolerance.providerCost < |costDelta pg' ch'| then _ else _)
    by_cases hbeyond : tolerance.providerCost < |costDelta pg' ch'|
    · rw [hpair.queued (hcost (hsame ▸ hbeyond))]
    · rw [if_neg hbeyond, if_neg hbeyond]
  have haiu : aiuDiffs pg ch tolerance = aiuDiffs pg' ch' tolerance := by
    unfold aiuDiffs
    simp only [hdiff, hdimensions, hpgMetrics, hchMetrics]
  have hcorrections : correctionDiffs pg ch = correctionDiffs pg' ch' := by
    have hlate := (integer_inj hpg.late hpg'.late).mp hpair.late
    have hadjustments := (integer_inj hpg.adjustments hpg'.adjustments).mp hpair.adjustments
    unfold correctionDiffs
    simp only [hdiff, hdimensions, hlate, hadjustments]
  unfold pairedDiffs
  rw [hidentity, husage, hcosts, haiu, hcorrections]

theorem duplicateCount_perm {pgRows chRows pgRows' chRows' : List ReconciliationSnapshotRow} (hpg : pgRows'.Perm pgRows)
    (hch : chRows'.Perm chRows) : duplicateCount pgRows' chRows' = duplicateCount pgRows chRows := by
  unfold duplicateCount
  rw [hpg.length_eq, hch.length_eq, ((hpg.append hch).map _).sum_eq]

theorem keyDiffs_congr {pgRows chRows pgRows' chRows' : List ReconciliationSnapshotRow}
    (h : ∀ row ∈ pgRows ++ chRows, ValidRow dateParse row) (hpgPerm : pgRows'.Perm pgRows) (hchPerm : chRows'.Perm chRows)
    (hdimensions : (firstSides pgRows chRows).dimensions = (firstSides pgRows' chRows').dimensions)
    (halike : Alike tolerance (firstSides pgRows chRows) (firstSides pgRows' chRows'))
    (hcost : ∀ pg ∈ pgRows.head?, ∀ ch ∈ chRows.head?,
      tolerance.providerCost < |costDelta pg ch| → tolerance.providerCost < |exactCost pg ch|) :
    keyDiffs tolerance pgRows chRows = keyDiffs tolerance pgRows' chRows' := by
  have h' : ∀ row ∈ pgRows' ++ chRows', ValidRow dateParse row :=
    fun row hrow => h row ((hpgPerm.append hchPerm).subset hrow)
  have hcount := (duplicateCount_perm hpgPerm hchPerm).symm
  have hdiff := diff_congr halike.pgMetrics halike.chMetrics halike.samples
  have hcompared : comparedDiffs tolerance pgRows chRows = comparedDiffs tolerance pgRows' chRows' := by
    match pgRows, pgRows', chRows, chRows' with
    | [], [], chRows, chRows' =>
      show pushed true (diff _ _ (firstSides [] chRows) _ _ _ _) = pushed true (diff _ _ (firstSides [] chRows') _ _ _ _)
      rw [hdimensions, hdiff]
    | [], _ :: _, _, _ => exact absurd hpgPerm.length_eq (by simp)
    | _ :: _, [], _, _ => exact absurd hpgPerm.length_eq (by simp)
    | pg :: pgRest, pg' :: pgRest', [], [] =>
      show pushed true (diff _ _ (firstSides (pg :: pgRest) []) _ _ _ _) =
        pushed true (diff _ _ (firstSides (pg' :: pgRest') []) _ _ _ _)
      rw [hdimensions, hdiff]
    | _ :: _, _ :: _, [], _ :: _ => exact absurd hchPerm.length_eq (by simp)
    | _ :: _, _ :: _, _ :: _, [] => exact absurd hchPerm.length_eq (by simp)
    | pg :: pgRest, pg' :: pgRest', ch :: chRest, ch' :: chRest' =>
      exact pairedDiffs_congr (h pg (by simp)) (h' pg' (by simp)) (h' ch' (by simp)) (Option.some.inj hdimensions) halike
        (hcost pg rfl ch rfl)
  unfold keyDiffs
  rw [duplicates_of h, duplicates_of h', hcount, hcompared]
  simp only [hdimensions, hdiff]

end Congruence

/-! ## Differences shown of rows that lead -/

section Shown

variable {tolerance : ReconciliationTolerance} {pgRows chRows pgRows' chRows' : List ReconciliationSnapshotRow}

theorem Alike.refl (sides : Sides) : Alike tolerance sides sides := by
  refine ⟨rfl, rfl, rfl, fun pg hpg ch hch pg' hpg' ch' hch' => ?_⟩
  rw [Option.mem_def] at hpg hch hpg' hch'
  have hpgs : pg = pg' := Option.some.inj (hpg.symm.trans hpg')
  have hchs : ch = ch' := Option.some.inj (hch.symm.trans hch')
  subst hpgs
  subst hchs
  exact ⟨rfl, Iff.rfl, Iff.rfl, Iff.rfl, fun _ => rfl, rfl, rfl⟩

theorem type_providerCost_injective {queued queued' : Bool}
    (h : Condition.providerCost.type queued = Condition.providerCost.type queued') : queued = queued' := by
  cases queued <;> cases queued' <;> first | rfl | cases h

theorem shownCount_eq {shown shown' : Bool} {n n' : Nat} (hshown : shown = decide (0 < n))
    (hshown' : shown' = decide (0 < n')) (hsame : shown = shown') (hcount : shown = true → toString n = toString n') :
    n = n' := by
  by_cases hpos : 0 < n
  · exact toString_inj (hcount (hshown.trans (decide_eq_true hpos)))
  · have hpos' : ¬ 0 < n' := by
      rw [← decide_eq_decide.mp (hshown.symm.trans (hsame.trans hshown'))]
      exact hpos
    omega

/-- Rows with the same report, in which their repetition is shown, are alike. -/
theorem alike_of_report {output : List ReconciliationDiff}
    (hshows : List.Forall₂ (fun c => Shows (firstSides pgRows chRows) (keyShown pgRows chRows c))
      (allConditions.filter (keyRaised tolerance pgRows chRows)) output)
    (hshows' : List.Forall₂ (fun c => Shows (firstSides pgRows' chRows') (keyShown pgRows' chRows' c))
      (allConditions.filter (keyRaised tolerance pgRows' chRows')) output)
    (hrepeated : keyRaised tolerance pgRows chRows .duplicates = true)
    (hcost : ∀ pg ∈ pgRows.head?, ∀ ch ∈ chRows.head?,
      tolerance.providerCost < |exactCost pg ch| → tolerance.providerCost < |costDelta pg ch|) :
    Alike tolerance (firstSides pgRows chRows) (firstSides pgRows' chRows') := by
  have hsame : allConditions.filter (keyRaised tolerance pgRows' chRows') =
      allConditions.filter (keyRaised tolerance pgRows chRows) := by
    rw [forall₂_eq_map hshows fun c hc d hd => kind_shown (List.mem_filter.mp hc).2 hd,
      forall₂_eq_map hshows' fun c hc d hd => kind_shown (List.mem_filter.mp hc).2 hd]
  have hraised (c : Condition) : keyRaised tolerance pgRows chRows c = keyRaised tolerance pgRows' chRows' c := by
    have hmem : c ∈ allConditions.filter (keyRaised tolerance pgRows' chRows') ↔
        c ∈ allConditions.filter (keyRaised tolerance pgRows chRows) := by rw [hsame]
    simp only [List.mem_filter, mem_allConditions, true_and] at hmem
    exact Bool.eq_iff_iff.mpr hmem.symm
  rw [hsame] at hshows'
  have hboth (c : Condition) (hc : keyRaised tolerance pgRows chRows c = true) :=
    forall₂_both hshows hshows' c (List.mem_filter.mpr ⟨mem_allConditions c, hc⟩)
  obtain ⟨d, -, hd, hd'⟩ := hboth .duplicates hrepeated
  refine ⟨hd.pgValues.symm.trans hd'.pgValues, hd.chValues.symm.trans hd'.chValues,
    hd.sampleEventIds.symm.trans hd'.sampleEventIds, fun pg hpg ch hch pg' hpg' ch' hch' => ?_⟩
  obtain ⟨pgRest, rfl⟩ := List.head?_eq_some_iff.mp hpg
  obtain ⟨chRest, rfl⟩ := List.head?_eq_some_iff.mp hch
  obtain ⟨pgRest', rfl⟩ := List.head?_eq_some_iff.mp hpg'
  obtain ⟨chRest', rfl⟩ := List.head?_eq_some_iff.mp hch'
  refine ⟨hraised .payloadHashConflict, not_iff_not.mp (decide_eq_decide.mp (hraised .modelIdentity)),
    not_iff_not.mp (decide_eq_decide.mp (hraised .priceVersion)),
    not_iff_not.mp (decide_eq_decide.mp (hraised .aiuRateVersion)), fun hbeyond => ?_, ?_, ?_⟩
  · obtain ⟨e, -, he, he'⟩ := hboth .providerCost (decide_eq_true (hcost pg rfl ch rfl hbeyond))
    exact type_providerCost_injective (he.type.symm.trans he'.type)
  · refine shownCount_eq rfl rfl (hraised .lateEvents) fun hlate => ?_
    obtain ⟨e, -, he, he'⟩ := hboth .lateEvents hlate
    exact he.count.symm.trans he'.count
  · refine shownCount_eq rfl rfl (hraised .adjustments) fun hadjusted => ?_
    obtain ⟨e, -, he, he'⟩ := hboth .adjustments hadjusted
    exact he.count.symm.trans he'.count

end Shown

/-! ## Orders of the rows -/

section Orders

variable {dateParse : String → Option Int} {tolerance : ReconciliationTolerance} {watermark : Option Watermark}
  {rows rows' pgRows chRows pgRows' chRows' : List ReconciliationSnapshotRow} {key : String}

theorem rowsOf_perm (h : rows'.Perm rows) (key : String) : (rowsOf key rows').Perm (rowsOf key rows) := h.filter _

theorem head_mem_firsts (h : rows'.Perm rows) : rows'.head? ∈ firsts rows := by
  cases rows' with
  | nil =>
    rw [List.nil_perm.mp h]
    simp [firsts]
  | cons row rest =>
    have hrow : row ∈ rows := h.subset (by simp)
    unfold firsts
    rw [if_neg (by simpa using List.ne_nil_of_mem hrow)]
    exact List.mem_map_of_mem hrow

/-- Every row of a key is put first by some order. -/
theorem exists_order {side : Option ReconciliationSnapshotRow} (h : side ∈ firsts (rowsOf key rows)) :
    ∃ rows', rows'.Perm rows ∧ (rowsOf key rows').head? = side := by
  unfold firsts at h
  by_cases hempty : rowsOf key rows = []
  · rw [hempty] at h
    exact ⟨rows, .refl _, by rw [hempty]; exact (List.mem_singleton.mp h).symm⟩
  · rw [if_neg (by simpa using hempty)] at h
    obtain ⟨row, hrow, rfl⟩ := List.mem_map.mp h
    obtain ⟨hmem, hrowKey⟩ := mem_rowsOf.mp hrow
    obtain ⟨before, after, rfl⟩ := List.append_of_mem hmem
    refine ⟨row :: (before ++ after), List.perm_middle.symm, ?_⟩
    unfold rowsOf
    rw [List.filter_cons_of_pos (by simpa using hrowKey)]
    rfl

theorem firsts_unique (h : rows.length ≤ 1) {side side' : Option ReconciliationSnapshotRow} (hside : side ∈ firsts rows)
    (hside' : side' ∈ firsts rows) : side = side' := by
  match rows, h with
  | [], _ =>
    simp only [firsts, List.isEmpty_nil, ↓reduceIte, List.mem_singleton] at hside hside'
    rw [hside, hside']
  | [row], _ =>
    simp only [firsts, List.isEmpty_cons, Bool.false_eq_true, ↓reduceIte, List.map_cons, List.map_nil,
      List.mem_singleton] at hside hside'
    rw [hside, hside']
  | _ :: _ :: _, h => simp at h

theorem orders (h : CanLead pgRows chRows key sides) : ∃ pgRows' chRows' : List ReconciliationSnapshotRow,
    pgRows'.Perm pgRows ∧ chRows'.Perm chRows ∧ firstSides (rowsOf key pgRows') (rowsOf key chRows') = sides := by
  obtain ⟨pgRows', hpg, hpgHead⟩ := exists_order h.1
  obtain ⟨chRows', hch, hchHead⟩ := exists_order h.2
  refine ⟨pgRows', chRows', hpg, hch, ?_⟩
  unfold firstSides
  rw [hpgHead, hchHead]

theorem canLead_of_perm (hpg : pgRows'.Perm pgRows) (hch : chRows'.Perm chRows) (key : String) :
    CanLead pgRows chRows key (firstSides (rowsOf key pgRows') (rowsOf key chRows')) :=
  ⟨head_mem_firsts (rowsOf_perm hpg key), head_mem_firsts (rowsOf_perm hch key)⟩

theorem valid_of_perm (h : ∀ row ∈ pgRows ++ chRows, ValidRow dateParse row) (hpg : pgRows'.Perm pgRows)
    (hch : chRows'.Perm chRows) : ∀ row ∈ pgRows' ++ chRows', ValidRow dateParse row :=
  fun row hrow => h row ((hpg.append hch).subset hrow)

theorem KeyExact.raised_iff (hexact : KeyExact tolerance pgRows chRows) {pg ch : ReconciliationSnapshotRow}
    (hpg : pg ∈ pgRows.head?) (hch : ch ∈ chRows.head?) :
    tolerance.providerCost < |costDelta pg ch| ↔ tolerance.providerCost < |exactCost pg ch| := by
  obtain ⟨pgRest, rfl⟩ := List.head?_eq_some_iff.mp hpg
  obtain ⟨chRest, rfl⟩ := List.head?_eq_some_iff.mp hch
  refine (decide_eq_true_iff.symm.trans (hexact.decided .providerCost).symm).trans ?_
  constructor
  · rintro ⟨pg', hpg', ch', hch', hbeyond⟩
    cases hpg'
    cases hch'
    exact hbeyond
  · exact fun hbeyond => ⟨pg, rfl, ch, rfl, hbeyond⟩

/-- With the same output for every order, the rows that lead are alike. -/
theorem alike_of_permuted (h : ∀ row ∈ pgRows ++ chRows, ValidRow dateParse row)
    (hwatermark : ∀ times ∈ watermark, ValidWatermark dateParse times)
    (hexact : ∀ key ∈ keysOf pgRows chRows, KeyExact tolerance (rowsOf key pgRows) (rowsOf key chRows))
    (hpermuted : ∀ pgRows' chRows' : List ReconciliationSnapshotRow, pgRows'.Perm pgRows → chRows'.Perm chRows →
      reconcileSnapshots dateParse pgRows' chRows' tolerance watermark =
        .ok (report dateParse pgRows chRows tolerance watermark))
    {sides sides' : Sides} (hsides : CanLead pgRows chRows key sides) (hsides' : CanLead pgRows chRows key sides') :
    Alike tolerance sides sides' := by
  by_cases hrepeated : keyRaised tolerance (rowsOf key pgRows) (rowsOf key chRows) .duplicates = true
  · have hkey : key ∈ keysOf pgRows chRows := by
      by_contra hkey
      have hnone {row : ReconciliationSnapshotRow} (hrow : row ∈ pgRows ++ chRows) (hrowKey : keyOf row = key) : False :=
        hkey (mem_keysOf.mpr ⟨row, hrow, hrowKey⟩)
      have hpgNone : rowsOf key pgRows = [] := List.eq_nil_iff_forall_not_mem.mpr fun row hrow =>
        hnone (List.mem_append_left _ (mem_rowsOf.mp hrow).1) (mem_rowsOf.mp hrow).2
      have hchNone : rowsOf key chRows = [] := List.eq_nil_iff_forall_not_mem.mpr fun row hrow =>
        hnone (List.mem_append_right _ (mem_rowsOf.mp hrow).1) (mem_rowsOf.mp hrow).2
      rw [hpgNone, hchNone] at hrepeated
      cases hrepeated
    have hreport {pgRows' chRows' : List ReconciliationSnapshotRow} (hpg : pgRows'.Perm pgRows) (hch : chRows'.Perm chRows) :
        keyReport tolerance pgRows' chRows' key = keyReport tolerance pgRows chRows key := by
      have hvalid := valid_of_perm h hpg hch
      have hsame := (reconcileSnapshots_of tolerance hvalid hwatermark).symm.trans
        (hpermuted pgRows' chRows' hpg hch)
      rw [← report_part h hwatermark hkey, ← report_part hvalid hwatermark (by rwa [keysOf_perm hpg hch]),
        Except.ok.inj hsame]
    have halike {pgRows₁ chRows₁ pgRows₂ chRows₂ : List ReconciliationSnapshotRow} (hpg₁ : pgRows₁.Perm pgRows)
        (hch₁ : chRows₁.Perm chRows) (hpg₂ : pgRows₂.Perm pgRows) (hch₂ : chRows₂.Perm chRows)
        (hcost : ∀ pg ∈ (rowsOf key pgRows₁).head?, ∀ ch ∈ (rowsOf key chRows₁).head?,
          tolerance.providerCost < |exactCost pg ch| → tolerance.providerCost < |costDelta pg ch|) :
        Alike tolerance (firstSides (rowsOf key pgRows₁) (rowsOf key chRows₁))
          (firstSides (rowsOf key pgRows₂) (rowsOf key chRows₂)) := by
      have hshows := (keyReport_of tolerance (valid_of_perm h hpg₁ hch₁) key).2
      have hshows' := (keyReport_of tolerance (valid_of_perm h hpg₂ hch₂) key).2
      rw [hreport hpg₁ hch₁] at hshows
      rw [hreport hpg₂ hch₂] at hshows'
      refine alike_of_report hshows hshows' ?_ hcost
      rw [← hrepeated]
      show decide (0 < duplicateCount _ _) = decide (0 < duplicateCount _ _)
      rw [duplicateCount_perm (rowsOf_perm hpg₁ key) (rowsOf_perm hch₁ key)]
    obtain ⟨pgRows₁, chRows₁, hpg₁, hch₁, rfl⟩ := orders hsides
    obtain ⟨pgRows₂, chRows₂, hpg₂, hch₂, rfl⟩ := orders hsides'
    refine halike hpg₁ hch₁ hpg₂ hch₂ fun pg hpg ch hch => ?_
    -- the first rows of the lists as they are have the same metrics
    have hown := halike (.refl _) (.refl _) hpg₁ hch₁ fun pg hpg ch hch => ((hexact key hkey).raised_iff hpg hch).mpr
    have hpgMetrics := hown.pgMetrics
    have hchMetrics := hown.chMetrics
    simp only [firstSides, Option.mem_def.mp hpg, Option.mem_def.mp hch, Option.map_some, Option.map_eq_some_iff]
      at hpgMetrics hchMetrics
    obtain ⟨pgFirst, hpgFirst, hpgSame⟩ := hpgMetrics
    obtain ⟨chFirst, hchFirst, hchSame⟩ := hchMetrics
    have hiff := ((hexact key hkey).raised_iff (Option.mem_def.mpr hpgFirst) (Option.mem_def.mpr hchFirst)).mpr
    unfold exactCost costDelta at hiff ⊢
    rwa [hpgSame, hchSame] at hiff
  · have hlength : (rowsOf key pgRows).length ≤ 1 ∧ (rowsOf key chRows).length ≤ 1 := by
      have hcount : ¬ 0 < duplicateCount (rowsOf key pgRows) (rowsOf key chRows) := fun hpos =>
        hrepeated (decide_eq_true hpos)
      unfold duplicateCount at hcount
      omega
    have heq : sides = sides' := by
      cases sides
      cases sides'
      rw [Sides.mk.injEq]
      exact ⟨firsts_unique hlength.1 hsides.1 hsides'.1, firsts_unique hlength.2 hsides.2 hsides'.2⟩
    rw [heq]
    exact .refl _

theorem mem_rowsOf_self {row : ReconciliationSnapshotRow} (hrow : row ∈ rows) : row ∈ rowsOf (keyOf row) rows :=
  mem_rowsOf.mpr ⟨hrow, rfl⟩

theorem rowsOf_eq_nil {row : ReconciliationSnapshotRow} (h : ∀ other ∈ rows, row.dimensions ≠ other.dimensions) :
    rowsOf (keyOf row) rows = [] := by
  rw [List.eq_nil_iff_forall_not_mem]
  intro other hother
  obtain ⟨hmem, hkey⟩ := mem_rowsOf.mp hother
  exact h other hmem (keyOf_eq_iff.mp hkey).symm

theorem some_mem_firsts {row : ReconciliationSnapshotRow} (hrow : row ∈ rows) : some row ∈ firsts rows := by
  unfold firsts
  rw [if_neg (by simpa using List.ne_nil_of_mem hrow)]
  exact List.mem_map_of_mem hrow

/-- A pair of rows of a key leads under some order. -/
theorem canLead_pair {pg ch : ReconciliationSnapshotRow} (hpg : pg ∈ rowsOf key pgRows) (hch : ch ∈ rowsOf key chRows) :
    CanLead pgRows chRows key (paired pg ch) := ⟨some_mem_firsts hpg, some_mem_firsts hch⟩

theorem exactCost_congr {pg ch pg' ch' : ReconciliationSnapshotRow}
    (h : Alike tolerance (paired pg ch) (paired pg' ch')) : exactCost pg ch = exactCost pg' ch' := by
  have hpg : pg.metrics = pg'.metrics := Option.some.inj h.pgMetrics
  have hch : ch.metrics = ch'.metrics := Option.some.inj h.chMetrics
  unfold exactCost
  rw [hpg, hch]

theorem keyRaised_alone {c : Condition} (hc : plain c = false) (h : pgRows = [] ∨ chRows = []) :
    keyRaised tolerance pgRows chRows c = false := by
  cases pgRows with
  | nil => cases c <;> first | rfl | cases hc
  | cons pg pgRest =>
    cases chRows with
    | nil => cases c <;> first | rfl | cases hc
    | cons ch chRest => simp at h

/-- The conditions of rows without a partner. -/
theorem not_violated_alone (hdetermined : Determined pgRows chRows tolerance)
    (h : rowsOf key pgRows = [] ∨ rowsOf key chRows = []) {c : Condition} (hc : plain c = false) :
    ¬ Violated tolerance (rowsOf key pgRows) (rowsOf key chRows) c := by
  have hpg {pg : ReconciliationSnapshotRow} (hpg : pg ∈ rowsOf key pgRows) := hdetermined.pgAlone pg (mem_rowsOf.mp hpg).1
    fun ch hch hdimensions => by
      have hmem : ch ∈ rowsOf key chRows :=
        mem_rowsOf.mpr ⟨hch, (keyOf_eq_iff.mpr hdimensions).symm.trans (mem_rowsOf.mp hpg).2⟩
      rcases h with h | h
      · rw [h] at hpg
        cases hpg
      · rw [h] at hmem
        cases hmem
  have hch {ch : ReconciliationSnapshotRow} (hch : ch ∈ rowsOf key chRows) := hdetermined.chAlone ch (mem_rowsOf.mp hch).1
    fun pg hpg hdimensions => by
      have hmem : pg ∈ rowsOf key pgRows :=
        mem_rowsOf.mpr ⟨hpg, (keyOf_eq_iff.mpr hdimensions).trans (mem_rowsOf.mp hch).2⟩
      rcases h with h | h
      · rw [h] at hmem
        cases hmem
      · rw [h] at hch
        cases hch
  intro hviolated
  cases c with
  | payloadHashConflict =>
    obtain ⟨row, hrow, hconflict⟩ := hviolated
    rcases List.mem_append.mp hrow with hrow | hrow
    · rw [(hpg hrow).1] at hconflict
      cases hconflict
    · rw [hch hrow] at hconflict
      cases hconflict
  | providerCost =>
    obtain ⟨pg, hpgHead, ch, hchHead, -⟩ := hviolated
    rcases h with h | h
    · rw [h] at hpgHead
      cases hpgHead
    · rw [h] at hchHead
      cases hchHead
  | lateEvents =>
    obtain ⟨row, hrow, hlate⟩ := hviolated
    exact hlate (hpg hrow).2.1
  | adjustments =>
    obtain ⟨row, hrow, hadjusted⟩ := hviolated
    exact hadjusted (hpg hrow).2.2
  | _ => cases hc

/-- Of paired rows the first raise what any of them does. -/
theorem raised_iff_paired (hdetermined : Determined pgRows chRows tolerance) {pg ch : ReconciliationSnapshotRow}
    {pgRest chRest : List ReconciliationSnapshotRow} (hpgRows : rowsOf key pgRows = pg :: pgRest)
    (hchRows : rowsOf key chRows = ch :: chRest) {c : Condition} (hc : plain c = false) :
    Violated tolerance (pg :: pgRest) (ch :: chRest) c ↔ raised tolerance pg ch c = true := by
  have hpg : pg ∈ rowsOf key pgRows := by simp [hpgRows]
  have hch : ch ∈ rowsOf key chRows := by simp [hchRows]
  have halike {pg' ch' : ReconciliationSnapshotRow} (hpg' : pg' ∈ pg :: pgRest) (hch' : ch' ∈ ch :: chRest) :
      AlikePair tolerance pg' ch' pg ch :=
    (hdetermined.alike key _ _ (canLead_pair (hpgRows ▸ hpg') (hchRows ▸ hch')) (canLead_pair hpg hch)).pair
      pg' rfl ch' rfl pg rfl ch rfl
  cases c with
  | payloadHashConflict =>
    constructor
    · rintro ⟨row, hrow, hconflict⟩
      rcases List.mem_append.mp hrow with hrow | hrow
      · have hsame := (halike hrow List.mem_cons_self).conflict
        rw [hconflict, Bool.true_or] at hsame
        exact hsame.symm
      · have hsame := (halike List.mem_cons_self hrow).conflict
        rw [hconflict, Bool.or_true] at hsame
        exact hsame.symm
    · intro hraised
      rcases Bool.or_eq_true_iff.mp hraised with hconflict | hconflict
      · exact ⟨pg, by simp, hconflict⟩
      · exact ⟨ch, by simp, hconflict⟩
  | providerCost =>
    have hcost := (costExact_iff tolerance pg ch).mpr (hdetermined.cost pg (mem_rowsOf.mp hpg).1 ch (mem_rowsOf.mp hch).1
      (keyOf_eq_iff.mp ((mem_rowsOf.mp hpg).2.trans (mem_rowsOf.mp hch).2.symm)))
    refine Iff.trans ?_ (hcost.1.symm.trans decide_eq_true_iff.symm)
    constructor
    · rintro ⟨pg', hpg', ch', hch', hbeyond⟩
      cases hpg'
      cases hch'
      exact hbeyond
    · exact fun hbeyond => ⟨pg, rfl, ch, rfl, hbeyond⟩
  | lateEvents =>
    refine Iff.trans ?_ decide_eq_true_iff.symm
    constructor
    · rintro ⟨row, hrow, hlate⟩
      have hsame := (halike hrow List.mem_cons_self).late
      omega
    · exact fun hlate => ⟨pg, by simp, by omega⟩
  | adjustments =>
    refine Iff.trans ?_ decide_eq_true_iff.symm
    constructor
    · rintro ⟨row, hrow, hadjusted⟩
      have hsame := (halike hrow List.mem_cons_self).adjustments
      omega
    · exact fun hadjusted => ⟨pg, by simp, by omega⟩
  | _ => cases hc

/-- What is asked of the rows makes every key decided as it is meant. -/
theorem Determined.keyExact (h : ∀ row ∈ pgRows ++ chRows, ValidRow dateParse row)
    (hdetermined : Determined pgRows chRows tolerance) (hkey : key ∈ keysOf pgRows chRows) :
    KeyExact tolerance (rowsOf key pgRows) (rowsOf key chRows) := by
  have hcost {pg ch : ReconciliationSnapshotRow} (hpg : pg ∈ rowsOf key pgRows) (hch : ch ∈ rowsOf key chRows) :=
    (costExact_iff tolerance pg ch).mpr (hdetermined.cost pg (mem_rowsOf.mp hpg).1 ch (mem_rowsOf.mp hch).1
      (keyOf_eq_iff.mp ((mem_rowsOf.mp hpg).2.trans (mem_rowsOf.mp hch).2.symm)))
  refine ⟨fun c => ?_, fun pg hpg ch hch => (hcost (List.mem_of_head? hpg) (List.mem_of_head? hch)).2⟩
  by_cases hplain : plain c = true
  · exact Reconciliation.raised_iff (rowsOf_valid h key) (rowsOf_ne_nil hkey) hplain
  have hc : plain c = false := by simpa using hplain
  by_cases halone : rowsOf key pgRows = [] ∨ rowsOf key chRows = []
  · rw [keyRaised_alone hc halone]
    exact iff_of_false (not_violated_alone hdetermined halone hc) (by decide)
  · rw [not_or] at halone
    obtain ⟨pg, pgRest, hpgRows⟩ := List.exists_cons_of_ne_nil halone.1
    obtain ⟨ch, chRest, hchRows⟩ := List.exists_cons_of_ne_nil halone.2
    have hiff := raised_iff_paired hdetermined hpgRows hchRows hc
    rw [hpgRows, hchRows]
    cases c <;> first | exact hiff | cases hc

theorem reconciled_iff (h : ∀ row ∈ pgRows ++ chRows, ValidRow dateParse row)
    (hwatermark : ∀ times ∈ watermark, ValidWatermark dateParse times) :
    ∃ output, reconcileSnapshots dateParse pgRows chRows tolerance watermark = .ok output ∧
      (Reconciled dateParse pgRows chRows tolerance watermark output ↔ Determined pgRows chRows tolerance) := by
  refine ⟨_, reconcileSnapshots_of tolerance h hwatermark, ?_⟩
  constructor
  · rintro ⟨-, hannounced, hpermuted⟩
    have hexact := (announced_iff tolerance h hwatermark).mp hannounced
    have halike : ∀ key sides sides', CanLead pgRows chRows key sides → CanLead pgRows chRows key sides' →
        Alike tolerance sides sides' :=
      fun key sides sides' hsides hsides' => alike_of_permuted h hwatermark hexact hpermuted hsides hsides'
    refine ⟨fun pg hpg ch hch hdimensions => ?_, fun pg hpg halone => ?_, fun ch hch halone => ?_, halike⟩
    · have hkey := keyOf_mem_left chRows hpg
      have hown : pg ∈ rowsOf (keyOf pg) pgRows := mem_rowsOf_self hpg
      have hother : ch ∈ rowsOf (keyOf pg) chRows := mem_rowsOf.mpr ⟨hch, (keyOf_eq_iff.mpr hdimensions).symm⟩
      obtain ⟨first, rest, hfirst⟩ := List.exists_cons_of_ne_nil (List.ne_nil_of_mem hown)
      obtain ⟨first', rest', hfirst'⟩ := List.exists_cons_of_ne_nil (List.ne_nil_of_mem hother)
      have hhead : first ∈ (rowsOf (keyOf pg) pgRows).head? := by rw [hfirst]; rfl
      have hhead' : first' ∈ (rowsOf (keyOf pg) chRows).head? := by rw [hfirst']; rfl
      rw [exactCost_congr (halike _ _ _ (canLead_pair hown hother)
        (canLead_pair (List.mem_of_head? hhead) (List.mem_of_head? hhead')))]
      exact (costExact_iff tolerance first first').mp
        ⟨(hexact _ hkey).raised_iff hhead hhead', (hexact _ hkey).cost first hhead first' hhead'⟩
    · have hkey := keyOf_mem_left chRows hpg
      have hnone (c : Condition) (hc : plain c = false) := (hexact _ hkey).decided c |>.not.mpr
        (by rw [keyRaised_alone hc (.inr (rowsOf_eq_nil halone))]; decide)
      refine ⟨?_, ?_, ?_⟩
      · rw [← Bool.not_eq_true]
        exact fun hconflict => hnone .payloadHashConflict rfl
          ⟨pg, List.mem_append_left _ (mem_rowsOf_self hpg), hconflict⟩
      · by_contra hlate
        exact hnone .lateEvents rfl ⟨pg, mem_rowsOf_self hpg, hlate⟩
      · by_contra hadjusted
        exact hnone .adjustments rfl ⟨pg, mem_rowsOf_self hpg, hadjusted⟩
    · have hkey := keyOf_mem_right pgRows hch
      have hnone := (hexact _ hkey).decided .payloadHashConflict |>.not.mpr
        (by rw [keyRaised_alone rfl (.inl (rowsOf_eq_nil fun pg hpg heq => halone pg hpg heq.symm))]; decide)
      rw [← Bool.not_eq_true]
      exact fun hconflict => hnone ⟨ch, List.mem_append_right _ (mem_rowsOf_self hch), hconflict⟩
  · intro hdetermined
    have hannounced := (announced_iff tolerance h hwatermark).mpr fun key hkey =>
      hdetermined.keyExact h hkey
    refine ⟨?_, hannounced, fun pgRows' chRows' hpg hch => ?_⟩
    · rw [← violations_eq_nil_iff]
      constructor
      · intro hnil
        rw [hnil] at hannounced
        exact List.forall₂_nil_right_iff.mp hannounced
      · intro hnil
        rw [hnil] at hannounced
        exact List.forall₂_nil_left_iff.mp hannounced
    · rw [reconcileSnapshots_of tolerance (valid_of_perm h hpg hch) hwatermark]
      unfold report
      rw [keysOf_perm hpg hch]
      have hreports : ∀ key ∈ keysOf pgRows chRows,
          keyReport tolerance pgRows' chRows' key = keyReport tolerance pgRows chRows key := by
        intro key hkey
        have hexact := hdetermined.keyExact h hkey
        have hfirst := firstSides_key hkey
        have hfirst' := firstSides_key (keysOf_perm hpg hch ▸ hkey : key ∈ keysOf pgRows' chRows')
        unfold keyReport
        rw [keyDiffs_congr (rowsOf_valid h key) (rowsOf_perm hpg key) (rowsOf_perm hch key)
          (Option.map_injective dimensionsKey_injective (hfirst.trans hfirst'.symm))
          (hdetermined.alike key _ _ (canLead_of_perm (.refl _) (.refl _) key) (canLead_of_perm hpg hch key))
          fun pg hpg ch hch => (hexact.raised_iff hpg hch).mp]
      rw [List.flatMap_congr hreports]

end Orders

/-! ## A cost of 21 digits -/

def sampleMetrics (providerCost : String) : ReconciliationMetrics
  | .eventCount => "10"
  | .providerCost => providerCost
  | _ => "0"

def sampleDimensions : ReconciliationDimensions where
  applicationId := "00000000-0000-4000-8000-000000000001"
  bucketStart := "2026-07-16T00:00:00.000Z"
  bucketSize := .hour
  virtualModel := some "chat-fast"
  modelId := none
  requestModel := none
  provider := none
  userId := none

def sampleRow (providerCost : String) : ReconciliationSnapshotRow where
  projectionId := "reconciliation:sample"
  dimensions := sampleDimensions
  metrics := sampleMetrics providerCost
  duplicateProjectionCount := none
  sampleEventIds := ["event-1"]
  modelIdentityFingerprint := none
  costVersionId := none
  aiuVersionId := none
  payloadHashConflict := false
  officialDeltaPending := false
  lateEventCount := "0"
  unprojectedAdjustmentCount := "0"

def sampleTolerance : ReconciliationTolerance := ⟨1 / 1000000, 0, 600, by norm_num⟩

theorem sampleRow_valid {providerCost : String} (h : decimalText providerCost.toList = true) :
    ValidRow (fun _ => some 0) (sampleRow providerCost) := by
  have hzero : integerText "0".toList = true := by decide
  have hten : integerText "10".toList = true := by decide
  refine ⟨fun key hkey => ?_, h, hzero, hzero, hzero, rfl⟩
  cases key with
  | eventCount => exact hten
  | providerCost => exact absurd hkey (by decide)
  | _ => exact hzero

/-- A delta of one and a half is within 20 digits. -/
theorem short_delta_reconciled : ∃ output,
    reconcileSnapshots (fun _ => some 0) [sampleRow "2.5"] [sampleRow "1"] sampleTolerance none = .ok output ∧
      (Reconciled (fun _ => some 0) [sampleRow "2.5"] [sampleRow "1"] sampleTolerance none output ↔
        Determined [sampleRow "2.5"] [sampleRow "1"] sampleTolerance) :=
  reconciled_iff (by
    intro row hrow
    rcases List.mem_pair.mp hrow with rfl | rfl
    · exact sampleRow_valid (by decide)
    · exact sampleRow_valid (by decide)) (by simp)

theorem rounded_delta : sampleTolerance.providerCost < |exactCost (sampleRow "123.456789012345678901") (sampleRow "0")| ∧
    decimal (toFixed 18 (costDelta (sampleRow "123.456789012345678901") (sampleRow "0"))) ≠
      exactCost (sampleRow "123.456789012345678901") (sampleRow "0") := by
  decide +kernel

/-- Of a cost of 21 digits that is missing, the signed delta has 20. -/
theorem last_digit_lost : ¬ ∃ output,
    reconcileSnapshots (fun _ => some 0) [sampleRow "123.456789012345678901"] [sampleRow "0"] sampleTolerance none =
        .ok output ∧
      Reconciled (fun _ => some 0) [sampleRow "123.456789012345678901"] [sampleRow "0"] sampleTolerance none output := by
  rintro ⟨output, hrun, hreconciled⟩
  have hvalid : ∀ row ∈ [sampleRow "123.456789012345678901"] ++ [sampleRow "0"], ValidRow (fun _ => some 0) row := by
    intro row hrow
    rcases List.mem_pair.mp hrow with rfl | rfl
    · exact sampleRow_valid (by decide)
    · exact sampleRow_valid (by decide)
  have houtput := Except.ok.inj ((reconcileSnapshots_of sampleTolerance hvalid (by simp)).symm.trans hrun)
  subst houtput
  have hexact := (announced_iff sampleTolerance hvalid (by simp)).mp hreconciled.announced (dimensionsKey sampleDimensions)
    (mem_keysOf.mpr ⟨sampleRow "0", by simp, rfl⟩)
  have hown (providerCost : String) : rowsOf (dimensionsKey sampleDimensions) [sampleRow providerCost] =
      [sampleRow providerCost] := by
    simp [rowsOf, keyOf, sampleRow]
  rw [hown, hown] at hexact
  exact rounded_delta.2 (hexact.cost _ rfl _ rfl rounded_delta.1)

end TokenPilot.Reconciliation
