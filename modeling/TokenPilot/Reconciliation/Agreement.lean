/-
  TokenPilot.Reconciliation.Agreement — the comparison that is meant, and when an output of
  `reconcileSnapshots` is that of it.

  `Violated` are the conditions of the rows of a key, over exact numbers and all the rows, and
  `Consistent` says that two sides have none. `Announces` is a difference of a condition's
  type with its exact deltas.

  `announced_iff`: the report has exactly one difference for every violated condition of a
  key, and no other, when the code decides the conditions of every key as they are meant and
  the cost deltas it shows are exact. `violations_eq_nil_iff`: no condition is violated exactly
  for consistent sides.
-/

import TokenPilot.Reconciliation.Keys

namespace TokenPilot.Reconciliation

open TokenPilot.Library
open TokenPilot.Pipeline (decimal precision PrismaDecimal.minus)

/-! ## The comparison that is meant -/

def exactCost (pg ch : ReconciliationSnapshotRow) : ℚ :=
  decimal (pg.metrics .providerCost) - decimal (ch.metrics .providerCost)

/-- The conditions of two paired rows, over exact numbers. -/
def Differ (tolerance : ReconciliationTolerance) (pg ch : ReconciliationSnapshotRow) : Condition → Prop
  | .modelIdentity => pg.modelIdentityFingerprint ≠ ch.modelIdentityFingerprint
  | .priceVersion => pg.costVersionId ≠ ch.costVersionId
  | .aiuRateVersion => pg.aiuVersionId ≠ ch.aiuVersionId
  | .usage => ∃ key ∈ usageMetricKeys, integer (pg.metrics key) ≠ integer (ch.metrics key)
  | .providerCost => tolerance.providerCost < |exactCost pg ch|
  | .aiuMicros => (tolerance.aiuMicros : Int) < |integerDelta .aiuMicros pg ch|
  | _ => False

/-- The conditions of the rows of a key. Of several rows of a side the first is the paired one. -/
def Violated (tolerance : ReconciliationTolerance) (pgRows chRows : List ReconciliationSnapshotRow) : Condition → Prop
  | .duplicates => 1 < pgRows.length ∨ 1 < chRows.length ∨
      ∃ row ∈ pgRows ++ chRows, integer (row.duplicateProjectionCount.getD "0") ≠ 0
  | .pgMissing => pgRows = []
  | .chMissing => chRows = []
  | .payloadHashConflict => ∃ row ∈ pgRows ++ chRows, row.payloadHashConflict = true
  | .lateEvents => ∃ row ∈ pgRows, integer row.lateEventCount ≠ 0
  | .adjustments => ∃ row ∈ pgRows, integer row.unprojectedAdjustmentCount ≠ 0
  | c => ∃ pg ∈ pgRows.head?, ∃ ch ∈ chRows.head?, Differ tolerance pg ch c

inductive Violation where
  | ofKey (key : String) (c : Condition)
  | stalled

def Violation.key : Violation → Option String
  | .ofKey key _ => some key
  | .stalled => none

open Classical in
/-- Every violated condition of every key, once. -/
noncomputable def violations (dateParse : String → Option Int) (pgRows chRows : List ReconciliationSnapshotRow)
    (tolerance : ReconciliationTolerance) (watermark : Option Watermark) : List Violation :=
  (keysOf pgRows chRows).flatMap (fun key =>
    (allConditions.filter fun c => Violated tolerance (rowsOf key pgRows) (rowsOf key chRows) c).map (.ofKey key)) ++
  if Stalled dateParse tolerance watermark then [.stalled] else []

/-- The exact signed deltas of a condition. -/
def pairDelta (pg ch : ReconciliationSnapshotRow) (c : Condition) (key : MetricKey) : Option ℚ :=
  match c with
  | .usage => if key ∈ usageMetricKeys ∧ integer (pg.metrics key) ≠ integer (ch.metrics key)
      then some (integerDelta key pg ch) else none
  | .providerCost => if key = .providerCost then some (exactCost pg ch) else none
  | .aiuMicros => if key = .aiuMicros then some (integerDelta .aiuMicros pg ch) else none
  | _ => none

def exactDelta : Sides → Condition → MetricKey → Option ℚ
  | ⟨some pg, some ch⟩, c, key => pairDelta pg ch c key
  | _, _, _ => none

def Sides.queued : Sides → Bool
  | ⟨some pg, some ch⟩ => pending pg ch
  | _ => false

/-- A difference of a condition's type with its exact deltas. -/
structure AnnouncesOf (key : String) (sides : Sides) (c : Condition) (d : ReconciliationDiff) : Prop where
  type : d.type = c.type sides.queued
  key : d.dimensions.map dimensionsKey = some key
  deltas : ∀ metric, (d.deltaValues metric).map decimal = exactDelta sides c metric

def Announces (pgRows chRows : List ReconciliationSnapshotRow) : Violation → ReconciliationDiff → Prop
  | .ofKey key c, d => AnnouncesOf key (firstSides (rowsOf key pgRows) (rowsOf key chRows)) c d
  | .stalled, d => d.type = .watermarkStalled ∧ d.dimensions = none ∧ d.deltaValues = noDelta

structure Agree (tolerance : ReconciliationTolerance) (pg ch : ReconciliationSnapshotRow) : Prop where
  fingerprint : pg.modelIdentityFingerprint = ch.modelIdentityFingerprint
  costVersion : pg.costVersionId = ch.costVersionId
  aiuVersion : pg.aiuVersionId = ch.aiuVersionId
  usage : ∀ key ∈ usageMetricKeys, integer (pg.metrics key) = integer (ch.metrics key)
  cost : |exactCost pg ch| ≤ tolerance.providerCost
  aiuMicros : |integerDelta .aiuMicros pg ch| ≤ tolerance.aiuMicros

structure Consistent (dateParse : String → Option Int) (pgRows chRows : List ReconciliationSnapshotRow)
    (tolerance : ReconciliationTolerance) (watermark : Option Watermark) : Prop where
  pgOnce : (pgRows.map (·.dimensions)).Nodup
  chOnce : (chRows.map (·.dimensions)).Nodup
  sameKeys : ∀ dimensions, dimensions ∈ pgRows.map (·.dimensions) ↔ dimensions ∈ chRows.map (·.dimensions)
  noDuplicates : ∀ row ∈ pgRows ++ chRows, integer (row.duplicateProjectionCount.getD "0") = 0
  noLate : ∀ row ∈ pgRows, integer row.lateEventCount = 0
  noAdjustments : ∀ row ∈ pgRows, integer row.unprojectedAdjustmentCount = 0
  noConflict : ∀ row ∈ pgRows ++ chRows, row.payloadHashConflict = false
  paired : ∀ pg ∈ pgRows, ∀ ch ∈ chRows, pg.dimensions = ch.dimensions → Agree tolerance pg ch
  notStalled : ¬ Stalled dateParse tolerance watermark

/-! ## Lists related item by item -/

section Related

variable {α β κ : Type}

theorem forall₂_eq_map {R : α → β → Prop} {f : β → α} {l : List α} {u : List β} (h : List.Forall₂ R l u)
    (hf : ∀ a ∈ l, ∀ b, R a b → f b = a) : l = u.map f := by
  induction h with
  | nil => rfl
  | @cons a b l u hab _ ih =>
    rw [List.map_cons, hf a (by simp) b hab, ← ih fun x hx => hf x (by simp [hx])]

theorem forall₂_both {R S : α → β → Prop} {l : List α} {u : List β} (h : List.Forall₂ R l u) (h' : List.Forall₂ S l u) :
    ∀ a ∈ l, ∃ b ∈ u, R a b ∧ S a b := by
  induction h with
  | nil => simp
  | @cons a b l u hab _ ih =>
    cases h' with
    | cons hab' hrest =>
      intro x hx
      rcases List.mem_cons.mp hx with rfl | hx
      · exact ⟨b, by simp, hab, hab'⟩
      · obtain ⟨y, hy, hboth⟩ := ih hrest x hx
        exact ⟨y, by simp [hy], hboth⟩

theorem forall₂_right {R : α → β → Prop} {l : List α} {u : List β} (h : List.Forall₂ R l u) :
    ∀ b ∈ u, ∃ a ∈ l, R a b := by
  induction h with
  | nil => simp
  | @cons a b l u hab _ ih =>
    intro x hx
    rcases List.mem_cons.mp hx with rfl | hx
    · exact ⟨a, by simp, hab⟩
    · obtain ⟨y, hy, hrelated⟩ := ih x hx
      exact ⟨y, by simp [hy], hrelated⟩

theorem forall₂_flatMap {R : α → β → Prop} {keys : List κ} {f : κ → List α} {g : κ → List β}
    (h : ∀ k ∈ keys, List.Forall₂ R (f k) (g k)) : List.Forall₂ R (keys.flatMap f) (keys.flatMap g) := by
  induction keys with
  | nil => exact .nil
  | cons k rest ih =>
    rw [List.flatMap_cons, List.flatMap_cons]
    exact List.rel_append (h k (by simp)) (ih fun j hj => h j (by simp [hj]))

/-- The part of one key, of a list made of the parts of distinct keys and a rest without key. -/
theorem filter_part [DecidableEq κ] {f : β → Option κ} {keys : List κ} (hkeys : keys.Nodup) {part : κ → List β}
    (hpart : ∀ k ∈ keys, ∀ b ∈ part k, f b = some k) {rest : List β} (hrest : ∀ b ∈ rest, f b = none) {k : κ}
    (hk : k ∈ keys) : (keys.flatMap part ++ rest).filter (fun b => f b = some k) = part k := by
  have hnone : rest.filter (fun b => f b = some k) = [] := by
    rw [List.filter_eq_nil_iff]
    intro b hb
    simp [hrest b hb]
  rw [List.filter_append, hnone, List.append_nil]
  have hother (ks : List κ) (hks : ∀ j ∈ ks, j ∈ keys) (hmem : k ∉ ks) :
      (ks.flatMap part).filter (fun b => f b = some k) = [] := by
    rw [List.filter_eq_nil_iff]
    intro b hb
    obtain ⟨j, hj, hb⟩ := List.mem_flatMap.mp hb
    have hne : j ≠ k := fun heq => hmem (heq ▸ hj)
    simp [hpart j (hks j hj) b hb, hne]
  obtain ⟨before, after, rfl⟩ := List.append_of_mem hk
  rw [List.nodup_append] at hkeys
  obtain ⟨hbefore, hafter, hdisjoint⟩ := hkeys
  have hself : (part k).filter (fun b => f b = some k) = part k := by
    rw [List.filter_eq_self]
    intro b hb
    simp [hpart k hk b hb]
  rw [List.flatMap_append, List.flatMap_cons, List.filter_append, List.filter_append, hself,
    hother before (fun j hj => by simp [hj]) (fun hmem => hdisjoint k hmem k (by simp) rfl),
    hother after (fun j hj => by simp [hj]) (List.nodup_cons.mp hafter).1]
  simp

end Related

/-! ## Reading a report back -/

/-- The condition a difference of a key tells of. -/
def kind (d : ReconciliationDiff) : Condition :=
  match d.type with
  | .pgMissing => .pgMissing
  | .chMissing => .chMissing
  | .payloadHashConflict => .payloadHashConflict
  | .usageNormalizationMismatch => .usage
  | .modelIdentityMismatch => .modelIdentity
  | .priceVersionMismatch => .priceVersion
  | .aiuRateVersionMismatch => .aiuRateVersion
  | .provisionalOfficialDeltaPending => .providerCost
  | .ledgerProjectionMissing => if (d.deltaValues .providerCost).isSome then .providerCost else .aiuMicros
  | .lateEvent => .lateEvents
  | .adjustmentNotProjected => .adjustments
  | .duplicateProjection | .watermarkStalled => .duplicates

theorem kind_of {c : Condition} {queued : Bool} {d : ReconciliationDiff} (htype : d.type = c.type queued)
    (hcost : c = .providerCost → (d.deltaValues .providerCost).isSome = true)
    (haiu : c = .aiuMicros → (d.deltaValues .providerCost).isSome = false) : kind d = c := by
  unfold kind
  rw [htype]
  cases c with
  | providerCost => cases queued <;> simp [Condition.type, hcost rfl]
  | aiuMicros => simp [Condition.type, haiu rfl]
  | _ => rfl

section Kinds

variable {pgRows chRows : List ReconciliationSnapshotRow} {tolerance : ReconciliationTolerance}

theorem keyShown_type (c : Condition) :
    (keyShown pgRows chRows c).type = c.type (firstSides pgRows chRows).queued := by
  cases pgRows <;> cases chRows <;> cases c <;> rfl

theorem kind_shown {c : Condition} (hraised : keyRaised tolerance pgRows chRows c = true) {d : ReconciliationDiff}
    (h : Shows (firstSides pgRows chRows) (keyShown pgRows chRows c) d) : kind d = c := by
  refine kind_of (h.type.trans (keyShown_type c)) ?_ ?_
  · rintro rfl
    rw [h.deltaValues]
    cases pgRows with
    | nil => simp [keyRaised] at hraised
    | cons pg pgRest =>
      cases chRows with
      | nil => simp [keyRaised] at hraised
      | cons ch chRest => rfl
  · rintro rfl
    rw [h.deltaValues]
    cases pgRows <;> cases chRows <;> rfl

theorem firstSides_of {pg ch : ReconciliationSnapshotRow} (hpg : pg ∈ pgRows.head?) (hch : ch ∈ chRows.head?) :
    firstSides pgRows chRows = paired pg ch := by
  unfold firstSides
  rw [Option.mem_def.mp hpg, Option.mem_def.mp hch]
  rfl

theorem kind_announced {key : String} {c : Condition} (hviolated : Violated tolerance pgRows chRows c)
    {d : ReconciliationDiff} (h : AnnouncesOf key (firstSides pgRows chRows) c d) : kind d = c := by
  have hdelta := h.deltas .providerCost
  refine kind_of h.type ?_ ?_
  · rintro rfl
    obtain ⟨pg, hpg, ch, hch, -⟩ := hviolated
    rw [firstSides_of hpg hch] at hdelta
    rw [← Option.isSome_map, hdelta]
    rfl
  · rintro rfl
    obtain ⟨pg, hpg, ch, hch, -⟩ := hviolated
    rw [firstSides_of hpg hch] at hdelta
    rw [← Option.isSome_map, hdelta]
    rfl

end Kinds

/-! ## Raised and violated -/

section Raised

variable {dateParse : String → Option Int} {tolerance : ReconciliationTolerance}

theorem raised_usage_iff {pg ch : ReconciliationSnapshotRow} (hpg : ValidRow dateParse pg) (hch : ValidRow dateParse ch)
    {key : MetricKey} (hkey : key ∈ usageMetricKeys) :
    pg.metrics key ≠ ch.metrics key ↔ integer (pg.metrics key) ≠ integer (ch.metrics key) := by
  have hinteger : ∀ key ∈ usageMetricKeys, key ∈ integerMetricKeys := by decide
  exact (integer_inj (hpg.integers key (hinteger key hkey)) (hch.integers key (hinteger key hkey))).not.symm

/-- The conditions that are decided exactly, and from the first rows alone. -/
def plain : Condition → Bool
  | .payloadHashConflict | .providerCost | .lateEvents | .adjustments => false
  | _ => true

theorem duplicateCount_pos_iff {pgRows chRows : List ReconciliationSnapshotRow} :
    0 < duplicateCount pgRows chRows ↔ Violated tolerance pgRows chRows .duplicates := by
  have hsum : 0 < ((pgRows ++ chRows).map fun row => integer (row.duplicateProjectionCount.getD "0")).sum ↔
      ∃ row ∈ pgRows ++ chRows, integer (row.duplicateProjectionCount.getD "0") ≠ 0 := by
    simp only [Nat.pos_iff_ne_zero, ne_eq, List.sum_eq_zero_iff, List.forall_mem_map, not_forall, exists_prop]
  unfold Violated
  rw [← hsum, duplicateCount]
  omega

theorem raised_iff {pgRows chRows : List ReconciliationSnapshotRow} (h : ∀ row ∈ pgRows ++ chRows, ValidRow dateParse row)
    (hsome : pgRows ++ chRows ≠ []) {c : Condition} (hc : plain c = true) :
    Violated tolerance pgRows chRows c ↔ keyRaised tolerance pgRows chRows c = true := by
  cases c with
  | payloadHashConflict | providerCost | lateEvents | adjustments => cases hc
  | duplicates => exact duplicateCount_pos_iff.symm.trans decide_eq_true_iff.symm
  | pgMissing => exact List.isEmpty_iff.symm
  | chMissing =>
    cases pgRows with
    | nil => simpa [Violated, keyRaised] using hsome
    | cons pg pgRest => simp [Violated, keyRaised]
  | modelIdentity | priceVersion | aiuRateVersion =>
    cases pgRows <;> cases chRows <;> simp [Violated, keyRaised, Differ, raised]
  | usage =>
    cases pgRows with
    | nil => simp [Violated, keyRaised]
    | cons pg pgRest =>
      cases chRows with
      | nil => simp [Violated, keyRaised]
      | cons ch chRest =>
        have hpair : Differ tolerance pg ch .usage ↔ raised tolerance pg ch .usage = true := by
          simp only [Differ, raised, List.any_eq_true, decide_eq_true_eq]
          exact exists_congr fun key => and_congr_right fun hkey =>
            (raised_usage_iff (h pg (by simp)) (h ch (by simp)) hkey).symm
        simpa [Violated, keyRaised] using hpair
  | aiuMicros =>
    cases pgRows with
    | nil => simp [Violated, keyRaised]
    | cons pg pgRest =>
      cases chRows with
      | nil => simp [Violated, keyRaised]
      | cons ch chRest =>
        have hpair : Differ tolerance pg ch .aiuMicros ↔ raised tolerance pg ch .aiuMicros = true := by
          simp only [Differ, raised, decide_eq_true_eq, Int.abs_eq_natAbs, Nat.cast_lt]
        simpa [Violated, keyRaised] using hpair

/-- The deltas that are shown are the exact ones, that of a cost when it fits. -/
theorem shown_deltas {pg ch : ReconciliationSnapshotRow} (hpg : ValidRow dateParse pg) (hch : ValidRow dateParse ch)
    {c : Condition} (hcost : c = .providerCost → decimal (toFixed 18 (costDelta pg ch)) = exactCost pg ch)
    (metric : MetricKey) : (shownDelta pg ch c metric).map decimal = pairDelta pg ch c metric := by
  cases c with
  | usage =>
    simp only [shownDelta, pairDelta]
    by_cases hkey : metric ∈ usageMetricKeys
    · by_cases hne : pg.metrics metric ≠ ch.metrics metric
      · have hinteger := (raised_usage_iff hpg hch hkey).mp hne
        rw [if_pos ⟨hkey, hne⟩, if_pos ⟨hkey, hinteger⟩]
        exact congrArg some (Numeral.value_intToString _)
      · have hinteger := (raised_usage_iff hpg hch hkey).not.mp hne
        rw [if_neg fun hboth => hne hboth.2, if_neg fun hboth => hinteger hboth.2]
        rfl
    · rw [if_neg fun hboth => hkey hboth.1, if_neg fun hboth => hkey hboth.1]
      rfl
  | providerCost =>
    simp only [shownDelta, pairDelta]
    by_cases hkey : metric = .providerCost
    · rw [if_pos hkey, hkey, Function.update_self]
      exact congrArg some (hcost rfl)
    · rw [if_neg hkey, Function.update_of_ne hkey]
      rfl
  | aiuMicros =>
    simp only [shownDelta, pairDelta]
    by_cases hkey : metric = .aiuMicros
    · rw [if_pos hkey, hkey, Function.update_self]
      exact congrArg some (Numeral.value_intToString _)
    · rw [if_neg hkey, Function.update_of_ne hkey]
      rfl
  | _ => rfl

end Raised

/-! ## Key by key -/

section Keyed

variable {dateParse : String → Option Int} {pgRows chRows : List ReconciliationSnapshotRow}
  {tolerance : ReconciliationTolerance} {watermark : Option Watermark} {key : String}

theorem mem_allConditions (c : Condition) : c ∈ allConditions := by
  cases c <;> decide

theorem rowsOf_ne_nil (hkey : key ∈ keysOf pgRows chRows) : rowsOf key pgRows ++ rowsOf key chRows ≠ [] := by
  obtain ⟨row, hrow, hrowKey⟩ := mem_keysOf.mp hkey
  rcases List.mem_append.mp hrow with hrow | hrow
  · exact List.ne_nil_of_mem (List.mem_append_left _ (mem_rowsOf.mpr ⟨hrow, hrowKey⟩))
  · exact List.ne_nil_of_mem (List.mem_append_right _ (mem_rowsOf.mpr ⟨hrow, hrowKey⟩))

theorem firstSides_key (hkey : key ∈ keysOf pgRows chRows) :
    (firstSides (rowsOf key pgRows) (rowsOf key chRows)).dimensions.map dimensionsKey = some key := by
  have hne := rowsOf_ne_nil hkey
  cases hpg : rowsOf key pgRows with
  | cons pg pgRest =>
    have hmem : pg ∈ rowsOf key pgRows := by simp [hpg]
    exact congrArg some (mem_rowsOf.mp hmem).2
  | nil =>
    cases hch : rowsOf key chRows with
    | nil => simp [hpg, hch] at hne
    | cons ch chRest =>
      have hmem : ch ∈ rowsOf key chRows := by simp [hch]
      exact congrArg some (mem_rowsOf.mp hmem).2

theorem report_part (h : ∀ row ∈ pgRows ++ chRows, ValidRow dateParse row)
    (hwatermark : ∀ times ∈ watermark, ValidWatermark dateParse times) (hkey : key ∈ keysOf pgRows chRows) :
    (report dateParse pgRows chRows tolerance watermark).filter (fun d => d.dimensions.map dimensionsKey = some key) =
      keyReport tolerance pgRows chRows key := by
  refine filter_part keysOf_nodup (fun k hk d hd => ?_) (fun d hd => ?_) hkey
  · obtain ⟨c, -, hshows⟩ := forall₂_right (keyReport_of tolerance h k).2 d hd
    rw [hshows.dimensions, firstSides_key hk]
  · rcases (watermarkReport_of tolerance hwatermark).2 with ⟨-, d', hreport, hshows⟩ | ⟨-, hreport⟩
    · rw [hreport, List.mem_singleton] at hd
      rw [hd, hshows.dimensions]
      rfl
    · rw [hreport] at hd
      cases hd

open Classical in
theorem violations_part (hkey : key ∈ keysOf pgRows chRows) :
    (violations dateParse pgRows chRows tolerance watermark).filter (fun v => v.key = some key) =
      (allConditions.filter fun c => Violated tolerance (rowsOf key pgRows) (rowsOf key chRows) c).map (.ofKey key) := by
  refine filter_part keysOf_nodup (fun k hk v hv => ?_) (fun v hv => ?_) hkey
  · obtain ⟨c, -, rfl⟩ := List.mem_map.mp hv
    rfl
  · split at hv
    · rw [List.mem_singleton.mp hv]
      rfl
    · cases hv

/-- What the code decides of a key is what is meant, and a cost delta it shows is exact. -/
structure KeyExact (tolerance : ReconciliationTolerance) (pgRows chRows : List ReconciliationSnapshotRow) : Prop where
  decided : ∀ c, Violated tolerance pgRows chRows c ↔ keyRaised tolerance pgRows chRows c = true
  cost : ∀ pg ∈ pgRows.head?, ∀ ch ∈ chRows.head?, tolerance.providerCost < |exactCost pg ch| →
    decimal (toFixed 18 (costDelta pg ch)) = exactCost pg ch

theorem announces_of_shows {key : String} {rows rows' : List ReconciliationSnapshotRow}
    (h : ∀ row ∈ rows ++ rows', ValidRow dateParse row) (hexact : KeyExact tolerance rows rows')
    (hkey : (firstSides rows rows').dimensions.map dimensionsKey = some key) {c : Condition}
    (hraised : keyRaised tolerance rows rows' c = true) {d : ReconciliationDiff}
    (hshows : Shows (firstSides rows rows') (keyShown rows rows' c) d) : AnnouncesOf key (firstSides rows rows') c d := by
  refine ⟨hshows.type.trans (keyShown_type c), ?_, fun metric => ?_⟩
  · rw [hshows.dimensions, hkey]
  rw [hshows.deltaValues]
  match rows, rows', h, hexact, hraised with
  | [], [], _, _, _ => cases c <;> rfl
  | [], _ :: _, _, _, _ => cases c <;> rfl
  | _ :: _, [], _, _, _ => cases c <;> rfl
  | pg :: pgRest, ch :: chRest, h, hexact, hraised =>
    have hdeltas := shown_deltas (h pg (by simp)) (h ch (by simp)) (c := c) (fun hc => by
      subst hc
      have hviolated := (hexact.decided .providerCost).mpr hraised
      obtain ⟨pg', hpg', ch', hch', hdiffer⟩ := hviolated
      cases hpg'
      cases hch'
      exact hexact.cost pg rfl ch rfl hdiffer) metric
    cases c <;> exact hdeltas

open Classical in
theorem announced_iff (tolerance : ReconciliationTolerance) (h : ∀ row ∈ pgRows ++ chRows, ValidRow dateParse row)
    (hwatermark : ∀ times ∈ watermark, ValidWatermark dateParse times) :
    List.Forall₂ (Announces pgRows chRows) (violations dateParse pgRows chRows tolerance watermark)
        (report dateParse pgRows chRows tolerance watermark) ↔
      ∀ key ∈ keysOf pgRows chRows, KeyExact tolerance (rowsOf key pgRows) (rowsOf key chRows) := by
  constructor
  · intro hannounced key hkey
    have hpart : List.Forall₂ (AnnouncesOf key (firstSides (rowsOf key pgRows) (rowsOf key chRows)))
        (allConditions.filter fun c => Violated tolerance (rowsOf key pgRows) (rowsOf key chRows) c)
        (keyReport tolerance pgRows chRows key) := by
      have hfiltered := List.rel_filter (R := Announces pgRows chRows) (p := fun v => v.key = some key)
        (q := fun d => d.dimensions.map dimensionsKey = some key) (fun v d hvd => by
          cases v with
          | ofKey k c => simp [Violation.key, hvd.key]
          | stalled => simp [Violation.key, hvd.2.1]) hannounced
      rw [violations_part hkey, report_part h hwatermark hkey, List.forall₂_map_left_iff] at hfiltered
      exact hfiltered
    have hshows := (keyReport_of tolerance h key).2
    have hsame : (allConditions.filter fun c => Violated tolerance (rowsOf key pgRows) (rowsOf key chRows) c) =
        allConditions.filter (keyRaised tolerance (rowsOf key pgRows) (rowsOf key chRows)) := by
      rw [forall₂_eq_map hpart fun c hc d hd => kind_announced (by simpa using (List.mem_filter.mp hc).2) hd,
        forall₂_eq_map hshows fun c hc d hd => kind_shown (List.mem_filter.mp hc).2 hd]
    have hdecided (c : Condition) : Violated tolerance (rowsOf key pgRows) (rowsOf key chRows) c ↔
        keyRaised tolerance (rowsOf key pgRows) (rowsOf key chRows) c = true := by
      have hmem := congrArg (c ∈ ·) hsame
      simpa [mem_allConditions c] using hmem
    refine ⟨hdecided, fun pg hpg ch hch hbeyond => ?_⟩
    have hraised := (hdecided .providerCost).mp ⟨pg, hpg, ch, hch, hbeyond⟩
    rw [hsame] at hpart
    obtain ⟨d, -, hannounces, hshown⟩ := forall₂_both hpart hshows .providerCost
      (List.mem_filter.mpr ⟨mem_allConditions _, hraised⟩)
    have hdelta := hannounces.deltas .providerCost
    rw [firstSides_of hpg hch, hshown.deltaValues] at hdelta
    have hvalue : (keyShown (rowsOf key pgRows) (rowsOf key chRows) .providerCost).deltaValues .providerCost =
        some (toFixed 18 (costDelta pg ch)) := by
      obtain ⟨pgRest, hpgRest⟩ := List.head?_eq_some_iff.mp hpg
      obtain ⟨chRest, hchRest⟩ := List.head?_eq_some_iff.mp hch
      rw [hpgRest, hchRest]
      rfl
    rw [hvalue] at hdelta
    exact Option.some.inj hdelta
  · intro hexact
    refine List.rel_append (forall₂_flatMap fun key hkey => ?_) ?_
    · have hsame : (allConditions.filter fun c => Violated tolerance (rowsOf key pgRows) (rowsOf key chRows) c) =
          allConditions.filter (keyRaised tolerance (rowsOf key pgRows) (rowsOf key chRows)) := by
        refine List.filter_congr fun c _ => ?_
        rw [Bool.eq_iff_iff, decide_eq_true_iff]
        exact (hexact key hkey).decided c
      rw [List.forall₂_map_left_iff, hsame]
      have hmem : ∀ c ∈ allConditions.filter (keyRaised tolerance (rowsOf key pgRows) (rowsOf key chRows)),
          keyRaised tolerance (rowsOf key pgRows) (rowsOf key chRows) c = true := fun c hc => (List.mem_filter.mp hc).2
      exact ((List.forall₂_and_left _ _).mpr ⟨hmem, (keyReport_of tolerance h key).2⟩).imp fun c d hd =>
        announces_of_shows (rowsOf_valid h key) (hexact key hkey) (firstSides_key hkey) hd.1 hd.2
    · rcases (watermarkReport_of tolerance hwatermark).2 with ⟨hstalled, d, hreport, hshows⟩ | ⟨hstalled, hreport⟩
      · rw [if_pos hstalled, hreport]
        exact .cons ⟨hshows.type, hshows.dimensions, hshows.deltaValues⟩ .nil
      · rw [if_neg hstalled, hreport]
        exact .nil

/-! ## Consistent sides -/

theorem violations_nil : violations dateParse pgRows chRows tolerance watermark = [] ↔
    (∀ key ∈ keysOf pgRows chRows, ∀ c, ¬ Violated tolerance (rowsOf key pgRows) (rowsOf key chRows) c) ∧
      ¬ Stalled dateParse tolerance watermark := by
  unfold violations
  rw [List.append_eq_nil_iff, List.flatMap_eq_nil_iff]
  refine and_congr (forall₂_congr fun key _ => ?_) ?_
  · rw [List.map_eq_nil_iff, List.filter_eq_nil_iff]
    simp [mem_allConditions]
  · by_cases hstalled : Stalled dateParse tolerance watermark <;> simp [hstalled]

theorem count_dimensions (rows : List ReconciliationSnapshotRow) (dimensions : ReconciliationDimensions) :
    (rows.map (·.dimensions)).count dimensions = (rowsOf (dimensionsKey dimensions) rows).length := by
  rw [List.count, List.countP_map, List.countP_eq_length_filter]
  refine congrArg List.length (List.filter_congr fun row _ => ?_)
  have hkey : keyOf row = dimensionsKey dimensions ↔ row.dimensions = dimensions := dimensionsKey_injective.eq_iff
  rw [Bool.eq_iff_iff, Function.comp_apply, beq_iff_eq, decide_eq_true_iff, hkey]

theorem mem_dimensions {rows : List ReconciliationSnapshotRow} {dimensions : ReconciliationDimensions} :
    dimensions ∈ rows.map (·.dimensions) ↔ rowsOf (dimensionsKey dimensions) rows ≠ [] := by
  rw [← List.count_pos_iff, count_dimensions, List.length_pos_iff]

theorem keyOf_mem_keysOf {row : ReconciliationSnapshotRow} (hrow : row ∈ pgRows ++ chRows) :
    keyOf row ∈ keysOf pgRows chRows := mem_keysOf.mpr ⟨row, hrow, rfl⟩

theorem keyOf_mem_left (chRows : List ReconciliationSnapshotRow) {row : ReconciliationSnapshotRow} (hrow : row ∈ pgRows) :
    keyOf row ∈ keysOf pgRows chRows := keyOf_mem_keysOf (List.mem_append_left _ hrow)

theorem keyOf_mem_right (pgRows : List ReconciliationSnapshotRow) {row : ReconciliationSnapshotRow} (hrow : row ∈ chRows) :
    keyOf row ∈ keysOf pgRows chRows := keyOf_mem_keysOf (List.mem_append_right _ hrow)

theorem agree_iff {pg ch : ReconciliationSnapshotRow} : Agree tolerance pg ch ↔ ∀ c, ¬ Differ tolerance pg ch c := by
  constructor
  · intro h c
    cases c with
    | modelIdentity => exact not_not.mpr h.fingerprint
    | priceVersion => exact not_not.mpr h.costVersion
    | aiuRateVersion => exact not_not.mpr h.aiuVersion
    | usage =>
      rintro ⟨key, hkey, hne⟩
      exact hne (h.usage key hkey)
    | providerCost => exact not_lt.mpr h.cost
    | aiuMicros => exact not_lt.mpr h.aiuMicros
    | _ => exact id
  · intro h
    refine ⟨not_not.mp (h .modelIdentity), not_not.mp (h .priceVersion), not_not.mp (h .aiuRateVersion), fun key hkey => ?_,
      not_lt.mp (h .providerCost), not_lt.mp (h .aiuMicros)⟩
    by_contra hne
    exact h .usage ⟨key, hkey, hne⟩

theorem singleton_of {rows : List ReconciliationSnapshotRow} {row : ReconciliationSnapshotRow} (hrow : row ∈ rows)
    (hlength : ¬ 1 < rows.length) : rows = [row] := by
  match rows, hrow, hlength with
  | [r], hrow, _ => rw [List.mem_singleton.mp hrow]
  | _ :: _ :: _, _, hlength => simp at hlength

theorem not_violated_of_consistent (h : Consistent dateParse pgRows chRows tolerance watermark)
    (hkey : key ∈ keysOf pgRows chRows) (c : Condition) :
    ¬ Violated tolerance (rowsOf key pgRows) (rowsOf key chRows) c := by
  obtain ⟨row, hrow, hrowKey⟩ := mem_keysOf.mp hkey
  have hlength {rows : List ReconciliationSnapshotRow} (honce : (rows.map (·.dimensions)).Nodup) :
      (rowsOf key rows).length ≤ 1 := by
    rw [← hrowKey, keyOf, ← count_dimensions]
    exact List.nodup_iff_count_le_one.mp honce row.dimensions
  have hsides : rowsOf key pgRows ≠ [] ∧ rowsOf key chRows ≠ [] := by
    rw [← hrowKey, keyOf, ← mem_dimensions, ← mem_dimensions]
    rcases List.mem_append.mp hrow with hrow | hrow
    · have hmem : row.dimensions ∈ pgRows.map (·.dimensions) := List.mem_map_of_mem hrow
      exact ⟨hmem, (h.sameKeys _).mp hmem⟩
    · have hmem : row.dimensions ∈ chRows.map (·.dimensions) := List.mem_map_of_mem hrow
      exact ⟨(h.sameKeys _).mpr hmem, hmem⟩
  have hpg {row : ReconciliationSnapshotRow} (hrow : row ∈ rowsOf key pgRows) := (mem_rowsOf.mp hrow).1
  have hboth {row : ReconciliationSnapshotRow} (hrow : row ∈ rowsOf key pgRows ++ rowsOf key chRows) :
      row ∈ pgRows ++ chRows := by
    rcases List.mem_append.mp hrow with hrow | hrow
    · exact List.mem_append_left _ (mem_rowsOf.mp hrow).1
    · exact List.mem_append_right _ (mem_rowsOf.mp hrow).1
  have hpair (hdiffer : ∃ pg ∈ (rowsOf key pgRows).head?, ∃ ch ∈ (rowsOf key chRows).head?, Differ tolerance pg ch c) :
      False := by
    obtain ⟨pg, hpg, ch, hch, hdiffer⟩ := hdiffer
    obtain ⟨hpgMem, hpgKey⟩ := mem_rowsOf.mp (List.mem_of_head? hpg)
    obtain ⟨hchMem, hchKey⟩ := mem_rowsOf.mp (List.mem_of_head? hch)
    exact agree_iff.mp (h.paired pg hpgMem ch hchMem (keyOf_eq_iff.mp (hpgKey.trans hchKey.symm))) c hdiffer
  intro hviolated
  cases c with
  | duplicates =>
    rcases hviolated with hmany | hmany | ⟨row, hrow, hne⟩
    · have := hlength h.pgOnce
      omega
    · have := hlength h.chOnce
      omega
    · exact hne (h.noDuplicates row (hboth hrow))
  | pgMissing => exact hsides.1 hviolated
  | chMissing => exact hsides.2 hviolated
  | payloadHashConflict =>
    obtain ⟨row, hrow, hconflict⟩ := hviolated
    rw [h.noConflict row (hboth hrow)] at hconflict
    cases hconflict
  | lateEvents =>
    obtain ⟨row, hrow, hne⟩ := hviolated
    exact hne (h.noLate row (hpg hrow))
  | adjustments =>
    obtain ⟨row, hrow, hne⟩ := hviolated
    exact hne (h.noAdjustments row (hpg hrow))
  | _ => exact hpair hviolated

/-- No condition is violated exactly for consistent sides. -/
theorem violations_eq_nil_iff : violations dateParse pgRows chRows tolerance watermark = [] ↔
    Consistent dateParse pgRows chRows tolerance watermark := by
  rw [violations_nil]
  constructor
  · rintro ⟨hnone, hstalled⟩
    have honce (d : ReconciliationDimensions) :
        (rowsOf (dimensionsKey d) pgRows).length ≤ 1 ∧ (rowsOf (dimensionsKey d) chRows).length ≤ 1 := by
      by_cases hkey : dimensionsKey d ∈ keysOf pgRows chRows
      · have hduplicates := hnone _ hkey .duplicates
        simp only [Violated, not_or] at hduplicates
        omega
      · have hempty (rows : List ReconciliationSnapshotRow) (hrows : rows ⊆ pgRows ++ chRows) :
            rowsOf (dimensionsKey d) rows = [] := by
          rw [List.eq_nil_iff_forall_not_mem]
          intro row hrow
          obtain ⟨hmem, hrowKey⟩ := mem_rowsOf.mp hrow
          exact hkey (mem_keysOf.mpr ⟨row, hrows hmem, hrowKey⟩)
        simp [hempty pgRows (by simp), hempty chRows (by simp)]
    have hpgKey {row : ReconciliationSnapshotRow} (hrow : row ∈ pgRows) := hnone _ (keyOf_mem_left chRows hrow)
    have hchKey {row : ReconciliationSnapshotRow} (hrow : row ∈ chRows) := hnone _ (keyOf_mem_right pgRows hrow)
    have hown {row : ReconciliationSnapshotRow} {rows : List ReconciliationSnapshotRow} (hrow : row ∈ rows) :
        row ∈ rowsOf (keyOf row) rows := mem_rowsOf.mpr ⟨hrow, rfl⟩
    refine ⟨?_, ?_, ?_, ?_, ?_, ?_, ?_, ?_, hstalled⟩
    · rw [List.nodup_iff_count_le_one]
      intro d
      rw [count_dimensions]
      exact (honce d).1
    · rw [List.nodup_iff_count_le_one]
      intro d
      rw [count_dimensions]
      exact (honce d).2
    · intro d
      constructor
      · intro hd
        obtain ⟨row, hrow, rfl⟩ := List.mem_map.mp hd
        exact mem_dimensions.mpr (hpgKey hrow .chMissing)
      · intro hd
        obtain ⟨row, hrow, rfl⟩ := List.mem_map.mp hd
        exact mem_dimensions.mpr (hchKey hrow .pgMissing)
    · intro row hrow
      have hkey := hnone _ (keyOf_mem_keysOf hrow) .duplicates
      simp only [Violated, not_or, not_exists, not_and, not_not] at hkey
      refine hkey.2.2 row ?_
      rcases List.mem_append.mp hrow with hrow | hrow
      · exact List.mem_append_left _ (hown hrow)
      · exact List.mem_append_right _ (hown hrow)
    · intro row hrow
      by_contra hne
      exact hpgKey hrow .lateEvents ⟨row, hown hrow, hne⟩
    · intro row hrow
      by_contra hne
      exact hpgKey hrow .adjustments ⟨row, hown hrow, hne⟩
    · intro row hrow
      rw [← Bool.not_eq_true]
      intro hconflict
      refine hnone _ (keyOf_mem_keysOf hrow) .payloadHashConflict ⟨row, ?_, hconflict⟩
      rcases List.mem_append.mp hrow with hrow | hrow
      · exact List.mem_append_left _ (hown hrow)
      · exact List.mem_append_right _ (hown hrow)
    · intro pg hpg ch hch hdimensions
      have hkeys : keyOf pg = keyOf ch := keyOf_eq_iff.mpr hdimensions
      have hpgOnly := singleton_of (hown hpg) (not_lt.mpr (honce pg.dimensions).1)
      have hchOnly := singleton_of (hown hch) (not_lt.mpr (honce ch.dimensions).2)
      rw [agree_iff]
      intro c hdiffer
      have hkey := hpgKey hpg c
      rw [hpgOnly, hkeys, hchOnly] at hkey
      have hpair : ∃ p ∈ [pg].head?, ∃ q ∈ [ch].head?, Differ tolerance p q c := ⟨pg, rfl, ch, rfl, hdiffer⟩
      cases c <;> first | exact hkey hpair | exact hdiffer
  · intro h
    exact ⟨fun key hkey c => not_violated_of_consistent h hkey c, h.notStalled⟩

end Keyed

end TokenPilot.Reconciliation
