/-
  TokenPilot.Reconciliation.Keys — the rows of a dimension key, and the output key by key.

  `dimensionsKey_injective`: rows share a key exactly when they share their dimensions.
  `group_of`: every row is kept, under its key, in the order of its list.
  `reconcileSnapshots_of`: the output is the report of every key of either side, the keys
  sorted, then that of the watermark.
-/

import TokenPilot.Reconciliation.EngineLaws

namespace TokenPilot.Reconciliation

open TokenPilot.Library

/-! ## Keys -/

theorem textOrNull_inj {a b : Option String}
    (h : (textOrNull a).map (fun n : Empty => Empty.elim n) = (textOrNull b).map fun n : Empty => (Empty.elim n : List Char)) :
    a = b := by
  cases a <;> cases b <;> simp [textOrNull, Json.map] at h ⊢
  exact h

theorem BucketSize.text_injective : Function.Injective BucketSize.text := by
  intro a b h
  cases a <;> cases b <;> first | rfl | exact absurd h (by decide)

theorem dimensionsKey_injective : Function.Injective dimensionsKey := by
  intro a b h
  have hrender := String.ofList_injective h
  have hmap := (Json.render_inj (fun n : Empty => n.elim) (fun n : Empty => n.elim) _ _ [] [] (by simp [Json.Ends])
    (by simp [Json.Ends]) (congrArg (· ++ []) hrender)).1
  simp only [Json.map, Json.mapItems, Json.arr.injEq, List.cons.injEq, Json.str.injEq, and_true] at hmap
  obtain ⟨hsize, hstart, happlication, hvirtual, hmodel, hrequest, hprovider, huser⟩ := hmap
  cases a
  cases b
  simp only [ReconciliationDimensions.mk.injEq]
  exact ⟨happlication, hstart, BucketSize.text_injective hsize, textOrNull_inj hvirtual, textOrNull_inj hmodel,
    textOrNull_inj hrequest, textOrNull_inj hprovider, textOrNull_inj huser⟩

def keyOf (row : ReconciliationSnapshotRow) : String := dimensionsKey row.dimensions

theorem keyOf_eq_iff {a b : ReconciliationSnapshotRow} : keyOf a = keyOf b ↔ a.dimensions = b.dimensions :=
  dimensionsKey_injective.eq_iff

/-! ## Sorted texts -/

/-- Texts without repetition have one order. -/
theorem sortTexts_eq {l l' : List String} (hl : l.Nodup) (hl' : l'.Nodup) (h : ∀ a, a ∈ l ↔ a ∈ l') :
    sortTexts l = sortTexts l' := by
  have hperm : (sortTexts l).Perm (sortTexts l') :=
    ((List.perm_insertionSort _ l).trans ((List.perm_ext_iff_of_nodup hl hl').mpr h)).trans
      (List.perm_insertionSort _ l').symm
  have htrans : IsTrans String fun a b => Text.units a ≤ Text.units b := ⟨fun _ _ _ => le_trans⟩
  have htotal : Std.Total fun a b : String => Text.units a ≤ Text.units b := ⟨fun _ _ => le_total _ _⟩
  refine hperm.eq_of_pairwise (fun a b _ _ hab hba => Text.units_injective (le_antisymm hab hba)) ?_ ?_
  · exact List.pairwise_insertionSort _ _
  · exact List.pairwise_insertionSort _ _

/-! ## Grouping -/

def rowsOf (key : String) (rows : List ReconciliationSnapshotRow) : List ReconciliationSnapshotRow :=
  rows.filter fun row => keyOf row = key

theorem Grouped.rows_set (key : String) (rows : List ReconciliationSnapshotRow) (grouped : Grouped) (other : String) :
    (Grouped.set key rows grouped).rows other = if other = key then rows else grouped.rows other := by
  unfold Grouped.rows
  induction grouped with
  | nil =>
    by_cases h : other = key
    · simp [Grouped.set, h]
    · simp [Grouped.set, List.lookup_cons, h, beq_eq_false_iff_ne.mpr h]
  | cons entry rest ih =>
    obtain ⟨first, held⟩ := entry
    unfold Grouped.set
    by_cases hfirst : first = key
    · rw [if_pos hfirst, List.lookup_cons, List.lookup_cons, hfirst]
      by_cases h : other = key
      · simp [h]
      · simp [h, beq_eq_false_iff_ne.mpr h]
    · rw [if_neg hfirst, List.lookup_cons, List.lookup_cons]
      by_cases hother : other = first
      · have h : ¬ other = key := fun heq => hfirst (hother.symm.trans heq)
        simp [hother, hfirst]
      · simp only [beq_eq_false_iff_ne.mpr hother]
        exact ih

theorem Grouped.mem_set (key : String) (rows : List ReconciliationSnapshotRow) (grouped : Grouped) (other : String) :
    other ∈ (Grouped.set key rows grouped).map Prod.fst ↔ other = key ∨ other ∈ grouped.map Prod.fst := by
  induction grouped with
  | nil => simp [Grouped.set]
  | cons entry rest ih =>
    unfold Grouped.set
    by_cases hentry : entry.1 = key
    · rw [if_pos hentry]
      simp [hentry]
    · rw [if_neg hentry, List.map_cons, List.mem_cons, ih, List.map_cons, List.mem_cons]
      exact or_left_comm

section Rows

variable {dateParse : String → Option Int} {pgRows chRows : List ReconciliationSnapshotRow}

theorem group_of {rows : List ReconciliationSnapshotRow} (h : ∀ row ∈ rows, ValidRow dateParse row) :
    ∃ grouped, group dateParse rows = .ok grouped ∧ (∀ key, grouped.rows key = rowsOf key rows) ∧
      ∀ key, key ∈ grouped.map Prod.fst ↔ key ∈ rows.map keyOf := by
  -- the map after some of the rows, from a map that has the rows before them
  have hfold (before rows : List ReconciliationSnapshotRow) (hrows : ∀ row ∈ rows, ValidRow dateParse row)
      (start : Grouped) (hstart : ∀ key, start.rows key = rowsOf key before)
      (hkeys : ∀ key, key ∈ start.map Prod.fst ↔ key ∈ before.map keyOf) :
      ∃ grouped, rows.foldlM (fun grouped row => do
          validateRow dateParse row
          let key := dimensionsKey row.dimensions
          return Grouped.set key (Grouped.rows grouped key ++ [row]) grouped) start = (.ok grouped : Except TypeError Grouped) ∧
        (∀ key, grouped.rows key = rowsOf key (before ++ rows)) ∧
        ∀ key, key ∈ grouped.map Prod.fst ↔ key ∈ (before ++ rows).map keyOf := by
    induction rows generalizing before start with
    | nil =>
      rw [List.append_nil]
      exact ⟨start, rfl, hstart, hkeys⟩
    | cons row rest ih =>
      obtain ⟨grouped, hgrouped, hlookup, hmem⟩ := ih (before ++ [row]) (fun r hr => hrows r (by simp [hr]))
        (Grouped.set (keyOf row) (start.rows (keyOf row) ++ [row]) start) (fun key => by
          rw [Grouped.rows_set]
          by_cases hkey : key = keyOf row
          · rw [if_pos hkey, hstart, hkey]
            simp [rowsOf]
          · rw [if_neg hkey, hstart]
            have hother : ¬ keyOf row = key := fun heq => hkey heq.symm
            simp [rowsOf, hother]) (fun key => by
          rw [Grouped.mem_set, hkeys]
          simp [or_comm])
      rw [List.append_assoc, List.singleton_append] at hlookup hmem
      refine ⟨grouped, ?_, hlookup, hmem⟩
      rw [List.foldlM_cons, (hrows row (by simp)).parsed]
      exact hgrouped
  obtain ⟨grouped, hgrouped, hlookup, hmem⟩ := hfold [] rows h [] (fun key => rfl) (fun key => by simp)
  exact ⟨grouped, hgrouped, hlookup, hmem⟩

theorem mem_rowsOf {key : String} {rows : List ReconciliationSnapshotRow} {row : ReconciliationSnapshotRow} :
    row ∈ rowsOf key rows ↔ row ∈ rows ∧ keyOf row = key := by
  simp [rowsOf]

/-- The keys of either side. -/
def keysOf (pgRows chRows : List ReconciliationSnapshotRow) : List String :=
  sortTexts ((pgRows ++ chRows).map keyOf).eraseDups

theorem mem_keysOf {key : String} : key ∈ keysOf pgRows chRows ↔ ∃ row ∈ pgRows ++ chRows, keyOf row = key := by
  rw [keysOf, sortTexts, List.mem_insertionSort, List.mem_eraseDups, List.mem_map]

theorem keysOf_nodup : (keysOf pgRows chRows).Nodup :=
  (List.perm_insertionSort _ _).nodup_iff.mpr (eraseDups_nodup _)

theorem keysOf_perm {pgRows' chRows' : List ReconciliationSnapshotRow} (hpg : pgRows'.Perm pgRows)
    (hch : chRows'.Perm chRows) : keysOf pgRows' chRows' = keysOf pgRows chRows := by
  refine sortTexts_eq (eraseDups_nodup _) (eraseDups_nodup _) fun key => ?_
  rw [List.mem_eraseDups, List.mem_eraseDups]
  exact ((hpg.append hch).map keyOf).mem_iff

/-! ## The report -/

def keyReport (tolerance : ReconciliationTolerance) (pgRows chRows : List ReconciliationSnapshotRow) (key : String) :
    List ReconciliationDiff :=
  (keyDiffs tolerance (rowsOf key pgRows) (rowsOf key chRows)).toOption.getD []

def ValidWatermark (dateParse : String → Option Int) (watermark : Watermark) : Prop :=
  (dateParse watermark.pgEventTime).isSome ∧ (dateParse watermark.chEventTime).isSome ∧
    (dateParse watermark.chLastSuccessAt).isSome ∧ (dateParse watermark.now).isSome

def Stalled (dateParse : String → Option Int) (tolerance : ReconciliationTolerance) (watermark : Option Watermark) : Prop :=
  ∃ times ∈ watermark, ∃ pgTime ∈ dateParse times.pgEventTime, ∃ chTime ∈ dateParse times.chEventTime,
    ∃ lastSuccess ∈ dateParse times.chLastSuccessAt, ∃ current ∈ dateParse times.now,
      chTime < pgTime ∧ tolerance.watermarkStallSeconds * 1000 < current - lastSuccess

def stalledShown : Shown := ⟨.watermarkStalled, noDelta, "1", none⟩

def watermarkReport (dateParse : String → Option Int) (tolerance : ReconciliationTolerance) (watermark : Option Watermark) :
    List ReconciliationDiff :=
  (watermarkDiffs dateParse tolerance watermark).toOption.getD []

variable {tolerance : ReconciliationTolerance} {watermark : Option Watermark}

theorem rowsOf_valid (h : ∀ row ∈ pgRows ++ chRows, ValidRow dateParse row) (key : String) :
    ∀ row ∈ rowsOf key pgRows ++ rowsOf key chRows, ValidRow dateParse row := by
  intro row hrow
  apply h row
  rcases List.mem_append.mp hrow with hrow | hrow
  · exact List.mem_append_left _ (mem_rowsOf.mp hrow).1
  · exact List.mem_append_right _ (mem_rowsOf.mp hrow).1

theorem keyReport_of (tolerance : ReconciliationTolerance) (h : ∀ row ∈ pgRows ++ chRows, ValidRow dateParse row)
    (key : String) :
    keyDiffs tolerance (rowsOf key pgRows) (rowsOf key chRows) = .ok (keyReport tolerance pgRows chRows key) ∧
      List.Forall₂ (fun c => Shows (firstSides (rowsOf key pgRows) (rowsOf key chRows))
          (keyShown (rowsOf key pgRows) (rowsOf key chRows) c))
        (allConditions.filter (keyRaised tolerance (rowsOf key pgRows) (rowsOf key chRows)))
        (keyReport tolerance pgRows chRows key) := by
  obtain ⟨output, houtput, hshows⟩ := keyDiffs_of tolerance (rowsOf_valid h key)
  have hreport : keyReport tolerance pgRows chRows key = output := by
    unfold keyReport
    rw [houtput]
    rfl
  rw [hreport]
  exact ⟨houtput, hshows⟩

theorem watermarkReport_of (tolerance : ReconciliationTolerance)
    (h : ∀ times ∈ watermark, ValidWatermark dateParse times) :
    watermarkDiffs dateParse tolerance watermark = .ok (watermarkReport dateParse tolerance watermark) ∧
      ((Stalled dateParse tolerance watermark ∧ ∃ d, watermarkReport dateParse tolerance watermark = [d] ∧
          Shows ⟨none, none⟩ stalledShown d) ∨
        (¬ Stalled dateParse tolerance watermark ∧ watermarkReport dateParse tolerance watermark = [])) := by
  cases watermark with
  | none => exact ⟨rfl, .inr ⟨by simp [Stalled], rfl⟩⟩
  | some times =>
    obtain ⟨hpg, hch, hlast, hnow⟩ := h times rfl
    obtain ⟨pgTime, hpg⟩ := Option.isSome_iff_exists.mp hpg
    obtain ⟨chTime, hch⟩ := Option.isSome_iff_exists.mp hch
    obtain ⟨lastSuccess, hlast⟩ := Option.isSome_iff_exists.mp hlast
    obtain ⟨current, hnow⟩ := Option.isSome_iff_exists.mp hnow
    have hstalled : Stalled dateParse tolerance (some times) ↔
        chTime < pgTime ∧ tolerance.watermarkStallSeconds * 1000 < current - lastSuccess := by
      simp [Stalled, hpg, hch, hlast, hnow]
    rw [hstalled]
    unfold watermarkReport
    simp only [watermarkDiffs, hpg, hch, hlast, hnow]
    by_cases hstall : chTime < pgTime ∧ tolerance.watermarkStallSeconds * 1000 < current - lastSuccess
    · rw [show (decide (chTime < pgTime) && decide (tolerance.watermarkStallSeconds * 1000 < current - lastSuccess)) = true by
        simpa using hstall]
      exact ⟨rfl, .inl ⟨hstall, _, rfl, rfl, rfl, rfl, rfl, rfl, rfl, rfl, rfl, rfl⟩⟩
    · rw [show (decide (chTime < pgTime) && decide (tolerance.watermarkStallSeconds * 1000 < current - lastSuccess)) = false by
        simpa using hstall]
      exact ⟨rfl, .inr ⟨hstall, rfl⟩⟩

def report (dateParse : String → Option Int) (pgRows chRows : List ReconciliationSnapshotRow)
    (tolerance : ReconciliationTolerance) (watermark : Option Watermark) : List ReconciliationDiff :=
  (keysOf pgRows chRows).flatMap (keyReport tolerance pgRows chRows) ++ watermarkReport dateParse tolerance watermark

theorem reconcileSnapshots_of (tolerance : ReconciliationTolerance)
    (h : ∀ row ∈ pgRows ++ chRows, ValidRow dateParse row) (hwatermark : ∀ times ∈ watermark, ValidWatermark dateParse times) :
    reconcileSnapshots dateParse pgRows chRows tolerance watermark =
      .ok (report dateParse pgRows chRows tolerance watermark) := by
  obtain ⟨pg, hpg, hpgRows, hpgKeys⟩ := group_of fun row hrow => h row (List.mem_append_left _ hrow)
  obtain ⟨ch, hch, hchRows, hchKeys⟩ := group_of fun row hrow => h row (List.mem_append_right _ hrow)
  have hkeys : keys pg ch = keysOf pgRows chRows := by
    refine sortTexts_eq (eraseDups_nodup _) (eraseDups_nodup _) fun key => ?_
    rw [List.mem_eraseDups, List.mem_eraseDups, List.mem_append, hpgKeys, hchKeys, List.map_append, List.mem_append]
  have hmap (keys : List String) : keys.mapM (fun key => keyDiffs tolerance (pg.rows key) (ch.rows key)) =
      .ok (keys.map (keyReport tolerance pgRows chRows)) := by
    induction keys with
    | nil => rfl
    | cons key rest ih =>
      rw [List.mapM_cons, hpgRows, hchRows, (keyReport_of tolerance h key).1, ih]
      rfl
  unfold reconcileSnapshots
  rw [hpg, hch]
  simp only [bind, Except.bind]
  rw [hkeys, hmap, (watermarkReport_of tolerance hwatermark).1]
  rfl

end Rows

end TokenPilot.Reconciliation
