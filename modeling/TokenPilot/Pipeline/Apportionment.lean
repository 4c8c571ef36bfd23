/-
  TokenPilot.Pipeline.Apportionment — what `rateApplicationAiu` charges the lines of an event.

  The total of a rating is the rounded sum of the raw values, rounded once more to an integer;
  a line is charged the floor of its raw value, and the lines with the greatest fractions one
  more, as many as the total has over the floors. Below 10^20 the total has between zero and
  as many as there are lines (`target_bounds`).
-/

import TokenPilot.Pipeline.Rating

namespace TokenPilot.Pipeline

open TokenPilot.Library TokenPilot.Quota
open TokenPilot.Runtime (Value)
open TokenPilot.Runtime.Connector (get textOf)

/-! ## Quantities -/

theorem mantissa_nonneg (t : List Char) : 0 ≤ Numeral.mantissa t :=
  mul_nonneg (Nat.cast_nonneg _) (ten_zpow_pos _).le

theorem decimal_nonneg {text : String} (h : text.toList.head? ≠ some '-') : 0 ≤ decimal text := by
  unfold decimal Numeral.value
  split
  · rename_i t heq
    exact absurd (by rw [heq]; rfl) h
  · exact mul_nonneg (mantissa_nonneg _) (ten_zpow_pos _).le

/-- Quantities of an accepted event are decimals without a sign. -/
theorem decimalPattern_nonneg {whole scale : Nat} {s : String} (h : Runtime.decimalPattern whole scale s = true) :
    0 ≤ decimal s := by
  apply decimal_nonneg
  intro hhead
  obtain ⟨rest, hrest⟩ : ∃ rest, s.toList = '-' :: rest := by
    cases hlist : s.toList with
    | nil => simp [hlist] at hhead
    | cons c rest =>
      rw [hlist] at hhead
      exact ⟨rest, by rw [Option.some.inj hhead]⟩
  have hminus : Runtime.isDigit '-' = false := by decide
  unfold Runtime.decimalPattern at h
  simp [hrest, hminus, Runtime.headed] at h

theorem rawAiuMicros_nonneg {line : ApplicationUsageLine} (rate : AiuRateItem) (h : 0 ≤ decimal line.quantity) :
    0 ≤ rawAiuMicros line rate :=
  significant_nonneg (mul_nonneg (significant_nonneg (div_nonneg h rate.unitSize_pos.le)) (Nat.cast_nonneg _))

/-! ## Drafts -/

section Drafts

variable {items : List AiuRateItem} {usage : List ApplicationUsageLine} {draft : AiuDraft}

theorem aiuDraft_index (line : ApplicationUsageLine) (index : Nat) : (aiuDraft items line index).index = index := by
  unfold aiuDraft
  split <;> rfl

/-- A draft with a rate has the floor of its raw value. -/
theorem aiuDraft_raw {line : ApplicationUsageLine} {index : Nat} (h : 0 ≤ decimal line.quantity) :
    0 ≤ (aiuDraft items line index).raw.getD 0 ∧
      (aiuDraft items line index).floor = ⌊(aiuDraft items line index).raw.getD 0⌋.toNat := by
  unfold aiuDraft
  split
  · exact ⟨le_rfl, by simp⟩
  · exact ⟨rawAiuMicros_nonneg _ h, rfl⟩

theorem aiuDrafts_ordered : ((aiuDrafts items usage).map (·.index)).Pairwise (· < ·) := by
  obtain ⟨rated, hindices⟩ : ∃ rated, (aiuDrafts items usage).map (·.index) = (usage.zipIdx.filter rated).map Prod.snd := by
    unfold aiuDrafts
    rw [List.map_map]
    refine ⟨_, List.map_congr_left ?_⟩
    rintro ⟨line, index⟩ -
    exact aiuDraft_index line index
  rw [hindices]
  apply List.Pairwise.sublist (List.Sublist.map Prod.snd List.filter_sublist)
  rw [List.zipIdx_map_snd]
  exact List.pairwise_lt_range'

theorem aiuDrafts_raw (h : ∀ line ∈ usage, 0 ≤ decimal line.quantity) (hdraft : draft ∈ aiuDrafts items usage) :
    0 ≤ draft.raw.getD 0 ∧ draft.floor = ⌊draft.raw.getD 0⌋.toNat := by
  obtain ⟨⟨line, index⟩, hmem, rfl⟩ := List.mem_map.mp hdraft
  have hline : line ∈ usage := by
    have := List.mem_of_mem_filter hmem
    exact List.fst_mem_of_mem_zipIdx this
  exact aiuDraft_raw (h line hline)

end Drafts

/-! ## The total -/

section Total

variable {drafts : List AiuDraft}

theorem aiuTarget_eq : aiuTarget drafts = (halfUp (roundedSum precision 0 (drafts.map (·.raw.getD 0)))).toNat := by
  unfold aiuTarget roundedSum
  rw [List.foldl_map]
  rfl

/-- The total is at least the floors, and at most one more for every line. -/
theorem target_bounds {raws : List ℚ} (h : ∀ x ∈ raws, 0 ≤ x)
    (hsmall : (halfUp (roundedSum precision 0 raws)).toNat + 1 < 10 ^ precision) :
    (raws.map fun x => ⌊x⌋.toNat).sum ≤ (halfUp (roundedSum precision 0 raws)).toNat ∧
      (halfUp (roundedSum precision 0 raws)).toNat ≤ (raws.map fun x => ⌊x⌋.toNat).sum + raws.length := by
  have hnonneg : 0 ≤ roundedSum precision 0 raws := le_roundedSum (by decide) ⟨0, 0, by simp, by simp⟩ le_rfl h
  have htotal : ((halfUp (roundedSum precision 0 raws)).toNat : Int) = halfUp (roundedSum precision 0 raws) :=
    Int.toNat_of_nonneg (halfUp_nonneg hnonneg)
  generalize (halfUp (roundedSum precision 0 raws)).toNat = total at htotal hsmall ⊢
  have hround : roundedSum precision 0 raws ≤ (total + 1 : Nat) := by
    have := lt_halfUp_add_one (roundedSum precision 0 raws)
    rw [← htotal] at this
    push_cast at this ⊢
    exact this.le
  obtain ⟨hlower, hupper⟩ := roundedSum_floors (by decide) hsmall h hround
  constructor
  · have hfloor : (((raws.map fun x => ⌊x⌋.toNat).sum : Nat) : Int) ≤ halfUp (roundedSum precision 0 raws) := by
      apply le_halfUp
      rw [Int.cast_natCast]
      exact hlower
    omega
  · have hceil : halfUp (roundedSum precision 0 raws) ≤
        (((raws.map fun x => ⌊x⌋.toNat).sum + raws.length : Nat) : Int) := by
      apply halfUp_le
      rw [Int.cast_natCast]
      exact hupper
    omega

end Total

/-! ## The charges -/

section Charges

variable {drafts : List AiuDraft}

/-- The drafts in the order they get one more. -/
def ranked (drafts : List AiuDraft) : List AiuDraft :=
  drafts.insertionSort fun left right =>
    right.fraction < left.fraction ∨ left.fraction = right.fraction ∧ left.index ≤ right.index

/-- As many drafts are among the first `n` of the ranking as are taken. -/
theorem countP_ranked {n : Nat} (hnodup : (drafts.map (·.index)).Nodup) (hn : n ≤ drafts.length) :
    drafts.countP (fun draft => (((ranked drafts).take n).map (·.index)).contains draft.index) = n := by
  have hperm : (ranked drafts).Perm drafts := List.perm_insertionSort _ _
  have hranked : (((ranked drafts).take n).map (·.index) ++ ((ranked drafts).drop n).map (·.index)).Nodup := by
    rw [← List.map_append, List.take_append_drop]
    exact ((hperm.map _).nodup_iff).mpr hnodup
  obtain ⟨-, -, hdisjoint⟩ := List.nodup_append.mp hranked
  have htaken : ∀ draft ∈ (ranked drafts).take n,
      (((ranked drafts).take n).map (·.index)).contains draft.index = true := by
    intro draft hdraft
    rw [List.contains_iff_mem]
    exact List.mem_map_of_mem hdraft
  have hleft : ∀ draft ∈ (ranked drafts).drop n,
      ¬ (((ranked drafts).take n).map (·.index)).contains draft.index = true := by
    intro draft hdraft htake
    rw [List.contains_iff_mem] at htake
    exact hdisjoint _ htake _ (List.mem_map_of_mem hdraft) rfl
  calc drafts.countP (fun draft => (((ranked drafts).take n).map (·.index)).contains draft.index)
      = (ranked drafts).countP (fun draft => (((ranked drafts).take n).map (·.index)).contains draft.index) :=
        (hperm.countP_eq _).symm
    _ = ((ranked drafts).take n ++ (ranked drafts).drop n).countP
          (fun draft => (((ranked drafts).take n).map (·.index)).contains draft.index) := by rw [List.take_append_drop]
    _ = ((ranked drafts).take n).length := by
      rw [List.countP_append, List.countP_eq_length.mpr htaken, List.countP_eq_zero.mpr hleft, Nat.add_zero]
    _ = n := by rw [List.length_take, hperm.length_eq, Nat.min_eq_left hn]

theorem sum_chargedMicros (selected : List Nat) : (drafts.map (chargedMicros selected)).sum =
    (drafts.map (·.floor)).sum + drafts.countP fun draft => selected.contains draft.index := by
  induction drafts with
  | nil => rfl
  | cons draft drafts ih =>
    rw [List.map_cons, List.sum_cons, ih, List.map_cons, List.sum_cons, List.countP_cons]
    unfold chargedMicros
    omega

end Charges

end TokenPilot.Pipeline
