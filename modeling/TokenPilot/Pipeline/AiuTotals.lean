/-
  TokenPilot.Pipeline.AiuTotals — when the AIU charges of an event add up to its total, and
  when the total is the exact one.

  The raw value of a line is a quotient and a product at 20 digits, and the total the sum of
  the raw values at 20 digits, rounded. The extra micros go to the greatest fractions whatever
  the total is; there are between none and one a line exactly as long as the errors of the
  additions, added up, stay within what the fractions leave (`aiu_conserved_iff`), as they do
  when 20 digits hold the partial sums or the total is below 10^20 - 1. The total is the exact
  sum rounded when 20 digits hold every intermediate result, or when no half is as near to the
  sum as the roundings may reach (`aiu_total_exact`).
-/

import TokenPilot.Library.Accuracy
import TokenPilot.Pipeline.Apportionment

namespace TokenPilot.Pipeline

open TokenPilot.Library TokenPilot.Quota

/-! ## Rated lines -/

/-- The lines that are rated for AIU, each with its rate. -/
def aiuRated (items : List AiuRateItem) (usage : List ApplicationUsageLine) : List (ApplicationUsageLine × AiuRateItem) :=
  (usage.filter fun line => relevant line && line.usageType ≠ "request").filterMap fun line =>
    (rateOf (fun item => rateKey item.usageType item.unitKey) items line).map fun rate => (line, rate)

/-- Their raw values, in the order of the lines. -/
def rawValues (items : List AiuRateItem) (usage : List ApplicationUsageLine) : List ℚ :=
  (aiuRated items usage).map fun rated => rawAiuMicros rated.1 rated.2

section Rated

variable {items : List AiuRateItem} {usage : List ApplicationUsageLine}

theorem aiuDraft_rate (line : ApplicationUsageLine) (index : Nat) :
    (aiuDraft items line index).rate = rateOf (fun item => rateKey item.usageType item.unitKey) items line := by
  unfold aiuDraft
  split
  · rename_i hrate
    rw [hrate]
  · rename_i hrate
    rw [hrate]

theorem aiuDraft_value {line : ApplicationUsageLine} {index : Nat} {rate : AiuRateItem}
    (h : rateOf (fun item => rateKey item.usageType item.unitKey) items line = some rate) :
    (aiuDraft items line index).raw = some (rawAiuMicros line rate) := by
  unfold aiuDraft
  rw [h]

/-- When every draft has a rate the drafts have the raw values. -/
theorem drafts_rawValues (h : ∀ draft ∈ aiuDrafts items usage, draft.rate.isSome = true) :
    (aiuDrafts items usage).map (·.raw.getD 0) = rawValues items usage := by
  unfold aiuDrafts rawValues aiuRated at *
  have hlines : usage = usage.zipIdx.map Prod.fst := (List.zipIdx_map_fst _ _).symm
  generalize usage.zipIdx = indexed at hlines h
  subst hlines
  rw [List.filter_map, List.map_map]
  induction indexed with
  | nil => rfl
  | cons entry rest ih =>
    obtain ⟨line, index⟩ := entry
    simp only [List.filter_cons, Function.comp_apply] at h ⊢
    by_cases hrated : (relevant line && line.usageType ≠ "request") = true
    · rw [if_pos hrated] at h
      rw [if_pos hrated, if_pos hrated, List.map_cons, List.map_cons, List.filterMap_cons]
      have hsome := h (aiuDraft items line index) List.mem_cons_self
      rw [aiuDraft_rate] at hsome
      obtain ⟨rate, hrate⟩ := Option.isSome_iff_exists.mp hsome
      have hrest := ih fun draft hdraft => h draft (List.mem_cons_of_mem _ hdraft)
      rw [hrate, Option.map_some, List.map_cons, ← hrest]
      show (aiuDraft items line index).raw.getD 0 :: _ = _
      rw [aiuDraft_value hrate]
      rfl
    · rw [if_neg hrated] at h
      rw [if_neg hrated, if_neg hrated]
      exact ih h

end Rated

/-! ## Where the extra micros go -/

section Drafts

variable {drafts : List AiuDraft}

/-- What the drafts of non-negative quantities have: exact fractions, and an index each, in order. -/
structure Drafted (drafts : List AiuDraft) : Prop where
  raw : ∀ draft ∈ drafts, 0 ≤ draft.raw.getD 0 ∧ draft.floor = ⌊draft.raw.getD 0⌋.toNat ∧
    draft.fraction = Int.fract (draft.raw.getD 0)
  ordered : (drafts.map (·.index)).Pairwise (· < ·)

theorem aiuDraft_fraction {items : List AiuRateItem} {line : ApplicationUsageLine} {index : Nat}
    (h : 0 ≤ decimal line.quantity) :
    (aiuDraft items line index).fraction = Int.fract ((aiuDraft items line index).raw.getD 0) := by
  unfold aiuDraft
  split
  · simp
  · rename_i rate hrate
    have hnonneg := rawAiuMicros_nonneg rate h
    have hdigits : Representable precision (rawAiuMicros line rate) :=
      significant_representable (by decide)
        (mul_nonneg (significant_nonneg (div_nonneg h rate.unitSize_pos.le)) (Nat.cast_nonneg _))
    show significant precision (rawAiuMicros line rate - ⌊rawAiuMicros line rate⌋) = _
    rw [Int.self_sub_floor]
    exact significant_of (by decide) (hdigits.fract hnonneg) (Int.fract_nonneg _)

theorem aiuDrafts_drafted {items : List AiuRateItem} {usage : List ApplicationUsageLine}
    (h : ∀ line ∈ usage, 0 ≤ decimal line.quantity) : Drafted (aiuDrafts items usage) where
  raw draft hdraft := by
    obtain ⟨hnonneg, hfloor⟩ := aiuDrafts_raw h hdraft
    refine ⟨hnonneg, hfloor, ?_⟩
    obtain ⟨⟨line, index⟩, hmem, rfl⟩ := List.mem_map.mp hdraft
    exact aiuDraft_fraction (h line (List.fst_mem_of_mem_zipIdx (List.mem_of_mem_filter hmem)))
  ordered := aiuDrafts_ordered

/-- `left` gets an extra micro before `right`. -/
def Before (left right : AiuDraft) : Prop :=
  right.fraction < left.fraction ∨ left.fraction = right.fraction ∧ left.index ≤ right.index

instance : DecidableRel Before := fun _ _ => inferInstanceAs (Decidable (_ ∨ _))

theorem Before.total (left right : AiuDraft) : Before left right ∨ Before right left := by
  unfold Before
  rcases lt_trichotomy left.fraction right.fraction with h | h | h
  · exact .inr (.inl h)
  · rcases Nat.le_total left.index right.index with hindex | hindex
    · exact .inl (.inr ⟨h, hindex⟩)
    · exact .inr (.inr ⟨h.symm, hindex⟩)
  · exact .inl (.inl h)

theorem Before.trans {a b c : AiuDraft} (h : Before a b) (h' : Before b c) : Before a c := by
  rcases h with h | ⟨h, hindex⟩
  · rcases h' with h' | ⟨h', -⟩
    · exact .inl (h'.trans h)
    · exact .inl (h' ▸ h)
  · rcases h' with h' | ⟨h', hindex'⟩
    · exact .inl (h ▸ h')
    · exact .inr ⟨h.trans h', hindex.trans hindex'⟩

theorem ranked_sorted : (ranked drafts).Pairwise Before := by
  have htotal : Std.Total Before := ⟨Before.total⟩
  have htrans : IsTrans AiuDraft Before := ⟨fun _ _ _ => Before.trans⟩
  exact List.pairwise_insertionSort Before drafts

/-- As many as are taken, as long as there are so many. -/
theorem countP_taken (hnodup : (drafts.map (·.index)).Nodup) (n : Nat) :
    drafts.countP (fun draft => (((ranked drafts).take n).map (·.index)).contains draft.index) = min n drafts.length := by
  rcases Nat.le_total n drafts.length with hn | hn
  · rw [countP_ranked hnodup hn, Nat.min_eq_left hn]
  · have hlength : (ranked drafts).length = drafts.length := (List.perm_insertionSort _ _).length_eq
    have htake : (ranked drafts).take n = (ranked drafts).take drafts.length := by
      rw [List.take_of_length_le (by omega), List.take_of_length_le (by omega)]
    rw [htake, countP_ranked hnodup le_rfl, Nat.min_eq_right hn]

/-- A draft that is taken comes before one that is not. -/
theorem taken_before (hnodup : (drafts.map (·.index)).Nodup) {n : Nat} {left right : AiuDraft} (hleft : left ∈ drafts)
    (hright : right ∈ drafts) (htaken : (((ranked drafts).take n).map (·.index)).contains left.index = true)
    (hother : (((ranked drafts).take n).map (·.index)).contains right.index = false) : Before left right := by
  have hperm : (ranked drafts).Perm drafts := List.perm_insertionSort _ _
  have hinjective : ∀ {a b : AiuDraft}, a ∈ drafts → b ∈ drafts → a.index = b.index → a = b :=
    fun ha hb h => List.inj_on_of_nodup_map hnodup ha hb h
  have hsorted := @ranked_sorted drafts
  rw [← List.take_append_drop n (ranked drafts), List.pairwise_append] at hsorted
  have hleft' : left ∈ (ranked drafts).take n := by
    rw [List.contains_iff_mem] at htaken
    obtain ⟨draft, hdraft, heq⟩ := List.mem_map.mp htaken
    have hmem : draft ∈ drafts := hperm.mem_iff.mp (List.mem_of_mem_take hdraft)
    rwa [← hinjective hmem hleft heq]
  have hright' : right ∈ (ranked drafts).drop n := by
    have hmem : right ∈ (ranked drafts).take n ++ (ranked drafts).drop n := by
      rw [List.take_append_drop]
      exact hperm.mem_iff.mpr hright
    rcases List.mem_append.mp hmem with htake | hdrop
    · have hcontained := List.contains_iff_mem.mpr (@List.mem_map_of_mem _ _ _ _ AiuDraft.index htake)
      rw [hother] at hcontained
      cases hcontained
    · exact hdrop
  exact hsorted.2.2 left hleft' right hright'

theorem taken_lt (hnodup : (drafts.map (·.index)).Nodup) {n : Nat} {left right : AiuDraft} (hleft : left ∈ drafts)
    (hright : right ∈ drafts) (htaken : (((ranked drafts).take n).map (·.index)).contains left.index = true)
    (hother : (((ranked drafts).take n).map (·.index)).contains right.index = false) :
    right.fraction < left.fraction ∨ left.fraction = right.fraction ∧ left.index < right.index := by
  rcases taken_before hnodup hleft hright htaken hother with h | ⟨h, hindex⟩
  · exact .inl h
  · refine .inr ⟨h, lt_of_le_of_ne hindex ?_⟩
    intro heq
    rw [heq, hother] at htaken
    cases htaken

end Drafts

/-! ## The charges -/

/-- The charges of lines with these raw values are the total: a floor each, or one more where
    the fraction is greater, or as great and the line is the earlier one. -/
structure Conserved (raws : List ℚ) (total : Nat) (charges : List Nat) : Prop where
  sum : charges.sum = total
  charge : List.Forall₂ (fun charge raw => charge = ⌊raw⌋.toNat ∨ charge = ⌊raw⌋.toNat + 1) charges raws
  greatest : ∀ (i j : Nat) (x y : ℚ), raws[i]? = some x → raws[j]? = some y → charges[i]? = some (⌊x⌋.toNat + 1) →
    charges[j]? = some ⌊y⌋.toNat → Int.fract y < Int.fract x ∨ Int.fract x = Int.fract y ∧ i < j
  additions : total ≤ (raws.map fun x => ⌊x⌋.toNat).sum + raws.length

/-- The additions of the raw values are off by no more than their fractions allow. -/
def WithinFractions (raws : List ℚ) : Prop :=
  -((raws.map Int.fract).sum + 1 / 2) ≤ (additionErrors precision 0 raws).sum ∧
    (additionErrors precision 0 raws).sum < raws.length - (raws.map Int.fract).sum + 1 / 2

instance (raws : List ℚ) : Decidable (WithinFractions raws) := inferInstanceAs (Decidable (_ ∧ _))

section Charges

variable {drafts : List AiuDraft}

theorem chargedMicros_taken {selected : List Nat} {draft : AiuDraft} (h : chargedMicros selected draft = draft.floor + 1) :
    selected.contains draft.index = true := by
  by_contra hnot
  unfold chargedMicros at h
  rw [if_neg hnot] at h
  omega

theorem chargedMicros_other {selected : List Nat} {draft : AiuDraft} (h : chargedMicros selected draft = draft.floor) :
    selected.contains draft.index = false := by
  by_contra hnot
  unfold chargedMicros at h
  rw [if_pos (eq_true_of_ne_false hnot)] at h
  omega

theorem sum_floor_fract {raws : List ℚ} (h : ∀ x ∈ raws, 0 ≤ x) :
    raws.sum = ((raws.map fun x => ⌊x⌋.toNat).sum : Nat) + (raws.map Int.fract).sum := by
  induction raws with
  | nil => simp
  | cons x rest ih =>
    have hx : ((⌊x⌋.toNat : Nat) : ℚ) + Int.fract x = x := by
      rw [← Int.cast_natCast, Int.toNat_of_nonneg (Int.floor_nonneg.mpr (h x (by simp)))]
      exact Int.floor_add_fract x
    rw [List.sum_cons, ih fun y hy => h y (by simp [hy]), List.map_cons, List.map_cons, List.sum_cons, List.sum_cons]
    push_cast
    linarith

/-- The total is between the floors and one more a line exactly while the errors are within
    what the fractions allow. -/
theorem target_within_iff {raws : List ℚ} (h : ∀ x ∈ raws, 0 ≤ x) :
    ((raws.map fun x => ⌊x⌋.toNat).sum ≤ (halfUp (roundedSum precision 0 raws)).toNat ∧
      (halfUp (roundedSum precision 0 raws)).toNat ≤ (raws.map fun x => ⌊x⌋.toNat).sum + raws.length) ↔
    WithinFractions raws := by
  have hnonneg : 0 ≤ roundedSum precision 0 raws := le_roundedSum (by decide) ⟨0, 0, by simp, by simp⟩ le_rfl h
  have hsum := roundedSum_eq (p := precision) 0 raws
  rw [zero_add, sum_floor_fract h] at hsum
  have hround : ((halfUp (roundedSum precision 0 raws)).toNat : Int) = ⌊roundedSum precision 0 raws + 1 / 2⌋ := by
    rw [Int.toNat_of_nonneg (halfUp_nonneg hnonneg), halfUp_of_nonneg hnonneg]
  generalize (raws.map fun x => ⌊x⌋.toNat).sum = floors at hsum ⊢
  have hlower : floors ≤ (halfUp (roundedSum precision 0 raws)).toNat ↔
      -((raws.map Int.fract).sum + 1 / 2) ≤ (additionErrors precision 0 raws).sum := by
    rw [← Int.ofNat_le, hround, Int.le_floor, hsum, Int.cast_natCast]
    constructor <;> intro hle <;> linarith
  have hupper : (halfUp (roundedSum precision 0 raws)).toNat ≤ floors + raws.length ↔
      (additionErrors precision 0 raws).sum < raws.length - (raws.map Int.fract).sum + 1 / 2 := by
    rw [← Int.ofNat_le, hround, ← Int.lt_add_one_iff, Int.floor_lt, hsum]
    push_cast
    constructor <;> intro hlt <;> linarith
  exact and_congr hlower hupper

theorem sum_fract_le (raws : List ℚ) : 0 ≤ (raws.map Int.fract).sum ∧ (raws.map Int.fract).sum ≤ raws.length := by
  induction raws with
  | nil => simp
  | cons x rest ih =>
    have hlower := Int.fract_nonneg x
    have hupper := Int.fract_lt_one x
    rw [List.map_cons, List.sum_cons, List.length_cons]
    push_cast
    constructor <;> linarith

/-- The additions of sums that 20 digits hold have no errors. -/
theorem withinFractions_of_digits {raws : List ℚ} (h : ∀ x ∈ raws, 0 ≤ x) (hheld : SumsHeld precision 0 raws) : WithinFractions raws := by
  have hnone : (additionErrors precision 0 raws).sum = 0 := additionErrors_of (by decide) le_rfl h hheld
  obtain ⟨hlower, hupper⟩ := sum_fract_le raws
  unfold WithinFractions
  rw [hnone]
  constructor <;> linarith

/-- A total below `10 ^ 20 - 1` is one the lines can make up. -/
theorem withinFractions_of_small {raws : List ℚ} (h : ∀ x ∈ raws, 0 ≤ x)
    (hsmall : (halfUp (roundedSum precision 0 raws)).toNat + 1 < 10 ^ precision) : WithinFractions raws :=
  (target_within_iff h).mp (target_bounds h hsmall)

theorem Drafted.nonneg (h : Drafted drafts) : ∀ x ∈ drafts.map (·.raw.getD 0), 0 ≤ x := by
  intro x hx
  obtain ⟨draft, hdraft, rfl⟩ := List.mem_map.mp hx
  exact (h.raw draft hdraft).1

theorem Drafted.floors (h : Drafted drafts) :
    ((drafts.map (·.raw.getD 0)).map fun x => ⌊x⌋.toNat) = drafts.map (·.floor) := by
  rw [List.map_map]
  exact List.map_congr_left fun draft hdraft => (h.raw draft hdraft).2.1.symm

theorem Drafted.nodup (h : Drafted drafts) : (drafts.map (·.index)).Nodup := h.ordered.imp fun hlt => Nat.ne_of_lt hlt

/-- The drafts are charged what they should be exactly when the total is one they can make up. -/
theorem charged_conserved_iff (h : Drafted drafts) :
    Conserved (drafts.map (·.raw.getD 0)) (aiuTarget drafts) (drafts.map (chargedMicros (selectedDrafts drafts))) ↔
      WithinFractions (drafts.map (·.raw.getD 0)) := by
  rw [← target_within_iff h.nonneg, ← aiuTarget_eq, h.floors, List.length_map]
  have hsum : (drafts.map (chargedMicros (selectedDrafts drafts))).sum =
      (drafts.map (·.floor)).sum + min ((aiuTarget drafts : Int) - (drafts.map (·.floor)).sum).toNat drafts.length := by
    rw [sum_chargedMicros]
    exact congrArg _ (countP_taken h.nodup _)
  constructor
  · intro hconserved
    have htotal := hconserved.sum
    rw [hsum] at htotal
    omega
  · rintro ⟨hlower, hupper⟩
    refine ⟨by rw [hsum]; omega, ?_, ?_, ?_⟩
    · rw [List.forall₂_map_left_iff, List.forall₂_map_right_iff, List.forall₂_same]
      intro draft hdraft
      rw [← (h.raw draft hdraft).2.1]
      unfold chargedMicros
      split
      · exact .inr rfl
      · exact .inl rfl
    · intro i j x y hx hy hcharged hother
      rw [List.getElem?_map, Option.map_eq_some_iff] at hx hy
      obtain ⟨left, hleft, rfl⟩ := hx
      obtain ⟨right, hright, rfl⟩ := hy
      have hleftMem := List.mem_of_getElem? hleft
      have hrightMem := List.mem_of_getElem? hright
      rw [List.getElem?_map, hleft, Option.map_some, ← (h.raw left hleftMem).2.1] at hcharged
      rw [List.getElem?_map, hright, Option.map_some, ← (h.raw right hrightMem).2.1] at hother
      have htaken := chargedMicros_taken (Option.some.inj hcharged)
      have hnot := chargedMicros_other (Option.some.inj hother)
      rw [← (h.raw left hleftMem).2.2, ← (h.raw right hrightMem).2.2]
      rcases taken_lt h.nodup hleftMem hrightMem htaken hnot with hlt | ⟨heq, hindex⟩
      · exact .inl hlt
      · refine .inr ⟨heq, ?_⟩
        -- the indices grow with the positions
        rcases Nat.lt_or_ge i j with hij | hji
        · exact hij
        · exfalso
          obtain ⟨hi, hleftAt⟩ := List.getElem?_eq_some_iff.mp hleft
          obtain ⟨hj, hrightAt⟩ := List.getElem?_eq_some_iff.mp hright
          rcases hji.eq_or_lt with rfl | hlt
          · have hsame : left = right := by rw [← hleftAt, ← hrightAt]
            rw [hsame] at hindex
            exact Nat.lt_irrefl _ hindex
          · have hordered := List.pairwise_iff_getElem.mp h.ordered j i (by simpa using hj) (by simpa using hi) hlt
            rw [List.getElem_map, List.getElem_map, hleftAt, hrightAt] at hordered
            omega
    · rw [h.floors, List.length_map]
      exact hupper

end Charges

/-! ## The rating -/

/-- What an official rating is made of. -/
theorem rateApplicationAiu_official {version : Option ModelAiuVersion} {usage : List ApplicationUsageLine} {total : Nat}
    (h : (rateApplicationAiu version usage).totalMicros = some total) :
    ∃ rates, version = some rates ∧ (∀ draft ∈ aiuDrafts rates.items usage, draft.rate.isSome = true) ∧
      total = aiuTarget (aiuDrafts rates.items usage) ∧
      (rateApplicationAiu version usage).lines.map (·.chargedAiuMicros) =
        ((aiuDrafts rates.items usage).map (chargedMicros (selectedDrafts (aiuDrafts rates.items usage)))).map
          fun charge => some (toString charge) := by
  cases version with
  | none => simp [rateApplicationAiu] at h
  | some rates =>
    refine ⟨rates, rfl, ?_⟩
    unfold rateApplicationAiu at h ⊢
    simp only [Option.isNone_some, Bool.false_or, Option.map_some, Option.getD_some] at h ⊢
    split at h
    · cases h
    · rename_i hrated
      rw [if_neg hrated]
      refine ⟨?_, (Option.some.inj h).symm, ?_⟩
      · intro draft hdraft
        by_contra hnone
        exact hrated (List.any_eq_true.mpr ⟨draft, hdraft, by simpa using hnone⟩)
      · rw [List.map_map, List.map_map]
        rfl

/-- The charges of an official rating are the total, shared as it should be, exactly while the
    errors of the additions stay within what the fractions allow. -/
theorem aiu_conserved_iff (version : ModelAiuVersion) {usage : List ApplicationUsageLine} {total : Nat}
    (hquantity : ∀ line ∈ usage, 0 ≤ decimal line.quantity)
    (h : (rateApplicationAiu (some version) usage).totalMicros = some total) :
    (∃ charges : List Nat, (rateApplicationAiu (some version) usage).lines.map (·.chargedAiuMicros) =
        charges.map (fun charge => some (toString charge)) ∧
      Conserved (rawValues version.items usage) total charges) ↔
    WithinFractions (rawValues version.items usage) := by
  obtain ⟨rates, heq, hrated, rfl, hlines⟩ := rateApplicationAiu_official h
  cases heq
  rw [hlines, ← drafts_rawValues hrated, ← charged_conserved_iff (aiuDrafts_drafted hquantity)]
  constructor
  · rintro ⟨charges, hcharges, hconserved⟩
    have hinjective : Function.Injective fun charge : Nat => some (toString charge) :=
      fun a b hab => toString_inj (Option.some.inj hab)
    rwa [List.map_injective_iff.mpr hinjective hcharges]
  · exact fun hconserved => ⟨_, rfl, hconserved⟩

def tokenRate (usageType : String) (unitSize : ℚ) (micros : Nat) (h : 0 < unitSize) : AiuRateItem :=
  ⟨0, usageType, "", unitSize, micros, h⟩

/-- Two thirds of a micro and two thirds of another are one, which the first line is charged. -/
theorem thirds_conserved :
    (∃ charges : List Nat, (rateApplicationAiu (some ⟨0, [tokenRate "uncached_input_token" 3 1 (by decide),
          tokenRate "output_token" 3 1 (by decide)]⟩)
          [⟨"uncached_input_token", none, "2"⟩, ⟨"output_token", none, "2"⟩]).lines.map (·.chargedAiuMicros) =
        charges.map (fun charge => some (toString charge)) ∧
      Conserved (rawValues [tokenRate "uncached_input_token" 3 1 (by decide), tokenRate "output_token" 3 1 (by decide)]
        [⟨"uncached_input_token", none, "2"⟩, ⟨"output_token", none, "2"⟩]) 1 charges) :=
  (aiu_conserved_iff ⟨0, [tokenRate "uncached_input_token" 3 1 (by decide), tokenRate "output_token" 3 1 (by decide)]⟩
    (by decide +kernel) (by decide +kernel)).mpr (by decide +kernel)

/-- Two counts whose sum has 21 digits are charged less than the total. -/
theorem large_counts_lose_micros :
    let version : ModelAiuVersion := ⟨0, [tokenRate "output_token" 1 1 (by decide),
      tokenRate "uncached_input_token" 1 1 (by decide)]⟩
    let usage : List ApplicationUsageLine := [⟨"output_token", none, "123456789012345678900"⟩,
      ⟨"uncached_input_token", none, "5"⟩]
    (rateApplicationAiu (some version) usage).totalMicros = some 123456789012345678910 ∧
      (rateApplicationAiu (some version) usage).lines.map (·.chargedAiuMicros) =
        [some "123456789012345678901", some "6"] := by
  decide +kernel

/-! ## The exact total -/

def exactValue (rated : ApplicationUsageLine × AiuRateItem) : ℚ :=
  decimal rated.1.quantity * rated.2.aiuMicrosPerUnit / rated.2.unitSize

/-- The sum over the rated lines, without any rounding. -/
def exactMicros (items : List AiuRateItem) (usage : List ApplicationUsageLine) : ℚ :=
  ((aiuRated items usage).map exactValue).sum

/-- 20 digits hold every quotient, every product and every partial sum. -/
structure MicrosHeld (items : List AiuRateItem) (usage : List ApplicationUsageLine) : Prop where
  quotient : ∀ rated ∈ aiuRated items usage, Representable precision (decimal rated.1.quantity / rated.2.unitSize)
  product : ∀ rated ∈ aiuRated items usage, Representable precision (exactValue rated)
  sums : SumsHeld precision 0 ((aiuRated items usage).map exactValue)

theorem aiuRated_nonneg {items : List AiuRateItem} {usage : List ApplicationUsageLine}
    (h : ∀ line ∈ usage, 0 ≤ decimal line.quantity) : ∀ rated ∈ aiuRated items usage, 0 ≤ decimal rated.1.quantity := by
  intro rated hrated
  obtain ⟨line, hline, hsome⟩ := List.mem_filterMap.mp hrated
  obtain ⟨rate, -, rfl⟩ := Option.map_eq_some_iff.mp hsome
  exact h line (List.mem_of_mem_filter hline)

theorem rawValues_nonneg {items : List AiuRateItem} {usage : List ApplicationUsageLine}
    (h : ∀ line ∈ usage, 0 ≤ decimal line.quantity) : ∀ x ∈ rawValues items usage, 0 ≤ x := by
  intro x hx
  obtain ⟨rated, hrated, rfl⟩ := List.mem_map.mp hx
  exact rawAiuMicros_nonneg rated.2 (aiuRated_nonneg h rated hrated)

theorem exactValue_nonneg {items : List AiuRateItem} {usage : List ApplicationUsageLine}
    (h : ∀ line ∈ usage, 0 ≤ decimal line.quantity) : ∀ rated ∈ aiuRated items usage, 0 ≤ exactValue rated := by
  intro rated hrated
  exact div_nonneg (mul_nonneg (aiuRated_nonneg h rated hrated) (Nat.cast_nonneg _)) rated.2.unitSize_pos.le

theorem totalMicros_eq {version : ModelAiuVersion} {usage : List ApplicationUsageLine} {total : Nat}
    (hquantity : ∀ line ∈ usage, 0 ≤ decimal line.quantity)
    (h : (rateApplicationAiu (some version) usage).totalMicros = some total) :
    (total : Int) = halfUp (roundedSum precision 0 (rawValues version.items usage)) ∧
      0 ≤ roundedSum precision 0 (rawValues version.items usage) := by
  obtain ⟨rates, heq, hrated, rfl, -⟩ := rateApplicationAiu_official h
  cases heq
  have hnonneg : 0 ≤ roundedSum precision 0 (rawValues version.items usage) :=
    le_roundedSum (by decide) ⟨0, 0, by simp, by simp⟩ le_rfl (rawValues_nonneg hquantity)
  rw [aiuTarget_eq, drafts_rawValues hrated]
  exact ⟨Int.toNat_of_nonneg (halfUp_nonneg hnonneg), hnonneg⟩

section Exact

variable {items : List AiuRateItem} {usage : List ApplicationUsageLine}

/-- A raw value is rounded twice. -/
theorem accurate_rawAiuMicros {line : ApplicationUsageLine} (rate : AiuRateItem) (h : 0 ≤ decimal line.quantity) :
    Accurate precision 2 (rawAiuMicros line rate) (exactValue (line, rate)) := by
  have hquotient := accurate_significant (show 0 < precision by decide) (div_nonneg h rate.unitSize_pos.le)
  have hscaled := hquotient.mul (Nat.cast_nonneg rate.aiuMicrosPerUnit)
  have hproduct := hscaled.trans (accurate_significant (show 0 < precision by decide) hscaled.nonneg)
  have hexact : decimal line.quantity / rate.unitSize * rate.aiuMicrosPerUnit = exactValue (line, rate) := by
    unfold exactValue
    ring
  rw [hexact] at hproduct
  exact hproduct

/-- The sum is rounded once more for every line. -/
theorem accurate_total (h : ∀ line ∈ usage, 0 ≤ decimal line.quantity) :
    Accurate precision ((aiuRated items usage).length + 2) (roundedSum precision 0 (rawValues items usage))
      (exactMicros items usage) := by
  have hvalues : Accurate precision 2 (rawValues items usage).sum (exactMicros items usage) :=
    Accurate.sum fun rated hrated => accurate_rawAiuMicros rated.2 (aiuRated_nonneg h rated hrated)
  have hsum := accurate_roundedSum (show 0 < precision by decide) le_rfl (@rawValues_nonneg items _ h)
  rw [zero_add, rawValues, List.length_map] at hsum
  rw [Nat.add_comm]
  exact hvalues.trans hsum

theorem roundedSum_representable (h : ∀ line ∈ usage, 0 ≤ decimal line.quantity) :
    Representable precision (roundedSum precision 0 (rawValues items usage)) := by
  exact representable_roundedSum (by decide) (fun _ => ⟨0, 0, by decide, by simp⟩) le_rfl (rawValues_nonneg h)

theorem roundedSum_held (h : ∀ line ∈ usage, 0 ≤ decimal line.quantity) (hheld : MicrosHeld items usage) :
    roundedSum precision 0 (rawValues items usage) = exactMicros items usage := by
  have hvalues : rawValues items usage = (aiuRated items usage).map exactValue := by
    refine List.map_congr_left fun rated hrated => ?_
    have hnonneg := div_nonneg (aiuRated_nonneg h rated hrated) rated.2.unitSize_pos.le
    have hexact : decimal rated.1.quantity / rated.2.unitSize * rated.2.aiuMicrosPerUnit = exactValue rated := by
      unfold exactValue
      ring
    unfold rawAiuMicros PrismaDecimal.mul PrismaDecimal.div
    rw [significant_of (by decide) (hheld.quotient rated hrated) hnonneg, hexact,
      significant_of (by decide) (hheld.product rated hrated) (exactValue_nonneg h rated hrated)]
  rw [roundedSum_of (by decide) le_rfl (rawValues_nonneg h) (hvalues ▸ hheld.sums), zero_add, hvalues]
  rfl

end Exact

/-- The total of an official rating is the exact sum rounded half up when 20 digits hold every
    quotient, product and partial sum, or when the sum is farther from every half than two
    roundings and one for every line may move it; and only while 20 digits hold what the sum
    rounds to. -/
theorem aiu_total_exact (version : ModelAiuVersion) {usage : List ApplicationUsageLine} {total : Nat}
    (hquantity : ∀ line ∈ usage, 0 ≤ decimal line.quantity)
    (h : (rateApplicationAiu (some version) usage).totalMicros = some total) :
    (MicrosHeld version.items usage ∨
        ClearOfHalves precision ((aiuRated version.items usage).length + 2) (exactMicros version.items usage) →
      (total : Int) = halfUp (exactMicros version.items usage)) ∧
    ((total : Int) = halfUp (exactMicros version.items usage) →
      Representable precision (halfUp (exactMicros version.items usage))) := by
  have htotal := (totalMicros_eq hquantity h).1
  constructor
  · intro hheld
    rw [htotal]
    rcases hheld with hheld | hclear
    · rw [roundedSum_held hquantity hheld]
    · exact (accurate_total hquantity).halfUp_eq hclear
  · intro hexact
    rw [← hexact, htotal]
    exact halfUp_representable (@roundedSum_representable version.items _ hquantity) (totalMicros_eq hquantity h).2

/-- Four tokens at a unit size of three and a rate of three are four micros, although 20 digits
    do not hold four thirds. -/
theorem four_thirds_exact :
    ((4 : Nat) : Int) = halfUp (exactMicros [tokenRate "output_token" 3 3 (by decide)] [⟨"output_token", none, "4"⟩]) :=
  (aiu_total_exact ⟨0, [tokenRate "output_token" 3 3 (by decide)]⟩ (by decide +kernel) (by decide +kernel)).1
    (.inr (by decide +kernel))

/-- Eleven tokens at a unit size of six and a rate of three are five and a half micros, of which
    the total has five. -/
theorem eleven_sixths_rounded_down :
    (rateApplicationAiu (some ⟨0, [tokenRate "output_token" 6 3 (by decide)]⟩) [⟨"output_token", none, "11"⟩]).totalMicros =
        some 5 ∧
      halfUp (exactMicros [tokenRate "output_token" 6 3 (by decide)] [⟨"output_token", none, "11"⟩]) = 6 := by
  decide +kernel

end TokenPilot.Pipeline
