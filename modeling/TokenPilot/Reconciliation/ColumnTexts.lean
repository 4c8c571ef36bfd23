/-
  TokenPilot.Reconciliation.ColumnTexts — which texts of a decimal column the metrics of the
  engine accept.

  A column of `places` decimals holds a number of units, `units / 10 ^ places`. PostgreSQL
  gives it as a decimal of decimal.js, whose text has an exponent below 0.000001 and from
  10 ^ 21 on (`driverText`); ClickHouse writes it without one (`clickHouseText`). Both leave
  out the zeros at the end. So a metric of whole tokens accepts the first exactly when the
  units are whole and below 10 ^ 21 (`integerText_driver`), and a cost exactly when it is zero
  or not shown with an exponent (`decimalText_driver`).
-/

import TokenPilot.Reconciliation.Records

namespace TokenPilot.Reconciliation

open TokenPilot.Library

def column (places : Nat) (units : Int) : Decimal := Decimal.ofScaled units (-(places : Int))

/-- `String(value)` of a `Prisma.Decimal` -/
def driverText (places : Nat) (units : Int) : String := String.ofList (Numeral.jsNumber (column places units))

/-- `toString(value)` of ClickHouse -/
def clickHouseText (places : Nat) (units : Int) : String := plainText (column places units)

/-! ## Accepted texts -/

theorem integerText_digits {s : List Char} (h : integerText s = true) : Numeral.Plain s := by
  cases s with
  | nil => cases h
  | cons c rest =>
    simp only [integerText, Bool.or_eq_true, Bool.and_eq_true, decide_eq_true_eq, List.isEmpty_iff] at h
    intro d hd
    rcases h with ⟨rfl, rfl⟩ | ⟨⟨hc, -⟩, hrest⟩
    · rw [List.mem_singleton.mp hd]
      rfl
    · rcases List.mem_cons.mp hd with rfl | hd
      · exact hc
      · exact List.all_eq_true.mp hrest d hd

theorem integerText_of {s : List Char} (h : Numeral.Plain s) (hs : s ≠ []) (hhead : s = ['0'] ∨ s.head? ≠ some '0') :
    integerText s = true := by
  cases s with
  | nil => exact absurd rfl hs
  | cons c rest =>
    rcases hhead with hzero | hhead
    · rw [hzero]
      rfl
    · have hc : c ≠ '0' := by simpa using hhead
      have hrest : rest.all Char.isDigit = true := List.all_eq_true.mpr fun d hd => h d (by simp [hd])
      simp [integerText, h c (by simp), hc, hrest]

theorem decimalText_chars {s : List Char} (h : decimalText s = true) : ∀ c ∈ s, c.isDigit = true ∨ c = '.' := by
  unfold decimalText at h
  rw [Bool.and_eq_true] at h
  obtain ⟨-, hfraction⟩ := h
  intro c hc
  rw [← List.takeWhile_append_dropWhile (p := Char.isDigit) (l := s)] at hc
  rcases List.mem_append.mp hc with hc | hc
  · exact .inl (List.mem_takeWhile_imp hc)
  · cases hdrop : s.dropWhile Char.isDigit with
    | nil =>
      rw [hdrop] at hc
      cases hc
    | cons d fraction =>
      rw [hdrop] at hc hfraction
      simp only [Bool.and_eq_true, decide_eq_true_eq, List.all_eq_true] at hfraction
      rcases List.mem_cons.mp hc with rfl | hc
      · exact .inr hfraction.1.1
      · exact .inl (hfraction.2 c hc)

theorem decimalText_whole {s : List Char} (h : integerText s = true) : decimalText s = true := by
  have hdigits := integerText_digits h
  have htake : s.takeWhile Char.isDigit = s := List.takeWhile_eq_self_iff.mpr hdigits
  have hdrop : s.dropWhile Char.isDigit = [] := List.dropWhile_eq_nil_iff.mpr hdigits
  unfold decimalText
  rw [htake, hdrop, h]
  rfl

theorem decimalText_pointed {whole fraction : List Char} (hwhole : integerText whole = true) (hfraction : Numeral.Plain fraction)
    (hne : fraction ≠ []) : decimalText (whole ++ '.' :: fraction) = true := by
  have hdigits := integerText_digits hwhole
  have htake : (whole ++ '.' :: fraction).takeWhile Char.isDigit = whole := by
    rw [List.takeWhile_append_of_pos hdigits, List.takeWhile_cons_of_neg (by decide), List.append_nil]
  have hdrop : (whole ++ '.' :: fraction).dropWhile Char.isDigit = '.' :: fraction := by
    rw [List.dropWhile_append_of_pos hdigits, List.dropWhile_cons_of_neg (by decide)]
  have hall : fraction.all Char.isDigit = true := List.all_eq_true.mpr hfraction
  unfold decimalText
  rw [htake, hdrop, hwhole]
  simp [hall, hne]

/-! ## Digits with a point -/

/-- Digits of a number, with the place of its point: no zero stands first, but for zero itself. -/
structure Leading (s : List Char) (n : Int) : Prop where
  digits : Numeral.Plain s
  nonempty : s ≠ []
  head : s = ['0'] ∧ n = 1 ∨ s.head? ≠ some '0'

theorem Leading.integer_iff {s : List Char} {n : Int} (h : Leading s n) :
    integerText (Numeral.fixed s n) = true ↔ s.length ≤ n := by
  constructor
  · intro hinteger
    have hpoint := (integerText_digits hinteger).not_mem (c := '.') (by decide)
    by_contra hn
    unfold Numeral.fixed at hpoint
    rw [if_neg hn] at hpoint
    split at hpoint <;> simp at hpoint
  · intro hn
    unfold Numeral.fixed
    rw [if_pos hn]
    refine integerText_of (h.digits.append (Numeral.plain_zeros _)) (by simp [h.nonempty]) ?_
    rcases h.head with ⟨rfl, rfl⟩ | hhead
    · exact .inl rfl
    · right
      rw [List.head?_append_of_ne_nil _ h.nonempty]
      exact hhead

theorem Leading.decimal {s : List Char} {n : Int} (h : Leading s n) : decimalText (Numeral.fixed s n) = true := by
  by_cases hn : (s.length : Int) ≤ n
  · exact decimalText_whole (h.integer_iff.mpr hn)
  · unfold Numeral.fixed
    rw [if_neg hn]
    split_ifs with hpos
    · have htake : s.take n.toNat ≠ [] := by
        rw [Ne, List.take_eq_nil_iff]
        rintro (hzero | hnil)
        · omega
        · exact h.nonempty hnil
      have hhead : s.head? ≠ some '0' := by
        rcases h.head with ⟨rfl, rfl⟩ | hhead
        · exact absurd (show ((['0'] : List Char).length : Int) ≤ 1 by decide) hn
        · exact hhead
      refine decimalText_pointed (integerText_of (fun c hc => h.digits c (List.mem_of_mem_take hc)) htake (.inr ?_))
        (fun c hc => h.digits c (List.mem_of_mem_drop hc)) ?_
      · rw [List.head?_take, if_neg (by omega)]
        exact hhead
      · rw [Ne, List.drop_eq_nil_iff]
        omega
    · have hzero : integerText ['0'] = true := by decide
      exact decimalText_pointed hzero ((Numeral.plain_zeros _).append h.digits) (by simp [h.nonempty])

theorem scientific_exponent (width : Nat) (s : List Char) (n : Int) : 'e' ∈ Numeral.scientific width s n := by
  unfold Numeral.scientific
  simp

/-! ## Columns -/

section Columns

variable {places : Nat} {units : Int}

theorem column_zero (places : Nat) : column places 0 = ⟨0, 0, .inl ⟨rfl, rfl⟩⟩ := rfl

/-- The decimal of some units has their digits without the zeros at the end. -/
theorem column_parts (places : Nat) (hunits : 0 < units) : ∃ zeros : Nat, 0 < (column places units).coefficient ∧
    units = (column places units).coefficient * 10 ^ zeros ∧ (column places units).exponent = zeros - places := by
  obtain ⟨d, hd⟩ : ∃ d, d = column places units := ⟨_, rfl⟩
  have hvalue : (d.coefficient : ℚ) * 10 ^ d.exponent = units * 10 ^ (-(places : Int)) := by
    rw [hd]
    exact Decimal.toRat_ofScaled _ _
  have hunits' : (units : ℚ) = d.coefficient * 10 ^ (d.exponent + places) := by
    rw [zpow_add₀ (by norm_num), ← mul_assoc, hvalue, mul_assoc, ← zpow_add₀ (by norm_num), neg_add_cancel, zpow_zero, mul_one]
  rw [← hd]
  rcases d.normal with ⟨hzero, -⟩ | hnormal
  · rw [hzero] at hunits'
    simp at hunits'
    omega
  · rcases Int.eq_nat_or_neg (d.exponent + places) with ⟨zeros, hzeros | hzeros⟩
    · rw [hzeros, zpow_natCast] at hunits'
      have hint : units = d.coefficient * 10 ^ zeros := by exact_mod_cast hunits'
      refine ⟨zeros, ?_, hint, by omega⟩
      exact pos_of_mul_pos_left (hint ▸ hunits) (by positivity)
    · -- a coefficient of fewer zeros than the units would end in a zero
      cases zeros with
      | zero =>
        rw [hzeros] at hunits'
        have hint : units = d.coefficient := by exact_mod_cast (by simpa using hunits')
        exact ⟨0, hint ▸ hunits, by simpa using hint, by omega⟩
      | succ zeros =>
        exfalso
        have hcoefficient : (d.coefficient : ℚ) = units * 10 ^ (zeros + 1) := by
          rw [hunits', hzeros, zpow_neg, zpow_natCast, mul_assoc, inv_mul_cancel₀ (by positivity), mul_one]
        have hint : d.coefficient = units * 10 ^ (zeros + 1) := by exact_mod_cast hcoefficient
        rw [hint, pow_succ, ← mul_assoc] at hnormal
        exact hnormal (Int.mul_emod_left _ _)

theorem length_toDigits_mul {n : Nat} (hn : 0 < n) (zeros : Nat) :
    (Nat.toDigits 10 (n * 10 ^ zeros)).length = (Nat.toDigits 10 n).length + zeros := by
  induction zeros with
  | zero => simp
  | succ zeros ih =>
    have hten : n * 10 ^ (zeros + 1) = 10 * (n * 10 ^ zeros) := by ring
    have hpos : 0 < n * 10 ^ zeros := by positivity
    rw [hten, Nat.toDigits_of_base_le (by norm_num) (by omega), List.length_append, Nat.mul_div_cancel_left _ (by norm_num), ih]
    rfl

/-- The place of the point is that of all digits of the units. -/
theorem place_column (hunits : 0 < units) :
    Numeral.place (column places units) = (Nat.toDigits 10 units.natAbs).length - places := by
  obtain ⟨zeros, hpos, hvalue, hexponent⟩ := column_parts places hunits
  have habs : units.natAbs = (column places units).coefficient.natAbs * 10 ^ zeros := by
    have h := congrArg Int.natAbs hvalue
    rwa [Int.natAbs_mul, Int.natAbs_pow] at h
  unfold Numeral.place Numeral.digits
  rw [habs, length_toDigits_mul (by omega), hexponent]
  push_cast
  ring

theorem column_leading (hunits : 0 ≤ units) :
    Leading (Numeral.digits (column places units)) (Numeral.place (column places units)) := by
  refine ⟨Numeral.plain_digits _, Numeral.digits_ne_nil _, ?_⟩
  rcases hunits.eq_or_lt with rfl | hpos
  · rw [column_zero]
    exact .inl ⟨rfl, rfl⟩
  · obtain ⟨zeros, hcoefficient, -⟩ := column_parts places hpos
    exact .inr (Numeral.head?_toDigits (by omega))

/-- The units make a whole number exactly when the digits reach the point. -/
theorem length_le_place_iff (hunits : 0 < units) :
    ((Numeral.digits (column places units)).length : Int) ≤ Numeral.place (column places units) ↔ 10 ^ places ∣ units := by
  obtain ⟨zeros, hpos, hvalue, hexponent⟩ := column_parts places hunits
  unfold Numeral.place
  constructor
  · intro hle
    obtain ⟨more, hmore⟩ := Nat.exists_eq_add_of_le (show places ≤ zeros by omega)
    refine ⟨(column places units).coefficient * 10 ^ more, ?_⟩
    calc units = (column places units).coefficient * 10 ^ zeros := hvalue
      _ = 10 ^ places * ((column places units).coefficient * 10 ^ more) := by rw [hmore, pow_add]; ring
  · rintro ⟨whole, hwhole⟩
    by_contra hlt
    obtain ⟨fewer, hfewer⟩ := Nat.exists_eq_add_of_lt (show zeros < places by omega)
    -- then the coefficient would end in a zero
    have hcoefficient : (column places units).coefficient = whole * 10 ^ fewer * 10 := by
      have hcancel : (column places units).coefficient * 10 ^ zeros = whole * 10 ^ fewer * 10 * 10 ^ zeros := by
        rw [← hvalue, hwhole, hfewer]
        ring
      exact mul_right_cancel₀ (by positivity) hcancel
    rcases (column places units).normal with ⟨hzero, -⟩ | hnormal
    · omega
    · exact hnormal (by rw [hcoefficient]; exact Int.mul_emod_left _ _)

theorem place_le_iff (hunits : 0 < units) (k : Nat) (hk : 0 < k + places) :
    Numeral.place (column places units) ≤ k ↔ units < 10 ^ (k + places) := by
  have hlength := Nat.length_toDigits_le_iff (b := 10) (n := units.natAbs) (by norm_num) hk
  rw [place_column hunits]
  have hcast : (units < 10 ^ (k + places)) ↔ units.natAbs < 10 ^ (k + places) := by
    rw [← Int.natAbs_of_nonneg hunits.le]
    exact_mod_cast Iff.rfl
  rw [hcast, ← hlength]
  omega

theorem lt_place_iff (hunits : 0 < units) (hplaces : 6 < places) :
    -6 < Numeral.place (column places units) ↔ 10 ^ (places - 6) ≤ units := by
  have hlength := Nat.length_toDigits_le_iff (b := 10) (n := units.natAbs) (by norm_num) (k := places - 6) (by omega)
  rw [place_column hunits]
  have hcast : (units < 10 ^ (places - 6)) ↔ units.natAbs < 10 ^ (places - 6) := by
    rw [← Int.natAbs_of_nonneg hunits.le]
    exact_mod_cast Iff.rfl
  rw [← not_lt, hcast, ← hlength]
  omega

/-! ## What is accepted -/

theorem integerText_driver (hunits : 0 ≤ units) :
    integerText (driverText places units).toList = true ↔ 10 ^ places ∣ units ∧ units < 10 ^ (21 + places) := by
  rcases hunits.eq_or_lt with rfl | hpos
  · have hzero : integerText (driverText places 0).toList = true := by
      rw [driverText, String.toList_ofList, column_zero]
      rfl
    simp [hzero]
  · obtain ⟨zeros, hcoefficient, -⟩ := column_parts places hpos
    rw [driverText, String.toList_ofList, Numeral.jsNumber, if_neg hcoefficient.ne', Numeral.signed,
      if_neg (not_lt.mpr hcoefficient.le), ← length_le_place_iff hpos, ← place_le_iff hpos 21 (by omega)]
    split_ifs with hfixed
    · rw [(column_leading hpos.le).integer_iff]
      exact ⟨fun h => ⟨h, hfixed.2⟩, And.left⟩
    · constructor
      · intro hinteger
        exact absurd (scientific_exponent _ _ _) ((integerText_digits hinteger).not_mem (by decide))
      · rintro ⟨hlength, hplace⟩
        exact absurd ⟨by omega, hplace⟩ hfixed

theorem decimalText_driver (hunits : 0 ≤ units) (hplaces : 6 < places) :
    decimalText (driverText places units).toList = true ↔
      units = 0 ∨ 10 ^ (places - 6) ≤ units ∧ units < 10 ^ (21 + places) := by
  rcases hunits.eq_or_lt with rfl | hpos
  · have hzero : decimalText (driverText places 0).toList = true := by
      rw [driverText, String.toList_ofList, column_zero]
      rfl
    simp [hzero]
  · obtain ⟨zeros, hcoefficient, -⟩ := column_parts places hpos
    rw [driverText, String.toList_ofList, Numeral.jsNumber, if_neg hcoefficient.ne', Numeral.signed,
      if_neg (not_lt.mpr hcoefficient.le), ← lt_place_iff hpos hplaces, ← place_le_iff hpos 21 (by omega)]
    split_ifs with hfixed
    · exact ⟨fun _ => .inr hfixed, fun _ => (column_leading hpos.le).decimal⟩
    · constructor
      · intro hdecimal
        rcases decimalText_chars hdecimal 'e' (scientific_exponent _ _ _) with hdigit | hpoint
        · exact absurd hdigit (by decide)
        · exact absurd hpoint (by decide)
      · rintro (hzero | hshown)
        · exact absurd hzero hpos.ne'
        · exact absurd hshown hfixed

theorem clickHouseText_nonneg (hunits : 0 ≤ units) : (clickHouseText places units).toList =
    Numeral.fixed (Numeral.digits (column places units)) (Numeral.place (column places units)) := by
  have hcoefficient : ¬ (column places units).coefficient < 0 := by
    rcases hunits.eq_or_lt with rfl | hpos
    · rw [column_zero]
      decide
    · obtain ⟨zeros, hcoefficient, -⟩ := column_parts places hpos
      exact not_lt.mpr hcoefficient.le
  rw [clickHouseText, plainText, String.toList_ofList, Numeral.signed, if_neg hcoefficient]

theorem clickHouseText_neg (hunits : units < 0) : '-' ∈ (clickHouseText places units).toList := by
  have hvalue : (column places units).toRat < 0 := by
    rw [column, Decimal.toRat_ofScaled]
    exact mul_neg_of_neg_of_pos (by exact_mod_cast hunits) (ten_zpow_pos _)
  have hcoefficient : (column places units).coefficient < 0 := by
    by_contra hnonneg
    have : 0 ≤ (column places units).toRat := mul_nonneg (by exact_mod_cast not_lt.mp hnonneg) (ten_zpow_pos _).le
    linarith
  rw [clickHouseText, plainText, String.toList_ofList, Numeral.signed, if_pos hcoefficient]
  exact List.mem_cons_self

theorem decimalText_clickHouse : decimalText (clickHouseText places units).toList = true ↔ 0 ≤ units := by
  constructor
  · intro hdecimal
    by_contra hneg
    rcases decimalText_chars hdecimal '-' (clickHouseText_neg (not_le.mp hneg)) with hdigit | hpoint
    · exact absurd hdigit (by decide)
    · exact absurd hpoint (by decide)
  · intro hunits
    rw [clickHouseText_nonneg hunits]
    exact (column_leading hunits).decimal

theorem integerText_clickHouse :
    integerText (clickHouseText places units).toList = true ↔ 0 ≤ units ∧ 10 ^ places ∣ units := by
  constructor
  · intro hinteger
    have hunits := decimalText_clickHouse.mp (decimalText_whole hinteger)
    refine ⟨hunits, ?_⟩
    rcases hunits.eq_or_lt with rfl | hpos
    · exact dvd_zero _
    · rw [clickHouseText_nonneg hunits, (column_leading hunits).integer_iff] at hinteger
      exact (length_le_place_iff hpos).mp hinteger
  · rintro ⟨hunits, hwhole⟩
    rw [clickHouseText_nonneg hunits, (column_leading hunits).integer_iff]
    rcases hunits.eq_or_lt with rfl | hpos
    · rw [column_zero]
      exact le_of_eq rfl
    · exact (length_le_place_iff hpos).mpr hwhole

end Columns

end TokenPilot.Reconciliation
