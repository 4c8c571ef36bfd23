/-
  TokenPilot.Reports.Instants — the times of ClickHouse and their texts
  (`reportInstant` of apps/api/src/reports/data.ts).

  A column of type `DateTime64(3, 'UTC')` holds milliseconds of the years 1900 to 2299. Its
  `toString` has a blank between the date and the time of day and names no zone; `reportInstant`
  reads it as UTC and writes it again with `toISOString`. So the text of a report is the time of
  the column (`reportInstant_text`), and `Date` reads it back (`readIso_isoString`).
-/

import Mathlib.Tactic.IntervalCases
import TokenPilot.Analytics.Payload
import TokenPilot.Quota.PeriodTiling
import TokenPilot.Runtime.Timestamps

namespace TokenPilot.Reports

open TokenPilot.Library TokenPilot.Runtime

def minTime : Int := -2208988800000

def maxTime : Int := 10413791999999

/-- `DateTime64(3, 'UTC')` -/
abbrev DateTime64 := { t : Int // minTime ≤ t ∧ t ≤ maxTime }

/-- `toString` of the column -/
def timeText (t : DateTime64) : String := Analytics.clickHouseTime t.1

/-- `(?:\.\d{1,9})?` to the end -/
def fractionPattern : List Char → Bool
  | [] => true
  | '.' :: digits => 1 ≤ digits.length && digits.length ≤ 9 && digits.all isDigit
  | _ => false

/-- `/^\d{4}-\d{2}-\d{2} \d{2}:\d{2}:\d{2}(?:\.\d{1,9})?$/u` -/
def explicitUtcPattern (s : String) : Bool :=
  let fraction : Option (List Char) := do
    let (_, t) ← readDigits 4 s.toList
    let (_, t) ← readDigits 2 (← readChar '-' t)
    let (_, t) ← readDigits 2 (← readChar '-' t)
    let (_, t) ← readDigits 2 (← readChar ' ' t)
    let (_, t) ← readDigits 2 (← readChar ':' t)
    let (_, t) ← readDigits 2 (← readChar ':' t)
    return t
  fraction.any fractionPattern

/-- `replace(" ", "T")`, of the first blank -/
def replaceBlank (t : List Char) : List Char :=
  match t.dropWhile (· ≠ ' ') with
  | [] => t
  | _ :: rest => t.takeWhile (· ≠ ' ') ++ 'T' :: rest

def reportInstant (platform : Analytics.Platform) (serialized : String) : Option String :=
  let explicitUtc := if explicitUtcPattern serialized then String.ofList (replaceBlank serialized.toList ++ ['Z']) else serialized
  (platform.date explicitUtc).map isoString

/-! ## The days of a month -/

theorem firstOfMonth_march (y : Int) {k : Int} (hk : 0 ≤ k) (hk' : k ≤ 11) :
    Quota.firstOfMonth (y * 12 + k + 2) = y / 400 * 146097 + Quota.marchYear (y % 400) + (153 * k + 2) / 5 - 719468 := by
  have hsplit : y * 12 + k + 2 - 2 = y / 400 * 4800 + y % 400 * 12 + k := by omega
  rw [Quota.firstOfMonth_eq, hsplit, Quota.marchMonth_of (by omega) (by omega) hk hk']

/-- The first of a month and of the next one are as many days apart as the month has. -/
theorem firstOfMonth_next (y : Nat) {m : Nat} (hm : 1 ≤ m) (hm' : m ≤ 12) :
    Quota.firstOfMonth ((y : Int) * 12 + m) = Quota.firstOfMonth ((y : Int) * 12 + m - 1) + daysInMonth y m := by
  have hfirst (k : Int) (hk : 0 ≤ k) (hk' : k ≤ 11) := firstOfMonth_march y hk hk'
  have hbefore (k : Int) (hk : 0 ≤ k) (hk' : k ≤ 11) := firstOfMonth_march (y - 1) hk hk'
  by_cases hfebruary : m = 2
  · subst hfebruary
    have h := hfirst 0 (by decide) (by decide)
    have h' := hbefore 11 (by decide) (by decide)
    unfold Quota.marchYear at h h'
    have hlength : (daysInMonth y 2 : Int) = if y % 4 = 0 ∧ (y % 100 ≠ 0 ∨ y % 400 = 0) then 29 else 28 := by
      unfold daysInMonth
      rw [if_pos rfl]
      split <;> rfl
    rw [hlength]
    rw [show (y : Int) * 12 + 0 + 2 = (y : Int) * 12 + (2 : Nat) by omega] at h
    rw [show ((y : Int) - 1) * 12 + 11 + 2 = (y : Int) * 12 + (2 : Nat) - 1 by omega] at h'
    rw [h, h']
    split <;> omega
  · have hlength : daysInMonth y m = if [4, 6, 9, 11].contains m then 30 else 31 := if_neg hfebruary
    rw [hlength]
    by_cases hjanuary : m = 1
    · subst hjanuary
      have h := hbefore 11 (by decide) (by decide)
      have h' := hbefore 10 (by decide) (by decide)
      rw [show ((y : Int) - 1) * 12 + 11 + 2 = (y : Int) * 12 + (1 : Nat) by omega] at h
      rw [show ((y : Int) - 1) * 12 + 10 + 2 = (y : Int) * 12 + (1 : Nat) - 1 by omega] at h'
      rw [h, h']
      norm_num
      omega
    · have h := hfirst (m - 2) (by omega) (by omega)
      have h' := hfirst (m - 3) (by omega) (by omega)
      rw [show (y : Int) * 12 + ((m : Int) - 2) + 2 = (y : Int) * 12 + m by omega] at h
      rw [show (y : Int) * 12 + ((m : Int) - 3) + 2 = (y : Int) * 12 + m - 1 by omega] at h'
      rw [h, h']
      interval_cases m <;> first
        | exact absurd rfl hjanuary
        | exact absurd rfl hfebruary
        | (simp; omega)

theorem civil_day_le {n : Int} (h : 0 ≤ (Quota.civilFromDays n).year) :
    (Quota.civilFromDays n).day.toNat ≤
      daysInMonth (Quota.civilFromDays n).year.toNat (Quota.civilFromDays n).month.toNat := by
  obtain ⟨-, hnext, hday, hmonth, hmonth'⟩ := Quota.civilFromDays_month n
  have hfirst := firstOfMonth_next (Quota.civilFromDays n).year.toNat (m := (Quota.civilFromDays n).month.toNat)
    (by omega) (by omega)
  have hindex : Quota.monthIndex (Quota.civilFromDays n) =
      ((Quota.civilFromDays n).year.toNat : Int) * 12 + (Quota.civilFromDays n).month.toNat - 1 := by
    unfold Quota.monthIndex
    omega
  rw [hindex, Int.sub_add_cancel] at hnext
  rw [hindex] at hday
  omega

/-- The years of the columns. -/
theorem year_bounds (t : DateTime64) : 1900 ≤ (Quota.civilFromDays (t.1 / 86400000)).year ∧
    (Quota.civilFromDays (t.1 / 86400000)).year ≤ 2299 := by
  obtain ⟨t, ht, ht'⟩ := t
  have hmonth := Quota.civilFromDays_month (t / 86400000)
  have hlower := (Quota.firstOfMonth_le_iff (1900 * 12) (t / 86400000)).mp (by
    rw [show Quota.firstOfMonth (1900 * 12) = -25567 by decide]
    unfold minTime at ht
    omega)
  have hupper : ¬ (2300 * 12 ≤ Quota.monthIndex (Quota.civilFromDays (t / 86400000))) := by
    rw [← Quota.firstOfMonth_le_iff, show Quota.firstOfMonth (2300 * 12) = 120530 by decide]
    unfold maxTime at ht'
    omega
  unfold Quota.monthIndex at hlower hupper
  show 1900 ≤ (Quota.civilFromDays (t / 86400000)).year ∧ (Quota.civilFromDays (t / 86400000)).year ≤ 2299
  omega

/-! ## Texts -/

/-- The date of a time in the years to 9999, as `toISOString` writes it. -/
def dateText (t : Int) : List Char :=
  digitsOf 4 (Quota.civilFromDays (t / 86400000)).year.toNat ++ '-' ::
    (digitsOf 2 (Quota.civilFromDays (t / 86400000)).month.toNat ++ '-' ::
      digitsOf 2 (Quota.civilFromDays (t / 86400000)).day.toNat)

def clockText (n : Nat) : List Char :=
  digitsOf 2 (n / 3600000) ++ ':' :: (digitsOf 2 (n / 60000 % 60) ++ ':' :: (digitsOf 2 (n / 1000 % 60) ++ '.' ::
    digitsOf 3 (n % 1000)))

theorem isoString_toList {t : Int} (h : 0 ≤ (Quota.civilFromDays (t / 86400000)).year)
    (h' : (Quota.civilFromDays (t / 86400000)).year ≤ 9999) :
    (isoString t).toList = dateText t ++ 'T' :: (clockText (t % 86400000).toNat ++ ['Z']) := by
  unfold isoString dateText clockText
  simp only [if_pos (And.intro h h'), String.toList_ofList, List.append_assoc, List.cons_append]

theorem isDigit_ne {c d : Char} (hc : isDigit c = true) (hd : isDigit d = false) : c ≠ d := by
  rintro rfl
  rw [hc] at hd
  cases hd

/-- Of digits with other characters between them, none but these is another one. -/
theorem digitsOf_ne (width n : Nat) {d : Char} (hd : isDigit d = false) : ∀ c ∈ digitsOf width n, c ≠ d := fun c hc =>
  isDigit_ne (List.all_eq_true.mp (digitsOf_digits width n) c hc) hd

theorem dateText_ne (t : Int) {d : Char} (hd : isDigit d = false) (hdash : d ≠ '-') : ∀ c ∈ dateText t, c ≠ d := by
  intro c hc
  unfold dateText at hc
  simp only [List.mem_append, List.mem_cons] at hc
  rcases hc with hc | rfl | hc | rfl | hc
  · exact digitsOf_ne _ _ hd c hc
  · exact hdash.symm
  · exact digitsOf_ne _ _ hd c hc
  · exact hdash.symm
  · exact digitsOf_ne _ _ hd c hc

theorem clockText_ne (n : Nat) {d : Char} (hd : isDigit d = false) (hcolon : d ≠ ':') (hpoint : d ≠ '.') :
    ∀ c ∈ clockText n, c ≠ d := by
  intro c hc
  unfold clockText at hc
  simp only [List.mem_append, List.mem_cons] at hc
  rcases hc with hc | rfl | hc | rfl | hc | rfl | hc
  · exact digitsOf_ne _ _ hd c hc
  · exact hcolon.symm
  · exact digitsOf_ne _ _ hd c hc
  · exact hcolon.symm
  · exact digitsOf_ne _ _ hd c hc
  · exact hpoint.symm
  · exact digitsOf_ne _ _ hd c hc

theorem map_ne {l : List Char} (h : ∀ c ∈ l, c ≠ 'T') : (l.map fun c => if c = 'T' then ' ' else c) = l := by
  conv_rhs => rw [← List.map_id l]
  exact List.map_congr_left fun c hc => if_neg (h c hc)

theorem filter_ne {l : List Char} (h : ∀ c ∈ l, c ≠ 'Z') : l.filter (· ≠ 'Z') = l :=
  List.filter_eq_self.mpr fun c hc => by simpa using h c hc

theorem clickHouseTime_toList {t : Int} (h : 0 ≤ (Quota.civilFromDays (t / 86400000)).year)
    (h' : (Quota.civilFromDays (t / 86400000)).year ≤ 9999) :
    (Analytics.clickHouseTime t).toList = dateText t ++ ' ' :: clockText (t % 86400000).toNat := by
  unfold Analytics.clickHouseTime
  rw [String.toList_ofList, isoString_toList h h', List.map_append, List.map_cons, List.map_append,
    map_ne (dateText_ne t (by decide) (by decide)), map_ne (clockText_ne _ (by decide) (by decide) (by decide)),
    List.filter_append, List.filter_cons, List.filter_append, filter_ne (dateText_ne t (by decide) (by decide)),
    filter_ne (clockText_ne _ (by decide) (by decide) (by decide))]
  simp

theorem explicitUtc_clickHouseTime {t : Int} (h : 0 ≤ (Quota.civilFromDays (t / 86400000)).year)
    (h' : (Quota.civilFromDays (t / 86400000)).year ≤ 9999) : explicitUtcPattern (Analytics.clickHouseTime t) = true := by
  have hfraction (n : Nat) : fractionPattern ('.' :: digitsOf 3 n) = true := by
    simp only [fractionPattern]
    rw [length_digitsOf, digitsOf_digits]
    rfl
  unfold explicitUtcPattern
  rw [clickHouseTime_toList h h']
  unfold dateText clockText
  simp only [List.append_assoc, List.cons_append, readDigits_digitsOf, readChar_self, Option.bind_eq_bind, Option.bind_some,
    hfraction, pure, Option.any_some]

theorem replaceBlank_clickHouseTime {t : Int} (h : 0 ≤ (Quota.civilFromDays (t / 86400000)).year)
    (h' : (Quota.civilFromDays (t / 86400000)).year ≤ 9999) :
    String.ofList (replaceBlank (Analytics.clickHouseTime t).toList ++ ['Z']) = isoString t := by
  have hdate : ∀ c ∈ dateText t, decide (c ≠ ' ') = true := fun c hc => by
    simpa using dateText_ne t (d := ' ') (by decide) (by decide) c hc
  have hdrop : (dateText t ++ ' ' :: clockText (t % 86400000).toNat).dropWhile (· ≠ ' ') =
      ' ' :: clockText (t % 86400000).toNat := by
    rw [List.dropWhile_append_of_pos hdate]
    rfl
  have htake : (dateText t ++ ' ' :: clockText (t % 86400000).toNat).takeWhile (· ≠ ' ') = dateText t := by
    rw [List.takeWhile_append_of_pos hdate]
    exact List.append_nil _
  apply String.toList_injective
  unfold replaceBlank
  rw [String.toList_ofList, clickHouseTime_toList h h', hdrop, htake, isoString_toList h h']
  simp

/-- `Date` reads what `toISOString` writes. -/
theorem readIso_isoString {t : Int} (h : 0 ≤ (Quota.civilFromDays (t / 86400000)).year)
    (h' : (Quota.civilFromDays (t / 86400000)).year ≤ 9999) : Analytics.readIso (isoString t) = some t := by
  obtain ⟨hmonth, hmonth', hday, hday'⟩ := civilFromDays_bounds (t / 86400000)
  have hlength := civil_day_le h
  have hdays := daysFromCivil_civilFromDays (t / 86400000)
  have hmilliseconds (n : Nat) (hn : n < 1000) :
      Analytics.readMilliseconds ('.' :: (digitsOf 3 n ++ ['Z'])) = some (n, ['Z']) := by
    have hdigits := fun c hc => List.all_eq_true.mp (digitsOf_digits 3 n) c hc
    have htake : (digitsOf 3 n ++ ['Z']).takeWhile isDigit = digitsOf 3 n := by
      rw [List.takeWhile_append_of_pos hdigits]
      exact List.append_nil _
    have hdrop : (digitsOf 3 n ++ ['Z']).dropWhile isDigit = ['Z'] := by
      rw [List.dropWhile_append_of_pos hdigits]
      rfl
    have hthree : (digitsOf 3 n ++ ['0', '0']).take 3 = digitsOf 3 n := by
      rw [List.take_append_of_le_length (by rw [length_digitsOf]), List.take_of_length_le (by rw [length_digitsOf])]
    have hnonempty : (digitsOf 3 n).isEmpty = false := rfl
    simp only [Analytics.readMilliseconds, htake, hdrop, hthree, hnonempty, ofDigitChars_digitsOf (show n < 10 ^ 3 from hn)]
    rfl
  unfold Analytics.readIso
  rw [isoString_toList h h']
  unfold dateText clockText
  generalize Quota.civilFromDays (t / 86400000) = date at *
  obtain ⟨clock, hclock⟩ : ∃ clock, clock = (t % 86400000).toNat := ⟨_, rfl⟩
  rw [← hclock]
  have hbound : clock < 86400000 := by omega
  simp only [List.append_assoc, List.cons_append, readDigits_digitsOf, readChar_self, Option.bind_eq_bind, Option.bind_some,
    hmilliseconds _ (Nat.mod_lt _ (by decide)), ofDigitChars_digitsOf_four date.year.toNat (by omega),
    ofDigitChars_digitsOf_two date.month.toNat (by omega), ofDigitChars_digitsOf_two date.day.toNat (by omega),
    ofDigitChars_digitsOf_two (clock / 3600000) (by omega), ofDigitChars_digitsOf_two (clock / 60000 % 60) (by omega),
    ofDigitChars_digitsOf_two (clock / 1000 % 60) (by omega)]
  have hoffset : Analytics.readOffset ['Z'] = some 0 := rfl
  rw [hoffset, Option.bind_some, if_pos (by omega)]
  have hyear : ((date.year.toNat : Nat) : Int) = date.year := Int.toNat_of_nonneg h
  have hmonthCast : ((date.month.toNat : Nat) : Int) = date.month := Int.toNat_of_nonneg (by omega)
  have hdayCast : ((date.day.toNat : Nat) : Int) = date.day := Int.toNat_of_nonneg (by omega)
  rw [hyear, hmonthCast, hdayCast, hdays]
  congr 1
  omega

theorem reportInstant_text (platform : Analytics.Platform) (t : DateTime64) :
    reportInstant platform (timeText t) = some (isoString t.1) := by
  obtain ⟨hyear, hyear'⟩ := year_bounds t
  unfold reportInstant timeText
  rw [explicitUtc_clickHouseTime (by omega) (by omega), if_pos rfl, replaceBlank_clickHouseTime (by omega) (by omega)]
  dsimp only [Analytics.Platform.date]
  rw [readIso_isoString (by omega) (by omega)]
  rfl

end TokenPilot.Reports
