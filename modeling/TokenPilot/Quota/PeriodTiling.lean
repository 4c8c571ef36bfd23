/-
  TokenPilot.Quota.PeriodTiling — when the windows of `aiuQuotaPeriodWindow` tile time.

  A period is known by its number: the days count from 1970, the weeks from the one that holds
  the first day of it, and the months from the year zero. The window of an instant is from the
  local midnight of the first day of its period to that of the next period
  (`window_eq`), and the four corrections of a local midnight look the offset up four times
  (`localMidnight_eq`).

  Windows tile exactly when the local clock passes every midnight between periods once, at the
  instant the four offsets lead to (`windows_tile_iff`). They do in a zone with one offset
  (`steady_zone_tiles`), and where a change of the offset skips a midnight east of Greenwich;
  west of it the corrections end one change too early (`skipped_passedOnce_iff`). `Date.UTC`
  reads a year below 100 as one of the twentieth century, so this is about later periods.
-/

import TokenPilot.Library.Tiling
import TokenPilot.Quota.Period

namespace TokenPilot.Quota

open TokenPilot.Library

/-! ## Months -/

/-- The days before the year that begins in March, of the 400 of an era. -/
def marchYear (year : Int) : Int := 365 * year + year / 4 - year / 100

theorem marchYear_bound {doe yoe : Int} (h0 : 0 ≤ doe) (h1 : doe < 146097)
    (hy : yoe = (doe - doe / 1460 + doe / 36524 - doe / 146096) / 365) :
    0 ≤ yoe ∧ yoe ≤ 399 ∧ marchYear yoe ≤ doe ∧ (yoe < 399 → doe < marchYear (yoe + 1)) := by
  unfold marchYear
  obtain ⟨hy0, hy1, hd0, -⟩ := dayOfYear_bound h0 h1 hy
  refine ⟨hy0, hy1, by omega, ?_⟩
  intro hlast
  by_cases hend : doe = 146096
  · subst hend
    subst hy
    simp at hlast
  have hd : 0 ≤ doe / 36524 ∧ doe / 36524 ≤ 3 := by omega
  obtain ⟨d, r, hdr, hr, hr', hdd⟩ : ∃ d r, doe = 36524 * d + r ∧ 0 ≤ r ∧ r < 36524 ∧ d = doe / 36524 :=
    ⟨doe / 36524, doe % 36524, by omega, by omega, by omega, rfl⟩
  obtain ⟨k, hk⟩ : ∃ k, k = (24 * d + r) / 1460 := ⟨_, rfl⟩
  obtain ⟨u, hu⟩ : ∃ u, u = (r - k) / 365 := ⟨_, rfl⟩
  have hyoe : yoe = 100 * d + u := by omega
  obtain ⟨hu0, hu1, hlower, hupper⟩ := dayOfYear_century (by omega) (by omega) hr hr' hk hu
  have hquarter : k ≤ (u + 1) / 4 := by omega
  by_cases hcentury : u = 99
  · omega
  · have hfour : (yoe + 1) / 4 = 25 * d + (u + 1) / 4 := by omega
    have hhundred : (yoe + 1) / 100 = d := by omega
    omega

/-- The day of the first of a month, by the months since March of the year zero. -/
def marchMonth (q : Int) : Int :=
  q / 4800 * 146097 + marchYear (q / 12 % 400) + (153 * (q % 12) + 2) / 5 - 719468

theorem marchMonth_of {era year month : Int} (hy0 : 0 ≤ year) (hy1 : year ≤ 399) (hm0 : 0 ≤ month) (hm1 : month ≤ 11) :
    marchMonth (era * 4800 + year * 12 + month) = era * 146097 + marchYear year + (153 * month + 2) / 5 - 719468 := by
  have hera : (era * 4800 + year * 12 + month) / 4800 = era := by omega
  have hyear : (era * 4800 + year * 12 + month) / 12 % 400 = year := by omega
  have hmonth : (era * 4800 + year * 12 + month) % 12 = month := by omega
  unfold marchMonth
  rw [hera, hyear, hmonth]

theorem marchMonth_lt_next (q : Int) : marchMonth q < marchMonth (q + 1) := by
  obtain ⟨era, year, month, hq, hy0, hy1, hm0, hm1⟩ : ∃ era year month : Int, q = era * 4800 + year * 12 + month ∧
      0 ≤ year ∧ year ≤ 399 ∧ 0 ≤ month ∧ month ≤ 11 :=
    ⟨q / 4800, q / 12 % 400, q % 12, by omega, by omega, by omega, by omega, by omega⟩
  rw [hq, marchMonth_of hy0 hy1 hm0 hm1]
  by_cases hmonth : month = 11
  · by_cases hyear : year = 399
    · have hnext : era * 4800 + year * 12 + month + 1 = (era + 1) * 4800 + 0 * 12 + 0 := by omega
      rw [hnext, marchMonth_of (by decide) (by decide) (by decide) (by decide)]
      unfold marchYear
      omega
    · have hnext : era * 4800 + year * 12 + month + 1 = era * 4800 + (year + 1) * 12 + 0 := by omega
      rw [hnext, marchMonth_of (by omega) (by omega) (by decide) (by decide)]
      unfold marchYear
      omega
  · have hnext : era * 4800 + year * 12 + month + 1 = era * 4800 + year * 12 + (month + 1) := by omega
    rw [hnext, marchMonth_of hy0 hy1 (by omega) (by omega)]
    omega

def monthIndex (date : LocalDate) : Int := date.year * 12 + date.month - 1

/-- The day of the first of a month. -/
def firstOfMonth (p : Int) : Int := daysFromCivil (p / 12) (p % 12 + 1) 1

theorem firstOfMonth_eq (p : Int) : firstOfMonth p = marchMonth (p - 2) := by
  obtain ⟨era, year, month, hp, hy0, hy1, hm0, hm1⟩ : ∃ era year month : Int, p - 2 = era * 4800 + year * 12 + month ∧
      0 ≤ year ∧ year ≤ 399 ∧ 0 ≤ month ∧ month ≤ 11 :=
    ⟨(p - 2) / 4800, (p - 2) / 12 % 400, (p - 2) % 12, by omega, by omega, by omega, by omega, by omega⟩
  have hdays := daysFromCivil_march era 1 hy0 hy1 hm0 hm1
  have hyear : p / 12 = if month < 10 then year + era * 400 else year + era * 400 + 1 := by
    split <;> omega
  have hmonth : p % 12 + 1 = if month < 10 then month + 3 else month - 9 := by
    split <;> omega
  rw [hp, marchMonth_of hy0 hy1 hm0 hm1]
  unfold firstOfMonth marchYear
  rw [hyear, hmonth, hdays]
  omega

theorem firstOfMonth_lt_next (p : Int) : firstOfMonth p < firstOfMonth (p + 1) := by
  rw [firstOfMonth_eq, firstOfMonth_eq]
  have hnext : p + 1 - 2 = p - 2 + 1 := by omega
  rw [hnext]
  exact marchMonth_lt_next _

/-- The date of a day lies in its month, and is the day that far into it. -/
theorem civilFromDays_month (n : Int) : firstOfMonth (monthIndex (civilFromDays n)) ≤ n ∧
    n < firstOfMonth (monthIndex (civilFromDays n) + 1) ∧
    (civilFromDays n).day = n - firstOfMonth (monthIndex (civilFromDays n)) + 1 ∧
    1 ≤ (civilFromDays n).month ∧ (civilFromDays n).month ≤ 12 := by
  obtain ⟨era, hera⟩ : ∃ era, era = (n + 719468) / 146097 := ⟨_, rfl⟩
  obtain ⟨doe, hdoe⟩ : ∃ doe, doe = n + 719468 - era * 146097 := ⟨_, rfl⟩
  obtain ⟨year, hyear⟩ : ∃ year, year = (doe - doe / 1460 + doe / 36524 - doe / 146096) / 365 := ⟨_, rfl⟩
  obtain ⟨hy0, hy1, hd0, hd1⟩ := marchYear_bound (by omega) (by omega) hyear
  obtain ⟨-, -, -, hlong⟩ := dayOfYear_bound (by omega) (by omega) hyear
  obtain ⟨doy, hdoy⟩ : ∃ doy, doy = doe - (365 * year + year / 4 - year / 100) := ⟨_, rfl⟩
  obtain ⟨month, hmonth⟩ : ∃ month, month = (5 * doy + 2) / 153 := ⟨_, rfl⟩
  have hcivil : civilFromDays n =
      ⟨if (if month < 10 then month + 3 else month - 9) ≤ 2 then year + era * 400 + 1 else year + era * 400,
        if month < 10 then month + 3 else month - 9, doy - (153 * month + 2) / 5 + 1⟩ := by
    subst hmonth hdoy hyear hdoe hera
    rfl
  have hdoy0 : 0 ≤ doy := by
    unfold marchYear at hd0
    omega
  have hindex : monthIndex (civilFromDays n) - 2 = era * 4800 + year * 12 + month := by
    rw [hcivil]
    unfold monthIndex
    dsimp only
    split_ifs <;> omega
  have hfirst : firstOfMonth (monthIndex (civilFromDays n)) =
      era * 146097 + marchYear year + (153 * month + 2) / 5 - 719468 := by
    rw [firstOfMonth_eq, hindex, marchMonth_of hy0 hy1 (by omega) (by omega)]
  have hnext : n < firstOfMonth (monthIndex (civilFromDays n) + 1) := by
    have hsucc : monthIndex (civilFromDays n) + 1 - 2 = era * 4800 + year * 12 + month + 1 := by omega
    rw [firstOfMonth_eq, hsucc]
    by_cases hlast : month = 11
    · by_cases hend : year = 399
      · have hq : era * 4800 + year * 12 + month + 1 = (era + 1) * 4800 + 0 * 12 + 0 := by omega
        rw [hq, marchMonth_of (by decide) (by decide) (by decide) (by decide)]
        unfold marchYear
        omega
      · have hq : era * 4800 + year * 12 + month + 1 = era * 4800 + (year + 1) * 12 + 0 := by omega
        rw [hq, marchMonth_of (by omega) (by omega) (by decide) (by decide)]
        have := hd1 (by omega)
        omega
    · have hq : era * 4800 + year * 12 + month + 1 = era * 4800 + year * 12 + (month + 1) := by omega
      rw [hq, marchMonth_of hy0 hy1 (by omega) (by omega)]
      unfold marchYear
      omega
  refine ⟨?_, hnext, ?_, ?_, ?_⟩
  · rw [hfirst]
    unfold marchYear
    omega
  · rw [hfirst, hcivil]
    unfold marchYear
    dsimp only
    omega
  · rw [hcivil]
    dsimp only
    split <;> omega
  · rw [hcivil]
    dsimp only
    split <;> omega

theorem firstOfMonth_mono {p q : Int} (h : p ≤ q) : firstOfMonth p ≤ firstOfMonth q := by
  obtain ⟨k, rfl⟩ := Int.le.dest h
  clear h
  induction k with
  | zero => simp
  | succ k ih =>
    have hnext := firstOfMonth_lt_next (p + (k : Nat))
    have hsucc : p + ((k + 1 : Nat) : Int) = p + (k : Nat) + 1 := by omega
    rw [hsucc]
    omega

theorem firstOfMonth_le_iff (p n : Int) : firstOfMonth p ≤ n ↔ p ≤ monthIndex (civilFromDays n) := by
  obtain ⟨hlower, hupper, -⟩ := civilFromDays_month n
  constructor
  · intro h
    by_contra hlt
    have := firstOfMonth_mono (show monthIndex (civilFromDays n) + 1 ≤ p by omega)
    omega
  · intro h
    have := firstOfMonth_mono h
    omega

theorem civilFromDays_firstOfMonth (p : Int) : civilFromDays (firstOfMonth p) = ⟨p / 12, p % 12 + 1, 1⟩ := by
  obtain ⟨hlower, hupper, hday, hmonth0, hmonth1⟩ := civilFromDays_month (firstOfMonth p)
  have hindex : monthIndex (civilFromDays (firstOfMonth p)) = p := by
    have hge := (firstOfMonth_le_iff p (firstOfMonth p)).mp (Int.le_refl _)
    by_contra hne
    have hle := firstOfMonth_mono (show p + 1 ≤ monthIndex (civilFromDays (firstOfMonth p)) by omega)
    have := firstOfMonth_lt_next p
    omega
  rw [hindex] at hday
  generalize civilFromDays (firstOfMonth p) = date at *
  obtain ⟨year, month, day⟩ := date
  unfold monthIndex at hindex
  dsimp only at *
  have hyear : year = p / 12 := by omega
  have hmonth : month = p % 12 + 1 := by omega
  have hday : day = 1 := by omega
  rw [hyear, hmonth, hday]

/-- The date of a day counts back to it, and with more days to a later one. -/
theorem daysFromCivil_civilFromDays (n days : Int) :
    daysFromCivil (civilFromDays n).year (civilFromDays n).month ((civilFromDays n).day + days) = n + days := by
  obtain ⟨-, -, hday, hmonth0, hmonth1⟩ := civilFromDays_month n
  have hfirst : firstOfMonth (monthIndex (civilFromDays n)) =
      daysFromCivil (civilFromDays n).year (civilFromDays n).month 1 := by
    unfold firstOfMonth monthIndex
    have hyear : ((civilFromDays n).year * 12 + (civilFromDays n).month - 1) / 12 = (civilFromDays n).year := by omega
    have hmonth : ((civilFromDays n).year * 12 + (civilFromDays n).month - 1) % 12 + 1 = (civilFromDays n).month := by
      omega
    rw [hyear, hmonth]
  have hadd (year month day : Int) : daysFromCivil year month day = daysFromCivil year month 1 + (day - 1) := by
    unfold daysFromCivil
    dsimp only
    omega
  rw [hadd, ← hfirst, hday]
  omega

/-! ## Periods -/

/-- The first day of a period. -/
def firstDay (type : QuotaPeriodType) (p : Int) : Int :=
  match type with
  | .calendarDay => p
  | .calendarWeek => 7 * p - 3
  | _ => firstOfMonth p

/-- The period of a day. -/
def periodOf (type : QuotaPeriodType) (n : Int) : Int :=
  match type with
  | .calendarDay => n
  | .calendarWeek => (n + 3) / 7
  | _ => monthIndex (civilFromDays n)

theorem firstDay_le_iff (type : QuotaPeriodType) (p n : Int) : firstDay type p ≤ n ↔ p ≤ periodOf type n := by
  cases type <;> first | exact firstOfMonth_le_iff p n | (unfold firstDay periodOf; dsimp only; omega)

theorem firstDay_lt_next (type : QuotaPeriodType) (p : Int) : firstDay type p < firstDay type (p + 1) := by
  cases type <;> first | exact firstOfMonth_lt_next p | (unfold firstDay; dsimp only; omega)

theorem firstDay_add (type : QuotaPeriodType) (p : Int) (k : Nat) : firstDay type p + k ≤ firstDay type (p + k) := by
  induction k with
  | zero => simp
  | succ k ih =>
    have hnext := firstDay_lt_next type (p + k)
    have hsucc : p + ((k + 1 : Nat) : Int) = p + k + 1 := by omega
    rw [hsucc]
    omega

theorem firstDay_apart (type : QuotaPeriodType) {p q : Int} (h : p ≤ q) : firstDay type p + (q - p) ≤ firstDay type q := by
  obtain ⟨k, rfl⟩ := Int.le.dest h
  have := firstDay_add type p k
  omega

/-! ## Local midnights -/

section Midnights

variable {zone : Timezone}

/-- The day the local clock shows. -/
def shownDay (zone : Timezone) (t : Timestamp) : Int := (t + zone t) / msPerDay

/-- What the local clock shows when a period begins. -/
def midnight (type : QuotaPeriodType) (p : Int) : Timestamp := firstDay type p * msPerDay

def boundary (type : QuotaPeriodType) (zone : Timezone) (p : Int) : Timestamp :=
  localMidnight (civilFromDays (firstDay type p)) zone

def periodAt (type : QuotaPeriodType) (zone : Timezone) (t : Timestamp) : Int := periodOf type (shownDay zone t)

/-- The instant of a local clock time by the offset at another instant, in whole seconds. -/
def lookup (zone : Timezone) (clock at_ : Timestamp) : Timestamp := clock - zone at_ / 1000 * 1000

/-- Four offsets looked up, the first where the clock of Greenwich shows the time. -/
def settled (zone : Timezone) (clock : Timestamp) : Timestamp :=
  lookup zone clock (lookup zone clock (lookup zone clock (lookup zone clock clock)))

theorem hundred_le_year {n : Int} (h : firstOfMonth 1200 ≤ n) : 100 ≤ (civilFromDays n).year := by
  obtain ⟨-, -, -, hmonth0, hmonth1⟩ := civilFromDays_month n
  have hindex := (firstOfMonth_le_iff 1200 n).mp h
  unfold monthIndex at hindex
  omega

/-- From the year 100 on `Date.UTC` takes a date back to its day. -/
theorem dateUtc_civilFromDays {n : Int} (h : firstOfMonth 1200 ≤ n) (days : Int) :
    dateUtc (civilFromDays n).year (civilFromDays n).month ((civilFromDays n).day + days) = (n + days) * msPerDay := by
  have hyear := hundred_le_year h
  unfold dateUtc
  rw [if_neg (by omega), daysFromCivil_civilFromDays]

theorem dateUtc_date {n : Int} (h : firstOfMonth 1200 ≤ n) :
    dateUtc (civilFromDays n).year (civilFromDays n).month (civilFromDays n).day = n * msPerDay := by
  have hday := dateUtc_civilFromDays h 0
  rwa [Int.add_zero, Int.add_zero] at hday

theorem represented_eq {at_ : Int} (h : firstOfMonth 1200 ≤ shownDay zone at_) (hsecond : at_ % 1000 = 0) :
    represented at_ zone = at_ + zone at_ / 1000 * 1000 := by
  unfold represented
  dsimp only
  unfold shownDay at h
  rw [dateUtc_date h]
  unfold msPerDay
  have hdrop (shown : Int) : shown / 86400000 * 86400000 + shown % 86400000 / 1000 * 1000 = shown / 1000 * 1000 := by
    omega
  rw [hdrop]
  have hround (a b : Int) (ha : a % 1000 = 0) : (a + b) / 1000 * 1000 = a + b / 1000 * 1000 := by omega
  exact hround at_ (zone at_) hsecond

variable (hzone : ∀ u, -msPerDay < zone u ∧ zone u < msPerDay)

include hzone

theorem lookup_bounds (clock at_ : Int) : clock - msPerDay < lookup zone clock at_ ∧
    lookup zone clock at_ ≤ clock + msPerDay := by
  obtain ⟨hlower, hupper⟩ := hzone at_
  have hround (d : Int) (h : -86400000 < d) (h' : d < 86400000) (c : Int) :
      c - 86400000 < c - d / 1000 * 1000 ∧ c - d / 1000 * 1000 ≤ c + 86400000 := by omega
  exact hround (zone at_) hlower hupper clock

theorem shownDay_bounds {n : Int} {u : Timestamp} (h : (n * msPerDay : Int) - msPerDay < u) : n - 2 ≤ shownDay zone u := by
  have hround (u' d : Int) (h : n * 86400000 - 86400000 < u') (hd : -86400000 < d) : n - 2 ≤ (u' + d) / 86400000 := by
    omega
  exact hround u (zone u) h (hzone u).1

/-- A correction is a look-up, as long as the year is not one of the first. -/
theorem correction_eq {n : Int} (hn : firstOfMonth 1200 + 2 ≤ n) {at_ : Int} (hnear : n * msPerDay - msPerDay < at_)
    (hsecond : at_ % 1000 = 0) :
    at_ + (n * msPerDay - represented at_ zone) = lookup zone (n * msPerDay) at_ := by
  have hday := shownDay_bounds hzone hnear
  rw [represented_eq (by omega) hsecond]
  have hcancel (a c d : Int) : a + (c - (a + d)) = c - d := by omega
  exact hcancel _ _ _

theorem localMidnight_eq {n : Int} (hn : firstOfMonth 1200 + 2 ≤ n) :
    localMidnight (civilFromDays n) zone = settled zone (n * msPerDay) := by
  have hsecond (at_ : Int) : lookup zone (n * msPerDay) at_ % 1000 = 0 := by
    have hround (d : Int) : (n * 86400000 - d / 1000 * 1000) % 1000 = 0 := by omega
    exact hround (zone at_)
  have hstart : (n * msPerDay) % 1000 = 0 := by
    unfold msPerDay
    omega
  have hnear : n * msPerDay - msPerDay < n * msPerDay := by
    unfold msPerDay
    omega
  unfold localMidnight settled
  dsimp only
  rw [dateUtc_date (by omega)]
  rw [correction_eq hzone hn hnear hstart]
  rw [correction_eq hzone hn (lookup_bounds hzone _ _).1 (hsecond _)]
  rw [correction_eq hzone hn (lookup_bounds hzone _ _).1 (hsecond _)]
  rw [correction_eq hzone hn (lookup_bounds hzone _ _).1 (hsecond _)]

theorem boundary_bounds {type : QuotaPeriodType} {p : Int} (hp : firstOfMonth 1200 + 2 ≤ firstDay type p) :
    (midnight type p : Int) - msPerDay < boundary type zone p ∧
      (boundary type zone p : Int) ≤ midnight type p + msPerDay := by
  unfold boundary midnight
  rw [localMidnight_eq hzone hp]
  exact lookup_bounds hzone _ _

end Midnights

/-! ## Windows -/

def calendarTypes : List QuotaPeriodType := [.calendarDay, .calendarWeek, .calendarMonth]

section Windows

variable {type : QuotaPeriodType} {zone : Timezone}

theorem addDays_civilFromDays {n : Int} (h : firstOfMonth 1200 ≤ n) (days : Int) :
    addDays (civilFromDays n) days = civilFromDays (n + days) := by
  unfold addDays
  rw [dateUtc_civilFromDays h, Int.mul_ediv_cancel _ (by decide)]

theorem dayWindow_eq (t : Timestamp) (fixed : Option (Timestamp × Timestamp)) :
    aiuQuotaPeriodWindow .calendarDay zone t fixed =
      .ok ⟨localMidnight (localDate t zone) zone, some (localMidnight (addDays (localDate t zone) 1) zone)⟩ := rfl

theorem weekWindow_eq (t : Timestamp) (fixed : Option (Timestamp × Timestamp)) :
    aiuQuotaPeriodWindow .calendarWeek zone t fixed =
      let today := localDate t zone
      let monday := addDays today (-((utcDay (dateUtc today.year today.month today.day) + 6) % 7))
      .ok ⟨localMidnight monday zone, some (localMidnight (addDays monday 7) zone)⟩ := rfl

theorem monthWindow_eq (t : Timestamp) (fixed : Option (Timestamp × Timestamp)) :
    aiuQuotaPeriodWindow .calendarMonth zone t fixed =
      let today := localDate t zone
      let next : LocalDate := if today.month = 12 then ⟨today.year + 1, 1, 1⟩ else ⟨today.year, today.month + 1, 1⟩
      .ok ⟨localMidnight ⟨today.year, today.month, 1⟩ zone, some (localMidnight next zone)⟩ := rfl

theorem monthDates {n : Int} : civilFromDays (firstOfMonth (monthIndex (civilFromDays n))) =
      ⟨(civilFromDays n).year, (civilFromDays n).month, 1⟩ ∧
    civilFromDays (firstOfMonth (monthIndex (civilFromDays n) + 1)) =
      if (civilFromDays n).month = 12 then ⟨(civilFromDays n).year + 1, 1, 1⟩
      else ⟨(civilFromDays n).year, (civilFromDays n).month + 1, 1⟩ := by
  obtain ⟨-, -, -, hmonth0, hmonth1⟩ := civilFromDays_month n
  rw [civilFromDays_firstOfMonth, civilFromDays_firstOfMonth]
  generalize civilFromDays n = date at *
  obtain ⟨year, month, day⟩ := date
  unfold monthIndex
  dsimp only at *
  have hstart : (year * 12 + month - 1) / 12 = year ∧ (year * 12 + month - 1) % 12 + 1 = month := by omega
  rw [hstart.1, hstart.2]
  refine ⟨rfl, ?_⟩
  by_cases hdecember : month = 12
  · have hnext : (year * 12 + month - 1 + 1) / 12 = year + 1 ∧ (year * 12 + month - 1 + 1) % 12 + 1 = 1 := by omega
    rw [if_pos hdecember, hnext.1, hnext.2]
  · have hnext : (year * 12 + month - 1 + 1) / 12 = year ∧ (year * 12 + month - 1 + 1) % 12 + 1 = month + 1 := by
      omega
    rw [if_neg hdecember, hnext.1, hnext.2]

/-- The window of an instant, from the first day of its period to that of the next. -/
theorem window_eq (htype : type ∈ calendarTypes) {t : Timestamp}
    (h : firstOfMonth 1200 ≤ firstDay type (periodAt type zone t)) (fixed : Option (Timestamp × Timestamp)) :
    aiuQuotaPeriodWindow type zone t fixed =
      .ok ⟨boundary type zone (periodAt type zone t), some (boundary type zone (periodAt type zone t + 1))⟩ := by
  have hday : firstDay type (periodAt type zone t) ≤ shownDay zone t := (firstDay_le_iff type _ _).mpr (Int.le_refl _)
  have htoday : localDate t zone = civilFromDays (shownDay zone t) := rfl
  unfold boundary
  unfold periodAt at *
  generalize shownDay zone t = n at *
  simp only [calendarTypes, List.mem_cons, List.not_mem_nil, or_false] at htype
  rcases htype with rfl | rfl | rfl
  · have hmidnight : firstOfMonth 1200 ≤ n := h
    rw [dayWindow_eq, htoday, addDays_civilFromDays hmidnight]
    rfl
  · have hmonday : firstOfMonth 1200 ≤ 7 * ((n + 3) / 7) - 3 := h
    have hstart : n + -(((n + 4) % 7 + 6) % 7) = 7 * ((n + 3) / 7) - 3 := by omega
    have hnext : 7 * ((n + 3) / 7) - 3 + 7 = 7 * ((n + 3) / 7 + 1) - 3 := by omega
    have hweekday : utcDay (n * msPerDay) = (n + 4) % 7 := by
      unfold utcDay
      rw [Int.mul_ediv_cancel _ (by decide)]
    rw [weekWindow_eq, htoday]
    dsimp only
    rw [dateUtc_date (by omega), hweekday, addDays_civilFromDays (by omega), hstart, addDays_civilFromDays hmonday, hnext]
    rfl
  · obtain ⟨hstart, hnext⟩ := monthDates (n := n)
    rw [monthWindow_eq, htoday]
    dsimp only
    rw [← hstart, ← hnext]
    rfl

theorem window_inj {a c : Timestamp} {b d : Option Timestamp}
    (h : (.ok ⟨a, b⟩ : Except Failure QuotaPeriodWindowValue) = .ok ⟨c, d⟩) : a = c ∧ b = d := by
  cases h
  exact ⟨rfl, rfl⟩

/-- The first period that begins in the year 101 or later. -/
def firstModern (type : QuotaPeriodType) : Int := periodOf type (firstOfMonth 1212 - 1) + 1

theorem firstModern_le_iff (type : QuotaPeriodType) (p : Int) : firstModern type ≤ p ↔ firstOfMonth 1212 ≤ firstDay type p := by
  have h := firstDay_le_iff type p (firstOfMonth 1212 - 1)
  unfold firstModern
  omega

theorem firstModern_margin (htype : type ∈ calendarTypes) :
    firstOfMonth 1200 + 2 ≤ firstDay type (firstModern type - 3) ∧
      firstOfMonth 1200 ≤ firstDay type (periodOf type (firstOfMonth 1212 - 2)) := by
  revert htype
  revert type
  decide

theorem firstDay_mono {p q : Int} (h : p ≤ q) : firstDay type p ≤ firstDay type q := by
  have := firstDay_apart type h
  omega

theorem shownDay_lt_iff (u : Timestamp) (n : Int) : shownDay zone u < n ↔ u + zone u < n * msPerDay :=
  Int.ediv_lt_iff_lt_mul (by decide)

theorem periodAt_lt_iff (u : Timestamp) (p : Int) : periodAt type zone u < p ↔ u + zone u < midnight type p := by
  have h := firstDay_le_iff type p (shownDay zone u)
  have h' := @shownDay_lt_iff zone u (firstDay type p)
  unfold periodAt midnight
  constructor
  · intro hlt
    exact h'.mp (by omega)
  · intro hlt
    have := h'.mpr hlt
    omega

variable (hzone : ∀ u, -msPerDay < zone u ∧ zone u < msPerDay)

include hzone

theorem near (htype : type ∈ calendarTypes) : Near (periodAt type zone) (boundary type zone) (firstModern type - 3) where
  apart p q hp hpq := by
    have hfirst := (firstModern_margin htype).1
    have hdays := @firstDay_mono type _ _ hp
    have hgap := firstDay_apart type (show p ≤ q by omega)
    have hbelow := (@boundary_bounds zone hzone type p (by omega)).2
    have habove := (@boundary_bounds zone hzone type q (by omega)).1
    unfold midnight msPerDay at *
    have hbetween : firstDay type p * 86400000 + 86400000 ≤ firstDay type q * 86400000 - 86400000 := by omega
    exact lt_of_le_of_lt hbelow (lt_of_le_of_lt hbetween habove)
  behind p u hp hu := by
    have hfirst := (firstModern_margin htype).1
    have hdays := @firstDay_mono type _ _ hp
    have hgap := firstDay_apart type (show p ≤ periodAt type zone u by omega)
    have hbelow := (@boundary_bounds zone hzone type p (by omega)).2
    have hclock := (@periodAt_lt_iff type zone u (periodAt type zone u)).not.mp (lt_irrefl _)
    have hoffset := (hzone u).2
    unfold midnight msPerDay at *
    refine le_trans hbelow ?_
    have hlinear (u' d : Int) (h : ¬ u' + d < firstDay type (periodAt type zone u) * 86400000) (hd : d < 86400000) :
        firstDay type p * 86400000 + 86400000 ≤ u' := by omega
    exact hlinear u (zone u) hclock hoffset
  ahead p u hp hu := by
    have hfirst := (firstModern_margin htype).1
    have hdays := @firstDay_mono type _ _ hp
    have hgap := firstDay_apart type (show periodAt type zone u + 1 ≤ p by omega)
    have habove := (@boundary_bounds zone hzone type p (by omega)).1
    have hclock := (@periodAt_lt_iff type zone u (periodAt type zone u + 1)).mp (by omega)
    have hoffset := (hzone u).1
    unfold midnight msPerDay at *
    refine lt_trans ?_ habove
    have hlinear (u' d : Int) (h : u' + d < firstDay type (periodAt type zone u + 1) * 86400000) (hd : -86400000 < d) :
        u' < firstDay type p * 86400000 - 86400000 := by omega
    exact hlinear u (zone u) hclock hoffset

/-- What follows a boundary is in no period of the first years. -/
theorem later_period (htype : type ∈ calendarTypes) {p : Int} (hp : firstModern type ≤ p) {u : Timestamp}
    (hu : boundary type zone p ≤ u) : firstOfMonth 1200 ≤ firstDay type (periodAt type zone u) := by
  obtain ⟨hmargin, hmargin'⟩ := firstModern_margin htype
  have hmodern := (firstModern_le_iff type p).mp hp
  have hdays := @firstDay_mono type _ _ (show firstModern type - 3 ≤ p by omega)
  have hbound := (@boundary_bounds zone hzone type p (by omega)).1
  have hday := shownDay_bounds hzone (n := firstDay type p) (lt_of_lt_of_le hbound hu)
  have hlast : periodOf type (firstOfMonth 1212 - 2) ≤ periodAt type zone u := by
    have hself := (firstDay_le_iff type (periodOf type (firstOfMonth 1212 - 2)) (firstOfMonth 1212 - 2)).mpr (Int.le_refl _)
    exact (firstDay_le_iff type _ _).mp (by omega)
  exact Int.le_trans hmargin' (firstDay_mono hlast)

end Windows

/-! ## Tiling -/

/-- The window of the instant holds it and is the window of all it holds, and the window of its
    end begins there. -/
def WindowTiles (type : QuotaPeriodType) (zone : Timezone) (t : Timestamp) : Prop :=
  ∃ start end_, aiuQuotaPeriodWindow type zone t none = .ok ⟨start, some end_⟩ ∧ start ≤ t ∧ t < end_ ∧
    (∀ u, start ≤ u → u < end_ → aiuQuotaPeriodWindow type zone u none = .ok ⟨start, some end_⟩) ∧
    ∃ next, aiuQuotaPeriodWindow type zone end_ none = .ok ⟨end_, next⟩

/-- The local clock passes the time once, at the instant that four offsets lead to. -/
def PassedOnce (zone : Timezone) (clock : Timestamp) : Prop := ∀ u, u + zone u < clock ↔ u < settled zone clock

/-- The period of the instant begins in the year 101 or later. -/
def Modern (type : QuotaPeriodType) (zone : Timezone) (t : Timestamp) : Prop :=
  dateUtc 101 1 1 ≤ midnight type (periodAt type zone t)

section Tiling

variable {type : QuotaPeriodType} {zone : Timezone}

theorem modern_iff (t : Timestamp) : Modern type zone t ↔ firstModern type ≤ periodAt type zone t := by
  rw [firstModern_le_iff]
  have hjanuary : dateUtc 101 1 1 = firstOfMonth 1212 * msPerDay := by decide
  unfold Modern midnight
  rw [hjanuary]
  exact Int.mul_le_mul_iff_of_pos_right (by decide)

variable (htype : type ∈ calendarTypes) (hzone : ∀ u, -msPerDay < zone u ∧ zone u < msPerDay)

include htype hzone

theorem windowTiles_iff {t : Timestamp} (ht : firstModern type ≤ periodAt type zone t) :
    WindowTiles type zone t ↔ Tiles (periodAt type zone) (boundary type zone) t := by
  have hlater {p : Int} (hp : firstModern type ≤ p) : firstOfMonth 1200 ≤ firstDay type p := by
    have := (firstModern_le_iff type p).mp hp
    have := firstOfMonth_mono (show (1200 : Int) ≤ 1212 by decide)
    omega
  have hwindow := @window_eq _ zone htype _ (hlater ht) none
  constructor
  · rintro ⟨start, end_, heq, hstart, hend, hsame, next, hnext⟩
    rw [hwindow] at heq
    obtain ⟨rfl, hfinish⟩ := window_inj heq
    cases hfinish
    refine ⟨hstart, hend, ?_, ?_⟩
    · intro u hlower hupper
      have hu := hsame u hlower hupper
      rw [window_eq htype (later_period hzone htype ht hlower)] at hu
      obtain ⟨hfirst, hlast⟩ := window_inj hu
      exact ⟨hfirst, Option.some.inj hlast⟩
    · rw [window_eq htype (later_period hzone htype ht (le_of_lt (lt_of_le_of_lt hstart hend)))] at hnext
      exact (window_inj hnext).1
  · intro htile
    refine ⟨_, _, hwindow, htile.start, htile.finish, ?_, ?_⟩
    · intro u hlower hupper
      obtain ⟨hsame, hsame'⟩ := htile.same u hlower hupper
      rw [window_eq htype (later_period hzone htype ht hlower), hsame, hsame']
    · refine ⟨some (boundary type zone (periodAt type zone (boundary type zone (periodAt type zone t + 1)) + 1)), ?_⟩
      rw [window_eq htype (later_period hzone htype ht (le_of_lt (lt_of_le_of_lt htile.start htile.finish))), htile.next]

theorem crossed_iff {p : Int} (hp : firstModern type ≤ p) :
    Crossed (periodAt type zone) (boundary type zone) p ↔ PassedOnce zone (midnight type p) := by
  have hdays := @firstDay_mono type _ _ (show firstModern type - 3 ≤ p by omega)
  have hmidnight := localMidnight_eq hzone (n := firstDay type p) (by have := (firstModern_margin htype).1; omega)
  unfold Crossed PassedOnce boundary
  rw [hmidnight]
  exact forall_congr' fun u => by rw [periodAt_lt_iff]; rfl

/-- The windows of a kind tile time from the year 101 on exactly when the local clock passes
    both ends of every one of them once, at the instant the four offsets lead to. -/
theorem windows_tile_iff : (∀ t, Modern type zone t → WindowTiles type zone t) ↔
    ∀ t, Modern type zone t → PassedOnce zone (midnight type (periodAt type zone t)) ∧
      PassedOnce zone (midnight type (periodAt type zone t + 1)) := by
  have hiff := tiles_iff_crossed (near hzone htype)
  constructor
  · intro htiles t ht
    have hperiod := (modern_iff t).mp ht
    obtain ⟨hstart, hfinish⟩ :=
      hiff.mp (fun u hu => (windowTiles_iff htype hzone hu).mp (htiles u ((modern_iff u).mpr hu))) t hperiod
    exact ⟨(crossed_iff htype hzone hperiod).mp hstart, (crossed_iff htype hzone (by omega)).mp hfinish⟩
  · intro hpassed t ht
    refine (windowTiles_iff htype hzone ((modern_iff t).mp ht)).mpr (hiff.mpr ?_ t ((modern_iff t).mp ht))
    intro u hu
    obtain ⟨hstart, hfinish⟩ := hpassed u ((modern_iff u).mpr hu)
    exact ⟨(crossed_iff htype hzone hu).mpr hstart, (crossed_iff htype hzone (by omega)).mpr hfinish⟩

end Tiling

/-! ## Which midnights are passed once -/

/-- Every time is passed once where the offset never changes. -/
theorem steady_passedOnce {offset : Int} (hsecond : offset % 1000 = 0) (clock : Timestamp) :
    PassedOnce (fun _ => offset) clock := by
  intro u
  have hlinear (u' c : Int) : u' + offset < c ↔ u' < c - offset / 1000 * 1000 := by omega
  exact hlinear u clock

/-- In a zone with one offset all windows tile. -/
theorem steady_zone_tiles {type : QuotaPeriodType} (htype : type ∈ calendarTypes) {offset : Int} (hsecond : offset % 1000 = 0)
    (hlower : -msPerDay < offset) (hupper : offset < msPerDay) {t : Timestamp} (ht : Modern type (fun _ => offset) t) :
    WindowTiles type (fun _ => offset) t := by
  have hzone : ∀ _ : Timestamp, -msPerDay < offset ∧ offset < msPerDay := fun _ => ⟨hlower, hupper⟩
  have hperiod := (modern_iff t).mp ht
  refine (windowTiles_iff htype hzone hperiod).mpr ((tiles_iff_crossed (near hzone htype)).mpr ?_ t hperiod)
  intro u hu
  exact ⟨(crossed_iff htype hzone hu).mpr (steady_passedOnce hsecond _),
    (crossed_iff htype hzone (by omega)).mpr (steady_passedOnce hsecond _)⟩

/-- A zone whose clock skips from one time on to the later one that another offset shows. -/
def skipping (before after clock : Int) : Timezone := fun u => if u + before < clock then before else after

/-- A midnight that is skipped is found east of Greenwich, and one change too early west of it. -/
theorem skipped_passedOnce_iff {before after clock : Int} (hskip : before < after) (hbefore : before % 1000 = 0)
    (hafter : after % 1000 = 0) : PassedOnce (skipping before after clock) clock ↔ 0 ≤ before := by
  have hlookup (at_ : Int) : lookup (skipping before after clock) clock at_ =
      if at_ + before < clock then clock - before else clock - after := by
    unfold lookup skipping
    split
    · have hround : before / 1000 * 1000 = before := by omega
      rw [hround]
    · have hround : after / 1000 * 1000 = after := by omega
      rw [hround]
  have hearly : lookup (skipping before after clock) clock (clock - after) = clock - before := by
    rw [hlookup, if_pos (by omega)]
  have hlate : lookup (skipping before after clock) clock (clock - before) = clock - after := by
    rw [hlookup, if_neg (by omega)]
  have hclock (u : Int) : u + skipping before after clock u < clock ↔ u < clock - before := by
    unfold skipping
    by_cases hu : u + before < clock
    · rw [if_pos hu]
      omega
    · rw [if_neg hu]
      omega
  constructor
  · intro hpassed
    by_contra hwest
    have hsettled : settled (skipping before after clock) clock = clock - after := by
      unfold settled
      have hfirst : lookup (skipping before after clock) clock clock = clock - before := by
        rw [hlookup, if_pos (by omega)]
      rw [hfirst, hlate, hearly, hlate]
    have hat := (hpassed (clock - after)).mp ((hclock _).mpr (by omega))
    rw [hsettled] at hat
    exact lt_irrefl _ hat
  · intro heast u
    have hsettled : settled (skipping before after clock) clock = clock - before := by
      unfold settled
      have hfirst : lookup (skipping before after clock) clock clock = clock - after := by
        rw [hlookup, if_neg (by omega)]
      rw [hfirst, hearly, hlate, hearly]
    rw [hsettled]
    exact hclock u

/-- The week of 2025-01-01T00:00Z in Shanghai. -/
theorem shanghai_weeks_tile : WindowTiles .calendarWeek (fun _ => 28800000) 1735689600000 := by
  refine (@windows_tile_iff .calendarWeek (fun _ => 28800000) (by decide) (fun _ => by decide)).mpr ?_ _ ?_
  · exact fun _ _ => ⟨steady_passedOnce (by decide) _, steady_passedOnce (by decide) _⟩
  · unfold Modern
    decide

/-- São Paulo, where the clock went from midnight to one on 2018-11-04. Half an hour before, the
    day is already over. -/
theorem skipped_midnight_window : ¬ WindowTiles .calendarDay (skipping (-10800000) (-7200000) 1541289600000) 1541298600000 := by
  rintro ⟨start, end_, hwindow, -, hend, -⟩
  have hvalue : aiuQuotaPeriodWindow .calendarDay (skipping (-10800000) (-7200000) 1541289600000) 1541298600000 none =
      .ok ⟨1541214000000, some 1541296800000⟩ := by decide
  rw [hvalue] at hwindow
  obtain ⟨-, hfinish⟩ := window_inj hwindow
  cases hfinish
  revert hend
  decide

end TokenPilot.Quota
