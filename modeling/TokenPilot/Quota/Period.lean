/-
  TokenPilot.Quota.Period — `aiuQuotaPeriodWindow` (packages/db/src/aiu-quota-policies.ts).

  A timezone is its UTC-offset function: at the instant `t` the local clock shows
  `t + offset t`, which is what `Intl.DateTimeFormat` formats. `Date.UTC` and the UTC
  getters are the proleptic Gregorian calendar; a day outside its month carries over,
  and a year from 0 to 99 is read as 1900 and up.
-/

import TokenPilot.Quota.Store

namespace TokenPilot.Quota

/-! ## `Date` -/

def msPerDay : Int := 86400000

/-- Days from 1970-01-01 to the first of the month, then `day - 1` more. -/
def daysFromCivil (year month day : Int) : Int :=
  let y := if month ≤ 2 then year - 1 else year
  let era := y / 400
  let yearOfEra := y - era * 400
  let dayOfYear := (153 * ((month + 9) % 12) + 2) / 5 + day - 1
  era * 146097 + yearOfEra * 365 + yearOfEra / 4 - yearOfEra / 100 + dayOfYear - 719468

structure LocalDate where
  year : Int
  month : Int
  day : Int
  deriving DecidableEq, Repr

def civilFromDays (days : Int) : LocalDate :=
  let z := days + 719468
  let era := z / 146097
  let dayOfEra := z - era * 146097
  let yearOfEra := (dayOfEra - dayOfEra / 1460 + dayOfEra / 36524 - dayOfEra / 146096) / 365
  let dayOfYear := dayOfEra - (365 * yearOfEra + yearOfEra / 4 - yearOfEra / 100)
  let shifted := (5 * dayOfYear + 2) / 153
  let month := if shifted < 10 then shifted + 3 else shifted - 9
  let year := yearOfEra + era * 400
  ⟨if month ≤ 2 then year + 1 else year, month, dayOfYear - (153 * shifted + 2) / 5 + 1⟩

/-- `Date.UTC(year, month - 1, day)`. -/
def dateUtc (year month day : Int) : Timestamp :=
  daysFromCivil (if 0 ≤ year ∧ year ≤ 99 then 1900 + year else year) month day * msPerDay

/-- `getUTCDay`: 0 is Sunday. -/
def utcDay (t : Timestamp) : Int := (t / msPerDay + 4) % 7

/-- `setUTCMonth(getUTCMonth() + 1)`: a day the next month does not have carries over. -/
def addUtcMonth (t : Timestamp) : Timestamp :=
  let date := civilFromDays (t / msPerDay)
  let days := if date.month = 12 then daysFromCivil (date.year + 1) 1 date.day
    else daysFromCivil date.year (date.month + 1) date.day
  days * msPerDay + t % msPerDay

/-! ## Local dates -/

abbrev Timezone := Timestamp → Int

def localDate (instant : Timestamp) (timezone : Timezone) : LocalDate :=
  civilFromDays ((instant + timezone instant) / msPerDay)

/-- The instant whose UTC clock shows what the local clock shows at `instant`, to the second. -/
def represented (instant : Timestamp) (timezone : Timezone) : Timestamp :=
  let shown := instant + timezone instant
  let date := civilFromDays (shown / msPerDay)
  dateUtc date.year date.month date.day + shown % msPerDay / 1000 * 1000

/-- Four corrections of the candidate by how far its local clock is from midnight. -/
def localMidnight (date : LocalDate) (timezone : Timezone) : Timestamp :=
  let target := dateUtc date.year date.month date.day
  let correct (candidate : Timestamp) : Timestamp := candidate + (target - represented candidate timezone)
  correct (correct (correct (correct target)))

def addDays (date : LocalDate) (days : Int) : LocalDate :=
  civilFromDays (dateUtc date.year date.month (date.day + days) / msPerDay)

/-! ## Windows -/

structure QuotaPeriodWindowValue where
  start : Timestamp
  end_ : Option Timestamp
  deriving DecidableEq, Repr

def aiuQuotaPeriodWindow (type : QuotaPeriodType) (timezone : Timezone) (now : Timestamp)
    (fixed : Option (Timestamp × Timestamp)) : Except Failure QuotaPeriodWindowValue :=
  match type with
  | .lifetime => .ok ⟨now, none⟩
  | .fixedWindow =>
    match fixed with
    | some (start, end_) =>
      if start ≥ end_ then .error (.typeError "Invalid fixed AIU window") else .ok ⟨start, some end_⟩
    | none => .error (.typeError "Invalid fixed AIU window")
  | type =>
    let today := localDate now timezone
    let startDate :=
      match type with
      | .calendarWeek =>
        addDays today (-((utcDay (dateUtc today.year today.month today.day) + 6) % 7))
      | .calendarMonth => { today with day := 1 }
      | _ => today
    let endDate :=
      match type with
      | .calendarDay => addDays startDate 1
      | .calendarWeek => addDays startDate 7
      | _ =>
        if startDate.month = 12 then ⟨startDate.year + 1, 1, 1⟩ else ⟨startDate.year, startDate.month + 1, 1⟩
    .ok ⟨localMidnight startDate timezone, some (localMidnight endDate timezone)⟩

/-- 2026-07-18 in Shanghai, as the reservation tests have it. -/
example : aiuQuotaPeriodWindow .calendarDay (fun _ => 28800000) 1784332800000 none =
    .ok ⟨1784304000000, some 1784390400000⟩ := rfl

/-! ## The next month -/

theorem dayOfYear_century {d r u k : Int} (hd : 0 ≤ d) (hd' : d ≤ 3) (hr : 0 ≤ r) (hr' : r < 36524)
    (hk : k = (24 * d + r) / 1460) (hu : u = (r - k) / 365) :
    0 ≤ u ∧ u ≤ 99 ∧ 365 * u + u / 4 ≤ r ∧ r ≤ 365 * u + u / 4 + 365 := by
  have h1 : u / 4 ≤ k := by omega
  have h2 : k ≤ u / 4 + 1 := by omega
  omega

theorem dayOfYear_bound {doe yoe : Int} (h0 : 0 ≤ doe) (h1 : doe < 146097)
    (hy : yoe = (doe - doe / 1460 + doe / 36524 - doe / 146096) / 365) :
    0 ≤ yoe ∧ yoe ≤ 399 ∧ 0 ≤ doe - (365 * yoe + yoe / 4 - yoe / 100) ∧
      doe - (365 * yoe + yoe / 4 - yoe / 100) ≤ 365 := by
  by_cases hlast : doe = 146096
  · subst hlast
    subst hy
    decide
  · have hd : 0 ≤ doe / 36524 ∧ doe / 36524 ≤ 3 := by omega
    obtain ⟨d, r, hdr, hr, hr', hdd⟩ : ∃ d r, doe = 36524 * d + r ∧ 0 ≤ r ∧ r < 36524 ∧
        d = doe / 36524 :=
      ⟨doe / 36524, doe % 36524, by omega, by omega, by omega, rfl⟩
    have hk : doe / 1460 = 25 * d + (24 * d + r) / 1460 := by omega
    have he : doe / 146096 = 0 := by omega
    obtain ⟨u, hu⟩ : ∃ u, u = (r - (24 * d + r) / 1460) / 365 := ⟨_, rfl⟩
    have hyoe : yoe = 100 * d + u := by omega
    obtain ⟨a, b, c, e⟩ := dayOfYear_century (by omega) (by omega) hr hr' rfl hu
    have hfour : yoe / 4 = 25 * d + u / 4 := by omega
    have hhundred : yoe / 100 = d := by omega
    omega

/-- The date of a day, by the year that begins in March and the month counted from it. -/
theorem civilFromDays_spec (n : Int) : ∃ era year month day : Int,
    0 ≤ year ∧ year ≤ 399 ∧ 0 ≤ month ∧ month ≤ 11 ∧
    n = era * 146097 + 365 * year + year / 4 - year / 100 + (153 * month + 2) / 5 + day - 1 - 719468 ∧
    civilFromDays n =
      ⟨if (if month < 10 then month + 3 else month - 9) ≤ 2 then year + era * 400 + 1 else year + era * 400,
        if month < 10 then month + 3 else month - 9, day⟩ := by
  obtain ⟨era, hera⟩ : ∃ era, era = (n + 719468) / 146097 := ⟨_, rfl⟩
  obtain ⟨doe, hdoe⟩ : ∃ doe, doe = n + 719468 - era * 146097 := ⟨_, rfl⟩
  obtain ⟨yoe, hyoe⟩ : ∃ yoe, yoe = (doe - doe / 1460 + doe / 36524 - doe / 146096) / 365 := ⟨_, rfl⟩
  obtain ⟨hy0, hy1, hd0, hd1⟩ := dayOfYear_bound (by omega) (by omega) hyoe
  refine ⟨era, yoe, (5 * (doe - (365 * yoe + yoe / 4 - yoe / 100)) + 2) / 153,
    doe - (365 * yoe + yoe / 4 - yoe / 100) -
      (153 * ((5 * (doe - (365 * yoe + yoe / 4 - yoe / 100)) + 2) / 153) + 2) / 5 + 1,
    hy0, hy1, by omega, by omega, by omega, ?_⟩
  subst hyoe hdoe hera
  rfl

theorem daysFromCivil_march (era : Int) {year month : Int} (day : Int) (hy0 : 0 ≤ year) (hy1 : year ≤ 399) (hm0 : 0 ≤ month)
    (hm1 : month ≤ 11) :
    daysFromCivil (if month < 10 then year + era * 400 else year + era * 400 + 1)
      (if month < 10 then month + 3 else month - 9) day =
      era * 146097 + 365 * year + year / 4 - year / 100 + (153 * month + 2) / 5 + day - 1 - 719468 := by
  unfold daysFromCivil
  dsimp only
  by_cases hm : month < 10
  · have hmonth : (month + 3 + 9) % 12 = month := by omega
    rw [if_pos hm, if_pos hm, if_neg (by omega), hmonth]
    have hera : (year + era * 400) / 400 = era := by omega
    rw [hera]
    omega
  · have hmonth : (month - 9 + 9) % 12 = month := by omega
    rw [if_neg hm, if_neg hm, if_pos (by omega), hmonth]
    have hera : (year + era * 400 + 1 - 1) / 400 = era := by omega
    rw [hera]
    omega

/-- The same day of the next month is later. -/
theorem nextMonth_after (n : Int) : n < if (civilFromDays n).month = 12 then
      daysFromCivil ((civilFromDays n).year + 1) 1 (civilFromDays n).day
    else daysFromCivil (civilFromDays n).year ((civilFromDays n).month + 1) (civilFromDays n).day := by
  obtain ⟨era, year, month, day, hy0, hy1, hm0, hm1, hn, hcivil⟩ := civilFromDays_spec n
  rw [hcivil]
  dsimp only
  -- the month after February is the first of another year
  by_cases hlast : month = 11
  · subst hlast
    by_cases hyear : year = 399
    · have hnext := daysFromCivil_march (era + 1) day (show (0 : Int) ≤ 0 by omega) (by omega)
        (show (0 : Int) ≤ 0 by omega) (by omega)
      have harg : 0 + (era + 1) * 400 = year + era * 400 + 1 := by omega
      rw [if_pos (by decide), if_pos (by decide), harg] at hnext
      have hfebruary : (if (11 : Int) < 10 then 11 + 3 else 11 - 9) = (2 : Int) := by decide
      rw [hfebruary, if_neg (by decide), if_pos (by decide)]
      show n < daysFromCivil (year + era * 400 + 1) (0 + 3) day
      rw [hnext]
      omega
    · have hnext := daysFromCivil_march era day (show 0 ≤ year + 1 by omega) (by omega)
        (show (0 : Int) ≤ 0 by omega) (by omega)
      have harg : year + 1 + era * 400 = year + era * 400 + 1 := by omega
      rw [if_pos (by decide), if_pos (by decide), harg] at hnext
      have hfebruary : (if (11 : Int) < 10 then 11 + 3 else 11 - 9) = (2 : Int) := by decide
      rw [hfebruary, if_neg (by decide), if_pos (by decide)]
      show n < daysFromCivil (year + era * 400 + 1) (0 + 3) day
      rw [hnext]
      omega
  have hnext := daysFromCivil_march era day hy0 hy1 (show 0 ≤ month + 1 by omega) (by omega)
  by_cases hdecember : month = 9
  · subst hdecember
    rw [if_neg (by decide), if_neg (by decide)] at hnext
    have hdecember : (if (9 : Int) < 10 then 9 + 3 else 9 - 9) = (12 : Int) := by decide
    rw [hdecember, if_pos (by decide), if_neg (by decide)]
    show n < daysFromCivil (year + era * 400 + 1) (9 + 1 - 9) day
    rw [hnext]
    omega
  by_cases hm : month < 10
  · have harg : month + 1 + 3 = month + 3 + 1 := by omega
    rw [if_pos (by omega), if_pos (by omega), harg] at hnext
    rw [if_pos hm, if_neg (by omega), if_neg (by omega), hnext]
    omega
  · have harg : month + 1 - 9 = month - 9 + 1 := by omega
    rw [if_neg (by omega), if_neg (by omega), harg] at hnext
    rw [if_neg hm, if_neg (by omega), if_pos (by omega), hnext]
    omega

theorem addUtcMonth_after (t : Timestamp) : t < addUtcMonth t := by
  have hlater := Int.mul_lt_mul_of_pos_right (nextMonth_after (t / msPerDay)) (show 0 < msPerDay by decide)
  calc t = t / msPerDay * msPerDay + t % msPerDay := by
        rw [Int.mul_comm]
        exact (Int.mul_ediv_add_emod t msPerDay).symm
    _ < addUtcMonth t := Int.add_lt_add_right hlater _

end TokenPilot.Quota
