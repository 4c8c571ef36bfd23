/-
  TokenPilot.Management.DateTimes — the texts of date-times with an offset, which
  `z.string().datetime({ offset: true })` accepts and `new Date` reads.

  An `OffsetDateTime` is what such a text writes: a date, an hour and a minute, perhaps a second
  and its decimals, and the offset last. `dateTimeSchema_iff`: a text is read exactly when it
  writes one, and as its instant. Two texts are compared by their UTF-16 units, so by the fields
  from the year on, and the offsets come too late to count: the text whose local time is earlier
  is the smaller one (`units_lt_of_ahead`), and of two with one local time and one offset the
  decimals decide. Where the texts are comparable in this way, they are ordered as their instants
  exactly when the offsets and the decimals leave the local times in order
  (`textsOrderInstants_iff_inOrder`).
-/

import Mathlib.Algebra.Order.Field.Basic
import Mathlib.Data.Rat.Cast.Order
import TokenPilot.Analytics.Payload
import TokenPilot.Library.Calendar
import TokenPilot.Runtime.Schema
import TokenPilot.Runtime.Timestamps

namespace TokenPilot.Management

open TokenPilot.Library TokenPilot.Runtime

/-! ## The schema -/

/-- The seconds of `(?::[0-5]\d(?:\.\d+)?)?` in milliseconds, and what follows. -/
def readSeconds : List Char → Option (Nat × List Char)
  | ':' :: t => do
    let (second, t) ← readDigits 2 t
    let (millisecond, t) ← Analytics.readMilliseconds t
    if second ≤ 59 then some (second * 1000 + millisecond, t) else none
  | t => some (0, t)

/-- `z.string().datetime({ offset: true })`, as the instant of `new Date`. -/
def dateTimeSchema : Value → Option Int
  | .str s => do
    let (year, t) ← readDigits 4 s.toList
    let (month, t) ← readDigits 2 (← readChar '-' t)
    let (day, t) ← readDigits 2 (← readChar '-' t)
    let (hour, t) ← readDigits 2 (← readChar 'T' t)
    let (minute, t) ← readDigits 2 (← readChar ':' t)
    let (milliseconds, t) ← readSeconds t
    let offset ← Analytics.readOffset t
    if 1 ≤ month ∧ month ≤ 12 ∧ 1 ≤ day ∧ day ≤ daysInMonth year month ∧ hour ≤ 23 ∧ minute ≤ 59 then
      some (Quota.daysFromCivil year month day * 86400000 +
        ((hour * 3600000 + minute * 60000 + milliseconds : Nat) : Int) - offset * 60000)
    else none
  | _ => none

/-! ## What a text writes -/

structure OffsetDateTime where
  date : Date
  hour : Nat
  minute : Nat
  /-- The second and its decimals, if they are written. -/
  second : Option (Nat × List Char)
  offset : List Char
  /-- The minutes of the offset. -/
  east : Int
  year_lt : date.year < 10000
  hour_lt : hour < 24
  minute_lt : minute < 60
  second_lt : ∀ s ∈ second, s.1 < 60
  decimals : ∀ s ∈ second, ∀ c ∈ s.2, isDigit c = true
  offset_east : Analytics.readOffset offset = some east

theorem decimals_digits {second : Nat} {decimals : List Char} (h : decimals.all isDigit = true) :
    ∀ s ∈ some (second, decimals), ∀ c ∈ s.2, isDigit c = true := by
  rintro _ ⟨⟩
  exact List.all_eq_true.mp h

def secondText : Option (Nat × List Char) → List Char
  | none => []
  | some (second, []) => ':' :: digitsOf 2 second
  | some (second, digit :: decimals) => ':' :: digitsOf 2 second ++ '.' :: digit :: decimals

/-- The milliseconds of the decimals of a second. -/
def millisecondsOf (decimals : List Char) : Nat := Nat.ofDigitChars 10 ((decimals ++ ['0', '0']).take 3) 0

namespace OffsetDateTime

def text (t : OffsetDateTime) : List Char :=
  digitsOf 4 t.date.year ++ '-' :: (digitsOf 2 t.date.month ++ '-' :: (digitsOf 2 t.date.day ++ 'T' ::
    (digitsOf 2 t.hour ++ ':' :: (digitsOf 2 t.minute ++ (secondText t.second ++ t.offset)))))

theorem second_fits (t : OffsetDateTime) : (t.second.map (·.1)).getD 0 < 60 := by
  cases h : t.second with
  | none => decide
  | some s => exact t.second_lt s h

/-- The local time as it is written, without the decimals. -/
def clock (t : OffsetDateTime) : DateTime where
  date := t.date
  hour := t.hour
  minute := t.minute
  second := (t.second.map (·.1)).getD 0
  nanosecond := 0
  hour_lt := t.hour_lt
  minute_lt := t.minute_lt
  second_lt := t.second_fits
  nanosecond_lt := Nat.zero_lt_succ 999999999

/-- The local time in seconds since the year 0 began. -/
def localSeconds (t : OffsetDateTime) : Nat :=
  ((t.date.number * 24 + t.hour) * 60 + t.minute) * 60 + (t.second.map (·.1)).getD 0

/-- The decimals of the second. -/
def fraction (t : OffsetDateTime) : List Char := (t.second.map (·.2)).getD []

/-- The instant in milliseconds since 1970. -/
def milliseconds (t : OffsetDateTime) : Int :=
  ((t.localSeconds : Int) - 62167219200) * 1000 + millisecondsOf t.fraction - t.east * 60000

end OffsetDateTime

/-! ## Days -/

theorem daysBeforeYear_eq (year : Nat) :
    daysBeforeYear year = 365 * year + (year + 3) / 4 - (year + 99) / 100 + (year + 399) / 400 := by
  induction year with
  | zero => rfl
  | succ year ih =>
    have hlength : yearLength year = if leapYear year then 366 else 365 := by
      unfold yearLength
      cases h : leapYear year <;> simp [daysBeforeMonth, monthLength, h]
    have hleap : leapYear year = true ↔ year % 4 = 0 ∧ (year % 100 ≠ 0 ∨ year % 400 = 0) := by simp [leapYear]
    rw [daysBeforeYear, ih, hlength]
    split_ifs with h
    · rw [hleap] at h
      omega
    · rw [hleap] at h
      omega

/-- The months from March on, as the platform counts their days. -/
theorem daysBeforeMonth_march (year : Nat) {month : Nat} (hpos : 3 ≤ month) (hle : month ≤ 12) :
    daysBeforeMonth year month = (if leapYear year then 60 else 59) + (153 * (month - 3) + 2) / 5 := by
  cases h : leapYear year <;> interval_cases month <;> simp [daysBeforeMonth, monthLength, h]

/-- The days of the platform's dates count from 1970, those of the calendar from the year 0. -/
theorem daysFromCivil_number (d : Date) : Quota.daysFromCivil d.year d.month d.day = (d.number : Int) - 719528 := by
  have hpos := d.month_pos
  have hle := d.month_le
  have hday := d.day_pos
  have hleap : leapYear d.year = true ↔ d.year % 4 = 0 ∧ (d.year % 100 ≠ 0 ∨ d.year % 400 = 0) := by simp [leapYear]
  unfold Date.number Quota.daysFromCivil
  dsimp only
  rw [daysBeforeYear_eq]
  by_cases hmarch : 3 ≤ d.month
  · rw [daysBeforeMonth_march d.year hmarch hle, if_neg (by omega)]
    split_ifs with h
    · rw [hleap] at h
      omega
    · rw [hleap] at h
      omega
  · -- January and February belong to the year before
    have hmonth : daysBeforeMonth d.year d.month = 31 * (d.month - 1) := by
      have htwo : d.month = 1 ∨ d.month = 2 := by omega
      rcases htwo with h | h <;> rw [h] <;> simp [daysBeforeMonth, monthLength]
    rw [hmonth, if_pos (by omega)]
    omega

theorem daysInMonth_eq (year month : Nat) : daysInMonth year month = monthLength year month := by
  simp [daysInMonth, monthLength, leapYear]

/-! ## Reading -/

theorem readOffset_head {t : List Char} {east : Int} (h : Analytics.readOffset t = some east) :
    ∃ c rest, t = c :: rest ∧ (c = 'Z' ∨ c = '+' ∨ c = '-') := by
  cases t with
  | nil => cases h
  | cons c rest =>
    refine ⟨c, rest, rfl, ?_⟩
    by_contra hsign
    obtain ⟨hz, hplus, hminus⟩ : c ≠ 'Z' ∧ c ≠ '+' ∧ c ≠ '-' := by simpa using hsign
    unfold Analytics.readOffset at h
    split at h
    · rename_i heq
      exact hz (List.cons.inj heq).1
    · rename_i heq
      obtain ⟨rfl, rfl⟩ := List.cons.inj heq
      simp [hplus, hminus] at h
    · cases h

theorem readMilliseconds_iff {t rest : List Char} {n : Nat} {east : Int} (hrest : Analytics.readOffset rest = some east) :
    Analytics.readMilliseconds t = some (n, rest) ↔
      ∃ decimals : List Char, (∀ c ∈ decimals, isDigit c = true) ∧ n = millisecondsOf decimals ∧
        t = (if decimals = [] then [] else '.' :: decimals) ++ rest := by
  constructor
  · intro h
    unfold Analytics.readMilliseconds at h
    split at h
    · rename_i t
      obtain ⟨hnonempty, h⟩ := Option.ite_none_left_eq_some.mp h
      cases h
      refine ⟨t.takeWhile isDigit, fun c hc => List.mem_takeWhile_imp hc, rfl, ?_⟩
      rw [if_neg (by simpa using hnonempty), List.cons_append, List.takeWhile_append_dropWhile]
    · cases h
      exact ⟨[], by simp, by rfl, by simp⟩
  · rintro ⟨decimals, hdigits, rfl, rfl⟩
    obtain ⟨c, tail, rfl, hc⟩ := readOffset_head hrest
    have hplain : isDigit c = false := by rcases hc with rfl | rfl | rfl <;> rfl
    cases decimals with
    | nil => rcases hc with rfl | rfl | rfl <;> rfl
    | cons digit decimals =>
      have htake : ((digit :: decimals) ++ c :: tail).takeWhile isDigit = digit :: decimals := by
        rw [List.takeWhile_append_of_pos hdigits, List.takeWhile_cons_of_neg (by simp [hplain]), List.append_nil]
      have hdrop : ((digit :: decimals) ++ c :: tail).dropWhile isDigit = c :: tail := by
        rw [List.dropWhile_append_of_pos hdigits, List.dropWhile_cons_of_neg (by simp [hplain])]
      rw [if_neg (List.cons_ne_nil _ _), List.cons_append, Analytics.readMilliseconds, htake, hdrop]
      rfl

theorem secondText_some (second : Nat) (decimals : List Char) :
    secondText (some (second, decimals)) = ':' :: digitsOf 2 second ++ if decimals = [] then [] else '.' :: decimals := by
  cases decimals <;> simp [secondText]

theorem readSeconds_iff {t rest : List Char} {n : Nat} {east : Int} (hrest : Analytics.readOffset rest = some east) :
    readSeconds t = some (n, rest) ↔
      ∃ second : Option (Nat × List Char), (∀ s ∈ second, s.1 < 60) ∧ (∀ s ∈ second, ∀ c ∈ s.2, isDigit c = true) ∧
        n = (second.map (·.1)).getD 0 * 1000 + millisecondsOf ((second.map (·.2)).getD []) ∧
        t = secondText second ++ rest := by
  constructor
  · intro h
    unfold readSeconds at h
    split at h
    · simp only [Option.bind_eq_bind, Option.bind_eq_some_iff, Prod.exists, readDigits_iff] at h
      obtain ⟨second, _, ⟨-, rfl⟩, millisecond, tail, hmilliseconds, h⟩ := h
      obtain ⟨hbound, h⟩ := Option.ite_none_right_eq_some.mp h
      cases h
      obtain ⟨decimals, hdigits, rfl, rfl⟩ := (readMilliseconds_iff hrest).mp hmilliseconds
      refine ⟨some (second, decimals), by simpa using Nat.lt_succ_of_le hbound, by simpa using hdigits, rfl, ?_⟩
      rw [secondText_some]
      simp
    · cases h
      exact ⟨none, by simp, by simp, by rfl, by rfl⟩
  · rintro ⟨second, hbound, hdigits, rfl, rfl⟩
    cases second with
    | none =>
      obtain ⟨c, tail, rfl, hc⟩ := readOffset_head hrest
      rcases hc with rfl | rfl | rfl <;> rfl
    | some s =>
      obtain ⟨second, decimals⟩ := s
      have hsecond : second < 60 := hbound _ rfl
      have hread := (readMilliseconds_iff hrest).mpr ⟨decimals, hdigits _ rfl, rfl, rfl⟩
      rw [secondText_some, List.append_assoc, List.cons_append, readSeconds,
        readDigits_iff.mpr ⟨show second < 10 ^ 2 by omega, rfl⟩]
      simp only [Option.bind_eq_bind, Option.bind_some, hread]
      rw [if_pos (by omega)]
      rfl

/-- A text is accepted exactly when it writes a date-time, and read as its instant. -/
theorem dateTimeSchema_iff {s : String} {milliseconds : Int} :
    dateTimeSchema (.str s) = some milliseconds ↔ ∃ t : OffsetDateTime, s.toList = t.text ∧ milliseconds = t.milliseconds := by
  constructor
  · intro h
    unfold dateTimeSchema at h
    simp only [Option.bind_eq_bind, Option.bind_eq_some_iff, Prod.exists, readDigits_iff, readChar_iff] at h
    obtain ⟨year, _, ⟨hyear, htext⟩, _, rfl, month, _, ⟨-, rfl⟩, _, rfl, day, _, ⟨-, rfl⟩, _, rfl, hour, _, ⟨-, rfl⟩, _,
      rfl, minute, _, ⟨-, rfl⟩, n, rest, hseconds, east, heast, h⟩ := h
    obtain ⟨⟨hmonth, hmonth', hday, hday', hhour, hminute⟩, h⟩ := Option.ite_none_right_eq_some.mp h
    cases h
    obtain ⟨second, hsecond, hdigits, rfl, rfl⟩ := (readSeconds_iff heast).mp hseconds
    rw [daysInMonth_eq] at hday'
    refine ⟨⟨⟨year, month, day, hmonth, hmonth', hday, hday'⟩, hour, minute, second, rest, east, hyear,
      Nat.lt_succ_of_le hhour, Nat.lt_succ_of_le hminute, hsecond, hdigits, heast⟩, htext, ?_⟩
    have hdays := daysFromCivil_number ⟨year, month, day, hmonth, hmonth', hday, hday'⟩
    dsimp only at hdays
    simp only [hdays, OffsetDateTime.milliseconds, OffsetDateTime.localSeconds, OffsetDateTime.fraction]
    push_cast
    ring
  · rintro ⟨t, htext, rfl⟩
    have hmonth := t.date.month_le
    have hmonth' := t.date.month_pos
    have hday := t.date.day_le
    have hday' := t.date.day_pos
    have hhour := t.hour_lt
    have hminute := t.minute_lt
    have hlength : monthLength t.date.year t.date.month ≤ 31 := by
      unfold monthLength
      split_ifs <;> omega
    have hseconds := (readSeconds_iff t.offset_east).mpr ⟨t.second, t.second_lt, t.decimals, rfl, rfl⟩
    unfold dateTimeSchema
    dsimp only
    rw [htext, OffsetDateTime.text]
    simp only [readDigits_iff.mpr ⟨show t.date.year < 10 ^ 4 from t.year_lt, rfl⟩,
      readDigits_iff.mpr ⟨show t.date.month < 10 ^ 2 by omega, rfl⟩,
      readDigits_iff.mpr ⟨show t.date.day < 10 ^ 2 by omega, rfl⟩, readDigits_iff.mpr ⟨show t.hour < 10 ^ 2 by omega, rfl⟩,
      readDigits_iff.mpr ⟨show t.minute < 10 ^ 2 by omega, rfl⟩, readChar_self, hseconds, t.offset_east,
      Option.bind_eq_bind, Option.bind_some, daysInMonth_eq]
    rw [if_pos ⟨hmonth', hmonth, hday', hday, by omega, by omega⟩]
    simp only [daysFromCivil_number, OffsetDateTime.milliseconds, OffsetDateTime.localSeconds, OffsetDateTime.fraction]
    push_cast
    ring_nf

/-! ## The order of the texts -/

theorem units_append (s t : List Char) : Text.units (s ++ t) = Text.units s ++ Text.units t := by
  simp [Text.units, Text.points]

theorem units_append_lt (p : List Char) {s t : List Char} (h : Text.units s < Text.units t) :
    Text.units (p ++ s) < Text.units (p ++ t) := by
  rw [units_append, units_append]
  exact List.append_left_lt h

/-- The first digit that differs decides, whatever follows the digits. -/
theorem units_digitsOf_lt {width m n : Nat} (h : m < n) (hn : n < 10 ^ width) (s t : List Char) :
    Text.units (digitsOf width m ++ s) < Text.units (digitsOf width n ++ t) := by
  induction width generalizing m n s t with
  | zero => omega
  | succ width ih =>
    rw [digitsOf_succ, digitsOf_succ, List.append_assoc, List.append_assoc]
    by_cases hlead : m / 10 < n / 10
    · exact ih hlead (by omega) _ _
    · have hsame : m / 10 = n / 10 := by omega
      have hdigit : m % 10 < n % 10 := by omega
      have hunit : ∀ d < 10, Text.units [Nat.digitChar d] = [48 + d] := by decide
      rw [hsame]
      apply units_append_lt
      rw [units_append, units_append, hunit _ (by omega), hunit _ (by omega)]
      exact List.Lex.rel (by omega)

namespace OffsetDateTime

variable {t u : OffsetDateTime}

/-- By how many seconds the local time of `u` is the later one. -/
def ahead (t u : OffsetDateTime) : Int := u.localSeconds - t.localSeconds

/-- By how many seconds the offset of `u` is further east. -/
def eastward (t u : OffsetDateTime) : Int := (u.east - t.east) * 60

/-- Both texts write the seconds or neither does, or the minutes differ already. -/
def Aligned (t u : OffsetDateTime) : Prop :=
  t.second.isSome = u.second.isSome ∨ t.localSeconds / 60 ≠ u.localSeconds / 60

theorem clock_before_iff : t.clock.Before u.clock ↔ 0 < t.ahead u := by
  rw [← DateTime.instant_lt_iff]
  show (t.localSeconds * 1000000000 + 0 : Nat) < u.localSeconds * 1000000000 + 0 ↔ _
  unfold ahead
  omega

/-- Seconds of the same minute. -/
theorem secondText_lt (haligned : t.Aligned u) (hminute : t.localSeconds / 60 = u.localSeconds / 60)
    (h : t.clock.second < u.clock.second) :
    Text.units (secondText t.second ++ t.offset) < Text.units (secondText u.second ++ u.offset) := by
  have hwritten := haligned.resolve_right (not_not_intro hminute)
  have hbound := u.clock.second_lt
  have hsecond : (t.second.map (·.1)).getD 0 < (u.second.map (·.1)).getD 0 := h
  have hbound' : (u.second.map (·.1)).getD 0 < 60 := hbound
  cases ht : t.second with
  | none =>
    cases hu : u.second with
    | none =>
      rw [ht, hu] at hsecond
      exact absurd hsecond (lt_irrefl _)
    | some later =>
      rw [ht, hu] at hwritten
      cases hwritten
  | some earlier =>
    cases hu : u.second with
    | none =>
      rw [ht, hu] at hwritten
      cases hwritten
    | some later =>
      rw [ht, hu] at hsecond
      rw [hu] at hbound'
      obtain ⟨m, decimals⟩ := earlier
      obtain ⟨n, decimals'⟩ := later
      have hsecond : m < n := hsecond
      have hbound' : n < 60 := hbound'
      rw [secondText_some, secondText_some, List.append_assoc, List.append_assoc]
      exact units_append_lt [':'] (units_digitsOf_lt hsecond (show n < 10 ^ 2 by omega) _ _)

/-- The text of the earlier local time is the smaller one: the first field that differs is no
    later than the seconds. -/
theorem units_lt_of_ahead (haligned : t.Aligned u) (h : 0 < t.ahead u) : Text.units t.text < Text.units u.text := by
  have hmonthLe := u.date.month_le
  have hdayLe := u.date.day_le
  have hlength : monthLength u.date.year u.date.month ≤ 31 := by
    unfold monthLength
    split_ifs <;> omega
  have hhourLt := u.hour_lt
  have hminuteLt := u.minute_lt
  have hfield {width n : Nat} {c : Char} {s s' : List Char} (hlt : Text.units s < Text.units s') :
      Text.units (digitsOf width n ++ c :: s) < Text.units (digitsOf width n ++ c :: s') := by
    rw [List.append_cons, List.append_cons _ _ s']
    exact units_append_lt _ hlt
  unfold text
  rcases clock_before_iff.mpr h with (hyear | ⟨hyear, hmonth | ⟨hmonth, hday⟩⟩) | ⟨hdate, htime⟩
  · exact units_digitsOf_lt hyear u.year_lt _ _
  · have hyear : t.date.year = u.date.year := hyear
    rw [hyear]
    exact hfield (units_digitsOf_lt hmonth (show u.date.month < 10 ^ 2 by omega) _ _)
  · have hyear : t.date.year = u.date.year := hyear
    have hmonth : t.date.month = u.date.month := hmonth
    rw [hyear, hmonth]
    exact hfield (hfield (units_digitsOf_lt hday (show u.date.day < 10 ^ 2 by omega) _ _))
  · have hdate : t.date = u.date := hdate
    rcases htime with hhour | ⟨hhour, hminute | ⟨hminute, hsecond | ⟨-, hnanosecond⟩⟩⟩
    · rw [hdate]
      exact hfield (hfield (hfield (units_digitsOf_lt hhour (show u.hour < 10 ^ 2 by omega) _ _)))
    · have hhour : t.hour = u.hour := hhour
      rw [hdate, hhour]
      exact hfield (hfield (hfield (hfield (units_digitsOf_lt hminute (show u.minute < 10 ^ 2 by omega) _ _))))
    · have hhour : t.hour = u.hour := hhour
      have hminute : t.minute = u.minute := hminute
      have hsame : t.localSeconds / 60 = u.localSeconds / 60 := by
        have ht := t.clock.second_lt
        have hu := u.clock.second_lt
        have ht : (t.second.map (·.1)).getD 0 < 60 := ht
        have hu : (u.second.map (·.1)).getD 0 < 60 := hu
        unfold localSeconds
        rw [hdate, hhour, hminute]
        omega
      rw [hdate, hhour, hminute]
      exact hfield (hfield (hfield (hfield (units_append_lt _ (secondText_lt haligned hsame hsecond)))))
    · exact absurd hnanosecond (lt_irrefl _)

theorem units_lt_iff_ahead (haligned : t.Aligned u) (h : t.ahead u ≠ 0) :
    Text.units t.text < Text.units u.text ↔ 0 < t.ahead u := by
  refine ⟨fun hlt => ?_, units_lt_of_ahead haligned⟩
  by_contra hnot
  have haligned' : u.Aligned t := haligned.imp Eq.symm Ne.symm
  have hahead : 0 < u.ahead t := by
    unfold ahead at *
    omega
  exact lt_asymm hlt (units_lt_of_ahead haligned' hahead)

/-- The text up to the decimals. -/
def stamp (t : OffsetDateTime) : List Char :=
  digitsOf 4 t.date.year ++ '-' :: (digitsOf 2 t.date.month ++ '-' :: (digitsOf 2 t.date.day ++ 'T' ::
    (digitsOf 2 t.hour ++ ':' :: (digitsOf 2 t.minute ++ secondText (t.second.map fun s => (s.1, []))))))

theorem text_eq (t : OffsetDateTime) :
    t.text = t.stamp ++ ((if t.fraction = [] then [] else '.' :: t.fraction) ++ t.offset) := by
  unfold text stamp fraction
  cases t.second with
  | none => simp [secondText]
  | some s =>
    rw [Option.map_some, Option.map_some, Option.getD_some, ← Prod.mk.eta (p := s), secondText_some, secondText_some]
    simp

/-- One local time and one offset, and as many decimals of the second. -/
structure Alike (t u : OffsetDateTime) : Prop where
  time : t.localSeconds = u.localSeconds
  offset : t.offset = u.offset
  width : t.second.map (·.2.length) = u.second.map (·.2.length)

theorem Alike.symm (h : t.Alike u) : u.Alike t := ⟨h.time.symm, h.offset.symm, h.width.symm⟩

theorem Alike.length (h : t.Alike u) : t.fraction.length = u.fraction.length := by
  have hwidth := congrArg (·.getD 0) h.width
  have hlength (second : Option (Nat × List Char)) :
      ((second.map (·.2)).getD []).length = (second.map (·.2.length)).getD 0 := by
    cases second <;> rfl
  unfold fraction
  rw [hlength, hlength]
  exact hwidth

theorem Alike.stamp (h : t.Alike u) : t.stamp = u.stamp := by
  have hclock : t.clock = u.clock := by
    apply DateTime.instant_injective
    show t.localSeconds * 1000000000 + 0 = u.localSeconds * 1000000000 + 0
    rw [h.time]
  have hdate : t.date = u.date := congrArg DateTime.date hclock
  have hhour : t.hour = u.hour := congrArg DateTime.hour hclock
  have hminute : t.minute = u.minute := congrArg DateTime.minute hclock
  have hsecond : (t.second.map (·.1)).getD 0 = (u.second.map (·.1)).getD 0 := congrArg DateTime.second hclock
  have hwritten : (t.second.map fun s => (s.1, ([] : List Char))) = u.second.map fun s => (s.1, []) := by
    have hwidth := h.width
    cases ht : t.second with
    | none =>
      rw [ht] at hwidth
      rw [Option.map_eq_none_iff.mp hwidth.symm]
    | some earlier =>
      rw [ht] at hwidth hsecond
      obtain ⟨later, hu, -⟩ := Option.map_eq_some_iff.mp hwidth.symm
      rw [hu] at hsecond ⊢
      exact congrArg (fun n => some (n, ([] : List Char))) hsecond
  unfold OffsetDateTime.stamp
  rw [hdate, hhour, hminute, hwritten]

theorem fraction_digits (t : OffsetDateTime) : ∀ c ∈ t.fraction, isDigit c = true := by
  unfold fraction
  cases h : t.second with
  | none => simp
  | some s => exact t.decimals s h

/-- Of two texts that are alike up to their decimals, these decide. -/
theorem Alike.units_lt (h : t.Alike u)
    (hlt : Nat.ofDigitChars 10 t.fraction 0 < Nat.ofDigitChars 10 u.fraction 0) :
    Text.units t.text < Text.units u.text := by
  obtain ⟨hdigits, -⟩ := digitsOf_ofDigitChars t.fraction_digits
  obtain ⟨hdigits', hbound⟩ := digitsOf_ofDigitChars u.fraction_digits
  have hdecimals : Text.units (t.fraction ++ t.offset) < Text.units (u.fraction ++ u.offset) := by
    rw [← hdigits, ← hdigits', h.length]
    exact units_digitsOf_lt hlt hbound _ _
  have hnonempty : u.fraction ≠ [] := by
    intro hnil
    rw [hnil] at hlt
    exact absurd hlt (Nat.not_lt_zero _)
  have hnonempty' : t.fraction ≠ [] := by
    rw [← List.length_pos_iff, h.length]
    exact List.length_pos_iff.mpr hnonempty
  rw [text_eq, text_eq, if_neg hnonempty, if_neg hnonempty', h.stamp]
  exact units_append_lt _ (units_append_lt ['.'] hdecimals)

theorem Alike.text_eq (h : t.Alike u) (hsame : Nat.ofDigitChars 10 t.fraction 0 = Nat.ofDigitChars 10 u.fraction 0) :
    t.text = u.text := by
  have hfraction : t.fraction = u.fraction := by
    rw [← (digitsOf_ofDigitChars t.fraction_digits).1, ← (digitsOf_ofDigitChars u.fraction_digits).1, h.length, hsame]
  rw [OffsetDateTime.text_eq, OffsetDateTime.text_eq, hfraction, h.stamp, h.offset]

theorem Alike.units_lt_iff (h : t.Alike u) :
    Text.units t.text < Text.units u.text ↔ Nat.ofDigitChars 10 t.fraction 0 < Nat.ofDigitChars 10 u.fraction 0 := by
  refine ⟨fun hlt => ?_, h.units_lt⟩
  rcases lt_trichotomy (Nat.ofDigitChars 10 t.fraction 0) (Nat.ofDigitChars 10 u.fraction 0) with hnumber | hsame | hnumber
  · exact hnumber
  · rw [h.text_eq hsame] at hlt
    exact absurd hlt (lt_irrefl _)
  · exact absurd (h.symm.units_lt hnumber) (lt_asymm hlt)

/-! ## Instants -/

/-- The decimals as a part of a second. -/
def part (t : OffsetDateTime) : ℚ := Nat.ofDigitChars 10 t.fraction 0 / 10 ^ t.fraction.length

/-- The instant in seconds since 1970, without the decimals. -/
def seconds (t : OffsetDateTime) : Int := t.localSeconds - 62167219200 - t.east * 60

theorem milliseconds_eq (t : OffsetDateTime) : t.milliseconds = t.seconds * 1000 + millisecondsOf t.fraction := by
  unfold milliseconds seconds
  ring

end OffsetDateTime

/-- The decimals of the seconds. -/
def secondDecimals (s : String) : List Char := (s.toList.dropWhile (· ≠ '.')).tail.takeWhile Char.isDigit

/-- The instant of a date-time in milliseconds, with every decimal it is written with. -/
def exactInstant (s : String) : Option ℚ :=
  (dateTimeSchema (.str s)).map fun (milliseconds : Int) =>
    (milliseconds : ℚ) + Nat.ofDigitChars 10 ((secondDecimals s).drop 3) 0 / 10 ^ ((secondDecimals s).drop 3).length

theorem not_mem_digitsOf {c : Char} (h : isDigit c = false) (width n : Nat) : c ∉ digitsOf width n := by
  intro hmem
  have hdigit := List.all_eq_true.mp (digitsOf_digits width n) c hmem
  rw [h] at hdigit
  cases hdigit

theorem readOffset_pointless {t : List Char} {east : Int} (h : Analytics.readOffset t = some east) : '.' ∉ t := by
  obtain ⟨c, rest, rfl, hc⟩ := readOffset_head h
  have hhead : '.' ≠ c := by rcases hc with rfl | rfl | rfl <;> decide
  rw [List.mem_cons, not_or]
  refine ⟨hhead, ?_⟩
  unfold Analytics.readOffset at h
  split at h
  · rename_i heq
    rw [(List.cons.inj heq).2]
    exact List.not_mem_nil
  · rename_i heq
    obtain ⟨-, rfl⟩ := List.cons.inj heq
    simp only [Option.bind_eq_bind, Option.bind_eq_some_iff, Prod.exists, readDigits_iff, readChar_iff] at h
    obtain ⟨hour, _, ⟨-, rfl⟩, _, rfl, minute, rest, ⟨-, rfl⟩, h⟩ := h
    obtain ⟨⟨hempty, -⟩, -⟩ := Option.ite_none_right_eq_some.mp h
    rw [List.isEmpty_iff.mp hempty]
    simp [not_mem_digitsOf (show isDigit '.' = false by decide)]
  · cases h

namespace OffsetDateTime

theorem secondDecimals_eq {s : String} {t : OffsetDateTime} (h : s.toList = t.text) : secondDecimals s = t.fraction := by
  have hstamp : ∀ c ∈ t.stamp, decide (c ≠ '.') = true := by
    apply Numeral.forall_ne
    have hplain := not_mem_digitsOf (show isDigit '.' = false by decide)
    unfold stamp
    cases t.second <;> simp [secondText, hplain]
  have hoffset : ∀ c ∈ t.offset, decide (c ≠ '.') = true := Numeral.forall_ne (readOffset_pointless t.offset_east)
  obtain ⟨c, rest, hhead, hc⟩ := readOffset_head t.offset_east
  have hplain : c.isDigit = false := by rcases hc with rfl | rfl | rfl <;> rfl
  have hdigits : ∀ c ∈ t.fraction, c.isDigit = true := t.fraction_digits
  unfold secondDecimals
  rw [h, t.text_eq, List.dropWhile_append_of_pos hstamp]
  by_cases hempty : t.fraction = []
  · rw [if_pos hempty, List.nil_append, hempty, List.dropWhile_eq_nil_iff.mpr hoffset]
    rfl
  · rw [if_neg hempty, List.cons_append, List.dropWhile_cons_of_neg (by decide), List.tail_cons,
      List.takeWhile_append_of_pos hdigits, hhead, List.takeWhile_cons_of_neg (by simp [hplain]), List.append_nil]

/-- The first three decimals are the milliseconds, and the others a part of one. -/
theorem millisecondsOf_add (decimals : List Char) :
    (millisecondsOf decimals : ℚ) + Nat.ofDigitChars 10 (decimals.drop 3) 0 / 10 ^ (decimals.drop 3).length =
      1000 * (Nat.ofDigitChars 10 decimals 0 / 10 ^ decimals.length) := by
  have hzeros (l : List Char) (n : Nat) :
      Nat.ofDigitChars 10 (l ++ List.replicate n '0') 0 = 10 ^ n * Nat.ofDigitChars 10 l 0 := by
    rw [Nat.ofDigitChars_append, Nat.ofDigitChars_replicate_zero]
  match decimals with
  | [] =>
    have hnone : millisecondsOf [] = 0 := by decide
    rw [hnone]
    simp
  | [a] =>
    have hone : millisecondsOf [a] = 10 ^ 2 * Nat.ofDigitChars 10 [a] 0 := hzeros [a] 2
    rw [hone]
    push_cast
    simp
    ring
  | [a, b] =>
    have htwo : millisecondsOf [a, b] = 10 ^ 1 * Nat.ofDigitChars 10 [a, b] 0 := hzeros [a, b] 1
    rw [htwo]
    push_cast
    simp
    ring
  | a :: b :: c :: rest =>
    have hfirst : millisecondsOf (a :: b :: c :: rest) = Nat.ofDigitChars 10 [a, b, c] 0 := rfl
    have hsplit : Nat.ofDigitChars 10 (a :: b :: c :: rest) 0 =
        10 ^ rest.length * Nat.ofDigitChars 10 [a, b, c] 0 + Nat.ofDigitChars 10 rest 0 := by
      rw [show a :: b :: c :: rest = [a, b, c] ++ rest from rfl, Nat.ofDigitChars_append,
        Nat.ofDigitChars_eq_ofDigitChars_zero]
    have hpower : (10 : ℚ) ^ rest.length ≠ 0 := pow_ne_zero _ (by norm_num)
    rw [hfirst, hsplit]
    simp only [List.drop_succ_cons, List.drop_zero, List.length_cons]
    push_cast
    field_simp
    ring

theorem millisecondsOf_lt {decimals : List Char} (h : ∀ c ∈ decimals, isDigit c = true) : millisecondsOf decimals < 1000 := by
  have hdigits : ∀ c ∈ (decimals ++ ['0', '0']).take 3, isDigit c = true := by
    intro c hc
    rcases List.mem_append.mp (List.mem_of_mem_take hc) with hmem | hmem
    · exact h c hmem
    · have hzero : c = '0' := by simpa using hmem
      rw [hzero]
      rfl
  calc millisecondsOf decimals < 10 ^ ((decimals ++ ['0', '0']).take 3).length := (digitsOf_ofDigitChars hdigits).2
    _ ≤ 10 ^ 3 := Nat.pow_le_pow_right (by norm_num) (List.length_take_le _ _)

theorem exactInstant_eq {s : String} {t : OffsetDateTime} (h : s.toList = t.text) :
    exactInstant s = some (t.seconds * 1000 + 1000 * t.part) := by
  unfold exactInstant
  rw [dateTimeSchema_iff.mpr ⟨t, h, rfl⟩, secondDecimals_eq h, Option.map_some, t.milliseconds_eq]
  push_cast
  rw [add_assoc, millisecondsOf_add]
  rfl

theorem part_nonneg (t : OffsetDateTime) : 0 ≤ t.part := by
  unfold part
  positivity

theorem part_lt_one (t : OffsetDateTime) : t.part < 1 := by
  have hbound := (digitsOf_ofDigitChars t.fraction_digits).2
  unfold part
  rw [div_lt_one (by positivity)]
  exact_mod_cast hbound

/-! ## Texts and instants -/

/-- The texts are told apart by their local times, or only by their decimals. -/
def Comparable (t u : OffsetDateTime) : Prop := t.Aligned u ∧ t.ahead u ≠ 0 ∨ t.Alike u

/-- The offsets leave the local times in their order: the offset moves by fewer seconds than the
    local time does, or by as many and the decimals keep it. -/
structure InOrder (t u : OffsetDateTime) : Prop where
  later : 0 < t.ahead u → t.eastward u < t.ahead u ∨
    t.eastward u = t.ahead u ∧ millisecondsOf t.fraction < millisecondsOf u.fraction
  same : t.ahead u = 0 → t.part < u.part → millisecondsOf t.fraction < millisecondsOf u.fraction
  earlier : t.ahead u < 0 → t.ahead u < t.eastward u ∨ t.eastward u = t.ahead u ∧ u.part ≤ t.part

end OffsetDateTime

/-- The texts of a range are ordered as its instants are: no text before another that is not
    earlier by a millisecond, and none that is earlier behind it. -/
def TextsOrderInstants (startsAt endsAt : String) : Prop :=
  (Text.units startsAt < Text.units endsAt →
      ∀ start end_, dateTimeSchema (.str startsAt) = some start → dateTimeSchema (.str endsAt) = some end_ → start < end_) ∧
    ∀ start end_, exactInstant startsAt = some start → exactInstant endsAt = some end_ → start < end_ →
      Text.units startsAt < Text.units endsAt

namespace OffsetDateTime

variable {t u : OffsetDateTime}

theorem seconds_sub : u.seconds - t.seconds = t.ahead u - t.eastward u := by
  unfold seconds ahead eastward
  ring

/-- Texts with the same offset and as many decimals, three at most, are comparable and in order. -/
theorem inOrder_of_offset (hoffset : t.offset = u.offset) (hwidth : t.second.map (·.2.length) = u.second.map (·.2.length))
    (hthree : t.fraction.length ≤ 3) : t.Comparable u ∧ t.InOrder u := by
  have heast : t.eastward u = 0 := by
    have hread := t.offset_east
    rw [hoffset, u.offset_east] at hread
    unfold eastward
    rw [Option.some.inj hread]
    ring
  have hwritten : t.second.isSome = u.second.isSome := by
    have hsome := congrArg Option.isSome hwidth
    rwa [Option.isSome_map, Option.isSome_map] at hsome
  constructor
  · by_cases hahead : t.ahead u = 0
    · have htime : t.localSeconds = u.localSeconds := by
        unfold ahead at hahead
        omega
      exact .inr ⟨htime, hoffset, hwidth⟩
    · exact .inl ⟨.inl hwritten, hahead⟩
  · refine ⟨fun hlater => .inl (by omega), fun hahead hparts => ?_, fun hearlier => .inl (by omega)⟩
    have hwhole (t : OffsetDateTime) (h : t.fraction.length ≤ 3) : (millisecondsOf t.fraction : ℚ) = 1000 * t.part := by
      have hadd := millisecondsOf_add t.fraction
      rw [List.drop_eq_nil_of_le h] at hadd
      simpa [part] using hadd
    have htime : t.localSeconds = u.localSeconds := by
      unfold ahead at hahead
      omega
    have hlength : t.fraction.length = u.fraction.length := Alike.length ⟨htime, hoffset, hwidth⟩
    have hlt : (millisecondsOf t.fraction : ℚ) < millisecondsOf u.fraction := by
      rw [hwhole t hthree, hwhole u (hlength ▸ hthree)]
      linarith
    exact_mod_cast hlt

theorem textsOrderInstants_iff {startsAt endsAt : String} (ht : startsAt.toList = t.text) (hu : endsAt.toList = u.text) :
    TextsOrderInstants startsAt endsAt ↔
      (Text.units t.text < Text.units u.text → t.milliseconds < u.milliseconds) ∧
        ((t.seconds : ℚ) + t.part < u.seconds + u.part → Text.units t.text < Text.units u.text) := by
  have hstart : Text.units startsAt = Text.units t.text := by
    rw [← ht]
    rfl
  have hend : Text.units endsAt = Text.units u.text := by
    rw [← hu]
    rfl
  unfold TextsOrderInstants
  rw [hstart, hend, dateTimeSchema_iff.mpr ⟨t, ht, rfl⟩, dateTimeSchema_iff.mpr ⟨u, hu, rfl⟩, exactInstant_eq ht,
    exactInstant_eq hu]
  constructor
  · rintro ⟨hsound, hcomplete⟩
    exact ⟨fun htexts => hsound htexts _ _ rfl rfl, fun hinstants => hcomplete _ _ rfl rfl (by linarith)⟩
  · rintro ⟨hsound, hcomplete⟩
    constructor
    · rintro htexts _ _ ⟨⟩ ⟨⟩
      exact hsound htexts
    · rintro _ _ ⟨⟩ ⟨⟩ hinstants
      exact hcomplete (by linarith)

/-- The texts of different local times: their order is that of the local times, and the offsets
    and the decimals say whether it is that of the instants. -/
theorem ordered_of_ahead (haligned : t.Aligned u) (hahead : t.ahead u ≠ 0) :
    ((Text.units t.text < Text.units u.text → t.milliseconds < u.milliseconds) ∧
        ((t.seconds : ℚ) + t.part < u.seconds + u.part → Text.units t.text < Text.units u.text)) ↔ t.InOrder u := by
  have hseconds := seconds_sub (t := t) (u := u)
  have hms := millisecondsOf_lt t.fraction_digits
  have hms' := millisecondsOf_lt u.fraction_digits
  have hpart := t.part_nonneg
  have hpart' := t.part_lt_one
  have hpartU := u.part_nonneg
  have hpartU' := u.part_lt_one
  rw [units_lt_iff_ahead haligned hahead, t.milliseconds_eq, u.milliseconds_eq]
  constructor
  · rintro ⟨hsound, hcomplete⟩
    refine ⟨fun hlater => ?_, fun hsame => absurd hsame hahead, fun hearlier => ?_⟩
    · have hlt := hsound hlater
      omega
    · by_contra hnot
      obtain ⟨hle, hparts⟩ : ¬ t.ahead u < t.eastward u ∧ (t.eastward u = t.ahead u → t.part < u.part) := by
        simpa using hnot
      have hinstants : (t.seconds : ℚ) + t.part < u.seconds + u.part := by
        by_cases heq : t.eastward u = t.ahead u
        · have hsame : u.seconds = t.seconds := by omega
          rw [hsame]
          linarith [hparts heq]
        · have hlt : t.seconds + 1 ≤ u.seconds := by omega
          have hlt : (t.seconds : ℚ) + 1 ≤ u.seconds := by exact_mod_cast hlt
          linarith
      have hlater := hcomplete hinstants
      omega
  · rintro ⟨hlater, -, hearlier⟩
    constructor
    · intro hpos
      rcases hlater hpos with hlt | ⟨heq, hlt⟩ <;> omega
    · intro hinstants
      by_contra hnot
      rcases hearlier (by omega) with hlt | ⟨heq, hparts⟩
      · have hle : u.seconds + 1 ≤ t.seconds := by omega
        have hle : (u.seconds : ℚ) + 1 ≤ t.seconds := by exact_mod_cast hle
        linarith
      · have hsame : u.seconds = t.seconds := by omega
        rw [hsame] at hinstants
        linarith

/-- Texts that are alike up to their decimals. -/
theorem ordered_of_alike (halike : t.Alike u) :
    ((Text.units t.text < Text.units u.text → t.milliseconds < u.milliseconds) ∧
        ((t.seconds : ℚ) + t.part < u.seconds + u.part → Text.units t.text < Text.units u.text)) ↔ t.InOrder u := by
  have hahead : t.ahead u = 0 := by
    unfold ahead
    rw [halike.time]
    exact sub_self _
  have heast : t.east = u.east := by
    have hread := t.offset_east
    rw [halike.offset, u.offset_east] at hread
    exact (Option.some.inj hread).symm
  have hseconds : t.seconds = u.seconds := by
    unfold seconds
    rw [halike.time, heast]
  have hparts : Nat.ofDigitChars 10 t.fraction 0 < Nat.ofDigitChars 10 u.fraction 0 ↔ t.part < u.part := by
    unfold part
    rw [halike.length, div_lt_div_iff_of_pos_right (by positivity)]
    exact Nat.cast_lt.symm
  rw [halike.units_lt_iff, hparts, t.milliseconds_eq, u.milliseconds_eq, hseconds]
  constructor
  · rintro ⟨hsound, -⟩
    refine ⟨fun hlater => absurd hahead hlater.ne', fun _ hlt => ?_, fun hearlier => absurd hahead hearlier.ne⟩
    have hmilliseconds := hsound hlt
    omega
  · rintro ⟨-, hsame, -⟩
    refine ⟨fun hlt => ?_, fun hinstants => by linarith⟩
    have hmilliseconds := hsame hahead hlt
    omega

/-- Where the texts are comparable, they are ordered as their instants are exactly when the
    offsets and the decimals leave the local times in order. -/
theorem textsOrderInstants_iff_inOrder {startsAt endsAt : String} (ht : startsAt.toList = t.text)
    (hu : endsAt.toList = u.text) (h : t.Comparable u) : TextsOrderInstants startsAt endsAt ↔ t.InOrder u := by
  rw [textsOrderInstants_iff ht hu]
  rcases h with ⟨haligned, hahead⟩ | halike
  · exact ordered_of_ahead haligned hahead
  · exact ordered_of_alike halike

end OffsetDateTime

end TokenPilot.Management
