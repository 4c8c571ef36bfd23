/-
  TokenPilot.Library.Calendar — the proleptic Gregorian calendar and its instants.

  A date is one of its month, and its number is the count of the days before it since the
  first day of the year 0: the later of two dates has the greater number
  (`Date.number_lt_of_before`). An instant is counted in nanoseconds, and two date-times compare
  by their fields as their instants do (`DateTime.instant_lt_iff`).
-/

import Mathlib.Tactic.Common
import Mathlib.Tactic.Linarith

namespace TokenPilot.Library

def leapYear (year : Nat) : Bool := year % 4 = 0 && (year % 100 ≠ 0 || year % 400 = 0)

def monthLength (year month : Nat) : Nat :=
  if month = 2 then if leapYear year then 29 else 28 else if [4, 6, 9, 11].contains month then 30 else 31

/-- The days of the months before one, the first being 1. -/
def daysBeforeMonth (year : Nat) : Nat → Nat
  | 0 => 0
  | month + 1 => daysBeforeMonth year month + if month = 0 then 0 else monthLength year month

def yearLength (year : Nat) : Nat := daysBeforeMonth year 13

def daysBeforeYear : Nat → Nat
  | 0 => 0
  | year + 1 => daysBeforeYear year + yearLength year

structure Date where
  year : Nat
  month : Nat
  day : Nat
  month_pos : 1 ≤ month
  month_le : month ≤ 12
  day_pos : 1 ≤ day
  day_le : day ≤ monthLength year month
  deriving DecidableEq

namespace Date

def number (d : Date) : Nat := daysBeforeYear d.year + daysBeforeMonth d.year d.month + (d.day - 1)

/-- The later of two dates, by their fields. -/
def Before (a b : Date) : Prop :=
  a.year < b.year ∨ a.year = b.year ∧ (a.month < b.month ∨ a.month = b.month ∧ a.day < b.day)

end Date

theorem daysBeforeMonth_mono (year : Nat) {m n : Nat} (h : m ≤ n) : daysBeforeMonth year m ≤ daysBeforeMonth year n := by
  induction h with
  | refl => exact le_rfl
  | step _ ih => exact ih.trans (Nat.le_add_right _ _)

theorem daysBeforeYear_mono {m n : Nat} (h : m ≤ n) : daysBeforeYear m ≤ daysBeforeYear n := by
  induction h with
  | refl => exact le_rfl
  | step _ ih => exact ih.trans (Nat.le_add_right _ _)

theorem daysBeforeMonth_succ (year : Nat) {month : Nat} (h : 1 ≤ month) :
    daysBeforeMonth year (month + 1) = daysBeforeMonth year month + monthLength year month := by
  rw [daysBeforeMonth, if_neg (by omega)]

namespace Date

/-- A date is before the end of its month, and so before the end of its year. -/
theorem number_bounds (d : Date) : daysBeforeYear d.year + daysBeforeMonth d.year d.month ≤ d.number ∧
    d.number < daysBeforeYear d.year + daysBeforeMonth d.year (d.month + 1) := by
  have hlength := daysBeforeMonth_succ d.year d.month_pos
  have hday := d.day_le
  have hpos := d.day_pos
  unfold number
  omega

theorem number_lt_of_before {a b : Date} (h : a.Before b) : a.number < b.number := by
  obtain ⟨-, hend⟩ := a.number_bounds
  obtain ⟨hstart, -⟩ := b.number_bounds
  rcases h with hyear | ⟨hyear, hmonth | ⟨hmonth, hday⟩⟩
  · have hmonths := daysBeforeMonth_mono a.year (show a.month + 1 ≤ 13 from Nat.succ_le_succ a.month_le)
    have hnext : daysBeforeYear (a.year + 1) = daysBeforeYear a.year + daysBeforeMonth a.year 13 := rfl
    have hyears := daysBeforeYear_mono (show a.year + 1 ≤ b.year from hyear)
    omega
  · have hmonths := daysBeforeMonth_mono a.year (show a.month + 1 ≤ b.month from hmonth)
    rw [← hyear] at hstart
    omega
  · have hpos := a.day_pos
    unfold number
    rw [hyear, hmonth]
    omega

theorem before_trichotomy (a b : Date) : a.Before b ∨ a = b ∨ b.Before a := by
  unfold Before
  rcases lt_trichotomy a.year b.year with hyear | hyear | hyear
  · exact .inl (.inl hyear)
  · rcases lt_trichotomy a.month b.month with hmonth | hmonth | hmonth
    · exact .inl (.inr ⟨hyear, .inl hmonth⟩)
    · rcases lt_trichotomy a.day b.day with hday | hday | hday
      · exact .inl (.inr ⟨hyear, .inr ⟨hmonth, hday⟩⟩)
      · right; left
        cases a
        cases b
        simp_all
      · exact .inr (.inr (.inr ⟨hyear.symm, .inr ⟨hmonth.symm, hday⟩⟩))
    · exact .inr (.inr (.inr ⟨hyear.symm, .inl hmonth⟩))
  · exact .inr (.inr (.inl hyear))

end Date

/-! ## Instants -/

structure DateTime where
  date : Date
  hour : Nat
  minute : Nat
  second : Nat
  nanosecond : Nat
  hour_lt : hour < 24
  minute_lt : minute < 60
  second_lt : second < 60
  nanosecond_lt : nanosecond < 1000000000
  deriving DecidableEq

namespace DateTime

/-- The nanoseconds since the beginning of the year 0. -/
def instant (t : DateTime) : Nat :=
  (((t.date.number * 24 + t.hour) * 60 + t.minute) * 60 + t.second) * 1000000000 + t.nanosecond

/-- The later of two date-times, by their fields. -/
def Before (t u : DateTime) : Prop :=
  t.date.Before u.date ∨ t.date = u.date ∧ (t.hour < u.hour ∨ t.hour = u.hour ∧ (t.minute < u.minute ∨
    t.minute = u.minute ∧ (t.second < u.second ∨ t.second = u.second ∧ t.nanosecond < u.nanosecond)))

theorem instant_lt_of_before {t u : DateTime} (h : t.Before u) : t.instant < u.instant := by
  have hhour := t.hour_lt
  have hminute := t.minute_lt
  have hsecond := t.second_lt
  have hnanosecond := t.nanosecond_lt
  unfold instant
  rcases h with hdate | ⟨hdate, h⟩
  · have hnumber := Date.number_lt_of_before hdate
    omega
  · rw [hdate]
    omega

theorem before_trichotomy (t u : DateTime) : t.Before u ∨ t = u ∨ u.Before t := by
  unfold Before
  rcases Date.before_trichotomy t.date u.date with hdate | hdate | hdate
  · exact .inl (.inl hdate)
  · rw [hdate]
    by_cases hsame : t.hour = u.hour ∧ t.minute = u.minute ∧ t.second = u.second ∧ t.nanosecond = u.nanosecond
    · right; left
      cases t
      cases u
      simp_all
    · have hfields : (t.hour < u.hour ∨ t.hour = u.hour ∧ (t.minute < u.minute ∨ t.minute = u.minute ∧
          (t.second < u.second ∨ t.second = u.second ∧ t.nanosecond < u.nanosecond))) ∨
          (u.hour < t.hour ∨ u.hour = t.hour ∧ (u.minute < t.minute ∨ u.minute = t.minute ∧
            (u.second < t.second ∨ u.second = t.second ∧ u.nanosecond < t.nanosecond))) := by omega
      rcases hfields with hbefore | hbefore
      · exact .inl (.inr ⟨rfl, hbefore⟩)
      · exact .inr (.inr (.inr ⟨rfl, hbefore⟩))
  · exact .inr (.inr (.inl hdate))

/-- Instants compare as the first fields that differ. -/
theorem instant_lt_iff {t u : DateTime} : t.instant < u.instant ↔ t.Before u := by
  refine ⟨fun h => ?_, instant_lt_of_before⟩
  rcases before_trichotomy t u with hbefore | rfl | hbefore
  · exact hbefore
  · exact absurd h (lt_irrefl _)
  · exact absurd (instant_lt_of_before hbefore) (lt_asymm h)

theorem instant_injective : Function.Injective instant := by
  intro t u h
  rcases before_trichotomy t u with hbefore | hsame | hbefore
  · exact absurd h (instant_lt_of_before hbefore).ne
  · exact hsame
  · exact absurd h (instant_lt_of_before hbefore).ne'

end DateTime

end TokenPilot.Library
