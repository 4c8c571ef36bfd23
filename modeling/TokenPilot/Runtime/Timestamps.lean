/-
  TokenPilot.Runtime.Timestamps — `isRealUtcDateTime` and `compareUtcDateTimes` (`common.ts`
  of the contracts).

  A timestamp is read by the pattern of its parts, its fraction padded to nanoseconds, and
  compared by its seven fields. `timestamps_ordered`: accepted are exactly the texts
  YYYY-MM-DDThh:mm:ss[.f]Z of date-times of the Gregorian calendar, and the comparison has
  the sign of the difference of their instants.
-/

import Mathlib.Tactic.IntervalCases
import TokenPilot.Library.Calendar
import TokenPilot.Library.Numeral
import TokenPilot.Runtime.Texts

namespace TokenPilot.Runtime

open Library

/-! ## The contracts -/

def isLeapYear (year : Nat) : Bool := leapYear year

/-- The digits of `(?:\.([0-9]{1,9}))?Z`. -/
def fractionDigits (t : List Char) : Option (List Char) :=
  if t = ['Z'] then some []
  else do
    let t ← readChar '.' t
    let digits := t.takeWhile isDigit
    if 1 ≤ digits.length ∧ digits.length ≤ 9 ∧ t.dropWhile isDigit = ['Z'] then some digits else none

def padEnd (width : Nat) (c : Char) (t : List Char) : List Char := t ++ List.replicate (width - t.length) c

def utcDateTimeSortKey (value : String) : Option (List Nat) := do
  let (year, t) ← readDigits 4 value.toList
  let (month, t) ← readDigits 2 (← readChar '-' t)
  let (day, t) ← readDigits 2 (← readChar '-' t)
  let (hour, t) ← readDigits 2 (← readChar 'T' t)
  let (minute, t) ← readDigits 2 (← readChar ':' t)
  let (second, t) ← readDigits 2 (← readChar ':' t)
  let fraction ← fractionDigits t
  let nanosecond := Nat.ofDigitChars 10 (padEnd 9 '0' fraction) 0
  let daysInMonth := [31, if isLeapYear year then 29 else 28, 31, 30, 31, 30, 31, 31, 30, 31, 30, 31]
  if year = 0 ∨ month < 1 ∨ 12 < month ∨ day < 1 ∨ daysInMonth.getD (month - 1) 0 < day ∨ 23 < hour ∨ 59 < minute ∨
      59 < second then none
  else some [year, month, day, hour, minute, second, nanosecond]

def isRealUtcDateTime (value : String) : Bool := (utcDateTimeSortKey value).isSome

structure RangeError where
  message : String
  deriving DecidableEq, Repr

/-- The first difference of two keys that is not zero. -/
def firstDifference : List Nat → List Nat → Int
  | l :: left, r :: right => if (l : Int) - r ≠ 0 then (l : Int) - r else firstDifference left right
  | _, _ => 0

def compareUtcDateTimes (left right : String) : Except RangeError Int :=
  match utcDateTimeSortKey left, utcDateTimeSortKey right with
  | some leftKey, some rightKey => .ok (firstDifference leftKey rightKey)
  | _, _ => .error ⟨"Expected real RFC3339 UTC timestamps"⟩

/-! ## What a text denotes -/

/-- The digits of a fraction, none or one to nine after a point. -/
def FractionText (digits text : List Char) : Prop :=
  digits = [] ∧ text = [] ∨
    1 ≤ digits.length ∧ digits.length ≤ 9 ∧ (∀ c ∈ digits, isDigit c = true) ∧ text = '.' :: digits

/-- YYYY-MM-DDThh:mm:ss[.f]Z of the date-time. -/
def Denotes (value : String) (t : DateTime) : Prop :=
  1 ≤ t.date.year ∧ t.date.year ≤ 9999 ∧ ∃ digits text, FractionText digits text ∧
    t.nanosecond = Nat.ofDigitChars 10 digits 0 * 10 ^ (9 - digits.length) ∧
    value.toList = digitsOf 4 t.date.year ++ '-' :: digitsOf 2 t.date.month ++ '-' :: digitsOf 2 t.date.day ++
      'T' :: digitsOf 2 t.hour ++ ':' :: digitsOf 2 t.minute ++ ':' :: digitsOf 2 t.second ++ text ++ ['Z']

/-! ## Digits -/

theorem digitsOf_succ (width n : Nat) : digitsOf (width + 1) n = digitsOf width (n / 10) ++ [Nat.digitChar (n % 10)] := by
  unfold digitsOf
  rw [List.range_succ, List.map_append]
  congr 1
  · apply List.map_congr_left
    intro i hi
    have hlt := List.mem_range.mp hi
    rw [Nat.div_div_eq_div_mul, show width + 1 - 1 - i = (width - 1 - i) + 1 by omega, pow_succ, mul_comm 10]
  · simp

theorem ofDigitChars_concat (l : List Char) (c : Char) :
    Nat.ofDigitChars 10 (l ++ [c]) 0 = 10 * Nat.ofDigitChars 10 l 0 + (c.toNat - '0'.toNat) := by
  rw [Nat.ofDigitChars_append, Nat.ofDigitChars_cons, Nat.ofDigitChars_nil]

theorem ofDigitChars_digitsOf {width n : Nat} (h : n < 10 ^ width) : Nat.ofDigitChars 10 (digitsOf width n) 0 = n := by
  induction width generalizing n with
  | zero =>
    have hzero : n = 0 := by simpa using h
    rw [hzero]
    rfl
  | succ width ih =>
    have hdigit := Nat.toNat_digitChar_sub_48_of_lt_ten (Nat.mod_lt n (by norm_num : 10 > 0))
    rw [digitsOf_succ, ofDigitChars_concat, ih (by omega)]
    show 10 * (n / 10) + ((n % 10).digitChar.toNat - 48) = n
    omega

/-- Digits are those of their number. -/
theorem digitsOf_ofDigitChars {l : List Char} (h : ∀ c ∈ l, isDigit c = true) :
    digitsOf l.length (Nat.ofDigitChars 10 l 0) = l ∧ Nat.ofDigitChars 10 l 0 < 10 ^ l.length := by
  induction l using List.reverseRecOn with
  | nil => exact ⟨rfl, by decide⟩
  | append_singleton l c ih =>
    obtain ⟨hdigits, hbound⟩ := ih fun d hd => h d (by simp [hd])
    obtain ⟨hlt, hchar⟩ := Numeral.digitChar_sub (h c (by simp))
    rw [ofDigitChars_concat, List.length_append, List.length_singleton, digitsOf_succ]
    refine ⟨?_, by omega⟩
    rw [Nat.mul_add_div (by norm_num), Nat.div_eq_of_lt hlt, Nat.add_zero, hdigits, Nat.mul_add_mod, Nat.mod_eq_of_lt hlt, hchar]

theorem readDigits_iff {width n : Nat} {t rest : List Char} :
    readDigits width t = some (n, rest) ↔ n < 10 ^ width ∧ t = digitsOf width n ++ rest := by
  constructor
  · intro h
    unfold readDigits at h
    split at h
    · rename_i hread
      cases h
      obtain ⟨hlength, hall⟩ := hread
      obtain ⟨hdigits, hbound⟩ := digitsOf_ofDigitChars fun c hc => List.all_eq_true.mp hall c hc
      rw [hlength] at hdigits hbound
      exact ⟨hbound, by rw [hdigits, List.take_append_drop]⟩
    · cases h
  · rintro ⟨hbound, rfl⟩
    rw [readDigits_digitsOf, ofDigitChars_digitsOf hbound]

theorem readChar_iff {c : Char} {t rest : List Char} : readChar c t = some rest ↔ t = c :: rest := by
  constructor
  · intro h
    cases t with
    | nil => cases h
    | cons d t =>
      rw [readChar] at h
      split_ifs at h with hd
      rw [hd, Option.some.inj h]
  · rintro rfl
    exact readChar_self c rest

/-! ## Keys -/

theorem fractionDigits_iff {t digits : List Char} :
    fractionDigits t = some digits ↔ ∃ text, FractionText digits text ∧ t = text ++ ['Z'] := by
  constructor
  · intro h
    unfold fractionDigits at h
    split at h
    · rename_i hend
      cases h
      exact ⟨[], .inl ⟨rfl, rfl⟩, hend⟩
    · simp only [Option.bind_eq_bind, Option.bind_eq_some_iff, readChar_iff] at h
      obtain ⟨rest, rfl, h⟩ := h
      split at h
      · rename_i hdigits
        cases h
        obtain ⟨hpos, hbound, hrest⟩ := hdigits
        refine ⟨'.' :: rest.takeWhile isDigit, .inr ⟨hpos, hbound, fun c hc => List.mem_takeWhile_imp hc, rfl⟩, ?_⟩
        rw [List.cons_append, ← hrest, List.takeWhile_append_dropWhile]
      · cases h
  · rintro ⟨text, ⟨rfl, rfl⟩ | ⟨hpos, hbound, hdigits, rfl⟩, rfl⟩
    · rfl
    · have hne : ¬ ('.' :: digits) ++ ['Z'] = ['Z'] := by
        intro h
        exact absurd (List.cons.inj h).1 (by decide)
      have htake : (digits ++ ['Z']).takeWhile isDigit = digits := by
        rw [List.takeWhile_append_of_pos hdigits]
        exact List.append_nil _
      have hdrop : (digits ++ ['Z']).dropWhile isDigit = ['Z'] := by
        rw [List.dropWhile_append_of_pos hdigits]
        rfl
      unfold fractionDigits
      rw [if_neg hne, List.cons_append, readChar_self]
      simp only [Option.bind_eq_bind, Option.bind_some, htake, hdrop]
      exact if_pos ⟨hpos, hbound, trivial⟩

theorem ofDigitChars_padEnd (digits : List Char) :
    Nat.ofDigitChars 10 (padEnd 9 '0' digits) 0 = Nat.ofDigitChars 10 digits 0 * 10 ^ (9 - digits.length) := by
  unfold padEnd
  rw [Nat.ofDigitChars_append, Nat.ofDigitChars_replicate_zero, mul_comm]

theorem FractionText.length_le {digits text : List Char} (h : FractionText digits text) : digits.length ≤ 9 := by
  rcases h with ⟨rfl, -⟩ | ⟨-, hbound, -⟩
  · decide
  · exact hbound

theorem FractionText.lt {digits text : List Char} (h : FractionText digits text) :
    Nat.ofDigitChars 10 digits 0 * 10 ^ (9 - digits.length) < 1000000000 := by
  have hbound : Nat.ofDigitChars 10 digits 0 < 10 ^ digits.length := by
    rcases h with ⟨rfl, -⟩ | ⟨-, -, hdigits, -⟩
    · decide
    · exact (digitsOf_ofDigitChars hdigits).2
  calc Nat.ofDigitChars 10 digits 0 * 10 ^ (9 - digits.length)
      < 10 ^ digits.length * 10 ^ (9 - digits.length) := Nat.mul_lt_mul_of_pos_right hbound (by positivity)
    _ = 1000000000 := by rw [← pow_add, Nat.add_sub_cancel' h.length_le]; rfl

theorem daysInMonth_table (year : Nat) {month : Nat} (hpos : 1 ≤ month) (hle : month ≤ 12) :
    [31, if isLeapYear year then 29 else 28, 31, 30, 31, 30, 31, 31, 30, 31, 30, 31].getD (month - 1) 0 =
      monthLength year month := by
  have hleap : isLeapYear year = leapYear year := rfl
  rw [hleap]
  interval_cases month <;> rfl

def sortKey (t : DateTime) : List Nat :=
  [t.date.year, t.date.month, t.date.day, t.hour, t.minute, t.second, t.nanosecond]

/-- A text has a key exactly when it denotes a date-time, whose fields it is. -/
theorem utcDateTimeSortKey_iff {value : String} {key : List Nat} :
    utcDateTimeSortKey value = some key ↔ ∃ t, Denotes value t ∧ key = sortKey t := by
  constructor
  · intro h
    unfold utcDateTimeSortKey at h
    simp only [Option.bind_eq_bind, Option.bind_eq_some_iff, Prod.exists, readDigits_iff, readChar_iff,
      fractionDigits_iff] at h
    obtain ⟨year, _, ⟨hyear, hvalue⟩, _, rfl, month, _, ⟨-, rfl⟩, _, rfl, day, _, ⟨-, rfl⟩, _, rfl, hour, _, ⟨-, rfl⟩, _,
      rfl, minute, _, ⟨-, rfl⟩, _, rfl, second, _, ⟨-, rfl⟩, digits, ⟨text, htext, rfl⟩, h⟩ := h
    obtain ⟨hbad, h⟩ := Option.ite_none_left_eq_some.mp h
    simp only [not_or, not_lt] at hbad
    obtain ⟨hyear0, hmonth, hmonth', hday, hday', hhour, hminute, hsecond⟩ := hbad
    rw [daysInMonth_table year hmonth hmonth'] at hday'
    rw [ofDigitChars_padEnd] at h
    refine ⟨⟨⟨year, month, day, hmonth, hmonth', hday, hday'⟩, hour, minute, second,
      Nat.ofDigitChars 10 digits 0 * 10 ^ (9 - digits.length), by omega, by omega, by omega, htext.lt⟩,
      ⟨Nat.one_le_iff_ne_zero.mpr hyear0, Nat.le_of_lt_succ hyear, digits, text, htext, rfl, ?_⟩, (Option.some.inj h).symm⟩
    rw [hvalue]
    simp only [List.append_assoc, List.cons_append]
  · rintro ⟨t, ⟨hyear, hyear', digits, text, htext, hnanosecond, hvalue⟩, rfl⟩
    have hdate := t.date.month_le
    have hday := t.date.day_le
    have hlength : monthLength t.date.year t.date.month ≤ 31 := by
      unfold monthLength
      split_ifs <;> omega
    have hhour := t.hour_lt
    have hminute := t.minute_lt
    have hsecond := t.second_lt
    have hfraction := fractionDigits_iff.mpr ⟨text, htext, rfl⟩
    have hgood : ¬ (t.date.year = 0 ∨ t.date.month < 1 ∨ 12 < t.date.month ∨ t.date.day < 1 ∨
        [31, if isLeapYear t.date.year then 29 else 28, 31, 30, 31, 30, 31, 31, 30, 31, 30, 31].getD (t.date.month - 1) 0 <
          t.date.day ∨ 23 < t.hour ∨ 59 < t.minute ∨ 59 < t.second) := by
      rw [daysInMonth_table _ t.date.month_pos t.date.month_le]
      have hmonthPos := t.date.month_pos
      have hdayPos := t.date.day_pos
      omega
    unfold utcDateTimeSortKey
    rw [hvalue]
    simp only [List.append_assoc, List.cons_append, readDigits_iff.mpr ⟨show t.date.year < 10 ^ 4 by omega, rfl⟩,
      readDigits_iff.mpr ⟨show t.date.month < 10 ^ 2 by omega, rfl⟩,
      readDigits_iff.mpr ⟨show t.date.day < 10 ^ 2 by omega, rfl⟩, readDigits_iff.mpr ⟨show t.hour < 10 ^ 2 by omega, rfl⟩,
      readDigits_iff.mpr ⟨show t.minute < 10 ^ 2 by omega, rfl⟩,
      readDigits_iff.mpr ⟨show t.second < 10 ^ 2 by omega, rfl⟩, readChar_self, hfraction, Option.bind_eq_bind,
      Option.bind_some, ofDigitChars_padEnd]
    rw [if_neg hgood, ← hnanosecond]
    rfl

/-! ## The order -/

/-- The fields of two date-times differ first as their instants do. -/
theorem firstDifference_neg {t u : DateTime} : firstDifference (sortKey t) (sortKey u) < 0 ↔ t.instant < u.instant := by
  rw [DateTime.instant_lt_iff]
  have hdate : t.date = u.date ↔ t.date.year = u.date.year ∧ t.date.month = u.date.month ∧ t.date.day = u.date.day := by
    obtain ⟨⟨_, _, _⟩, _⟩ := t
    obtain ⟨⟨_, _, _⟩, _⟩ := u
    simp
  unfold DateTime.Before Date.Before
  rw [hdate]
  simp only [firstDifference, sortKey]
  split_ifs <;> omega

theorem firstDifference_symm (left right : List Nat) : firstDifference right left = -firstDifference left right := by
  induction left generalizing right with
  | nil => cases right <;> rfl
  | cons l left ih =>
    cases right with
    | nil => rfl
    | cons r right =>
      simp only [firstDifference]
      rw [ih right]
      split_ifs <;> omega

theorem firstDifference_sign (t u : DateTime) :
    (firstDifference (sortKey t) (sortKey u)).sign = ((t.instant : Int) - u.instant).sign := by
  have hlt := firstDifference_neg (t := t) (u := u)
  have hgt := firstDifference_neg (t := u) (u := t)
  rw [firstDifference_symm (sortKey t)] at hgt
  rcases lt_trichotomy t.instant u.instant with h | h | h
  · rw [Int.sign_eq_neg_one_of_neg (hlt.mpr h), Int.sign_eq_neg_one_of_neg (by omega)]
  · rw [show firstDifference (sortKey t) (sortKey u) = 0 by omega, show (t.instant : Int) - u.instant = 0 by omega]
  · rw [Int.sign_eq_one_of_pos (by omega), Int.sign_eq_one_of_pos (by omega)]

theorem compareUtcDateTimes_of {left right : String} {t u : DateTime} (ht : Denotes left t) (hu : Denotes right u) :
    compareUtcDateTimes left right = .ok (firstDifference (sortKey t) (sortKey u)) := by
  unfold compareUtcDateTimes
  rw [(utcDateTimeSortKey_iff).mpr ⟨t, ht, rfl⟩, (utcDateTimeSortKey_iff).mpr ⟨u, hu, rfl⟩]

theorem isRealUtcDateTime_iff (value : String) : isRealUtcDateTime value = true ↔ ∃ t, Denotes value t := by
  unfold isRealUtcDateTime
  rw [Option.isSome_iff_exists]
  constructor
  · rintro ⟨key, hkey⟩
    obtain ⟨t, ht, -⟩ := (utcDateTimeSortKey_iff).mp hkey
    exact ⟨t, ht⟩
  · rintro ⟨t, ht⟩
    exact ⟨sortKey t, (utcDateTimeSortKey_iff).mpr ⟨t, ht, rfl⟩⟩

/-- A comparison of accepted texts: it never throws on them, changes its sign with their order,
    goes on through a third text, and is zero for the texts of one instant. -/
structure OrdersInstants (accepted : String → Bool) (compare : String → String → Except RangeError Int) : Prop where
  sign : ∀ left right t u, Denotes left t → Denotes right u →
    ∃ c, compare left right = .ok c ∧ c.sign = ((t.instant : Int) - u.instant).sign
  antisymmetric : ∀ left right, accepted left = true → accepted right = true →
    ∃ c, compare left right = .ok c ∧ compare right left = .ok (-c)
  transitive : ∀ a b c, accepted a = true → accepted b = true → accepted c = true →
    ∀ ab bc, compare a b = .ok ab → compare b c = .ok bc → ab ≤ 0 → bc ≤ 0 → ∃ ac, compare a c = .ok ac ∧ ac ≤ 0
  zero : ∀ left right t u, Denotes left t → Denotes right u → (compare left right = .ok 0 ↔ t = u)

/-- Accepted are the texts of date-times of the Gregorian calendar, and they are compared by their instants. -/
theorem timestamps_ordered : (∀ value, isRealUtcDateTime value = true ↔ ∃ t, Denotes value t) ∧
    OrdersInstants isRealUtcDateTime compareUtcDateTimes := by
  refine ⟨isRealUtcDateTime_iff, ⟨?_, ?_, ?_, ?_⟩⟩
  · intro left right t u ht hu
    exact ⟨_, compareUtcDateTimes_of ht hu, firstDifference_sign t u⟩
  · intro left right hleft hright
    obtain ⟨t, ht⟩ := (isRealUtcDateTime_iff left).mp hleft
    obtain ⟨u, hu⟩ := (isRealUtcDateTime_iff right).mp hright
    exact ⟨_, compareUtcDateTimes_of ht hu, by rw [compareUtcDateTimes_of hu ht, firstDifference_symm]⟩
  · intro a b c ha hb hc ab bc hab hbc hab0 hbc0
    obtain ⟨t, ht⟩ := (isRealUtcDateTime_iff a).mp ha
    obtain ⟨u, hu⟩ := (isRealUtcDateTime_iff b).mp hb
    obtain ⟨v, hv⟩ := (isRealUtcDateTime_iff c).mp hc
    cases (compareUtcDateTimes_of ht hu).symm.trans hab
    cases (compareUtcDateTimes_of hu hv).symm.trans hbc
    refine ⟨_, compareUtcDateTimes_of ht hv, ?_⟩
    have htu := firstDifference_neg (t := u) (u := t)
    have huv := firstDifference_neg (t := v) (u := u)
    have htv := firstDifference_neg (t := v) (u := t)
    rw [firstDifference_symm (sortKey t)] at htu htv
    rw [firstDifference_symm (sortKey u)] at huv
    omega
  · intro left right t u ht hu
    rw [compareUtcDateTimes_of ht hu, Except.ok.injEq, ← DateTime.instant_injective.eq_iff]
    have hlt := firstDifference_neg (t := t) (u := u)
    have hgt := firstDifference_neg (t := u) (u := t)
    rw [firstDifference_symm (sortKey t)] at hgt
    omega

end TokenPilot.Runtime
