/-
  TokenPilot.Runtime.Texts — the texts of the contracts (`primitives.ts`, `common.ts`,
  `policy.ts`, `model-runtime.ts`): patterns, lengths, trimming and timestamps.

  A pattern is a decidable predicate on the characters. `String.length` of JavaScript counts
  UTF-16 units; the bounded strings count code points. Whether a text is an absolute HTTP
  URL without credentials or fragment is for `URL` to say, so it is a parameter of the
  schemas and not defined here.
-/

import Mathlib.Algebra.Ring.Nat
import Mathlib.Data.List.DropRight
import TokenPilot.Library.Utf16
import TokenPilot.Quota.Period

namespace TokenPilot.Runtime

open Library

/-! ## Patterns -/

def isLower (c : Char) : Bool := 'a' ≤ c && c ≤ 'z'

def isUpper (c : Char) : Bool := 'A' ≤ c && c ≤ 'Z'

def isDigit (c : Char) : Bool := '0' ≤ c && c ≤ '9'

def isHex (c : Char) : Bool := isDigit c || 'a' ≤ c && c ≤ 'f' || 'A' ≤ c && c ≤ 'F'

/-- A first character, then at most `most` further ones. -/
def headed (first rest : Char → Bool) (most : Nat) : List Char → Bool
  | [] => false
  | c :: tail => first c && tail.all rest && tail.length ≤ most

/-- `/^[A-Za-z0-9][A-Za-z0-9._:@-]{0,255}$/u` -/
def opaqueIdPattern (s : String) : Bool :=
  headed (fun c => isLower c || isUpper c || isDigit c)
    (fun c => isLower c || isUpper c || isDigit c || "._:@-".toList.contains c) 255 s.toList

/-- `/^sha256:[0-9a-f]{64}$/u` -/
def sha256FingerprintPattern (s : String) : Bool :=
  "sha256:".toList.isPrefixOf s.toList &&
    (s.toList.drop 7).all (fun c => isDigit c || 'a' ≤ c && c ≤ 'f') && (s.toList.drop 7).length = 64

/-- `/^[a-z][a-z0-9_]{0,63}$/u` -/
def dimensionKeyPattern (s : String) : Bool := headed isLower (fun c => isLower c || isDigit c || c = '_') 63 s.toList

/-- `/^[a-z][a-z0-9._-]{0,127}$/u` -/
def propertyKeyPattern (s : String) : Bool :=
  headed isLower (fun c => isLower c || isDigit c || "._-".toList.contains c) 127 s.toList

/-- One or more parts, none empty, with one separator between two of them. -/
def separated (part separator : Char → Bool) : Bool → List Char → Bool
  | open_, [] => !open_
  | open_, c :: rest => (part c && separated part separator false rest) || (!open_ && separator c && separated part separator true rest)

/-- `/^[a-z][a-z0-9]*(?:[._-][a-z0-9]+)*$/` -/
def virtualModelPattern (s : String) : Bool :=
  (s.toList.head?.any isLower) && separated (fun c => isLower c || isDigit c) ("._-".toList.contains ·) true s.toList

/-- `[a-z0-9][a-z0-9._-]*` between colons. -/
def segments : Bool → List Char → Bool
  | open_, [] => !open_
  | open_, c :: rest =>
    if c = ':' then !open_ && segments true rest
    else (isLower c || isDigit c || (!open_ && "._-".toList.contains c)) && segments false rest

/-- `/^cp:[a-z0-9][a-z0-9._-]*(?::[a-z0-9][a-z0-9._-]*)+$/` -/
def routeTagPattern (s : String) : Bool :=
  "cp:".toList.isPrefixOf s.toList && segments true (s.toList.drop 3) && (s.toList.drop 3).contains ':'

/-- The groups of a UUID, by their lengths. -/
def uuidShape (s : String) : Bool :=
  s.toList.length = 36 && (s.toList.zipIdx.all fun (c, i) => if [8, 13, 18, 23].contains i then c = '-' else isHex c)

/-- The UUID versions 1 to 8 with the variant of RFC 9562, and the nil and max UUIDs. -/
def uuidPattern (s : String) : Bool :=
  uuidShape s && (s.toList.drop 14).head?.any ("12345678".toList.contains ·) &&
      (s.toList.drop 19).head?.any ("89abAB".toList.contains ·)
    || s = "00000000-0000-0000-0000-000000000000" || s = "ffffffff-ffff-ffff-ffff-ffffffffffff"

/-! ## Lengths and blanks -/

/-- `String.length` -/
def jsLength (s : String) : Nat := (Text.units s).length

/-- `boundedUnicodeStringSchema`; a `String` holds no unpaired surrogate. -/
def bounded (least most : Nat) (s : String) : Bool := least ≤ s.toList.length && s.toList.length ≤ most

/-- White space and line terminators of JavaScript. -/
def jsSpace (c : Char) : Bool :=
  [9, 10, 11, 12, 13, 32, 0xA0, 0x1680, 0x2028, 0x2029, 0x202F, 0x205F, 0x3000, 0xFEFF].contains c.toNat ||
    (0x2000 ≤ c.toNat && c.toNat ≤ 0x200A)

/-- `String.prototype.trim` -/
def jsTrim (s : String) : String := String.ofList ((s.toList.dropWhile jsSpace).rdropWhile jsSpace)

theorem jsTrim_jsTrim (s : String) : jsTrim (jsTrim s) = jsTrim s := by
  obtain ⟨t, ht⟩ : ∃ t, t = (s.toList.dropWhile jsSpace).rdropWhile jsSpace := ⟨_, rfl⟩
  -- the first character that is kept is no blank
  have hfirst : t.dropWhile jsSpace = t := by
    cases t with
    | nil => rfl
    | cons c rest =>
      obtain ⟨tail, htail⟩ := List.rdropWhile_prefix jsSpace (s.toList.dropWhile jsSpace)
      rw [← ht, List.cons_append] at htail
      have hhead := List.head?_dropWhile_not jsSpace s.toList
      rw [← htail] at hhead
      exact List.dropWhile_cons_of_neg (by simpa using hhead)
  have hlast : t.rdropWhile jsSpace = t := by
    rw [ht]
    exact List.rdropWhile_idempotent _ _
  unfold jsTrim
  rw [String.toList_ofList, ← ht, hfirst, hlast]

/-- `credentialReferenceSchema` -/
def credentialReference (s : String) : Bool :=
  bounded 1 256 s && s.toList.all fun c => !jsSpace c && 32 ≤ c.toNat && c.toNat ≠ 127

/-! ## Timestamps -/

def digitsOf (width n : Nat) : List Char := (List.range width).map fun i => Nat.digitChar (n / 10 ^ (width - 1 - i) % 10)

/-- `Date.prototype.toISOString`, with a sign and six digits for a year that has not four. -/
def isoString (milliseconds : Int) : String :=
  let date := Quota.civilFromDays (milliseconds / 86400000)
  let time := (milliseconds % 86400000).toNat
  let year :=
    if 0 ≤ date.year ∧ date.year ≤ 9999 then digitsOf 4 date.year.toNat
    else (if date.year < 0 then '-' else '+') :: digitsOf 6 date.year.natAbs
  String.ofList (year ++ '-' :: digitsOf 2 date.month.toNat ++ '-' :: digitsOf 2 date.day.toNat ++
    'T' :: digitsOf 2 (time / 3600000) ++ ':' :: digitsOf 2 (time / 60000 % 60) ++
    ':' :: digitsOf 2 (time / 1000 % 60) ++ '.' :: digitsOf 3 (time % 1000) ++ ['Z'])

def readDigits (width : Nat) (t : List Char) : Option (Nat × List Char) :=
  if (t.take width).length = width ∧ (t.take width).all isDigit then
    some (Nat.ofDigitChars 10 (t.take width) 0, t.drop width)
  else none

def readChar (c : Char) : List Char → Option (List Char)
  | d :: rest => if d = c then some rest else none
  | [] => none

theorem isDigit_digitChar {d : Nat} (h : d < 10) : isDigit (Nat.digitChar d) = true := by
  have hall : ∀ d < 10, isDigit (Nat.digitChar d) = true := by decide
  exact hall d h

theorem ofDigitChars_digitsOf_two (n : Nat) (h : n < 100) : Nat.ofDigitChars 10 (digitsOf 2 n) 0 = n := by
  show Nat.ofDigitChars 10 [Nat.digitChar (n / 10 % 10), Nat.digitChar (n / 1 % 10)] 0 = n
  rw [Nat.ofDigitChars_cons_digitChar_of_lt_ten (by omega), Nat.ofDigitChars_cons_digitChar_of_lt_ten (by omega),
    Nat.ofDigitChars_nil]
  omega

theorem ofDigitChars_digitsOf_four (n : Nat) (h : n < 10000) : Nat.ofDigitChars 10 (digitsOf 4 n) 0 = n := by
  show Nat.ofDigitChars 10 [Nat.digitChar (n / 1000 % 10), Nat.digitChar (n / 100 % 10), Nat.digitChar (n / 10 % 10),
    Nat.digitChar (n / 1 % 10)] 0 = n
  rw [Nat.ofDigitChars_cons_digitChar_of_lt_ten (by omega), Nat.ofDigitChars_cons_digitChar_of_lt_ten (by omega),
    Nat.ofDigitChars_cons_digitChar_of_lt_ten (by omega), Nat.ofDigitChars_cons_digitChar_of_lt_ten (by omega),
    Nat.ofDigitChars_nil]
  omega

theorem length_digitsOf (width n : Nat) : (digitsOf width n).length = width := by simp [digitsOf]

theorem digitsOf_digits (width n : Nat) : (digitsOf width n).all isDigit = true := by
  rw [List.all_eq_true]
  intro c hc
  obtain ⟨i, -, rfl⟩ := List.mem_map.mp hc
  exact isDigit_digitChar (Nat.mod_lt _ (by decide))

theorem readDigits_digitsOf (width n : Nat) (rest : List Char) :
    readDigits width (digitsOf width n ++ rest) = some (Nat.ofDigitChars 10 (digitsOf width n) 0, rest) := by
  have htake : (digitsOf width n ++ rest).take width = digitsOf width n := by
    rw [List.take_append_of_le_length (by rw [length_digitsOf]), List.take_of_length_le (by rw [length_digitsOf])]
  have hdrop : (digitsOf width n ++ rest).drop width = rest := by
    rw [List.drop_append_of_le_length (by rw [length_digitsOf]), List.drop_of_length_le (by rw [length_digitsOf]),
      List.nil_append]
  unfold readDigits
  rw [htake, hdrop, if_pos ⟨length_digitsOf width n, digitsOf_digits width n⟩]

/-- The nanoseconds of `(?:\.[0-9]{1,9})?Z`. -/
def readFraction (t : List Char) : Option Nat :=
  if t = ['Z'] then some 0
  else do
    let t ← readChar '.' t
    let digits := t.takeWhile isDigit
    if 1 ≤ digits.length ∧ digits.length ≤ 9 ∧ t.dropWhile isDigit = ['Z'] then
      some (Nat.ofDigitChars 10 digits 0 * 10 ^ (9 - digits.length))
    else none

def daysInMonth (year month : Nat) : Nat :=
  if month = 2 then if year % 4 = 0 ∧ (year % 100 ≠ 0 ∨ year % 400 = 0) then 29 else 28
  else if [4, 6, 9, 11].contains month then 30 else 31

/-- A real RFC 3339 timestamp in UTC (`utcDateTimeSortKey`): its milliseconds, and the
    microseconds below them. -/
def readUtc (s : String) : Option (Int × Nat) := do
  let (year, t) ← readDigits 4 s.toList
  let (month, t) ← readDigits 2 (← readChar '-' t)
  let (day, t) ← readDigits 2 (← readChar '-' t)
  let (hour, t) ← readDigits 2 (← readChar 'T' t)
  let (minute, t) ← readDigits 2 (← readChar ':' t)
  let (second, t) ← readDigits 2 (← readChar ':' t)
  let nanosecond ← readFraction t
  if year ≠ 0 ∧ 1 ≤ month ∧ month ≤ 12 ∧ 1 ≤ day ∧ day ≤ daysInMonth year month ∧ hour ≤ 23 ∧ minute ≤ 59 ∧
      second ≤ 59 then
    some (Quota.daysFromCivil year month day * 86400000 +
        ((hour * 3600000 + minute * 60000 + second * 1000 + nanosecond / 1000000 : Nat) : Int),
      nanosecond / 1000 % 1000)
  else none

/-! ## A written timestamp is read back -/

theorem readChar_self (c : Char) (rest : List Char) : readChar c (c :: rest) = some rest := if_pos rfl

theorem readFraction_milliseconds (n : Nat) (h : n < 1000) : readFraction ('.' :: digitsOf 3 n ++ ['Z']) = some (n * 1000000) := by
  have hdigits : (digitsOf 3 n ++ ['Z']).takeWhile isDigit = digitsOf 3 n := by
    rw [List.takeWhile_append_of_pos (fun c hc => List.all_eq_true.mp (digitsOf_digits 3 n) c hc)]
    exact List.append_nil _
  have hrest : (digitsOf 3 n ++ ['Z']).dropWhile isDigit = ['Z'] := by
    rw [List.dropWhile_append_of_pos (fun c hc => List.all_eq_true.mp (digitsOf_digits 3 n) c hc)]
    rfl
  have hvalue : Nat.ofDigitChars 10 (digitsOf 3 n) 0 = n := by
    show Nat.ofDigitChars 10 [Nat.digitChar (n / 100 % 10), Nat.digitChar (n / 10 % 10), Nat.digitChar (n / 1 % 10)] 0 = n
    rw [Nat.ofDigitChars_cons_digitChar_of_lt_ten (by omega), Nat.ofDigitChars_cons_digitChar_of_lt_ten (by omega),
      Nat.ofDigitChars_cons_digitChar_of_lt_ten (by omega), Nat.ofDigitChars_nil]
    omega
  have hne : ¬ '.' :: digitsOf 3 n ++ ['Z'] = ['Z'] := by
    intro hcons
    exact absurd (List.cons.inj hcons).1 (by decide)
  unfold readFraction
  rw [if_neg hne, List.cons_append, readChar_self]
  simp only [Option.bind_eq_bind, Option.bind_some, hdigits, hrest, hvalue, length_digitsOf]
  rfl

theorem daysFromCivil_civilFromDays (n : Int) :
    Quota.daysFromCivil (Quota.civilFromDays n).year (Quota.civilFromDays n).month (Quota.civilFromDays n).day = n := by
  obtain ⟨era, year, month, day, hy0, hy1, hm0, hm1, hn, hcivil⟩ := Quota.civilFromDays_spec n
  have hmarch := Quota.daysFromCivil_march era day hy0 hy1 hm0 hm1
  rw [hcivil]
  show Quota.daysFromCivil (if (if month < 10 then month + 3 else month - 9) ≤ 2 then _ else _) _ day = n
  by_cases hm : month < 10
  · rw [if_pos hm, if_pos hm] at hmarch
    rw [if_pos hm, if_neg (by omega), hmarch, hn]
  · rw [if_neg hm, if_neg hm] at hmarch
    rw [if_neg hm, if_pos (by omega), hmarch, hn]

theorem civilFromDays_bounds (n : Int) : 1 ≤ (Quota.civilFromDays n).month ∧ (Quota.civilFromDays n).month ≤ 12 ∧
    1 ≤ (Quota.civilFromDays n).day ∧ (Quota.civilFromDays n).day ≤ 31 := by
  obtain ⟨era, year, month, day, hy0, hy1, hm0, hm1, hn, hcivil⟩ := Quota.civilFromDays_spec n
  have hday : 1 ≤ (Quota.civilFromDays n).day ∧ (Quota.civilFromDays n).day ≤ 31 := by
    unfold Quota.civilFromDays
    dsimp only
    generalize n + 719468 - (n + 719468) / 146097 * 146097 -
      (365 * ((n + 719468 - (n + 719468) / 146097 * 146097 - (n + 719468 - (n + 719468) / 146097 * 146097) / 1460 +
        (n + 719468 - (n + 719468) / 146097 * 146097) / 36524 -
        (n + 719468 - (n + 719468) / 146097 * 146097) / 146096) / 365) + _ / 4 - _ / 100) = dayOfYear
    omega
  refine ⟨?_, ?_, hday⟩
  · rw [hcivil]
    show 1 ≤ (if month < 10 then month + 3 else month - 9)
    split <;> omega
  · rw [hcivil]
    show (if month < 10 then month + 3 else month - 9) ≤ 12
    split <;> omega

/-- A date that `toISOString` writes as a timestamp of the contracts is read as the same time. -/
theorem readUtc_isoString {milliseconds : Int} {time : Int × Nat} (h : readUtc (isoString milliseconds) = some time) :
    time = (milliseconds, 0) := by
  obtain ⟨hmonth, hmonth', hday, hday'⟩ := civilFromDays_bounds (milliseconds / 86400000)
  have hdays := daysFromCivil_civilFromDays (milliseconds / 86400000)
  unfold readUtc isoString at h
  generalize Quota.civilFromDays (milliseconds / 86400000) = date at *
  obtain ⟨clock, hclock⟩ : ∃ clock, clock = (milliseconds % 86400000).toNat := ⟨_, rfl⟩
  have hbound : clock < 86400000 := by omega
  dsimp only at h
  rw [← hclock, String.toList_ofList] at h
  by_cases hyear : 0 ≤ date.year ∧ date.year ≤ 9999
  · have hfraction := readFraction_milliseconds (clock % 1000) (Nat.mod_lt _ (by decide))
    rw [List.cons_append] at hfraction
    simp only [if_pos hyear, List.append_assoc, List.cons_append, readDigits_digitsOf, readChar_self, Option.bind_eq_bind,
      Option.bind_some, hfraction, ofDigitChars_digitsOf_four date.year.toNat (by omega),
      ofDigitChars_digitsOf_two date.month.toNat (by omega), ofDigitChars_digitsOf_two date.day.toNat (by omega),
      ofDigitChars_digitsOf_two (clock / 3600000) (by omega), ofDigitChars_digitsOf_two (clock / 60000 % 60) (by omega),
      ofDigitChars_digitsOf_two (clock / 1000 % 60) (by omega)] at h
    split at h
    · have hyear' : ((date.year.toNat : Nat) : Int) = date.year := Int.toNat_of_nonneg hyear.1
      have hmonth'' : ((date.month.toNat : Nat) : Int) = date.month := Int.toNat_of_nonneg (by omega)
      have hday'' : ((date.day.toNat : Nat) : Int) = date.day := Int.toNat_of_nonneg (by omega)
      rw [hyear', hmonth'', hday'', hdays] at h
      rw [← Option.some.inj h]
      refine Prod.ext ?_ ?_
      · show milliseconds / 86400000 * 86400000 + _ = milliseconds
        omega
      · show clock % 1000 * 1000000 / 1000 % 1000 = 0
        omega
    · cases h
  -- a year of another length starts with a sign
  · have hsign : readDigits 4 ((if date.year < 0 then '-' else '+') :: digitsOf 6 date.year.natAbs ++ '-' ::
        digitsOf 2 date.month.toNat ++ '-' :: digitsOf 2 date.day.toNat ++ 'T' :: digitsOf 2 (clock / 3600000) ++
        ':' :: digitsOf 2 (clock / 60000 % 60) ++ ':' :: digitsOf 2 (clock / 1000 % 60) ++
        '.' :: digitsOf 3 (clock % 1000) ++ ['Z']) = none := by
      unfold readDigits
      refine if_neg fun hdigits => ?_
      split at hdigits <;> simp [isDigit] at hdigits
    rw [if_neg hyear, hsign] at h
    cases h

end TokenPilot.Runtime
