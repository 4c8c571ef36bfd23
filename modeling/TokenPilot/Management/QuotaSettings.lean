/-
  TokenPilot.Management.QuotaSettings — the quota settings an administrator enters:
  `saveUserQuotaSchema` and `saveQuotaPolicySchema` (`user.schemas.ts`,
  `quota-policy.schemas.ts`), and what `save` stores of them (`user-presentation.ts`,
  `user-quota.service.ts`, `quota-policy.service.ts`).

  A limit is any number of digits with at most six decimals, multiplied by a million to 20
  significant digits. A fixed range is two date-times with their offsets; the schemas compare
  their texts, and the services store their instants, in milliseconds.
  `quota_settings_by_value`: an input is stored by its values, and a range in order accepted,
  when the limit has at most 2^63 - 1 millionths and the offsets and decimals of the range leave
  its local times in order; where the texts differ in their local times or only in decimals, this
  is needed too.
-/

import TokenPilot.Library.DigitText
import TokenPilot.Management.DateTimes
import TokenPilot.Pipeline.Rating
import TokenPilot.Quota.Administration

namespace TokenPilot.Management

open TokenPilot.Library TokenPilot.Runtime
open TokenPilot.Pipeline (decimal precision PrismaDecimal.mul)
open TokenPilot.Quota (Timestamp QuotaPeriodType SaveCall)

/-! ## The schemas -/

/-- `/^(?:0|[1-9][0-9]*)(?:\.[0-9]{1,6})?$/u` -/
def aiuPattern (s : String) : Bool :=
  let integral := s.toList.takeWhile Char.isDigit
  (integral = ['0'] || integral.head?.any (· ≠ '0')) &&
    match s.toList.dropWhile Char.isDigit with
    | [] => true
    | c :: fraction => c = '.' && 1 ≤ fraction.length && fraction.length ≤ 6 && fraction.all Char.isDigit

inductive QuotaPeriod where
  | day
  | week
  | month
  | fixed
  | lifetime
  deriving DecidableEq, Repr

def QuotaPeriod.text : QuotaPeriod → String
  | .day => "day"
  | .week => "week"
  | .month => "month"
  | .fixed => "fixed"
  | .lifetime => "lifetime"

def quotaPeriods : List QuotaPeriod := [.day, .week, .month, .fixed, .lifetime]

/-- `userQuotaPeriodTypes` -/
def userQuotaPeriodTypes : QuotaPeriod → QuotaPeriodType
  | .day => .calendarDay
  | .week => .calendarWeek
  | .month => .calendarMonth
  | .fixed => .fixedWindow
  | .lifetime => .lifetime

structure QuotaSettings where
  limit : String
  hardLimit : Bool
  period : QuotaPeriod
  startsAt : Option String
  endsAt : Option String
  deriving DecidableEq, Repr

structure PolicySettings extends QuotaSettings where
  priority : Nat
  reason : String
  deriving DecidableEq, Repr

/-- `z.string().trim().min(1).max(most)` -/
def trimmedText (most : Nat) : Value → Option String := trimmedSchema fun s => 1 ≤ jsLength s && jsLength s ≤ most

/-- A date-time with its offset, kept as it was written. -/
def dateTimeText (v : Value) : Option String :=
  match v with
  | .str s => (dateTimeSchema (.str s)).map fun _ => s
  | _ => none

/-- The fields the two schemas share. -/
def quotaFields (field : String → Option Value) : Option QuotaSettings := do
  let limit ← required field "limit" (textSchema aiuPattern)
  let hardLimit ← optionally boolSchema (field "hard_limit")
  let period ← optionally (enumSchema QuotaPeriod.text quotaPeriods) (field "period")
  let startsAt ← optionally dateTimeText (field "starts_at")
  let endsAt ← optionally dateTimeText (field "ends_at")
  some { limit, hardLimit := hardLimit.getD false, period := period.getD .lifetime, startsAt, endsAt }

structure Issue where
  path : String
  message : String
  deriving DecidableEq, Repr

/-- `superRefine`; the texts are compared by their UTF-16 units. -/
def rangeIssue (settings : QuotaSettings) : Option Issue :=
  if settings.period = .fixed then
    match settings.startsAt, settings.endsAt with
    | some startsAt, some endsAt =>
      if Text.units endsAt ≤ Text.units startsAt then some ⟨"ends_at", "Fixed quota requires a valid time range"⟩ else none
    | _, _ => some ⟨"ends_at", "Fixed quota requires a valid time range"⟩
  else if settings.startsAt.isSome || settings.endsAt.isSome then
    some ⟨"starts_at", "Only a fixed quota accepts a time range"⟩
  else none

/-- The object of `saveUserQuotaSchema`, before the range is looked at. -/
def userQuotaFields (v : Value) : Option QuotaSettings := do
  let field ← strictObject ["limit", "hard_limit", "period", "starts_at", "ends_at"] v
  quotaFields field

def saveUserQuotaSchema (v : Value) : Option QuotaSettings :=
  (userQuotaFields v).filter fun settings => (rangeIssue settings).isNone

def quotaPolicyFields (v : Value) : Option PolicySettings := do
  let field ← strictObject ["limit", "hard_limit", "period", "starts_at", "ends_at", "priority", "reason"] v
  let settings ← quotaFields field
  let priority ← optionally (naturalSchema 0 10000) (field "priority")
  let reason ← optionally (trimmedText 500) (field "reason")
  some { toQuotaSettings := settings, priority := priority.getD 0, reason := reason.getD "Updated AIU quota rule" }

def saveQuotaPolicySchema (v : Value) : Option PolicySettings :=
  (quotaPolicyFields v).filter fun settings => (rangeIssue settings.toQuotaSettings).isNone

/-! ## What is stored -/

/-- `BigInt(new Prisma.Decimal(value).mul(1_000_000).toFixed(0))` -/
def aiuToMicros (value : String) : Int := halfUp (PrismaDecimal.mul (decimal value) 1000000)

/-- `new Date` of the two texts of a fixed range. -/
def QuotaSettings.window (settings : QuotaSettings) : Option (Timestamp × Timestamp) :=
  if settings.period = .fixed then do
    let start ← dateTimeSchema (.str (← settings.startsAt))
    let end_ ← dateTimeSchema (.str (← settings.endsAt))
    some (start, end_)
  else none

/-- What `save` writes to the user's policy and quota. -/
def QuotaSettings.call (settings : QuotaSettings) (request : SaveCall) : SaveCall :=
  { request with
    periodType := userQuotaPeriodTypes settings.period
    fixed := settings.window
    limitAiuMicros := (aiuToMicros settings.limit).toNat
    hardLimit := settings.hardLimit }

/-! ## What the settings mean -/

def maxBigint : Int := 9223372036854775807

/-- The limit is a million times the number entered and fits its column, and a range that is
    stored is in order. -/
structure StoredByValue (settings : QuotaSettings) : Prop where
  exact : (aiuToMicros settings.limit : ℚ) = decimal settings.limit * 1000000
  fits : 0 ≤ aiuToMicros settings.limit ∧ aiuToMicros settings.limit ≤ maxBigint
  range : settings.period = .fixed → ∃ start end_, settings.window = some (start, end_) ∧ start < end_

/-- The settings of an input that its schema accepts are stored by value, and a fixed range in
    order is accepted. -/
def ValidatedByValue (input accepted : Option QuotaSettings) : Prop :=
  (∀ settings, accepted = some settings → StoredByValue settings) ∧
    ∀ settings, input = some settings → settings.period = .fixed → ∀ startsAt endsAt, settings.startsAt = some startsAt →
      settings.endsAt = some endsAt → ∀ start end_, exactInstant startsAt = some start → exactInstant endsAt = some end_ →
      start < end_ → accepted = some settings

/-- A limit that is accepted has at most as many millionths as its column holds. -/
def LimitFits (settings : QuotaSettings) : Prop :=
  rangeIssue settings = none → decimal settings.limit * 1000000 ≤ maxBigint

/-- The texts of a fixed range. -/
def QuotaSettings.Range (settings : QuotaSettings) (startsAt endsAt : String) : Prop :=
  settings.period = .fixed ∧ settings.startsAt = some startsAt ∧ settings.endsAt = some endsAt

/-- When an input that gives these settings is treated by value. -/
def SettingsDecide (settings : QuotaSettings) : Prop :=
  LimitFits settings ∧ ∀ startsAt endsAt, settings.Range startsAt endsAt → TextsOrderInstants startsAt endsAt

/-- The range is of comparable texts, and its offsets and decimals leave its local times in order. -/
def RangeInOrder (settings : QuotaSettings) : Prop :=
  ∀ startsAt endsAt, settings.Range startsAt endsAt →
    ∃ t u : OffsetDateTime, startsAt.toList = t.text ∧ endsAt.toList = u.text ∧ t.Comparable u ∧ t.InOrder u

/-- The offsets and decimals of a range of comparable texts do not put its local times out of order. -/
def RangeNotOutOfOrder (settings : QuotaSettings) : Prop :=
  ∀ startsAt endsAt, settings.Range startsAt endsAt →
    ∀ t u : OffsetDateTime, startsAt.toList = t.text → endsAt.toList = u.text → t.Comparable u → t.InOrder u

/-! ## Limits -/

theorem aiuPattern_text {s : String} (h : aiuPattern s = true) :
    DigitText 6 (s.toList.takeWhile Char.isDigit) s.toList := by
  have hsplit := List.takeWhile_append_dropWhile (p := Char.isDigit) (l := s.toList)
  have hplain : Numeral.Plain (s.toList.takeWhile Char.isDigit) := fun c hc => List.mem_takeWhile_imp hc
  unfold aiuPattern at h
  rw [Bool.and_eq_true] at h
  obtain ⟨hwhole, hrest⟩ := h
  refine ⟨hplain, ?_, ?_⟩
  · intro hnil
    rw [hnil] at hwhole
    simp at hwhole
  · cases hdrop : s.toList.dropWhile Char.isDigit with
    | nil =>
      rw [hdrop, List.append_nil] at hsplit
      exact .inl hsplit.symm
    | cons c fraction =>
      rw [hdrop] at hrest hsplit
      simp only [Bool.and_eq_true, decide_eq_true_eq] at hrest
      obtain ⟨⟨⟨rfl, -⟩, hlength⟩, hall⟩ := hrest
      exact .inr ⟨fraction, fun d hd => List.all_eq_true.mp hall d hd, hlength, hsplit.symm⟩

/-- A limit is a natural number of millionths. -/
theorem aiuPattern_micros {s : String} (h : aiuPattern s = true) : ∃ n : Nat, decimal s * 1000000 = n := by
  obtain ⟨n, hvalue, -⟩ := (aiuPattern_text h).value_eq
  refine ⟨n, ?_⟩
  have hmillion : (1000000 : ℚ) = 10 ^ (6 : Int) := by norm_num
  rw [decimal, hvalue, hmillion, mul_assoc, ← zpow_add₀ (by norm_num)]
  simp

/-- What fits the column has 20 digits, so it is stored as it is. -/
theorem aiuToMicros_iff {s : String} (h : aiuPattern s = true) :
    ((aiuToMicros s : ℚ) = decimal s * 1000000 ∧ 0 ≤ aiuToMicros s ∧ aiuToMicros s ≤ maxBigint) ↔
      decimal s * 1000000 ≤ maxBigint := by
  obtain ⟨n, hn⟩ := aiuPattern_micros h
  constructor
  · rintro ⟨hexact, -, hfits⟩
    rw [← hexact]
    exact_mod_cast hfits
  · intro hle
    have hbound : n ≤ 10 ^ precision := by
      rw [hn] at hle
      have hint : (n : Int) ≤ maxBigint := by exact_mod_cast hle
      unfold maxBigint at hint
      have hpower : (10 : Nat) ^ precision = 100000000000000000000 := by decide
      omega
    have hself : PrismaDecimal.mul (decimal s) 1000000 = n := by
      rw [PrismaDecimal.mul, hn]
      exact significant_of (by decide) (representable_natCast hbound) (Nat.cast_nonneg n)
    have hmicros : aiuToMicros s = (n : Int) := by
      unfold aiuToMicros
      rw [hself]
      exact halfUp_intCast n
    rw [hmicros, hn]
    rw [hn] at hle
    exact ⟨rfl, Int.natCast_nonneg n, by exact_mod_cast hle⟩

/-! ## Ranges -/

theorem dateTimeText_ok {v : Value} {s : String} (h : dateTimeText v = some s) : (dateTimeSchema (.str s)).isSome = true := by
  unfold dateTimeText at h
  split at h
  · rename_i t
    obtain ⟨milliseconds, hread, rfl⟩ := Option.map_eq_some_iff.mp h
    rw [hread]
    rfl
  · cases h

theorem optionally_ok {α : Type} {schema : Value → Option α} {v : Option Value} {a : Option α}
    (h : optionally schema v = some a) : ∀ x ∈ a, ∃ w, schema w = some x := by
  cases v with
  | none =>
    cases h
    simp
  | some w =>
    obtain ⟨x, hx, rfl⟩ := Option.map_eq_some_iff.mp h
    intro y hy
    cases hy
    exact ⟨w, hx⟩

/-- The texts that the fields hold pass their patterns. -/
structure Readable (settings : QuotaSettings) : Prop where
  limit : aiuPattern settings.limit = true
  startsAt : ∀ s ∈ settings.startsAt, (dateTimeSchema (.str s)).isSome = true
  endsAt : ∀ s ∈ settings.endsAt, (dateTimeSchema (.str s)).isSome = true

theorem quotaFields_readable {field : String → Option Value} {settings : QuotaSettings}
    (h : quotaFields field = some settings) : Readable settings := by
  simp only [quotaFields, Option.bind_eq_bind, Option.bind_eq_some_iff, Option.some.injEq] at h
  obtain ⟨limit, hlimit, hardLimit, -, period, -, startsAt, hstartsAt, endsAt, hendsAt, rfl⟩ := h
  constructor
  · obtain ⟨v, -, hv⟩ := Option.bind_eq_some_iff.mp hlimit
    cases v <;> try cases hv
    obtain ⟨hpattern, hsame⟩ := Option.ite_none_right_eq_some.mp hv
    cases hsame
    exact hpattern
  · intro s hs
    obtain ⟨v, hv⟩ := optionally_ok hstartsAt s hs
    exact dateTimeText_ok hv
  · intro s hs
    obtain ⟨v, hv⟩ := optionally_ok hendsAt s hs
    exact dateTimeText_ok hv

/-- A fixed range is accepted when the text of its start is before that of its end. -/
theorem rangeIssue_fixed {settings : QuotaSettings} (hperiod : settings.period = .fixed) :
    rangeIssue settings = none ↔ ∃ startsAt endsAt, settings.startsAt = some startsAt ∧ settings.endsAt = some endsAt ∧
      Text.units startsAt < Text.units endsAt := by
  unfold rangeIssue
  rw [if_pos hperiod]
  cases hstart : settings.startsAt with
  | none => simp
  | some startsAt =>
    cases hend : settings.endsAt with
    | none => simp
    | some endsAt => simp

theorem window_fixed {settings : QuotaSettings} {startsAt endsAt : String} (hperiod : settings.period = .fixed)
    (hstart : settings.startsAt = some startsAt) (hend : settings.endsAt = some endsAt) {start end_ : Timestamp} :
    settings.window = some (start, end_) ↔
      dateTimeSchema (.str startsAt) = some start ∧ dateTimeSchema (.str endsAt) = some end_ := by
  simp only [QuotaSettings.window, if_pos hperiod, hstart, hend, Option.bind_eq_bind, Option.bind_eq_some_iff,
    Option.some.injEq, exists_eq_left', Prod.mk.injEq]
  constructor
  · rintro ⟨a, ha, b, hb, rfl, rfl⟩
    exact ⟨ha, hb⟩
  · rintro ⟨ha, hb⟩
    exact ⟨start, ha, end_, hb, rfl, rfl⟩

/-! ## The inputs that are treated by value -/

theorem settings_decide_iff {settings : QuotaSettings} (h : Readable settings) :
    ValidatedByValue (some settings) ((some settings).filter fun settings => (rangeIssue settings).isNone) ↔
      SettingsDecide settings := by
  have haccepted : ∀ other, (some settings).filter (fun settings => (rangeIssue settings).isNone) = some other ↔
      rangeIssue settings = none ∧ settings = other := by
    intro other
    rw [Option.filter_eq_some_iff, Option.isNone_iff_eq_none]
    constructor
    · rintro ⟨hsame, hissue⟩
      cases hsame
      exact ⟨hissue, rfl⟩
    · rintro ⟨hissue, rfl⟩
      exact ⟨rfl, hissue⟩
  constructor
  · rintro ⟨hstored, hcomplete⟩
    constructor
    · intro hissue
      have hvalue := hstored settings ((haccepted settings).mpr ⟨hissue, rfl⟩)
      exact (aiuToMicros_iff h.limit).mp ⟨hvalue.exact, hvalue.fits⟩
    · rintro startsAt endsAt ⟨hperiod, hstart, hend⟩
      constructor
      · intro htexts start end_ hreadStart hreadEnd
        have hissue := (rangeIssue_fixed hperiod).mpr ⟨startsAt, endsAt, hstart, hend, htexts⟩
        obtain ⟨s, e, hwindow, hlt⟩ := (hstored settings ((haccepted settings).mpr ⟨hissue, rfl⟩)).range hperiod
        obtain ⟨hs, he⟩ := (window_fixed hperiod hstart hend).mp hwindow
        cases hreadStart.symm.trans hs
        cases hreadEnd.symm.trans he
        exact hlt
      · intro start end_ hreadStart hreadEnd hlt
        have hinput := hcomplete settings rfl hperiod startsAt endsAt hstart hend start end_ hreadStart hreadEnd hlt
        have hissue := ((haccepted settings).mp hinput).1
        obtain ⟨s, e, hs, he, htexts⟩ := (rangeIssue_fixed hperiod).mp hissue
        cases hstart.symm.trans hs
        cases hend.symm.trans he
        exact htexts
  · rintro ⟨hlimit, hrange⟩
    constructor
    · rintro other hother
      obtain ⟨hissue, rfl⟩ := (haccepted other).mp hother
      obtain ⟨hexact, hfits⟩ := (aiuToMicros_iff h.limit).mpr (hlimit hissue)
      refine ⟨hexact, hfits, fun hperiod => ?_⟩
      obtain ⟨startsAt, endsAt, hstart, hend, htexts⟩ := (rangeIssue_fixed hperiod).mp hissue
      obtain ⟨start, hreadStart⟩ := Option.isSome_iff_exists.mp (h.startsAt startsAt hstart)
      obtain ⟨end_, hreadEnd⟩ := Option.isSome_iff_exists.mp (h.endsAt endsAt hend)
      exact ⟨start, end_, (window_fixed hperiod hstart hend).mpr ⟨hreadStart, hreadEnd⟩,
        (hrange startsAt endsAt ⟨hperiod, hstart, hend⟩).1 htexts start end_ hreadStart hreadEnd⟩
    · rintro other hother hperiod startsAt endsAt hstart hend start end_ hreadStart hreadEnd hlt
      cases hother
      have htexts := (hrange startsAt endsAt ⟨hperiod, hstart, hend⟩).2 start end_ hreadStart hreadEnd hlt
      exact (haccepted settings).mpr ⟨(rangeIssue_fixed hperiod).mpr ⟨startsAt, endsAt, hstart, hend, htexts⟩, rfl⟩

/-- A save of settings stored by value opens the window they name, with the limit they name. -/
theorem call_by_value {settings : QuotaSettings} (h : StoredByValue settings) (hperiod : settings.period = .fixed)
    (request : SaveCall) : ∃ start end_, settings.window = some (start, end_) ∧
      Quota.aiuQuotaPeriodWindow (settings.call request).periodType request.timezone request.now (settings.call request).fixed =
        .ok ⟨start, some end_⟩ ∧
      ((settings.call request).limitAiuMicros : ℚ) = decimal settings.limit * 1000000 := by
  obtain ⟨start, end_, hwindow, hlt⟩ := h.range hperiod
  refine ⟨start, end_, hwindow, ?_, ?_⟩
  · have hnot : ¬ start ≥ end_ := not_le.mpr hlt
    have htype : (settings.call request).periodType = .fixedWindow := congrArg userQuotaPeriodTypes hperiod
    have hfixed : (settings.call request).fixed = some (start, end_) := hwindow
    rw [htype, hfixed]
    exact if_neg hnot
  · have hlimit : ((settings.call request).limitAiuMicros : Int) = aiuToMicros settings.limit :=
      Int.toNat_of_nonneg h.fits.1
    rw [← h.exact, ← hlimit, Int.cast_natCast]

theorem settingsDecide_of_inOrder {settings : QuotaSettings} (hlimit : LimitFits settings) (hrange : RangeInOrder settings) :
    SettingsDecide settings := by
  refine ⟨hlimit, fun startsAt endsAt hfixed => ?_⟩
  obtain ⟨t, u, ht, hu, hcomparable, hinOrder⟩ := hrange startsAt endsAt hfixed
  exact (OffsetDateTime.textsOrderInstants_iff_inOrder ht hu hcomparable).mpr hinOrder

theorem notOutOfOrder_of_decide {settings : QuotaSettings} (h : SettingsDecide settings) : RangeNotOutOfOrder settings := by
  intro startsAt endsAt hfixed t u ht hu hcomparable
  exact (OffsetDateTime.textsOrderInstants_iff_inOrder ht hu hcomparable).mp (h.2 startsAt endsAt hfixed)

theorem userQuota_decide_iff (v : Value) : ValidatedByValue (userQuotaFields v) (saveUserQuotaSchema v) ↔
    ∀ settings, userQuotaFields v = some settings → SettingsDecide settings := by
  unfold saveUserQuotaSchema
  cases hfields : userQuotaFields v with
  | none => simp [ValidatedByValue]
  | some settings =>
    have hreadable : Readable settings := by
      obtain ⟨field, -, hfield⟩ := Option.bind_eq_some_iff.mp hfields
      exact quotaFields_readable hfield
    rw [settings_decide_iff hreadable]
    simp

theorem quotaPolicy_decide_iff (v : Value) :
    ValidatedByValue ((quotaPolicyFields v).map (·.toQuotaSettings)) ((saveQuotaPolicySchema v).map (·.toQuotaSettings)) ↔
      ∀ settings, quotaPolicyFields v = some settings → SettingsDecide settings.toQuotaSettings := by
  unfold saveQuotaPolicySchema
  cases hfields : quotaPolicyFields v with
  | none => simp [ValidatedByValue]
  | some settings =>
    have hreadable : Readable settings.toQuotaSettings := by
      simp only [quotaPolicyFields, Option.bind_eq_bind, Option.bind_eq_some_iff, Option.some.injEq] at hfields
      obtain ⟨field, -, shared, hshared, priority, -, reason, -, rfl⟩ := hfields
      exact quotaFields_readable hshared
    have hfilter : ((some settings).filter fun settings => (rangeIssue settings.toQuotaSettings).isNone).map
        (·.toQuotaSettings) = (some settings.toQuotaSettings).filter fun settings => (rangeIssue settings).isNone := by
      cases hissue : rangeIssue settings.toQuotaSettings <;> simp [Option.filter, hissue]
    rw [Option.map_some, hfilter, settings_decide_iff hreadable]
    simp

/-- Either schema treats an input by value when its limit fits and its range is in order, and only
    when the limit fits and no comparable range is out of order. -/
theorem quota_settings_by_value (v : Value) :
    ((∀ settings, userQuotaFields v = some settings → LimitFits settings ∧ RangeInOrder settings) →
        ValidatedByValue (userQuotaFields v) (saveUserQuotaSchema v)) ∧
      (ValidatedByValue (userQuotaFields v) (saveUserQuotaSchema v) →
        ∀ settings, userQuotaFields v = some settings → LimitFits settings ∧ RangeNotOutOfOrder settings) ∧
      ((∀ settings, quotaPolicyFields v = some settings →
          LimitFits settings.toQuotaSettings ∧ RangeInOrder settings.toQuotaSettings) →
        ValidatedByValue ((quotaPolicyFields v).map (·.toQuotaSettings))
          ((saveQuotaPolicySchema v).map (·.toQuotaSettings))) ∧
      (ValidatedByValue ((quotaPolicyFields v).map (·.toQuotaSettings))
          ((saveQuotaPolicySchema v).map (·.toQuotaSettings)) →
        ∀ settings, quotaPolicyFields v = some settings →
          LimitFits settings.toQuotaSettings ∧ RangeNotOutOfOrder settings.toQuotaSettings) := by
  rw [userQuota_decide_iff, quotaPolicy_decide_iff]
  refine ⟨fun h settings hfields => ?_, fun h settings hfields => ?_, fun h settings hfields => ?_, fun h settings hfields => ?_⟩
  · exact settingsDecide_of_inOrder (h settings hfields).1 (h settings hfields).2
  · exact ⟨(h settings hfields).1, notOutOfOrder_of_decide (h settings hfields)⟩
  · exact settingsDecide_of_inOrder (h settings hfields).1 (h settings hfields).2
  · exact ⟨(h settings hfields).1, notOutOfOrder_of_decide (h settings hfields)⟩

def fixedQuota (limit startsAt endsAt : String) : Value :=
  .obj [("limit", .str limit), ("period", .str "fixed"), ("starts_at", .str startsAt), ("ends_at", .str endsAt)]

/-- Nine in New York. -/
theorem newYear_text : ∃ t : OffsetDateTime, "2026-01-01T09:00:00-05:00".toList = t.text ∧
    t.second.isSome = true ∧ t.localSeconds = 63934477200 ∧ t.east = -300 :=
  ⟨⟨⟨2026, 1, 1, by decide, by decide, by decide, by decide⟩, 9, 0, some (0, []), "-05:00".toList, -300,
    by decide, by decide, by decide, by decide, decimals_digits (by decide +kernel), by decide +kernel⟩,
    by decide +kernel, rfl, by decide +kernel, rfl⟩

/-- Ten in Tokyo and a quarter of a second, two days later. -/
theorem twoDaysLater_text : ∃ u : OffsetDateTime, "2026-01-03T10:00:00.250+09:00".toList = u.text ∧
    u.second.isSome = true ∧ u.localSeconds = 63934653600 ∧ u.east = 540 :=
  ⟨⟨⟨2026, 1, 3, by decide, by decide, by decide, by decide⟩, 10, 0, some (0, "250".toList), "+09:00".toList, 540,
    by decide, by decide, by decide, by decide, decimals_digits (by decide +kernel), by decide +kernel⟩,
    by decide +kernel, rfl, by decide +kernel, rfl⟩

/-- A range across two offsets, nine in New York to ten two days later in Tokyo, and one of a
    millisecond. -/
theorem ranges_by_value :
    ((saveUserQuotaSchema (fixedQuota "12.5" "2026-01-01T09:00:00-05:00" "2026-01-03T10:00:00.250+09:00")).isSome = true ∧
        ValidatedByValue (userQuotaFields (fixedQuota "12.5" "2026-01-01T09:00:00-05:00" "2026-01-03T10:00:00.250+09:00"))
          (saveUserQuotaSchema (fixedQuota "12.5" "2026-01-01T09:00:00-05:00" "2026-01-03T10:00:00.250+09:00"))) ∧
      (saveUserQuotaSchema (fixedQuota "0" "2026-01-01T00:00:00.000Z" "2026-01-01T00:00:00.001Z")).isSome = true ∧
        ValidatedByValue (userQuotaFields (fixedQuota "0" "2026-01-01T00:00:00.000Z" "2026-01-01T00:00:00.001Z"))
          (saveUserQuotaSchema (fixedQuota "0" "2026-01-01T00:00:00.000Z" "2026-01-01T00:00:00.001Z")) := by
  refine ⟨⟨by decide +kernel, (quota_settings_by_value _).1 fun settings hfields => ?_⟩,
    by decide +kernel, (quota_settings_by_value _).1 fun settings hfields => ?_⟩
  · have hread : userQuotaFields (fixedQuota "12.5" "2026-01-01T09:00:00-05:00" "2026-01-03T10:00:00.250+09:00") =
        some ⟨"12.5", false, .fixed, some "2026-01-01T09:00:00-05:00", some "2026-01-03T10:00:00.250+09:00"⟩ := by
      decide +kernel
    cases hread.symm.trans hfields
    refine ⟨fun _ => by decide +kernel, ?_⟩
    rintro _ _ ⟨-, ⟨⟩, ⟨⟩⟩
    obtain ⟨t, ht, htwritten, htseconds, hteast⟩ := newYear_text
    obtain ⟨u, hu, huwritten, huseconds, hueast⟩ := twoDaysLater_text
    have hahead : t.ahead u = 176400 := by
      unfold OffsetDateTime.ahead
      omega
    have heastward : t.eastward u = 50400 := by
      unfold OffsetDateTime.eastward
      omega
    exact ⟨t, u, ht, hu, .inl ⟨.inl (htwritten.trans huwritten.symm), by omega⟩, fun _ => .inl (by omega),
      fun hsame => absurd hsame (by omega), fun hearlier => absurd hearlier (by omega)⟩
  · have hread : userQuotaFields (fixedQuota "0" "2026-01-01T00:00:00.000Z" "2026-01-01T00:00:00.001Z") =
        some ⟨"0", false, .fixed, some "2026-01-01T00:00:00.000Z", some "2026-01-01T00:00:00.001Z"⟩ := by
      decide +kernel
    cases hread.symm.trans hfields
    refine ⟨fun _ => by decide +kernel, ?_⟩
    rintro _ _ ⟨-, ⟨⟩, ⟨⟩⟩
    exact ⟨⟨⟨2026, 1, 1, by decide, by decide, by decide, by decide⟩, 0, 0, some (0, "000".toList), ['Z'], 0,
        by decide, by decide, by decide, by decide, decimals_digits (by decide +kernel), by decide⟩,
      ⟨⟨2026, 1, 1, by decide, by decide, by decide, by decide⟩, 0, 0, some (0, "001".toList), ['Z'], 0,
        by decide, by decide, by decide, by decide, decimals_digits (by decide +kernel), by decide⟩,
      by decide +kernel, by decide +kernel, OffsetDateTime.inOrder_of_offset rfl (by decide +kernel) (by decide +kernel)⟩

/-- A limit beyond the column is accepted, a range in order is rejected, and one that ends four
    hours before it starts is accepted. -/
theorem settings_not_by_value :
    (∃ settings, saveUserQuotaSchema (.obj [("limit", .str "9223372036854.775808")]) = some settings ∧
        maxBigint < aiuToMicros settings.limit) ∧
      (∃ settings, userQuotaFields (fixedQuota "1" "2026-01-01T00:00:00Z" "2026-01-01T00:00:00.5Z") = some settings ∧
        settings.window = some (1767225600000, 1767225600500) ∧
        saveUserQuotaSchema (fixedQuota "1" "2026-01-01T00:00:00Z" "2026-01-01T00:00:00.5Z") = none) ∧
      ∃ settings, saveUserQuotaSchema (fixedQuota "1" "2026-01-01T09:00:00-05:00" "2026-01-01T10:00:00+00:00") = some settings ∧
        settings.window = some (1767276000000, 1767261600000) := by
  refine ⟨⟨⟨"9223372036854.775808", false, .lifetime, none, none⟩, ?_, ?_⟩,
    ⟨⟨"1", false, .fixed, some "2026-01-01T00:00:00Z", some "2026-01-01T00:00:00.5Z"⟩, ?_, ?_, ?_⟩,
    ⟨⟨"1", false, .fixed, some "2026-01-01T09:00:00-05:00", some "2026-01-01T10:00:00+00:00"⟩, ?_, ?_⟩⟩ <;>
    decide +kernel

end TokenPilot.Management
