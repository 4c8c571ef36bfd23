/-
  TokenPilot.Quota.PeriodAgreement — whether the writers of a quota's period agree.

  Five writers set `periodStart` and `periodEnd`: the administrator's save and reset, the
  bulk reset of a group, the rollover of a reservation and the materialization of a
  policy. Materialization takes any difference between the row and the policy for a
  change, and a difference of the period for a new one that starts from zero.

  A `PeriodWriter` is one of the five with its arguments; after it `performs`, the row
  may move its counters and nothing else (`OnlyCounters`). `writers_agree_iff` says for
  each writer exactly when a later materialization under the same policy and in the same
  window leaves the row alone. The group reset does so only when it runs at the very
  start of a window that is as long as its UTC arithmetic says.
-/

import TokenPilot.Quota.GroupReset

namespace TokenPilot.Quota

open TokenPilot.Library

inductive PeriodWriter where
  | save (call : SaveCall)
  | reset (call : ResetCall)
  /-- For one member of the group that was reset. -/
  | groupReset (call : GroupResetCall) (member : GroupMember) (timezone : Timezone)
  | rollover (quota : UserAiuQuota) (timezone : Timezone) (clock : CreateClock) (entry : Stamp)
  | materialize (call : MaterializeCall)

namespace PeriodWriter

def applicationId : PeriodWriter → Uuid
  | .save call => call.applicationId
  | .reset call => call.applicationId
  | .groupReset call _ _ => call.applicationId
  | .rollover quota _ _ _ => quota.applicationId
  | .materialize call => call.applicationId

def userId : PeriodWriter → Uuid
  | .save call => call.userId
  | .reset call => call.userId
  | .groupReset _ member _ => member.userId
  | .rollover quota _ _ _ => quota.userId
  | .materialize call => call.userId

/-- The timezone of the application. -/
def timezone : PeriodWriter → Timezone
  | .save call => call.timezone
  | .reset call => call.timezone
  | .groupReset _ _ timezone => timezone
  | .rollover _ timezone _ _ => timezone
  | .materialize call => call.timezone

/-- The instant the writer takes the period from. -/
def now : PeriodWriter → Timestamp
  | .save call => call.now
  | .reset call => call.start
  | .groupReset call _ _ => call.now
  | .rollover _ _ clock _ => clock.start
  | .materialize call => call.now

/-- The quota of the writer's user. -/
def quotaIn (w : PeriodWriter) (s : QuotaStore) : Option UserAiuQuota := s.quotaOf w.applicationId w.userId

/-- The writer went through from `s` to `s'`; a rollover, because the period had ended. -/
def performs (s s' : QuotaStore) : PeriodWriter → Prop
  | .save call => Quota.save s call = .ok ((), s')
  | .reset call => Quota.reset s call = .ok ((), s')
  | .groupReset call member _ => ∃ outcome, resetQuotas s call = .ok (outcome, s') ∧ member ∈ call.members ∧
      member.userId ∉ outcome.failedUserIds ∧ (call.members.map (·.userId)).Nodup ∧
      ∀ m ∈ call.members, Reads s call m
  | .rollover quota timezone clock entry => quota ∈ s.quotas.rows ∧
      (∃ e, quota.periodEnd = some e ∧ e ≤ clock.due) ∧
      ∃ quota', rolloverReservationQuota s quota quota.userId quota.applicationId timezone clock entry = .ok (quota', s')
  | .materialize call => ∃ quota, materializeEffectiveAiuQuotaPolicy s call.input call.ids = .ok (quota, s')

end PeriodWriter

/-- The row is what the policy says, apart from its period. -/
def InForce (q : UserAiuQuota) (policy : AiuQuotaPolicy) : Prop :=
  q.policyId = some policy.id ∧ q.limitAiuMicros = policy.limitAiuMicros ∧ q.hardLimit = policy.hardLimit ∧
    q.enabled = true ∧ q.periodType = policy.periodType

/-- When the row a writer leaves is what the policy says for the window. -/
def PeriodWriter.agreesWhen (w : PeriodWriter) (s : QuotaStore) (policy : AiuQuotaPolicy)
    (window : QuotaPeriodWindowValue) : Prop :=
  match w with
  | .save _ => ∀ q, w.quotaIn s = some q → q.enabled = true
  | .reset _ => ∀ q, w.quotaIn s = some q → InForce q policy ∧
      (q.periodType = .fixedWindow → q.periodStart = window.start ∧ q.periodEnd = window.end_)
  | .groupReset call member _ => ∀ q read, w.quotaIn s = some q → member.quota = some read → InForce q policy ∧
      call.now = window.start ∧ groupPeriodEnd read.periodType call.now = window.end_
  | .rollover quota _ _ _ => InForce quota policy
  | .materialize _ => True

/-! ## The row and the policy -/

theorem periodChanged_eq_false {q : UserAiuQuota} {policy : AiuQuotaPolicy} {window : QuotaPeriodWindowValue}
    (hperiod : policy.periodType ≠ .lifetime) :
    periodChanged q policy window = false ↔
      q.periodType = policy.periodType ∧ q.periodStart = window.start ∧ q.periodEnd = window.end_ := by
  simp [periodChanged, hperiod]

theorem policyUnchanged_iff {q : UserAiuQuota} {policy : AiuQuotaPolicy} {window : QuotaPeriodWindowValue}
    (hperiod : policy.periodType ≠ .lifetime) :
    policyUnchanged q policy window = true ↔
      InForce q policy ∧ q.periodStart = window.start ∧ q.periodEnd = window.end_ := by
  unfold policyUnchanged InForce
  simp only [Bool.and_eq_true, beq_iff_eq, Bool.not_eq_true', periodChanged_eq_false hperiod]
  constructor
  · rintro ⟨⟨⟨⟨hid, hlimit⟩, hhard⟩, henabled⟩, htype, hstart, hend⟩
    exact ⟨⟨hid, hlimit, hhard, henabled, htype⟩, hstart, hend⟩
  · rintro ⟨⟨hid, hlimit, hhard, henabled, htype⟩, hstart, hend⟩
    exact ⟨⟨⟨⟨hid, hlimit⟩, hhard⟩, henabled⟩, htype, hstart, hend⟩

/-- A policy other than for a fixed window takes its period from the calendar. -/
theorem policyWindow_calendar {timezone : Timezone} {now : Timestamp} {policy : AiuQuotaPolicy}
    {window : QuotaPeriodWindowValue} (hfixed : policy.periodType ≠ .fixedWindow)
    (h : policyWindow timezone now policy = .ok window) (fixed : Option (Timestamp × Timestamp)) :
    aiuQuotaPeriodWindow policy.periodType timezone now fixed = .ok window := by
  unfold policyWindow at h
  rw [if_neg hfixed] at h
  rw [← h]
  cases hp : policy.periodType with
  | fixedWindow => exact absurd hp hfixed
  | _ => rfl

theorem fixedWindow_range {timezone : Timezone} {now : Timestamp} {fixed : Option (Timestamp × Timestamp)}
    {window : QuotaPeriodWindowValue} (h : aiuQuotaPeriodWindow .fixedWindow timezone now fixed = .ok window) :
    ∃ e, fixed = some (window.start, e) ∧ window.end_ = some e := by
  unfold aiuQuotaPeriodWindow at h
  cases fixed with
  | none => cases h
  | some range =>
    obtain ⟨start, e⟩ := range
    dsimp only at h
    split at h
    · cases h
    · cases h
      exact ⟨e, rfl, rfl⟩

section Resolve

variable {s s' : QuotaStore} {a u : Uuid} {policy : AiuQuotaPolicy}

theorem resolve_congr (hp : s'.policies = s.policies) (hg : s'.groups = s.groups) :
    resolveEffectiveAiuQuotaPolicy s' a u = resolveEffectiveAiuQuotaPolicy s a u := by
  unfold resolveEffectiveAiuQuotaPolicy effectiveCandidates groupApplies
  rw [hp, hg]

/-- The user's own policy is the effective one. -/
theorem resolve_user (hp : policy ∈ s.policies.rows) (ha : policy.applicationId = a) (henabled : policy.enabled = true)
    (hscope : policy.scope = .user) (hu : policy.userId = some u) :
    resolveEffectiveAiuQuotaPolicy s a u = some policy := by
  have hcandidate : policy ∈ effectiveCandidates s a u := by
    unfold effectiveCandidates
    rw [List.mem_insertionSort, List.mem_filter]
    exact ⟨hp, by simp [ha, henabled, hscope, hu]⟩
  unfold resolveEffectiveAiuQuotaPolicy
  dsimp only
  cases hfind : (effectiveCandidates s a u).find? fun p => p.scope == .user with
  | none => exact absurd hscope (by simpa using List.find?_eq_none.mp hfind policy hcandidate)
  | some direct =>
    -- the user has one policy
    have hdscope : direct.scope = .user := by simpa using List.find?_some hfind
    have hdirect := List.mem_of_find?_eq_some hfind
    unfold effectiveCandidates at hdirect
    rw [List.mem_insertionSort, List.mem_filter] at hdirect
    obtain ⟨hd, hdp⟩ := hdirect
    simp only [hdscope, Bool.and_eq_true, beq_iff_eq, Bool.or_eq_true, reduceCtorEq, or_false] at hdp
    have hsame : direct = policy := s.policies.eq_of_clash hd hp (by
      simp [Row.clash, ha, hu, hdp.1.1, hdp.2])
    rw [hsame]

end Resolve

/-! ## The row each writer leaves -/

section Writers

variable {s s' : QuotaStore} {policy : AiuQuotaPolicy} {window : QuotaPeriodWindowValue}

theorem quotaOf_insert {quotas : Table UserAiuQuota} {q : UserAiuQuota} (hrows : quotas.rows = s.quotas.rows ++ [q]) :
    QuotaStore.quotaOf { s with quotas } q.applicationId q.userId = some q := by
  refine QuotaStore.quotaOf_of (s := { s with quotas }) ?_
  show q ∈ quotas.rows
  rw [hrows]
  exact List.mem_append_right _ List.mem_cons_self

theorem quotaOf_update {quotas : Table UserAiuQuota} {q : UserAiuQuota} {data : UserAiuQuota → UserAiuQuota}
    (hq : q ∈ s.quotas.rows) (hrows : quotas.rows = replace q (q.written data) s.quotas.rows) :
    QuotaStore.quotaOf { s with quotas } q.applicationId q.userId = some (q.written data) := by
  have h := quotaOf_replace hq (by exact ⟨rfl, rfl⟩) hrows q.userId
  rwa [if_pos rfl] at h

theorem rolled_agrees {q : UserAiuQuota} {set : QuotaPeriodWindowValue} (hperiod : policy.periodType ≠ .lifetime) :
    policyUnchanged (q.written (rolledOver set)) policy window = true ↔
      InForce q policy ∧ set.start = window.start ∧ set.end_ = window.end_ := by
  rw [policyUnchanged_iff hperiod]
  rfl

theorem materialize_row {call : MaterializeCall} {a : Option UserAiuQuota}
    (hpolicy : resolveEffectiveAiuQuotaPolicy s' call.applicationId call.userId = some policy)
    (hperiod : policy.periodType ≠ .lifetime) (hwindow : policyWindow call.timezone call.now policy = .ok window)
    (h : materializeEffectiveAiuQuotaPolicy s call.input call.ids = .ok (a, s')) :
    ∃ q, s'.quotaOf call.applicationId call.userId = some q ∧ policyUnchanged q policy window = true := by
  have hwhich : resolveEffectiveAiuQuotaPolicy s call.applicationId call.userId = some policy := by
    obtain ⟨hp, hg⟩ := materialize_policies h
    rw [← resolve_congr hp hg]
    exact hpolicy
  unfold materializeEffectiveAiuQuotaPolicy at h
  dsimp only [MaterializeCall.input] at h
  rw [hwhich] at h
  obtain ⟨set, hset, h⟩ := bind_ok h
  rw [hwindow] at hset
  cases hset
  split at h
  · -- a new row
    unfold grantPolicy at h
    obtain ⟨s₁, h₁, h⟩ := bind_ok h
    obtain ⟨s₂, h₂, h⟩ := bind_ok h
    cases h
    obtain ⟨-, quotas, rfl, hq⟩ := QuotaStore.insertQuota_ok h₁
    obtain ⟨-, ledger, rfl, -⟩ := QuotaStore.insertLedgerEntry_ok h₂
    exact ⟨_, quotaOf_insert hq, (policyUnchanged_iff hperiod).mpr ⟨⟨rfl, rfl, rfl, rfl, rfl⟩, rfl, rfl⟩⟩
  · rename_i current hcurrent
    unfold applyPolicy at h
    dsimp only at h
    split at h
    · cases h
      exact ⟨current, hcurrent, ‹_›⟩
    obtain ⟨s₁, h₁, h⟩ := bind_ok h
    obtain ⟨⟨s₂, n⟩, h₂, h⟩ := bind_ok h
    obtain ⟨s₃, h₃, h⟩ := bind_ok h
    cases h
    obtain ⟨hmem, ha, hu⟩ := QuotaStore.quotaOf_mem hcurrent
    have hquotas : s₁.quotas = s.quotas := by
      unfold releaseOpen at h₁
      split at h₁
      · obtain ⟨⟨s₀, k⟩, h₀, h₁⟩ := bind_ok h₁
        cases h₁
        obtain ⟨reservations, rfl, -⟩ := QuotaStore.updateReservations_ok h₀
        rfl
      · cases h₁
        rfl
    have hmem₁ : current ∈ s₁.quotas.rows := by rw [hquotas]; exact hmem
    obtain ⟨-, quotas, rfl, hq⟩ := QuotaStore.updateQuota_ok h₂ hmem₁ (by simp) (Or.inr (by simp))
    obtain ⟨-, ledger, rfl, -⟩ := QuotaStore.insertLedgerEntry_ok h₃
    refine ⟨_, by rw [← ha, ← hu]; exact quotaOf_update hmem₁ hq, (policyUnchanged_iff hperiod).mpr ?_⟩
    refine ⟨⟨rfl, rfl, rfl, rfl, rfl⟩, ?_⟩
    -- the period is the window, set now or there before
    show (if periodChanged current policy window then window.start else current.periodStart) = window.start ∧
      (if periodChanged current policy window then window.end_ else current.periodEnd) = window.end_
    cases hchanged : periodChanged current policy window with
    | true => exact ⟨rfl, rfl⟩
    | false => exact ((periodChanged_eq_false hperiod).mp hchanged).2

theorem rollover_row {quota q' : UserAiuQuota} {timezone : Timezone} {clock : CreateClock} {entry : Stamp}
    (hmem : quota ∈ s.quotas.rows) (hdue : ∃ e, quota.periodEnd = some e ∧ e ≤ clock.due)
    (hperiod : policy.periodType ≠ .lifetime) (hwindow : policyWindow timezone clock.start policy = .ok window)
    (h : rolloverReservationQuota s quota quota.userId quota.applicationId timezone clock entry = .ok (q', s')) :
    ∃ q, s'.quotaOf quota.applicationId quota.userId = some q ∧
      (policyUnchanged q policy window = true ↔ InForce quota policy) := by
  obtain ⟨e, he, hle⟩ := hdue
  unfold rolloverReservationQuota at h
  rw [he] at h
  dsimp only at h
  rw [if_neg (Int.not_lt.mpr hle)] at h
  obtain ⟨set, hset, h⟩ := bind_ok h
  obtain ⟨-, -, h⟩ := bind_ok h
  obtain ⟨⟨s₁, n⟩, h₁, h⟩ := bind_ok h
  obtain ⟨_, hn, h⟩ := bind_ok h
  obtain ⟨⟨s₂, n₂⟩, h₂, h⟩ := bind_ok h
  obtain ⟨s₃, h₃, h⟩ := bind_ok h
  cases h
  obtain ⟨-, quotas, rfl, hq⟩ := QuotaStore.updateQuota_ok h₁ hmem
    (by simp only [Bool.and_eq_true, beq_iff_eq]; exact fun x hx => hx.1.1) (Or.inl (require_ok hn))
  obtain ⟨reservations, rfl, -⟩ := QuotaStore.updateReservations_ok h₂
  obtain ⟨-, ledger, rfl, -⟩ := QuotaStore.insertLedgerEntry_ok h₃
  refine ⟨_, quotaOf_update hmem hq, (rolled_agrees hperiod).trans ⟨And.left, fun hin => ⟨hin, ?_⟩⟩⟩
  -- a fixed window has no next one, so the policy's is the calendar's
  have htype := hin.2.2.2.2
  have hfixed : policy.periodType ≠ .fixedWindow := by
    intro hf
    rw [htype, hf] at hset
    cases hset
  rw [htype, policyWindow_calendar hfixed hwindow] at hset
  cases hset
  exact ⟨rfl, rfl⟩

theorem reset_row {call : ResetCall} (hperiod : policy.periodType ≠ .lifetime)
    (hwindow : policyWindow call.timezone call.start policy = .ok window) (h : reset s call = .ok ((), s')) :
    ∃ quota q, s.quotaOf call.applicationId call.userId = some quota ∧
      s'.quotaOf call.applicationId call.userId = some q ∧
      (policyUnchanged q policy window = true ↔ InForce quota policy ∧
        (quota.periodType = .fixedWindow → quota.periodStart = window.start ∧ quota.periodEnd = window.end_)) := by
  unfold reset at h
  obtain ⟨user, huser, h⟩ := bind_ok h
  have huid : user.id = call.userId := requireUser_id huser
  split at h
  · cases h
  rename_i quota hquota
  rw [huid] at hquota
  obtain ⟨set, hset, h⟩ := bind_ok h
  unfold resetTransaction at h
  obtain ⟨⟨s₁, n⟩, h₁, h⟩ := bind_ok h
  obtain ⟨⟨s₂, n₂⟩, h₂, h⟩ := bind_ok h
  obtain ⟨_, hn, h⟩ := bind_ok h
  obtain ⟨s₃, h₃, h⟩ := bind_ok h
  cases h
  obtain ⟨hmem, ha, hu⟩ := QuotaStore.quotaOf_mem hquota
  obtain ⟨reservations, rfl, -⟩ := QuotaStore.updateReservations_ok h₁
  obtain ⟨-, quotas, rfl, hq⟩ := QuotaStore.updateQuota_ok h₂ hmem
    (by simp only [Bool.and_eq_true, beq_iff_eq]; exact fun x hx => hx.1.1) (Or.inl (require_ok hn))
  obtain ⟨-, ledger, rfl, -⟩ := QuotaStore.insertLedgerEntry_ok h₃
  refine ⟨quota, _, hquota, by rw [← ha, ← hu]; exact quotaOf_update hmem hq, (rolled_agrees hperiod).trans ?_⟩
  refine and_congr_right fun hin => ?_
  have htype := hin.2.2.2.2
  by_cases hfixed : quota.periodType = .fixedWindow
  · -- the reset keeps the range of a fixed window
    rw [hfixed, if_pos rfl] at hset
    obtain ⟨e, hrange, hend⟩ := fixedWindow_range hset
    obtain ⟨e', he', hpair⟩ := Option.map_eq_some_iff.mp hrange
    rw [Prod.mk.injEq] at hpair
    rw [hend, ← hpair.1, ← hpair.2, ← he']
    exact ⟨fun h _ => h, fun h => h hfixed⟩
  · have hcalendar := policyWindow_calendar (by rw [← htype]; exact hfixed) hwindow none
    rw [← htype] at hcalendar
    rw [if_neg hfixed, hcalendar] at hset
    cases hset
    exact ⟨fun _ h => absurd h hfixed, fun _ => ⟨rfl, rfl⟩⟩

theorem groupReset_row {call : GroupResetCall} {member : GroupMember} {outcome : GroupResetOutcome}
    (hperiod : policy.periodType ≠ .lifetime) (h : resetQuotas s call = .ok (outcome, s'))
    (hmember : member ∈ call.members) (hdone : member.userId ∉ outcome.failedUserIds)
    (hnodup : (call.members.map (·.userId)).Nodup) (hreads : ∀ m ∈ call.members, Reads s call m) :
    ∃ read quota q, member.quota = some read ∧ s.quotaOf call.applicationId member.userId = some quota ∧
      s'.quotaOf call.applicationId member.userId = some q ∧
      (policyUnchanged q policy window = true ↔ InForce quota policy ∧ call.now = window.start ∧
        groupPeriodEnd read.periodType call.now = window.end_) := by
  obtain ⟨⟨⟨succeeded, failed⟩, s₁⟩, hrun, h⟩ := bind_ok h
  cases h
  obtain ⟨done, hfailed, hstep⟩ := (resetMembers_steps hnodup hreads hrun).2 member hmember
  have htrue : done ≠ false := fun hfalse => hdone (hfailed.mpr hfalse)
  generalize hafter : s'.recordsOf call.applicationId member.userId = after at hstep
  cases hstep with
  | absent => exact absurd rfl htrue
  | changed => exact absurd rfl htrue
  | @reset read quota hread hquota hlock hends =>
    refine ⟨read, quota, _, hread, hquota, congrArg UserRecords.quota hafter, ?_⟩
    rw [policyUnchanged_iff hperiod]
    rfl

/-- Only the policy of a user names one. -/
theorem policy_of_user {p : AiuQuotaPolicy} {u : Uuid} (h : Row.refused p = none) (hu : p.userId = some u) :
    p.scope = .user := by
  cases hscope : p.scope with
  | user => rfl
  | application =>
    simp only [Row.refused, hscope, hu] at h
    grind
  | userGroup =>
    simp only [Row.refused, hscope, hu] at h
    grind

/-- A save leaves the user's own policy, with the settings of the call. -/
theorem upsertUserPolicy_saved {call : SaveCall} {set : QuotaPeriodWindowValue} {policyId : Uuid}
    (h : upsertUserPolicy s call set = .ok (policyId, s')) :
    ∃ p : AiuQuotaPolicy, savedPolicy call set p ∈ s'.policies.rows ∧ p.id = policyId ∧
      p.applicationId = call.applicationId ∧ p.scope = .user ∧ p.userId = some call.userId := by
  unfold upsertUserPolicy at h
  split at h
  · rename_i p hp
    obtain ⟨⟨policies, n⟩, hu, h⟩ := bind_ok h
    cases h
    obtain ⟨hmem, hkey⟩ := Table.find?_mem hp
    simp only [Bool.and_eq_true, beq_iff_eq] at hkey
    obtain ⟨-, hrows, -⟩ := Table.updateMany_ok (statement_ok hu)
    refine ⟨p, ?_, rfl, hkey.1, ?_, hkey.2⟩
    · show savedPolicy call set p ∈ policies.rows
      rw [hrows]
      exact List.mem_map.mpr ⟨p, hmem, if_pos (by simp)⟩
    · exact policy_of_user (s.policies.checked p hmem) hkey.2
  · obtain ⟨policies, hi, h⟩ := bind_ok h
    cases h
    obtain ⟨-, -, hrows⟩ := Table.insert_ok (statement_ok hi)
    have hlast : ∀ {l l' : List AiuQuotaPolicy} {x : AiuQuotaPolicy}, l' = l ++ [x] → x ∈ l' := by
      intro l l' x hl
      rw [hl]
      exact List.mem_append_right _ List.mem_cons_self
    exact ⟨_, hlast hrows, rfl, rfl, rfl, rfl⟩

/-- The window of a saved policy is the one it was saved with. -/
theorem savedPolicy_window {call : SaveCall} {set : QuotaPeriodWindowValue} {p : AiuQuotaPolicy}
    (hset : aiuQuotaPeriodWindow call.periodType call.timezone call.now call.fixed = .ok set)
    (hwindow : policyWindow call.timezone call.now (savedPolicy call set p) = .ok window) : set = window := by
  by_cases hfixed : call.periodType = .fixedWindow
  · simp only [policyWindow, savedPolicy, hfixed, if_pos] at hwindow
    cases hwindow
    rfl
  · have hcalendar := policyWindow_calendar hfixed hwindow call.fixed
    rw [show (savedPolicy call set p).periodType = call.periodType from rfl, hset] at hcalendar
    cases hcalendar
    rfl

theorem save_row {call : SaveCall}
    (hpolicy : resolveEffectiveAiuQuotaPolicy s' call.applicationId call.userId = some policy)
    (hperiod : policy.periodType ≠ .lifetime) (hwindow : policyWindow call.timezone call.now policy = .ok window)
    (h : save s call = .ok ((), s')) :
    ∃ q, s'.quotaOf call.applicationId call.userId = some q ∧ (policyUnchanged q policy window = true ↔
      ∀ quota, s.quotaOf call.applicationId call.userId = some quota → quota.enabled = true) := by
  unfold save at h
  obtain ⟨user, huser, h⟩ := bind_ok h
  obtain ⟨set, hset, h⟩ := bind_ok h
  obtain ⟨⟨policyId, s₁⟩, h₁, h⟩ := bind_ok h
  obtain ⟨⟨saved, s₂⟩, h₂, h⟩ := bind_ok h
  obtain ⟨s₃, h₃, h⟩ := bind_ok h
  cases h
  obtain ⟨p, hp, hid, hpa, hscope, hpu⟩ := upsertUserPolicy_saved h₁
  obtain ⟨policies, rfl⟩ := upsertUserPolicy_ok h₁
  -- the effective policy is the one that was saved
  have hsaved : policies = s'.policies → policy = savedPolicy call set p := by
    intro hsame
    have hresolve : resolveEffectiveAiuQuotaPolicy s' call.applicationId call.userId = some (savedPolicy call set p) :=
      resolve_user (by rw [← hsame]; exact hp) hpa rfl hscope hpu
    rw [hpolicy] at hresolve
    injection hresolve
  unfold upsertUserQuota at h₂
  split at h₂
  · rename_i quota hquota
    obtain ⟨hmem, ha, hu⟩ := QuotaStore.quotaOf_mem hquota
    obtain ⟨⟨s₄, n⟩, h₄, h₂⟩ := bind_ok h₂
    cases h₂
    obtain ⟨-, quotas, rfl, hq⟩ := QuotaStore.updateQuota_ok h₄ hmem (by simp) (Or.inr (by simp))
    obtain ⟨-, ledger, rfl, -⟩ := QuotaStore.insertLedgerEntry_ok h₃
    have hthis := hsaved rfl
    subst hthis
    have hsame := savedPolicy_window hset hwindow
    subst hsame
    refine ⟨_, by rw [← ha, ← hu]; exact quotaOf_update hmem hq, ?_⟩
    have hbefore : s.quotaOf call.applicationId call.userId = some quota := hquota
    rw [policyUnchanged_iff hperiod, hbefore]
    constructor
    · rintro ⟨⟨-, -, -, henabled, -⟩, -⟩ x hx
      cases hx
      exact henabled
    · intro henabled
      exact ⟨⟨congrArg some hid.symm, rfl, rfl, henabled quota rfl, rfl⟩, rfl, rfl⟩
  · rename_i hquota
    obtain ⟨s₄, h₄, h₂⟩ := bind_ok h₂
    cases h₂
    obtain ⟨-, quotas, rfl, hq⟩ := QuotaStore.insertQuota_ok h₄
    obtain ⟨-, ledger, rfl, -⟩ := QuotaStore.insertLedgerEntry_ok h₃
    have hthis := hsaved rfl
    subst hthis
    have hsame := savedPolicy_window hset hwindow
    subst hsame
    refine ⟨_, quotaOf_insert hq, ?_⟩
    have hbefore : s.quotaOf call.applicationId call.userId = none := hquota
    rw [policyUnchanged_iff hperiod, hbefore]
    constructor
    · intro _ x hx
      cases hx
    · intro _
      exact ⟨⟨congrArg some hid.symm, rfl, rfl, rfl, rfl⟩, rfl, rfl⟩

/-- The row every writer leaves, against the policy and its window. -/
theorem PeriodWriter.row (w : PeriodWriter) (h : w.performs s s')
    (hpolicy : resolveEffectiveAiuQuotaPolicy s' w.applicationId w.userId = some policy)
    (hperiod : policy.periodType ≠ .lifetime) (hwindow : policyWindow w.timezone w.now policy = .ok window) :
    ∃ q, w.quotaIn s' = some q ∧ (policyUnchanged q policy window = true ↔ w.agreesWhen s policy window) := by
  cases w with
  | save call => exact save_row hpolicy hperiod hwindow h
  | reset call =>
    obtain ⟨quota, q, hquota, hq, hiff⟩ := reset_row hperiod hwindow h
    refine ⟨q, hq, hiff.trans ⟨?_, fun hall => hall quota hquota⟩⟩
    intro hcond x hx
    rw [show s.quotaOf call.applicationId call.userId = some x from hx] at hquota
    cases hquota
    exact hcond
  | groupReset call member timezone =>
    obtain ⟨outcome, hreset, hmember, hdone, hnodup, hreads⟩ := h
    obtain ⟨read, quota, q, hread, hquota, hq, hiff⟩ := groupReset_row hperiod hreset hmember hdone hnodup hreads
    refine ⟨q, hq, hiff.trans ⟨?_, fun hall => hall quota read hquota hread⟩⟩
    intro hcond x y hx hy
    rw [show s.quotaOf call.applicationId member.userId = some x from hx] at hquota
    rw [hy] at hread
    cases hquota
    cases hread
    exact hcond
  | rollover quota timezone clock entry =>
    obtain ⟨hmem, hdue, quota', hroll⟩ := h
    exact rollover_row hmem hdue hperiod hwindow hroll
  | materialize call =>
    obtain ⟨quota, hmaterialize⟩ := h
    obtain ⟨q, hq, hsame⟩ := materialize_row hpolicy hperiod hwindow hmaterialize
    exact ⟨q, hq, iff_of_true hsame trivial⟩

end Writers

/-! ## A later materialization -/

/-- Between the stores the effective policy stayed, and of the row only the counters (with
    the lock version) moved. -/
structure OnlyCounters (s s' : QuotaStore) (applicationId userId : Uuid) : Prop where
  policy : resolveEffectiveAiuQuotaPolicy s' applicationId userId = resolveEffectiveAiuQuotaPolicy s applicationId userId
  quota : ∀ q, s.quotaOf applicationId userId = some q → ∃ consumed reserved lockVersion,
    s'.quotaOf applicationId userId = some { q with
      consumedAiuMicros := consumed
      reservedAiuMicros := reserved
      lockVersion := lockVersion }

theorem materialize_unchanged_iff {s : QuotaStore} {input : MaterializeInput} :
    (∀ ids, ∃ a, materializeEffectiveAiuQuotaPolicy s input ids = .ok (a, s)) ↔ PolicyIdle s input := by
  constructor
  · intro h
    obtain ⟨a, ha⟩ := h ⟨0, 0, ⟨0, 0⟩⟩
    rcases materialize_entry ha with ⟨hidle, -⟩ | ⟨e, -, hrows⟩
    · exact hidle
    · have hlength := congrArg List.length hrows
      simp at hlength
  · intro hidle ids
    exact materialize_idle ids hidle

/-- After any of the writers, a materialization in the same window of the same policy
    changes nothing exactly when the writer's row is what the policy says. -/
theorem writers_agree_iff (w : PeriodWriter) {s s₁ s₂ : QuotaStore} (hw : w.performs s s₁) {policy : AiuQuotaPolicy}
    (hpolicy : resolveEffectiveAiuQuotaPolicy s₁ w.applicationId w.userId = some policy)
    (hperiod : policy.periodType ≠ .lifetime) {window : QuotaPeriodWindowValue} {later : Timestamp}
    (hnow : policyWindow w.timezone w.now policy = .ok window)
    (hlater : policyWindow w.timezone later policy = .ok window)
    (hbetween : OnlyCounters s₁ s₂ w.applicationId w.userId) (reason : String) :
    (∀ ids, ∃ quota, materializeEffectiveAiuQuotaPolicy s₂
      ⟨w.applicationId, w.userId, policyWindow w.timezone later, reason⟩ ids = .ok (quota, s₂)) ↔
      w.agreesWhen s policy window := by
  obtain ⟨q, hq, hiff⟩ := w.row hw hpolicy hperiod hnow
  obtain ⟨consumed, reserved, lockVersion, hq₂⟩ := hbetween.quota q hq
  have hpolicy₂ : resolveEffectiveAiuQuotaPolicy s₂ w.applicationId w.userId = some policy :=
    hbetween.policy.trans hpolicy
  rw [materialize_unchanged_iff, ← hiff]
  unfold PolicyIdle
  dsimp only
  rw [hpolicy₂, hq₂]
  dsimp only
  constructor
  · rintro ⟨set, hset, hsame⟩
    rw [hlater] at hset
    cases hset
    exact hsame
  · intro hsame
    exact ⟨window, hlater, hsame⟩

theorem OnlyCounters.refl (s : QuotaStore) (applicationId userId : Uuid) : OnlyCounters s s applicationId userId :=
  ⟨rfl, fun q hq => ⟨q.consumedAiuMicros, q.reservedAiuMicros, q.lockVersion, hq⟩⟩

namespace Sample

/-- The user's own policy, as `saveDaily 10` leaves it. -/
def dailyPolicy : AiuQuotaPolicy :=
  ⟨3, 0, .user, some 1, none, 10, true, .calendarDay, none, none, 0, true, 0⟩

def today : QuotaPeriodWindowValue := ⟨0, some 86400000⟩

def consume (event : String) (amount : Nat) (now : Timestamp) : Op :=
  .applyUserAiu ⟨0, 1, none, event, some amount, ⟨800, now⟩⟩

def materializeAt (now : Timestamp) : Op := .materialize ⟨0, 1, utc, now, "AIU quota policy applied", ⟨2, 900, ⟨900, now⟩⟩⟩

end Sample

open Sample in
/-- A quota saved at midnight is left alone for the rest of the day. -/
theorem saved_quota_stays_in_the_day :
    let s := (system service).run .empty [known, saveDaily 10]
    (PeriodWriter.save (dailyCall 10)).agreesWhen ((system service).run .empty [known]) dailyPolicy today ∧
      ∀ ids, ∃ quota, materializeEffectiveAiuQuotaPolicy s ⟨0, 1, policyWindow utc 5000, "check"⟩ ids =
        .ok (quota, s) := by
  intro s
  have hagrees : (PeriodWriter.save (dailyCall 10)).agreesWhen ((system service).run .empty [known]) dailyPolicy today := by
    intro q hq
    cases hq
  exact ⟨hagrees, (writers_agree_iff (PeriodWriter.save (dailyCall 10)) (s := (system service).run .empty [known])
    rfl (by decide +kernel) (by decide) (by decide +kernel) (by decide +kernel) (OnlyCounters.refl _ _ _) "check").mpr
    hagrees⟩

open Sample in
/-- The group is reset at two seconds past midnight and the user consumes 4; the next
    materialization, on the same day and under the same policy, starts the quota from zero. -/
theorem group_reset_starts_another_period :
    let s := (userSystem service).run .empty granted
    let used := (userSystem service).run s [.groupReset (groupCall s), .quota (consume unreservedEvent 4 3000)]
    let later := (userSystem service).run used [.quota (materializeAt 5000)]
    resolveEffectiveAiuQuotaPolicy s 0 1 = some dailyPolicy ∧
      resolveEffectiveAiuQuotaPolicy used 0 1 = some dailyPolicy ∧
      policyWindow utc 2000 dailyPolicy = .ok today ∧ policyWindow utc 5000 dailyPolicy = .ok today ∧
      (used.quotaOf 0 1).map (·.consumedAiuMicros) = some 4 ∧
      (later.quotaOf 0 1).map (·.consumedAiuMicros) = some 0 := by
  decide +kernel

end TokenPilot.Quota
