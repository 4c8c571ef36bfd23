/-
  TokenPilot.Quota.Precedence — which policy is in force for a user, and what a
  materialization leaves.

  `resolve_effective`: the policy that is found is the foremost of the first scope that has
  one for the user: the user's own, then those of the groups whose latest evaluation is of
  the current definition and has the user in it, then the application's.
  `materialize_settled`: what a materialization leaves is idle, so a second one in the same
  windows writes nothing, whatever was consumed or reserved in between.
  `materialize_keeps`: as long as the period stays, the amounts and the reservations do.
-/

import TokenPilot.Quota.PeriodAgreement

namespace TokenPilot.Quota

open TokenPilot.Library

/-! ## The order of the policies -/

theorem PolicyOrder.refl (a : AiuQuotaPolicy) : PolicyOrder a a := .inr ⟨rfl, .inr ⟨rfl, Nat.le_refl _⟩⟩

theorem PolicyOrder.total (a b : AiuQuotaPolicy) : PolicyOrder a b ∨ PolicyOrder b a := by
  unfold PolicyOrder
  by_cases hpriority : a.priority = b.priority
  · by_cases hupdated : a.updatedAt = b.updatedAt
    · by_cases hid : a.id ≤ b.id
      · exact .inl (.inr ⟨hpriority, .inr ⟨hupdated, hid⟩⟩)
      · exact .inr (.inr ⟨hpriority.symm, .inr ⟨hupdated.symm, Nat.le_of_not_le hid⟩⟩)
    · rcases Int.lt_or_gt_of_ne hupdated with h | h
      · exact .inr (.inr ⟨hpriority.symm, .inl h⟩)
      · exact .inl (.inr ⟨hpriority, .inl h⟩)
  · rcases Int.lt_or_gt_of_ne hpriority with h | h
    · exact .inr (.inl h)
    · exact .inl (.inl h)

theorem lexicographic_trans {p q r : Int} {t u v : Int} {i j k : Nat} (h : q < p ∨ p = q ∧ (u < t ∨ t = u ∧ i ≤ j))
    (h' : r < q ∨ q = r ∧ (v < u ∨ u = v ∧ j ≤ k)) : r < p ∨ p = r ∧ (v < t ∨ t = v ∧ i ≤ k) := by
  omega

theorem PolicyOrder.trans {a b c : AiuQuotaPolicy} (h : PolicyOrder a b) (h' : PolicyOrder b c) : PolicyOrder a c :=
  lexicographic_trans h h'

/-! ## The effective policy -/

section Effective

variable (s : QuotaStore) (a u : Uuid)

/-- The evaluation that was made last; of several at one time the one stored first. -/
def LatestOf (group : ApplicationUserGroup) (evaluation : GroupEvaluation) : Prop :=
  latestEvaluation group = some evaluation

theorem LatestOf.latest {group : ApplicationUserGroup} {evaluation : GroupEvaluation} (h : LatestOf group evaluation) :
    evaluation ∈ group.evaluations ∧ ∀ other ∈ group.evaluations, other.evaluatedAt ≤ evaluation.evaluatedAt := by
  unfold LatestOf latestEvaluation at h
  obtain ⟨rest, hlist⟩ : ∃ rest, group.evaluations.insertionSort (fun a b => b.evaluatedAt ≤ a.evaluatedAt) =
      evaluation :: rest := by
    cases hsorted : group.evaluations.insertionSort fun a b => b.evaluatedAt ≤ a.evaluatedAt with
    | nil =>
      rw [hsorted] at h
      cases h
    | cons first rest =>
      rw [hsorted] at h
      cases h
      exact ⟨rest, rfl⟩
  have hmem : ∀ x, x ∈ group.evaluations ↔ x ∈ evaluation :: rest := by
    intro x
    rw [← hlist, List.mem_insertionSort]
  have htotal : Std.Total fun a b : GroupEvaluation => b.evaluatedAt ≤ a.evaluatedAt :=
    ⟨fun x y => (Int.le_total y.evaluatedAt x.evaluatedAt)⟩
  have htrans : IsTrans GroupEvaluation fun a b => b.evaluatedAt ≤ a.evaluatedAt :=
    ⟨fun x y z hxy hyz => Int.le_trans hyz hxy⟩
  have hsorted := List.pairwise_insertionSort (fun a b : GroupEvaluation => b.evaluatedAt ≤ a.evaluatedAt) group.evaluations
  rw [hlist, List.pairwise_cons] at hsorted
  refine ⟨(hmem _).mpr List.mem_cons_self, fun other hother => ?_⟩
  rcases List.mem_cons.mp ((hmem other).mp hother) with rfl | hrest
  · exact Int.le_refl _
  · exact hsorted.1 other hrest

/-- The latest evaluation of the policy's group is of its current definition and has the user. -/
def CurrentMember (policy : AiuQuotaPolicy) : Prop :=
  ∃ group evaluation,
    (s.groups.find? fun g => g.applicationId == policy.applicationId && some g.id == policy.userGroupId) = some group ∧
      LatestOf group evaluation ∧ evaluation.definitionVersion = group.definitionVersion ∧ u ∈ evaluation.members

/-- An enabled policy of the scope that is for the user. -/
def IsFor (scope : AiuQuotaPolicyScope) (policy : AiuQuotaPolicy) : Prop :=
  policy ∈ s.policies.rows ∧ policy.applicationId = a ∧ policy.enabled = true ∧ policy.scope = scope ∧
    match scope with
    | .user => policy.userId = some u
    | .userGroup => CurrentMember s u policy
    | .application => True

/-- Of those for the user the one of greatest priority, then updated last, then of least id. -/
def Foremost (scope : AiuQuotaPolicyScope) (policy : AiuQuotaPolicy) : Prop :=
  IsFor s a u scope policy ∧ ∀ other, IsFor s a u scope other → PolicyOrder policy other

/-- The policy in force, by the scopes in their order. -/
def Effective : Option AiuQuotaPolicy → Prop
  | some policy =>
    Foremost s a u .user policy ∨
      (∀ other, ¬IsFor s a u .user other) ∧
        (Foremost s a u .userGroup policy ∨
          (∀ other, ¬IsFor s a u .userGroup other) ∧ Foremost s a u .application policy)
  | none => ∀ scope other, ¬IsFor s a u scope other

variable {s a u}

theorem groupApplies_iff {policy : AiuQuotaPolicy} :
    groupApplies s u policy = true ↔ policy.scope = .userGroup ∧ CurrentMember s u policy := by
  unfold groupApplies CurrentMember LatestOf
  rw [Bool.and_eq_true, beq_iff_eq]
  refine and_congr_right fun _ => ?_
  split
  · rename_i hnone
    simp [hnone]
  · rename_i group hgroup
    rw [hgroup]
    split
    · rename_i hnone
      constructor
      · nofun
      · rintro ⟨_, evaluation, ⟨⟩, hlatest, -⟩
        rw [hnone] at hlatest
        cases hlatest
    · rename_i evaluation hlatest
      rw [Bool.and_eq_true, beq_iff_eq, List.contains_iff_mem]
      constructor
      · intro h
        exact ⟨group, evaluation, rfl, hlatest, h⟩
      · rintro ⟨_, other, ⟨⟩, hother, h⟩
        rw [hlatest] at hother
        cases hother
        exact h

theorem mem_candidates {policy : AiuQuotaPolicy} : policy ∈ effectiveCandidates s a u ↔
    policy ∈ s.policies.rows ∧ policy.applicationId = a ∧ policy.enabled = true ∧
      (policy.scope = .user → policy.userId = some u) := by
  unfold effectiveCandidates
  rw [List.mem_insertionSort, List.mem_filter]
  refine and_congr_right fun _ => ?_
  simp only [Bool.and_eq_true, beq_iff_eq, Bool.or_eq_true, and_assoc]
  refine and_congr_right fun _ => and_congr_right fun _ => ?_
  cases policy.scope <;> simp

theorem candidates_sorted : (effectiveCandidates s a u).Pairwise PolicyOrder := by
  have htotal : Std.Total PolicyOrder := ⟨PolicyOrder.total⟩
  have htrans : IsTrans AiuQuotaPolicy PolicyOrder := ⟨fun _ _ _ => PolicyOrder.trans⟩
  exact List.pairwise_insertionSort PolicyOrder _

/-- The first of the sorted candidates that passes a test is the foremost of those that do. -/
theorem find_foremost {test : AiuQuotaPolicy → Bool} {policy : AiuQuotaPolicy}
    (h : (effectiveCandidates s a u).find? test = some policy) :
    (policy ∈ effectiveCandidates s a u ∧ test policy = true) ∧
      ∀ other ∈ effectiveCandidates s a u, test other = true → PolicyOrder policy other := by
  obtain ⟨htest, before, after, hlist, hbefore⟩ := List.find?_eq_some_iff_append.mp h
  have hsorted := candidates_sorted (s := s) (a := a) (u := u)
  rw [hlist] at hsorted ⊢
  refine ⟨⟨by simp, htest⟩, fun other hother hpass => ?_⟩
  rcases List.mem_append.mp hother with hother | hother
  · have hfails := hbefore other hother
    rw [hpass] at hfails
    cases hfails
  · rcases List.mem_cons.mp hother with rfl | hother
    · exact PolicyOrder.refl _
    · exact (List.pairwise_cons.mp (List.pairwise_append.mp hsorted).2.1).1 other hother

theorem isFor_user {policy : AiuQuotaPolicy} :
    IsFor s a u .user policy ↔ policy ∈ effectiveCandidates s a u ∧ (policy.scope == .user) = true := by
  rw [mem_candidates, beq_iff_eq]
  constructor
  · rintro ⟨hmem, ha, henabled, hscope, hu⟩
    exact ⟨⟨hmem, ha, henabled, fun _ => hu⟩, hscope⟩
  · rintro ⟨⟨hmem, ha, henabled, hu⟩, hscope⟩
    exact ⟨hmem, ha, henabled, hscope, hu hscope⟩

theorem isFor_userGroup {policy : AiuQuotaPolicy} :
    IsFor s a u .userGroup policy ↔ policy ∈ effectiveCandidates s a u ∧ groupApplies s u policy = true := by
  rw [mem_candidates, groupApplies_iff]
  constructor
  · rintro ⟨hmem, ha, henabled, hscope, hmember⟩
    exact ⟨⟨hmem, ha, henabled, fun h => by rw [hscope] at h; cases h⟩, hscope, hmember⟩
  · rintro ⟨⟨hmem, ha, henabled, -⟩, hscope, hmember⟩
    exact ⟨hmem, ha, henabled, hscope, hmember⟩

theorem isFor_application {policy : AiuQuotaPolicy} :
    IsFor s a u .application policy ↔ policy ∈ effectiveCandidates s a u ∧ (policy.scope == .application) = true := by
  rw [mem_candidates, beq_iff_eq]
  constructor
  · rintro ⟨hmem, ha, henabled, hscope, -⟩
    exact ⟨⟨hmem, ha, henabled, fun h => by rw [hscope] at h; cases h⟩, hscope⟩
  · rintro ⟨⟨hmem, ha, henabled, -⟩, hscope⟩
    exact ⟨hmem, ha, henabled, hscope, trivial⟩

section Scope

variable {scope : AiuQuotaPolicyScope} {test : AiuQuotaPolicy → Bool}
  (hscope : ∀ policy, IsFor s a u scope policy ↔ policy ∈ effectiveCandidates s a u ∧ test policy = true)
include hscope

theorem foremost_of_find {policy : AiuQuotaPolicy} (h : (effectiveCandidates s a u).find? test = some policy) :
    Foremost s a u scope policy := by
  obtain ⟨hpolicy, hfirst⟩ := find_foremost h
  exact ⟨(hscope policy).mpr hpolicy, fun other hother => hfirst other ((hscope other).mp hother).1 ((hscope other).mp hother).2⟩

theorem none_of_find (h : (effectiveCandidates s a u).find? test = none) (other : AiuQuotaPolicy) :
    ¬IsFor s a u scope other := by
  intro hother
  have hpass := ((hscope other).mp hother).2
  exact List.find?_eq_none.mp h other ((hscope other).mp hother).1 hpass

end Scope

/-- The first scope that has a policy for the user decides. -/
theorem resolve_effective (s : QuotaStore) (a u : Uuid) : Effective s a u (resolveEffectiveAiuQuotaPolicy s a u) := by
  unfold resolveEffectiveAiuQuotaPolicy
  dsimp only
  split
  · exact .inl (foremost_of_find (fun _ => isFor_user) ‹_›)
  rename_i huser
  have hnoUser := none_of_find (fun _ => isFor_user) huser
  split
  · exact .inr ⟨hnoUser, .inl (foremost_of_find (fun _ => isFor_userGroup) ‹_›)⟩
  rename_i hgroup
  have hnoGroup := none_of_find (fun _ => isFor_userGroup) hgroup
  cases happlication : (effectiveCandidates s a u).find? fun p => p.scope == .application with
  | some policy => exact .inr ⟨hnoUser, .inr ⟨hnoGroup, foremost_of_find (fun _ => isFor_application) happlication⟩⟩
  | none =>
    intro scope other hother
    cases scope with
    | user => exact hnoUser other hother
    | userGroup => exact hnoGroup other hother
    | application => exact none_of_find (fun _ => isFor_application) happlication other hother

end Effective

/-! ## A second materialization -/

section Materialization

variable {s s' : QuotaStore} {input : MaterializeInput} {ids : MaterializeIds} {result : Option UserAiuQuota}

/-- The row a policy leaves is what the policy says. -/
theorem materialized_unchanged {current : UserAiuQuota} {policy : AiuQuotaPolicy} {window : QuotaPeriodWindowValue}
    {changed : Bool} (hchanged : periodChanged current policy window = changed) :
    policyUnchanged (current.written fun _ => materialized policy window changed current) policy window = true := by
  have hperiod : periodChanged (current.written fun _ => materialized policy window changed current) policy window =
      false := by
    cases changed with
    | true => simp [periodChanged, UserAiuQuota.written, materialized]
    | false =>
      unfold periodChanged at hchanged
      rw [Bool.or_eq_false_iff] at hchanged
      simpa [periodChanged, UserAiuQuota.written, materialized] using hchanged.2
  unfold policyUnchanged
  rw [hperiod]
  simp [UserAiuQuota.written, materialized]

theorem releaseOpen_quotas {current : UserAiuQuota} {changed : Bool} (h : releaseOpen s input current changed = .ok s') :
    s'.quotas = s.quotas := by
  unfold releaseOpen at h
  split at h
  · obtain ⟨⟨s₀, k⟩, h₀, h⟩ := bind_ok h
    cases h
    obtain ⟨reservations, rfl, -⟩ := QuotaStore.updateReservations_ok h₀
    rfl
  · cases h
    rfl

/-- What `applyPolicy` leaves of the user's row. -/
theorem applyPolicy_row {policy : AiuQuotaPolicy} {window : QuotaPeriodWindowValue} {current : UserAiuQuota}
    (hcurrent : s.quotaOf input.applicationId input.userId = some current)
    (h : applyPolicy s input ids policy window current = .ok (result, s')) :
    ∃ quota, s'.quotaOf input.applicationId input.userId = some quota ∧ policyUnchanged quota policy window = true := by
  unfold applyPolicy at h
  dsimp only at h
  split at h
  · cases h
    exact ⟨current, hcurrent, ‹_›⟩
  obtain ⟨s₁, h₁, h⟩ := bind_ok h
  obtain ⟨⟨s₂, n⟩, h₂, h⟩ := bind_ok h
  obtain ⟨s₃, h₃, h⟩ := bind_ok h
  cases h
  obtain ⟨hmem, ha, hu⟩ := QuotaStore.quotaOf_mem hcurrent
  have hmem₁ : current ∈ s₁.quotas.rows := by rw [releaseOpen_quotas h₁]; exact hmem
  obtain ⟨-, quotas, rfl, hq⟩ := QuotaStore.updateQuota_ok h₂ hmem₁ (by simp) (Or.inr (by simp))
  obtain ⟨-, ledger, rfl, -⟩ := QuotaStore.insertLedgerEntry_ok h₃
  refine ⟨_, ?_, @materialized_unchanged current policy window _ rfl⟩
  rw [← ha, ← hu]
  exact quotaOf_update hmem₁ hq

theorem grantPolicy_row {policy : AiuQuotaPolicy} {window : QuotaPeriodWindowValue}
    (h : grantPolicy s input ids policy window = .ok (result, s')) :
    ∃ quota, s'.quotaOf input.applicationId input.userId = some quota ∧ policyUnchanged quota policy window = true := by
  unfold grantPolicy at h
  obtain ⟨s₁, h₁, h⟩ := bind_ok h
  obtain ⟨s₂, h₂, h⟩ := bind_ok h
  cases h
  obtain ⟨-, quotas, rfl, hq⟩ := QuotaStore.insertQuota_ok h₁
  obtain ⟨-, ledger, rfl, -⟩ := QuotaStore.insertLedgerEntry_ok h₂
  exact ⟨_, quotaOf_insert hq, by simp [policyUnchanged, periodChanged]⟩

/-- Without a policy no quota of the user is left in force. -/
theorem withdrawPolicy_row {current : UserAiuQuota}
    (hcurrent : s.quotaOf input.applicationId input.userId = some current)
    (h : withdrawPolicy s input ids current = .ok (result, s')) :
    ∃ quota, s'.quotaOf input.applicationId input.userId = some quota ∧ (quota.policyId.isNone || !quota.enabled) = true := by
  unfold withdrawPolicy at h
  split at h
  · cases h
    exact ⟨current, hcurrent, ‹_›⟩
  obtain ⟨⟨s₁, n⟩, h₁, h⟩ := bind_ok h
  obtain ⟨s₂, h₂, h⟩ := bind_ok h
  cases h
  obtain ⟨hmem, ha, hu⟩ := QuotaStore.quotaOf_mem hcurrent
  obtain ⟨-, quotas, rfl, hq⟩ := QuotaStore.updateQuota_ok h₁ hmem (by simp) (Or.inr (by simp))
  obtain ⟨-, ledger, rfl, -⟩ := QuotaStore.insertLedgerEntry_ok h₂
  refine ⟨current.written fun q => { q with policyId := none, enabled := false }, ?_, ?_⟩
  · rw [← ha, ← hu]
    exact quotaOf_update hmem hq
  · simp [UserAiuQuota.written]

theorem materialize_settled (h : materializeEffectiveAiuQuotaPolicy s input ids = .ok (result, s')) : PolicyIdle s' input := by
  obtain ⟨hpolicies, hgroups⟩ := materialize_policies h
  unfold PolicyIdle
  rw [resolve_congr hpolicies hgroups]
  unfold materializeEffectiveAiuQuotaPolicy at h
  dsimp only at h
  split at h
  · rename_i hnone
    rw [hnone]
    split at h
    · rename_i hcurrent
      cases h
      rw [hcurrent]
      trivial
    · obtain ⟨quota, hquota, hidle⟩ := withdrawPolicy_row ‹_› h
      rw [hquota]
      exact hidle
  · rename_i policy hpolicy
    obtain ⟨window, hwindow, h⟩ := bind_ok h
    rw [hpolicy]
    obtain ⟨quota, hquota, hidle⟩ : ∃ quota, s'.quotaOf input.applicationId input.userId = some quota ∧
        policyUnchanged quota policy window = true := by
      split at h
      · exact grantPolicy_row h
      · exact applyPolicy_row ‹_› h
    rw [hquota]
    exact ⟨window, hwindow, hidle⟩

/-- Counters of the row do not matter to it. -/
theorem PolicyIdle.of_counters (h : PolicyIdle s input) (hbetween : OnlyCounters s s' input.applicationId input.userId)
    (hnone : s.quotaOf input.applicationId input.userId = none → s'.quotaOf input.applicationId input.userId = none) :
    PolicyIdle s' input := by
  unfold PolicyIdle at *
  rw [hbetween.policy]
  cases hquota : s.quotaOf input.applicationId input.userId with
  | none =>
    rw [hnone hquota]
    rwa [hquota] at h
  | some quota =>
    obtain ⟨consumed, reserved, lockVersion, hquota'⟩ := hbetween.quota quota hquota
    rw [hquota] at h
    rw [hquota']
    cases hpolicy : resolveEffectiveAiuQuotaPolicy s input.applicationId input.userId with
    | none =>
      rw [hpolicy] at h
      exact h
    | some policy =>
      rw [hpolicy] at h
      exact h

/-! ## A materialization in the same period -/

/-- The policy in force, if the user has one, has the period of the quota. -/
def KeepsPeriod (s : QuotaStore) (input : MaterializeInput) : Prop :=
  ∀ policy quota window, resolveEffectiveAiuQuotaPolicy s input.applicationId input.userId = some policy →
    s.quotaOf input.applicationId input.userId = some quota → input.window policy = .ok window →
      periodChanged quota policy window = false

/-- What was consumed and is reserved, of every quota row of every application. -/
def SameAmounts (s s' : QuotaStore) : Prop :=
  s'.reservations = s.reservations ∧ ∀ a u quota, s.quotaOf a u = some quota → ∃ quota', s'.quotaOf a u = some quota' ∧
    quota'.id = quota.id ∧ quota'.consumedAiuMicros = quota.consumedAiuMicros ∧
      quota'.reservedAiuMicros = quota.reservedAiuMicros

theorem SameAmounts.refl (s : QuotaStore) : SameAmounts s s := ⟨rfl, fun _ _ quota h => ⟨quota, h, rfl, rfl, rfl⟩⟩

theorem SameAmounts.of_update {current : UserAiuQuota} {data : UserAiuQuota → UserAiuQuota} {quotas : Table UserAiuQuota}
    {ledger : Table UserAiuLedgerEntry} (hmem : current ∈ s.quotas.rows)
    (hrows : quotas.rows = replace current (current.written data) s.quotas.rows)
    (hconsumed : (data current).consumedAiuMicros = current.consumedAiuMicros)
    (hreserved : (data current).reservedAiuMicros = current.reservedAiuMicros) :
    SameAmounts s { s with quotas, ledger } := by
  refine ⟨rfl, fun a u quota hquota => ?_⟩
  obtain ⟨hq, ha, hu⟩ := QuotaStore.quotaOf_mem hquota
  by_cases hsame : quota = current
  · subst hsame
    have hmem' : quota.written data ∈ quotas.rows := by
      rw [hrows, mem_replace hmem]
      exact .inl rfl
    exact ⟨quota.written data, QuotaStore.quotaOf_iff.mpr ⟨hmem', ha, hu⟩, rfl, hconsumed, hreserved⟩
  · have hmem' : quota ∈ quotas.rows := by
      rw [hrows, mem_replace hmem]
      exact .inr ⟨hq, hsame⟩
    exact ⟨quota, QuotaStore.quotaOf_iff.mpr ⟨hmem', ha, hu⟩, rfl, rfl, rfl⟩

theorem SameAmounts.of_insert {created : UserAiuQuota} {quotas : Table UserAiuQuota} {ledger : Table UserAiuLedgerEntry}
    (hrows : quotas.rows = s.quotas.rows ++ [created]) : SameAmounts s { s with quotas, ledger } := by
  refine ⟨rfl, fun a u quota hquota => ?_⟩
  obtain ⟨hq, ha, hu⟩ := QuotaStore.quotaOf_mem hquota
  have hmem : quota ∈ quotas.rows := by
    rw [hrows]
    exact List.mem_append_left _ hq
  exact ⟨quota, QuotaStore.quotaOf_iff.mpr ⟨hmem, ha, hu⟩, rfl, rfl, rfl⟩

theorem withdrawPolicy_keeps {current : UserAiuQuota} (hmem : current ∈ s.quotas.rows)
    (h : withdrawPolicy s input ids current = .ok (result, s')) : SameAmounts s s' := by
  unfold withdrawPolicy at h
  split at h
  · cases h
    exact .refl s
  obtain ⟨⟨s₁, n⟩, h₁, h⟩ := bind_ok h
  obtain ⟨s₂, h₂, h⟩ := bind_ok h
  cases h
  obtain ⟨-, quotas, rfl, hq⟩ := QuotaStore.updateQuota_ok h₁ hmem (by simp) (Or.inr (by simp))
  obtain ⟨-, ledger, rfl, -⟩ := QuotaStore.insertLedgerEntry_ok h₂
  exact .of_update hmem hq rfl rfl

theorem grantPolicy_keeps {policy : AiuQuotaPolicy} {window : QuotaPeriodWindowValue}
    (h : grantPolicy s input ids policy window = .ok (result, s')) : SameAmounts s s' := by
  unfold grantPolicy at h
  obtain ⟨s₁, h₁, h⟩ := bind_ok h
  obtain ⟨s₂, h₂, h⟩ := bind_ok h
  cases h
  obtain ⟨-, quotas, rfl, hq⟩ := QuotaStore.insertQuota_ok h₁
  obtain ⟨-, ledger, rfl, -⟩ := QuotaStore.insertLedgerEntry_ok h₂
  exact .of_insert hq

/-- In the same period nothing is released and the counters are written as they were. -/
theorem applyPolicy_keeps {policy : AiuQuotaPolicy} {window : QuotaPeriodWindowValue} {current : UserAiuQuota}
    (hmem : current ∈ s.quotas.rows) (hperiod : periodChanged current policy window = false)
    (h : applyPolicy s input ids policy window current = .ok (result, s')) : SameAmounts s s' := by
  unfold applyPolicy at h
  dsimp only at h
  split at h
  · cases h
    exact .refl s
  rw [hperiod] at h
  obtain ⟨s₁, h₁, h⟩ := bind_ok h
  obtain ⟨⟨s₂, n⟩, h₂, h⟩ := bind_ok h
  obtain ⟨s₃, h₃, h⟩ := bind_ok h
  cases h
  cases h₁
  obtain ⟨-, quotas, rfl, hq⟩ := QuotaStore.updateQuota_ok h₂ hmem (by simp) (Or.inr (by simp))
  obtain ⟨-, ledger, rfl, -⟩ := QuotaStore.insertLedgerEntry_ok h₃
  exact .of_update hmem hq rfl rfl

theorem materialize_keeps (hperiod : KeepsPeriod s input)
    (h : materializeEffectiveAiuQuotaPolicy s input ids = .ok (result, s')) : SameAmounts s s' := by
  unfold materializeEffectiveAiuQuotaPolicy at h
  dsimp only at h
  split at h
  · split at h
    · cases h
      exact .refl s
    · rename_i hcurrent
      exact withdrawPolicy_keeps (QuotaStore.quotaOf_mem hcurrent).1 h
  · rename_i hpolicy
    obtain ⟨window, hwindow, h⟩ := bind_ok h
    split at h
    · exact grantPolicy_keeps h
    · rename_i hcurrent
      exact applyPolicy_keeps (QuotaStore.quotaOf_mem hcurrent).1 (hperiod _ _ window hpolicy hcurrent hwindow) h

end Materialization

/-- The policy in force is the foremost of the first scope that has one. Once it is materialized, another
    materialization in the same windows changes no row, also after the counters moved; and one that keeps the period
    keeps the amounts and the reservations. -/
theorem effective_policy_materialized (s : QuotaStore) (input : MaterializeInput) :
    Effective s input.applicationId input.userId (resolveEffectiveAiuQuotaPolicy s input.applicationId input.userId) ∧
      ∀ ids result s', materializeEffectiveAiuQuotaPolicy s input ids = .ok (result, s') →
        (∀ s'', OnlyCounters s' s'' input.applicationId input.userId →
          (s'.quotaOf input.applicationId input.userId = none → s''.quotaOf input.applicationId input.userId = none) →
          ∀ ids', ∃ result', materializeEffectiveAiuQuotaPolicy s'' input ids' = .ok (result', s'')) ∧
        (KeepsPeriod s input → SameAmounts s s') := by
  refine ⟨resolve_effective s _ _, fun ids result s' h => ⟨fun s'' hbetween hnone ids' => ?_, fun hperiod => ?_⟩⟩
  · exact materialize_idle ids' ((materialize_settled h).of_counters hbetween hnone)
  · exact materialize_keeps hperiod h

namespace Sample

/-- The limit is doubled while 5 of it are reserved. -/
def doubled : Op := .configure users ⟨[{ dailyPolicy with limitAiuMicros := 20 }], by simp, by simp [Row.refused, dailyPolicy]⟩ []

end Sample

open Sample in
theorem doubled_limit_keeps_reservations :
    let s := (system service).run .empty (opened ++ [doubled])
    let input : MaterializeInput := ⟨0, 1, policyWindow utc 5000, "AIU quota policy applied"⟩
    ∃ result s', materializeEffectiveAiuQuotaPolicy s input ⟨2, 900, ⟨900, 5000⟩⟩ = .ok (result, s') ∧
      s'.ledger.rows.length = s.ledger.rows.length + 1 ∧ SameAmounts s s' ∧
      ∃ result', materializeEffectiveAiuQuotaPolicy s' input ⟨2, 901, ⟨901, 6000⟩⟩ = .ok (result', s') := by
  intro s input
  have hrun : (materializeEffectiveAiuQuotaPolicy s input ⟨2, 900, ⟨900, 5000⟩⟩).toOption.any
      (fun r => decide (r.2.ledger.rows.length = s.ledger.rows.length + 1)) = true ∧
        ∀ policy ∈ resolveEffectiveAiuQuotaPolicy s 0 1, ∀ quota ∈ s.quotaOf 0 1,
          (input.window policy).toOption.all (fun window => !periodChanged quota policy window) = true := by
    decide +kernel
  cases hresult : materializeEffectiveAiuQuotaPolicy s input ⟨2, 900, ⟨900, 5000⟩⟩ with
  | error failure =>
    rw [hresult] at hrun
    cases hrun.1
  | ok written =>
    rw [hresult] at hrun
    have hperiod : KeepsPeriod s input := by
      intro policy quota window hpolicy hquota hwindow
      have hall := hrun.2 policy hpolicy quota hquota
      rw [hwindow] at hall
      exact Bool.not_eq_true' _ ▸ hall
    obtain ⟨-, hlater⟩ := effective_policy_materialized s input
    obtain ⟨hsecond, hkeeps⟩ := hlater _ written.1 written.2 hresult
    exact ⟨written.1, written.2, rfl, of_decide_eq_true hrun.1, hkeeps hperiod,
      hsecond written.2 (OnlyCounters.refl _ _ _) id _⟩

end TokenPilot.Quota
