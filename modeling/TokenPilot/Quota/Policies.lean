/-
  TokenPilot.Quota.Policies — `resolveEffectiveAiuQuotaPolicy` and
  `materializeEffectiveAiuQuotaPolicy` (packages/db/src/aiu-quota-policies.ts).

  The second function is cut at its early returns: `withdrawPolicy` is the branch
  without an effective policy, `grantPolicy` the branch without a quota row,
  `applyPolicy` the branch with both. Every branch that writes the quota writes one
  ledger row.
-/

import Mathlib.Data.List.Sort
import TokenPilot.Quota.Period

namespace TokenPilot.Quota

/-! ## The effective policy -/

/-- `orderBy: [{ priority: "desc" }, { updatedAt: "desc" }, { id: "asc" }]`. -/
def PolicyOrder (a b : AiuQuotaPolicy) : Prop :=
  b.priority < a.priority ∨ (a.priority = b.priority ∧
    (b.updatedAt < a.updatedAt ∨ (a.updatedAt = b.updatedAt ∧ a.id ≤ b.id)))

instance : DecidableRel PolicyOrder := fun _ _ => inferInstanceAs (Decidable (_ ∨ _))

def effectiveCandidates (s : QuotaStore) (applicationId userId : Uuid) : List AiuQuotaPolicy :=
  (s.policies.rows.filter fun p => p.applicationId == applicationId && p.enabled &&
    ((p.scope == .user && p.userId == some userId) || p.scope == .userGroup || p.scope == .application)).insertionSort
    PolicyOrder

/-- `evaluations: { orderBy: { evaluatedAt: "desc" }, take: 1 }`. -/
def latestEvaluation (group : ApplicationUserGroup) : Option GroupEvaluation :=
  (group.evaluations.insertionSort fun a b => b.evaluatedAt ≤ a.evaluatedAt).head?

/-- The policy's group was last evaluated for its current definition, with the user in it. -/
def groupApplies (s : QuotaStore) (userId : Uuid) (policy : AiuQuotaPolicy) : Bool :=
  policy.scope == .userGroup &&
    match s.groups.find? fun g => g.applicationId == policy.applicationId && some g.id == policy.userGroupId with
    | none => false
    | some group =>
      match latestEvaluation group with
      | none => false
      | some evaluation =>
        evaluation.definitionVersion == group.definitionVersion && evaluation.members.contains userId

def resolveEffectiveAiuQuotaPolicy (s : QuotaStore) (applicationId userId : Uuid) : Option AiuQuotaPolicy :=
  let policies := effectiveCandidates s applicationId userId
  match policies.find? fun p => p.scope == .user with
  | some direct => some direct
  | none =>
    match policies.find? (groupApplies s userId) with
    | some group => some group
    | none => policies.find? fun p => p.scope == .application

/-! ## Materialization -/

structure MaterializeInput where
  applicationId : Uuid
  userId : Uuid
  window : AiuQuotaPolicy → Except Failure QuotaPeriodWindowValue
  reason : String

/-- The values generated for the rows a materialization may write. -/
structure MaterializeIds where
  quotaId : Uuid
  nonce : Uuid
  entry : Stamp
  deriving DecidableEq, Repr

def periodChanged (current : UserAiuQuota) (policy : AiuQuotaPolicy) (window : QuotaPeriodWindowValue) : Bool :=
  current.periodType != policy.periodType ||
    (policy.periodType != .lifetime && (current.periodStart != window.start || current.periodEnd != window.end_))

def policyUnchanged (current : UserAiuQuota) (policy : AiuQuotaPolicy) (window : QuotaPeriodWindowValue) : Bool :=
  current.policyId == some policy.id && current.limitAiuMicros == policy.limitAiuMicros &&
    current.hardLimit == policy.hardLimit && current.enabled && !periodChanged current policy window

def withdrawPolicy (s : QuotaStore) (input : MaterializeInput) (ids : MaterializeIds) (current : UserAiuQuota) :
    Except Failure (Option UserAiuQuota × QuotaStore) := do
  if current.policyId.isNone || !current.enabled then return (some current, s)
  let (s, _) ← s.updateQuotas (fun q => q.id == current.id) fun q => { q with policyId := none, enabled := false }
  let s ← s.insertLedgerEntry {
    id := ids.entry.id
    createdAt := ids.entry.createdAt
    applicationId := input.applicationId
    userId := input.userId
    quotaId := current.id
    entryType := .grant
    consumedAfterMicros := current.consumedAiuMicros
    reservedAfterMicros := current.reservedAiuMicros
    limitAfterMicros := current.limitAiuMicros
    idempotencyKey := .quotaPolicy none input.userId ids.nonce
    reason := input.reason }
  return (some { current with policyId := none, enabled := false, lockVersion := current.lockVersion + 1 }, s)

def grantPolicy (s : QuotaStore) (input : MaterializeInput) (ids : MaterializeIds) (policy : AiuQuotaPolicy)
    (window : QuotaPeriodWindowValue) : Except Failure (Option UserAiuQuota × QuotaStore) := do
  let created : UserAiuQuota := {
    id := ids.quotaId
    applicationId := input.applicationId
    userId := input.userId
    policyId := some policy.id
    periodType := policy.periodType
    periodStart := window.start
    periodEnd := window.end_
    limitAiuMicros := policy.limitAiuMicros
    hardLimit := policy.hardLimit }
  let s ← s.insertQuota created
  let s ← s.insertLedgerEntry {
    id := ids.entry.id
    createdAt := ids.entry.createdAt
    applicationId := input.applicationId
    userId := input.userId
    quotaId := created.id
    entryType := .grant
    consumedAfterMicros := 0
    reservedAfterMicros := 0
    limitAfterMicros := policy.limitAiuMicros
    idempotencyKey := .quotaPolicy (some policy.id) input.userId ids.nonce
    reason := input.reason }
  return (some created, s)

/-- The quota row a policy leaves: a changed period starts it from zero. -/
def materialized (policy : AiuQuotaPolicy) (window : QuotaPeriodWindowValue) (changed : Bool) (q : UserAiuQuota) :
    UserAiuQuota :=
  { q with
    policyId := some policy.id
    periodType := policy.periodType
    periodStart := if changed then window.start else q.periodStart
    periodEnd := if changed then window.end_ else q.periodEnd
    limitAiuMicros := policy.limitAiuMicros
    consumedAiuMicros := if changed then 0 else q.consumedAiuMicros
    reservedAiuMicros := if changed then 0 else q.reservedAiuMicros
    hardLimit := policy.hardLimit
    enabled := true }

/-- A changed period with something reserved releases what the user has open. -/
def releaseOpen (s : QuotaStore) (input : MaterializeInput) (current : UserAiuQuota) (changed : Bool) :
    Except Failure QuotaStore :=
  if changed && decide (0 < current.reservedAiuMicros) then do
    let (s, _) ← s.updateReservations
      (fun r => r.applicationId == input.applicationId && r.userId == input.userId && r.status == .reserved)
      fun r => (.released, r.settledAiuMicros)
    return s
  else .ok s

def applyPolicy (s : QuotaStore) (input : MaterializeInput) (ids : MaterializeIds) (policy : AiuQuotaPolicy)
    (window : QuotaPeriodWindowValue) (current : UserAiuQuota) :
    Except Failure (Option UserAiuQuota × QuotaStore) := do
  let changed := periodChanged current policy window
  if policyUnchanged current policy window then return (some current, s)
  let s ← releaseOpen s input current changed
  let (s, _) ← s.updateQuotas (fun q => q.id == current.id) fun _ => materialized policy window changed current
  let after := materialized policy window changed current
  let s ← s.insertLedgerEntry {
    id := ids.entry.id
    createdAt := ids.entry.createdAt
    applicationId := input.applicationId
    userId := input.userId
    quotaId := current.id
    entryType := .grant
    consumedDeltaMicros := after.consumedAiuMicros - current.consumedAiuMicros
    reservedDeltaMicros := after.reservedAiuMicros - current.reservedAiuMicros
    consumedAfterMicros := after.consumedAiuMicros
    reservedAfterMicros := after.reservedAiuMicros
    limitAfterMicros := policy.limitAiuMicros
    idempotencyKey := .quotaPolicy (some policy.id) input.userId ids.nonce
    reason := input.reason }
  return (some { after with lockVersion := current.lockVersion + 1 }, s)

/-- Materializes the effective policy into the user's authoritative quota and ledger. -/
def materializeEffectiveAiuQuotaPolicy (s : QuotaStore) (input : MaterializeInput) (ids : MaterializeIds) :
    Except Failure (Option UserAiuQuota × QuotaStore) := do
  let current := s.quotaOf input.applicationId input.userId
  match resolveEffectiveAiuQuotaPolicy s input.applicationId input.userId with
  | none =>
    match current with
    | none => return (none, s)
    | some current => withdrawPolicy s input ids current
  | some policy =>
    let window ← input.window policy
    match current with
    | none => grantPolicy s input ids policy window
    | some current => applyPolicy s input ids policy window current

/-- The `window` argument every caller passes: the fixed range of the policy, or the
    calendar window of the application at `now`. The CHECK on policies keeps a fixed
    range from having no start. -/
def policyWindow (timezone : Timezone) (now : Timestamp) (policy : AiuQuotaPolicy) :
    Except Failure QuotaPeriodWindowValue :=
  if policy.periodType = .fixedWindow then
    match policy.startsAt with
    | some start => .ok ⟨start, policy.endsAt⟩
    | none => .error (.typeError "Cannot read properties of null (reading 'getTime')")
  else aiuQuotaPeriodWindow policy.periodType timezone now none

/-- One materialization, by the runtime, the worker, or the policy and group services. -/
structure MaterializeCall where
  applicationId : Uuid
  userId : Uuid
  timezone : Timezone
  now : Timestamp
  reason : String
  ids : MaterializeIds

def MaterializeCall.input (call : MaterializeCall) : MaterializeInput :=
  ⟨call.applicationId, call.userId, policyWindow call.timezone call.now, call.reason⟩

end TokenPilot.Quota
