/-
  TokenPilot.Quota.Administration — the administrator's quota save and reset
  (apps/api/src/users/user-quota.service.ts).

  `save` writes the user's own policy and the quota row it materializes, whatever the
  row held; it neither closes reservations nor touches the counters. `reset` reads the
  quota before its transaction opens and writes under the lock version it read, so
  `resetTransaction` takes the row that was read.
-/

import TokenPilot.Quota.Reservations

namespace TokenPilot.Quota

open TokenPilot.Library

structure SaveCall where
  applicationId : Uuid
  userId : Uuid
  timezone : Timezone
  now : Timestamp
  periodType : QuotaPeriodType
  fixed : Option (Timestamp × Timestamp)
  limitAiuMicros : Nat
  hardLimit : Bool
  policyId : Uuid
  policyUpdatedAt : Timestamp
  quotaId : Uuid
  nonce : Uuid
  entry : Stamp

def requireUser (s : QuotaStore) (applicationId id : Uuid) : Except Failure ApplicationUser :=
  match s.users.rows.find? fun u => u.applicationId == applicationId && u.id == id with
  | none => .error (.notFound "User not found")
  | some user => .ok user

/-- The settings a save puts on the user's policy. -/
def savedPolicy (call : SaveCall) (window : QuotaPeriodWindowValue) (p : AiuQuotaPolicy) : AiuQuotaPolicy :=
  { p with
    periodType := call.periodType
    startsAt := if call.periodType = .fixedWindow then some window.start else none
    endsAt := if call.periodType = .fixedWindow then window.end_ else none
    limitAiuMicros := call.limitAiuMicros
    hardLimit := call.hardLimit
    enabled := true
    updatedAt := call.policyUpdatedAt }

/-- `aiuQuotaPolicy.upsert` by `applicationId_userId`. -/
def upsertUserPolicy (s : QuotaStore) (call : SaveCall) (window : QuotaPeriodWindowValue) :
    Except Failure (Uuid × QuotaStore) := do
  match s.policies.rows.find? fun p => p.applicationId == call.applicationId && p.userId == some call.userId with
  | some policy =>
    let (policies, _) ← statement (s.policies.updateMany (fun p => p.id == policy.id) (savedPolicy call window)
      fun _ _ => rfl)
    return (policy.id, { s with policies })
  | none =>
    let policies ← statement (s.policies.insert (savedPolicy call window {
      id := call.policyId
      applicationId := call.applicationId
      scope := .user
      userId := some call.userId
      userGroupId := none
      limitAiuMicros := call.limitAiuMicros
      hardLimit := call.hardLimit
      periodType := call.periodType
      startsAt := none
      endsAt := none
      updatedAt := call.policyUpdatedAt }))
    return (call.policyId, { s with policies })

/-- The settings a save puts on the quota row; `enabled` stays as it was. -/
def savedQuota (call : SaveCall) (policyId : Uuid) (window : QuotaPeriodWindowValue) (q : UserAiuQuota) :
    UserAiuQuota :=
  { q with
    policyId := some policyId
    periodType := call.periodType
    periodStart := window.start
    periodEnd := window.end_
    limitAiuMicros := call.limitAiuMicros
    hardLimit := call.hardLimit }

/-- `userAiuQuota.upsert` by `applicationId_userId`, returning the saved row. -/
def upsertUserQuota (s : QuotaStore) (call : SaveCall) (policyId : Uuid) (window : QuotaPeriodWindowValue) :
    Except Failure (UserAiuQuota × QuotaStore) := do
  match s.quotaOf call.applicationId call.userId with
  | some quota =>
    let (s, _) ← s.updateQuotas (fun q => q.id == quota.id) (savedQuota call policyId window)
    return ({ savedQuota call policyId window quota with lockVersion := quota.lockVersion + 1 }, s)
  | none =>
    let created : UserAiuQuota := savedQuota call policyId window {
      id := call.quotaId
      applicationId := call.applicationId
      userId := call.userId
      policyId := some policyId
      periodType := call.periodType
      periodStart := window.start
      periodEnd := window.end_
      limitAiuMicros := call.limitAiuMicros
      hardLimit := call.hardLimit }
    let s ← s.insertQuota created
    return (created, s)

def save (s : QuotaStore) (call : SaveCall) : Except Failure (Unit × QuotaStore) := do
  let user ← requireUser s call.applicationId call.userId
  let window ← aiuQuotaPeriodWindow call.periodType call.timezone call.now call.fixed
  let (policyId, s) ← upsertUserPolicy s call window
  let (saved, s) ← upsertUserQuota s call policyId window
  let s ← s.insertLedgerEntry {
    id := call.entry.id
    createdAt := call.entry.createdAt
    applicationId := call.applicationId
    userId := user.id
    quotaId := saved.id
    entryType := .grant
    consumedAfterMicros := saved.consumedAiuMicros
    reservedAfterMicros := saved.reservedAiuMicros
    limitAfterMicros := saved.limitAiuMicros
    idempotencyKey := .quotaSetting call.nonce
    reason := "AIU quota updated" }
  return ((), s)

structure ResetCall where
  applicationId : Uuid
  userId : Uuid
  timezone : Timezone
  start : Timestamp
  reason : String
  nonce : Uuid
  entry : Stamp

/-- The transaction of `reset`, against the quota row read before it. -/
def resetTransaction (s : QuotaStore) (call : ResetCall) (quota : UserAiuQuota) (window : QuotaPeriodWindowValue) :
    Except Failure (Unit × QuotaStore) := do
  let (s, _) ← s.updateReservations
    (fun r => r.applicationId == call.applicationId && r.userId == call.userId && r.status == .reserved)
    fun r => (.released, r.settledAiuMicros)
  let (s, changed) ← s.updateQuotas
    (fun q => q.id == quota.id && q.applicationId == call.applicationId && q.lockVersion == quota.lockVersion)
    (rolledOver window)
  require (changed = 1) (.conflict "Quota changed; retry the reset")
  let s ← s.insertLedgerEntry {
    id := call.entry.id
    createdAt := call.entry.createdAt
    applicationId := call.applicationId
    userId := call.userId
    quotaId := quota.id
    entryType := .adjustment
    consumedDeltaMicros := -quota.consumedAiuMicros
    reservedDeltaMicros := -quota.reservedAiuMicros
    consumedAfterMicros := 0
    reservedAfterMicros := 0
    limitAfterMicros := quota.limitAiuMicros
    idempotencyKey := .quotaReset call.nonce
    reason := call.reason }
  return ((), s)

def reset (s : QuotaStore) (call : ResetCall) : Except Failure (Unit × QuotaStore) := do
  let user ← requireUser s call.applicationId call.userId
  match s.quotaOf call.applicationId user.id with
  | none => throw (.notFound "User has no AIU quota")
  | some quota =>
    let fixed := if quota.periodType = .fixedWindow then quota.periodEnd.map fun e => (quota.periodStart, e) else none
    let window ← aiuQuotaPeriodWindow quota.periodType call.timezone call.start fixed
    resetTransaction s call quota window

end TokenPilot.Quota
