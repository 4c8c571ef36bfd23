/-
  TokenPilot.Quota.Settlement — the worker's side of a reservation: `applyUserAiu`
  (apps/worker/src/application-usage/user-aiu-settlement.ts) and the sweeper's
  `expire` (apps/worker/src/maintenance/user-aiu-reservation-sweeper.ts).

  `applyUserAiu` is cut at its three writing branches: `reconcileSettled` rewrites a
  settled reservation to the rated amount, `settleReserved` settles an open one,
  `consumeUnreserved` records usage that came without a reservation.
-/

import TokenPilot.Quota.Reservations

namespace TokenPilot.Quota

/-! ## `applyUserAiu` -/

inductive QuotaDecision where
  | allow
  | observe
  | warn
  deriving DecidableEq, Repr

structure UserAiuConsumption where
  consumed : Int
  decision : QuotaDecision
  deriving DecidableEq, Repr

/-- One application of a rated event. -/
structure AiuCall where
  applicationId : Uuid
  userId : Uuid
  reservationId : Option Uuid
  eventId : String
  actual : Option Nat
  entry : Stamp
  deriving DecidableEq, Repr

/-- `actual ?? 0n`. -/
def AiuCall.settled (call : AiuCall) : Int := (call.actual.getD 0 : Nat)

def reservationChanged : Failure := .retryable "AIU reservation changed concurrently"

def reconciliationEntry (call : AiuCall) (reservation : UserAiuReservation) (quota : UserAiuQuota) :
    UserAiuLedgerEntry where
  id := call.entry.id
  createdAt := call.entry.createdAt
  applicationId := call.applicationId
  userId := call.userId
  quotaId := reservation.quotaId
  entryType := .settlementDelta
  consumedDeltaMicros := call.settled - reservation.settledAiuMicros
  reservedDeltaMicros := 0
  consumedAfterMicros := quota.consumedAiuMicros + (call.settled - reservation.settledAiuMicros)
  reservedAfterMicros := quota.reservedAiuMicros
  limitAfterMicros := quota.limitAiuMicros
  sourceEventId := some call.eventId
  sourceReservationId := some reservation.id
  idempotencyKey := .usageReconciliation call.eventId
  reason := "Reconciled reserved estimate with rated model AIU"

def reconcileSettled (s : QuotaStore) (call : AiuCall) (reservation : UserAiuReservation) (quota : UserAiuQuota) :
    Except Failure (Option UserAiuConsumption × QuotaStore) := do
  let settled := call.settled
  if reservation.settledAiuMicros = settled then return (some ⟨reservation.settledAiuMicros, .allow⟩, s)
  let delta := settled - reservation.settledAiuMicros
  let (s, changed) ← s.updateReservations
    (fun r => r.applicationId == call.applicationId && r.id == reservation.id && r.status == .settled &&
      r.lockVersion == reservation.lockVersion)
    fun _ => (.settled, settled)
  let (s, quotaChanged) ← s.updateQuotas
    (fun q => q.applicationId == call.applicationId && q.id == reservation.quotaId &&
      q.lockVersion == quota.lockVersion)
    fun q => { q with consumedAiuMicros := q.consumedAiuMicros + delta }
  require (changed = 1 ∧ quotaChanged = 1) reservationChanged
  let s ← s.insertLedgerEntry (reconciliationEntry call reservation quota)
  return (some ⟨settled, .allow⟩, s)

def settlementEntry (call : AiuCall) (reservation : UserAiuReservation) (quota : UserAiuQuota) : UserAiuLedgerEntry where
  id := call.entry.id
  createdAt := call.entry.createdAt
  applicationId := call.applicationId
  userId := call.userId
  quotaId := reservation.quotaId
  entryType := .settlementDelta
  consumedDeltaMicros := call.settled
  reservedDeltaMicros := -reservation.reservedAiuMicros
  consumedAfterMicros := quota.consumedAiuMicros + call.settled
  reservedAfterMicros := quota.reservedAiuMicros - reservation.reservedAiuMicros
  limitAfterMicros := quota.limitAiuMicros
  sourceEventId := some call.eventId
  sourceReservationId := some reservation.id
  idempotencyKey := .usageSettle call.eventId
  reason := "Settled model usage with rated AIU"

def settleReserved (s : QuotaStore) (call : AiuCall) (reservation : UserAiuReservation) (quota : UserAiuQuota) :
    Except Failure (Option UserAiuConsumption × QuotaStore) := do
  let settled := call.settled
  let (s, changed) ← s.updateReservations
    (fun r => r.applicationId == call.applicationId && r.id == reservation.id && r.status == .reserved &&
      r.lockVersion == reservation.lockVersion)
    fun _ => (.settled, settled)
  let (s, quotaChanged) ← s.updateQuotas
    (fun q => q.applicationId == call.applicationId && q.id == reservation.quotaId &&
      q.lockVersion == quota.lockVersion)
    fun q => { q with
      reservedAiuMicros := q.reservedAiuMicros - reservation.reservedAiuMicros
      consumedAiuMicros := q.consumedAiuMicros + settled }
  require (changed = 1 ∧ quotaChanged = 1) reservationChanged
  let s ← s.insertLedgerEntry (settlementEntry call reservation quota)
  return (some ⟨settled, .allow⟩, s)

/-- A soft limit that the consumption exceeds. -/
def softLimitExceeded (quota : UserAiuQuota) (actual : Int) : Bool :=
  !quota.hardLimit && decide (quota.consumedAiuMicros + actual > quota.limitAiuMicros)

def consumptionEntry (call : AiuCall) (quota : UserAiuQuota) (actual : Int) : UserAiuLedgerEntry where
  id := call.entry.id
  createdAt := call.entry.createdAt
  applicationId := call.applicationId
  userId := call.userId
  quotaId := quota.id
  entryType := .consume
  consumedDeltaMicros := actual
  consumedAfterMicros := quota.consumedAiuMicros + actual
  reservedAfterMicros := quota.reservedAiuMicros
  limitAfterMicros := quota.limitAiuMicros
  sourceEventId := some call.eventId
  idempotencyKey := .usageConsume call.eventId
  reason := if softLimitExceeded quota actual then "Soft AIU limit exceeded; model call was allowed"
    else "Consumed rated model AIU"

def consumeUnreserved (s : QuotaStore) (call : AiuCall) (quota : UserAiuQuota) (actual : Int) :
    Except Failure (Option UserAiuConsumption × QuotaStore) := do
  match s.ledger.rows.find? fun e => e.applicationId == call.applicationId &&
      e.idempotencyKey == .usageConsume call.eventId with
  | some existing =>
    return (some ⟨existing.consumedDeltaMicros,
      if quota.hardLimit then .allow
      else if existing.consumedAfterMicros > quota.limitAiuMicros then .warn else .observe⟩, s)
  | none =>
    let (s, changed) ← s.updateQuotas
      (fun q => q.applicationId == call.applicationId && q.id == quota.id && q.lockVersion == quota.lockVersion)
      fun q => { q with consumedAiuMicros := q.consumedAiuMicros + actual }
    require (changed = 1) (.retryable "User AIU quota changed concurrently")
    let s ← s.insertLedgerEntry (consumptionEntry call quota actual)
    return (some ⟨actual, if softLimitExceeded quota actual then .warn else .observe⟩, s)

def applyUserAiu (s : QuotaStore) (call : AiuCall) : Except Failure (Option UserAiuConsumption × QuotaStore) := do
  match call.reservationId with
  | some reservationId =>
    match s.reservations.rows.find? fun r => r.applicationId == call.applicationId && r.id == reservationId &&
        r.userId == call.userId with
    | none => throw (.typeError "Usage event AIU reservation is invalid")
    | some reservation =>
      match s.quotaById reservation.applicationId reservation.quotaId with
      | none => throw (.typeError "Usage event AIU reservation is invalid")
      | some quota =>
        match reservation.status with
        | .settled => reconcileSettled s call reservation quota
        | .reserved => settleReserved s call reservation quota
        | _ => throw (.typeError "Usage event AIU reservation is already closed")
  | none =>
    match call.actual with
    | none => return (none, s)
    | some actual =>
      match s.quotaOf call.applicationId call.userId with
      | none => return (none, s)
      | some quota => if quota.enabled then consumeUnreserved s call quota actual else return (none, s)

/-! ## The sweeper -/

structure ExpireCall where
  applicationId : Uuid
  id : Uuid
  now : Timestamp
  entry : Stamp
  deriving DecidableEq, Repr

def expire (s : QuotaStore) (call : ExpireCall) : Except Failure (Bool × QuotaStore) := do
  match s.reservations.rows.find? fun r => r.id == call.id && r.applicationId == call.applicationId &&
      r.status == .reserved && decide (r.expiresAt ≤ call.now) with
  | none => return (false, s)
  | some row =>
    match s.quotaById row.applicationId row.quotaId with
    | none => return (false, s)
    | some quota =>
      let reservedAfter := quota.reservedAiuMicros - row.reservedAiuMicros
      require (0 ≤ reservedAfter) (.typeError "User AIU reserved balance is inconsistent")
      let (s, changed) ← s.updateReservations
        (fun r => r.id == row.id && r.applicationId == call.applicationId && r.status == .reserved &&
          r.lockVersion == row.lockVersion)
        fun r => (.expired, r.settledAiuMicros)
      let (s, quotaChanged) ← s.updateQuotas
        (fun q => q.id == row.quotaId && q.applicationId == call.applicationId && q.lockVersion == quota.lockVersion)
        fun q => { q with reservedAiuMicros := q.reservedAiuMicros - row.reservedAiuMicros }
      require (changed = 1 ∧ quotaChanged = 1) (.retryable "User AIU reservation changed concurrently")
      let s ← s.insertLedgerEntry {
        id := call.entry.id
        createdAt := call.entry.createdAt
        applicationId := call.applicationId
        userId := row.userId
        quotaId := row.quotaId
        entryType := .expire
        reservedDeltaMicros := -row.reservedAiuMicros
        consumedAfterMicros := quota.consumedAiuMicros
        reservedAfterMicros := reservedAfter
        limitAfterMicros := quota.limitAiuMicros
        sourceReservationId := some row.id
        idempotencyKey := .reservationExpire row.id
        reason := "AIU reservation expired before model usage was settled" }
      return (true, s)

end TokenPilot.Quota
