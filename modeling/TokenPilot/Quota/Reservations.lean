/-
  TokenPilot.Quota.Reservations — the runtime's reservation service
  (apps/api/src/runtime/user-reservation.service.ts and user-reservation-domain.ts).

  A call of `create` first upserts the application user on its own
  (`upsertApplicationUser`) and then runs one serializable transaction
  (`createReservation`): policy materialization, rollover, the duplicate check, and
  the reservation itself. `transition` is the transaction of `settle` and `release`.
  Requests are taken after parsing, so amounts are naturals. The clock is read where
  the source reads it; generated ids and ledger stamps are arguments. The token codec
  is an argument too: nothing below depends on how a token is signed.
-/

import TokenPilot.Quota.Policies

namespace TokenPilot.Quota

/-! ## Tokens -/

/-- The claims of a token. `version` and `key_version` are the codec's own: `sign` adds
    them and `verify` checks them. -/
structure UserReservationClaims where
  reservationId : Uuid
  applicationId : Uuid
  userId : Uuid
  quotaId : Uuid
  operationId : String
  virtualModel : String
  candidateModelIds : List Uuid
  reservedAiuMicros : Int
  expiresAt : Timestamp
  deriving DecidableEq, Repr

inductive TokenFailure where
  | invalid
  | keyNoLongerActive
  deriving DecidableEq, Repr

def TokenFailure.failure : TokenFailure → Failure
  | .invalid => .conflict "Reservation token is invalid"
  | .keyNoLongerActive => .conflict "Reservation token key is no longer active"

/-- The codec of a service whose signing key is configured. -/
structure UserReservationTokenCodec where
  sign : UserReservationClaims → String
  verify : String → Except TokenFailure UserReservationClaims
  hash : String → String

def reservationClaims (row : UserAiuReservation) : UserReservationClaims where
  reservationId := row.id
  applicationId := row.applicationId
  userId := row.userId
  quotaId := row.quotaId
  operationId := row.operationId
  virtualModel := row.virtualModel
  candidateModelIds := row.candidateModelIds.insertionSort (· ≤ ·)
  reservedAiuMicros := row.reservedAiuMicros
  expiresAt := row.expiresAt

def assertReservationTokenLineage (codec : UserReservationTokenCodec) (row : UserAiuReservation)
    (claims : UserReservationClaims) (token : String) : Except Failure Unit :=
  require (codec.hash token = row.tokenHash ∧ claims = reservationClaims row)
    (.conflict "Reservation token lineage is invalid")

/-! ## Answers -/

def remainingAiu (quota : UserAiuQuota) : Int :=
  let value := quota.limitAiuMicros - quota.consumedAiuMicros - quota.reservedAiuMicros
  if value > 0 then value else 0

structure ReservationUserSummary where
  id : Uuid
  limitAiuMicros : Option Int
  usedAiuMicros : Int
  reservedAiuMicros : Int
  remainingAiuMicros : Option Int
  deriving DecidableEq, Repr

def reservationUserSummary (userId : Uuid) (quota : Option UserAiuQuota) : ReservationUserSummary where
  id := userId
  limitAiuMicros := quota.map (·.limitAiuMicros)
  usedAiuMicros := (quota.map (·.consumedAiuMicros)).getD 0
  reservedAiuMicros := (quota.map (·.reservedAiuMicros)).getD 0
  remainingAiuMicros := quota.map remainingAiu

inductive ReservationReason where
  | userBlocked
  | quotaNotSet
  | quotaObservedOnly
  | quotaPeriodEnded
  | quotaExhausted
  | operationAlreadyClosed
  | reserved
  deriving DecidableEq, Repr

structure IssuedReservation where
  id : Uuid
  token : String
  reservedAiuMicros : Int
  expiresAt : Timestamp
  deriving DecidableEq, Repr

structure ReservationAnswer where
  allowed : Bool
  reason : ReservationReason
  user : ReservationUserSummary
  reservation : Option IssuedReservation
  deriving DecidableEq, Repr

def reservationDenied (userId : Uuid) (reason : ReservationReason) (quota : Option UserAiuQuota) : ReservationAnswer :=
  ⟨false, reason, reservationUserSummary userId quota, none⟩

structure TransitionAnswer where
  reservationId : Uuid
  status : AiuReservationStatus
  settledAiuMicros : Int
  user : ReservationUserSummary
  deriving DecidableEq, Repr

def reservationTransitionResult (row : UserAiuReservation) (quota : UserAiuQuota) : TransitionAnswer :=
  ⟨row.id, row.status, row.settledAiuMicros, reservationUserSummary row.userId (some quota)⟩

def retryableReservationConflict : Failure := .retryable "User quota changed concurrently"

/-! ## Rollover -/

/-- The clock readings of one `create`, in source order. -/
structure CreateClock where
  policy : Timestamp
  ended : Timestamp
  due : Timestamp
  start : Timestamp
  reserve : Timestamp
  deriving DecidableEq, Repr

def rolledOver (window : QuotaPeriodWindowValue) (q : UserAiuQuota) : UserAiuQuota :=
  { q with consumedAiuMicros := 0, reservedAiuMicros := 0, periodStart := window.start, periodEnd := window.end_ }

def rolloverReservationQuota (s : QuotaStore) (quota : UserAiuQuota) (userId applicationId : Uuid)
    (timezone : Timezone) (clock : CreateClock) (entry : Stamp) : Except Failure (UserAiuQuota × QuotaStore) := do
  match quota.periodEnd with
  | none => return (quota, s)
  | some periodEnd =>
    if periodEnd > clock.due then return (quota, s)
    let window ← aiuQuotaPeriodWindow quota.periodType timezone clock.start none
    require window.end_.isSome (.conflict "A lifetime quota cannot expire")
    let (s, count) ← s.updateQuotas
      (fun q => q.id == quota.id && q.applicationId == applicationId && q.lockVersion == quota.lockVersion)
      (rolledOver window)
    require (count = 1) retryableReservationConflict
    let (s, _) ← s.updateReservations
      (fun r => r.applicationId == applicationId && r.quotaId == quota.id && r.status == .reserved)
      fun r => (.expired, r.settledAiuMicros)
    let s ← s.insertLedgerEntry {
      id := entry.id
      createdAt := entry.createdAt
      applicationId := applicationId
      userId := userId
      quotaId := quota.id
      entryType := .expire
      consumedDeltaMicros := -quota.consumedAiuMicros
      reservedDeltaMicros := -quota.reservedAiuMicros
      consumedAfterMicros := 0
      reservedAfterMicros := 0
      limitAfterMicros := quota.limitAiuMicros
      idempotencyKey := .userQuotaPeriod quota.id periodEnd
      reason := "AIU quota period renewed" }
    return ({ rolledOver window quota with lockVersion := quota.lockVersion + 1 }, s)

/-! ## Create -/

structure UserReservationRequest where
  userId : String
  operationId : String
  virtualModel : String
  candidateModelIds : Option (List Uuid)
  estimatedAiuMicros : Nat
  deriving DecidableEq, Repr

/-- The user row `create` writes before its transaction. -/
def upsertApplicationUser (s : QuotaStore) (applicationId : Uuid) (externalId : String) (id : Uuid) :
    Except Failure (ApplicationUser × QuotaStore) := do
  match s.users.rows.find? fun u => u.applicationId == applicationId && u.externalId == externalId with
  | some user => return (user, s)
  | none =>
    let user : ApplicationUser := ⟨id, applicationId, externalId, .active⟩
    let users ← statement (s.users.insert user)
    return (user, { s with users })

/-- `available`: the enabled targets of the enabled virtual model the request names, if
    there is one. -/
def resolveCandidates (available : Option (List Uuid)) (request : UserReservationRequest) :
    Except Failure (List Uuid) :=
  match available with
  | none => .error (.notFound "Virtual model is not available")
  | some available =>
    let requested := request.candidateModelIds.getD available.eraseDups
    if requested.isEmpty || requested.any (fun id => !available.contains id) then
      .error (.conflict "Reservation candidates do not belong to the virtual model")
    else .ok (requested.eraseDups.insertionSort (· ≤ ·))

/-- The answer to a repeated operation id. -/
def existing (codec : UserReservationTokenCodec) (row : UserAiuReservation) (quota : Option UserAiuQuota)
    (request : UserReservationRequest) (candidates : List Uuid) : Except Failure ReservationAnswer :=
  if row.virtualModel ≠ request.virtualModel ∨ row.estimatedAiuMicros ≠ request.estimatedAiuMicros ∨
      row.candidateModelIds.insertionSort (· ≤ ·) ≠ candidates then
    .error (.conflict "Operation ID was already used for another reservation")
  else if row.status ≠ .reserved then
    .ok (reservationDenied row.userId .operationAlreadyClosed quota)
  else
    let token := codec.sign (reservationClaims row)
    if codec.hash token ≠ row.tokenHash then .error (.conflict "Reservation token lineage conflict")
    else .ok ⟨true, .reserved, reservationUserSummary row.userId quota,
      some ⟨row.id, token, row.reservedAiuMicros, row.expiresAt⟩⟩

/-- What the service is configured with. -/
structure ReservationSettings where
  codec : UserReservationTokenCodec
  ttlSeconds : Nat

/-- One `create`: the request, the candidates resolved for it, and what is generated. -/
structure CreateCall where
  applicationId : Uuid
  timezone : Timezone
  request : UserReservationRequest
  candidates : List Uuid
  userId : Uuid
  clock : CreateClock
  policyIds : MaterializeIds
  rolloverEntry : Stamp
  reservationId : Uuid
  reserveEntry : Stamp

/-- The reservation row a `create` writes. -/
def newReservation (settings : ReservationSettings) (call : CreateCall) (userId : Uuid) (quota : UserAiuQuota) :
    UserAiuReservation :=
  let expiresAt := call.clock.reserve + (settings.ttlSeconds : Int) * 1000
  let row : UserAiuReservation := {
    id := call.reservationId
    applicationId := call.applicationId
    userId := userId
    quotaId := quota.id
    operationId := call.request.operationId
    virtualModel := call.request.virtualModel
    candidateModelIds := call.candidates
    estimatedAiuMicros := call.request.estimatedAiuMicros
    reservedAiuMicros := call.request.estimatedAiuMicros
    tokenHash := ""
    expiresAt := expiresAt }
  { row with tokenHash := settings.codec.hash (settings.codec.sign (reservationClaims row)) }

/-- The last part of the transaction: the balance check and the reservation. -/
def reserve (settings : ReservationSettings) (s : QuotaStore) (call : CreateCall) (userId : Uuid)
    (quota : UserAiuQuota) : Except Failure (ReservationAnswer × QuotaStore) := do
  let estimate : Int := call.request.estimatedAiuMicros
  if estimate > remainingAiu quota then return (reservationDenied userId .quotaExhausted (some quota), s)
  let created := newReservation settings call userId quota
  let (s, count) ← s.updateQuotas
    (fun q => q.id == quota.id && q.applicationId == call.applicationId && q.lockVersion == quota.lockVersion)
    fun q => { q with reservedAiuMicros := q.reservedAiuMicros + estimate }
  require (count = 1) retryableReservationConflict
  let s ← s.insertReservation created
  let projectedReserved := quota.reservedAiuMicros + estimate
  let s ← s.insertLedgerEntry {
    id := call.reserveEntry.id
    createdAt := call.reserveEntry.createdAt
    applicationId := call.applicationId
    userId := userId
    quotaId := quota.id
    entryType := .reserve
    reservedDeltaMicros := estimate
    consumedAfterMicros := quota.consumedAiuMicros
    reservedAfterMicros := projectedReserved
    limitAfterMicros := quota.limitAiuMicros
    sourceReservationId := some created.id
    idempotencyKey := .reservationReserve created.id
    reason := "AIU reserved before model call" }
  return (⟨true, .reserved, reservationUserSummary userId (some { quota with reservedAiuMicros := projectedReserved }),
    some ⟨created.id, settings.codec.sign (reservationClaims created), estimate, created.expiresAt⟩⟩, s)

/-- The transaction of `create`. Every answer that is not an error commits what the
    policy and the rollover wrote. -/
def createReservation (settings : ReservationSettings) (s : QuotaStore) (call : CreateCall) :
    Except Failure (ReservationAnswer × QuotaStore) := do
  let (_, s) ← materializeEffectiveAiuQuotaPolicy s
    ⟨call.applicationId, call.userId, policyWindow call.timezone call.clock.policy,
      "Applied the effective AIU quota rule before model access"⟩ call.policyIds
  match s.users.rows.find? fun u => u.applicationId == call.applicationId && u.id == call.userId with
  | none => throw (.notFound "Application user not found")
  | some current =>
    match s.quotaOf call.applicationId current.id with
    | none =>
      if current.status = .blocked then return (reservationDenied current.id .userBlocked none, s)
      return (⟨true, .quotaNotSet, reservationUserSummary current.id none, none⟩, s)
    | some quota =>
      if current.status = .blocked then return (reservationDenied current.id .userBlocked (some quota), s)
      if !quota.enabled || !quota.hardLimit then
        return (⟨true, .quotaObservedOnly, reservationUserSummary current.id (some quota), none⟩, s)
      if quota.periodType = .fixedWindow ∧ quota.periodEnd.any (fun e => decide (e ≤ call.clock.ended)) then
        return (reservationDenied current.id .quotaPeriodEnded (some quota), s)
      let (quota, s) ← rolloverReservationQuota s quota current.id call.applicationId call.timezone call.clock
        call.rolloverEntry
      match s.reservations.rows.find? fun r => r.applicationId == call.applicationId && r.userId == current.id &&
          r.operationId == call.request.operationId with
      | some row => do
        let answer ← existing settings.codec row (s.quotaById row.applicationId row.quotaId) call.request call.candidates
        return (answer, s)
      | none => reserve settings s call current.id quota

/-! ## Settle and release -/

inductive TransitionAction where
  | settle (actual : Nat)
  | release (reason : String)
  deriving DecidableEq, Repr

/-- The status and the settled amount an action leaves. -/
def TransitionAction.closed (action : TransitionAction) (r : UserAiuReservation) : AiuReservationStatus × Int :=
  match action with
  | .settle actual => (.settled, actual)
  | .release _ => (.released, r.settledAiuMicros)

def TransitionAction.consumed : TransitionAction → Int
  | .settle actual => actual
  | .release _ => 0

structure TransitionCall where
  applicationId : Uuid
  id : Uuid
  token : String
  action : TransitionAction
  entry : Stamp

/-- `Reservation token does not match this application or path`, checked before the
    transaction opens. -/
def verifyTransitionToken (codec : UserReservationTokenCodec) (call : TransitionCall) :
    Except Failure UserReservationClaims :=
  match codec.verify call.token with
  | .error e => .error e.failure
  | .ok verified => do
    require (verified.reservationId = call.id ∧ verified.applicationId = call.applicationId)
      (.conflict "Reservation token does not match this application or path")
    return verified

def transitionEntry (call : TransitionCall) (row : UserAiuReservation) (quota : UserAiuQuota) : UserAiuLedgerEntry where
  id := call.entry.id
  createdAt := call.entry.createdAt
  applicationId := call.applicationId
  userId := row.userId
  quotaId := row.quotaId
  entryType := match call.action with
    | .settle _ => .settlementDelta
    | .release _ => .reservationRelease
  consumedDeltaMicros := call.action.consumed
  reservedDeltaMicros := -row.reservedAiuMicros
  consumedAfterMicros := quota.consumedAiuMicros + call.action.consumed
  reservedAfterMicros := quota.reservedAiuMicros - row.reservedAiuMicros
  limitAfterMicros := quota.limitAiuMicros
  sourceReservationId := some row.id
  idempotencyKey := match call.action with
    | .settle _ => .reservationSettle row.id
    | .release _ => .reservationRelease row.id
  reason := match call.action with
    | .settle _ => "AIU reservation settled"
    | .release reason => reason

/-- Closing an open reservation: the rest of the transaction once its status is known. -/
def closeReservation (s : QuotaStore) (call : TransitionCall) (row : UserAiuReservation) (quota : UserAiuQuota) :
    Except Failure (TransitionAnswer × QuotaStore) := do
  let (s, changed) ← s.updateReservations
    (fun r => r.id == call.id && r.applicationId == call.applicationId && r.lockVersion == row.lockVersion &&
      r.status == .reserved) call.action.closed
  require (changed = 1) retryableReservationConflict
  let (s, quotaChanged) ← s.updateQuotas
    (fun q => q.id == row.quotaId && q.applicationId == call.applicationId && q.lockVersion == quota.lockVersion)
    fun q => { q with
      reservedAiuMicros := q.reservedAiuMicros - row.reservedAiuMicros
      consumedAiuMicros := q.consumedAiuMicros + call.action.consumed }
  require (quotaChanged = 1) retryableReservationConflict
  let s ← s.insertLedgerEntry (transitionEntry call row quota)
  return (reservationTransitionResult { row with
      status := (call.action.closed row).1, settledAiuMicros := (call.action.closed row).2 }
    { quota with
      consumedAiuMicros := quota.consumedAiuMicros + call.action.consumed
      reservedAiuMicros := quota.reservedAiuMicros - row.reservedAiuMicros }, s)

def transition (codec : UserReservationTokenCodec) (s : QuotaStore) (call : TransitionCall) :
    Except Failure (TransitionAnswer × QuotaStore) := do
  let verified ← verifyTransitionToken codec call
  match s.reservations.rows.find? fun r => r.id == call.id && r.applicationId == call.applicationId with
  | none => throw (.notFound "AIU reservation not found")
  | some row =>
    match s.quotaById row.applicationId row.quotaId with
    | none => throw (.notFound "AIU reservation not found")
    | some quota =>
      assertReservationTokenLineage codec row verified call.token
      match row.status, call.action with
      | .settled, .settle actual =>
        require (row.settledAiuMicros = actual) (.conflict "AIU reservation is already settled")
        return (reservationTransitionResult row quota, s)
      | .settled, .release _ => throw (.conflict "AIU reservation is already settled")
      | .reserved, _ => closeReservation s call row quota
      | _, .release _ => return (reservationTransitionResult row quota, s)
      | _, .settle _ => throw (.conflict "AIU reservation is already closed")

end TokenPilot.Quota
