/-
  TokenPilot.Quota.Store — the AIU quota tables of PostgreSQL (schema
  28-application-users, 30-user-groups, 33-aiu-quota-policies, and the constraints of
  migration 20260718000004_current_invariants).

  Identifiers are 128-bit UUIDs, ordered as numbers, which is how PostgreSQL orders
  them and how their lower-case text sorts. Instants are milliseconds since the epoch.
  BIGINT columns are integers without a bound: counters and limits are taken to stay
  within 64 bits. What else PostgreSQL refuses (a negative counter, an empty period, a
  repeated key) the tables refuse.

  Left out, because no function below reads them: `createdAt` of quotas and
  reservations (with the CHECK `expires_at > created_at`), `updatedAt` except the
  policies', `settledAt` and `releasedAt`, a user's name, tags and properties, and the
  CHECK on the length of an external id, which requests have passed already.
-/

import TokenPilot.Library.Machine
import TokenPilot.Library.Table

namespace TokenPilot.Quota

open TokenPilot.Library

abbrev Uuid := Nat
abbrev Timestamp := Int

inductive QuotaPeriodType where
  | calendarDay
  | calendarWeek
  | calendarMonth
  | fixedWindow
  | lifetime
  | unknown
  deriving DecidableEq, Repr

inductive AiuQuotaPolicyScope where
  | application
  | userGroup
  | user
  deriving DecidableEq, Repr

inductive AiuReservationStatus where
  | reserved
  | settled
  | released
  | expired
  | unknown
  deriving DecidableEq, Repr

inductive AiuLedgerEntryType where
  | grant
  | consume
  | refund
  | adjustment
  | expire
  | reserve
  | reservationRelease
  | settlementDelta
  | reversal
  deriving DecidableEq, Repr

inductive ApplicationUserStatus where
  | active
  | blocked
  deriving DecidableEq, Repr

/-- How a call ends when it does not return. -/
inductive Failure where
  | typeError (message : String)
  | conflict (message : String)
  | notFound (message : String)
  | badRequest (message : String)
  /-- An error with the code `P2034`, or a lost lease: the callers retry it. -/
  | retryable (message : String)
  /-- A statement PostgreSQL refused (`P2002` or a CHECK). -/
  | database (violation : Violation)
  deriving DecidableEq, Repr

/-- `UserAiuLedgerEntry.idempotencyKey`, by the templates that produce it. Event ids,
    UUIDs and ISO instants contain no separator that could make two templates meet. -/
inductive LedgerKey where
  /-- `user-reservation:<reservation>:reserve`, and so on. -/
  | reservationReserve (reservationId : Uuid)
  | reservationSettle (reservationId : Uuid)
  | reservationRelease (reservationId : Uuid)
  | reservationExpire (reservationId : Uuid)
  /-- `user-quota:<quota>:period:<period end>` -/
  | userQuotaPeriod (quotaId : Uuid) (periodEnd : Timestamp)
  /-- `quota-policy:<policy or none>:<user>:<random>` -/
  | quotaPolicy (policyId : Option Uuid) (userId nonce : Uuid)
  /-- `quota-setting:<random>` -/
  | quotaSetting (nonce : Uuid)
  /-- `quota-reset:<random>` -/
  | quotaReset (nonce : Uuid)
  /-- `group-quota-reset:<evaluation>:<user>:<random>` -/
  | groupQuotaReset (evaluationId userId nonce : Uuid)
  /-- `user-usage:<event>:settle` -/
  | usageSettle (eventId : String)
  /-- `user-usage:<event>:settle-reconciliation` -/
  | usageReconciliation (eventId : String)
  /-- `user-usage:<event>:consume` -/
  | usageConsume (eventId : String)
  deriving DecidableEq, Repr

/-! ## Rows -/

structure ApplicationUser where
  id : Uuid
  applicationId : Uuid
  externalId : String
  status : ApplicationUserStatus
  deriving DecidableEq, Repr

structure UserAiuQuota where
  id : Uuid
  applicationId : Uuid
  userId : Uuid
  policyId : Option Uuid
  periodType : QuotaPeriodType
  periodStart : Timestamp
  periodEnd : Option Timestamp
  limitAiuMicros : Int
  consumedAiuMicros : Int := 0
  reservedAiuMicros : Int := 0
  hardLimit : Bool
  enabled : Bool := true
  lockVersion : Nat := 0
  deriving DecidableEq, Repr

structure UserAiuReservation where
  id : Uuid
  applicationId : Uuid
  userId : Uuid
  quotaId : Uuid
  operationId : String
  virtualModel : String
  candidateModelIds : List Uuid
  estimatedAiuMicros : Int
  reservedAiuMicros : Int
  settledAiuMicros : Int := 0
  tokenHash : String
  status : AiuReservationStatus := .reserved
  expiresAt : Timestamp
  lockVersion : Nat := 0
  deriving DecidableEq, Repr

structure UserAiuLedgerEntry where
  id : Uuid
  applicationId : Uuid
  userId : Uuid
  quotaId : Uuid
  entryType : AiuLedgerEntryType
  consumedDeltaMicros : Int := 0
  reservedDeltaMicros : Int := 0
  consumedAfterMicros : Int
  reservedAfterMicros : Int
  limitAfterMicros : Int
  sourceEventId : Option String := none
  sourceReservationId : Option Uuid := none
  idempotencyKey : LedgerKey
  reason : String
  createdAt : Timestamp
  deriving DecidableEq, Repr

structure AiuQuotaPolicy where
  id : Uuid
  applicationId : Uuid
  scope : AiuQuotaPolicyScope
  userId : Option Uuid
  userGroupId : Option Uuid
  limitAiuMicros : Int
  hardLimit : Bool
  periodType : QuotaPeriodType
  startsAt : Option Timestamp
  endsAt : Option Timestamp
  priority : Int := 0
  enabled : Bool := true
  updatedAt : Timestamp
  deriving DecidableEq, Repr

structure GroupEvaluation where
  evaluatedAt : Timestamp
  definitionVersion : Nat
  members : List Uuid
  deriving DecidableEq, Repr

structure ApplicationUserGroup where
  id : Uuid
  applicationId : Uuid
  definitionVersion : Nat
  evaluations : List GroupEvaluation
  deriving DecidableEq, Repr

/-! ## Constraints -/

instance : Row ApplicationUser where
  clash a b := a.id == b.id || (a.applicationId == b.applicationId && a.externalId == b.externalId)
  clash_self a := by simp
  clash_comm a b := by simp only [Bool.beq_comm]
  refused _ := none

instance : Row UserAiuQuota where
  clash a b := a.id == b.id || (a.applicationId == b.applicationId && a.userId == b.userId)
  clash_self a := by simp
  clash_comm a b := by simp only [Bool.beq_comm]
  refused q :=
    if ¬ (0 ≤ q.limitAiuMicros ∧ 0 ≤ q.consumedAiuMicros ∧ 0 ≤ q.reservedAiuMicros) then
      some "user_aiu_quotas_counters_check"
    else if q.periodEnd.any (fun e => decide (e ≤ q.periodStart)) then some "user_aiu_quotas_period_check"
    else none

instance : Row UserAiuReservation where
  clash a b := a.id == b.id ||
    (a.applicationId == b.applicationId && a.userId == b.userId && a.operationId == b.operationId)
  clash_self a := by simp
  clash_comm a b := by simp only [Bool.beq_comm]
  refused r :=
    if 0 ≤ r.estimatedAiuMicros ∧ 0 ≤ r.reservedAiuMicros ∧ 0 ≤ r.settledAiuMicros then none
    else some "user_aiu_reservations_amounts_check"

instance : Row UserAiuLedgerEntry where
  clash a b := a.id == b.id || (a.applicationId == b.applicationId && a.idempotencyKey == b.idempotencyKey)
  clash_self a := by simp
  clash_comm a b := by simp only [Bool.beq_comm]
  refused e :=
    if 0 ≤ e.consumedAfterMicros ∧ 0 ≤ e.reservedAfterMicros ∧ 0 ≤ e.limitAfterMicros then none
    else some "user_aiu_ledger_snapshots_check"

/-- A NULL subject is unique to nobody; the partial index keeps one application
    policy. A comparison with a NULL `ends_at` does not refuse the row. -/
instance : Row AiuQuotaPolicy where
  clash a b := a.id == b.id || (a.applicationId == b.applicationId &&
    ((a.userId.isSome && a.userId == b.userId) || (a.userGroupId.isSome && a.userGroupId == b.userGroupId) ||
      (a.scope == .application && b.scope == .application)))
  clash_self a := by simp
  clash_comm a b := by
    have h : ∀ x y : Option Uuid, (x.isSome && x == y) = (y.isSome && y == x) := by
      intro x y
      by_cases e : x = y
      · rw [e]
      · rw [beq_false_of_ne e, beq_false_of_ne (Ne.symm e), Bool.and_false, Bool.and_false]
    rw [Bool.beq_comm, Bool.beq_comm (a := a.applicationId), h a.userId, h a.userGroupId,
      Bool.and_comm (a.scope == .application)]
  refused p :=
    let subject := match p.scope with
      | .application => p.userId.isNone && p.userGroupId.isNone
      | .user => p.userId.isSome && p.userGroupId.isNone
      | .userGroup => p.userId.isNone && p.userGroupId.isSome
    let period := if p.periodType = .fixedWindow then
        match p.startsAt, p.endsAt with
        | some a, some b => decide (a < b)
        | some _, none => true
        | none, _ => false
      else p.startsAt.isNone && p.endsAt.isNone
    if p.limitAiuMicros < 0 then some "aiu_quota_policies_limit_check"
    else if !period then some "aiu_quota_policies_period_check"
    else if p.priority < 0 then some "aiu_quota_policies_priority_check"
    else if !subject then some "aiu_quota_policies_subject_check"
    else none

structure QuotaStore where
  users : Table ApplicationUser
  policies : Table AiuQuotaPolicy
  groups : List ApplicationUserGroup
  quotas : Table UserAiuQuota
  reservations : Table UserAiuReservation
  ledger : Table UserAiuLedgerEntry

def QuotaStore.empty : QuotaStore := ⟨.empty, .empty, [], .empty, .empty, .empty⟩

/-! ## Statements -/

/-- A statement of a transaction: what PostgreSQL refuses fails the call. -/
def statement {α : Type} : Except Violation α → Except Failure α
  | .ok a => .ok a
  | .error v => .error (.database v)

theorem statement_ok {α : Type} {x : Except Violation α} {a : α} (h : statement x = .ok a) : x = .ok a := by
  cases x with
  | ok b => cases h; rfl
  | error v => cases h

theorem statement_error {α : Type} {x : Except Violation α} {e : Failure} (h : statement x = .error e) :
    ∃ v, x = .error v ∧ e = .database v := by
  cases x with
  | ok b => cases h
  | error v => cases h; exact ⟨v, rfl, rfl⟩

/-- A check of a transaction that throws when it fails. -/
def require (holds : Prop) [Decidable holds] (failure : Failure) : Except Failure Unit :=
  if holds then .ok () else .error failure

theorem require_ok {holds : Prop} [Decidable holds] {failure : Failure} {u : Unit}
    (h : require holds failure = .ok u) : holds := by
  unfold require at h
  split at h
  · assumption
  · cases h

theorem require_of {holds : Prop} [Decidable holds] (failure : Failure) (h : holds) : require holds failure = .ok () :=
  if_pos h

theorem require_error {holds : Prop} [Decidable holds] {failure e : Failure}
    (h : require holds failure = .error e) : ¬ holds ∧ e = failure := by
  unfold require at h
  split at h
  · cases h
  · cases h; exact ⟨‹_›, rfl⟩

/-- What PostgreSQL and the client generate for a ledger row. -/
structure Stamp where
  id : Uuid
  createdAt : Timestamp
  deriving DecidableEq, Repr

/-- The row an update leaves: a writer sets no key, and every write increments the lock version. -/
def UserAiuQuota.written (data : UserAiuQuota → UserAiuQuota) (q : UserAiuQuota) : UserAiuQuota :=
  { data q with
    id := q.id, applicationId := q.applicationId, userId := q.userId, lockVersion := q.lockVersion + 1 }

def UserAiuReservation.written (r : UserAiuReservation) (data : AiuReservationStatus × Int) : UserAiuReservation :=
  { r with status := data.1, settledAiuMicros := data.2, lockVersion := r.lockVersion + 1 }

namespace QuotaStore

/-- `findUnique` by `applicationId_userId`, which is also the `quota` relation of a user. -/
def quotaOf (s : QuotaStore) (applicationId userId : Uuid) : Option UserAiuQuota :=
  s.quotas.rows.find? fun q => q.applicationId == applicationId && q.userId == userId

/-- The `quota` relation of a reservation. -/
def quotaById (s : QuotaStore) (applicationId quotaId : Uuid) : Option UserAiuQuota :=
  s.quotas.rows.find? fun q => q.applicationId == applicationId && q.id == quotaId

def insertQuota (s : QuotaStore) (q : UserAiuQuota) : Except Failure QuotaStore := do
  let quotas ← statement (s.quotas.insert q)
  return { s with quotas }

def insertReservation (s : QuotaStore) (r : UserAiuReservation) : Except Failure QuotaStore := do
  let reservations ← statement (s.reservations.insert r)
  return { s with reservations }

def insertLedgerEntry (s : QuotaStore) (e : UserAiuLedgerEntry) : Except Failure QuotaStore := do
  let ledger ← statement (s.ledger.insert e)
  return { s with ledger }

/-- `userAiuQuota.updateMany` (and `update`), by the columns a writer may set. -/
def updateQuotas (s : QuotaStore) (where_ : UserAiuQuota → Bool) (data : UserAiuQuota → UserAiuQuota) :
    Except Failure (QuotaStore × Nat) := do
  let (quotas, count) ← statement (s.quotas.updateMany where_ (·.written data) fun _ _ => rfl)
  return ({ s with quotas }, count)

/-- `userAiuReservation.updateMany`: writers set the status and the settled amount only. -/
def updateReservations (s : QuotaStore) (where_ : UserAiuReservation → Bool)
    (data : UserAiuReservation → AiuReservationStatus × Int) : Except Failure (QuotaStore × Nat) := do
  let (reservations, count) ← statement (s.reservations.updateMany where_ (fun r => r.written (data r)) fun _ _ => rfl)
  return ({ s with reservations }, count)

/-! ## What a statement did -/

section Statements

variable {s s' : QuotaStore}

theorem insertQuota_ok {q : UserAiuQuota} (h : s.insertQuota q = .ok s') :
    (∀ x ∈ s.quotas.rows, Row.clash x q = false) ∧
      ∃ quotas, s' = { s with quotas } ∧ quotas.rows = s.quotas.rows ++ [q] := by
  obtain ⟨quotas, hq, hs⟩ := bind_ok h
  obtain ⟨-, hu, hrows⟩ := Table.insert_ok (statement_ok hq)
  cases hs
  exact ⟨hu, quotas, rfl, hrows⟩

theorem insertReservation_ok {r : UserAiuReservation} (h : s.insertReservation r = .ok s') :
    (∀ x ∈ s.reservations.rows, Row.clash x r = false) ∧
      ∃ reservations, s' = { s with reservations } ∧ reservations.rows = s.reservations.rows ++ [r] := by
  obtain ⟨reservations, hr, hs⟩ := bind_ok h
  obtain ⟨-, hu, hrows⟩ := Table.insert_ok (statement_ok hr)
  cases hs
  exact ⟨hu, reservations, rfl, hrows⟩

theorem insertLedgerEntry_ok {e : UserAiuLedgerEntry} (h : s.insertLedgerEntry e = .ok s') :
    (∀ x ∈ s.ledger.rows, Row.clash x e = false) ∧
      ∃ ledger, s' = { s with ledger } ∧ ledger.rows = s.ledger.rows ++ [e] := by
  obtain ⟨ledger, he, hs⟩ := bind_ok h
  obtain ⟨-, hu, hrows⟩ := Table.insert_ok (statement_ok he)
  cases hs
  exact ⟨hu, ledger, rfl, hrows⟩

theorem updateQuotas_ok {p : UserAiuQuota → Bool} {data : UserAiuQuota → UserAiuQuota} {n : Nat}
    (h : s.updateQuotas p data = .ok (s', n)) : ∃ quotas, s' = { s with quotas } := by
  obtain ⟨⟨quotas, m⟩, -, hs⟩ := bind_ok h
  cases hs
  exact ⟨quotas, rfl⟩

/-- An update of one quota, by its id and under a count of 1 or a selection that holds of it. -/
theorem updateQuota_ok {p : UserAiuQuota → Bool} {data : UserAiuQuota → UserAiuQuota} {n : Nat}
    (h : s.updateQuotas p data = .ok (s', n)) {q : UserAiuQuota} (hq : q ∈ s.quotas.rows)
    (hp : ∀ x, p x = true → x.id = q.id) (hn : n = 1 ∨ p q = true) :
    p q = true ∧ ∃ quotas, s' = { s with quotas } ∧ quotas.rows = replace q (q.written data) s.quotas.rows := by
  obtain ⟨⟨quotas, m⟩, hu, hs⟩ := bind_ok h
  cases hs
  obtain ⟨hpq, -, hrows⟩ := Table.updateMany_one (statement_ok hu) hq
    (fun x hx => by simp [Row.clash, hp x hx]) hn
  exact ⟨hpq, quotas, rfl, hrows⟩

/-- An update by the id of a quota changed one row, or selects none and changed nothing. -/
theorem updateQuotas_cases {p : UserAiuQuota → Bool} {data : UserAiuQuota → UserAiuQuota} {n : Nat} {id : Uuid}
    (h : s.updateQuotas p data = .ok (s', n)) (hp : ∀ x, p x = true → x.id = id) :
    (n ≠ 1 ∧ s' = s ∧ ∀ q ∈ s.quotas.rows, p q = false) ∨
      ∃ q ∈ s.quotas.rows, n = 1 ∧ p q = true ∧ ∃ quotas, s' = { s with quotas } ∧
        quotas.rows = replace q (q.written data) s.quotas.rows := by
  by_cases hex : ∃ q ∈ s.quotas.rows, p q = true
  · obtain ⟨q, hq, hpq⟩ := hex
    have hid : ∀ x, p x = true → x.id = q.id := fun x hx => (hp x hx).trans (hp q hpq).symm
    obtain ⟨-, hrest⟩ := updateQuota_ok h hq hid (Or.inr hpq)
    obtain ⟨⟨quotas, m⟩, hu, hs⟩ := bind_ok h
    cases hs
    obtain ⟨-, -, hcount⟩ := Table.updateMany_ok (statement_ok hu)
    refine Or.inr ⟨q, hq, ?_, hpq, hrest⟩
    rw [hcount]
    exact (s.quotas.countP_one hq fun x hx => by simp [Row.clash, hid x hx]).mpr hpq
  · have hnone : ∀ q ∈ s.quotas.rows, p q = false := by
      intro q hq
      rw [Bool.eq_false_iff]
      exact fun hpq => hex ⟨q, hq, hpq⟩
    obtain ⟨⟨quotas, m⟩, hu, hs⟩ := bind_ok h
    cases hs
    obtain ⟨-, hrows, hcount⟩ := Table.updateMany_ok (statement_ok hu)
    have hsame : quotas = s.quotas := Table.ext (hrows.trans (Table.map_rewrite_none hnone))
    refine Or.inl ⟨?_, by rw [hsame], hnone⟩
    have hzero : s.quotas.rows.countP p = 0 := List.countP_eq_zero.mpr fun q hq => by rw [hnone q hq]; exact Bool.false_ne_true
    rw [hcount, hzero]
    decide

theorem updateReservation_ok {p : UserAiuReservation → Bool}
    {data : UserAiuReservation → AiuReservationStatus × Int} {n : Nat}
    (h : s.updateReservations p data = .ok (s', n)) {r : UserAiuReservation} (hr : r ∈ s.reservations.rows)
    (hp : ∀ x, p x = true → x.id = r.id) (hn : n = 1 ∨ p r = true) :
    p r = true ∧ ∃ reservations, s' = { s with reservations } ∧
      reservations.rows = replace r (r.written (data r)) s.reservations.rows := by
  obtain ⟨⟨reservations, m⟩, hu, hs⟩ := bind_ok h
  cases hs
  obtain ⟨hpr, -, hrows⟩ := Table.updateMany_one (statement_ok hu) hr
    (fun x hx => by simp [Row.clash, hp x hx]) hn
  exact ⟨hpr, reservations, rfl, hrows⟩

theorem updateReservations_ok {p : UserAiuReservation → Bool}
    {data : UserAiuReservation → AiuReservationStatus × Int} {n : Nat}
    (h : s.updateReservations p data = .ok (s', n)) :
    ∃ reservations, s' = { s with reservations } ∧
      reservations.rows = s.reservations.rows.map (Table.rewrite p fun r => r.written (data r)) := by
  obtain ⟨⟨reservations, m⟩, hu, hs⟩ := bind_ok h
  cases hs
  obtain ⟨-, hrows, -⟩ := Table.updateMany_ok (statement_ok hu)
  exact ⟨reservations, rfl, hrows⟩

/-! A statement that fails fails on a constraint of its table. -/

theorem updateQuotas_error {p : UserAiuQuota → Bool} {data : UserAiuQuota → UserAiuQuota} {e : Failure}
    (h : s.updateQuotas p data = .error e) :
    ∃ q ∈ s.quotas.rows, p q = true ∧ ∃ c, e = .database (.check c) ∧ Row.refused (q.written data) = some c := by
  rcases bind_error h with h | ⟨a, -, h⟩
  · obtain ⟨v, hv, rfl⟩ := statement_error h
    obtain ⟨q, hq, hp, c, rfl, hc⟩ := Table.updateMany_check hv
    exact ⟨q, hq, hp, c, rfl, hc⟩
  · cases h

theorem updateReservations_error {p : UserAiuReservation → Bool}
    {data : UserAiuReservation → AiuReservationStatus × Int} {e : Failure}
    (h : s.updateReservations p data = .error e) :
    ∃ r ∈ s.reservations.rows, p r = true ∧ ∃ c, e = .database (.check c) ∧
      Row.refused (r.written (data r)) = some c := by
  rcases bind_error h with h | ⟨a, -, h⟩
  · obtain ⟨v, hv, rfl⟩ := statement_error h
    obtain ⟨r, hr, hp, c, rfl, hc⟩ := Table.updateMany_check hv
    exact ⟨r, hr, hp, c, rfl, hc⟩
  · cases h

theorem insertLedgerEntry_error {entry : UserAiuLedgerEntry} {e : Failure} (h : s.insertLedgerEntry entry = .error e) :
    e = .database .unique ∨ ∃ c, e = .database (.check c) ∧ Row.refused entry = some c := by
  rcases bind_error h with h | ⟨a, -, h⟩
  · obtain ⟨v, hv, rfl⟩ := statement_error h
    cases v with
    | unique => exact Or.inl rfl
    | check c => exact Or.inr ⟨c, rfl, Table.insert_check hv⟩
  · cases h

/-! A statement that breaks no constraint goes through. -/

theorem updateReservation_of {p : UserAiuReservation → Bool} {d : UserAiuReservation → AiuReservationStatus × Int}
    {r : UserAiuReservation} (hr : r ∈ s.reservations.rows) (hp : ∀ x, p x = true → x.id = r.id) (h : p r = true)
    (hc : Row.refused (r.written (d r)) = none) :
    ∃ reservations, s.updateReservations p d = .ok ({ s with reservations }, 1) ∧
      reservations.rows = replace r (r.written (d r)) s.reservations.rows := by
  obtain ⟨reservations, hu, hrows⟩ := Table.updateMany_of_one (t := s.reservations) (p := p)
    (f := fun r => r.written (d r)) (fun _ _ => rfl) hr (fun x hx => by simp [Row.clash, hp x hx]) h hc
  exact ⟨reservations, bind_of (by rw [hu]; rfl) rfl, hrows⟩

theorem updateQuota_of {p : UserAiuQuota → Bool} {f : UserAiuQuota → UserAiuQuota} {q : UserAiuQuota}
    (hq : q ∈ s.quotas.rows) (hp : ∀ x, p x = true → x.id = q.id) (h : p q = true)
    (hc : Row.refused (q.written f) = none) :
    ∃ quotas, s.updateQuotas p f = .ok ({ s with quotas }, 1) ∧
      quotas.rows = replace q (q.written f) s.quotas.rows := by
  obtain ⟨quotas, hu, hrows⟩ := Table.updateMany_of_one (t := s.quotas) (p := p) (f := (·.written f)) (fun _ _ => rfl)
    hq (fun x hx => by simp [Row.clash, hp x hx]) h hc
  exact ⟨quotas, bind_of (by rw [hu]; rfl) rfl, hrows⟩

theorem updateQuota_refused {p : UserAiuQuota → Bool} {data : UserAiuQuota → UserAiuQuota} {q : UserAiuQuota}
    (hq : q ∈ s.quotas.rows) (hp : ∀ x, p x = true → x.id = q.id) (h : p q = true) {c : String}
    (hc : Row.refused (q.written data) = some c) : s.updateQuotas p data = .error (.database (.check c)) := by
  have hu : s.quotas.updateMany p (·.written data) (fun _ _ => rfl) = .error (.check c) := by
    cases hr : s.quotas.updateMany p (·.written data) (fun _ _ => rfl) with
    | ok a =>
      obtain ⟨-, hn, -⟩ := Table.updateMany_one hr hq (fun x hx => by simp [Row.clash, hp x hx]) (Or.inr h)
      rw [hc] at hn
      cases hn
    | error v =>
      obtain ⟨x, hx, hpx, c', rfl, hc'⟩ := Table.updateMany_check hr
      have hxq : x = q := s.quotas.eq_of_clash hx hq (by simp [Row.clash, hp x hpx])
      rw [hxq, hc] at hc'
      injection hc' with hc'
      rw [hc']
  exact bind_throws (by rw [hu]; rfl)

theorem insertLedgerEntry_of {e : UserAiuLedgerEntry} (hc : Row.refused e = none)
    (hu : ∀ x ∈ s.ledger.rows, Row.clash x e = false) :
    ∃ ledger, s.insertLedgerEntry e = .ok { s with ledger } ∧ ledger.rows = s.ledger.rows ++ [e] := by
  obtain ⟨ledger, hi, hrows⟩ := Table.insert_of hc hu
  exact ⟨ledger, bind_of (by rw [hi]; rfl) rfl, hrows⟩

theorem insertLedgerEntry_clash {e : UserAiuLedgerEntry} (hc : Row.refused e = none) {x : UserAiuLedgerEntry}
    (hx : x ∈ s.ledger.rows) (h : Row.clash x e = true) : s.insertLedgerEntry e = .error (.database .unique) :=
  bind_throws (by rw [Table.insert_error hc hx h]; rfl)

end Statements

/-! ## Reads -/

theorem quotaOf_mem {s : QuotaStore} {a u : Uuid} {q : UserAiuQuota} (h : s.quotaOf a u = some q) :
    q ∈ s.quotas.rows ∧ q.applicationId = a ∧ q.userId = u := by
  obtain ⟨hm, hp⟩ := Table.find?_mem h
  simp only [Bool.and_eq_true, beq_iff_eq] at hp
  exact ⟨hm, hp⟩

theorem quotaOf_of {s : QuotaStore} {q : UserAiuQuota} (hq : q ∈ s.quotas.rows) :
    s.quotaOf q.applicationId q.userId = some q :=
  s.quotas.find?_of_clash hq (by simp) fun x hx => by
    simp only [Bool.and_eq_true, beq_iff_eq] at hx
    simp [Row.clash, hx.1, hx.2]

theorem quotaOf_iff {s : QuotaStore} {a u : Uuid} {q : UserAiuQuota} :
    s.quotaOf a u = some q ↔ q ∈ s.quotas.rows ∧ q.applicationId = a ∧ q.userId = u := by
  constructor
  · exact quotaOf_mem
  · rintro ⟨hq, rfl, rfl⟩
    exact quotaOf_of hq

theorem quotaById_mem {s : QuotaStore} {a i : Uuid} {q : UserAiuQuota} (h : s.quotaById a i = some q) :
    q ∈ s.quotas.rows ∧ q.applicationId = a ∧ q.id = i := by
  obtain ⟨hm, hp⟩ := Table.find?_mem h
  simp only [Bool.and_eq_true, beq_iff_eq] at hp
  exact ⟨hm, hp⟩

theorem quota_eq_of_id {s : QuotaStore} {q q' : UserAiuQuota} (hq : q ∈ s.quotas.rows) (hq' : q' ∈ s.quotas.rows)
    (h : q.id = q'.id) : q = q' :=
  s.quotas.eq_of_clash hq hq' (by simp [Row.clash, h])

theorem quota_eq_of_user {s : QuotaStore} {q q' : UserAiuQuota} (hq : q ∈ s.quotas.rows) (hq' : q' ∈ s.quotas.rows)
    (ha : q.applicationId = q'.applicationId) (hu : q.userId = q'.userId) : q = q' :=
  s.quotas.eq_of_clash hq hq' (by simp [Row.clash, ha, hu])

theorem reservation_eq_of_id {s : QuotaStore} {r r' : UserAiuReservation} (hr : r ∈ s.reservations.rows)
    (hr' : r' ∈ s.reservations.rows) (h : r.id = r'.id) : r = r' :=
  s.reservations.eq_of_clash hr hr' (by simp [Row.clash, h])

theorem quota_counters {s : QuotaStore} {q : UserAiuQuota} (hq : q ∈ s.quotas.rows) :
    0 ≤ q.limitAiuMicros ∧ 0 ≤ q.consumedAiuMicros ∧ 0 ≤ q.reservedAiuMicros := by
  have h := s.quotas.checked q hq
  simp only [Row.refused] at h
  split at h
  · cases h
  · rename_i hc
    exact Classical.not_not.mp hc

theorem reservation_amounts {s : QuotaStore} {r : UserAiuReservation} (hr : r ∈ s.reservations.rows) :
    0 ≤ r.estimatedAiuMicros ∧ 0 ≤ r.reservedAiuMicros ∧ 0 ≤ r.settledAiuMicros := by
  have h := s.reservations.checked r hr
  simp only [Row.refused] at h
  split at h
  · assumption
  · cases h

/-- The application's ledger has an entry with the key. -/
def Taken (s : QuotaStore) (applicationId : Uuid) (key : LedgerKey) : Prop :=
  ∃ e ∈ s.ledger.rows, e.applicationId = applicationId ∧ e.idempotencyKey = key

instance (s : QuotaStore) (applicationId : Uuid) (key : LedgerKey) : Decidable (s.Taken applicationId key) :=
  inferInstanceAs (Decidable (∃ e ∈ s.ledger.rows, _ ∧ _))

/-- The ledger has no entry with the generated id. -/
def FreshStamp (s : QuotaStore) (stamp : Stamp) : Prop := ∀ e ∈ s.ledger.rows, e.id ≠ stamp.id

instance (s : QuotaStore) (stamp : Stamp) : Decidable (s.FreshStamp stamp) :=
  inferInstanceAs (Decidable (∀ e ∈ s.ledger.rows, _))

end QuotaStore

end TokenPilot.Quota
