/-
  TokenPilot.Quota.System — the quota store as one machine.

  An operation is one transaction of the services that write the quota tables: the
  runtime's reservation `create`, `settle` and `release`, policy materialization (the
  policy and group services, and the worker before it settles), the administrator's `save` and
  `reset`, the sweeper's `expire`, and the worker's `applyUserAiu`. The transactions
  are serializable or write under the lock version they read, so a run is a sequence
  of them; a conflicting attempt aborts and leaves the store as it was. `identify` is
  the user upsert before a `create`. `configure` stands for every other service: it
  may replace users, policies and groups by anything the tables accept, and writes no
  quota, reservation or ledger row.
-/

import TokenPilot.Quota.Administration
import TokenPilot.Quota.Settlement

namespace TokenPilot.Quota

open TokenPilot.Library

inductive Op where
  | configure (users : Table ApplicationUser) (policies : Table AiuQuotaPolicy) (groups : List ApplicationUserGroup)
  | identify (applicationId : Uuid) (externalId : String) (id : Uuid)
  | create (call : CreateCall)
  | transition (call : TransitionCall)
  | materialize (call : MaterializeCall)
  | save (call : SaveCall)
  | reset (call : ResetCall)
  | expire (call : ExpireCall)
  | applyUserAiu (call : AiuCall)

inductive Answer where
  | done
  | user (user : ApplicationUser)
  | reservation (answer : ReservationAnswer)
  | transition (answer : TransitionAnswer)
  | quota (quota : Option UserAiuQuota)
  | expired (swept : Bool)
  | consumption (consumption : Option UserAiuConsumption)
  deriving DecidableEq, Repr

def answered {α : Type} (f : α → Answer) (x : Except Failure (α × QuotaStore)) : Except Failure (Answer × QuotaStore) :=
  match x with
  | .ok (a, s) => .ok (f a, s)
  | .error e => .error e

def exec (settings : ReservationSettings) (s : QuotaStore) : Op → Except Failure (Answer × QuotaStore)
  | .configure users policies groups => .ok (.done, { s with users, policies, groups })
  | .identify applicationId externalId id => answered .user (upsertApplicationUser s applicationId externalId id)
  | .create call => answered .reservation (createReservation settings s call)
  | .transition call => answered .transition (Quota.transition settings.codec s call)
  | .materialize call => answered .quota (materializeEffectiveAiuQuotaPolicy s call.input call.ids)
  | .save call => answered (fun _ => .done) (Quota.save s call)
  | .reset call => answered (fun _ => .done) (Quota.reset s call)
  | .expire call => answered .expired (Quota.expire s call)
  | .applyUserAiu call => answered .consumption (Quota.applyUserAiu s call)

def system (settings : ReservationSettings) : Machine QuotaStore Op Answer Failure := ⟨exec settings⟩

/-- The states the store can reach from empty tables. -/
def Reachable (settings : ReservationSettings) (s : QuotaStore) : Prop :=
  ∃ ops, s = (system settings).run .empty ops

/-! ## A small application

One application with one user, a quota of a calendar day, and tokens that are looked up
in a table. The counterexamples and the concrete runs of the other modules are made of
these calls. -/

namespace Sample

def users : Table ApplicationUser := ⟨[⟨1, 0, "alice", .active⟩], by simp, by simp [Row.refused]⟩

/-- A policy for every user of the application. -/
def policies : Table AiuQuotaPolicy :=
  ⟨[⟨3, 0, .application, none, none, 10, true, .calendarDay, none, none, 0, true, 0⟩], by simp, by simp [Row.refused]⟩

def utc : Timezone := fun _ => 0

def codec (known : List (String × UserReservationClaims)) : UserReservationTokenCodec where
  sign claims := ((known.find? fun k => k.2 == claims).map (·.1)).getD "tpur1.unknown"
  verify token :=
    match known.find? fun k => k.1 == token with
    | some k => .ok k.2
    | none => .error .invalid
  hash token := token

def claims (id : Uuid) (operationId : String) (estimate : Nat) (now : Timestamp) : UserReservationClaims :=
  ⟨id, 0, 1, 2, operationId, "chat", [5], estimate, now + 300000⟩

def service : ReservationSettings := ⟨codec [("tpur1.7", claims 7 "call-1" 5 1000)], 300⟩

def known : Op := .configure users .empty []

def dailyCall (limit : Nat) : SaveCall where
  applicationId := 0
  userId := 1
  timezone := utc
  now := 0
  periodType := .calendarDay
  fixed := none
  limitAiuMicros := limit
  hardLimit := true
  policyId := 3
  policyUpdatedAt := 0
  quotaId := 2
  nonce := 100
  entry := ⟨100, 0⟩

def saveDaily (limit : Nat) : Op := .save (dailyCall limit)

def createCall (id : Uuid) (operationId : String) (estimate : Nat) (now : Timestamp) : CreateCall where
  applicationId := 0
  timezone := utc
  request := ⟨"alice", operationId, "chat", none, estimate⟩
  candidates := [5]
  userId := 1
  clock := ⟨now, now, now, now, now⟩
  policyIds := ⟨2, 200 + id, ⟨200 + id, now⟩⟩
  rolloverEntry := ⟨300 + id, now⟩
  reservationId := id
  reserveEntry := ⟨400 + id, now⟩

def create (id : Uuid) (operationId : String) (estimate : Nat) (now : Timestamp) : Op :=
  .create (createCall id operationId estimate now)

def settle (id : Uuid) (token : String) (actual : Nat) (now : Timestamp) : Op :=
  .transition ⟨0, id, token, .settle actual, ⟨500 + id, now⟩⟩

def rate (id : Uuid) (event : String) (actual : Option Nat) (now : Timestamp) : Op :=
  .applyUserAiu ⟨0, 1, some id, event, actual, ⟨600 + id, now⟩⟩

def firstEvent : String := "01K0A1B2C3D4E5F6G7H8J9KMN1"

def secondEvent : String := "01K0A1B2C3D4E5F6G7H8J9KMN2"

def unreservedEvent : String := "01K0A1B2C3D4E5F6G7H8J9KMN3"

/-- A quota of 10, and a reservation of 5. -/
def opened : List Op := [known, saveDaily 10, create 7 "call-1" 5 1000]

def reservation : UserAiuReservation where
  id := 7
  applicationId := 0
  userId := 1
  quotaId := 2
  operationId := "call-1"
  virtualModel := "chat"
  candidateModelIds := [5]
  estimatedAiuMicros := 5
  reservedAiuMicros := 5
  tokenHash := "tpur1.7"
  expiresAt := 301000

/-- The reservation settled by the SDK. -/
def spent : List Op := opened ++ [settle 7 "tpur1.7" 5 2000]

end Sample

end TokenPilot.Quota
