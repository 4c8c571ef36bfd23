/-
  TokenPilot.Operations.Ingestion — the ingestion of usage events (`usage-ingestion.service.ts`,
  `ingestion/property-validation.ts`, `ingestion/canonical-payload.ts`).

  A call of `ingest` checks the envelope, reads the property definitions, and takes the events one
  after the other: it rejects an event itself, or runs `persistEvent`, whose transaction first
  looks for the event id and, when it is not there, writes the user, the registry row and the
  inbox row. The acts of any number of calls interleave. What a transaction writes is there from
  its commit on, where the unique key lets one of two writers through; the other reads again. A
  commit may go through without its answer, and a call may fail, or stop for good, at any point.

  - `ingestion_once`: an event id of an application has one registry row and one inbox row at most,
    both of one event, and no two calls are told that it was accepted.
  - `rows_kept`: no row is ever changed.
  - `users_seen`: a user is seen first and last when the earliest and the latest of the user's
    events are.

  Left out: the registry columns that copy a member of the event, the lookups of its model and
  connection, and `received_at`. How zod reads `sent_at` and `Date.parse` a text are parameters.
-/

import Mathlib.Data.List.Nodup
import TokenPilot.Library.Machine
import TokenPilot.Management.Properties
import TokenPilot.Runtime.Integrity
import TokenPilot.Runtime.UsageEvent

namespace TokenPilot.Operations

open Library
open TokenPilot.Analytics (PropertyType)
open TokenPilot.Management (PropertyDefinition PropertyScope)
open TokenPilot.Runtime (Value Digest canonical contractIdPattern isStrictObject isText jsLength stringify usageEventSchema)
open TokenPilot.Runtime.Connector (fieldsOf get textOf)

/-! ## Properties -/

def lowerCase (s : String) : String := s.map Char.toLower

section Properties

variable (parsesDate : String → Bool)

def valueMatches (definition : PropertyDefinition) (value : Value) : Bool :=
  let limit := definition.constraints
  match definition.dataType, value with
  | .text, .str s => limit.maxLength.all fun most => jsLength s ≤ most
  | .number, .num n => (limit.min.all fun least => (least : ℚ) ≤ n.toRat) && limit.max.all fun most => n.toRat ≤ most
  | .boolean, .bool _ => true
  | .datetime, .str s => s.toList.contains 'T' && parsesDate s
  | .enum, .str s => definition.allowedValues.any (·.contains s)
  | .textList, .arr items =>
    (limit.maxItems.all fun most => items.length ≤ most) &&
      items.all (isText fun s => limit.maxLength.all fun most => jsLength s ≤ most)
  | _, _ => false

/-- The entry of the map; a later definition of a key replaces an earlier one. -/
def indexed (definitions : List PropertyDefinition) (scope : PropertyScope) (key : String) : Option PropertyDefinition :=
  (definitions.filter fun definition => definition.scope = scope && definition.key = key).getLast?

def validateScope (definitions : List PropertyDefinition) (scope : PropertyScope) (properties : Value) : Option String :=
  ((fieldsOf properties).getD []).findSome? fun (key, value) =>
    match indexed definitions scope key with
    | none => some (lowerCase scope.text ++ " property " ++ key ++ " is not defined")
    | some definition =>
      if valueMatches parsesDate definition value then none
      else some (lowerCase scope.text ++ " property " ++ key ++ " does not match " ++ lowerCase definition.dataType.name)

def validateEventProperties (event : Value) (definitions : List PropertyDefinition) : Option String :=
  (validateScope parsesDate definitions .event (get event "event_properties")).or
    (validateScope parsesDate definitions .user (get event "user_properties"))

end Properties

/-- `propertyDefinitions`: the active definitions, read only when some event has properties. -/
def propertyDefinitions (stored : List PropertyDefinition) (events : List Value) : List PropertyDefinition :=
  let hasProperties := events.any fun event =>
    ((fieldsOf event).getD []).any fun field => field.1 = "event_properties" || field.1 = "user_properties"
  if hasProperties then stored.filter (·.status = .active) else []

/-! ## A batch and its events -/

structure UsageIngestionOptions where
  maxBatchSize : Nat := 1000
  maxBatchBytes : Nat := 10 * 1024 * 1024
  maxEventBytes : Nat := 1024 * 1024

inductive UsageIngestionStatus where
  | accepted
  | duplicate
  | conflict
  | rejected
  deriving DecidableEq, Repr

structure UsageIngestionItemResult where
  index : Nat
  eventId : Option String
  status : UsageIngestionStatus
  code : Option String
  message : Option String
  deriving DecidableEq, Repr

structure ValidatedUsageEvent where
  index : Nat
  event : Value
  payloadHash : String

def ValidatedUsageEvent.eventId (input : ValidatedUsageEvent) : String := (textOf (get input.event "event_id")).getD ""

/-- How many bytes a text takes in UTF-8. -/
def byteLength (text : List Char) : Nat := (text.map Char.utf8Size).sum

structure UsageBatch where
  batchId : String
  events : List Value

inductive IngestFailure where
  | badRequest (message : String)
  | payloadTooLarge (message : String)
  deriving DecidableEq, Repr

def eventsSchema : Value → Bool
  | .arr events => 1 ≤ events.length
  | _ => false

def batchEnvelopeSchema (isDateTime : String → Bool) (input : Value) : Option UsageBatch :=
  if isStrictObject
      [("schema_version", isText (· = "2.0")), ("batch_id", isText fun s => 1 ≤ jsLength s && jsLength s ≤ 256),
        ("sent_at", isText isDateTime), ("events", eventsSchema)] [] input then
    match textOf (get input "batch_id"), get input "events" with
    | some batchId, .arr events => some ⟨batchId, events⟩
    | _, _ => none
  else none

/-- What `ingest` does before it reads the definitions. -/
def checkBatch (options : UsageIngestionOptions) (isDateTime : String → Bool) (input : Value) :
    Except IngestFailure UsageBatch :=
  if options.maxBatchBytes < byteLength (stringify input) then .error (.payloadTooLarge "Usage batch is too large")
  else
    match batchEnvelopeSchema isDateTime input with
    | none => .error (.badRequest "Body must satisfy the Usage Batch envelope")
    | some batch =>
      if options.maxBatchSize < batch.events.length then
        .error (.payloadTooLarge s!"Batch contains more than {options.maxBatchSize} events")
      else .ok batch

def possibleEventId (value : Value) : Option String := (textOf (get value "event_id")).filter contractIdPattern

/-- What the calls of one service share; `readsUuid` are the texts that a UUID column takes. -/
structure IngestionService where
  options : UsageIngestionOptions
  digest : Digest
  parsesDate : String → Bool
  isDateTime : String → Bool
  readsUuid : String → Bool

def rejected (index : Nat) (eventId : Option String) (code message : String) : UsageIngestionItemResult :=
  ⟨index, eventId, .rejected, some code, some message⟩

def validateEvent (service : IngestionService) (definitions : List PropertyDefinition) (index : Nat) (candidate : Value) :
    Except UsageIngestionItemResult ValidatedUsageEvent :=
  if usageEventSchema candidate then
    match validateEventProperties service.parsesDate candidate definitions with
    | some message => .error (rejected index (textOf (get candidate "event_id")) "INVALID_PROPERTY" message)
    | none =>
      if service.options.maxEventBytes < byteLength (canonical candidate) then
        .error (rejected index (textOf (get candidate "event_id")) "EVENT_TOO_LARGE"
          s!"The canonical event exceeds {service.options.maxEventBytes} bytes.")
      else .ok ⟨index, candidate, service.digest (canonical candidate)⟩
  else
    .error (rejected index (possibleEventId candidate) "INVALID_EVENT"
      "The event did not satisfy the Usage Event contract.")

def itemResult (input : ValidatedUsageEvent) (status : UsageIngestionStatus) : UsageIngestionItemResult :=
  if status ≠ .conflict then ⟨input.index, some input.eventId, status, none, none⟩
  else ⟨input.index, some input.eventId, status, some "PAYLOAD_HASH_CONFLICT",
    some "event_id already exists with a different canonical payload hash"⟩

/-! ## The store -/

structure UsageEventRegistry where
  applicationId : String
  eventId : String
  payloadHash : String
  externalUserId : String
  eventTime : Int

def UsageEventRegistry.key (row : UsageEventRegistry) : String × String := (row.applicationId, row.eventId)

structure IngestionInbox where
  applicationId : String
  eventId : String
  payload : Value

structure ApplicationUser where
  applicationId : String
  externalId : String
  name : Option String
  properties : Value
  firstSeenAt : Int
  lastSeenAt : Int

/-- `new Date(event_time)` in milliseconds. -/
def eventTimeOf (event : Value) : Int := (((textOf (get event "event_time")).bind Runtime.readUtc).map (·.1)).getD 0

def externalUserIdOf (event : Value) : String := (textOf (get (get event "user") "user_id")).getD ""

def registryRow (applicationId : String) (input : ValidatedUsageEvent) : UsageEventRegistry :=
  ⟨applicationId, input.eventId, input.payloadHash, externalUserIdOf input.event, eventTimeOf input.event⟩

def inboxRow (applicationId : String) (input : ValidatedUsageEvent) : IngestionInbox :=
  ⟨applicationId, input.eventId, input.event⟩

def newUser (applicationId : String) (event : Value) : ApplicationUser where
  applicationId := applicationId
  externalId := externalUserIdOf event
  name := textOf (get (get event "user") "display_user")
  properties := if (fieldsOf (get event "user_properties")).isSome then get event "user_properties" else .obj []
  firstSeenAt := eventTimeOf event
  lastSeenAt := eventTimeOf event

/-- The update of the upsert, and the two updates after it. -/
def ApplicationUser.seen (user : ApplicationUser) (event : Value) : ApplicationUser :=
  { user with
    name := (textOf (get (get event "user") "display_user")).or user.name
    properties := if (fieldsOf (get event "user_properties")).isSome then get event "user_properties" else user.properties
    firstSeenAt := if eventTimeOf event < user.firstSeenAt then eventTimeOf event else user.firstSeenAt
    lastSeenAt := if user.lastSeenAt < eventTimeOf event then eventTimeOf event else user.lastSeenAt }

def upsertUser (applicationId : String) (event : Value) : List ApplicationUser → List ApplicationUser
  | [] => [newUser applicationId event]
  | user :: users =>
    if user.applicationId = applicationId ∧ user.externalId = externalUserIdOf event then user.seen event :: users
    else user :: upsertUser applicationId event users

/-! ## The columns -/

mutual

/-- A text column and a JSON column take no character zero. -/
def nulFree : Value → Bool
  | .str s => !s.toList.contains (Char.ofNat 0)
  | .arr items => nulFreeItems items
  | .obj fields => nulFreeFields fields
  | _ => true

def nulFreeItems : List Value → Bool
  | [] => true
  | v :: rest => nulFree v && nulFreeItems rest

def nulFreeFields : List (String × Value) → Bool
  | [] => true
  | (key, v) :: rest => !key.toList.contains (Char.ofNat 0) && nulFree v && nulFreeFields rest

end

/-- `length(btrim(text)) BETWEEN 1 AND 256`, of a text of at most 256 characters. -/
def isFilled (text : String) : Bool := text.toList.any (· ≠ ' ')

/-- What the columns of the user and of the registry row hold of an event. -/
def registryColumns (event : Value) : List Value :=
  [get event "application_version", get event "sdk_version", get event "connector_version", get event "config_version",
    get (get event "user") "user_id", get (get event "user") "display_user", get event "event_properties",
    get event "user_properties", get (get event "model") "virtual_model", get (get event "model") "request_model",
    get (get event "model") "connection_driver", get (get event "request") "reservation_id", get event "event_id",
    get event "schema_version", get (get event "request") "request_id", get (get event "request") "attempt_id",
    get (get event "request") "operation_id", get (get event "source") "instance_id", get (get event "model") "provider",
    get (get event "result") "status", get (get event "route") "reason", get (get event "route") "fallback_from",
    get (get event "source") "type", get event "analytics_dimensions"]

/-- The user and the registry row of an accepted event meet their columns and checks: the schema
    sees to the other widths. -/
def rowFits (service : IngestionService) (event : Value) : Bool :=
  isFilled (externalUserIdOf event) && isFilled ((textOf (get (get event "model") "request_model")).getD "") &&
    ((textOf (get (get event "model") "provider")).all fun provider => provider.toList.length ≤ 120) &&
    (textOf (get (get event "request") "reservation_id")).all service.readsUuid && (registryColumns event).all nulFree

/-! ## The calls -/

inductive PersistPhase where
  | idle
  | creating (input : ValidatedUsageEvent)
  | rereading (input : ValidatedUsageEvent)
  | failed

structure IngestCall where
  applicationId : String
  batch : UsageBatch
  definitions : List PropertyDefinition
  /-- The events it has not begun, with their indices. -/
  remaining : List (Value × Nat)
  phase : PersistPhase

/-- A result of a call, with the hash it was found by when the event was not rejected. -/
structure IngestAnswer where
  call : Nat
  applicationId : String
  payloadHash : Option String
  result : UsageIngestionItemResult

def IngestAnswer.key (answer : IngestAnswer) : String × Option String := (answer.applicationId, answer.result.eventId)

structure IngestionStore where
  registry : List UsageEventRegistry
  inbox : List IngestionInbox
  users : List ApplicationUser
  calls : List IngestCall
  answers : List IngestAnswer

def IngestionStore.empty : IngestionStore := ⟨[], [], [], [], []⟩

def IngestionStore.find (s : IngestionStore) (applicationId eventId : String) : Option UsageEventRegistry :=
  s.registry.find? fun row => row.applicationId = applicationId && row.eventId = eventId

def statusForExisting (existing : UsageEventRegistry) (payloadHash : String) : UsageIngestionStatus :=
  if existing.payloadHash = payloadHash then .duplicate else .conflict

inductive IngestAct where
  | ingest (applicationId : String) (input : Value) (stored : List PropertyDefinition)
  /-- The next event is validated, and its transaction looks for it. -/
  | next (i : Nat)
  /-- The transaction writes and commits; the answer may be lost. -/
  | commit (i : Nat) (answered : Bool)
  /-- A unique key other than the event's is violated; an upsert the database does itself never
      does that. -/
  | race (i : Nat)
  | reread (i : Nat)
  | fail (i : Nat)

inductive IngestRefusal where
  | request (failure : IngestFailure)
  | noSuchTurn
  deriving DecidableEq, Repr

namespace IngestionStore

variable (s : IngestionStore)

def withCall (i : Nat) (call : IngestCall) : IngestionStore := { s with calls := s.calls.set i call }

def answer (i : Nat) (call : IngestCall) (payloadHash : Option String) (result : UsageIngestionItemResult) : IngestionStore :=
  { s.withCall i { call with phase := .idle } with answers := s.answers ++ [⟨i, call.applicationId, payloadHash, result⟩] }

def created (applicationId : String) (input : ValidatedUsageEvent) : IngestionStore :=
  { s with
    registry := s.registry ++ [registryRow applicationId input]
    inbox := s.inbox ++ [inboxRow applicationId input]
    users := upsertUser applicationId input.event s.users }

/-- The next event of a call. -/
def begin (service : IngestionService) (i : Nat) (call : IngestCall) (candidate : Value) (index : Nat) : IngestionStore :=
  match validateEvent service call.definitions index candidate with
  | .error result => s.answer i call none result
  | .ok input =>
    match s.find call.applicationId input.eventId with
    | some existing =>
      s.answer i call (some input.payloadHash) (itemResult input (statusForExisting existing input.payloadHash))
    | none => s.withCall i { call with phase := .creating input }

/-- The user and the registry row come before the inbox row. -/
def commit (service : IngestionService) (i : Nat) (call : IngestCall) (input : ValidatedUsageEvent) (answered : Bool) :
    IngestionStore :=
  if !rowFits service input.event then s.withCall i { call with phase := .failed }
  else if (s.find call.applicationId input.eventId).isSome then s.withCall i { call with phase := .rereading input }
  else if !nulFree input.event then s.withCall i { call with phase := .failed }
  else if answered then
    (s.created call.applicationId input).answer i call (some input.payloadHash) (itemResult input .accepted)
  else (s.created call.applicationId input).withCall i { call with phase := .failed }

def reread (i : Nat) (call : IngestCall) (input : ValidatedUsageEvent) : IngestionStore :=
  match s.find call.applicationId input.eventId with
  | some existing =>
    s.answer i call (some input.payloadHash) (itemResult input (statusForExisting existing input.payloadHash))
  | none => s.withCall i { call with phase := .failed }

def act (service : IngestionService) : IngestAct → Except IngestRefusal (Unit × IngestionStore)
  | .ingest applicationId input stored =>
    match checkBatch service.options service.isDateTime input with
    | .error failure => .error (.request failure)
    | .ok batch => .ok ((), { s with
        calls := s.calls ++ [⟨applicationId, batch, propertyDefinitions stored batch.events, batch.events.zipIdx, .idle⟩] })
  | .next i =>
    match s.calls[i]? with
    | some ⟨applicationId, batch, definitions, (candidate, index) :: remaining, .idle⟩ =>
      .ok ((), s.begin service i ⟨applicationId, batch, definitions, remaining, .idle⟩ candidate index)
    | _ => .error .noSuchTurn
  | .commit i answered =>
    match s.calls[i]? with
    | some ⟨applicationId, batch, definitions, remaining, .creating input⟩ =>
      .ok ((), s.commit service i ⟨applicationId, batch, definitions, remaining, .creating input⟩ input answered)
    | _ => .error .noSuchTurn
  | .race i =>
    match s.calls[i]? with
    | some ⟨applicationId, batch, definitions, remaining, .creating input⟩ =>
      .ok ((), s.withCall i ⟨applicationId, batch, definitions, remaining, .rereading input⟩)
    | _ => .error .noSuchTurn
  | .reread i =>
    match s.calls[i]? with
    | some ⟨applicationId, batch, definitions, remaining, .rereading input⟩ =>
      .ok ((), s.reread i ⟨applicationId, batch, definitions, remaining, .rereading input⟩ input)
    | _ => .error .noSuchTurn
  | .fail i =>
    match s.calls[i]? with
    | some call => .ok ((), s.withCall i { call with phase := .failed })
    | none => .error .noSuchTurn

end IngestionStore

def ingestionMachine (service : IngestionService) : Machine IngestionStore IngestAct Unit IngestRefusal :=
  ⟨fun s a => s.act service a⟩

/-! ## What an act can do -/

section Moves

variable (service : IngestionService) (s : IngestionStore)

inductive Moves : IngestionStore → Prop
  | begins (applicationId : String) (definitions : List PropertyDefinition) (batch : UsageBatch) :
      Moves { s with calls := s.calls ++ [⟨applicationId, batch, definitions, batch.events.zipIdx, .idle⟩] }
  | rejects {i : Nat} {call : IngestCall} {candidate : Value} {index : Nat} {rest : List (Value × Nat)}
      {result : UsageIngestionItemResult} : s.calls[i]? = some call → call.phase = .idle →
      call.remaining = (candidate, index) :: rest → validateEvent service call.definitions index candidate = .error result →
      Moves (s.answer i { call with remaining := rest } none result)
  | finds {i : Nat} {call : IngestCall} {candidate : Value} {index : Nat} {rest : List (Value × Nat)}
      {input : ValidatedUsageEvent} {existing : UsageEventRegistry} : s.calls[i]? = some call → call.phase = .idle →
      call.remaining = (candidate, index) :: rest → validateEvent service call.definitions index candidate = .ok input →
      s.find call.applicationId input.eventId = some existing →
      Moves (s.answer i { call with remaining := rest } (some input.payloadHash)
        (itemResult input (statusForExisting existing input.payloadHash)))
  | misses {i : Nat} {call : IngestCall} {candidate : Value} {index : Nat} {rest : List (Value × Nat)}
      {input : ValidatedUsageEvent} : s.calls[i]? = some call → call.phase = .idle →
      call.remaining = (candidate, index) :: rest → validateEvent service call.definitions index candidate = .ok input →
      Moves (s.withCall i { call with remaining := rest, phase := .creating input })
  | accepts {i : Nat} {call : IngestCall} {input : ValidatedUsageEvent} : s.calls[i]? = some call →
      call.phase = .creating input → s.find call.applicationId input.eventId = none →
      Moves ((s.created call.applicationId input).answer i call (some input.payloadHash) (itemResult input .accepted))
  | loses {i : Nat} {call : IngestCall} {input : ValidatedUsageEvent} : s.calls[i]? = some call →
      call.phase = .creating input → s.find call.applicationId input.eventId = none →
      Moves ((s.created call.applicationId input).withCall i { call with phase := .failed })
  | yields {i : Nat} {call : IngestCall} {input : ValidatedUsageEvent} : s.calls[i]? = some call →
      call.phase = .creating input → Moves (s.withCall i { call with phase := .rereading input })
  | rereads {i : Nat} {call : IngestCall} {input : ValidatedUsageEvent} {existing : UsageEventRegistry} :
      s.calls[i]? = some call → call.phase = .rereading input → s.find call.applicationId input.eventId = some existing →
      Moves (s.answer i call (some input.payloadHash) (itemResult input (statusForExisting existing input.payloadHash)))
  | fails {i : Nat} {call : IngestCall} : s.calls[i]? = some call → Moves (s.withCall i { call with phase := .failed })

end Moves

section Inversion

variable {service : IngestionService} {s s' : IngestionStore}

theorem begin_moves {i : Nat} {call : IngestCall} {candidate : Value} {index : Nat} {rest : List (Value × Nat)}
    (hcall : s.calls[i]? = some call) (hphase : call.phase = .idle) (hnext : call.remaining = (candidate, index) :: rest) :
    Moves service s (s.begin service i { call with remaining := rest } candidate index) := by
  unfold IngestionStore.begin
  cases hvalid : validateEvent service call.definitions index candidate with
  | error result => exact .rejects hcall hphase hnext hvalid
  | ok input =>
    cases hfind : s.find call.applicationId input.eventId with
    | none =>
      simp only [hfind]
      exact .misses hcall hphase hnext hvalid
    | some existing =>
      simp only [hfind]
      exact .finds hcall hphase hnext hvalid hfind

theorem commit_moves {i : Nat} {call : IngestCall} {input : ValidatedUsageEvent} (answered : Bool)
    (hcall : s.calls[i]? = some call) (hphase : call.phase = .creating input) :
    Moves service s (s.commit service i call input answered) := by
  unfold IngestionStore.commit
  by_cases hrow : rowFits service input.event = true
  · cases hfind : s.find call.applicationId input.eventId with
    | some existing =>
      simp only [hrow, Bool.not_true, Bool.false_eq_true, if_false]
      exact .yields hcall hphase
    | none =>
      by_cases hinbox : nulFree input.event = true
      · simp only [hrow, hinbox, Bool.not_true, Bool.false_eq_true, if_false]
        cases answered with
        | true => exact .accepts hcall hphase hfind
        | false => exact .loses hcall hphase hfind
      · simp only [hrow, hinbox, Bool.not_true, Bool.false_eq_true, if_false]
        exact .fails hcall
  · rw [if_pos (by simpa using hrow)]
    exact .fails hcall

theorem reread_moves {i : Nat} {call : IngestCall} {input : ValidatedUsageEvent} (hcall : s.calls[i]? = some call)
    (hphase : call.phase = .rereading input) : Moves service s (s.reread i call input) := by
  unfold IngestionStore.reread
  cases hfind : s.find call.applicationId input.eventId with
  | some existing => exact .rereads hcall hphase hfind
  | none => exact .fails hcall

theorem act_moves {a : IngestAct} {o : Unit} (h : s.act service a = .ok (o, s')) : Moves service s s' := by
  cases a with
  | ingest applicationId input stored =>
    simp only [IngestionStore.act] at h
    split at h
    · cases h
    · cases h
      exact .begins ..
  | next i =>
    simp only [IngestionStore.act] at h
    split at h
    · rename_i hcall
      cases h
      exact begin_moves hcall rfl rfl
    · cases h
  | commit i answered =>
    simp only [IngestionStore.act] at h
    split at h
    · rename_i hcall
      cases h
      exact commit_moves answered hcall rfl
    · cases h
  | race i =>
    simp only [IngestionStore.act] at h
    split at h
    · rename_i hcall
      cases h
      exact .yields hcall rfl
    · cases h
  | reread i =>
    simp only [IngestionStore.act] at h
    split at h
    · rename_i hcall
      cases h
      exact reread_moves hcall rfl
    · cases h
  | fail i =>
    simp only [IngestionStore.act] at h
    split at h
    · rename_i hcall
      cases h
      exact .fails hcall
    · cases h

/-- What every move keeps holds after every run. -/
theorem moves_invariant {P : IngestionStore → Prop} (hP : ∀ s s', P s → Moves service s s' → P s') (acts : List IngestAct)
    (hs : P s) : P ((ingestionMachine service).run s acts) :=
  Machine.run_invariant (P := P) (fun _ _ _ _ hs h => hP _ _ hs (act_moves h)) acts s hs

end Inversion

/-! ## Rows -/

section Rows

variable {service : IngestionService} {s s' : IngestionStore}

theorem find_none {applicationId eventId : String} (h : s.find applicationId eventId = none) :
    ∀ row ∈ s.registry, row.key ≠ (applicationId, eventId) := by
  intro row hrow hkey
  have hnot := List.find?_eq_none.mp h row hrow
  cases hkey
  simp at hnot

theorem find_some {applicationId eventId : String} {existing : UsageEventRegistry}
    (h : s.find applicationId eventId = some existing) :
    existing ∈ s.registry ∧ existing.key = (applicationId, eventId) := by
  have hkey := List.find?_some h
  simp only [Bool.and_eq_true, decide_eq_true_eq] at hkey
  exact ⟨List.mem_of_find?_eq_some h, Prod.ext hkey.1 hkey.2⟩

theorem some_key_iff {row : UsageEventRegistry} {applicationId eventId : String} :
    (row.applicationId, some row.eventId) = (applicationId, some eventId) ↔ row.key = (applicationId, eventId) := by
  simp [UsageEventRegistry.key]

/-- The event was validated, and its hash is the one of its canonical text. -/
structure Checked (service : IngestionService) (input : ValidatedUsageEvent) : Prop where
  schema : usageEventSchema input.event = true
  hash : input.payloadHash = service.digest (canonical input.event)

theorem validateEvent_ok {definitions : List PropertyDefinition} {index : Nat} {candidate : Value}
    {input : ValidatedUsageEvent} (h : validateEvent service definitions index candidate = .ok input) :
    Checked service input ∧ input.index = index ∧ input.event = candidate := by
  unfold validateEvent at h
  split at h
  · rename_i hschema
    split at h
    · cases h
    · split at h
      · cases h
      · cases h
        exact ⟨⟨hschema, rfl⟩, rfl, rfl⟩
  · cases h

/-- A registry row and an inbox row that one transaction wrote. -/
def Together (service : IngestionService) (row : UsageEventRegistry) (inbox : IngestionInbox) : Prop :=
  ∃ applicationId input, Checked service input ∧ row = registryRow applicationId input ∧ inbox = inboxRow applicationId input

/-- The row of the answer's event, with the hash the answer was given by or another one. -/
def Answered (registry : List UsageEventRegistry) (answer : IngestAnswer) : Prop :=
  match answer.result.status with
  | .rejected => answer.payloadHash = none
  | .accepted | .duplicate => ∃ row ∈ registry, (row.applicationId, some row.eventId) = answer.key ∧
      answer.payloadHash = some row.payloadHash
  | .conflict => ∃ row ∈ registry, (row.applicationId, some row.eventId) = answer.key ∧ ∃ hash,
      answer.payloadHash = some hash ∧ row.payloadHash ≠ hash

def acceptedKeys (answers : List IngestAnswer) : List (String × Option String) :=
  (answers.filter fun answer => answer.result.status = .accepted).map IngestAnswer.key

/-- What holds of the store after every run. -/
structure Ingested (service : IngestionService) (s : IngestionStore) : Prop where
  together : List.Forall₂ (Together service) s.registry s.inbox
  registered : (s.registry.map UsageEventRegistry.key).Nodup
  holding : ∀ call ∈ s.calls, ∀ input, call.phase = .creating input ∨ call.phase = .rereading input → Checked service input
  answered : ∀ answer ∈ s.answers, Answered s.registry answer
  once : (acceptedKeys s.answers).Nodup

theorem Answered.mono {registry more : List UsageEventRegistry} {answer : IngestAnswer} (h : Answered registry answer) :
    Answered (registry ++ more) answer := by
  unfold Answered at h ⊢
  split at h
  · exact h
  · obtain ⟨row, hrow, hkey⟩ := h
    exact ⟨row, List.mem_append_left _ hrow, hkey⟩
  · obtain ⟨row, hrow, hkey⟩ := h
    exact ⟨row, List.mem_append_left _ hrow, hkey⟩
  · obtain ⟨row, hrow, hkey⟩ := h
    exact ⟨row, List.mem_append_left _ hrow, hkey⟩

theorem Answered.accepted_key {registry : List UsageEventRegistry} {answer : IngestAnswer} (h : Answered registry answer)
    (hstatus : answer.result.status = .accepted) : ∃ row ∈ registry, (row.applicationId, some row.eventId) = answer.key := by
  unfold Answered at h
  rw [hstatus] at h
  obtain ⟨row, hrow, hkey, -⟩ := h
  exact ⟨row, hrow, hkey⟩

theorem validateEvent_error {definitions : List PropertyDefinition} {index : Nat} {candidate : Value}
    {result : UsageIngestionItemResult} (h : validateEvent service definitions index candidate = .error result) :
    result.status = .rejected ∧ result.index = index := by
  unfold validateEvent at h
  split at h
  · split at h
    · cases h
      exact ⟨rfl, rfl⟩
    · split at h
      · cases h
        exact ⟨rfl, rfl⟩
      · cases h
  · cases h
    exact ⟨rfl, rfl⟩

@[simp] theorem itemResult_status (input : ValidatedUsageEvent) (status : UsageIngestionStatus) :
    (itemResult input status).status = status := by
  unfold itemResult
  split <;> rfl

@[simp] theorem itemResult_eventId (input : ValidatedUsageEvent) (status : UsageIngestionStatus) :
    (itemResult input status).eventId = some input.eventId := by
  unfold itemResult
  split <;> rfl

@[simp] theorem itemResult_index (input : ValidatedUsageEvent) (status : UsageIngestionStatus) :
    (itemResult input status).index = input.index := by
  unfold itemResult
  split <;> rfl

theorem statusForExisting_ne {existing : UsageEventRegistry} {hash : String} :
    statusForExisting existing hash ≠ .accepted ∧ statusForExisting existing hash ≠ .rejected := by
  unfold statusForExisting
  split
  · exact ⟨nofun, nofun⟩
  · exact ⟨nofun, nofun⟩

/-- An answer by a row that is there. -/
theorem answered_existing {i : Nat} {applicationId : String} {input : ValidatedUsageEvent} {existing : UsageEventRegistry}
    (h : s.find applicationId input.eventId = some existing) :
    Answered s.registry
      ⟨i, applicationId, some input.payloadHash, itemResult input (statusForExisting existing input.payloadHash)⟩ := by
  obtain ⟨hmem, hkey⟩ := find_some h
  have hkey' := some_key_iff.mpr hkey
  simp only [Answered, IngestAnswer.key, itemResult_status, itemResult_eventId]
  by_cases hhash : existing.payloadHash = input.payloadHash
  · simp only [statusForExisting, if_pos hhash]
    exact ⟨existing, hmem, hkey', congrArg some hhash.symm⟩
  · simp only [statusForExisting, if_neg hhash]
    exact ⟨existing, hmem, hkey', _, rfl, hhash⟩

end Rows

/-! ## Every run -/

section Runs

variable {service : IngestionService} {s s' : IngestionStore}

theorem acceptedKeys_append (answers more : List IngestAnswer) :
    acceptedKeys (answers ++ more) = acceptedKeys answers ++ acceptedKeys more := by
  unfold acceptedKeys
  rw [List.filter_append, List.map_append]

/-- The calls other than the one that moves are as they were. -/
theorem holding_set (h : ∀ call ∈ s.calls, ∀ input, call.phase = .creating input ∨ call.phase = .rereading input →
    Checked service input) {i : Nat} {call : IngestCall}
    (hcall : ∀ input, call.phase = .creating input ∨ call.phase = .rereading input → Checked service input) :
    ∀ other ∈ s.calls.set i call, ∀ input, other.phase = .creating input ∨ other.phase = .rereading input →
      Checked service input := by
  intro other hother
  rcases List.mem_or_eq_of_mem_set hother with hother | rfl
  · exact h other hother
  · exact hcall

theorem Ingested.withCall (h : Ingested service s) (i : Nat) {call : IngestCall}
    (hcall : ∀ input, call.phase = .creating input ∨ call.phase = .rereading input → Checked service input) :
    Ingested service (s.withCall i call) :=
  ⟨h.together, h.registered, holding_set h.holding hcall, h.answered, h.once⟩

theorem idle_holds {call : IngestCall} (h : call.phase = .idle ∨ call.phase = .failed) (input : ValidatedUsageEvent) :
    call.phase = .creating input ∨ call.phase = .rereading input → Checked service input := by
  rcases h with h | h <;> simp [h]

/-- An answer that is not an acceptance. -/
theorem Ingested.answer (h : Ingested service s) (i : Nat) (call : IngestCall) {payloadHash : Option String}
    {result : UsageIngestionItemResult} (hanswer : Answered s.registry ⟨i, call.applicationId, payloadHash, result⟩)
    (hstatus : result.status ≠ .accepted) : Ingested service (s.answer i call payloadHash result) := by
  refine ⟨h.together, h.registered, holding_set h.holding (idle_holds (.inl rfl)), ?_, ?_⟩
  · intro answer hmem
    rcases List.mem_append.mp hmem with hmem | hmem
    · exact h.answered answer hmem
    · rw [List.mem_singleton.mp hmem]
      exact hanswer
  · have hnone : acceptedKeys [(⟨i, call.applicationId, payloadHash, result⟩ : IngestAnswer)] = [] := by
      simp [acceptedKeys, hstatus]
    show (acceptedKeys (s.answers ++ _)).Nodup
    rw [acceptedKeys_append, hnone, List.append_nil]
    exact h.once

/-- The transaction of an event that is not there. -/
theorem Ingested.created (h : Ingested service s) {applicationId : String} {input : ValidatedUsageEvent}
    (hchecked : Checked service input) (hfind : s.find applicationId input.eventId = none) :
    Ingested service (s.created applicationId input) := by
  have hfresh := find_none hfind
  refine ⟨?_, ?_, h.holding, fun answer hmem => (h.answered answer hmem).mono, h.once⟩
  · exact List.rel_append h.together (.cons ⟨applicationId, input, hchecked, rfl, rfl⟩ .nil)
  · show ((s.registry ++ [registryRow applicationId input]).map _).Nodup
    rw [List.map_append, List.nodup_append]
    refine ⟨h.registered, List.nodup_singleton _, ?_⟩
    intro key hkey other hother heq
    obtain ⟨row, hrow, rfl⟩ := List.mem_map.mp hkey
    rw [List.map_singleton, List.mem_singleton] at hother
    exact hfresh row hrow (heq.trans hother)

/-- An acceptance is of a row that this move creates, so no earlier acceptance is of its key. -/
theorem Ingested.accepts (h : Ingested service s) (i : Nat) {call : IngestCall} {input : ValidatedUsageEvent}
    (hchecked : Checked service input) (hfind : s.find call.applicationId input.eventId = none) :
    Ingested service
      ((s.created call.applicationId input).answer i call (some input.payloadHash) (itemResult input .accepted)) := by
  have hcreated := h.created hchecked hfind
  refine ⟨hcreated.together, hcreated.registered, holding_set h.holding (idle_holds (.inl rfl)), ?_, ?_⟩
  · intro answer hmem
    rcases List.mem_append.mp hmem with hmem | hmem
    · exact hcreated.answered answer hmem
    · rw [List.mem_singleton.mp hmem]
      simp only [Answered, IngestAnswer.key, itemResult_status, itemResult_eventId]
      exact ⟨registryRow call.applicationId input, List.mem_append_right _ (List.mem_singleton_self _), rfl, rfl⟩
  · show (acceptedKeys (s.answers ++ _)).Nodup
    have hkeys : acceptedKeys [(⟨i, call.applicationId, some input.payloadHash, itemResult input .accepted⟩ : IngestAnswer)] =
        [(call.applicationId, some input.eventId)] := by
      simp [acceptedKeys, IngestAnswer.key]
    rw [acceptedKeys_append, hkeys, List.nodup_append]
    refine ⟨h.once, List.nodup_singleton _, ?_⟩
    intro key hkey other hother heq
    obtain ⟨answer, hanswer, rfl⟩ := List.mem_map.mp hkey
    obtain ⟨hmem, hstatus⟩ := List.mem_filter.mp hanswer
    obtain ⟨row, hrow, hrowKey⟩ := (h.answered answer hmem).accepted_key (by simpa using hstatus)
    rw [List.mem_singleton.mp hother, ← hrowKey] at heq
    exact find_none hfind row hrow (some_key_iff.mp heq)

theorem ingested_step (hs : Ingested service s) (h : Moves service s s') : Ingested service s' := by
  cases h with
  | begins applicationId definitions batch =>
    refine ⟨hs.together, hs.registered, ?_, hs.answered, hs.once⟩
    intro call hcall
    rcases List.mem_append.mp hcall with hcall | hcall
    · exact hs.holding call hcall
    · rw [List.mem_singleton.mp hcall]
      exact idle_holds (.inl rfl)
  | rejects _ _ _ hinvalid =>
    have hstatus := (validateEvent_error hinvalid).1
    refine hs.answer _ _ ?_ (by rw [hstatus]; nofun)
    simp only [Answered, hstatus]
  | finds _ _ _ _ hfind =>
    exact hs.answer _ _ (answered_existing hfind) (by rw [itemResult_status]; exact statusForExisting_ne.1)
  | misses _ _ _ hvalid =>
    refine hs.withCall _ ?_
    intro input hinput
    simp only [PersistPhase.creating.injEq, reduceCtorEq, or_false] at hinput
    rw [← hinput]
    exact (validateEvent_ok hvalid).1
  | accepts hcall hphase hfind =>
    exact hs.accepts _ (hs.holding _ (List.mem_of_getElem? hcall) _ (.inl hphase)) hfind
  | loses hcall hphase hfind =>
    have hcreated := hs.created (hs.holding _ (List.mem_of_getElem? hcall) _ (.inl hphase)) hfind
    exact hcreated.withCall _ (idle_holds (.inr rfl))
  | yields hcall hphase =>
    have hchecked := hs.holding _ (List.mem_of_getElem? hcall) _ (.inl hphase)
    refine hs.withCall _ ?_
    intro input hinput
    simp only [PersistPhase.rereading.injEq, reduceCtorEq, false_or] at hinput
    rw [← hinput]
    exact hchecked
  | rereads _ _ hfind =>
    exact hs.answer _ _ (answered_existing hfind) (by rw [itemResult_status]; exact statusForExisting_ne.1)
  | fails _ => exact hs.withCall _ (idle_holds (.inr rfl))

theorem ingested_empty : Ingested service .empty :=
  ⟨.nil, List.nodup_nil, nofun, nofun, List.nodup_nil⟩

/-- In every run an event id has at most one registry row and one inbox row, both of the same
    event, at most one acceptance, and every other answer is by the hash of the row. -/
theorem ingestion_once (acts : List IngestAct) : Ingested service ((ingestionMachine service).run .empty acts) :=
  moves_invariant (fun _ _ => ingested_step) acts ingested_empty

/-! ## Rows stay -/

/-- Registry, inbox and answers only grow. -/
structure Grows (s s' : IngestionStore) : Prop where
  registry : s.registry <+: s'.registry
  inbox : s.inbox <+: s'.inbox
  answers : s.answers <+: s'.answers

theorem Grows.refl (s : IngestionStore) : Grows s s := ⟨List.prefix_rfl, List.prefix_rfl, List.prefix_rfl⟩

theorem Grows.trans {a b c : IngestionStore} (h : Grows a b) (h' : Grows b c) : Grows a c :=
  ⟨h.registry.trans h'.registry, h.inbox.trans h'.inbox, h.answers.trans h'.answers⟩

theorem moves_grow (h : Moves service s s') : Grows s s' := by
  cases h with
  | begins _ _ _ => exact ⟨List.prefix_rfl, List.prefix_rfl, List.prefix_rfl⟩
  | rejects _ _ _ _ => exact ⟨List.prefix_rfl, List.prefix_rfl, List.prefix_append _ _⟩
  | finds _ _ _ _ _ => exact ⟨List.prefix_rfl, List.prefix_rfl, List.prefix_append _ _⟩
  | misses _ _ _ _ => exact ⟨List.prefix_rfl, List.prefix_rfl, List.prefix_rfl⟩
  | accepts _ _ _ => exact ⟨List.prefix_append _ _, List.prefix_append _ _, List.prefix_append _ _⟩
  | loses _ _ _ => exact ⟨List.prefix_append _ _, List.prefix_append _ _, List.prefix_rfl⟩
  | yields _ _ => exact ⟨List.prefix_rfl, List.prefix_rfl, List.prefix_rfl⟩
  | rereads _ _ _ => exact ⟨List.prefix_rfl, List.prefix_rfl, List.prefix_append _ _⟩
  | fails _ => exact ⟨List.prefix_rfl, List.prefix_rfl, List.prefix_rfl⟩

theorem rows_kept (acts : List IngestAct) : Grows s ((ingestionMachine service).run s acts) :=
  moves_invariant (P := Grows s) (fun _ _ hs h => hs.trans (moves_grow h)) acts (.refl s)

end Runs

/-! ## The users -/

def ApplicationUser.key (user : ApplicationUser) : String × String := (user.applicationId, user.externalId)

def UsageEventRegistry.userKey (row : UsageEventRegistry) : String × String := (row.applicationId, row.externalUserId)

section Users

variable {service : IngestionService} {s s' : IngestionStore}

@[simp] theorem seen_key (user : ApplicationUser) (event : Value) : (user.seen event).key = user.key := rfl

theorem seen_firstSeenAt (user : ApplicationUser) (event : Value) :
    (user.seen event).firstSeenAt = min user.firstSeenAt (eventTimeOf event) := by
  simp only [ApplicationUser.seen]
  split
  · omega
  · omega

theorem seen_lastSeenAt (user : ApplicationUser) (event : Value) :
    (user.seen event).lastSeenAt = max user.lastSeenAt (eventTimeOf event) := by
  simp only [ApplicationUser.seen]
  split
  · omega
  · omega

/-- The user is updated where it stands, or comes last when it is not there. -/
theorem upsertUser_cases (applicationId : String) (event : Value) (users : List ApplicationUser) :
    (∃ before user after, users = before ++ user :: after ∧ user.key = (applicationId, externalUserIdOf event) ∧
      upsertUser applicationId event users = before ++ user.seen event :: after) ∨
    ((∀ user ∈ users, user.key ≠ (applicationId, externalUserIdOf event)) ∧
      upsertUser applicationId event users = users ++ [newUser applicationId event]) := by
  induction users with
  | nil => exact .inr ⟨nofun, rfl⟩
  | cons user users ih =>
    unfold upsertUser
    by_cases hkey : user.applicationId = applicationId ∧ user.externalId = externalUserIdOf event
    · rw [if_pos hkey]
      exact .inl ⟨[], user, users, rfl, Prod.ext hkey.1 hkey.2, rfl⟩
    · rw [if_neg hkey]
      rcases ih with ⟨before, other, after, rfl, hother, hupsert⟩ | ⟨hnone, hupsert⟩
      · exact .inl ⟨user :: before, other, after, rfl, hother, by rw [hupsert]; rfl⟩
      · refine .inr ⟨?_, by rw [hupsert]; rfl⟩
        intro other hother
        rcases List.mem_cons.mp hother with rfl | hother
        · intro h
          exact hkey ⟨congrArg Prod.fst h, congrArg Prod.snd h⟩
        · exact hnone other hother

/-- Each user of the registry is there once, and was seen first and last by the earliest and the
    latest of the user's events. -/
structure UsersSeen (s : IngestionStore) : Prop where
  once : (s.users.map ApplicationUser.key).Nodup
  bounded : ∀ row ∈ s.registry, ∃ user ∈ s.users, user.key = row.userKey ∧ user.firstSeenAt ≤ row.eventTime ∧
    row.eventTime ≤ user.lastSeenAt
  first : ∀ user ∈ s.users, ∃ row ∈ s.registry, row.userKey = user.key ∧ row.eventTime = user.firstSeenAt
  last : ∀ user ∈ s.users, ∃ row ∈ s.registry, row.userKey = user.key ∧ row.eventTime = user.lastSeenAt

theorem UsersSeen.created (h : UsersSeen s) (applicationId : String) (input : ValidatedUsageEvent) :
    UsersSeen (s.created applicationId input) := by
  have hnew : registryRow applicationId input ∈ s.registry ++ [registryRow applicationId input] :=
    List.mem_append_right _ (List.mem_singleton_self _)
  have hold {row : UsageEventRegistry} (hrow : row ∈ s.registry) : row ∈ s.registry ++ [registryRow applicationId input] :=
    List.mem_append_left _ hrow
  rcases upsertUser_cases applicationId input.event s.users with
    ⟨before, user, after, husers, hkey, hupsert⟩ | ⟨hnone, hupsert⟩
  · have huser : user ∈ s.users := by simp [husers]
    have hothers : ∀ other ∈ before ++ user.seen input.event :: after, other ∈ s.users ∨ other = user.seen input.event := by
      simp only [husers, List.mem_append, List.mem_cons]
      tauto
    have hseen : user.seen input.event ∈ before ++ user.seen input.event :: after := by simp
    have hkept : ∀ other ∈ s.users, other = user ∨ other ∈ before ++ user.seen input.event :: after := by
      simp only [husers, List.mem_append, List.mem_cons]
      tauto
    refine ⟨?_, ?_, ?_, ?_⟩ <;> simp only [IngestionStore.created, hupsert]
    · have honce := h.once
      rw [husers] at honce
      simpa using honce
    · intro row hrow
      rcases List.mem_append.mp hrow with hrow | hrow
      · obtain ⟨other, hother, hotherKey, hfirst, hlast⟩ := h.bounded row hrow
        rcases hkept other hother with rfl | hother
        · refine ⟨_, hseen, hotherKey, ?_, ?_⟩
          · rw [seen_firstSeenAt]
            exact (min_le_left _ _).trans hfirst
          · rw [seen_lastSeenAt]
            exact hlast.trans (le_max_left _ _)
        · exact ⟨other, hother, hotherKey, hfirst, hlast⟩
      · rw [List.mem_singleton.mp hrow]
        refine ⟨_, hseen, hkey, ?_, ?_⟩
        · rw [seen_firstSeenAt]
          exact min_le_right _ _
        · rw [seen_lastSeenAt]
          exact le_max_right _ _
    · intro other hother
      rcases hothers other hother with hother | rfl
      · obtain ⟨row, hrow, hrow'⟩ := h.first other hother
        exact ⟨row, hold hrow, hrow'⟩
      · rw [seen_firstSeenAt]
        rcases min_choice user.firstSeenAt (eventTimeOf input.event) with hmin | hmin
        · obtain ⟨row, hrow, hrowKey, htime⟩ := h.first user huser
          exact ⟨row, hold hrow, hrowKey, htime.trans hmin.symm⟩
        · exact ⟨_, hnew, hkey.symm, hmin.symm⟩
    · intro other hother
      rcases hothers other hother with hother | rfl
      · obtain ⟨row, hrow, hrow'⟩ := h.last other hother
        exact ⟨row, hold hrow, hrow'⟩
      · rw [seen_lastSeenAt]
        rcases max_choice user.lastSeenAt (eventTimeOf input.event) with hmax | hmax
        · obtain ⟨row, hrow, hrowKey, htime⟩ := h.last user huser
          exact ⟨row, hold hrow, hrowKey, htime.trans hmax.symm⟩
        · exact ⟨_, hnew, hkey.symm, hmax.symm⟩
  · have hlast : newUser applicationId input.event ∈ s.users ++ [newUser applicationId input.event] := by simp
    refine ⟨?_, ?_, ?_, ?_⟩ <;> simp only [IngestionStore.created, hupsert]
    · rw [List.map_append, List.nodup_append]
      refine ⟨h.once, List.nodup_singleton _, ?_⟩
      intro key hkey other hother heq
      obtain ⟨user, huser, rfl⟩ := List.mem_map.mp hkey
      rw [List.map_singleton, List.mem_singleton] at hother
      exact hnone user huser (heq.trans hother)
    · intro row hrow
      rcases List.mem_append.mp hrow with hrow | hrow
      · obtain ⟨other, hother, hbounds⟩ := h.bounded row hrow
        exact ⟨other, List.mem_append_left _ hother, hbounds⟩
      · rw [List.mem_singleton.mp hrow]
        exact ⟨_, hlast, rfl, le_rfl, le_rfl⟩
    · intro user huser
      rcases List.mem_append.mp huser with huser | huser
      · obtain ⟨row, hrow, hrow'⟩ := h.first user huser
        exact ⟨row, hold hrow, hrow'⟩
      · rw [List.mem_singleton.mp huser]
        exact ⟨_, hnew, rfl, rfl⟩
    · intro user huser
      rcases List.mem_append.mp huser with huser | huser
      · obtain ⟨row, hrow, hrow'⟩ := h.last user huser
        exact ⟨row, hold hrow, hrow'⟩
      · rw [List.mem_singleton.mp huser]
        exact ⟨_, hnew, rfl, rfl⟩

theorem UsersSeen.same (h : UsersSeen s) (hregistry : s'.registry = s.registry) (husers : s'.users = s.users) :
    UsersSeen s' :=
  ⟨husers ▸ h.once, husers ▸ hregistry ▸ h.bounded, husers ▸ hregistry ▸ h.first, husers ▸ hregistry ▸ h.last⟩

/-- Only the transaction of a new event writes users and registry. -/
theorem usersSeen_step (hs : UsersSeen s) (h : Moves service s s') : UsersSeen s' := by
  cases h with
  | begins _ _ _ => exact hs.same rfl rfl
  | rejects _ _ _ _ => exact hs.same rfl rfl
  | finds _ _ _ _ _ => exact hs.same rfl rfl
  | misses _ _ _ _ => exact hs.same rfl rfl
  | accepts _ _ _ => exact (hs.created _ _).same rfl rfl
  | loses _ _ _ => exact (hs.created _ _).same rfl rfl
  | yields _ _ => exact hs.same rfl rfl
  | rereads _ _ _ => exact hs.same rfl rfl
  | fails _ => exact hs.same rfl rfl

theorem users_seen (acts : List IngestAct) : UsersSeen ((ingestionMachine service).run .empty acts) :=
  moves_invariant (fun _ _ => usersSeen_step) acts ⟨List.nodup_nil, nofun, nofun, nofun⟩

end Users

end TokenPilot.Operations
