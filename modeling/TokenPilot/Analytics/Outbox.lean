/-
  TokenPilot.Analytics.Outbox — the outbox, the processor that drains it into the analytics
  store, and reconciliation replays (apps/worker/src/pipeline/clickhouse-outbox-processor.ts,
  prisma-outbox-store.ts, packages/clickhouse/src/sink/outbox-batch-sink.ts,
  apps/worker/src/reconciliation/operation-executor.ts).

  A worker here is one call of `runBatch`: it leases a batch, maps every record, then takes
  the tables in turn (ask which delivery ids are there, insert the rows that are not, a chunk
  at a time), writes the watermark and acknowledges the batch in one transaction; an error on
  the way goes to `handleFailure`, which retries or dead-letters the leases one by one. What a
  worker does between two answers is one move, and the moves of any number of workers
  interleave with each other, with new records, with replays and with time in any way. A
  worker that makes no further move stalls; one that is gone has crashed.

  A table of the analytics store is the list of the rows inserted. An insert that fails may
  have gone through (`applied`). The statements of one transaction are one move, and so is an
  update together with the check of how many rows it changed. Times are microseconds.

  Left out: the metrics, and the details of a dead letter, which nothing reads.
-/

import TokenPilot.Analytics.Mapper

namespace TokenPilot.Analytics

open Library

/-! ## The outbox -/

inductive OutboxStatus where
  | pending
  | leased
  | sent
  | failed
  | deadLetter
  deriving DecidableEq, Repr

/-- The columns a row is created with. -/
structure OutboxEntry extends ClickHouseOutboxRecord where
  applicationId : String

/-- The columns the processor changes. -/
structure OutboxProgress where
  status : OutboxStatus
  attemptCount : Nat
  availableAt : Int
  nextRetryAt : Option Int
  leaseOwner : Option String
  leaseExpiresAt : Option Int
  lastError : Option String
  sentAt : Option Int

structure OutboxRow where
  entry : OutboxEntry
  progress : OutboxProgress

/-- The primary key, or the key of application and idempotency key. -/
def OutboxEntry.clashes (a b : OutboxEntry) : Bool :=
  a.id == b.id || a.applicationId == b.applicationId && a.idempotencyKey == b.idempotencyKey

structure OutboxTable where
  rows : List OutboxRow
  distinct : (rows.map (·.entry)).Pairwise fun a b => a.clashes b = false

def OutboxTable.update (t : OutboxTable) (f : OutboxRow → OutboxProgress) : OutboxTable where
  rows := t.rows.map fun row => ⟨row.entry, f row⟩
  distinct := by rw [List.map_map]; exact t.distinct

def OutboxTable.insert (t : OutboxTable) (row : OutboxRow) : Option OutboxTable :=
  if h : ∀ r ∈ t.rows, r.entry.clashes row.entry = false then
    some ⟨t.rows ++ [row], by simpa [List.pairwise_append, t.distinct] using h⟩
  else none

structure PipelineOutboxMessage where
  aggregateType : String
  aggregateId : String
  eventType : String
  payload : Payload
  idempotencyKey : String

def OutboxProgress.new (now : Int) : OutboxProgress := ⟨.pending, 0, now, none, none, none, none, none⟩

/-- The row `pipelineOutbox.create` adds. -/
def PipelineOutboxMessage.row (message : PipelineOutboxMessage) (applicationId : String) (id : Nat) (now : Int) :
    OutboxRow where
  entry :=
    { id
      aggregateType := message.aggregateType
      aggregateId := message.aggregateId
      eventType := message.eventType
      payload := message.payload
      idempotencyKey := message.idempotencyKey
      replayOfOutboxId := none
      createdAt := now / 1000
      applicationId }
  progress := .new now

/-! ## Leases -/

structure OutboxLease where
  entry : OutboxEntry
  attemptCount : Nat
  leaseOwner : String

def OutboxRow.leasable (now : Int) (row : OutboxRow) : Bool :=
  (row.progress.status == .pending || row.progress.status == .failed) && decide (row.progress.availableAt ≤ now) &&
      decide (row.progress.nextRetryAt.getD row.progress.availableAt ≤ now) ||
    row.progress.status == .leased && row.progress.leaseExpiresAt.any fun expiry => decide (expiry ≤ now)

def isPipelineType (text : String) : Bool := pipelineEventTypes.any (·.text = text)

/-- The rows the WHERE clause of the candidates keeps and no other transaction has locked. -/
def OutboxTable.due (t : OutboxTable) (locked : List Nat) (now : Int) : List OutboxRow :=
  t.rows.filter fun row => isPipelineType row.entry.eventType && row.leasable now && !locked.contains row.entry.id

/-- `ORDER BY available_at, id LIMIT limit` -/
def OutboxTable.candidates (t : OutboxTable) (limit : Nat) (locked : List Nat) (now : Int) : List Nat :=
  (((t.due locked now).insertionSort fun a b => a.progress.availableAt < b.progress.availableAt ∨
    a.progress.availableAt = b.progress.availableAt ∧ a.entry.id ≤ b.entry.id).take limit).map (·.entry.id)

def leaseOwnerOf (acquisitionToken : String) (id : Nat) : String := s!"{acquisitionToken}:{id}"

def OutboxRow.leasedTo (row : OutboxRow) (acquisitionToken : String) (now duration : Int) : OutboxProgress :=
  { row.progress with
    status := .leased
    attemptCount := row.progress.attemptCount + 1
    leaseOwner := some (leaseOwnerOf acquisitionToken row.entry.id)
    leaseExpiresAt := some (now + duration)
    nextRetryAt := none
    lastError := none }

def OutboxRow.lease (row : OutboxRow) (acquisitionToken : String) : OutboxLease :=
  ⟨row.entry, row.progress.attemptCount + 1, leaseOwnerOf acquisitionToken row.entry.id⟩

/-- The leases in the order of their ids, which `runBatch` puts them in, and the table. -/
def leaseOutbox (t : OutboxTable) (acquisitionToken : String) (limit : Nat) (locked : List Nat) (now duration : Int) :
    List OutboxLease × OutboxTable :=
  let chosen := t.candidates limit locked now
  (((t.rows.filter fun row => chosen.contains row.entry.id).map (·.lease acquisitionToken)).insertionSort
      fun a b => a.entry.id ≤ b.entry.id,
    t.update fun row => if chosen.contains row.entry.id then row.leasedTo acquisitionToken now duration else row.progress)

/-- The WHERE clause of an update by the owner of a lease. -/
def OutboxLease.owns (lease : OutboxLease) (now : Int) (row : OutboxRow) : Bool :=
  row.entry.id == lease.entry.id && row.progress.status == .leased &&
    row.progress.leaseOwner == some lease.leaseOwner && row.progress.leaseExpiresAt.any fun expiry => decide (now < expiry)

/-- An update by the owner; none when the lease is lost. -/
def OutboxTable.updateOwned (t : OutboxTable) (lease : OutboxLease) (now : Int) (f : OutboxProgress → OutboxProgress) :
    Option OutboxTable :=
  if t.rows.any (lease.owns now) then
    some (t.update fun row => if lease.owns now row then f row.progress else row.progress)
  else none

/-! ## The analytics store -/

structure PipelineWatermark where
  pipelineName : String
  eventTime : Option Int
  outboxId : Nat
  lagSeconds : Int
  updatedAt : Int

structure ClickHouse where
  tables : SinkTable → List ClickHouseSinkRow
  watermarks : List PipelineWatermark

def ClickHouse.insertRows (c : ClickHouse) (table : SinkTable) (rows : List ClickHouseSinkRow) : ClickHouse :=
  { c with tables := fun t => if t = table then c.tables t ++ rows else c.tables t }

/-! ## Failures -/

inductive DeliveryError where
  | typeError (message : String)
  | rangeError (message : String)
  | other (errorClass message : String)

structure OutboxFailure where
  code : String
  errorClass : String
  message : String
  retryable : Bool

def payloadInvalid : String := "CLICKHOUSE_OUTBOX_PAYLOAD_INVALID"

def failureFrom : DeliveryError → OutboxFailure
  | .typeError message => ⟨payloadInvalid, "TypeError", message, false⟩
  | .rangeError message => ⟨payloadInvalid, "RangeError", message, false⟩
  | .other errorClass message => ⟨"CLICKHOUSE_DELIVERY_FAILED", errorClass, message, true⟩

/-- The failure a lease is dead-lettered with. -/
def OutboxFailure.terminal (failure : OutboxFailure) : OutboxFailure :=
  if failure.retryable then { failure with code := "CLICKHOUSE_DELIVERY_RETRY_EXHAUSTED", retryable := false } else failure

def OutboxFailure.text (failure : OutboxFailure) : String := s!"{failure.code}: {failure.message}"

def retryDelayMs (attemptCount baseDelayMs : Nat) : Nat := min 300000 (baseDelayMs * 2 ^ min 20 (attemptCount - 1))

/-! ## Settings and state -/

structure OutboxSettings where
  platform : Platform
  identity : ClickHouseSinkIdentity
  pipelineName : String
  batchSize : Nat
  maxAttempts : Nat
  retryBaseDelayMs : Nat
  leaseDurationMs : Nat
  insertBatchSize : Nat
  batchSize_valid : 1 ≤ batchSize ∧ batchSize ≤ 1000
  maxAttempts_valid : 1 ≤ maxAttempts
  leaseDuration_valid : 1000 ≤ leaseDurationMs
  insertBatchSize_valid : 1 ≤ insertBatchSize

inductive SyncStatus where
  | healthy
  | degraded
  | stale
  | failed
  deriving DecidableEq, Repr

structure SyncState where
  lastOutboxId : Option Nat
  lastEventTime : Option Int
  lastSuccessAt : Option Int
  lagSeconds : Int
  status : SyncStatus
  lastError : Option String

/-- What the registry of usage events keeps of the projection. -/
structure RegistrySync where
  applicationId : String
  eventId : String
  rawSyncedAt : Option Int
  officialSyncedAt : Option Int

structure DeadLetterEvent where
  applicationId : String
  outboxId : Nat
  errorCode : String
  errorClass : String
  errorMessage : String
  attemptCount : Nat

/-- What a run of `deliver` keeps until it returns. -/
structure Delivery where
  leases : List OutboxLease
  outboxIds : List Nat
  maxOutboxId : Nat
  maxEventTime : Option Int
  lastCreatedAt : Int

/-- Where a worker is; the tables are those still to be taken. -/
inductive Phase where
  | querying (delivery : Delivery) (tables : List (SinkTable × List ClickHouseSinkRow))
  | inserting (delivery : Delivery) (table : SinkTable) (rows : List ClickHouseSinkRow)
      (tables : List (SinkTable × List ClickHouseSinkRow))
  | acknowledging (delivery : Delivery)
  | handling (failure : OutboxFailure) (leases : List OutboxLease)
  | syncing (recorded : OutboxFailure) (terminal : Bool) (failure : OutboxFailure) (leases : List OutboxLease)
  | finished

structure OutboxState where
  now : Int
  outbox : OutboxTable
  clickhouse : ClickHouse
  registry : List RegistrySync
  sync : Option SyncState
  deadLetters : List DeadLetterEvent
  workers : List Phase

def emptyOutbox (now : Int) : OutboxState := ⟨now, ⟨[], .nil⟩, ⟨fun _ => [], []⟩, [], none, [], []⟩

/-! ## Delivery -/

/-- `map.set(key(x), x)` on the values of a map, in the order of insertion. -/
def put {α κ : Type} [DecidableEq κ] (key : α → κ) (values : List α) (x : α) : List α :=
  if values.any (key · = key x) then values.map fun y => if key y = key x then x else y else values ++ [x]

def addRecord (byId : List ClickHouseOutboxRecord) (record : ClickHouseOutboxRecord) :
    Except String (List ClickHouseOutboxRecord) :=
  if byId.any fun existing => existing.id = record.id && existing.idempotencyKey ≠ record.idempotencyKey then
    .error s!"Conflicting outbox records share id {record.id}"
  else .ok (put (·.id) byId record)

def uniqueSorted (records : List ClickHouseOutboxRecord) : Except String (List ClickHouseOutboxRecord) := do
  let byId ← records.foldlM addRecord []
  return byId.insertionSort fun a b => a.id ≤ b.id

/-- The rows of a batch by table, for the tables that get any. -/
def grouped (mapped : List MappedClickHouseOutbox) : List (SinkTable × List ClickHouseSinkRow) :=
  (sinkTables.map fun table => (table, mapped.flatMap (·.rowsOf table))).filter fun group => !group.2.isEmpty

/-- `deliver` up to its first question to the store. -/
def prepare (settings : OutboxSettings) (leases : List OutboxLease) :
    Except DeliveryError (Delivery × List (SinkTable × List ClickHouseSinkRow)) :=
  match uniqueSorted (leases.map (·.entry.toClickHouseOutboxRecord)) with
  | .error message => .error (.typeError message)
  | .ok batch =>
    match batch.getLast? with
    | none => .error (.rangeError "ClickHouse outbox delivery batch must not be empty")
    | some last =>
      match batch.mapM fun record => mapClickHouseOutbox settings.platform record settings.identity with
      | .error message => .error (.typeError message)
      | .ok mapped =>
        .ok (⟨leases, batch.map (·.id), last.id, (mapped.map (·.eventTime)).max?, last.createdAt⟩, grouped mapped)

def addRow (table : SinkTable) (byDeliveryId : List ClickHouseSinkRow) (row : ClickHouseSinkRow) :
    Except String (List ClickHouseSinkRow) :=
  if row.sinkDeliveryId = "" then .error s!"{table.text} sink row has no delivery identity"
  else if byDeliveryId.any fun existing => existing.sinkDeliveryId = row.sinkDeliveryId && existing.json ≠ row.json then
    .error s!"{table.text} contains conflicting rows for delivery {row.sinkDeliveryId}"
  else .ok (put (·.sinkDeliveryId) byDeliveryId row)

/-- The first half of `missingRows`: one row for each delivery id. -/
def byDeliveryId (table : SinkTable) (rows : List ClickHouseSinkRow) : Except String (List ClickHouseSinkRow) :=
  rows.foldlM (addRow table) []

/-- The second half: the rows whose delivery ids the store does not have. -/
def missing (c : ClickHouse) (table : SinkTable) (rows : List ClickHouseSinkRow) : List ClickHouseSinkRow :=
  rows.filter fun row => !(c.tables table).any (·.sinkDeliveryId = row.sinkDeliveryId)

/-- `Math.max(0, Math.floor((now - time) / 1000))` of milliseconds. -/
def lagSeconds (now time : Int) : Int := max 0 ((now / 1000 - time) / 1000)

def Delivery.watermark (delivery : Delivery) (pipelineName : String) (now : Int) : PipelineWatermark :=
  ⟨pipelineName, delivery.maxEventTime, delivery.maxOutboxId,
    lagSeconds now (delivery.maxEventTime.getD delivery.lastCreatedAt), now / 1000⟩

/-! ## Acknowledgement and failures -/

def PipelineEventType.official : PipelineEventType → Bool
  | .providerCostOfficialDelta | .providerCostAdjustment | .providerCostUnpriced | .aiuOfficialDelta | .aiuDecision => true
  | _ => false

/-- `payload_json->>'event_id'` when it is a text. -/
def OutboxEntry.payloadEventId (entry : OutboxEntry) : Option String :=
  match entry.payload with
  | .obj fields => (Object.field fields "event_id").bind textOf
  | _ => none

def RegistrySync.markRaw (now : Int) (entry : OutboxEntry) (mark : RegistrySync) : RegistrySync :=
  if entry.eventType = PipelineEventType.usageEventsRaw.text ∧ mark.eventId = entry.aggregateId ∧
      mark.applicationId = entry.applicationId then
    { mark with rawSyncedAt := some (mark.rawSyncedAt.getD now) }
  else mark

def RegistrySync.markOfficial (now : Int) (entry : OutboxEntry) (mark : RegistrySync) : RegistrySync :=
  if (pipelineEventTypes.any fun type => type.official && decide (type.text = entry.eventType)) ∧
      some mark.eventId = entry.payloadEventId ∧ mark.applicationId = entry.applicationId then
    { mark with officialSyncedAt := some (mark.officialSyncedAt.getD now) }
  else mark

/-- Every raw marker of the batch before any official one. -/
def markRegistry (registry : List RegistrySync) (leases : List OutboxLease) (now : Int) : List RegistrySync :=
  leases.foldl (fun marks lease => marks.map (.markOfficial now lease.entry))
    (leases.foldl (fun marks lease => marks.map (.markRaw now lease.entry)) registry)

/-- `INSERT INTO clickhouse_sync_state ... ON CONFLICT DO UPDATE` of a delivered batch. -/
def advanceSync (sync : Option SyncState) (delivery : Delivery) (now : Int) : SyncState :=
  let lag := lagSeconds now (delivery.maxEventTime.getD delivery.lastCreatedAt)
  match sync with
  | none => ⟨some delivery.maxOutboxId, delivery.maxEventTime, some now, lag, .healthy, none⟩
  | some old =>
    let advances := old.lastOutboxId.all fun last => decide (last ≤ delivery.maxOutboxId)
    { lastOutboxId := if advances then some delivery.maxOutboxId else old.lastOutboxId
      lastEventTime := if advances then delivery.maxEventTime else old.lastEventTime
      lastSuccessAt := some (old.lastSuccessAt.elim now (max · now))
      lagSeconds := if advances then lag else old.lagSeconds
      status := if advances then .healthy else old.status
      lastError := if advances then none else old.lastError }

def OutboxProgress.sent (now : Int) (progress : OutboxProgress) : OutboxProgress :=
  { progress with status := .sent, sentAt := some now, nextRetryAt := none, lastError := none }

/-- Marks the complete batch, or throws and changes nothing. -/
def markDelivered (s : OutboxState) (delivery : Delivery) : Option OutboxState :=
  let expectedIds := delivery.leases.map (·.entry.id)
  if expectedIds = [] ∨ delivery.outboxIds ≠ expectedIds ∨ some delivery.maxOutboxId ≠ expectedIds.getLast? then none
  else do
    let outbox ← delivery.leases.foldlM (fun t lease => t.updateOwned lease s.now (.sent s.now)) s.outbox
    return { s with
      outbox
      registry := markRegistry s.registry delivery.leases s.now
      sync := some (advanceSync s.sync delivery s.now) }

def OutboxProgress.retryAt (time : Int) (error : String) (progress : OutboxProgress) : OutboxProgress :=
  { progress with status := .failed, availableAt := time, nextRetryAt := some time, lastError := some error }

def retry (settings : OutboxSettings) (s : OutboxState) (lease : OutboxLease) (failure : OutboxFailure) :
    Option OutboxState := do
  let time := s.now + retryDelayMs lease.attemptCount settings.retryBaseDelayMs * 1000
  let outbox ← s.outbox.updateOwned lease s.now (.retryAt time failure.text)
  return { s with outbox }

def OutboxProgress.buried (error : String) (progress : OutboxProgress) : OutboxProgress :=
  { progress with status := .deadLetter, nextRetryAt := none, lastError := some error }

def deadLetter (s : OutboxState) (lease : OutboxLease) (failure : OutboxFailure) : Option OutboxState := do
  let outbox ← s.outbox.updateOwned lease s.now (.buried failure.text)
  return { s with
    outbox
    deadLetters := s.deadLetters ++ [⟨lease.entry.applicationId, lease.entry.id, failure.code, failure.errorClass,
      failure.message, lease.attemptCount⟩] }

def markSyncFailure (s : OutboxState) (failure : OutboxFailure) (terminal : Bool) : OutboxState :=
  let status := if terminal then .failed else .degraded
  { s with sync := some (match s.sync with
    | none => ⟨none, none, none, 0, status, some failure.text⟩
    | some old => { old with status, lastError := some failure.text }) }

/-! ## Moves of a worker -/

/-- What the store answers to a question or an insert. -/
inductive Answer where
  | done
  | failed (errorClass message : String) (applied : Bool)

section Moves

variable (settings : OutboxSettings)

/-- The question which delivery ids of the table are there. -/
def askTable (s : OutboxState) (answer : Answer) (delivery : Delivery) (table : SinkTable)
    (rows : List ClickHouseSinkRow) (tables : List (SinkTable × List ClickHouseSinkRow)) : Phase :=
  match byDeliveryId table rows with
  | .error message => .handling (failureFrom (.typeError message)) delivery.leases
  | .ok distinct =>
    match answer with
    | .failed errorClass message _ => .handling (failureFrom (.other errorClass message)) delivery.leases
    | .done =>
      if (missing s.clickhouse table distinct).isEmpty then .querying delivery tables
      else .inserting delivery table (missing s.clickhouse table distinct) tables

/-- One chunk of `insertRows`. -/
def insertChunk (s : OutboxState) (answer : Answer) (delivery : Delivery) (table : SinkTable)
    (rows : List ClickHouseSinkRow) (tables : List (SinkTable × List ClickHouseSinkRow)) : OutboxState × Phase :=
  let written := { s with clickhouse := s.clickhouse.insertRows table (rows.take settings.insertBatchSize) }
  match answer with
  | .failed errorClass message applied =>
    (if applied then written else s, .handling (failureFrom (.other errorClass message)) delivery.leases)
  | .done =>
    (written, if (rows.drop settings.insertBatchSize).isEmpty then .querying delivery tables
      else .inserting delivery table (rows.drop settings.insertBatchSize) tables)

def writeWatermark (s : OutboxState) (answer : Answer) (delivery : Delivery) : OutboxState × Phase :=
  let written := { s with clickhouse := { s.clickhouse with
    watermarks := s.clickhouse.watermarks ++ [delivery.watermark settings.pipelineName s.now] } }
  if delivery.maxOutboxId = 0 then
    (s, .handling (failureFrom (.other "Error"
      "ClickHouse watermark versions must be positive and outbox IDs non-negative")) delivery.leases)
  else
    match answer with
    | .failed errorClass message applied =>
      (if applied then written else s, .handling (failureFrom (.other errorClass message)) delivery.leases)
    | .done => (written, .acknowledging delivery)

/-- One lease in the loop of `handleFailure`. -/
def handleLease (s : OutboxState) (failure : OutboxFailure) (lease : OutboxLease) (rest : List OutboxLease) :
    OutboxState × Phase :=
  if failure.retryable ∧ lease.attemptCount < settings.maxAttempts then
    match retry settings s lease failure with
    | some s' => (s', .syncing failure false failure rest)
    | none => (s, .finished)
  else
    match deadLetter s lease failure.terminal with
    | some s' => (s', .syncing failure.terminal true failure rest)
    | none => (s, .finished)

/-- A worker up to its next answer. -/
def advance (s : OutboxState) (answer : Answer) : Phase → OutboxState × Phase
  | .querying delivery [] => writeWatermark settings s answer delivery
  | .querying delivery ((table, rows) :: tables) => (s, askTable s answer delivery table rows tables)
  | .inserting delivery table rows tables => insertChunk settings s answer delivery table rows tables
  | .acknowledging delivery => ((markDelivered s delivery).getD s, .finished)
  | .handling _ [] => (s, .finished)
  | .handling failure (lease :: rest) => handleLease settings s failure lease rest
  | .syncing recorded terminal failure rest => (markSyncFailure s recorded terminal, .handling failure rest)
  | .finished => (s, .finished)

/-- The phase of a worker that has its leases. -/
def firstPhase (leases : List OutboxLease) : Phase :=
  if leases.isEmpty then .finished
  else
    match prepare settings leases with
    | .error error => .handling (failureFrom error) leases
    | .ok (delivery, tables) => .querying delivery tables

end Moves

/-! ## Replays -/

/-- A reconciliation run that repeats the projection. `inRange`: the rows whose time is in its
    range; `ids`: what the sequence gives for the new rows. -/
structure ReplayRun where
  runId : String
  applicationId : String
  inRange : List Nat
  ids : List Nat

def ReplayRun.selects (run : ReplayRun) (row : OutboxRow) : Bool :=
  row.entry.applicationId == run.applicationId &&
    (row.progress.status == .sent || row.progress.status == .deadLetter) &&
    !"reconciliation:".isPrefixOf row.entry.idempotencyKey && isPipelineType row.entry.eventType &&
    run.inRange.contains row.entry.id

def ReplayRun.row (run : ReplayRun) (source : OutboxEntry) (id : Nat) (now : Int) : OutboxRow where
  entry :=
    { source with
      id
      idempotencyKey := s!"reconciliation:{run.runId}:outbox:{source.id}"
      replayOfOutboxId := some (source.replayOfOutboxId.getD source.id)
      createdAt := now / 1000 }
  progress := .new now

/-- `ON CONFLICT (application_id, idempotency_key) DO NOTHING`; none when the id is not new. -/
def insertReplay (now : Int) (run : ReplayRun) (t : OutboxTable) (source : OutboxEntry × Nat) : Option OutboxTable :=
  if source.2 ≤ source.1.id then none
  else if t.rows.any fun row => row.entry.applicationId = source.1.applicationId &&
      row.entry.idempotencyKey = (run.row source.1 source.2 now).entry.idempotencyKey then some t
  else t.insert (run.row source.1 source.2 now)

def resetOutbox (t : OutboxTable) (run : ReplayRun) (now : Int) : Option OutboxTable :=
  let sources := (t.rows.filter run.selects).map (·.entry)
  if run.ids.length = sources.length then (sources.zip run.ids).foldlM (insertReplay now run) t else none

/-! ## The system -/

inductive OutboxStep where
  | wait (microseconds : Nat)
  | register (applicationId eventId : String)
  | produce (applicationId : String) (id : Nat) (message : PipelineOutboxMessage)
  | replay (run : ReplayRun)
  | lease (acquisitionToken : String) (locked : List Nat)
  | advance (worker : Nat) (answer : Answer)
  | crash (worker : Nat)

section System

variable (settings : OutboxSettings)

def OutboxState.leased (s : OutboxState) (acquisitionToken : String) (locked : List Nat) : List OutboxLease × OutboxTable :=
  leaseOutbox s.outbox acquisitionToken settings.batchSize locked s.now (settings.leaseDurationMs * 1000)

/-- A step, or none when nothing in the system can do it now. -/
def OutboxState.next (s : OutboxState) : OutboxStep → Option OutboxState
  | .wait microseconds => some { s with now := s.now + microseconds }
  | .register applicationId eventId =>
    if s.registry.any fun mark => mark.applicationId = applicationId && mark.eventId = eventId then none
    else some { s with registry := s.registry ++ [⟨applicationId, eventId, none, none⟩] }
  | .produce applicationId id message =>
    if id = 0 then none
    else do
      let outbox ← s.outbox.insert (message.row applicationId id s.now)
      return { s with outbox }
  | .replay run => do
    let outbox ← resetOutbox s.outbox run s.now
    return { s with outbox }
  | .lease acquisitionToken locked =>
    let (leases, outbox) := s.leased settings acquisitionToken locked
    some { s with outbox, workers := s.workers ++ [firstPhase settings leases] }
  | .advance worker answer => do
    let phase ← s.workers[worker]?
    let (s', phase') := advance settings s answer phase
    return { s' with workers := s.workers.set worker phase' }
  | .crash worker => if worker < s.workers.length then some { s with workers := s.workers.set worker .finished } else none

def outboxMachine : Machine OutboxState OutboxStep Unit Unit where
  exec s step :=
    match s.next settings step with
    | some s' => .ok ((), s')
    | none => .error ()

end System

end TokenPilot.Analytics
