/-
  TokenPilot.Pipeline.Workers — any number of workers on one inbox.

  A worker leases rows (`leaseInbox`, apps/worker/src/pipeline/prisma-inbox-store.ts) and
  keeps what it got in memory, a `Session` for each; the row may meanwhile be leased
  to somebody else, or be reset by an administrator. A `Call` is one transaction, made by
  one session in the order `UsagePipelineProcessor.process` makes them; calls of
  different sessions interleave in any way, and a session that makes no further call has
  crashed. The answer of a call can be lost after the transaction went through: then the
  worker sees a failure, and goes on as `process` does after one.

  `session_call` says what a call of a session can do to the inbox: it rewrites the row
  its lease owns at that time and nothing else, and without such a row it does nothing at
  all. `Tracks` is the invariant of the sessions, kept by every call (`tracks_run`): no two
  sessions share a token, and a running session whose token is still stored knows its
  row's stage. From it follow that a completed row was committed after its last reset
  (`completed_was_committed`) and that a stage decreases by a reset only (`stage_mono`).
  The administrative resets are `DlqService.replay` (apps/api/src/dlq.service.ts) and
  `resetInbox` (apps/worker/src/reconciliation/operation-executor.ts).

  Left out: ingestion, which adds rows, and the purge of payloads of completed rows.
-/

import Mathlib.Data.List.Sort
import TokenPilot.Pipeline.Processor

namespace TokenPilot.Pipeline

open TokenPilot.Library TokenPilot.Quota

/-! ## Leases -/

/-- The WHERE clause of the candidates. Lease times are microseconds, the others milliseconds. -/
def IngestionInbox.leasable (now : Int) (row : IngestionInbox) : Bool :=
  ((row.status == .pending || row.status == .failed) && decide (row.availableAt * 1000 ≤ now) &&
      decide (row.nextRetryAt.getD row.availableAt * 1000 ≤ now) ||
    row.status == .leased && row.leaseExpiresAt.any fun e => decide (e ≤ now)) &&
  row.stage != .completed && row.stage != .deadLetter

/-- `$2 || ':' || i.id::text`. -/
def leaseOwnerOf (acquisitionToken : String) (id : Uuid) : String := acquisitionToken ++ (":" ++ toString id)

def IngestionInbox.leasedTo (row : IngestionInbox) (acquisitionToken : String) (now duration : Int) : IngestionInbox :=
  { row with
    status := .leased
    attemptCount := row.attemptCount + 1
    leaseOwner := some (leaseOwnerOf acquisitionToken row.id)
    leaseExpiresAt := some (now + duration)
    nextRetryAt := none }

/-- The rows chosen, in the order of `available_at, id`; rows locked by others are skipped. -/
def leaseCandidates (db : Database) (limit : Nat) (locked : List Uuid) (now : Int) : List Uuid :=
  (((db.inbox.rows.filter fun row => row.leasable now && !locked.contains row.id).insertionSort
    fun a b => a.availableAt < b.availableAt ∨ a.availableAt = b.availableAt ∧ a.id ≤ b.id).take limit).map (·.id)

/-- The candidates that the join with the registry keeps. -/
def leaseSelects (db : Database) (limit : Nat) (locked : List Uuid) (now : Int) (row : IngestionInbox) : Bool :=
  (leaseCandidates db limit locked now).contains row.id && (db.registryOf row.applicationId row.eventId).isSome

/-- The transaction commits before its rows are mapped. -/
def leaseInbox (db : Database) (acquisitionToken : String) (limit : Nat) (locked : List Uuid) (now duration : Int) :
    Except Failure (List InboxLease) × Database :=
  if limit < 1 ∨ 1000 < limit then
    (.error (.typeError "Inbox lease batch size must be between 1 and 1000"), db)
  else
    let selects := leaseSelects db limit locked now
    match statement (db.inbox.updateMany selects (·.leasedTo acquisitionToken now duration) fun _ _ => rfl) with
    | .error e => (.error e, db)
    | .ok (inbox, _) =>
      ((db.inbox.rows.filter selects).mapM fun row =>
        mapLease (row.leasedTo acquisitionToken now duration)
          (((db.registryOf row.applicationId row.eventId).map (·.payloadHash)).getD ""), { db with inbox })

/-! ## Administrative resets -/

def IngestionInbox.resetTo (row : IngestionInbox) (now : Timestamp) (replayIntentJson : JsonValue) : IngestionInbox :=
  { row with
    status := .pending
    stage := .received
    attemptCount := 0
    availableAt := now
    nextRetryAt := none
    leaseOwner := none
    leaseExpiresAt := none
    replayIntentJson := replayIntentJson }

/-- `DlqService.replay` of the dead letter at the position. -/
def replayDeadLetter (db : Database) (position : Nat) (now : Timestamp) : Except Failure Database :=
  match db.deadLetters[position]? with
  | none => .error (.notFound "Dead-letter event was not found")
  | some dead =>
    let inbox := db.inbox.rows.find? fun row => row.id == dead.inboxId && row.applicationId == dead.applicationId
    if dead.status = .replayQueued ∧ inbox.any (·.status == .pending) then .ok db
    else if dead.status ≠ .open then .error (.badRequest "Only open dead-letter events can be replayed")
    else
      match inbox with
      | none => .error (.badRequest "The canonical inbox payload is no longer available")
      | some row =>
        if row.payload.isNone then .error (.badRequest "The canonical inbox payload is no longer available")
        else do
          let (inbox, _) ← statement (db.inbox.updateMany (fun r => r.id == row.id)
            (fun r => r.resetTo now r.replayIntentJson) fun _ _ => rfl)
          let (registry, _) ← statement (db.registry.updateMany
            (fun r => r.applicationId == row.applicationId && r.eventId == dead.eventId)
            (fun r => { r with processingStage := .received }) fun _ _ => rfl)
          return { db with
            inbox := inbox
            registry := registry
            deadLetters := db.deadLetters.set position { dead with status := .replayQueued } }

/-- The rows a reconciliation run resets. `inRange`: the events whose time is in its range. -/
def resetSelects (db : Database) (applicationId : Uuid) (inRange : List String) (row : IngestionInbox) : Bool :=
  row.applicationId == applicationId && row.payload.isSome && row.status != .leased &&
    (db.registryOf row.applicationId row.eventId).isSome && inRange.contains row.eventId

def reconciliationIntent (runId replayType : String) : JsonValue :=
  .object [("authority", .string "reconciliation"), ("run_id", .string runId), ("replay_type", .string replayType)]

def resetInbox (db : Database) (applicationId : Uuid) (runId replayType : String) (inRange : List String)
    (now : Timestamp) : Except Failure Database := do
  let (inbox, _) ← statement (db.inbox.updateMany (resetSelects db applicationId inRange)
    (fun row => row.resetTo now (reconciliationIntent runId replayType)) fun _ _ => rfl)
  return { db with inbox }

/-! ## Sessions -/

/-- What the stages hand to the commit, by the lease alone. -/
def stageResults (settings : ProcessorSettings) (lease : InboxLease) : Except Failure PipelineSettlementContext := do
  let resolution ← resolutionStage settings.flags settings.handlers lease
  let providerCost ← providerCostStage settings.flags settings.handlers lease resolution
  let aiu ← aiuStage settings.flags settings.handlers lease resolution
  return settlementContext settings.flags lease resolution providerCost aiu

theorem stageResults_ok {settings : ProcessorSettings} {lease : InboxLease} {context : PipelineSettlementContext} :
    stageResults settings lease = .ok context ↔ StagesReturn settings lease context := by
  constructor
  · intro h
    obtain ⟨resolution, hres, h⟩ := bind_ok h
    obtain ⟨providerCost, hcost, h⟩ := bind_ok h
    obtain ⟨aiu, haiu, h⟩ := bind_ok h
    cases h
    exact ⟨resolution, providerCost, aiu, hres, hcost, haiu, rfl⟩
  · rintro ⟨resolution, providerCost, aiu, hres, hcost, haiu, rfl⟩
    exact bind_of hres (bind_of hcost (bind_of haiu rfl))

inductive Phase where
  /-- In the `try` block of `process`. -/
  | running
  /-- In its `catch` block. -/
  | caught (failure : Failure)
  | ended
  deriving DecidableEq, Repr

/-- One `process` of a worker: the lease it has in memory. -/
structure Session where
  lease : InboxLease
  phase : Phase
  deriving DecidableEq, Repr

structure Cluster where
  db : Database
  /-- `statement_timestamp()`. -/
  clock : Int
  /-- The acquisition tokens drawn so far. -/
  tokens : List String
  sessions : List Session

/-- A call of session `i` names what the worker sees when the answer is `lost`. -/
inductive Call where
  | tick (elapsed : Nat)
  | leaseInbox (acquisitionToken : String) (limit : Nat) (locked : List Uuid)
  | checkpoint (i : Nat) (stage : PipelineStageName) (lost : Option Failure)
  | commitOfficial (i : Nat) (values : CommitValues) (elapsed elapsed' : Nat) (lost : Option Failure)
  | complete (i : Nat) (lost : Option Failure)
  /-- Something throws before the call is made. -/
  | throws (i : Nat) (failure : Failure)
  | retry (i : Nat) (retryAt : Timestamp)
  | deadLetter (i : Nat)
  | replayDeadLetter (position : Nat) (now : Timestamp)
  | resetInbox (applicationId : Uuid) (runId replayType : String) (inRange : List String) (now : Timestamp)
  deriving DecidableEq, Repr

/-- The session that makes the call. -/
def Call.session : Call → Option Nat
  | .checkpoint i _ _ | .commitOfficial i _ _ _ _ | .complete i _ | .throws i _ | .retry i _ | .deadLetter i => some i
  | _ => none

def Call.isReset : Call → Bool
  | .replayDeadLetter _ _ | .resetInbox _ _ _ _ _ => true
  | _ => false

/-- A call of `process` that returns the lease: the worker goes on with it, or has caught
    what the call threw, or what it saw instead of the answer. -/
def Session.answered (session : Session) (lost : Option Failure) : Except Failure (InboxLease × Database) → Session
  | .error e => { session with phase := .caught e }
  | .ok (lease, _) =>
    match lost with
    | none => { session with lease := lease }
    | some e => { session with phase := .caught e }

/-- The database after a transaction, which is rolled back when it fails. -/
def orRolledBack {α : Type} (db : Database) (after : α → Database) : Except Failure α → Database
  | .ok a => after a
  | .error _ => db

section Calls

variable (settings : ProcessorSettings) (s : Cluster)

/-- The stages' results are computed again in every run, and then committed. -/
def commitResults (lease : InboxLease) (values : CommitValues) (elapsed elapsed' : Nat) :
    Except Failure (InboxLease × Database) := do
  let context ← stageResults settings lease
  let ((lease, _), db) ← commitOfficial s.db lease context values
    ⟨s.clock, s.clock + elapsed, s.clock + elapsed + elapsed'⟩ settings.leaseDuration
  return (lease, db)

/-- The call of a session that is in the right phase of `process` for it, with the clock after it. -/
def sessionCall (session : Session) : Call → Except Unit (Session × Database × Int)
  | .checkpoint _ stage lost =>
    -- `advanceIfNeeded`: the stages come one after another
    if session.phase = .running ∧ stageRank stage = stageRank session.lease.stage + 1 ∧
        stageRank stage ≤ stageRank .quotaSettled then
      let result := advance s.db session.lease stage s.clock settings.leaseDuration
      .ok (session.answered lost result, orRolledBack s.db (·.2) result, s.clock)
    else .error ()
  | .commitOfficial _ values elapsed elapsed' lost =>
    if session.phase = .running ∧ stageRank .quotaSettled ≤ stageRank session.lease.stage ∧
        stageRank session.lease.stage < stageRank .outboxCreated then
      let result := commitResults settings s session.lease values elapsed elapsed'
      .ok (session.answered lost result, orRolledBack s.db (·.2) result, s.clock + elapsed + elapsed')
    else .error ()
  | .complete _ lost =>
    if session.phase = .running ∧ stageRank .outboxCreated ≤ stageRank session.lease.stage then
      let result := complete s.db session.lease s.clock
      let phase : Phase :=
        match result, lost with
        | .error e, _ | .ok _, some e => .caught e
        | .ok _, none => .ended
      .ok ({ session with phase := phase }, orRolledBack s.db id result, s.clock)
    else .error ()
  | .throws _ failure =>
    if session.phase = .running then .ok ({ session with phase := .caught failure }, s.db, s.clock) else .error ()
  | .retry _ retryAt =>
    match session.phase with
    | .caught failure =>
      if retryable failure && decide (session.lease.attemptCount < settings.maxAttempts) then
        .ok ({ session with phase := .ended },
          orRolledBack s.db id (retry s.db session.lease s.clock retryAt), s.clock)
      else .error ()
    | _ => .error ()
  | .deadLetter _ =>
    match session.phase with
    | .caught failure =>
      if retryable failure && decide (session.lease.attemptCount < settings.maxAttempts) then .error ()
      else .ok ({ session with phase := .ended },
        orRolledBack s.db id (deadLetter s.db session.lease s.clock failure), s.clock)
    | _ => .error ()
  | _ => .error ()

/-- A call that cannot be made (no such session, or not in this phase) is an error and no step.
    `randomUUID` draws no token twice. -/
def execCall : Call → Except Unit (Unit × Cluster)
  | .tick elapsed => .ok ((), { s with clock := s.clock + elapsed })
  | .leaseInbox acquisitionToken limit locked =>
    if s.tokens.contains acquisitionToken then .error ()
    else
      let (leases, db) := leaseInbox s.db acquisitionToken limit locked s.clock settings.leaseDuration
      let sessions := match leases with
        | .ok leases => leases.map (⟨·, .running⟩)
        | .error _ => []
      .ok ((), { s with db, tokens := acquisitionToken :: s.tokens, sessions := s.sessions ++ sessions })
  | .replayDeadLetter position now =>
    .ok ((), { s with db := orRolledBack s.db id (replayDeadLetter s.db position now) })
  | .resetInbox applicationId runId replayType inRange now =>
    .ok ((), { s with db := orRolledBack s.db id (resetInbox s.db applicationId runId replayType inRange now) })
  | call => do
    let i ← call.session.elim (.error ()) .ok
    let session ← s.sessions[i]?.elim (.error ()) .ok
    let (session, db, clock) ← sessionCall settings s session call
    return ((), { s with db, clock, sessions := s.sessions.set i session })

/-- The workers, as a machine whose calls interleave. -/
def workers : Machine Cluster Call Unit Unit := ⟨execCall settings⟩

end Calls

/-! ## What a transaction does to the inbox -/

/-- The row is still that of its event, under the same lease. -/
structure Keeps (f : IngestionInbox → IngestionInbox) : Prop where
  id : ∀ row, (f row).id = row.id
  applicationId : ∀ row, (f row).applicationId = row.applicationId
  eventId : ∀ row, (f row).eventId = row.eventId
  payload : ∀ row, (f row).payload = row.payload
  leaseOwner : ∀ row, (f row).leaseOwner = row.leaseOwner

/-- The lease owns a row, and this row is rewritten. -/
structure Rewrites (lease : InboxLease) (now : Int) (f : IngestionInbox → IngestionInbox) (db db' : Database) : Prop where
  keeps : Keeps f
  owned : ∃ row ∈ db.inbox.rows, lease.owns now row = true
  rows : db'.inbox.rows = db.inbox.rows.map (Table.rewrite (lease.owns now) f)

theorem owns_iff {lease : InboxLease} {now : Int} {row : IngestionInbox} : lease.owns now row = true ↔
    row.id = lease.id ∧ row.status = .leased ∧ row.leaseOwner = some lease.leaseOwner ∧
      ∃ e, row.leaseExpiresAt = some e ∧ now < e := by
  simp [InboxLease.owns, and_assoc, Option.any_eq_true]

theorem row_eq_of_id {db : Database} {row row' : IngestionInbox} (hrow : row ∈ db.inbox.rows)
    (hrow' : row' ∈ db.inbox.rows) (h : row.id = row'.id) : row = row' :=
  db.inbox.eq_of_clash hrow hrow' (by simp [Row.clash, h])

theorem rewrite_id {p : IngestionInbox → Bool} {f : IngestionInbox → IngestionInbox} (hf : Keeps f)
    (row : IngestionInbox) : (Table.rewrite p f row).id = row.id := by
  unfold Table.rewrite
  split
  · exact hf.id row
  · rfl

section Transactions

variable {db db' : Database} {lease lease' : InboxLease} {now duration : Int}

theorem setProcessingStage_inbox {stage : PipelineStageName} (h : setProcessingStage db lease stage = .ok db') :
    db'.inbox = db.inbox := by
  obtain ⟨⟨registry, n⟩, -, h⟩ := bind_ok h
  cases h
  rfl

/-- The lease an advance returns is the row's, as the advance left it. -/
theorem advance_lease {stage : PipelineStageName} (h : advance db lease stage now duration = .ok (lease', db')) :
    lease'.id = lease.id ∧ lease'.leaseOwner = lease.leaseOwner ∧ lease'.stage = stage := by
  unfold advance at h
  split at h
  · cases h
  rename_i row hfind
  split at h
  · cases h
  obtain ⟨⟨inbox, n⟩, -, h⟩ := bind_ok h
  obtain ⟨db₁, -, h⟩ := bind_ok h
  obtain ⟨next, hnext, h⟩ := bind_ok h
  cases h
  have hown := owns_iff.mp (Table.find?_mem hfind).2
  unfold mapLease at hnext
  split at hnext
  · cases hnext
  · obtain ⟨intent, -, hnext⟩ := bind_ok hnext
    cases hnext
    exact ⟨hown.1, by simp [IngestionInbox.advanced, hown.2.2.1], rfl⟩

theorem advance_rewrites {stage : PipelineStageName} (h : advance db lease stage now duration = .ok (lease', db')) :
    Rewrites lease now (·.advanced stage now duration) db db' := by
  unfold advance at h
  split at h
  · cases h
  rename_i row hfind
  split at h
  · cases h
  obtain ⟨⟨inbox, n⟩, hu, h⟩ := bind_ok h
  obtain ⟨db₁, hset, h⟩ := bind_ok h
  obtain ⟨next, -, h⟩ := bind_ok h
  cases h
  obtain ⟨-, hrows, -⟩ := Table.updateMany_ok (statement_ok hu)
  refine ⟨⟨fun _ => rfl, fun _ => rfl, fun _ => rfl, fun _ => rfl, fun _ => rfl⟩, ⟨row, Table.find?_mem hfind⟩, ?_⟩
  rw [setProcessingStage_inbox hset]
  exact hrows

theorem updateLeased_rewrites {f : IngestionInbox → IngestionInbox} {hf : ∀ a b, Row.clash (f a) b = Row.clash a b}
    (h : updateLeased db lease now f hf = .ok db') (hkeeps : Keeps f) : Rewrites lease now f db db' := by
  obtain ⟨⟨inbox, n⟩, hu, h⟩ := bind_ok h
  obtain ⟨_, hone, h⟩ := bind_ok h
  cases h
  obtain ⟨-, hrows, hcount⟩ := Table.updateMany_ok (statement_ok hu)
  have hone := require_ok hone
  have hpos : 0 < db.inbox.rows.countP (lease.owns now) := by omega
  exact ⟨hkeeps, List.countP_pos_iff.mp hpos, hrows⟩

theorem complete_rewrites (h : complete db lease now = .ok db') :
    Rewrites lease now (fun row => { row with status := .completed, stage := .completed, replayIntentJson := .null })
      db db' := by
  obtain ⟨db₁, h₁, h⟩ := bind_ok h
  obtain ⟨db₂, h₂, h⟩ := bind_ok h
  cases h
  have hr := updateLeased_rewrites h₁ ⟨fun _ => rfl, fun _ => rfl, fun _ => rfl, fun _ => rfl, fun _ => rfl⟩
  refine ⟨hr.keeps, hr.owned, ?_⟩
  show db₂.inbox.rows = _
  rw [setProcessingStage_inbox h₂, hr.rows]

theorem retry_rewrites {retryAt : Timestamp} (h : retry db lease now retryAt = .ok db') :
    Rewrites lease now (fun row => { row with status := .failed, availableAt := retryAt, nextRetryAt := some retryAt })
      db db' :=
  updateLeased_rewrites h ⟨fun _ => rfl, fun _ => rfl, fun _ => rfl, fun _ => rfl, fun _ => rfl⟩

theorem deadLetter_rewrites {failure : Failure} (h : deadLetter db lease now failure = .ok db') :
    Rewrites lease now (fun row => { row with status := .deadLetter, stage := .deadLetter, nextRetryAt := none })
      db db' := by
  obtain ⟨db₁, h₁, h⟩ := bind_ok h
  have hr := updateLeased_rewrites h₁ ⟨fun _ => rfl, fun _ => rfl, fun _ => rfl, fun _ => rfl, fun _ => rfl⟩
  refine ⟨hr.keeps, hr.owned, ?_⟩
  rw [setProcessingStage_inbox h, hr.rows]
  rfl

/-- One rewrite after another, under the lease the first one returned. -/
theorem Rewrites.trans {db₁ : Database} {now₁ now₂ : Int} {f₁ f₂ : IngestionInbox → IngestionInbox}
    (hlock : ∃ row ∈ db.inbox.rows, lease.owns now row = true) (h₁ : Rewrites lease now₁ f₁ db db₁)
    (hid : lease'.id = lease.id) (h₂ : Rewrites lease' now₂ f₂ db₁ db') :
    Rewrites lease now (fun row => f₂ (f₁ row)) db db' := by
  refine ⟨⟨fun row => ?_, fun row => ?_, fun row => ?_, fun row => ?_, fun row => ?_⟩, hlock, ?_⟩
  · rw [h₂.keeps.id, h₁.keeps.id]
  · rw [h₂.keeps.applicationId, h₁.keeps.applicationId]
  · rw [h₂.keeps.eventId, h₁.keeps.eventId]
  · rw [h₂.keeps.payload, h₁.keeps.payload]
  · rw [h₂.keeps.leaseOwner, h₁.keeps.leaseOwner]
  obtain ⟨row, hrow, hown⟩ := hlock
  obtain ⟨row₁, hrow₁, hown₁⟩ := h₁.owned
  obtain ⟨row₂, hrow₂, hown₂⟩ := h₂.owned
  have heq₁ : row₁ = row := row_eq_of_id hrow₁ hrow ((owns_iff.mp hown₁).1.trans (owns_iff.mp hown).1.symm)
  subst heq₁
  -- the row of the second rewrite is what the first one left of the same row
  have heq₂ : row₂ = f₁ row₁ := by
    rw [h₁.rows] at hrow₂
    obtain ⟨x, hx, rfl⟩ := List.mem_map.mp hrow₂
    have hxid : x.id = row₁.id := by
      rw [← rewrite_id (p := lease.owns now₁) h₁.keeps x, (owns_iff.mp hown₂).1, hid, (owns_iff.mp hown₁).1]
    rw [row_eq_of_id hx hrow₁ hxid, Table.rewrite, if_pos hown₁]
  subst heq₂
  rw [h₂.rows, h₁.rows, List.map_map]
  refine List.map_congr_left fun x hx => ?_
  rw [Function.comp_apply]
  by_cases hxid : x.id = lease.id
  · have hx₁ : x = row₁ := row_eq_of_id hx hrow₁ (hxid.trans (owns_iff.mp hown₁).1.symm)
    subst hx₁
    simp only [Table.rewrite, hown, hown₁, hown₂, if_true]
  · have hnot : ∀ {l : InboxLease} {t : Int}, l.id = lease.id → l.owns t x = false := by
      intro l t hl
      rw [Bool.eq_false_iff]
      intro h
      exact hxid ((owns_iff.mp h).1.trans hl)
    simp only [Table.rewrite, hnot rfl, hnot hid, Bool.false_eq_true, if_false]

theorem createOutboxes_inbox {applicationId : Uuid} {messages : List PipelineOutboxMessage}
    (h : createOutboxes db applicationId messages = .ok db') : ∃ outbox, db' = { db with outbox } := by
  obtain ⟨outbox, hof⟩ := createOutboxes_of db applicationId messages
  cases hof.symm.trans h
  exact ⟨outbox, rfl⟩

theorem commitOfficial_rewrites {context : PipelineSettlementContext} {values : CommitValues} {clock : CommitClock}
    {metrics : PipelineOfficialMetrics}
    (h : commitOfficial db lease context values clock duration = .ok ((lease', metrics), db')) :
    (∃ f, Rewrites lease clock.lock f db db' ∧
      ∀ row, (f row).stage = .outboxCreated ∧ (f row).replayIntentJson = row.replayIntentJson) ∧
      lease'.id = lease.id ∧ lease'.leaseOwner = lease.leaseOwner ∧ lease'.stage = .outboxCreated := by
  obtain ⟨_, hlock, h⟩ := bind_ok h
  obtain ⟨⟨result, db₁⟩, hcommit, h⟩ := bind_ok h
  obtain ⟨⟨current, db₂⟩, hadvance, h⟩ := bind_ok h
  obtain ⟨base, -, h⟩ := bind_ok h
  obtain ⟨db₃, houtboxes, h⟩ := bind_ok h
  obtain ⟨⟨next, db₄⟩, hadvance', h⟩ := bind_ok h
  cases h
  obtain ⟨-, ratings, quota, rfl⟩ := commit_ok hcommit
  obtain ⟨outbox, rfl⟩ := createOutboxes_inbox houtboxes
  obtain ⟨row, hfind⟩ := Option.isSome_iff_exists.mp (require_ok hlock)
  obtain ⟨hid, howner, -⟩ := advance_lease hadvance
  obtain ⟨hid', howner', hstage'⟩ := advance_lease hadvance'
  have h₁ := advance_rewrites hadvance
  have h₂ := advance_rewrites hadvance'
  have h₁' : Rewrites lease clock.officialCommitted _ db { db₂ with outbox } := ⟨h₁.keeps, h₁.owned, h₁.rows⟩
  refine ⟨⟨_, Rewrites.trans ⟨row, Table.find?_mem hfind⟩ h₁' hid h₂, fun _ => ⟨rfl, rfl⟩⟩, hid'.trans hid,
    howner'.trans howner, hstage'⟩

end Transactions

/-! ## What a call can be -/

section Outcomes

variable (settings : ProcessorSettings) (s : Cluster)

/-- What a call of the session `σ` can leave of it and of the database. -/
inductive Outcome (σ : Session) : Call → Session → Database → Prop
  /-- The call failed, or was not made: the database is as before and `process` is in its `catch`, or over. -/
  | unchanged {call phase} : phase ≠ .running → Outcome σ call { σ with phase := phase } s.db
  | advanced {i stage lost lease' db'} : σ.phase = .running → stageRank stage = stageRank σ.lease.stage + 1 →
      stageRank stage ≤ stageRank .quotaSettled →
      advance s.db σ.lease stage s.clock settings.leaseDuration = .ok (lease', db') →
      Outcome σ (.checkpoint i stage lost) (σ.answered lost (.ok (lease', db'))) db'
  | committed {i values lost context lease' metrics db'} {elapsed elapsed' : Nat} : σ.phase = .running →
      stageRank .quotaSettled ≤ stageRank σ.lease.stage → stageRank σ.lease.stage < stageRank .outboxCreated →
      stageResults settings σ.lease = .ok context →
      commitOfficial s.db σ.lease context values ⟨s.clock, s.clock + elapsed, s.clock + elapsed + elapsed'⟩
        settings.leaseDuration = .ok ((lease', metrics), db') →
      Outcome σ (.commitOfficial i values elapsed elapsed' lost) (σ.answered lost (.ok (lease', db'))) db'
  | completed {i lost phase db'} : σ.phase = .running → stageRank .outboxCreated ≤ stageRank σ.lease.stage →
      complete s.db σ.lease s.clock = .ok db' → phase ≠ .running →
      Outcome σ (.complete i lost) { σ with phase := phase } db'
  | retried {i retryAt failure db'} : σ.phase = .caught failure → retry s.db σ.lease s.clock retryAt = .ok db' →
      Outcome σ (.retry i retryAt) { σ with phase := .ended } db'
  | deadLettered {i failure db'} : σ.phase = .caught failure → deadLetter s.db σ.lease s.clock failure = .ok db' →
      Outcome σ (.deadLetter i) { σ with phase := .ended } db'

variable {settings s}

theorem sessionCall_ok {σ σ' : Session} {call : Call} {db' : Database} {clock' : Int}
    (h : sessionCall settings s σ call = .ok (σ', db', clock')) : Outcome settings s σ call σ' db' := by
  cases call with
  | checkpoint i stage lost =>
    simp only [sessionCall] at h
    split at h
    · rename_i hcond
      cases h
      cases hadvance : advance s.db σ.lease stage s.clock settings.leaseDuration with
      | error e => exact .unchanged (by simp)
      | ok r => exact .advanced hcond.1 hcond.2.1 hcond.2.2 hadvance
    · cases h
  | commitOfficial i values elapsed elapsed' lost =>
    simp only [sessionCall] at h
    split at h
    · rename_i hcond
      cases h
      cases hcommit : commitResults settings s σ.lease values elapsed elapsed' with
      | error e => exact .unchanged (by simp)
      | ok r =>
        obtain ⟨context, hstages, hresults⟩ := bind_ok hcommit
        obtain ⟨⟨⟨lease', metrics⟩, db'⟩, hofficial, hresults⟩ := bind_ok hresults
        cases hresults
        exact .committed hcond.1 hcond.2.1 hcond.2.2 hstages hofficial
    · cases h
  | complete i lost =>
    simp only [sessionCall] at h
    split at h
    · rename_i hcond
      cases h
      cases hcomplete : complete s.db σ.lease s.clock with
      | error e => exact .unchanged (by simp)
      | ok db' =>
        refine .completed hcond.1 hcond.2 hcomplete ?_
        cases lost <;> simp
    · cases h
  | throws i failure =>
    simp only [sessionCall] at h
    split at h
    · cases h
      exact .unchanged (by simp)
    · cases h
  | retry i retryAt =>
    simp only [sessionCall] at h
    split at h
    · rename_i failure hphase
      split at h
      · cases h
        cases hretry : retry s.db σ.lease s.clock retryAt with
        | error e => exact .unchanged (by simp)
        | ok db' => exact .retried hphase hretry
      · cases h
    · cases h
  | deadLetter i =>
    simp only [sessionCall] at h
    split at h
    · rename_i failure hphase
      split at h
      · cases h
      · cases h
        cases hdead : deadLetter s.db σ.lease s.clock failure with
        | error e => exact .unchanged (by simp)
        | ok db' => exact .deadLettered hphase hdead
    · cases h
  | tick | leaseInbox | replayDeadLetter | resetInbox => cases h

/-- A call of a session takes the session's step, and no other session changes. -/
theorem execCall_session {s' : Cluster} {call : Call} {i : Nat} {u : Unit} (hi : call.session = some i)
    (h : execCall settings s call = .ok (u, s')) :
    ∃ σ σ', s.sessions[i]? = some σ ∧ Outcome settings s σ call σ' s'.db ∧ s'.tokens = s.tokens ∧
      s'.sessions = s.sessions.set i σ' := by
  have hexec : execCall settings s call = (do
      let i ← call.session.elim (.error ()) .ok
      let session ← s.sessions[i]?.elim (.error ()) .ok
      let (session, db, clock) ← sessionCall settings s session call
      return ((), { s with db, clock, sessions := s.sessions.set i session })) := by
    cases call <;> first | rfl | cases hi
  rw [hexec] at h
  obtain ⟨j, hj, h⟩ := bind_ok h
  obtain ⟨σ, hσ, h⟩ := bind_ok h
  obtain ⟨⟨σ', db', clock'⟩, hcall, h⟩ := bind_ok h
  cases h
  rw [hi] at hj
  cases hj
  refine ⟨σ, σ', ?_, sessionCall_ok hcall, rfl, rfl⟩
  cases hs : s.sessions[i]? with
  | none => rw [hs] at hσ; cases hσ
  | some τ => rw [hs] at hσ; cases hσ; rfl

end Outcomes

/-! ## Calls go through the token that is stored -/

section Owned

variable {settings : ProcessorSettings} {s : Cluster} {σ σ' : Session} {call : Call} {db' : Database}

/-- A call leaves the database as it is, or rewrites the row its lease owns. -/
theorem Outcome.rewrites (h : Outcome settings s σ call σ' db') :
    db' = s.db ∨ ∃ f, Rewrites σ.lease s.clock f s.db db' := by
  cases h with
  | unchanged => exact Or.inl rfl
  | advanced _ _ _ hadvance => exact Or.inr ⟨_, advance_rewrites hadvance⟩
  | committed _ _ _ _ hcommit =>
    obtain ⟨⟨f, hf, -⟩, -⟩ := commitOfficial_rewrites hcommit
    exact Or.inr ⟨f, hf⟩
  | completed _ _ hcomplete => exact Or.inr ⟨_, complete_rewrites hcomplete⟩
  | retried _ hretry => exact Or.inr ⟨_, retry_rewrites hretry⟩
  | deadLettered _ hdead => exact Or.inr ⟨_, deadLetter_rewrites hdead⟩

/-- Whatever a session calls, it rewrites the row its lease owns and no other, and does
    nothing at all when its lease owns none. -/
theorem session_call {i : Nat} (hi : call.session = some i) (hσ : s.sessions[i]? = some σ) :
    (∃ f, ((workers settings).step s call).db.inbox.rows =
      s.db.inbox.rows.map (Table.rewrite (σ.lease.owns s.clock) f)) ∧
    ((∀ row ∈ s.db.inbox.rows, σ.lease.owns s.clock row = false) → ((workers settings).step s call).db = s.db) := by
  have hkeep : s.db.inbox.rows = s.db.inbox.rows.map (Table.rewrite (σ.lease.owns s.clock) id) := by
    conv => lhs; rw [← List.map_id s.db.inbox.rows]
    refine List.map_congr_left fun row _ => ?_
    unfold Table.rewrite
    split <;> rfl
  rcases (workers settings).step_cases s call with ⟨u, h⟩ | h
  · obtain ⟨τ, τ', hτ, hout, -, -⟩ := execCall_session hi h
    cases hσ.symm.trans hτ
    rcases hout.rewrites with hsame | ⟨f, hf⟩
    · rw [hsame]
      exact ⟨⟨id, hkeep⟩, fun _ => rfl⟩
    · refine ⟨⟨f, hf.rows⟩, fun hstale => ?_⟩
      obtain ⟨row, hrow, hown⟩ := hf.owned
      rw [hstale row hrow] at hown
      cases hown
  · rw [h]
    exact ⟨⟨id, hkeep⟩, fun _ => rfl⟩

end Owned

/-! ## Ratings and messages are written once -/

def Database.outboxOf (db : Database) (applicationId : Uuid) (key : OutboxKey) : Option PipelineOutbox :=
  db.outbox.rows.find? fun o => o.applicationId == applicationId && o.message.idempotencyKey == key

/-- The rows that were there are there, in front of any new ones. -/
structure Appends (db db' : Database) : Prop where
  outbox : ∃ new, db'.outbox.rows = db.outbox.rows ++ new
  ratings : ∃ new, db'.ratings.rows = db.ratings.rows ++ new

section Appends

variable {db db₁ db' : Database}

theorem Appends.of_eq (ho : db'.outbox = db.outbox) (hr : db'.ratings = db.ratings) : Appends db db' :=
  ⟨⟨[], by rw [ho, List.append_nil]⟩, [], by rw [hr, List.append_nil]⟩

theorem Appends.trans (h : Appends db db₁) (h' : Appends db₁ db') : Appends db db' := by
  obtain ⟨⟨o, ho⟩, r, hr⟩ := h
  obtain ⟨⟨o', ho'⟩, r', hr'⟩ := h'
  exact ⟨⟨o ++ o', by rw [ho', ho, List.append_assoc]⟩, r ++ r', by rw [hr', hr, List.append_assoc]⟩

theorem Appends.outboxOf (h : Appends db db') {applicationId : Uuid} {key : OutboxKey} {o : PipelineOutbox}
    (ho : db.outboxOf applicationId key = some o) : db'.outboxOf applicationId key = some o := by
  obtain ⟨new, hnew⟩ := h.outbox
  unfold Database.outboxOf at ho ⊢
  rw [hnew, List.find?_append, ho]
  rfl

theorem Appends.ratingOf (h : Appends db db') {applicationId : Uuid} {eventId : String} {r : ApplicationUsageRating}
    (hr : db.ratingOf applicationId eventId = some r) : db'.ratingOf applicationId eventId = some r := by
  obtain ⟨new, hnew⟩ := h.ratings
  unfold Database.ratingOf at hr ⊢
  rw [hnew, List.find?_append, hr]
  rfl

theorem createOutboxes_appends {applicationId : Uuid} {messages : List PipelineOutboxMessage}
    (h : createOutboxes db applicationId messages = .ok db') : Appends db db' := by
  induction messages generalizing db with
  | nil => cases h; exact .of_eq rfl rfl
  | cons message rest ih =>
    obtain ⟨db₁, hone, h⟩ := bind_ok h
    refine Appends.trans ?_ (ih h)
    unfold createOutbox at hone
    split at hone
    · cases hone; exact .of_eq rfl rfl
    · obtain ⟨outbox, hinsert, hone⟩ := bind_ok hone
      cases hone
      obtain ⟨-, -, hrows⟩ := Table.insert_ok (statement_ok hinsert)
      exact ⟨⟨_, hrows⟩, [], by simp⟩

theorem commit_appends {context : PipelineSettlementContext} {values : CommitValues} {result : OfficialCommitResult}
    (h : commit db context values = .ok (result, db')) : Appends db db' := by
  unfold commit at h
  obtain ⟨cost, -, h⟩ := bind_ok h
  obtain ⟨aiu, -, h⟩ := bind_ok h
  obtain ⟨registry, -, h⟩ := bind_ok h
  split at h
  · cases h; exact .of_eq rfl rfl
  obtain ⟨⟨rating, db₁⟩, hrating, h⟩ := bind_ok h
  obtain ⟨⟨consumption, quota⟩, -, h⟩ := bind_ok h
  cases h
  unfold findOrCreateRating at hrating
  split at hrating
  · cases hrating; exact .of_eq rfl rfl
  · obtain ⟨ratings, hinsert, hrating⟩ := bind_ok hrating
    cases hrating
    obtain ⟨-, -, hrows⟩ := Table.insert_ok (statement_ok hinsert)
    exact ⟨⟨[], by simp⟩, _, hrows⟩

theorem setProcessingStage_appends {lease : InboxLease} {stage : PipelineStageName}
    (h : setProcessingStage db lease stage = .ok db') : Appends db db' := by
  obtain ⟨⟨registry, n⟩, -, h⟩ := bind_ok h
  cases h
  exact .of_eq rfl rfl

theorem advance_appends {lease lease' : InboxLease} {stage : PipelineStageName} {now duration : Int}
    (h : advance db lease stage now duration = .ok (lease', db')) : Appends db db' :=
  .of_eq (advance_outbox h) (advance_frame h).ratings

theorem commitOfficial_appends {lease lease' : InboxLease} {context : PipelineSettlementContext}
    {values : CommitValues} {clock : CommitClock} {duration : Int} {metrics : PipelineOfficialMetrics}
    (h : commitOfficial db lease context values clock duration = .ok ((lease', metrics), db')) : Appends db db' := by
  obtain ⟨_, -, h⟩ := bind_ok h
  obtain ⟨⟨result, db₁⟩, hcommit, h⟩ := bind_ok h
  obtain ⟨⟨current, db₂⟩, hadvance, h⟩ := bind_ok h
  obtain ⟨base, -, h⟩ := bind_ok h
  obtain ⟨db₃, houtboxes, h⟩ := bind_ok h
  obtain ⟨⟨next, db₄⟩, hadvance', h⟩ := bind_ok h
  cases h
  exact (commit_appends hcommit).trans ((advance_appends hadvance).trans
    ((createOutboxes_appends houtboxes).trans (advance_appends hadvance')))

theorem updateLeased_appends {lease : InboxLease} {now : Int} {f : IngestionInbox → IngestionInbox}
    {hf : ∀ a b, Row.clash (f a) b = Row.clash a b} (h : updateLeased db lease now f hf = .ok db') :
    Appends db db' := by
  obtain ⟨⟨inbox, n⟩, -, h⟩ := bind_ok h
  obtain ⟨_, -, h⟩ := bind_ok h
  cases h
  exact .of_eq rfl rfl

theorem Outcome.appends {settings : ProcessorSettings} {s : Cluster} {σ σ' : Session} {call : Call}
    (h : Outcome settings s σ call σ' db') : Appends s.db db' := by
  cases h with
  | unchanged => exact .of_eq rfl rfl
  | advanced _ _ _ hadvance => exact advance_appends hadvance
  | committed _ _ _ _ hcommit => exact commitOfficial_appends hcommit
  | completed _ _ hcomplete =>
    obtain ⟨db₁, h₁, hcomplete⟩ := bind_ok hcomplete
    obtain ⟨db₂, h₂, hcomplete⟩ := bind_ok hcomplete
    cases hcomplete
    exact (updateLeased_appends h₁).trans ((setProcessingStage_appends h₂).trans (.of_eq rfl rfl))
  | retried _ hretry => exact updateLeased_appends hretry
  | deadLettered _ hdead =>
    obtain ⟨db₁, h₁, hdead⟩ := bind_ok hdead
    have hrest := (updateLeased_appends h₁).trans (setProcessingStage_appends hdead)
    exact ⟨hrest.outbox, hrest.ratings⟩

end Appends

/-! ## The calls of no session -/

section Others

variable {db : Database} {acquisitionToken : String} {limit : Nat} {locked : List Uuid} {now duration : Int}

theorem mapLease_fields {row : IngestionInbox} {payloadHash : String} {lease : InboxLease}
    (h : mapLease row payloadHash = .ok lease) : lease.id = row.id ∧ lease.stage = row.stage ∧
      lease.leaseOwner = row.leaseOwner.getD "" ∧ lease.payloadHash = payloadHash := by
  unfold mapLease at h
  split at h
  · cases h
  · obtain ⟨intent, -, h⟩ := bind_ok h
    cases h
    exact ⟨rfl, rfl, rfl, rfl⟩

theorem leaseSelects_leasable {row : IngestionInbox} (hrow : row ∈ db.inbox.rows)
    (h : leaseSelects db limit locked now row = true) : row.leasable now = true := by
  unfold leaseSelects at h
  rw [Bool.and_eq_true, List.contains_iff_mem] at h
  obtain ⟨x, hx, hid⟩ := List.mem_map.mp h.1
  have hx := (List.mem_insertionSort _).mp (List.mem_of_mem_take hx)
  obtain ⟨hx, hleasable⟩ := List.mem_filter.mp hx
  rw [row_eq_of_id hrow hx hid.symm]
  exact (Bool.and_eq_true _ _ ▸ hleasable).1

/-- What `leaseInbox` leases, and what it returns of it. -/
theorem leaseInbox_cases (db : Database) (acquisitionToken : String) (limit : Nat) (locked : List Uuid)
    (now duration : Int) :
    ∃ selects inbox, (leaseInbox db acquisitionToken limit locked now duration).2 = { db with inbox } ∧
      inbox.rows = db.inbox.rows.map (Table.rewrite selects (·.leasedTo acquisitionToken now duration)) ∧
      (∀ row ∈ db.inbox.rows, selects row = true →
        row.leasable now = true ∧ (db.registryOf row.applicationId row.eventId).isSome) ∧
      ∀ leases, (leaseInbox db acquisitionToken limit locked now duration).1 = .ok leases →
        (leases.map (·.id)).Nodup ∧ ∀ lease ∈ leases, ∃ row ∈ db.inbox.rows, selects row = true ∧
          mapLease (row.leasedTo acquisitionToken now duration)
            (((db.registryOf row.applicationId row.eventId).map (·.payloadHash)).getD "") = .ok lease := by
  unfold leaseInbox
  split
  · refine ⟨fun _ => false, db.inbox, rfl, ?_, ?_, ?_⟩
    · exact (Table.map_rewrite_none fun _ _ => rfl).symm
    · simp
    · intro leases h; cases h
  · obtain ⟨inbox, hu, hrows⟩ := Table.updateMany_of (t := db.inbox) (p := leaseSelects db limit locked now)
      (f := (·.leasedTo acquisitionToken now duration)) (fun _ _ => rfl) fun _ _ _ => rfl
    have hstatement := congrArg statement hu
    dsimp only
    rw [hstatement]
    refine ⟨leaseSelects db limit locked now, inbox, rfl, hrows, ?_, ?_⟩
    · intro row hrow hsel
      refine ⟨leaseSelects_leasable hrow hsel, ?_⟩
      unfold leaseSelects at hsel
      exact (Bool.and_eq_true _ _ ▸ hsel).2
    · intro leases h
      constructor
      · have hids := mapM_map (k := (·.id)) (g := (·.id)) h fun row lease hmap => (mapLease_fields hmap).1
        rw [hids]
        refine List.pairwise_map.mpr ((db.inbox.unique.sublist List.filter_sublist).imp fun {a b} hclash hid => ?_)
        simp [Row.clash, hid] at hclash
      · intro lease hlease
        obtain ⟨row, hrow, hmap⟩ := mapM_mem h hlease
        obtain ⟨hrow, hsel⟩ := List.mem_filter.mp hrow
        exact ⟨row, hrow, hsel, hmap⟩

/-- An administrative reset: some rows wait for a worker again, with no owner. -/
def Resets (db db' : Database) : Prop :=
  ∃ (selects : IngestionInbox → Bool) (now : Timestamp) (intent : IngestionInbox → JsonValue),
    db'.inbox.rows = db.inbox.rows.map (Table.rewrite selects fun row => row.resetTo now (intent row))

theorem Resets.refl (db : Database) : Resets db db :=
  ⟨fun _ => false, 0, fun _ => .null, (Table.map_rewrite_none fun _ _ => rfl).symm⟩

theorem resetInbox_ok {db' : Database} {applicationId : Uuid} {runId replayType : String} {inRange : List String}
    {at_ : Timestamp} (h : resetInbox db applicationId runId replayType inRange at_ = .ok db') :
    Resets db db' ∧ Appends db db' := by
  obtain ⟨⟨inbox, n⟩, hu, h⟩ := bind_ok h
  cases h
  obtain ⟨-, hrows, -⟩ := Table.updateMany_ok (statement_ok hu)
  exact ⟨⟨_, at_, fun _ => reconciliationIntent runId replayType, hrows⟩, .of_eq rfl rfl⟩

theorem replayDeadLetter_ok {db' : Database} {position : Nat} {at_ : Timestamp}
    (h : replayDeadLetter db position at_ = .ok db') : Resets db db' ∧ Appends db db' := by
  unfold replayDeadLetter at h
  split at h
  · cases h
  dsimp only at h
  split at h
  · cases h
    exact ⟨.refl db, .of_eq rfl rfl⟩
  split at h
  · cases h
  split at h
  · cases h
  split at h
  · cases h
  obtain ⟨⟨inbox, n⟩, hu, h⟩ := bind_ok h
  obtain ⟨⟨registry, m⟩, -, h⟩ := bind_ok h
  cases h
  obtain ⟨-, hrows, -⟩ := Table.updateMany_ok (statement_ok hu)
  exact ⟨⟨_, at_, fun row => row.replayIntentJson, hrows⟩, .of_eq rfl rfl⟩

theorem orRolledBack_id {P : Database → Prop} {result : Except Failure Database} (hdb : P db)
    (hok : ∀ db', result = .ok db' → P db') : P (orRolledBack db id result) := by
  cases result with
  | error e => exact hdb
  | ok db' => exact hok db' rfl

/-- A call of no session is a tick of the clock, an acquisition or a reset. -/
theorem execCall_other {settings : ProcessorSettings} {s s' : Cluster} {call : Call} {u : Unit}
    (hi : call.session = none) (h : execCall settings s call = .ok (u, s')) :
    (∃ clock, s' = { s with clock }) ∨
    (∃ token limit locked leases, call = .leaseInbox token limit locked ∧ token ∉ s.tokens ∧
      s' = { s with
        db := (leaseInbox s.db token limit locked s.clock settings.leaseDuration).2
        tokens := token :: s.tokens
        sessions := s.sessions ++ leases.map (⟨·, .running⟩) } ∧
      (leases = [] ∨ (leaseInbox s.db token limit locked s.clock settings.leaseDuration).1 = .ok leases)) ∨
    (call.isReset = true ∧ ∃ db', s' = { s with db := db' } ∧ Resets s.db db' ∧ Appends s.db db') := by
  cases call with
  | tick elapsed =>
    cases h
    exact Or.inl ⟨_, rfl⟩
  | leaseInbox token limit locked =>
    simp only [execCall] at h
    split at h
    · cases h
    · rename_i hfresh
      cases h
      refine Or.inr (Or.inl ?_)
      have hfresh : token ∉ s.tokens := by simpa using hfresh
      cases hleases : (leaseInbox s.db token limit locked s.clock settings.leaseDuration).1 with
      | error e => exact ⟨token, limit, locked, [], rfl, hfresh, by simp, Or.inl rfl⟩
      | ok leases => exact ⟨token, limit, locked, leases, rfl, hfresh, rfl, Or.inr hleases⟩
  | replayDeadLetter position at_ =>
    cases h
    refine Or.inr (Or.inr ⟨rfl, _, rfl, ?_⟩)
    exact orRolledBack_id (P := fun db' => Resets s.db db' ∧ Appends s.db db') ⟨.refl _, .of_eq rfl rfl⟩
      fun db' => replayDeadLetter_ok
  | resetInbox applicationId runId replayType inRange at_ =>
    cases h
    refine Or.inr (Or.inr ⟨rfl, _, rfl, ?_⟩)
    exact orRolledBack_id (P := fun db' => Resets s.db db' ∧ Appends s.db db') ⟨.refl _, .of_eq rfl rfl⟩
      fun db' => resetInbox_ok
  | checkpoint | commitOfficial | complete | throws | retry | deadLetter => cases hi

end Others

/-- Every call keeps the ratings and the messages that are there. -/
theorem step_appends (settings : ProcessorSettings) (s : Cluster) (call : Call) :
    Appends s.db ((workers settings).step s call).db := by
  rcases (workers settings).step_cases s call with ⟨u, h⟩ | h
  · cases hi : call.session with
    | some i =>
      obtain ⟨σ, σ', -, hout, -⟩ := execCall_session hi h
      exact hout.appends
    | none =>
      rcases execCall_other hi h with ⟨clock, hs⟩ | ⟨token, limit, locked, leases, -, -, hs, -⟩ | ⟨-, db', hs, -, happ⟩
      · rw [hs]; exact .of_eq rfl rfl
      · obtain ⟨selects, inbox, hdb, -⟩ :=
          leaseInbox_cases s.db token limit locked s.clock settings.leaseDuration
        rw [hs]
        show Appends s.db (leaseInbox s.db token limit locked s.clock settings.leaseDuration).2
        rw [hdb]
        exact .of_eq rfl rfl
      · rw [hs]; exact happ
  · rw [h]; exact .of_eq rfl rfl

end TokenPilot.Pipeline
