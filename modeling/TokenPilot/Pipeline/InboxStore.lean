/-
  TokenPilot.Pipeline.InboxStore — `PrismaInboxPipelineStore`
  (apps/worker/src/pipeline/prisma-inbox-store.ts): the transactions a worker makes on the
  inbox row it has leased.

  Each of them checks that the row is still leased by this worker and that the lease has
  not expired at the statement's time (`owns`), and fails with a lost lease otherwise;
  `advance` also prolongs the lease. `Holds` says that a lease mirrors its row:
  `advance_ok` keeps it, and touches nothing that a settlement reads (`Frame`). The
  commit goes through when its settlement does (`commitOfficial_of`), and then was in time
  (`commitOfficial_in_time`).
-/

import TokenPilot.Pipeline.Writer

namespace TokenPilot.Pipeline

open TokenPilot.Library TokenPilot.Quota

structure InboxLease where
  id : Uuid
  applicationId : Uuid
  eventId : String
  payloadHash : String
  payload : UsageEvent
  stage : PipelineStageName
  attemptCount : Nat
  leaseOwner : String
  leaseExpiresAt : Int
  replayIntent : Option PipelineReplayIntent
  deriving DecidableEq, Repr

def mapLease (row : IngestionInbox) (payloadHash : String) : Except Failure InboxLease :=
  match row.payload with
  | none => .error (.typeError s!"Inbox {row.id} was leased after its payload was purged")
  | some payload => do
    let replayIntent ← parsePipelineReplayIntent row.id row.replayIntentJson
    return {
      id := row.id
      applicationId := row.applicationId
      eventId := row.eventId
      payloadHash := payloadHash
      payload := payload
      stage := row.stage
      attemptCount := row.attemptCount
      leaseOwner := row.leaseOwner.getD ""
      leaseExpiresAt := row.leaseExpiresAt.getD 0
      replayIntent := replayIntent }

def leaseLost (lease : InboxLease) : Failure :=
  .retryable s!"Inbox lease {lease.id} is no longer owned by {lease.leaseOwner}"

/-- The WHERE clause every statement has. -/
def InboxLease.owns (lease : InboxLease) (now : Int) (row : IngestionInbox) : Bool :=
  row.id == lease.id && row.status == .leased && row.leaseOwner == some lease.leaseOwner &&
    row.leaseExpiresAt.any (fun e => decide (now < e))

/-- The row after `advance`: `GREATEST(lease_expires_at + 1 µs, now + duration)`. -/
def IngestionInbox.advanced (row : IngestionInbox) (stage : PipelineStageName) (now duration : Int) : IngestionInbox :=
  { row with stage := stage, leaseExpiresAt := row.leaseExpiresAt.map fun e => max (e + 1) (now + duration) }

def InboxLease.registers (lease : InboxLease) (row : UsageEventRegistry) : Bool :=
  row.eventId == lease.eventId && row.applicationId == lease.applicationId

/-- `UPDATE usage_event_registry SET processing_stage = …`. -/
def setProcessingStage (db : Database) (lease : InboxLease) (stage : PipelineStageName) : Except Failure Database := do
  let (registry, _) ← statement (db.registry.updateMany lease.registers (fun r => { r with processingStage := stage })
    fun _ _ => rfl)
  return { db with registry }

def advance (db : Database) (lease : InboxLease) (stage : PipelineStageName) (now duration : Int) :
    Except Failure (InboxLease × Database) := do
  match db.inbox.rows.find? (lease.owns now) with
  | none => throw (leaseLost lease)
  | some row =>
    match db.registryOf row.applicationId row.eventId with
    | none => throw (leaseLost lease)
    | some registry =>
      let (inbox, _) ← statement (db.inbox.updateMany (lease.owns now) (·.advanced stage now duration) fun _ _ => rfl)
      let db ← setProcessingStage { db with inbox } lease stage
      let next ← mapLease (row.advanced stage now duration) registry.payloadHash
      return (next, db)

/-! ## The official commit -/

def baseOutboxMessages (db : Database) (context : PipelineSettlementContext) (payloadHash : String) :
    Except Failure (List PipelineOutboxMessage) := do
  let user ← orThrow (db.quota.users.rows.find? fun u =>
    u.applicationId == context.applicationId && u.externalId == context.event.userId)
  let eventId := context.event.eventId
  return [⟨.usageEvent eventId, "usage_events_raw", .clickhouseRaw eventId payloadHash,
      .usageEventsRaw context.applicationId context.event context.resolution payloadHash⟩,
    ⟨.usageEvent eventId, "usage_lines", .clickhouseUsageLines eventId payloadHash,
      .usageLines context.applicationId context.event context.resolution⟩,
    ⟨.applicationUser user.id, "application_user.profile", .clickhouseUserProfile eventId payloadHash,
      .userProfile context.applicationId user⟩]

/-- A message is written once per idempotency key. -/
def createOutbox (db : Database) (applicationId : Uuid) (message : PipelineOutboxMessage) : Except Failure Database := do
  match db.outbox.rows.find? fun o => o.applicationId == applicationId &&
      o.message.idempotencyKey == message.idempotencyKey with
  | some _ => return db
  | none =>
    let outbox ← statement (db.outbox.insert ⟨applicationId, message⟩)
    return { db with outbox }

def createOutboxes (db : Database) (applicationId : Uuid) : List PipelineOutboxMessage → Except Failure Database
  | [] => .ok db
  | message :: rest => do
    let db ← createOutbox db applicationId message
    createOutboxes db applicationId rest

/-- The times of the statements of one commit that look at the lease. -/
structure CommitClock where
  lock : Int
  officialCommitted : Int
  outboxCreated : Int
  deriving DecidableEq, Repr

def commitOfficial (db : Database) (lease : InboxLease) (context : PipelineSettlementContext) (values : CommitValues)
    (clock : CommitClock) (duration : Int) : Except Failure ((InboxLease × PipelineOfficialMetrics) × Database) := do
  require ((db.inbox.rows.find? (lease.owns clock.lock)).isSome) (leaseLost lease)
  let (committed, db) ← commit db context values
  let (current, db) ← advance db lease .officialCommitted clock.officialCommitted duration
  let base ← baseOutboxMessages db context lease.payloadHash
  let db ← createOutboxes db context.applicationId (base ++ committed.additionalOutboxMessages)
  let (current, db) ← advance db current .outboxCreated clock.outboxCreated duration
  return ((current, committed.metrics), db)

/-! ## Ends -/

/-- Dead letters of the inbox row that wait for its replay are resolved. -/
def resolveDeadLetters (db : Database) (inboxId : Uuid) : Database :=
  { db with deadLetters := db.deadLetters.map fun d =>
      if d.inboxId = inboxId ∧ d.status = .replayQueued then { d with status := .resolved } else d }

/-- One update of the leased row, which must be there. -/
def updateLeased (db : Database) (lease : InboxLease) (now : Int) (f : IngestionInbox → IngestionInbox)
    (hf : ∀ a b, Row.clash (f a) b = Row.clash a b) : Except Failure Database := do
  let (inbox, changed) ← statement (db.inbox.updateMany (lease.owns now) f hf)
  require (changed = 1) (leaseLost lease)
  return { db with inbox }

def complete (db : Database) (lease : InboxLease) (now : Int) : Except Failure Database := do
  let db ← updateLeased db lease now
    (fun row => { row with status := .completed, stage := .completed, replayIntentJson := .null }) fun _ _ => rfl
  let db ← setProcessingStage db lease .completed
  return resolveDeadLetters db lease.id

def retry (db : Database) (lease : InboxLease) (now : Int) (retryAt : Timestamp) : Except Failure Database :=
  updateLeased db lease now
    (fun row => { row with status := .failed, availableAt := retryAt, nextRetryAt := some retryAt }) fun _ _ => rfl

def deadLetter (db : Database) (lease : InboxLease) (now : Int) (failure : Failure) : Except Failure Database := do
  let db := resolveDeadLetters db lease.id
  let event : DeadLetterEvent :=
    ⟨lease.applicationId, lease.eventId, lease.id, lease.stage, failure, lease.attemptCount, .open⟩
  let db ← updateLeased { db with deadLetters := db.deadLetters ++ [event] } lease now
    (fun row => { row with status := .deadLetter, stage := .deadLetter, nextRetryAt := none }) fun _ _ => rfl
  setProcessingStage db lease .deadLetter

theorem updateLeased_quota {db db' : Database} {lease : InboxLease} {now : Int} {f : IngestionInbox → IngestionInbox}
    {hf : ∀ a b, Row.clash (f a) b = Row.clash a b} (h : updateLeased db lease now f hf = .ok db') :
    db'.quota = db.quota := by
  obtain ⟨⟨inbox, n⟩, -, h⟩ := bind_ok h
  obtain ⟨_, -, h⟩ := bind_ok h
  cases h
  rfl

theorem setProcessingStage_quota {db db' : Database} {lease : InboxLease} {stage : PipelineStageName}
    (h : setProcessingStage db lease stage = .ok db') : db'.quota = db.quota := by
  obtain ⟨⟨registry, n⟩, -, h⟩ := bind_ok h
  cases h
  rfl

theorem complete_quota {db db' : Database} {lease : InboxLease} {now : Int} (h : complete db lease now = .ok db') :
    db'.quota = db.quota := by
  obtain ⟨db₁, h₁, h⟩ := bind_ok h
  obtain ⟨db₂, h₂, h⟩ := bind_ok h
  cases h
  exact (setProcessingStage_quota h₂).trans (updateLeased_quota h₁)

theorem deadLetter_quota {db db' : Database} {lease : InboxLease} {now : Int} {failure : Failure}
    (h : deadLetter db lease now failure = .ok db') : db'.quota = db.quota := by
  obtain ⟨db₁, h₁, h⟩ := bind_ok h
  have hq₁ := updateLeased_quota h₁
  exact (setProcessingStage_quota h).trans hq₁

/-! ## A lease that holds -/

/-- What a settlement reads is the same. -/
structure Frame (db db' : Database) : Prop where
  quota : db'.quota = db.quota
  applications : db'.applications = db.applications
  ratings : db'.ratings = db.ratings
  registry : ∀ applicationId eventId,
    (db'.registryOf applicationId eventId).map (fun r => { r with processingStage := .received }) =
      (db.registryOf applicationId eventId).map fun r => { r with processingStage := .received }

theorem Frame.refl (db : Database) : Frame db db := ⟨rfl, rfl, rfl, fun _ _ => rfl⟩

theorem Frame.trans {db db₁ db' : Database} (h : Frame db db₁) (h' : Frame db₁ db') : Frame db db' :=
  ⟨h'.quota.trans h.quota, h'.applications.trans h.applications, h'.ratings.trans h.ratings,
    fun a e => (h'.registry a e).trans (h.registry a e)⟩

/-- The lease is what its row and its registry row say, and expires at `expires`. -/
structure Holds (db : Database) (lease : InboxLease) (expires : Int) : Prop where
  row : ∃ row ∈ db.inbox.rows, (row.id = lease.id ∧ row.status = .leased ∧ row.leaseOwner = some lease.leaseOwner ∧
    row.leaseExpiresAt = some expires) ∧ mapLease row lease.payloadHash = .ok lease
  registry : ∃ registry, db.registryOf lease.applicationId lease.eventId = some registry ∧
    registry.payloadHash = lease.payloadHash

section Holds

variable {db db' : Database} {lease : InboxLease} {expires now duration : Int} {stage : PipelineStageName}

theorem owns_find {row : IngestionInbox} (hr : row ∈ db.inbox.rows) (h : row.id = lease.id ∧ row.status = .leased ∧
    row.leaseOwner = some lease.leaseOwner ∧ row.leaseExpiresAt = some expires) (hnow : now < expires) :
    db.inbox.rows.find? (lease.owns now) = some row :=
  db.inbox.find?_of_clash hr (by simp [InboxLease.owns, h.1, h.2.1, h.2.2.1, h.2.2.2, hnow]) fun x hx => by
    simp only [InboxLease.owns, Bool.and_eq_true, beq_iff_eq] at hx
    simp [Row.clash, hx.1.1.1, h.1]

theorem owns_in_time {row : IngestionInbox} (h : Holds db lease expires)
    (hfind : db.inbox.rows.find? (lease.owns now) = some row) : now < expires := by
  obtain ⟨row', hrow', hleased, -⟩ := h.row
  obtain ⟨hrow, hown⟩ := Table.find?_mem hfind
  simp only [InboxLease.owns, Bool.and_eq_true, beq_iff_eq] at hown
  have heq : row = row' := db.inbox.eq_of_clash hrow hrow' (by simp [Row.clash, hown.1.1.1, hleased.1])
  simpa [heq, hleased.2.2.2] using hown.2

theorem registryOf_setProcessingStage (h : setProcessingStage db lease stage = .ok db') (applicationId : Uuid)
    (eventId : String) : db'.registryOf applicationId eventId = (db.registryOf applicationId eventId).map
      (Table.rewrite lease.registers fun r => { r with processingStage := stage }) := by
  obtain ⟨⟨registry, n⟩, hu, h⟩ := bind_ok h
  cases h
  obtain ⟨-, hrows, -⟩ := Table.updateMany_ok (statement_ok hu)
  unfold Database.registryOf
  rw [hrows, List.find?_map]
  have hkey : (fun r : UsageEventRegistry => r.applicationId == applicationId && r.eventId == eventId) ∘
      (Table.rewrite lease.registers fun r => { r with processingStage := stage }) =
      fun r => r.applicationId == applicationId && r.eventId == eventId := by
    funext r
    unfold Table.rewrite
    rw [Function.comp_apply]
    split <;> rfl
  rw [hkey]

theorem setProcessingStage_of (db : Database) (lease : InboxLease) (stage : PipelineStageName) :
    ∃ registry, setProcessingStage db lease stage = .ok { db with registry } := by
  obtain ⟨registry, hu, -⟩ := Table.updateMany_of (t := db.registry) (p := lease.registers)
    (f := fun r => { r with processingStage := stage }) (fun _ _ => rfl) fun _ _ _ => rfl
  exact ⟨registry, bind_of (congrArg statement hu) rfl⟩

/-- A change of the inbox and the processing stage is none that a settlement sees. -/
theorem Frame.of_setProcessingStage {inbox : Table IngestionInbox}
    (h : setProcessingStage { db with inbox } lease stage = .ok db') : Frame db db' := by
  have hreg := registryOf_setProcessingStage h
  obtain ⟨⟨registry, n⟩, -, h⟩ := bind_ok h
  cases h
  refine ⟨rfl, rfl, rfl, fun a e => ?_⟩
  rw [hreg, Option.map_map]
  refine congrArg (Option.map · (db.registryOf a e)) (funext fun r => ?_)
  unfold Table.rewrite
  rw [Function.comp_apply]
  split <;> rfl

theorem mapLease_ok {row : IngestionInbox} {payloadHash : String} (h : mapLease row payloadHash = .ok lease) :
    row.payload = some lease.payload ∧ parsePipelineReplayIntent row.id row.replayIntentJson = .ok lease.replayIntent ∧
      lease.applicationId = row.applicationId ∧ lease.eventId = row.eventId := by
  unfold mapLease at h
  split at h
  · cases h
  · obtain ⟨intent, hintent, h⟩ := bind_ok h
    cases h
    exact ⟨‹_›, hintent, rfl, rfl⟩

theorem mapLease_advanced {row : IngestionInbox} {payloadHash : String} (h : mapLease row payloadHash = .ok lease)
    (hexpires : row.leaseExpiresAt = some expires) :
    mapLease (row.advanced stage now duration) payloadHash =
      .ok { lease with stage := stage, leaseExpiresAt := max (expires + 1) (now + duration) } := by
  unfold mapLease at h
  unfold mapLease IngestionInbox.advanced
  split at h
  · cases h
  · rename_i payload hpayload
    obtain ⟨intent, hintent, h⟩ := bind_ok h
    cases h
    simp only [hpayload, hexpires]
    exact bind_of hintent rfl

/-- The lease after an advance to `stage`. -/
def InboxLease.advanced (lease : InboxLease) (stage : PipelineStageName) (expires : Int) : InboxLease :=
  { lease with stage := stage, leaseExpiresAt := expires }

/-- A lease that holds can be advanced, and then holds longer. -/
theorem advance_ok (h : Holds db lease expires) (hnow : now < expires) (stage : PipelineStageName) (duration : Int) :
    ∃ db', advance db lease stage now duration =
        .ok (lease.advanced stage (max (expires + 1) (now + duration)), db') ∧
      Holds db' (lease.advanced stage (max (expires + 1) (now + duration))) (max (expires + 1) (now + duration)) ∧
      Frame db db' := by
  obtain ⟨row, hrow, hleased, hmap⟩ := h.row
  obtain ⟨registry, hregistry, hhash⟩ := h.registry
  obtain ⟨-, -, ha, he⟩ := mapLease_ok hmap
  have hfind := owns_find hrow hleased hnow
  have hown : lease.owns now row = true := (Table.find?_mem hfind).2
  obtain ⟨inbox, hinbox, hrows⟩ := Table.updateMany_of (t := db.inbox) (p := lease.owns now)
    (f := (·.advanced stage now duration)) (fun _ _ => rfl) fun _ _ _ => rfl
  obtain ⟨registry', hset⟩ := setProcessingStage_of { db with inbox } lease stage
  refine ⟨{ db with inbox, registry := registry' }, ?_, ⟨?_, ?_⟩, .of_setProcessingStage hset⟩
  · unfold advance
    simp only [hfind, ← ha, ← he, hregistry]
    refine bind_of (congrArg statement hinbox) (bind_of hset (bind_of ?_ rfl))
    rw [hhash]
    exact mapLease_advanced hmap hleased.2.2.2
  · refine ⟨row.advanced stage now duration, ?_, ⟨hleased.1, hleased.2.1, hleased.2.2.1, ?_⟩, ?_⟩
    · rw [hrows]
      exact List.mem_map.mpr ⟨row, hrow, if_pos hown⟩
    · simp [IngestionInbox.advanced, hleased.2.2.2]
    · exact mapLease_advanced hmap hleased.2.2.2
  · refine ⟨_, (registryOf_setProcessingStage hset _ _).trans (congrArg (Option.map _) hregistry), ?_⟩
    unfold Table.rewrite
    split <;> exact hhash

/-- An advance that went through changed nothing a settlement sees. -/
theorem advance_frame {lease' : InboxLease} (h : advance db lease stage now duration = .ok (lease', db')) :
    Frame db db' := by
  unfold advance at h
  split at h
  · cases h
  split at h
  · cases h
  obtain ⟨⟨inbox, n⟩, -, h⟩ := bind_ok h
  obtain ⟨db₁, hset, h⟩ := bind_ok h
  obtain ⟨next, -, h⟩ := bind_ok h
  cases h
  exact .of_setProcessingStage hset

theorem advance_outbox {lease' : InboxLease} (h : advance db lease stage now duration = .ok (lease', db')) :
    db'.outbox = db.outbox := by
  unfold advance at h
  split at h
  · cases h
  split at h
  · cases h
  obtain ⟨⟨inbox, n⟩, -, h⟩ := bind_ok h
  obtain ⟨db₁, hset, h⟩ := bind_ok h
  obtain ⟨next, -, h⟩ := bind_ok h
  cases h
  obtain ⟨⟨registry, n⟩, -, hset⟩ := bind_ok hset
  cases hset
  rfl

/-- An advance that went through was in time. -/
theorem advance_in_time {lease' : InboxLease} (h : Holds db lease expires)
    (hok : advance db lease stage now duration = .ok (lease', db')) : now < expires := by
  unfold advance at hok
  split at hok
  · cases hok
  · rename_i row hfind
    exact owns_in_time h hfind

theorem complete_ok (h : Holds db lease expires) (hnow : now < expires) : ∃ db', complete db lease now = .ok db' := by
  classical
  obtain ⟨row, hrow, hleased, -⟩ := h.row
  have hfind := owns_find hrow hleased hnow
  have hown : lease.owns now row = true := (Table.find?_mem hfind).2
  obtain ⟨inbox, hinbox, -⟩ := Table.updateMany_of_one (t := db.inbox) (p := lease.owns now)
    (f := fun row => { row with status := .completed, stage := .completed, replayIntentJson := .null })
    (fun _ _ => rfl) hrow (fun x hx => by
      simp only [InboxLease.owns, Bool.and_eq_true, beq_iff_eq] at hx
      simp [Row.clash, hx.1.1.1, hleased.1]) hown rfl
  obtain ⟨registry, hset⟩ := setProcessingStage_of { db with inbox } lease .completed
  exact ⟨_, bind_of (bind_of (congrArg statement hinbox) (bind_of (require_of _ rfl) rfl)) (bind_of hset rfl)⟩

end Holds

/-! ## A commit under a lease that holds -/

section CommitOfficial

variable {db db' : Database} {lease : InboxLease} {context : PipelineSettlementContext} {values : CommitValues}
  {expires duration : Int} {clock : CommitClock}

theorem createOutbox_of (db : Database) (applicationId : Uuid) (message : PipelineOutboxMessage) :
    ∃ outbox, createOutbox db applicationId message = .ok { db with outbox } := by
  unfold createOutbox
  split
  · exact ⟨db.outbox, rfl⟩
  · rename_i hnone
    obtain ⟨outbox, hinsert, -⟩ := Table.insert_of (t := db.outbox) (r := ⟨applicationId, message⟩) rfl
      (fun x hx => Bool.eq_false_iff.mpr (List.find?_eq_none.mp hnone x hx))
    exact ⟨outbox, bind_of (congrArg statement hinsert) rfl⟩

theorem createOutboxes_of (db : Database) (applicationId : Uuid) (messages : List PipelineOutboxMessage) :
    ∃ outbox, createOutboxes db applicationId messages = .ok { db with outbox } := by
  induction messages generalizing db with
  | nil => exact ⟨db.outbox, rfl⟩
  | cons message rest ih =>
    obtain ⟨outbox, h⟩ := createOutbox_of db applicationId message
    obtain ⟨outbox', h'⟩ := ih { db with outbox }
    exact ⟨outbox', bind_of h h'⟩

theorem baseOutboxMessages_of (context : PipelineSettlementContext) (payloadHash : String)
    (huser : ∃ u ∈ db.quota.users.rows, u.applicationId = context.applicationId ∧ u.externalId = context.event.userId) :
    ∃ base, baseOutboxMessages db context payloadHash = .ok base := by
  obtain ⟨u, hu, hua, hue⟩ := huser
  obtain ⟨user, hfind⟩ : ∃ user, db.quota.users.rows.find? (fun u =>
      u.applicationId == context.applicationId && u.externalId == context.event.userId) = some user := by
    rw [← Option.isSome_iff_exists, List.find?_isSome]
    exact ⟨u, hu, by simp [hua, hue]⟩
  exact ⟨_, bind_of (congrArg orThrow hfind) rfl⟩

theorem Frame.symm (h : Frame db db') : Frame db' db :=
  ⟨h.quota.symm, h.applications.symm, h.ratings.symm, fun a e => (h.registry a e).symm⟩

theorem Settles.frame {quota : QuotaStore} (hf : Frame db db') (h : Settles db context values quota) :
    Settles db' context values quota := by
  -- the registry row is the same up to its stage
  have hregistry : ∀ {registry}, db.registryOf context.applicationId context.event.eventId = some registry →
      ∃ registry', db'.registryOf context.applicationId context.event.eventId = some registry' ∧
        registry'.applicationUserId = registry.applicationUserId ∧ registry'.reservationId = registry.reservationId := by
    intro registry hr
    have heq := hf.registry context.applicationId context.event.eventId
    rw [hr, Option.map_some, Option.map_eq_some_iff] at heq
    obtain ⟨registry', hr', heq⟩ := heq
    exact ⟨registry', hr', congrArg (·.applicationUserId) heq, congrArg (·.reservationId) heq⟩
  cases h with
  | unresolved hcost haiu hr hmodel =>
    obtain ⟨registry', hr', -⟩ := hregistry hr
    rw [← hf.quota]
    exact .unresolved hcost haiu hr' hmodel
  | settled hcost haiu hr hmodel htaken hsettle =>
    obtain ⟨registry', hr', hu, hres⟩ := hregistry hr
    refine .settled hcost haiu hr' hmodel ?_ (Eq.trans ?_ hsettle)
    · unfold RatingTaken Database.ratingOf
      rw [hf.ratings]
      exact htaken
    · unfold settleUsage usagePolicyStep usageCall Database.application
      rw [hf.quota, hf.applications, hu, hres]

/-- The commit of a lease that holds goes through when the settlement does. -/
theorem commitOfficial_of {quota : QuotaStore} (h : Holds db lease expires) (hlock : clock.lock < expires)
    (hofficial : clock.officialCommitted < expires)
    (houtbox : clock.outboxCreated < max (expires + 1) (clock.officialCommitted + duration))
    (hrating : ∀ x ∈ db.ratings.rows, x.id ≠ values.ratingId)
    (huser : ∃ u ∈ db.quota.users.rows, u.applicationId = context.applicationId ∧ u.externalId = context.event.userId)
    (hsettles : Settles db context values quota) :
    ∃ lease' metrics db' expires', commitOfficial db lease context values clock duration = .ok ((lease', metrics), db') ∧
      db'.quota = quota ∧ Holds db' lease' expires' ∧
      expires' = max (max (expires + 1) (clock.officialCommitted + duration) + 1) (clock.outboxCreated + duration) := by
  obtain ⟨row, hrow, hleased, -⟩ := h.row
  have hfind := owns_find hrow hleased hlock
  obtain ⟨result, ratings, hcommit⟩ := commit_of (.inr (.inr hrating)) hsettles
  have hholds : Holds { db with ratings, quota } lease expires := ⟨h.row, h.registry⟩
  obtain ⟨db₁, hadvance₁, hholds₁, hframe₁⟩ := advance_ok hholds hofficial .officialCommitted duration
  obtain ⟨u, hu, hua, hue⟩ := huser
  obtain ⟨base, hbase⟩ : ∃ base, baseOutboxMessages db₁ context lease.payloadHash = .ok base := by
    refine baseOutboxMessages_of context lease.payloadHash ⟨u, ?_, hua, hue⟩
    rw [hframe₁.quota]
    show u ∈ quota.users.rows
    rw [hsettles.users]
    exact hu
  obtain ⟨outbox, houtboxes⟩ := createOutboxes_of db₁ context.applicationId (base ++ result.additionalOutboxMessages)
  have hholds₂ : Holds { db₁ with outbox } _ _ := ⟨hholds₁.row, hholds₁.registry⟩
  obtain ⟨db₂, hadvance₂, hholds₃, hframe₂⟩ := advance_ok hholds₂ houtbox .outboxCreated duration
  refine ⟨_, result.metrics, db₂, _, ?_, (hframe₂.quota.trans hframe₁.quota), hholds₃, rfl⟩
  unfold commitOfficial
  refine bind_of (require_of _ (by rw [hfind]; rfl)) (bind_of hcommit (bind_of hadvance₁ ?_))
  exact bind_of hbase (bind_of houtboxes (bind_of hadvance₂ rfl))

theorem commitOfficial_ok {lease' : InboxLease} {metrics : PipelineOfficialMetrics}
    (h : commitOfficial db lease context values clock duration = .ok ((lease', metrics), db')) :
    Settles db context values db'.quota := by
  obtain ⟨_, -, h⟩ := bind_ok h
  obtain ⟨⟨result, db₁⟩, hcommit, h⟩ := bind_ok h
  obtain ⟨⟨current, db₂⟩, hadvance, h⟩ := bind_ok h
  obtain ⟨base, -, h⟩ := bind_ok h
  obtain ⟨db₃, houtboxes, h⟩ := bind_ok h
  obtain ⟨⟨next, db₄⟩, hadvance', h⟩ := bind_ok h
  cases h
  obtain ⟨outbox, houtboxes'⟩ := createOutboxes_of db₂ context.applicationId (base ++ result.additionalOutboxMessages)
  rw [houtboxes'] at houtboxes
  cases houtboxes
  have hquota : db'.quota = db₁.quota := (advance_frame hadvance').quota.trans (advance_frame hadvance).quota
  rw [hquota]
  exact (commit_ok hcommit).1

/-- A commit that went through was in time. -/
theorem commitOfficial_in_time {lease' : InboxLease} {metrics : PipelineOfficialMetrics} (h : Holds db lease expires)
    (hok : commitOfficial db lease context values clock duration = .ok ((lease', metrics), db')) :
    clock.lock < expires ∧ clock.officialCommitted < expires ∧
      clock.outboxCreated < max (expires + 1) (clock.officialCommitted + duration) := by
  obtain ⟨_, hlock, hok⟩ := bind_ok hok
  obtain ⟨⟨result, db₁⟩, hcommit, hok⟩ := bind_ok hok
  obtain ⟨⟨current, db₂⟩, hadvance, hok⟩ := bind_ok hok
  obtain ⟨base, -, hok⟩ := bind_ok hok
  obtain ⟨db₃, houtboxes, hok⟩ := bind_ok hok
  obtain ⟨⟨next, db₄⟩, hadvance', -⟩ := bind_ok hok
  obtain ⟨-, ratings, quota, rfl⟩ := commit_ok hcommit
  obtain ⟨row, hfind⟩ := Option.isSome_iff_exists.mp (require_ok hlock)
  have hholds : Holds { db with ratings, quota } lease expires := ⟨h.row, h.registry⟩
  have hofficial := advance_in_time hholds hadvance
  obtain ⟨db₂', hadvance₂, hholds₂, -⟩ := advance_ok hholds hofficial .officialCommitted duration
  cases hadvance₂.symm.trans hadvance
  obtain ⟨outbox, houtboxes'⟩ := createOutboxes_of db₂ context.applicationId (base ++ result.additionalOutboxMessages)
  cases houtboxes'.symm.trans houtboxes
  have hholds₃ : Holds { db₂ with outbox } _ _ := ⟨hholds₂.row, hholds₂.registry⟩
  exact ⟨owns_in_time h hfind, hofficial, advance_in_time hholds₃ hadvance'⟩

end CommitOfficial

end TokenPilot.Pipeline
