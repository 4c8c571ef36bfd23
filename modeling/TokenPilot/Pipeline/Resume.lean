/-
  TokenPilot.Pipeline.Resume — a run that is cut and resumed does what one run does.

  `officialEffect` is what a commit makes of the ratings, the quota and the outbox. It
  depends on what a `Frame` keeps and on the outbox, so the checkpoints before it do not
  matter (`officialEffect_frame`), and it is what `commitOfficial` leaves
  (`commitOfficial_effect`) and what an uninterrupted `process` leaves
  (`process_effect`).

  `Resumes` is the invariant of a run in which only one event is committed: before its
  commit nothing official has changed; after it, the database is that of the effect, for
  the values generated in that commit, and no second commit goes through, since the row is
  past it. Every session of the row has the same event, payload and intent in memory,
  so that the stages, computed again by each, return the same.
-/

import TokenPilot.Pipeline.LeaseSafety

namespace TokenPilot.Pipeline

open TokenPilot.Library TokenPilot.Quota

/-! ## The effect of a commit -/

structure Official where
  ratings : Table ApplicationUsageRating
  quota : QuotaStore
  outbox : Table PipelineOutbox

def Database.official (db : Database) : Official := ⟨db.ratings, db.quota, db.outbox⟩

def officialEffect (db : Database) (context : PipelineSettlementContext) (payloadHash : String)
    (values : CommitValues) : Except Failure Official := do
  let (committed, db) ← commit db context values
  let base ← baseOutboxMessages db context payloadHash
  let db ← createOutboxes db context.applicationId (base ++ committed.additionalOutboxMessages)
  return db.official

section Effect

variable {db db' : Database} {context : PipelineSettlementContext} {values : CommitValues}

/-- What the messages make of the outbox depends on the outbox alone. -/
theorem createOutboxes_outbox (outbox : Table PipelineOutbox) (applicationId : Uuid)
    (messages : List PipelineOutboxMessage) :
    ∃ outbox', ∀ db : Database, db.outbox = outbox →
      createOutboxes db applicationId messages = .ok { db with outbox := outbox' } := by
  induction messages generalizing outbox with
  | nil => exact ⟨outbox, fun db hdb => by rw [← hdb]; rfl⟩
  | cons message rest ih =>
    obtain ⟨outbox₁, hone⟩ : ∃ outbox₁, ∀ db : Database, db.outbox = outbox →
        createOutbox db applicationId message = .ok { db with outbox := outbox₁ } := by
      cases hfind : outbox.rows.find? fun o => o.applicationId == applicationId &&
          o.message.idempotencyKey == message.idempotencyKey with
      | some o =>
        refine ⟨outbox, fun db hdb => ?_⟩
        subst hdb
        unfold createOutbox
        rw [hfind]
        rfl
      | none =>
        obtain ⟨outbox₁, hinsert, -⟩ := Table.insert_of (t := outbox) (r := ⟨applicationId, message⟩) rfl
          (fun x hx => Bool.eq_false_iff.mpr (List.find?_eq_none.mp hfind x hx))
        refine ⟨outbox₁, fun db hdb => ?_⟩
        subst hdb
        unfold createOutbox
        rw [hfind]
        exact bind_of (congrArg statement hinsert) rfl
    obtain ⟨outbox', hrest⟩ := ih outbox₁
    refine ⟨outbox', fun db hdb => bind_of (hone db hdb) ?_⟩
    exact hrest { db with outbox := outbox₁ } rfl

theorem baseOutboxMessages_congr (h : db'.quota = db.quota) (payloadHash : String) :
    baseOutboxMessages db' context payloadHash = baseOutboxMessages db context payloadHash := by
  unfold baseOutboxMessages
  rw [h]

theorem findOrCreateRating_congr {rating rating' : ApplicationUsageRating} {db₁ : Database}
    (hr : db'.ratings = db.ratings) (h : findOrCreateRating db rating = .ok (rating', db₁)) :
    findOrCreateRating db' rating = .ok (rating', { db' with ratings := db₁.ratings }) := by
  unfold findOrCreateRating Database.ratingOf at h ⊢
  rw [hr]
  split at h
  · cases h
    rw [← hr]
    rfl
  · obtain ⟨ratings, hinsert, h⟩ := bind_ok h
    cases h
    exact bind_of hinsert rfl

theorem settleUsage_congr {registry registry' : UsageEventRegistry} (totalMicros : Option Nat)
    (hquota : db'.quota = db.quota) (happlications : db'.applications = db.applications)
    (huser : registry'.applicationUserId = registry.applicationUserId)
    (hreservation : registry'.reservationId = registry.reservationId) :
    settleUsage db' context registry' totalMicros values = settleUsage db context registry totalMicros values := by
  unfold settleUsage usagePolicyStep usageCall Database.application
  rw [hquota, happlications, huser, hreservation]

/-- A commit reads nothing that a checkpoint writes. -/
theorem commit_frame {result : OfficialCommitResult} {db₁ : Database} (hf : Frame db db')
    (h : commit db context values = .ok (result, db₁)) :
    commit db' context values = .ok (result, { db' with ratings := db₁.ratings, quota := db₁.quota }) := by
  unfold commit at h ⊢
  obtain ⟨cost, hcost, h⟩ := bind_ok h
  obtain ⟨aiu, haiu, h⟩ := bind_ok h
  obtain ⟨registry, hregistry, h⟩ := bind_ok h
  -- the registry row is the same up to its stage
  have heq := hf.registry context.applicationId context.event.eventId
  rw [orThrow_ok hregistry, Option.map_some, Option.map_eq_some_iff] at heq
  obtain ⟨registry', hr', heq⟩ := heq
  have huser : registry'.applicationUserId = registry.applicationUserId := congrArg (·.applicationUserId) heq
  have hreservation : registry'.reservationId = registry.reservationId := congrArg (·.reservationId) heq
  refine bind_of hcost (bind_of haiu (bind_of (congrArg orThrow hr') ?_))
  split at h
  · cases h
    rw [← hf.ratings, ← hf.quota]
    rfl
  · obtain ⟨⟨rating, db₂⟩, hrating, h⟩ := bind_ok h
    obtain ⟨⟨consumption, quota⟩, hsettle, h⟩ := bind_ok h
    cases h
    obtain ⟨-, ratings, rfl, -⟩ := findOrCreateRating_ok hrating
    rw [huser]
    refine bind_of (findOrCreateRating_congr hf.ratings hrating) (bind_of (Eq.trans ?_ hsettle) rfl)
    exact settleUsage_congr _ hf.quota hf.applications huser hreservation

theorem officialEffect_frame {payloadHash : String} {official : Official} (hf : Frame db db')
    (ho : db'.outbox = db.outbox) (h : officialEffect db context payloadHash values = .ok official) :
    officialEffect db' context payloadHash values = .ok official := by
  obtain ⟨⟨result, db₁⟩, hcommit, h⟩ := bind_ok h
  obtain ⟨base, hbase, h⟩ := bind_ok h
  obtain ⟨db₂, houtboxes, h⟩ := bind_ok h
  cases h
  obtain ⟨-, ratings, quota, rfl⟩ := commit_ok hcommit
  obtain ⟨outbox, hall⟩ := createOutboxes_outbox db.outbox context.applicationId
    (base ++ result.additionalOutboxMessages)
  cases (hall { db with ratings, quota } rfl).symm.trans houtboxes
  refine bind_of (commit_frame hf hcommit) (bind_of (a := base) ?_ (bind_of (hall _ ho) rfl))
  exact (baseOutboxMessages_congr rfl payloadHash).trans hbase

/-- The effect is what `commitOfficial` leaves. -/
theorem commitOfficial_effect {lease lease' : InboxLease} {clock : CommitClock} {duration : Int}
    {metrics : PipelineOfficialMetrics}
    (h : commitOfficial db lease context values clock duration = .ok ((lease', metrics), db')) :
    officialEffect db context lease.payloadHash values = .ok db'.official := by
  obtain ⟨_, -, h⟩ := bind_ok h
  obtain ⟨⟨result, db₁⟩, hcommit, h⟩ := bind_ok h
  obtain ⟨⟨current, db₂⟩, hadvance, h⟩ := bind_ok h
  obtain ⟨base, hbase, h⟩ := bind_ok h
  obtain ⟨db₃, houtboxes, h⟩ := bind_ok h
  obtain ⟨⟨next, db₄⟩, hadvance', h⟩ := bind_ok h
  cases h
  have hf₁ := advance_frame hadvance
  have hf₂ := advance_frame hadvance'
  obtain ⟨outbox, hall⟩ := createOutboxes_outbox db₁.outbox context.applicationId
    (base ++ result.additionalOutboxMessages)
  cases (hall db₂ (advance_outbox hadvance)).symm.trans houtboxes
  refine bind_of hcommit (bind_of (a := base) ?_ (bind_of (hall db₁ rfl) ?_))
  · rw [← hbase]
    exact (baseOutboxMessages_congr hf₁.quota lease.payloadHash).symm
  · have houtbox : db'.outbox = outbox := advance_outbox hadvance'
    have hratings : db'.ratings = db₁.ratings := hf₂.ratings.trans hf₁.ratings
    have hquota : db'.quota = db₁.quota := hf₂.quota.trans hf₁.quota
    show Except.ok (⟨db₁.ratings, db₁.quota, outbox⟩ : Official) = _
    rw [Database.official, houtbox, hratings, hquota]

/-- Under a lease that holds, a commit that can have its effect has it. -/
theorem commitOfficial_of_effect {lease : InboxLease} {clock : CommitClock} {expires duration : Int}
    {official : Official} (h : Holds db lease expires) (hlock : clock.lock < expires)
    (hofficial : clock.officialCommitted < expires)
    (houtbox : clock.outboxCreated < max (expires + 1) (clock.officialCommitted + duration))
    (heffect : officialEffect db context lease.payloadHash values = .ok official) :
    ∃ lease' metrics db', commitOfficial db lease context values clock duration = .ok ((lease', metrics), db') ∧
      Holds db' lease' (max (max (expires + 1) (clock.officialCommitted + duration) + 1)
        (clock.outboxCreated + duration)) := by
  obtain ⟨row, hrow, hleased, -⟩ := h.row
  have hfind := owns_find hrow hleased hlock
  obtain ⟨⟨result, db₁⟩, hcommit, heffect⟩ := bind_ok heffect
  obtain ⟨base, hbase, heffect⟩ := bind_ok heffect
  obtain ⟨-, ratings, quota, rfl⟩ := commit_ok hcommit
  have hholds : Holds { db with ratings, quota } lease expires := ⟨h.row, h.registry⟩
  obtain ⟨db₂, hadvance, hholds₂, hframe⟩ := advance_ok hholds hofficial .officialCommitted duration
  obtain ⟨outbox, hall⟩ := createOutboxes_outbox db₂.outbox context.applicationId
    (base ++ result.additionalOutboxMessages)
  have hholds₃ : Holds { db₂ with outbox } _ _ := ⟨hholds₂.row, hholds₂.registry⟩
  obtain ⟨db₄, hadvance', hholds₄, -⟩ := advance_ok hholds₃ houtbox .outboxCreated duration
  refine ⟨_, result.metrics, db₄, ?_, hholds₄⟩
  refine bind_of (require_of _ (by rw [hfind]; rfl)) (bind_of hcommit (bind_of hadvance ?_))
  refine bind_of (a := base) ?_ (bind_of (hall db₂ rfl) (bind_of hadvance' rfl))
  rw [← hbase]
  exact baseOutboxMessages_congr hframe.quota lease.payloadHash

end Effect

/-! ## An uninterrupted run -/

theorem complete_official {db db' : Database} {lease : InboxLease} {now : Int} (h : complete db lease now = .ok db') :
    db'.official = db.official := by
  obtain ⟨db₁, h₁, h⟩ := bind_ok h
  obtain ⟨db₂, h₂, h⟩ := bind_ok h
  cases h
  obtain ⟨⟨inbox, n⟩, -, h₁⟩ := bind_ok h₁
  obtain ⟨_, -, h₁⟩ := bind_ok h₁
  cases h₁
  obtain ⟨⟨registry, m⟩, -, h₂⟩ := bind_ok h₂
  cases h₂
  rfl

/-- A run under a lease that lasts, whose commit can have its effect, completes with it. -/
theorem process_effect {settings : ProcessorSettings} {db : Database} {lease : InboxLease} {expires : Int}
    {values : CommitValues} {clock : ProcessClock} {context : PipelineSettlementContext} {official : Official}
    (h : Holds db lease expires) (hneeded : stageRank lease.stage < stageRank .outboxCreated)
    (hlasts : LeaseLasts settings.leaseDuration expires
      (leaseChecks (stageRank lease.stage) clock [(clock.complete, false)]))
    (hcontext : StagesReturn settings lease context)
    (heffect : officialEffect db context lease.payloadHash values = .ok official) :
    (process settings db lease values clock).1.status = .completed ∧
      (process settings db lease values clock).2.official = official := by
  obtain ⟨stage, e, expires₁, db₁, hupto, hholds, hframe, houtbox, hrank, hrest⟩ :=
    settleStages_upto values h hlasts hcontext
  have hlast : stageRank .quotaSettled < stageRank .outboxCreated := by decide
  unfold commitChecks at hrest
  rw [if_pos hneeded] at hrest
  obtain ⟨hlock, hofficial, hcreated, hcomplete, -⟩ := hrest
  have heffect₁ := officialEffect_frame hframe houtbox heffect
  obtain ⟨lease', metrics, db₂, hcommit, hholds₂⟩ :=
    commitOfficial_of_effect hholds hlock hofficial hcreated heffect₁
  obtain ⟨db', hdone⟩ := complete_ok hholds₂ hcomplete
  have hsettled : settleStages settings db lease values clock = .ok (lease', db₂) := by
    rw [hupto, officialCommit, if_pos]
    · exact bind_of (during_ok.mpr hcommit) rfl
    · show stageRank stage < _
      omega
  have hrun : processStages settings db lease values clock = .ok db' := bind_of hsettled (during_ok.mpr hdone)
  have hcommitted := commitOfficial_effect hcommit
  rw [process, hrun]
  refine ⟨rfl, ?_⟩
  rw [complete_official hdone]
  exact Except.ok.inj (hcommitted.symm.trans heffect₁)

/-! ## What stays through a run -/

/-- The applications and, up to their stage, the registry rows are the same. -/
structure SameEvents (db db' : Database) : Prop where
  applications : db'.applications = db.applications
  registry : ∀ applicationId eventId,
    (db'.registryOf applicationId eventId).map (fun r => { r with processingStage := .received }) =
      (db.registryOf applicationId eventId).map fun r => { r with processingStage := .received }

section SameEvents

variable {db db₁ db' : Database}

theorem SameEvents.trans (h : SameEvents db db₁) (h' : SameEvents db₁ db') : SameEvents db db' :=
  ⟨h'.applications.trans h.applications, fun a e => (h'.registry a e).trans (h.registry a e)⟩

theorem SameEvents.of_eq (ha : db'.applications = db.applications) (hr : db'.registry = db.registry) :
    SameEvents db db' :=
  ⟨ha, fun a e => by unfold Database.registryOf; rw [hr]⟩

theorem Frame.sameEvents (h : Frame db db') : SameEvents db db' := ⟨h.applications, h.registry⟩

theorem SameEvents.frame (h : SameEvents db db') (ho : db'.official = db.official) : Frame db db' :=
  ⟨congrArg (·.quota) ho, h.applications, congrArg (·.ratings) ho, h.registry⟩

theorem SameEvents.payloadHash (h : SameEvents db db') (applicationId : Uuid) (eventId : String) :
    (db'.registryOf applicationId eventId).map (·.payloadHash) =
      (db.registryOf applicationId eventId).map (·.payloadHash) := by
  have hmap := congrArg (Option.map (·.payloadHash)) (h.registry applicationId eventId)
  rw [Option.map_map, Option.map_map] at hmap
  exact hmap

theorem setProcessingStage_sameEvents {lease : InboxLease} {stage : PipelineStageName}
    (h : setProcessingStage db lease stage = .ok db') : SameEvents db db' := by
  have hframe : Frame db db' := Frame.of_setProcessingStage (show setProcessingStage { db with inbox := db.inbox }
    lease stage = .ok db' from h)
  exact hframe.sameEvents

theorem updateLeased_kept {lease : InboxLease} {now : Int} {f : IngestionInbox → IngestionInbox}
    {hf : ∀ a b, Row.clash (f a) b = Row.clash a b} (h : updateLeased db lease now f hf = .ok db') :
    SameEvents db db' ∧ db'.official = db.official := by
  obtain ⟨⟨inbox, n⟩, -, h⟩ := bind_ok h
  obtain ⟨_, -, h⟩ := bind_ok h
  cases h
  exact ⟨.of_eq rfl rfl, rfl⟩

theorem setProcessingStage_official {lease : InboxLease} {stage : PipelineStageName}
    (h : setProcessingStage db lease stage = .ok db') : db'.official = db.official := by
  obtain ⟨⟨registry, n⟩, -, h⟩ := bind_ok h
  cases h
  rfl

theorem complete_sameEvents {lease : InboxLease} {now : Int} (h : complete db lease now = .ok db') :
    SameEvents db db' := by
  obtain ⟨db₁, h₁, h⟩ := bind_ok h
  obtain ⟨db₂, h₂, h⟩ := bind_ok h
  cases h
  have hkept := (updateLeased_kept h₁).1.trans (setProcessingStage_sameEvents h₂)
  exact ⟨hkept.applications, hkept.registry⟩

theorem deadLetter_kept {lease : InboxLease} {now : Int} {failure : Failure}
    (h : deadLetter db lease now failure = .ok db') : SameEvents db db' ∧ db'.official = db.official := by
  obtain ⟨db₁, h₁, h⟩ := bind_ok h
  obtain ⟨hsame, hofficial⟩ := updateLeased_kept h₁
  have hkept := hsame.trans (setProcessingStage_sameEvents h)
  exact ⟨⟨hkept.applications, hkept.registry⟩, (setProcessingStage_official h).trans hofficial⟩

theorem commitOfficial_sameEvents {lease lease' : InboxLease} {context : PipelineSettlementContext}
    {values : CommitValues} {clock : CommitClock} {duration : Int} {metrics : PipelineOfficialMetrics}
    (h : commitOfficial db lease context values clock duration = .ok ((lease', metrics), db')) : SameEvents db db' := by
  obtain ⟨_, -, h⟩ := bind_ok h
  obtain ⟨⟨result, db₁⟩, hcommit, h⟩ := bind_ok h
  obtain ⟨⟨current, db₂⟩, hadvance, h⟩ := bind_ok h
  obtain ⟨base, -, h⟩ := bind_ok h
  obtain ⟨db₃, houtboxes, h⟩ := bind_ok h
  obtain ⟨⟨next, db₄⟩, hadvance', h⟩ := bind_ok h
  cases h
  obtain ⟨-, ratings, quota, rfl⟩ := commit_ok hcommit
  obtain ⟨outbox, rfl⟩ := createOutboxes_inbox houtboxes
  have h₁ := (advance_frame hadvance).sameEvents
  have h₂ := (advance_frame hadvance').sameEvents
  exact ⟨h₂.applications.trans h₁.applications, fun a e => (h₂.registry a e).trans (h₁.registry a e)⟩

theorem Outcome.sameEvents {settings : ProcessorSettings} {s : Cluster} {σ σ' : Session} {call : Call}
    (h : Outcome settings s σ call σ' db') : SameEvents s.db db' := by
  cases h with
  | unchanged => exact .of_eq rfl rfl
  | advanced _ _ _ hadvance => exact (advance_frame hadvance).sameEvents
  | committed _ _ _ _ hcommit => exact commitOfficial_sameEvents hcommit
  | completed _ _ hcomplete => exact complete_sameEvents hcomplete
  | retried _ hretry => exact (updateLeased_kept hretry).1
  | deadLettered _ hdead => exact (deadLetter_kept hdead).1

end SameEvents

/-! ## What a session remembers of its event -/

/-- The lease has the event, payload and intent of the row. -/
structure Remembers (db : Database) (row : IngestionInbox) (lease : InboxLease) : Prop where
  applicationId : lease.applicationId = row.applicationId
  payload : row.payload = some lease.payload
  replayIntent : parsePipelineReplayIntent row.id row.replayIntentJson = .ok lease.replayIntent
  payloadHash : (db.registryOf row.applicationId row.eventId).map (·.payloadHash) = some lease.payloadHash

section Remembers

variable {db db' : Database} {row row' : IngestionInbox} {lease lease' : InboxLease}

theorem Remembers.stageResults (settings : ProcessorSettings) (h : Remembers db row lease)
    (h' : Remembers db row lease') : stageResults settings lease = stageResults settings lease' := by
  have happlication : lease.applicationId = lease'.applicationId := h.applicationId.trans h'.applicationId.symm
  have hpayload : lease.payload = lease'.payload := Option.some.inj (h.payload.symm.trans h'.payload)
  have hintent : lease.replayIntent = lease'.replayIntent := Except.ok.inj (h.replayIntent.symm.trans h'.replayIntent)
  unfold Pipeline.stageResults resolutionStage providerCostStage aiuStage settlementContext quotaStage
  rw [happlication, hpayload, hintent]

theorem Remembers.hash (h : Remembers db row lease) (h' : Remembers db row lease') :
    lease.payloadHash = lease'.payloadHash :=
  Option.some.inj (h.payloadHash.symm.trans h'.payloadHash)

/-- A lease mapped from the row, or from what an update left of it. -/
theorem remembers_of_mapLease {registry : UsageEventRegistry}
    (hmap : mapLease row' registry.payloadHash = .ok lease) (hsame : SameEvents db db')
    (hregistry : db'.registryOf row'.applicationId row'.eventId = some registry) (hid : row'.id = row.id)
    (happlication : row'.applicationId = row.applicationId) (hevent : row'.eventId = row.eventId)
    (hpayload : row'.payload = row.payload) (hintent : row'.replayIntentJson = row.replayIntentJson) :
    Remembers db row lease := by
  obtain ⟨hp, hi, ha, -⟩ := mapLease_ok hmap
  refine ⟨ha.trans happlication, hpayload ▸ hp, ?_, ?_⟩
  · rw [← hid, ← hintent]
    exact hi
  · rw [← hsame.payloadHash, ← happlication, ← hevent, hregistry]
    exact congrArg some (mapLease_fields hmap).2.2.2.symm

end Remembers

/-! ## One event, however often it is resumed -/

/-- No reset, and no commit of another row. -/
def alone (id : Uuid) (s : Cluster) : Call → Bool
  | .commitOfficial i _ _ _ _ => s.sessions[i]?.all fun σ => σ.lease.id == id
  | call => !call.isReset

theorem alone_isReset {id : Uuid} {s : Cluster} {call : Call} (h : alone id s call = true) : call.isReset = false := by
  cases call <;> first | rfl | simp [alone, Call.isReset] at h

/-- The commit of the event had its effect on the database the run began with. -/
def HadEffect (settings : ProcessorSettings) (db₀ : Database) (row₀ : IngestionInbox) (official : Official) : Prop :=
  ∃ values context lease, Remembers db₀ row₀ lease ∧ stageResults settings lease = .ok context ∧
    officialEffect db₀ context lease.payloadHash values = .ok official

/-- How far the row is, and what is official then. -/
structure RowResumes (settings : ProcessorSettings) (db₀ : Database) (row₀ row : IngestionInbox) (official : Official) :
    Prop where
  id : row.id = row₀.id
  applicationId : row.applicationId = row₀.applicationId
  eventId : row.eventId = row₀.eventId
  payload : row.payload = row₀.payload
  intent : row.replayIntentJson = row₀.replayIntentJson ∨ stageRank .completed ≤ stageRank row.stage
  official : (official = db₀.official ∧ row.stage ≠ .outboxCreated ∧ row.stage ≠ .completed) ∨
    (stageRank .outboxCreated ≤ stageRank row.stage ∧ HadEffect settings db₀ row₀ official)

structure Resumes (settings : ProcessorSettings) (db₀ : Database) (row₀ : IngestionInbox) (s : Cluster) : Prop where
  tracks : Tracks s
  events : SameEvents db₀ s.db
  row : ∃ row ∈ s.db.inbox.rows, RowResumes settings db₀ row₀ row s.db.official
  sessions : ∀ σ ∈ s.sessions, σ.lease.id = row₀.id → stageRank σ.lease.stage < stageRank .outboxCreated →
    Remembers db₀ row₀ σ.lease

section Resumes

variable {settings : ProcessorSettings} {db₀ : Database} {row₀ row : IngestionInbox} {s s' : Cluster}

theorem RowResumes.before {official : Official} (h : RowResumes settings db₀ row₀ row official)
    (hrank : stageRank row.stage < stageRank .outboxCreated) :
    official = db₀.official ∧ row.replayIntentJson = row₀.replayIntentJson := by
  have hlast : stageRank .outboxCreated < stageRank .completed := by decide
  refine ⟨?_, ?_⟩
  · rcases h.official with h | h
    · exact h.1
    · omega
  · rcases h.intent with h | h
    · exact h
    · omega

/-- The row keeps its place in a call of a session on another row. -/
theorem Resumes.row_of_other {σ : Session} {db' : Database} {f : IngestionInbox → IngestionInbox}
    (hf : Rewrites σ.lease s.clock f s.db db') (hid : σ.lease.id ≠ row.id) (hrow : row ∈ s.db.inbox.rows) :
    row ∈ db'.inbox.rows := by
  have hnot : σ.lease.owns s.clock row = false := by
    rw [Bool.eq_false_iff]
    exact fun hown => hid (owns_iff.mp hown).1.symm
  rw [hf.rows]
  exact List.mem_map.mpr ⟨row, hrow, by rw [Table.rewrite, hnot]; rfl⟩

/-- The row a session on it has rewritten. -/
theorem Resumes.row_of_own {σ : Session} {db' : Database} {f : IngestionInbox → IngestionInbox}
    (hf : Rewrites σ.lease s.clock f s.db db') (hid : σ.lease.id = row.id) (hrow : row ∈ s.db.inbox.rows) :
    σ.lease.owns s.clock row = true ∧ f row ∈ db'.inbox.rows := by
  obtain ⟨x, hx, hown⟩ := hf.owned
  have heq : x = row := row_eq_of_id hx hrow ((owns_iff.mp hown).1.trans hid)
  subst heq
  refine ⟨hown, ?_⟩
  rw [hf.rows]
  exact List.mem_map.mpr ⟨x, hx, if_pos hown⟩

/-- What a session's call makes of the row and of what is official. -/
theorem Resumes.row_step (h : Resumes settings db₀ row₀ s) {call : Call} {i : Nat} {σ σ' : Session} {db' : Database}
    (hσ : s.sessions[i]? = some σ) (hi : call.session = some i) (halone : alone row₀.id s call = true)
    (hout : Outcome settings s σ call σ' db') :
    ∃ row ∈ db'.inbox.rows, RowResumes settings db₀ row₀ row db'.official := by
  have hmem : σ ∈ s.sessions := List.mem_of_getElem? hσ
  obtain ⟨row, hrow, hrr⟩ := h.row
  have hdone : stageRank .outboxCreated ≤ stageRank .completed := by decide
  have hdead : stageRank .completed ≤ stageRank .deadLetter := by decide
  -- a call on another row leaves this row and, not being a commit, what is official
  have hother : ∀ {f}, Rewrites σ.lease s.clock f s.db db' → σ.lease.id ≠ row₀.id → db'.official = s.db.official →
      ∃ row ∈ db'.inbox.rows, RowResumes settings db₀ row₀ row db'.official := by
    intro f hf hne hofficial
    refine ⟨row, Resumes.row_of_other hf (by rw [hrr.id]; exact hne) hrow, ?_⟩
    rw [hofficial]
    exact hrr
  cases hout with
  | unchanged => exact ⟨row, hrow, hrr⟩
  | @advanced _ stage _ _ _ hrun hnext hlast hadvance =>
    have hf := advance_rewrites hadvance
    have hofficial : db'.official = s.db.official := by
      have hframe := advance_frame hadvance
      rw [Database.official, Database.official, hframe.ratings, hframe.quota, advance_outbox hadvance]
    by_cases hid : σ.lease.id = row₀.id
    · obtain ⟨hown, hrow'⟩ := Resumes.row_of_own hf (hid.trans hrr.id.symm) hrow
      have hstage := h.tracks.stage_eq hmem hrun hrow hown
      have hquota : stageRank .quotaSettled < stageRank .outboxCreated := by decide
      obtain ⟨hbefore, hintent⟩ := hrr.before (by rw [hstage]; omega)
      refine ⟨_, hrow', hrr.id, hrr.applicationId, hrr.eventId, hrr.payload, Or.inl hintent, Or.inl ⟨?_, ?_, ?_⟩⟩
      · rw [hofficial, hbefore]
      · rintro rfl
        exact absurd hlast (by decide)
      · rintro rfl
        exact absurd hlast (by decide)
    · exact hother hf hid hofficial
  | @committed j values lost context lease' metrics _ elapsed elapsed' hrun _ hneeded hstages hcommit =>
    obtain ⟨⟨f, hf, hfstage⟩, -⟩ := commitOfficial_rewrites hcommit
    have hid : σ.lease.id = row₀.id := by
      cases hi
      simpa [alone, hσ] using halone
    obtain ⟨hown, hrow'⟩ := Resumes.row_of_own hf (hid.trans hrr.id.symm) hrow
    have hstage := h.tracks.stage_eq hmem hrun hrow hown
    obtain ⟨hbefore, hintent⟩ := hrr.before (by rw [hstage]; exact hneeded)
    have hremembers := h.sessions σ hmem hid hneeded
    -- the database was the first one but for stages
    have hframe : Frame s.db db₀ := (h.events.frame hbefore).symm
    have heffect := officialEffect_frame hframe (congrArg (·.outbox) hbefore).symm (commitOfficial_effect hcommit)
    refine ⟨_, hrow', (hf.keeps.id row).trans hrr.id, (hf.keeps.applicationId row).trans hrr.applicationId,
      (hf.keeps.eventId row).trans hrr.eventId, (hf.keeps.payload row).trans hrr.payload,
      Or.inl ((hfstage row).2.trans hintent), Or.inr ⟨by rw [(hfstage row).1], ?_⟩⟩
    exact ⟨values, context, σ.lease, hremembers, hstages, heffect⟩
  | completed hrun hpast hcomplete =>
    have hf := complete_rewrites hcomplete
    by_cases hid : σ.lease.id = row₀.id
    · obtain ⟨hown, hrow'⟩ := Resumes.row_of_own hf (hid.trans hrr.id.symm) hrow
      have hstage := h.tracks.stage_eq hmem hrun hrow hown
      refine ⟨_, hrow', hrr.id, hrr.applicationId, hrr.eventId, hrr.payload, Or.inr (le_refl _),
        Or.inr ⟨hdone, ?_⟩⟩
      rw [complete_official hcomplete]
      rcases hrr.official with ⟨-, houtbox, hcompleted⟩ | ⟨-, heffect⟩
      · have hactive := h.tracks.active σ hmem hrun
        rw [hstage] at houtbox hcompleted
        exact absurd (stage_outboxCreated hpast hactive) houtbox
      · exact heffect
    · exact hother hf hid (complete_official hcomplete)
  | retried _ hretry =>
    have hf := retry_rewrites hretry
    have hofficial := (updateLeased_kept hretry).2
    by_cases hid : σ.lease.id = row₀.id
    · obtain ⟨-, hrow'⟩ := Resumes.row_of_own hf (hid.trans hrr.id.symm) hrow
      refine ⟨_, hrow', hrr.id, hrr.applicationId, hrr.eventId, hrr.payload, hrr.intent, ?_⟩
      rw [hofficial]
      exact hrr.official
    · exact hother hf hid hofficial
  | deadLettered _ hcall =>
    have hf := deadLetter_rewrites hcall
    have hofficial := (deadLetter_kept hcall).2
    by_cases hid : σ.lease.id = row₀.id
    · obtain ⟨-, hrow'⟩ := Resumes.row_of_own hf (hid.trans hrr.id.symm) hrow
      refine ⟨_, hrow', hrr.id, hrr.applicationId, hrr.eventId, hrr.payload, Or.inr hdead, ?_⟩
      rw [hofficial]
      rcases hrr.official with ⟨hsame, -, -⟩ | ⟨-, heffect⟩
      · exact Or.inl ⟨hsame, nofun, nofun⟩
      · exact Or.inr ⟨hdone.trans hdead, heffect⟩
    · exact hother hf hid hofficial

/-- The lease an advance returns is that of its row. -/
theorem advance_mapLease {db db' : Database} {lease lease' : InboxLease} {stage : PipelineStageName} {now duration : Int}
    (h : advance db lease stage now duration = .ok (lease', db')) :
    ∃ row ∈ db.inbox.rows, lease.owns now row = true ∧ ∃ registry,
      db.registryOf row.applicationId row.eventId = some registry ∧
      mapLease (row.advanced stage now duration) registry.payloadHash = .ok lease' := by
  unfold advance at h
  split at h
  · cases h
  rename_i row hfind
  split at h
  · cases h
  rename_i registry hregistry
  obtain ⟨⟨inbox, n⟩, -, h⟩ := bind_ok h
  obtain ⟨db₁, -, h⟩ := bind_ok h
  obtain ⟨next, hnext, h⟩ := bind_ok h
  cases h
  exact ⟨row, (Table.find?_mem hfind).1, (Table.find?_mem hfind).2, registry, hregistry, hnext⟩

theorem Resumes.session_step (h : Resumes settings db₀ row₀ s) {call : Call} {σ σ' : Session} {db' : Database}
    (hmem : σ ∈ s.sessions) (hout : Outcome settings s σ call σ' db') (hid : σ'.lease.id = row₀.id)
    (hrank : stageRank σ'.lease.stage < stageRank .outboxCreated) : Remembers db₀ row₀ σ'.lease := by
  obtain ⟨row, hrow, hrr⟩ := h.row
  cases hout with
  | @advanced _ stage lost lease' _ hrun hnext hlast hadvance =>
    cases lost with
    | some e => exact h.sessions σ hmem hid hrank
    | none =>
      have hid : lease'.id = row₀.id := hid
      obtain ⟨x, hx, hown, registry, hregistry, hmap⟩ := advance_mapLease hadvance
      have hxid : x.id = row.id := by
        rw [hrr.id, ← hid, (mapLease_fields hmap).1]
        rfl
      have heq : x = row := row_eq_of_id hx hrow hxid
      subst heq
      have hquota : stageRank .quotaSettled < stageRank .outboxCreated := by decide
      obtain ⟨-, hintent⟩ := hrr.before (by rw [h.tracks.stage_eq hmem hrun hx hown]; omega)
      exact remembers_of_mapLease hmap h.events hregistry hrr.id hrr.applicationId hrr.eventId hrr.payload hintent
  | @committed j values lost context lease' metrics _ elapsed elapsed' _ _ _ _ hcommit =>
    cases lost with
    | some e => exact h.sessions σ hmem hid hrank
    | none =>
      obtain ⟨-, -, -, hstage⟩ := commitOfficial_rewrites hcommit
      have hrank : stageRank lease'.stage < stageRank .outboxCreated := hrank
      rw [hstage] at hrank
      exact absurd hrank (lt_irrefl _)
  | unchanged | completed | retried | deadLettered => exact h.sessions σ hmem hid hrank

theorem Resumes.leaseInbox (h : Resumes settings db₀ row₀ s) {token : String} {limit : Nat} {locked : List Uuid}
    {leases : List InboxLease} (hfresh : token ∉ s.tokens)
    (hleases : leases = [] ∨
      (leaseInbox s.db token limit locked s.clock settings.leaseDuration).1 = .ok leases) :
    Resumes settings db₀ row₀ { s with
      db := (Pipeline.leaseInbox s.db token limit locked s.clock settings.leaseDuration).2
      tokens := token :: s.tokens
      sessions := s.sessions ++ leases.map (⟨·, .running⟩) } := by
  obtain ⟨selects, inbox, hdb, hrows, hselected, hreturned⟩ :=
    leaseInbox_cases s.db token limit locked s.clock settings.leaseDuration
  obtain ⟨row, hrow, hrr⟩ := h.row
  have hlast : stageRank .outboxCreated < stageRank .completed := by decide
  refine ⟨tracks_leaseInbox h.tracks hfresh hleases, ?_, ?_, ?_⟩
  · rw [hdb]
    exact ⟨h.events.applications, h.events.registry⟩
  · rw [hdb]
    refine ⟨Table.rewrite selects (·.leasedTo token s.clock settings.leaseDuration) row, ?_, ?_⟩
    · rw [hrows]
      exact List.mem_map_of_mem hrow
    · unfold Table.rewrite
      split
      · exact ⟨hrr.id, hrr.applicationId, hrr.eventId, hrr.payload, hrr.intent, hrr.official⟩
      · exact hrr
  · intro σ hσ hid hrank
    rcases List.mem_append.mp hσ with hσ | hσ
    · exact h.sessions σ hσ hid hrank
    obtain ⟨lease, hlease, rfl⟩ := List.mem_map.mp hσ
    rcases hleases with rfl | hleases
    · cases hlease
    obtain ⟨x, hx, hsel, hmap⟩ := (hreturned leases hleases).2 lease hlease
    have hid : lease.id = row₀.id := hid
    have hxid : x.id = row.id := by
      rw [hrr.id, ← hid, (mapLease_fields hmap).1]
      rfl
    have heq : x = row := row_eq_of_id hx hrow hxid
    subst heq
    obtain ⟨hleasable, hregistered⟩ := hselected x hx hsel
    obtain ⟨registry, hregistry⟩ := Option.isSome_iff_exists.mp hregistered
    have hle := leasable_rank hleasable
    have hintent : x.replayIntentJson = row₀.replayIntentJson := by
      rcases hrr.intent with hintent | hdone
      · exact hintent
      · omega
    rw [hregistry] at hmap
    exact remembers_of_mapLease hmap h.events hregistry hrr.id hrr.applicationId hrr.eventId hrr.payload hintent

/-- Each call of the run keeps it on its way. -/
theorem resumes_step (h : Resumes settings db₀ row₀ s) {call : Call} {u : Unit} (halone : alone row₀.id s call = true)
    (hcall : execCall settings s call = .ok (u, s')) : Resumes settings db₀ row₀ s' := by
  cases hi : call.session with
  | some i =>
    obtain ⟨σ, σ', hσ, hout, htokens, hsessions⟩ := execCall_session hi hcall
    have hmem : σ ∈ s.sessions := List.mem_of_getElem? hσ
    refine ⟨tracks_step h.tracks hcall, h.events.trans hout.sameEvents, h.row_step hσ hi halone hout, ?_⟩
    intro τ hτ hid hrank
    rw [hsessions] at hτ
    rcases mem_set hτ with rfl | ⟨j, -, hj⟩
    · exact h.session_step hmem hout hid hrank
    · exact h.sessions τ (List.mem_of_getElem? hj) hid hrank
  | none =>
    rcases execCall_other hi hcall with ⟨clock, rfl⟩ | ⟨token, limit, locked, leases, -, hfresh, rfl, hleases⟩ |
      ⟨hreset, -⟩
    · exact ⟨tracks_step h.tracks hcall, h.events, h.row, h.sessions⟩
    · exact h.leaseInbox hfresh hleases
    · rw [alone_isReset halone] at hreset
      cases hreset

end Resumes

/-! ## The uninterrupted run of the same event -/

section Uninterrupted

variable {settings : ProcessorSettings} {s : Cluster} {row₀ : IngestionInbox} {calls : List Call}

theorem Untouched.resumes (h : Untouched s) (hrow : row₀ ∈ s.db.inbox.rows) : Resumes settings s.db row₀ s := by
  refine ⟨h.tracks, .of_eq rfl rfl, ⟨row₀, hrow, rfl, rfl, rfl, rfl, Or.inl rfl, Or.inl ⟨rfl, ?_, ?_⟩⟩, ?_⟩
  · intro hstage
    have hle := h.rows row₀ hrow
    rw [hstage] at hle
    exact absurd hle (by decide)
  · intro hstage
    have hle := h.rows row₀ hrow
    rw [hstage] at hle
    exact absurd hle (by decide)
  · intro σ hσ
    rw [h.sessions] at hσ
    cases hσ

theorem resumes_run (h : Untouched s) (hrow : row₀ ∈ s.db.inbox.rows)
    (hcalls : (workers settings).Guarded (fun s call => alone row₀.id s call = true) s calls) :
    Resumes settings s.db row₀ ((workers settings).run s calls) :=
  Machine.guarded_invariant (m := workers settings) (P := Resumes settings s.db row₀)
    (fun _ _ _ _ hs hok hcall => resumes_step hs hok hcall) calls s (h.resumes hrow) hcalls

/-- A lease that was just acquired holds. -/
theorem leaseInbox_holds {db : Database} {token : String} {limit : Nat} {locked : List Uuid} {now duration : Int}
    {leases : List InboxLease} {lease : InboxLease}
    (h : (leaseInbox db token limit locked now duration).1 = .ok leases) (hlease : lease ∈ leases) :
    Holds (leaseInbox db token limit locked now duration).2 lease (now + duration) ∧
      Frame db (leaseInbox db token limit locked now duration).2 ∧
      (leaseInbox db token limit locked now duration).2.outbox = db.outbox ∧
      ∃ row ∈ db.inbox.rows, row.id = lease.id ∧ lease.stage = row.stage ∧ Remembers db row lease := by
  obtain ⟨selects, inbox, hdb, hrows, hselected, hreturned⟩ := leaseInbox_cases db token limit locked now duration
  obtain ⟨row, hrow, hsel, hmap⟩ := (hreturned leases h).2 lease hlease
  obtain ⟨registry, hregistry⟩ := Option.isSome_iff_exists.mp (hselected row hrow hsel).2
  rw [hregistry] at hmap
  have hmap : mapLease (row.leasedTo token now duration) registry.payloadHash = .ok lease := hmap
  obtain ⟨hid, hstage, howner, hhash⟩ := mapLease_fields hmap
  obtain ⟨-, -, ha, he⟩ := mapLease_ok hmap
  rw [hdb]
  refine ⟨⟨⟨row.leasedTo token now duration, ?_, ⟨hid.symm, rfl, ?_, rfl⟩, ?_⟩, registry, ?_, hhash.symm⟩,
    ⟨rfl, rfl, rfl, fun _ _ => rfl⟩, rfl, row, hrow, hid.symm, hstage, ?_⟩
  · rw [hrows]
    exact List.mem_map.mpr ⟨row, hrow, if_pos hsel⟩
  · rw [howner]
    rfl
  · rw [hhash]
    exact hmap
  · rw [ha, he]
    exact hregistry
  · exact remembers_of_mapLease hmap (.of_eq rfl rfl) hregistry rfl rfl rfl rfl rfl

/-- A row that can be leased at some time, by a worker that finds the other rows locked. -/
theorem leaseInbox_one {db : Database} {now : Int} {lease₀ : InboxLease} (duration : Int) (hrow : row₀ ∈ db.inbox.rows)
    (hleasable : row₀.leasable now = true) (hremembers : Remembers db row₀ lease₀) :
    ∃ locked leases lease, (leaseInbox db "" 1 locked now duration).1 = .ok leases ∧ lease ∈ leases ∧
      lease.id = row₀.id := by
  obtain ⟨locked, hlocked⟩ : ∃ locked, locked = (db.inbox.rows.map (·.id)).filter (· != row₀.id) := ⟨_, rfl⟩
  have hfilter : (db.inbox.rows.filter fun row => row.leasable now && !locked.contains row.id) = [row₀] := by
    refine db.inbox.filter_of_clash hrow ?_ fun x hx hpx => ?_
    · simp [hleasable, hlocked]
    · rw [Bool.and_eq_true] at hpx
      have hfree : x.id ∉ locked := by simpa using hpx.2
      have hid : x.id = row₀.id := by
        by_contra hne
        rw [hlocked] at hfree
        exact hfree (List.mem_filter.mpr ⟨List.mem_map_of_mem hx, by simpa using hne⟩)
      simp [Row.clash, hid]
  obtain ⟨registry, hregistry, hhash⟩ := Option.map_eq_some_iff.mp hremembers.payloadHash
  have hselects : db.inbox.rows.filter (leaseSelects db 1 locked now) = [row₀] := by
    have hcandidates : leaseCandidates db 1 locked now = [row₀.id] := by
      unfold leaseCandidates
      rw [hfilter]
      rfl
    refine db.inbox.filter_of_clash hrow ?_ fun x _ hpx => ?_
    · simp [leaseSelects, hcandidates, hregistry]
    · rw [leaseSelects, hcandidates, Bool.and_eq_true] at hpx
      have hid : x.id = row₀.id := by simpa using hpx.1
      simp [Row.clash, hid]
  obtain ⟨lease, hmap⟩ : ∃ lease, mapLease (row₀.leasedTo "" now duration) registry.payloadHash = .ok lease := by
    unfold mapLease
    have hpayload : (row₀.leasedTo "" now duration).payload = some lease₀.payload := hremembers.payload
    rw [hpayload]
    exact ⟨_, bind_of hremembers.replayIntent rfl⟩
  refine ⟨locked, [lease], lease, ?_, List.mem_singleton_self _, (mapLease_fields hmap).1⟩
  obtain ⟨inbox, hu, -⟩ := Table.updateMany_of (t := db.inbox) (p := leaseSelects db 1 locked now)
    (f := (·.leasedTo "" now duration)) (fun _ _ => rfl) fun _ _ _ => rfl
  have hstatement := congrArg statement hu
  unfold leaseInbox
  rw [if_neg (by omega)]
  dsimp only
  rw [hstatement]
  show (db.inbox.rows.filter (leaseSelects db 1 locked now)).mapM _ = _
  rw [hselects, List.mapM_cons, List.mapM_nil]
  refine bind_of ?_ rfl
  rw [hregistry]
  exact hmap

/-- A row that changed was leased at some time. -/
def Reached (row₀ : IngestionInbox) (s : Cluster) : Prop :=
  (row₀ ∈ s.db.inbox.rows ∧ ∀ σ ∈ s.sessions, σ.lease.id ≠ row₀.id) ∨ ∃ now, row₀.leasable now = true

theorem reached_step {s' : Cluster} {call : Call} {u : Unit} (h : Reached row₀ s) (hreset : call.isReset = false)
    (hcall : execCall settings s call = .ok (u, s')) : Reached row₀ s' := by
  rcases h with ⟨hrow, hsessions⟩ | hleasable
  swap
  · exact Or.inr hleasable
  cases hi : call.session with
  | some i =>
    obtain ⟨σ, σ', hσ, hout, -, hset⟩ := execCall_session hi hcall
    have hne := hsessions σ (List.mem_of_getElem? hσ)
    refine Or.inl ⟨?_, ?_⟩
    · rcases hout.rewrites with hsame | ⟨f, hf⟩
      · rw [hsame]; exact hrow
      · exact Resumes.row_of_other hf hne hrow
    · intro τ hτ
      rw [hset] at hτ
      rcases mem_set hτ with rfl | ⟨j, -, hj⟩
      · have hid : τ.lease.id = σ.lease.id := congrArg Prod.fst hout.key
        rw [hid]
        exact hne
      · exact hsessions τ (List.mem_of_getElem? hj)
  | none =>
    rcases execCall_other hi hcall with ⟨clock, rfl⟩ | ⟨token, limit, locked, leases, -, -, rfl, hleases⟩ | ⟨h, -⟩
    · exact Or.inl ⟨hrow, hsessions⟩
    · obtain ⟨selects, inbox, hdb, hrows, hselected, hreturned⟩ :=
        leaseInbox_cases s.db token limit locked s.clock settings.leaseDuration
      by_cases hsel : selects row₀ = true
      · exact Or.inr ⟨s.clock, (hselected row₀ hrow hsel).1⟩
      refine Or.inl ⟨?_, ?_⟩
      · show row₀ ∈ (leaseInbox s.db token limit locked s.clock settings.leaseDuration).2.inbox.rows
        rw [hdb, hrows]
        exact List.mem_map.mpr ⟨row₀, hrow, if_neg hsel⟩
      · intro σ hσ
        rcases List.mem_append.mp hσ with hσ | hσ
        · exact hsessions σ hσ
        obtain ⟨lease, hlease, rfl⟩ := List.mem_map.mp hσ
        rcases hleases with rfl | hleases
        · cases hlease
        obtain ⟨x, hx, hxsel, hmap⟩ := (hreturned leases hleases).2 lease hlease
        intro hid
        have hxid : x.id = row₀.id := (mapLease_fields hmap).1.symm.trans hid
        rw [row_eq_of_id hx hrow hxid] at hxsel
        exact hsel hxsel
    · rw [h] at hreset
      cases hreset

theorem reached_run (hrow : row₀ ∈ s.db.inbox.rows) (h : Untouched s)
    (hcalls : (workers settings).Guarded (fun s call => alone row₀.id s call = true) s calls) :
    Reached row₀ ((workers settings).run s calls) := by
  refine Machine.guarded_invariant (m := workers settings) (P := Reached row₀)
    (fun _ _ _ _ hs hok hcall => reached_step hs (alone_isReset hok) hcall) calls s (Or.inl ⟨hrow, ?_⟩) hcalls
  intro σ hσ
  rw [h.sessions] at hσ
  cases hσ

/-- A run of the event that nothing interrupts leaves the same, when it generates the values
    that were generated in the commit; and there is such a run. -/
theorem completed_as_uninterrupted (h : Untouched s) (hrow₀ : row₀ ∈ s.db.inbox.rows)
    (hcalls : (workers settings).Guarded (fun s call => alone row₀.id s call = true) s calls) {row : IngestionInbox}
    (hrow : row ∈ ((workers settings).run s calls).db.inbox.rows) (hid : row.id = row₀.id)
    (hdone : row.stage = .completed) :
    (∃ token limit locked now leases lease,
      (leaseInbox s.db token limit locked now settings.leaseDuration).1 = .ok leases ∧ lease ∈ leases ∧
        lease.id = row₀.id) ∧
    ∃ values, ∀ token limit locked now leases lease clock,
      (leaseInbox s.db token limit locked now settings.leaseDuration).1 = .ok leases → lease ∈ leases →
      lease.id = row₀.id → LeaseLasts settings.leaseDuration (now + settings.leaseDuration)
        (leaseChecks (stageRank lease.stage) clock [(clock.complete, false)]) →
      (process settings (leaseInbox s.db token limit locked now settings.leaseDuration).2 lease values clock).1.status =
          .completed ∧
        (process settings (leaseInbox s.db token limit locked now settings.leaseDuration).2 lease values clock).2.official =
          ((workers settings).run s calls).db.official := by
  have hresumes := resumes_run h hrow₀ hcalls
  obtain ⟨x, hx, hrr⟩ := hresumes.row
  have hxrow : x = row := row_eq_of_id hx hrow (hrr.id.trans hid.symm)
  subst hxrow
  have hearly := h.rows row₀ hrow₀
  have hlast : stageRank .quotaSettled < stageRank .outboxCreated := by decide
  obtain ⟨values, context, lease₀, hremembers, hstages, heffect⟩ :
      HadEffect settings s.db row₀ ((workers settings).run s calls).db.official := by
    rcases hrr.official with ⟨-, -, hnot⟩ | ⟨-, heffect⟩
    · exact absurd hdone hnot
    · exact heffect
  refine ⟨?_, values, ?_⟩
  · rcases reached_run hrow₀ h hcalls with ⟨hsame, -⟩ | ⟨now, hleasable⟩
    · rw [← row_eq_of_id hrow hsame hid, hdone] at hearly
      exact absurd hearly (by decide)
    · obtain ⟨locked, leases, lease, hleases, hlease, hlid⟩ :=
        leaseInbox_one settings.leaseDuration hrow₀ hleasable hremembers
      exact ⟨"", 1, locked, now, leases, lease, hleases, hlease, hlid⟩
  · intro token limit locked now leases lease clock hleases hlease hlid hlasts
    obtain ⟨hholds, hframe, houtbox, r, hr, hrid, hstage, hrem⟩ := leaseInbox_holds hleases hlease
    have hr₀ : r = row₀ := row_eq_of_id hr hrow₀ (hrid.trans hlid)
    subst hr₀
    have hcontext : StagesReturn settings lease context := by
      rw [← stageResults_ok, hrem.stageResults settings hremembers]
      exact hstages
    refine process_effect hholds (by rw [hstage]; omega) hlasts hcontext ?_
    rw [hrem.hash hremembers]
    exact officialEffect_frame hframe houtbox heffect

end Uninterrupted

/-- Whatever crashes, fails or expires: between administrative resets the stage of a row never
    decreases, and an event that is completed at last has left the ratings, the quota and
    the outbox that one uninterrupted run leaves, for the ids and times generated in its
    commit. -/
theorem crash_resume (settings : ProcessorSettings) (s : Cluster) (h : Untouched s) :
    (∀ before calls : List Call, (∀ call ∈ calls, call.isReset = false) →
      ∀ row ∈ ((workers settings).run s (before ++ calls)).db.inbox.rows,
        ∃ row₀ ∈ ((workers settings).run s before).db.inbox.rows, row₀.id = row.id ∧
          stageRank row₀.stage ≤ stageRank row.stage) ∧
    ∀ calls : List Call, ∀ row₀ ∈ s.db.inbox.rows,
      (workers settings).Guarded (fun s call => alone row₀.id s call = true) s calls →
      ∀ row ∈ ((workers settings).run s calls).db.inbox.rows, row.id = row₀.id → row.stage = .completed →
        (∃ token limit locked now leases lease,
          (leaseInbox s.db token limit locked now settings.leaseDuration).1 = .ok leases ∧ lease ∈ leases ∧
            lease.id = row₀.id) ∧
        ∃ values, ∀ token limit locked now leases lease clock,
          (leaseInbox s.db token limit locked now settings.leaseDuration).1 = .ok leases → lease ∈ leases →
          lease.id = row₀.id → LeaseLasts settings.leaseDuration (now + settings.leaseDuration)
            (leaseChecks (stageRank lease.stage) clock [(clock.complete, false)]) →
          let after := process settings (leaseInbox s.db token limit locked now settings.leaseDuration).2 lease values clock
          after.1.status = .completed ∧ after.2.official = ((workers settings).run s calls).db.official := by
  refine ⟨fun before calls hcalls row hrow => ?_, fun calls row₀ hrow₀ hcalls row hrow hid hdone => ?_⟩
  · rw [Machine.run_append] at hrow
    exact stage_mono_run (tracks_run h.tracks before) hcalls hrow
  · exact completed_as_uninterrupted h hrow₀ hcalls hrow hid hdone

open Quota.Sample Sample in
/-- The row that was taken over after its commit: its rating, quota and messages are those
    of one run. -/
theorem taken_over_as_uninterrupted :
    let settings := processor (pipelineRuntimeFlags everythingOn)
    ((workers settings).run waiting takenOver).db.outbox.rows.length = 5 ∧
    ∃ values, ∀ token limit locked now leases lease clock,
      (leaseInbox waiting.db token limit locked now settings.leaseDuration).1 = .ok leases → lease ∈ leases →
      lease.id = 90 → LeaseLasts settings.leaseDuration (now + settings.leaseDuration)
        (leaseChecks (stageRank lease.stage) clock [(clock.complete, false)]) →
      let after := process settings (leaseInbox waiting.db token limit locked now settings.leaseDuration).2 lease values
        clock
      after.1.status = .completed ∧ after.2.official = ((workers settings).run waiting takenOver).db.official := by
  intro settings
  have hrows : ((workers settings).run waiting takenOver).db.inbox.rows.map (fun row => (row.id, row.stage)) =
      [(90, .completed)] := by
    decide +kernel
  obtain ⟨row, hrow, heq⟩ := List.mem_map.mp (hrows ▸ List.mem_singleton_self _)
  obtain ⟨hid, hstage⟩ : row.id = 90 ∧ row.stage = .completed := by simpa using heq
  refine ⟨by decide +kernel, ?_⟩
  exact ((crash_resume settings waiting ⟨rfl, by decide⟩).2 takenOver _ List.mem_cons_self (by decide +kernel) row hrow hid
    hstage).2

end TokenPilot.Pipeline
