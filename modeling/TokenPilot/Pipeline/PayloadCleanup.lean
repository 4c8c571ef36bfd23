/-
  TokenPilot.Pipeline.PayloadCleanup — `InboxPayloadCleanupService.purgeBatch`
  (apps/worker/src/pipeline/payload-cleanup.ts): the payloads of completed events go when
  their retention has elapsed.

  The query joins the inbox with the registry, the dead letters and the reconciliation
  differences by the event id alone, which two applications may share. `clears_iff` says what a
  run clears: a due row whose event id is synced for some application and named by nothing that
  is open in any. So an application's own rows decide exactly when those of the others add
  nothing (`purge_respects_iff`); `foreign_rows_decide` has two applications with one event id,
  where they do not.
-/

import Mathlib.Algebra.Ring.Nat
import Mathlib.Data.List.Sort
import TokenPilot.Pipeline.Writer

namespace TokenPilot.Pipeline

open TokenPilot.Quota

/-! ## Tables -/

/-- `ingestion_inbox` with the columns of the retention; `payloadBytes` is the size of the
    stored payload. Times are microseconds. -/
structure RetainedInbox extends IngestionInbox where
  payloadBytes : Nat
  payloadPurgeAfter : Option Int
  payloadPurgedAt : Option Int

structure SyncedRegistry extends UsageEventRegistry where
  clickhouseRawSyncedAt : Option Int

/-- A dead letter of an inbox row or of an outbox row, which may be of no event. -/
structure DeadLetterRow where
  applicationId : Uuid
  eventId : Option String
  status : DeadLetterStatus
  deriving DecidableEq

inductive ReconciliationDiffStatus where
  | open
  | investigating
  | resolved
  | ignored
  | unknown
  deriving DecidableEq

structure ReconciliationRun where
  id : Uuid
  applicationId : Uuid
  deriving DecidableEq

structure ReconciliationDiff where
  runId : Uuid
  status : ReconciliationDiffStatus
  sampleEventIdsJson : JsonValue

/-- The entry of the audit log for one payload. -/
structure PurgeAudit where
  objectId : Uuid
  eventId : String
  payloadHash : String
  payloadBytes : Nat
  payloadPurgeAfter : Int
  payloadPurgedAt : Int
  deriving DecidableEq

/-- The tables the cleanup reads, with their keys. -/
structure CleanupDatabase where
  inbox : List RetainedInbox
  registry : List SyncedRegistry
  deadLetters : List DeadLetterRow
  runs : List ReconciliationRun
  diffs : List ReconciliationDiff
  auditLogs : List PurgeAudit
  inbox_ids : (inbox.map (·.id)).Nodup
  inbox_events : (inbox.map fun row => (row.applicationId, row.eventId)).Nodup
  registry_events : (registry.map fun row => (row.applicationId, row.eventId)).Nodup
  registered : ∀ row ∈ inbox, ∃ r ∈ registry, r.applicationId = row.applicationId ∧ r.eventId = row.eventId
  run_ids : (runs.map (·.id)).Nodup
  ran : ∀ diff ∈ diffs, ∃ run ∈ runs, run.id = diff.runId

/-! ## The query -/

/-- `status IN ('open', 'replay_queued')`. -/
def DeadLetterRow.isOpen (deadLetter : DeadLetterRow) : Bool :=
  deadLetter.status == .open || deadLetter.status == .replayQueued

/-- `status IN ('open', 'investigating')`. -/
def ReconciliationDiff.isOpen (diff : ReconciliationDiff) : Bool := diff.status == .open || diff.status == .investigating

/-- `jsonb_typeof(…) = 'array' AND … ? event_id`. -/
def ReconciliationDiff.samples (diff : ReconciliationDiff) (eventId : String) : Bool :=
  match diff.sampleEventIdsJson with
  | .array values => values.any fun value => value.asString == some eventId
  | _ => false

/-- The conditions on the inbox row alone. -/
def RetainedInbox.isDue (row : RetainedInbox) (now : Int) : Bool :=
  row.status == .completed && row.stage == .completed && row.payload.isSome &&
    row.payloadPurgeAfter.any fun purgeAfter => decide (purgeAfter ≤ now)

namespace CleanupDatabase

variable (db : CleanupDatabase)

/-- The two `NOT EXISTS`. -/
def isNamed (eventId : String) : Bool :=
  db.deadLetters.any (fun deadLetter => deadLetter.eventId == some eventId && deadLetter.isOpen) ||
    db.diffs.any fun diff => diff.isOpen && diff.samples eventId

/-- The join on the event id and the rest of the WHERE clause. -/
def joins (now : Int) (row : RetainedInbox) (registry : SyncedRegistry) : Bool :=
  registry.eventId == row.eventId && row.isDue now && registry.clickhouseRawSyncedAt.isSome && !db.isNamed row.eventId

structure Candidate where
  id : Uuid
  eventId : String
  payloadHash : String
  payloadBytes : Nat
  payloadPurgeAfter : Int
  deriving DecidableEq

def candidateOf (row : RetainedInbox) (registry : SyncedRegistry) : Candidate :=
  ⟨row.id, row.eventId, registry.payloadHash, row.payloadBytes, row.payloadPurgeAfter.getD 0⟩

/-- The candidates in the order of the query; rows that others have locked are skipped. -/
def candidates (limit : Nat) (locked : List Uuid) (now : Int) : List Candidate :=
  ((db.inbox.flatMap fun row =>
      if locked.contains row.id then []
      else (db.registry.filter (db.joins now row)).map (candidateOf row)).insertionSort fun a b =>
    a.payloadPurgeAfter < b.payloadPurgeAfter ∨ a.payloadPurgeAfter = b.payloadPurgeAfter ∧ a.id ≤ b.id).take limit

end CleanupDatabase

def RetainedInbox.purged (row : RetainedInbox) (now : Int) : RetainedInbox :=
  { row with payload := none, payloadPurgedAt := some now }

structure PurgedPayload extends CleanupDatabase.Candidate where
  payloadPurgedAt : Int
  deriving DecidableEq

def PurgedPayload.audit (row : PurgedPayload) : PurgeAudit :=
  ⟨row.id, row.eventId, row.payloadHash, row.payloadBytes, row.payloadPurgeAfter, row.payloadPurgedAt⟩

structure CleanupOutcome where
  purgedPayloads : Nat
  purgedBytes : Nat
  eventIds : List String
  deriving DecidableEq

/-- The rows the statement returns: each inbox row once, joined with one of its candidates. -/
def returned (db : CleanupDatabase) (candidates : List CleanupDatabase.Candidate) (now : Int) : List PurgedPayload :=
  db.inbox.filterMap fun row => (candidates.find? (·.id == row.id)).map (⟨·, now⟩)

/-- The inbox after the statement. -/
def purgedInbox (db : CleanupDatabase) (candidates : List CleanupDatabase.Candidate) (now : Int) : List RetainedInbox :=
  db.inbox.map fun row => if (candidates.map (·.id)).contains row.id then row.purged now else row

section Purge

variable (db : CleanupDatabase) (candidates : List CleanupDatabase.Candidate) (now : Int)

/-- A purge changes no key. -/
theorem purgedInbox_map {α : Type} (f : RetainedInbox → α) (hf : ∀ row, f (row.purged now) = f row) :
    (purgedInbox db candidates now).map f = db.inbox.map f := by
  unfold purgedInbox
  rw [List.map_map]
  apply List.map_congr_left
  intro row _
  rw [Function.comp_apply]
  split
  · exact hf row
  · rfl

theorem purgedInbox_registered : ∀ row ∈ purgedInbox db candidates now,
    ∃ r ∈ db.registry, r.applicationId = row.applicationId ∧ r.eventId = row.eventId := by
  intro row hrow
  obtain ⟨old, hold, rfl⟩ := List.mem_map.mp hrow
  obtain ⟨r, hr, happlication, hevent⟩ := db.registered old hold
  refine ⟨r, hr, ?_⟩
  split
  · exact ⟨happlication, hevent⟩
  · exact ⟨happlication, hevent⟩

/-- The database after the transaction. -/
def CleanupDatabase.purge : CleanupDatabase where
  inbox := purgedInbox db candidates now
  registry := db.registry
  deadLetters := db.deadLetters
  runs := db.runs
  diffs := db.diffs
  auditLogs := db.auditLogs ++ (returned db candidates now).map PurgedPayload.audit
  inbox_ids := by rw [purgedInbox_map db candidates now _ fun _ => rfl]; exact db.inbox_ids
  inbox_events := by rw [purgedInbox_map db candidates now _ fun _ => rfl]; exact db.inbox_events
  registry_events := db.registry_events
  registered := purgedInbox_registered db candidates now
  run_ids := db.run_ids
  ran := db.ran

end Purge

def purgeBatch (db : CleanupDatabase) (limit : Nat) (locked : List Uuid) (now : Int) :
    Except Failure (CleanupOutcome × CleanupDatabase) :=
  if limit < 1 ∨ 5000 < limit then .error (.typeError "Payload cleanup batch size must be between 1 and 5000")
  else
    let candidates := db.candidates limit locked now
    let rows := returned db candidates now
    .ok (⟨rows.length, (rows.map (·.payloadBytes)).sum, rows.map (·.eventId)⟩, db.purge candidates now)

/-! ## What a run clears -/

/-- The run takes the payload of the row. -/
def Clears (db : CleanupDatabase) (limit : Nat) (locked : List Uuid) (now : Int) (row : RetainedInbox) : Prop :=
  row ∈ db.inbox ∧ row.payload.isSome ∧ ∃ outcome db', purgeBatch db limit locked now = .ok (outcome, db') ∧
    ∃ row' ∈ db'.inbox, row'.id = row.id ∧ row'.payload = none

/-- The row is among those of the query. -/
def Eligible (db : CleanupDatabase) (now : Int) (row : RetainedInbox) : Prop :=
  row ∈ db.inbox ∧ ∃ registry ∈ db.registry, db.joins now row registry = true

section Clears

variable {db : CleanupDatabase} {limit : Nat} {locked : List Uuid} {now : Int} {row : RetainedInbox}

theorem eq_of_id {row' : RetainedInbox} (hrow : row ∈ db.inbox) (hrow' : row' ∈ db.inbox) (h : row.id = row'.id) :
    row = row' :=
  List.inj_on_of_nodup_map db.inbox_ids hrow hrow' h

theorem mem_candidates {candidate : CleanupDatabase.Candidate} (h : candidate ∈ db.candidates limit locked now) :
    ∃ row, Eligible db now row ∧ row.id ∉ locked ∧ candidate.id = row.id := by
  have hmem := (List.mem_insertionSort _).mp (List.mem_of_mem_take h)
  obtain ⟨row, hrow, hmem⟩ := List.mem_flatMap.mp hmem
  split at hmem
  · cases hmem
  · rename_i hlocked
    obtain ⟨registry, hregistry, rfl⟩ := List.mem_map.mp hmem
    obtain ⟨hregistry, hjoins⟩ := List.mem_filter.mp hregistry
    exact ⟨row, ⟨hrow, registry, hregistry, hjoins⟩, by simpa using hlocked, rfl⟩

theorem Eligible.isDue (h : Eligible db now row) : row.isDue now = true := by
  obtain ⟨-, registry, -, hjoins⟩ := h
  simp only [CleanupDatabase.joins, Bool.and_eq_true] at hjoins
  exact hjoins.1.1.2

theorem RetainedInbox.isDue_payload (h : row.isDue now = true) : row.payload.isSome = true := by
  simp only [RetainedInbox.isDue, Bool.and_eq_true] at h
  exact h.1.2

/-- A run clears only eligible rows. -/
theorem Clears.eligible (h : Clears db limit locked now row) : Eligible db now row := by
  obtain ⟨hrow, hpayload, outcome, db', hrun, row', hrow', hid, hnone⟩ := h
  unfold purgeBatch at hrun
  split at hrun
  · cases hrun
  · cases hrun
    obtain ⟨old, hold, rfl⟩ := List.mem_map.mp hrow'
    by_cases hcandidate : ((db.candidates limit locked now).map (·.id)).contains old.id = true
    · rw [if_pos hcandidate] at hid
      have hsame : old = row := eq_of_id hold hrow hid
      subst hsame
      obtain ⟨candidate, hcandidate, heq⟩ := List.mem_map.mp (List.contains_iff_mem.mp hcandidate)
      obtain ⟨found, heligible, -, hfound⟩ := mem_candidates hcandidate
      have hthis : found = old := eq_of_id heligible.1 hold (hfound.symm.trans heq)
      exact hthis ▸ heligible
    · rw [if_neg hcandidate] at hid hnone
      have hsame : old = row := eq_of_id hold hrow hid
      rw [hsame] at hnone
      simp [hnone] at hpayload

/-- A query that takes at least one row has a candidate when a row is eligible and not locked. -/
theorem candidates_of {registry : SyncedRegistry} (hrow : row ∈ db.inbox) (hregistry : registry ∈ db.registry)
    (hjoins : db.joins now row registry = true) (hlocked : row.id ∉ locked) (hlimit : 1 ≤ limit) :
    ∃ candidate, candidate ∈ db.candidates limit locked now := by
  apply List.exists_mem_of_ne_nil
  unfold CleanupDatabase.candidates
  rw [ne_eq, List.take_eq_nil_iff, not_or]
  refine ⟨by omega, fun hnil => ?_⟩
  have hmem : CleanupDatabase.candidateOf row registry ∈ ([] : List CleanupDatabase.Candidate) := by
    rw [← hnil, List.mem_insertionSort, List.mem_flatMap]
    refine ⟨row, hrow, ?_⟩
    rw [if_neg (by simpa using hlocked)]
    exact List.mem_map_of_mem (List.mem_filter.mpr ⟨hregistry, hjoins⟩)
  cases hmem

/-- All rows but one. -/
def otherIds (db : CleanupDatabase) (row : RetainedInbox) : List Uuid := (db.inbox.map (·.id)).filter (· != row.id)

/-- A run that finds all other rows locked clears an eligible one. -/
theorem Eligible.clears (h : Eligible db now row) : Clears db 1 (otherIds db row) now row := by
  have hpayload := RetainedInbox.isDue_payload h.isDue
  obtain ⟨hrow, registry, hregistry, hjoins⟩ := h
  have hlocked : row.id ∉ otherIds db row := by simp [otherIds]
  obtain ⟨candidate, hcandidate⟩ := candidates_of hrow hregistry hjoins hlocked (le_refl 1)
  obtain ⟨other, heligible, hother, hid⟩ := mem_candidates hcandidate
  -- every other row is locked
  have hsame : other.id = row.id := by
    by_contra hne
    refine hother (List.mem_filter.mpr ⟨List.mem_map_of_mem heligible.1, ?_⟩)
    simpa using hne
  refine ⟨hrow, hpayload, _, _, rfl, row.purged now, ?_, rfl, rfl⟩
  refine List.mem_map.mpr ⟨row, hrow, if_pos ?_⟩
  exact List.contains_iff_mem.mpr (List.mem_map.mpr ⟨candidate, hcandidate, hid.trans hsame⟩)

theorem clears_iff : (∃ limit locked, Clears db limit locked now row) ↔ Eligible db now row :=
  ⟨fun ⟨_, _, h⟩ => h.eligible, fun h => ⟨1, otherIds db row, h.clears⟩⟩

end Clears

/-! ## Applications -/

namespace CleanupDatabase

variable (db : CleanupDatabase)

/-- The registry row of the application's event is synced. -/
def SyncedFor (applicationId : Uuid) (eventId : String) : Prop :=
  ∃ registry ∈ db.registry, registry.applicationId = applicationId ∧ registry.eventId = eventId ∧
    registry.clickhouseRawSyncedAt.isSome = true

/-- An open dead letter or an open difference of the application names the event. -/
def NamedFor (applicationId : Uuid) (eventId : String) : Prop :=
  (∃ deadLetter ∈ db.deadLetters, deadLetter.applicationId = applicationId ∧ deadLetter.eventId = some eventId ∧
      deadLetter.isOpen = true) ∨
    ∃ diff ∈ db.diffs, diff.isOpen = true ∧ diff.samples eventId = true ∧
      ∃ run ∈ db.runs, run.id = diff.runId ∧ run.applicationId = applicationId

/-- What lets the payload of a row go: the event is completed and its retention has elapsed, its
    own registry row is synced, and nothing of its application that is open names it. -/
structure Purgeable (now : Int) (row : RetainedInbox) : Prop where
  due : row.isDue now = true
  synced : db.SyncedFor row.applicationId row.eventId
  unnamed : ¬db.NamedFor row.applicationId row.eventId

/-- What the rows of other applications say of the due events, those of their own application
    say too. -/
structure Separate (now : Int) : Prop where
  synced : ∀ row ∈ db.inbox, row.isDue now = true → (∀ applicationId, ¬db.NamedFor applicationId row.eventId) →
    ∀ applicationId, db.SyncedFor applicationId row.eventId → db.SyncedFor row.applicationId row.eventId
  named : ∀ row ∈ db.inbox, row.isDue now = true → db.SyncedFor row.applicationId row.eventId →
    ∀ applicationId, db.NamedFor applicationId row.eventId → db.NamedFor row.applicationId row.eventId

variable {db} {now : Int} {row : RetainedInbox}

theorem isNamed_iff {eventId : String} : db.isNamed eventId = true ↔ ∃ applicationId, db.NamedFor applicationId eventId := by
  simp only [isNamed, Bool.or_eq_true, List.any_eq_true, Bool.and_eq_true, beq_iff_eq]
  constructor
  · rintro (⟨deadLetter, hmem, hevent, hopen⟩ | ⟨diff, hmem, hopen, hsamples⟩)
    · exact ⟨deadLetter.applicationId, .inl ⟨deadLetter, hmem, rfl, hevent, hopen⟩⟩
    · obtain ⟨run, hrun, hid⟩ := db.ran diff hmem
      exact ⟨run.applicationId, .inr ⟨diff, hmem, hopen, hsamples, run, hrun, hid, rfl⟩⟩
  · rintro ⟨applicationId, ⟨deadLetter, hmem, -, hevent, hopen⟩ | ⟨diff, hmem, hopen, hsamples, -⟩⟩
    · exact .inl ⟨deadLetter, hmem, hevent, hopen⟩
    · exact .inr ⟨diff, hmem, hopen, hsamples⟩

/-- The query asks whether any application's rows sync the event, and none's names it. -/
theorem eligible_iff : Eligible db now row ↔ row ∈ db.inbox ∧ row.isDue now = true ∧
    (∃ applicationId, db.SyncedFor applicationId row.eventId) ∧ ∀ applicationId, ¬db.NamedFor applicationId row.eventId := by
  have hnamed : (!db.isNamed row.eventId) = true ↔ ∀ applicationId, ¬db.NamedFor applicationId row.eventId := by
    rw [Bool.not_eq_true', ← Bool.not_eq_true, isNamed_iff, not_exists]
  constructor
  · rintro ⟨hrow, registry, hregistry, hjoins⟩
    simp only [joins, Bool.and_eq_true, beq_iff_eq] at hjoins
    obtain ⟨⟨⟨hevent, hdue⟩, hsynced⟩, hunnamed⟩ := hjoins
    exact ⟨hrow, hdue, ⟨registry.applicationId, registry, hregistry, rfl, hevent, hsynced⟩, hnamed.mp hunnamed⟩
  · rintro ⟨hrow, hdue, ⟨applicationId, registry, hregistry, -, hevent, hsynced⟩, hunnamed⟩
    refine ⟨hrow, registry, hregistry, ?_⟩
    simp only [joins, Bool.and_eq_true, beq_iff_eq]
    exact ⟨⟨⟨hevent, hdue⟩, hsynced⟩, hnamed.mpr hunnamed⟩

end CleanupDatabase

/-- A cleanup clears what the rows of the application itself let go, and can clear all of it,
    when those of the other applications say nothing else. -/
theorem purge_respects_iff (db : CleanupDatabase) (now : Int) :
    ((∀ limit locked row, Clears db limit locked now row → db.Purgeable now row) ∧
        ∀ row ∈ db.inbox, db.Purgeable now row → ∃ limit locked, Clears db limit locked now row) ↔
      db.Separate now := by
  constructor
  · rintro ⟨honly, hall⟩
    constructor
    · intro row hrow hdue hunnamed applicationId hsynced
      have heligible : Eligible db now row :=
        CleanupDatabase.eligible_iff.mpr ⟨hrow, hdue, ⟨applicationId, hsynced⟩, hunnamed⟩
      exact (honly 1 (otherIds db row) row heligible.clears).synced
    · intro row hrow hdue hsynced applicationId hnamed
      by_contra hunnamed
      have heligible : Eligible db now row := clears_iff.mp (hall row hrow ⟨hdue, hsynced, hunnamed⟩)
      exact (CleanupDatabase.eligible_iff.mp heligible).2.2.2 applicationId hnamed
  · intro h
    constructor
    · intro limit locked row hclears
      obtain ⟨hrow, hdue, ⟨applicationId, hsynced⟩, hunnamed⟩ := CleanupDatabase.eligible_iff.mp hclears.eligible
      exact ⟨hdue, h.synced row hrow hdue hunnamed applicationId hsynced, hunnamed row.applicationId⟩
    · intro row hrow hpurgeable
      refine clears_iff.mpr (CleanupDatabase.eligible_iff.mpr ⟨hrow, hpurgeable.due, ⟨_, hpurgeable.synced⟩, ?_⟩)
      intro applicationId hnamed
      exact hpurgeable.unnamed (h.named row hrow hpurgeable.due hpurgeable.synced applicationId hnamed)

/-! ## Two applications with one event id -/

namespace SharedEvent

def event : UsageEvent := ⟨"evt-1", "user-1", none, none, none, none, "fast", 0, []⟩

def inboxOf (id applicationId : Uuid) : RetainedInbox :=
  { id, applicationId, eventId := "evt-1", payload := some event, status := .completed, stage := .completed,
    attemptCount := 1, availableAt := 0, nextRetryAt := none, leaseOwner := none, leaseExpiresAt := none,
    replayIntentJson := .null, payloadBytes := 512, payloadPurgeAfter := some 10, payloadPurgedAt := none }

def registryOf (applicationId : Uuid) (clickhouseRawSyncedAt : Option Int) : SyncedRegistry :=
  { applicationId, eventId := "evt-1", applicationUserId := 5, reservationId := none, payloadHash := "hash",
    clickhouseRawSyncedAt }

/-- The event of the first application waits for its delivery, that of the second has it. -/
def unsynced : CleanupDatabase where
  inbox := [inboxOf 1 1]
  registry := [registryOf 1 none, registryOf 2 (some 5)]
  deadLetters := []
  runs := []
  diffs := []
  auditLogs := []
  inbox_ids := by decide
  inbox_events := by decide
  registry_events := by decide
  registered := by simp [inboxOf, registryOf]
  run_ids := by decide
  ran := by simp

/-- The event of the first application is done with, that of the second is in an open
    difference. -/
def investigated : CleanupDatabase where
  inbox := [inboxOf 1 1, inboxOf 2 2]
  registry := [registryOf 1 (some 5), registryOf 2 (some 5)]
  deadLetters := []
  runs := [⟨7, 2⟩]
  diffs := [⟨7, .investigating, .array [.string "evt-1"]⟩]
  auditLogs := []
  inbox_ids := by decide
  inbox_events := by decide
  registry_events := by decide
  registered := by simp [inboxOf, registryOf]
  run_ids := by decide
  ran := by simp

theorem unsynced_cleared : Clears unsynced 500 [] 10 (inboxOf 1 1) :=
  ⟨List.mem_cons_self, rfl, _, _, rfl, (inboxOf 1 1).purged 10, List.mem_cons_self, rfl, rfl⟩

/-- The cleanup takes a payload that is not delivered, and keeps one of which nothing is open. -/
theorem foreign_rows_decide :
    (Clears unsynced 500 [] 10 (inboxOf 1 1) ∧ ¬unsynced.Purgeable 10 (inboxOf 1 1)) ∧
      investigated.Purgeable 10 (inboxOf 1 1) ∧ ∀ limit locked, ¬Clears investigated limit locked 10 (inboxOf 1 1) := by
  refine ⟨⟨unsynced_cleared, ?_⟩, ⟨rfl, ?_, ?_⟩, ?_⟩
  · rintro ⟨-, ⟨registry, hregistry, happlication, -, hsynced⟩, -⟩
    simp only [unsynced, List.mem_cons, List.not_mem_nil, or_false] at hregistry
    rcases hregistry with rfl | rfl
    · cases hsynced
    · exact absurd happlication (by decide)
  · exact ⟨registryOf 1 (some 5), List.mem_cons_self, rfl, rfl, rfl⟩
  · rintro (⟨deadLetter, hdead, -⟩ | ⟨diff, -, -, -, run, hrun, -, happlication⟩)
    · cases hdead
    · simp only [investigated, List.mem_cons, List.not_mem_nil, or_false] at hrun
      subst hrun
      exact absurd happlication (by decide)
  · intro limit locked hclears
    have hunnamed := (CleanupDatabase.eligible_iff.mp hclears.eligible).2.2.2 2
    exact hunnamed (.inr ⟨_, List.mem_cons_self, rfl, by decide, ⟨7, 2⟩, List.mem_cons_self, rfl, rfl⟩)

end SharedEvent

end TokenPilot.Pipeline
