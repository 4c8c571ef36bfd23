/-
  TokenPilot.Operations.IngestionAnswers — what the calls of `ingest` answer.

  - `classified_later`: an event that is sent again is a duplicate when its payload is the stored
    one up to the order of its keys, and a conflict when it is not.
  - `answers_complete`: a call that has come to its end has one answer for each of its events, in
    their order, and the four counts add up.
  - `ingestion_idempotent`: as long as the database is up, every event that is written fits its columns,
    and no unique key but the event's is violated, no call fails, none is stuck, and every event
    has its one answer. The schema of an event does not see to its columns: a user id of spaces
    passes it and fails the check of the user's row, and with it the whole request
    (`blank_user_fails`).

  A digest that gives two payloads one hash would make a conflict a duplicate, so what is said of
  payloads is said of a digest that tells the two apart.
-/

import TokenPilot.Operations.Ingestion
import TokenPilot.Runtime.SpoolDelivery

namespace TokenPilot.Operations

open Library
open TokenPilot.Management (PropertyDefinition)
open TokenPilot.Runtime (Value canonical stringify usageEventSchema uuidShape sampleUsageEvent firstEventId)

/-! ## Later answers -/

section Later

variable {service : IngestionService}

theorem same_row {registry : List UsageEventRegistry} (hregistered : (registry.map UsageEventRegistry.key).Nodup)
    {row other : UsageEventRegistry} (hrow : row ∈ registry) (hother : other ∈ registry) (hkey : row.key = other.key) :
    row = other :=
  List.inj_on_of_nodup_map hregistered hrow hother hkey

/-- The answer is by the hash of the row. -/
def ByHash (row : UsageEventRegistry) (answer : IngestAnswer) : Prop :=
  ∃ hash, answer.payloadHash = some hash ∧
    answer.result.status = if row.payloadHash = hash then .duplicate else .conflict

/-- An answer for an event that is there, and was not accepted by it. -/
theorem Ingested.byHash {s : IngestionStore} (h : Ingested service s) {row : UsageEventRegistry} (hrow : row ∈ s.registry)
    {answer : IngestAnswer} (hanswer : answer ∈ s.answers) (hkey : answer.key = (row.applicationId, some row.eventId))
    (hrejected : answer.result.status ≠ .rejected) (haccepted : answer.result.status ≠ .accepted) : ByHash row answer := by
  have hanswered := h.answered answer hanswer
  have hsame : ∀ other ∈ s.registry, (other.applicationId, some other.eventId) = answer.key → other = row := by
    intro other hother hotherKey
    exact same_row h.registered hother hrow (some_key_iff.mp (hotherKey.trans hkey))
  unfold Answered at hanswered
  split at hanswered
  · exact absurd ‹_› hrejected
  · exact absurd ‹_› haccepted
  · rename_i hstatus
    obtain ⟨other, hother, hotherKey, hhash⟩ := hanswered
    cases hsame other hother hotherKey
    exact ⟨_, hhash, by rw [if_pos rfl, hstatus]⟩
  · rename_i hstatus
    obtain ⟨other, hother, hotherKey, hash, hhash, hne⟩ := hanswered
    cases hsame other hother hotherKey
    exact ⟨hash, hhash, by rw [if_neg hne, hstatus]⟩

/-- An answer that a move adds is an acceptance only of an event that was not there. -/
theorem moves_accept {s s' : IngestionStore} (h : Moves service s s') {answer : IngestAnswer} (hanswer : answer ∈ s'.answers)
    (hnew : answer ∉ s.answers) (haccepted : answer.result.status = .accepted) :
    ∀ row ∈ s.registry, answer.key ≠ (row.applicationId, some row.eventId) := by
  have hlast {more : IngestAnswer} (hmem : answer ∈ s.answers ++ [more]) : answer = more :=
    List.mem_singleton.mp ((List.mem_append.mp hmem).resolve_left hnew)
  cases h with
  | begins _ _ _ => exact absurd hanswer hnew
  | rejects _ _ _ hinvalid =>
    cases hlast hanswer
    rw [(validateEvent_error hinvalid).1] at haccepted
    cases haccepted
  | finds _ _ _ _ _ =>
    cases hlast hanswer
    rw [itemResult_status] at haccepted
    exact absurd haccepted statusForExisting_ne.1
  | misses _ _ _ _ => exact absurd hanswer hnew
  | accepts _ _ hfind =>
    cases hlast hanswer
    intro row hrow hkey
    simp only [IngestAnswer.key, itemResult_eventId] at hkey
    exact find_none hfind row hrow (some_key_iff.mp hkey.symm)
  | loses _ _ _ => exact absurd hanswer hnew
  | yields _ _ => exact absurd hanswer hnew
  | rereads _ _ _ =>
    cases hlast hanswer
    rw [itemResult_status] at haccepted
    exact absurd haccepted statusForExisting_ne.1
  | fails _ => exact absurd hanswer hnew

/-- What is said of an event that is there, after `old`. -/
def LaterByHash (service : IngestionService) (old s : IngestionStore) : Prop :=
  Ingested service s ∧ Grows old s ∧ ∀ row ∈ old.registry, ∀ answer ∈ s.answers, answer ∉ old.answers →
    answer.key = (row.applicationId, some row.eventId) → answer.result.status ≠ .rejected → ByHash row answer

theorem laterByHash_step {old s s' : IngestionStore} (hs : LaterByHash service old s) (h : Moves service s s') :
    LaterByHash service old s' := by
  obtain ⟨hingested, hgrows, hlater⟩ := hs
  have hingested' := ingested_step hingested h
  have hgrows' := moves_grow h
  refine ⟨hingested', hgrows.trans hgrows', ?_⟩
  intro row hrow answer hanswer hnew hkey hrejected
  have hrow' := hgrows.registry.subset hrow
  by_cases hold : answer ∈ s.answers
  · exact hlater row hrow answer hold hnew hkey hrejected
  · refine hingested'.byHash (hgrows'.registry.subset hrow') hanswer hkey hrejected ?_
    exact fun haccepted => moves_accept h hanswer hold haccepted row hrow' hkey

/-- Once an event is there, every later answer for its id is by the hash of its row. -/
theorem later_byHash (acts more : List IngestAct) :
    LaterByHash service ((ingestionMachine service).run .empty acts) ((ingestionMachine service).run .empty (acts ++ more)) := by
  rw [Machine.run_append]
  refine moves_invariant (P := LaterByHash service _) (fun _ _ => laterByHash_step) more ⟨ingestion_once acts, .refl _, ?_⟩
  exact fun _ _ answer hanswer hnew => absurd hanswer hnew

/-- A resent event is a duplicate if its payload is the stored one up to the order of keys, and a
    conflict if it is not, as long as the digest tells these two payloads apart. -/
theorem classified_later (acts more : List IngestAct) {row : UsageEventRegistry} {inbox : IngestionInbox}
    (hrow : (row, inbox) ∈ ((ingestionMachine service).run .empty acts).registry.zip
      ((ingestionMachine service).run .empty acts).inbox)
    {answer : IngestAnswer} (hanswer : answer ∈ ((ingestionMachine service).run .empty (acts ++ more)).answers)
    (hnew : answer ∉ ((ingestionMachine service).run .empty acts).answers)
    (hkey : answer.key = (row.applicationId, some row.eventId)) {event : Value}
    (hevent : answer.payloadHash = some (service.digest (canonical event))) (hdistinct : inbox.payload.Distinct)
    (hdigest : service.digest (canonical inbox.payload) = service.digest (canonical event) →
      canonical inbox.payload = canonical event) :
    (answer.result.status = .duplicate ↔ Json.KeyOrder inbox.payload event) ∧
      (answer.result.status = .conflict ↔ ¬Json.KeyOrder inbox.payload event) := by
  obtain ⟨applicationId, input, hchecked, hregistry, hinbox⟩ :=
    (List.forall₂_iff_zip.mp (ingestion_once acts).together).2 hrow
  obtain ⟨hingested, -, hlater⟩ := later_byHash acts more
  have hrejected : answer.result.status ≠ .rejected := by
    intro hstatus
    have hanswered := hingested.answered answer hanswer
    simp only [Answered, hstatus, hevent, reduceCtorEq] at hanswered
  obtain ⟨hash, hhash, hstatus⟩ := hlater row (List.of_mem_zip hrow).1 answer hanswer hnew hkey hrejected
  have hsame : row.payloadHash = hash ↔ Json.KeyOrder inbox.payload event := by
    rw [hevent, Option.some.injEq] at hhash
    rw [← hhash, ← Runtime.canonical_iff hdistinct]
    have hrowHash : row.payloadHash = service.digest (canonical inbox.payload) := by
      rw [hregistry, hinbox]
      exact hchecked.hash
    rw [hrowHash]
    exact ⟨hdigest, fun h => congrArg service.digest h⟩
  rw [hstatus, ← hsame]
  by_cases h : row.payloadHash = hash
  · simp [h]
  · simp [h]

def sampleIngestion : IngestionService := ⟨{}, String.ofList, fun _ => true, fun _ => true, uuidShape⟩

section Batches

variable (event : Value)

def sampleBatch : Value :=
  .obj
    [ ("schema_version", .str "2.0"), ("batch_id", .str "batch_1"), ("sent_at", .str "2026-07-16T00:00:01.000Z"),
      ("events", .arr [event]) ]

def sampleInput : ValidatedUsageEvent := ⟨0, event, sampleIngestion.digest (canonical event)⟩

def firstSending : List IngestAct := [.ingest "app_1" (sampleBatch event) [], .next 0, .commit 0 true]

def secondSending : List IngestAct := [.ingest "app_1" (sampleBatch event) [], .next 1]

variable {event}

theorem sampleBatch_checked
    (hbytes : ¬sampleIngestion.options.maxBatchBytes < byteLength (stringify (sampleBatch event))) :
    checkBatch sampleIngestion.options sampleIngestion.isDateTime (sampleBatch event) = .ok ⟨"batch_1", [event]⟩ := by
  unfold checkBatch
  rw [if_neg hbytes]
  rfl

theorem sampleInput_valid (hschema : usageEventSchema event = true)
    (hproperties : validateEventProperties sampleIngestion.parsesDate event [] = none)
    (hbytes : ¬sampleIngestion.options.maxEventBytes < byteLength (canonical event)) :
    validateEvent sampleIngestion [] 0 (sampleInput event).event = .ok (sampleInput event) := by
  show validateEvent sampleIngestion [] 0 event = _
  unfold validateEvent
  simp only [hschema, hproperties, hbytes, if_true, if_false]
  rfl

end Batches

section Sample

variable (input : ValidatedUsageEvent)

def sampleCall (remaining : List (Value × Nat)) (phase : PersistPhase) : IngestCall :=
  ⟨"app_1", ⟨"batch_1", [input.event]⟩, [], remaining, phase⟩

/-- The store once the first call has returned. -/
def sampleStore : IngestionStore where
  registry := [registryRow "app_1" input]
  inbox := [inboxRow "app_1" input]
  users := [newUser "app_1" input.event]
  calls := [sampleCall input [] .idle]
  answers := [⟨0, "app_1", some input.payloadHash, itemResult input .accepted⟩]

def resentAnswer : IngestAnswer := ⟨1, "app_1", some input.payloadHash, itemResult input .duplicate⟩

variable {input}

theorem begin_finds {service : IngestionService} {s : IngestionStore} {i : Nat} {call : IngestCall} {candidate : Value}
    {index : Nat} {existing : UsageEventRegistry}
    (hvalid : validateEvent service call.definitions index candidate = .ok input)
    (hfind : s.find call.applicationId input.eventId = some existing) :
    s.begin service i call candidate index = s.answer i call (some input.payloadHash)
      (itemResult input (statusForExisting existing input.payloadHash)) := by
  simp only [IngestionStore.begin, hvalid, hfind]

theorem sample_misses (hvalid : validateEvent sampleIngestion [] 0 input.event = .ok input) :
    (⟨[], [], [], [sampleCall input [(input.event, 0)] .idle], []⟩ : IngestionStore).act sampleIngestion (.next 0) =
      .ok ((), ⟨[], [], [], [sampleCall input [] (.creating input)], []⟩) := by
  show Except.ok ((), IngestionStore.begin _ sampleIngestion 0 (sampleCall input [] .idle) _ _) = _
  simp only [IngestionStore.begin, sampleCall, hvalid]
  rfl

theorem sample_accepts (hrow : rowFits sampleIngestion input.event = true) (hinbox : nulFree input.event = true) :
    (⟨[], [], [], [sampleCall input [] (.creating input)], []⟩ : IngestionStore).act sampleIngestion (.commit 0 true) =
      .ok ((), sampleStore input) := by
  show Except.ok ((), IngestionStore.commit _ sampleIngestion 0 (sampleCall input [] (.creating input)) input true) = _
  simp only [IngestionStore.commit, hrow, hinbox, Bool.not_true, Bool.false_eq_true, if_false]
  rfl

theorem sample_fails (hrow : rowFits sampleIngestion input.event = false) :
    (⟨[], [], [], [sampleCall input [] (.creating input)], []⟩ : IngestionStore).act sampleIngestion (.commit 0 true) =
      .ok ((), ⟨[], [], [], [sampleCall input [] .failed], []⟩) := by
  show Except.ok ((), IngestionStore.commit _ sampleIngestion 0 (sampleCall input [] (.creating input)) input true) = _
  simp only [IngestionStore.commit, hrow, Bool.not_false, if_true]
  rfl

theorem sample_finds (hvalid : validateEvent sampleIngestion [] 0 input.event = .ok input) :
    ({ sampleStore input with calls := [sampleCall input [] .idle, sampleCall input [(input.event, 0)] .idle] } :
        IngestionStore).act sampleIngestion (.next 1) =
      .ok ((), { sampleStore input with
        calls := [sampleCall input [] .idle, sampleCall input [] .idle]
        answers := (sampleStore input).answers ++ [resentAnswer input] }) := by
  have hfind : IngestionStore.find
      { sampleStore input with calls := [sampleCall input [] .idle, sampleCall input [(input.event, 0)] .idle] }
      "app_1" input.eventId = some (registryRow "app_1" input) := by
    simp [IngestionStore.find, sampleStore, registryRow]
  have hstatus : statusForExisting (registryRow "app_1" input) input.payloadHash = .duplicate := if_pos rfl
  have hbegin : IngestionStore.begin _ sampleIngestion 1 (sampleCall input [] .idle) input.event 0 = _ :=
    begin_finds hvalid hfind
  rw [hstatus] at hbegin
  exact congrArg (fun s => Except.ok ((), s)) hbegin

end Sample

theorem ingestion_step {service : IngestionService} {s s' : IngestionStore} {a : IngestAct}
    (h : s.act service a = .ok ((), s')) : (ingestionMachine service).step s a = s' :=
  Machine.step_of_ok _ h

theorem sampleBatch_begins {event : Value}
    (hbytes : ¬sampleIngestion.options.maxBatchBytes < byteLength (stringify (sampleBatch event))) (s : IngestionStore) :
    (ingestionMachine sampleIngestion).step s (.ingest "app_1" (sampleBatch event) []) =
      { s with calls := s.calls ++ [sampleCall (sampleInput event) [(event, 0)] .idle] } := by
  refine ingestion_step ?_
  have hdefinitions : propertyDefinitions [] [event] = [] := by
    simp only [propertyDefinitions, List.filter_nil, ite_self]
  simp only [IngestionStore.act, sampleBatch_checked hbytes, hdefinitions]
  rfl

/-- The event of the sample as it is validated. -/
abbrev sentInput : ValidatedUsageEvent := sampleInput (sampleUsageEvent firstEventId)

theorem sent_begins (s : IngestionStore) :
    (ingestionMachine sampleIngestion).step s (.ingest "app_1" (sampleBatch (sampleUsageEvent firstEventId)) []) =
      { s with calls := s.calls ++ [sampleCall sentInput [(sentInput.event, 0)] .idle] } :=
  sampleBatch_begins (by decide +kernel) s

theorem sent_valid : validateEvent sampleIngestion [] 0 sentInput.event = .ok sentInput :=
  sampleInput_valid (by decide +kernel) rfl (by decide +kernel)

theorem sent_fits : rowFits sampleIngestion sentInput.event = true ∧ nulFree sentInput.event = true := by
  constructor
  · decide +kernel
  · decide +kernel

theorem sent_created :
    (ingestionMachine sampleIngestion).run .empty
        [.ingest "app_1" (sampleBatch (sampleUsageEvent firstEventId)) [], .next 0] =
      ⟨[], [], [], [sampleCall sentInput [] (.creating sentInput)], []⟩ := by
  have hbegins : (ingestionMachine sampleIngestion).step .empty
      (.ingest "app_1" (sampleBatch (sampleUsageEvent firstEventId)) []) =
      ⟨[], [], [], [sampleCall sentInput [(sentInput.event, 0)] .idle], []⟩ := sent_begins _
  rw [Machine.run_cons, hbegins, Machine.run_cons, ingestion_step (sample_misses sent_valid), Machine.run_nil]

theorem sent_steps : firstSending (sampleUsageEvent firstEventId) =
    [.ingest "app_1" (sampleBatch (sampleUsageEvent firstEventId)) [], .next 0] ++ [.commit 0 true] := rfl

theorem firstSending_run :
    (ingestionMachine sampleIngestion).run .empty (firstSending (sampleUsageEvent firstEventId)) =
      sampleStore sentInput := by
  rw [sent_steps, Machine.run_append, sent_created, Machine.run_cons,
    ingestion_step (sample_accepts sent_fits.1 sent_fits.2), Machine.run_nil]

/-- The store once the event has been sent again. -/
def resentStore (input : ValidatedUsageEvent) : IngestionStore :=
  { sampleStore input with
    calls := [sampleCall input [] .idle, sampleCall input [] .idle]
    answers := (sampleStore input).answers ++ [resentAnswer input] }

theorem secondSending_run :
    (ingestionMachine sampleIngestion).run .empty
        (firstSending (sampleUsageEvent firstEventId) ++ secondSending (sampleUsageEvent firstEventId)) =
      resentStore sentInput := by
  have hbegins : (ingestionMachine sampleIngestion).step (sampleStore sentInput)
      (.ingest "app_1" (sampleBatch (sampleUsageEvent firstEventId)) []) =
      { sampleStore sentInput with
        calls := [sampleCall sentInput [] .idle, sampleCall sentInput [(sentInput.event, 0)] .idle] } := sent_begins _
  rw [Machine.run_append, firstSending_run, secondSending, Machine.run_cons, hbegins, Machine.run_cons,
    ingestion_step (sample_finds sent_valid), Machine.run_nil]
  rfl

theorem sampleUsageEvent_distinct : (sampleUsageEvent firstEventId).Distinct := by
  simp [sampleUsageEvent, Runtime.integer, Json.Distinct, Json.DistinctFields]

/-- An event that is sent once more is a duplicate. -/
theorem resent_duplicate :
    ((resentAnswer sentInput).result.status = .duplicate ↔
        Json.KeyOrder (sampleUsageEvent firstEventId) (sampleUsageEvent firstEventId)) ∧
      ((resentAnswer sentInput).result.status = .conflict ↔
        ¬Json.KeyOrder (sampleUsageEvent firstEventId) (sampleUsageEvent firstEventId)) := by
  have hrow : (registryRow "app_1" sentInput, inboxRow "app_1" sentInput) ∈
      ((ingestionMachine sampleIngestion).run .empty (firstSending (sampleUsageEvent firstEventId))).registry.zip
        ((ingestionMachine sampleIngestion).run .empty (firstSending (sampleUsageEvent firstEventId))).inbox := by
    rw [firstSending_run]
    exact List.mem_singleton_self _
  have hanswer : resentAnswer sentInput ∈
      ((ingestionMachine sampleIngestion).run .empty
        (firstSending (sampleUsageEvent firstEventId) ++ secondSending (sampleUsageEvent firstEventId))).answers := by
    rw [secondSending_run]
    exact List.mem_append_right (sampleStore sentInput).answers (List.mem_singleton_self _)
  have hnew : resentAnswer sentInput ∉
      ((ingestionMachine sampleIngestion).run .empty (firstSending (sampleUsageEvent firstEventId))).answers := by
    rw [firstSending_run]
    intro h
    have hcall := congrArg IngestAnswer.call (List.mem_singleton.mp h)
    cases hcall
  have hkey : (resentAnswer sentInput).key =
      ((registryRow "app_1" sentInput).applicationId, some (registryRow "app_1" sentInput).eventId) := by
    rw [IngestAnswer.key, resentAnswer, itemResult_eventId]
    rfl
  exact classified_later _ _ hrow hanswer hnew hkey rfl sampleUsageEvent_distinct fun _ => rfl

end Later

/-! ## The answers of a call -/

structure UsageBatchResponse where
  batchId : String
  accepted : Nat
  duplicates : Nat
  conflicts : Nat
  rejected : Nat
  results : List UsageIngestionItemResult

namespace IngestionStore

variable (s : IngestionStore)

def answersOf (i : Nat) : List IngestAnswer := s.answers.filter (·.call = i)

def results (i : Nat) : List UsageIngestionItemResult := (s.answersOf i).map (·.result)

/-- What a call returns when no event is left. -/
def response (i : Nat) : Option UsageBatchResponse :=
  match s.calls[i]? with
  | some ⟨_, batch, _, [], .idle⟩ => some {
      batchId := batch.batchId
      accepted := (s.results i).countP (·.status = .accepted)
      duplicates := (s.results i).countP (·.status = .duplicate)
      conflicts := (s.results i).countP (·.status = .conflict)
      rejected := (s.results i).countP (·.status = .rejected)
      results := s.results i }
  | _ => none

end IngestionStore

section Answers

variable {service : IngestionService} {s s' : IngestionStore} {i : Nat} {call : IngestCall}

/-- The answer for an event: its rejection, or what its transaction found. -/
def Settles (service : IngestionService) (definitions : List PropertyDefinition) (candidate : Value × Nat)
    (answer : IngestAnswer) : Prop :=
  match validateEvent service definitions candidate.2 candidate.1 with
  | .error result => answer.result = result ∧ answer.payloadHash = none
  | .ok input => answer.payloadHash = some input.payloadHash ∧
      ∃ status, status ≠ .rejected ∧ answer.result = itemResult input status

theorem Settles.index {definitions : List PropertyDefinition} {candidate : Value × Nat} {answer : IngestAnswer}
    (h : Settles service definitions candidate answer) : answer.result.index = candidate.2 := by
  unfold Settles at h
  split at h
  · rename_i hinvalid
    rw [h.1]
    exact (validateEvent_error hinvalid).2
  · rename_i hvalid
    obtain ⟨-, status, -, hresult⟩ := h
    rw [hresult, itemResult_index]
    exact (validateEvent_ok hvalid).2.1

theorem settled_indices {definitions : List PropertyDefinition} {candidates : List (Value × Nat)}
    {answers : List IngestAnswer} (h : List.Forall₂ (Settles service definitions) candidates answers) :
    answers.map (fun answer => answer.result.index) = candidates.map Prod.snd := by
  induction h with
  | nil => rfl
  | cons hsettles _ ih => rw [List.map_cons, List.map_cons, hsettles.index, ih]

/-- The event that is begun and not answered. -/
inductive Pending (service : IngestionService) (definitions : List PropertyDefinition) :
    PersistPhase → List (Value × Nat) → Prop
  | idle : Pending service definitions .idle []
  | creating {candidate : Value} {index : Nat} {input : ValidatedUsageEvent} :
      validateEvent service definitions index candidate = .ok input →
      Pending service definitions (.creating input) [(candidate, index)]
  | rereading {candidate : Value} {index : Nat} {input : ValidatedUsageEvent} :
      validateEvent service definitions index candidate = .ok input →
      Pending service definitions (.rereading input) [(candidate, index)]
  | failed {pending : List (Value × Nat)} : Pending service definitions .failed pending

/-- The events of a call are those it has answered, the one it has begun, and those it has not. -/
def Progress (service : IngestionService) (s : IngestionStore) (i : Nat) (call : IngestCall) : Prop :=
  ∃ begun pending, call.batch.events.zipIdx = begun ++ pending ++ call.remaining ∧
    List.Forall₂ (Settles service call.definitions) begun (s.answersOf i) ∧ Pending service call.definitions call.phase pending

structure Proceeding (service : IngestionService) (s : IngestionStore) : Prop where
  calls : ∀ i call, s.calls[i]? = some call → Progress service s i call
  bound : ∀ answer ∈ s.answers, answer.call < s.calls.length

theorem Proceeding.moved (h : Proceeding service s) (hcall : s.calls[i]? = some call) {call' : IngestCall}
    (hcalls : s'.calls = s.calls.set i call') (hothers : ∀ j ≠ i, s'.answersOf j = s.answersOf j)
    (hbound : ∀ answer ∈ s'.answers, answer ∈ s.answers ∨ answer.call = i) (hprogress : Progress service s' i call') :
    Proceeding service s' := by
  have hi : i < s.calls.length := (List.getElem?_eq_some_iff.mp hcall).1
  constructor
  · intro j other hother
    rw [hcalls, List.getElem?_set] at hother
    by_cases hj : i = j
    · subst hj
      rw [if_pos rfl, if_pos hi] at hother
      cases hother
      exact hprogress
    · rw [if_neg hj] at hother
      obtain ⟨begun, pending, hevents, hsettles, hpending⟩ := h.calls j other hother
      exact ⟨begun, pending, hevents, (hothers j (Ne.symm hj)).symm ▸ hsettles, hpending⟩
  · intro answer hanswer
    rw [hcalls, List.length_set]
    rcases hbound answer hanswer with hold | hnew
    · exact h.bound answer hold
    · exact hnew ▸ hi

theorem answersOf_answer (payloadHash : Option String) (result : UsageIngestionItemResult) (j : Nat) :
    (s.answer i call payloadHash result).answersOf j =
      if i = j then s.answersOf j ++ [⟨i, call.applicationId, payloadHash, result⟩] else s.answersOf j := by
  show (s.answers ++ _).filter _ = _
  rw [List.filter_append]
  by_cases hj : i = j
  · simp [hj, IngestionStore.answersOf]
  · simp [hj, IngestionStore.answersOf]

/-- A call that only changes its phase. -/
theorem Proceeding.withCall (h : Proceeding service s) (hcall : s.calls[i]? = some call) {call' : IngestCall}
    (hprogress : Progress service s i call') : Proceeding service (s.withCall i call') :=
  h.moved hcall rfl (fun _ _ => rfl) (fun _ hanswer => .inl hanswer) hprogress

/-- A call that answers the event it has begun. -/
theorem Proceeding.answer (h : Proceeding service s) (hcall : s.calls[i]? = some call)
    {begun rest : List (Value × Nat)} {candidate : Value × Nat}
    (hevents : call.batch.events.zipIdx = begun ++ [candidate] ++ rest)
    (hbegun : List.Forall₂ (Settles service call.definitions) begun (s.answersOf i)) {payloadHash : Option String}
    {result : UsageIngestionItemResult}
    (hsettles : Settles service call.definitions candidate ⟨i, call.applicationId, payloadHash, result⟩) :
    Proceeding service (s.answer i { call with remaining := rest } payloadHash result) := by
  refine h.moved hcall rfl ?_ ?_ ⟨begun ++ [candidate], [], ?_, ?_, .idle⟩
  · intro j hj
    rw [answersOf_answer, if_neg (Ne.symm hj)]
  · intro answer hanswer
    rcases List.mem_append.mp hanswer with hold | hnew
    · exact .inl hold
    · exact .inr (by rw [List.mem_singleton.mp hnew])
  · rw [List.append_nil]
    exact hevents
  · rw [answersOf_answer, if_pos rfl]
    exact List.rel_append hbegun (.cons hsettles .nil)

theorem settles_ok {definitions : List PropertyDefinition} {candidate : Value} {index : Nat} {input : ValidatedUsageEvent}
    (hvalid : validateEvent service definitions index candidate = .ok input) {status : UsageIngestionStatus}
    (hstatus : status ≠ .rejected) {applicationId : String} :
    Settles service definitions (candidate, index)
      ⟨i, applicationId, some input.payloadHash, itemResult input status⟩ := by
  unfold Settles
  rw [hvalid]
  exact ⟨rfl, status, hstatus, rfl⟩

theorem Proceeding.created (h : Proceeding service s) (applicationId : String) (input : ValidatedUsageEvent) :
    Proceeding service (s.created applicationId input) := ⟨h.calls, h.bound⟩

theorem proceeding_step (hs : Proceeding service s) (h : Moves service s s') : Proceeding service s' := by
  cases h with
  | begins applicationId definitions batch =>
    constructor
    · intro j other hother
      rcases Nat.lt_or_ge j s.calls.length with hj | hj
      · rw [List.getElem?_append_left hj] at hother
        exact hs.calls j other hother
      · rw [List.getElem?_append_right hj] at hother
        obtain ⟨hsub, rfl⟩ := List.getElem?_eq_some_iff.mp hother
        have hnone : s.answersOf j = [] := by
          apply List.filter_eq_nil_iff.mpr
          intro answer hanswer
          have := hs.bound answer hanswer
          simp only [decide_eq_true_eq]
          omega
        refine ⟨[], [], ?_, ?_, ?_⟩
        · simp
        · exact hnone.symm ▸ .nil
        · simpa using .idle
    · intro answer hanswer
      have := hs.bound answer hanswer
      simp only [List.length_append, List.length_singleton]
      omega
  | rejects hcall hphase hnext hinvalid =>
    obtain ⟨begun, pending, hevents, hbegun, hpending⟩ := hs.calls _ _ hcall
    rw [hphase] at hpending
    cases hpending
    rw [hnext, List.append_nil, List.append_cons] at hevents
    refine hs.answer hcall hevents hbegun ?_
    unfold Settles
    rw [hinvalid]
    exact ⟨rfl, rfl⟩
  | finds hcall hphase hnext hvalid hfind =>
    obtain ⟨begun, pending, hevents, hbegun, hpending⟩ := hs.calls _ _ hcall
    rw [hphase] at hpending
    cases hpending
    rw [hnext, List.append_nil, List.append_cons] at hevents
    exact hs.answer hcall hevents hbegun (settles_ok hvalid statusForExisting_ne.2)
  | misses hcall hphase hnext hvalid =>
    obtain ⟨begun, pending, hevents, hbegun, hpending⟩ := hs.calls _ _ hcall
    rw [hphase] at hpending
    cases hpending
    refine hs.withCall hcall ⟨begun, [_], ?_, hbegun, .creating hvalid⟩
    simpa [hnext] using hevents
  | accepts hcall hphase hfind =>
    obtain ⟨begun, pending, hevents, hbegun, hpending⟩ := hs.calls _ _ hcall
    rw [hphase] at hpending
    cases hpending with
    | creating hvalid => exact (hs.created _ _).answer hcall hevents hbegun (settles_ok hvalid (by decide))
  | loses hcall hphase hfind =>
    obtain ⟨begun, pending, hevents, hbegun, -⟩ := hs.calls _ _ hcall
    exact (hs.created _ _).withCall hcall ⟨begun, pending, hevents, hbegun, .failed⟩
  | yields hcall hphase =>
    obtain ⟨begun, pending, hevents, hbegun, hpending⟩ := hs.calls _ _ hcall
    rw [hphase] at hpending
    cases hpending with
    | creating hvalid => exact hs.withCall hcall ⟨begun, _, hevents, hbegun, .rereading hvalid⟩
  | rereads hcall hphase hfind =>
    obtain ⟨begun, pending, hevents, hbegun, hpending⟩ := hs.calls _ _ hcall
    rw [hphase] at hpending
    cases hpending with
    | rereading hvalid => exact hs.answer hcall hevents hbegun (settles_ok hvalid statusForExisting_ne.2)
  | fails hcall =>
    obtain ⟨begun, pending, hevents, hbegun, -⟩ := hs.calls _ _ hcall
    exact hs.withCall hcall ⟨begun, pending, hevents, hbegun, .failed⟩

theorem proceeding_run (acts : List IngestAct) : Proceeding service ((ingestionMachine service).run .empty acts) :=
  moves_invariant (fun _ _ => proceeding_step) acts ⟨nofun, nofun⟩

theorem counts_sum (results : List UsageIngestionItemResult) :
    results.countP (·.status = .accepted) + results.countP (·.status = .duplicate) + results.countP (·.status = .conflict) +
      results.countP (·.status = .rejected) = results.length := by
  induction results with
  | nil => rfl
  | cons result rest ih =>
    simp only [List.countP_cons, List.length_cons]
    cases result.status <;> simp <;> omega

/-- A call that returns has an answer for each of its events, in their order: a rejection by the
    event alone, or what its transaction found. -/
theorem answers_complete (acts : List IngestAct) (i : Nat) (response : UsageBatchResponse)
    (h : ((ingestionMachine service).run .empty acts).response i = some response) :
    ∃ call, ((ingestionMachine service).run .empty acts).calls[i]? = some call ∧ response.batchId = call.batch.batchId ∧
      List.Forall₂ (Settles service call.definitions) call.batch.events.zipIdx
        (((ingestionMachine service).run .empty acts).answersOf i) ∧
      response.results = ((ingestionMachine service).run .empty acts).results i ∧
      response.results.map (·.index) = List.range call.batch.events.length ∧
      response.accepted + response.duplicates + response.conflicts + response.rejected = call.batch.events.length := by
  have hproceeding : Proceeding service _ := proceeding_run acts
  generalize (ingestionMachine service).run .empty acts = s at h hproceeding ⊢
  unfold IngestionStore.response at h
  split at h
  · rename_i applicationId batch definitions hcall
    cases h
    obtain ⟨begun, pending, hevents, hbegun, hpending⟩ := hproceeding.calls _ _ hcall
    cases hpending
    simp only [List.append_nil] at hevents
    rw [← hevents] at hbegun
    have hindices : (s.results i).map (·.index) = batch.events.zipIdx.map Prod.snd := by
      unfold IngestionStore.results
      rw [List.map_map]
      exact settled_indices hbegun
    have hlength : (s.results i).length = batch.events.length := by
      have := congrArg List.length hindices
      simpa using this
    refine ⟨_, hcall, rfl, hbegun, rfl, ?_, ?_⟩
    · rw [hindices, List.zipIdx_map_snd, List.range_eq_range']
    · rw [← hlength]
      exact counts_sum _
  · cases h

theorem firstSending_response :
    (sampleStore sentInput).response 0 = some ⟨"batch_1", 1, 0, 0, 0, [itemResult sentInput .accepted]⟩ := by
  simp [IngestionStore.response, IngestionStore.results, IngestionStore.answersOf, sampleStore, sampleCall]

/-- The first sending has the one answer that its event is accepted. -/
theorem firstSending_complete :
    ∃ call,
      ((ingestionMachine sampleIngestion).run .empty (firstSending (sampleUsageEvent firstEventId))).calls[0]? = some call ∧
      List.Forall₂ (Settles sampleIngestion call.definitions) call.batch.events.zipIdx
        (((ingestionMachine sampleIngestion).run .empty (firstSending (sampleUsageEvent firstEventId))).answersOf 0) := by
  have hresponse := firstSending_response
  rw [← firstSending_run] at hresponse
  obtain ⟨call, hcall, -, hsettles, -⟩ := answers_complete _ 0 _ hresponse
  exact ⟨call, hcall, hsettles⟩

end Answers

/-! ## Runs without a failure -/

section Undisturbed

variable {service : IngestionService} {s s' : IngestionStore} {i : Nat} {call : IngestCall}

/-- The database is up, an event that is not there yet fits its columns, and no unique key is
    violated but the event's. -/
def Undisturbed (service : IngestionService) (s : IngestionStore) : IngestAct → Prop
  | .commit i answered => answered = true ∧ ∀ call input, s.calls[i]? = some call → call.phase = .creating input →
      rowFits service input.event = true ∧
        ((s.find call.applicationId input.eventId).isSome = true ∨ nulFree input.event = true)
  | .race i => ∀ call input, s.calls[i]? = some call → call.phase = .creating input →
      (s.find call.applicationId input.eventId).isSome = true
  | .fail _ => False
  | _ => True

/-- No call has failed, and a call that reads again has something to find. -/
structure Running (s : IngestionStore) : Prop where
  running : ∀ call ∈ s.calls, call.phase ≠ .failed
  rereading : ∀ call ∈ s.calls, ∀ input, call.phase = .rereading input →
    (s.find call.applicationId input.eventId).isSome = true

theorem find_kept (h : s.registry <+: s'.registry) {applicationId eventId : String}
    (hfind : (s.find applicationId eventId).isSome = true) : (s'.find applicationId eventId).isSome = true := by
  unfold IngestionStore.find at hfind ⊢
  rw [List.find?_isSome] at hfind ⊢
  obtain ⟨row, hrow, hkey⟩ := hfind
  exact ⟨row, h.subset hrow, hkey⟩

theorem Running.moved (h : Running s) (hregistry : s.registry <+: s'.registry) {call' : IngestCall}
    (hcalls : s'.calls = s.calls.set i call') (hphase : call'.phase ≠ .failed)
    (hfind : ∀ input, call'.phase = .rereading input → (s.find call'.applicationId input.eventId).isSome = true) :
    Running s' := by
  constructor
  · intro other hother
    rw [hcalls] at hother
    rcases List.mem_or_eq_of_mem_set hother with hother | rfl
    · exact h.running other hother
    · exact hphase
  · intro other hother input hinput
    rw [hcalls] at hother
    refine find_kept hregistry ?_
    rcases List.mem_or_eq_of_mem_set hother with hother | rfl
    · exact h.rereading other hother input hinput
    · exact hfind input hinput

/-- A call that answers, after rows were added or none. -/
theorem Running.answer (h : Running s) (hregistry : s.registry <+: s'.registry) (hcalls : s'.calls = s.calls)
    (payloadHash : Option String) (result : UsageIngestionItemResult) : Running (s'.answer i call payloadHash result) := by
  refine h.moved hregistry (congrArg (fun calls => calls.set i { call with phase := .idle }) hcalls) ?_ ?_
  · nofun
  · nofun

theorem begin_running (h : Running s) (candidate : Value) (index : Nat) :
    Running (s.begin service i call candidate index) := by
  unfold IngestionStore.begin
  split
  · exact h.answer List.prefix_rfl rfl _ _
  · split
    · exact h.answer List.prefix_rfl rfl _ _
    · exact h.moved List.prefix_rfl rfl nofun nofun

theorem commit_running (h : Running s) {input : ValidatedUsageEvent} (hrow : rowFits service input.event = true)
    (hinbox : (s.find call.applicationId input.eventId).isSome = true ∨ nulFree input.event = true) :
    Running (s.commit service i call input true) := by
  unfold IngestionStore.commit
  simp only [hrow, Bool.not_true, Bool.false_eq_true, if_false]
  split
  · rename_i hfind
    refine h.moved List.prefix_rfl rfl nofun ?_
    intro other hother
    cases hother
    exact hfind
  · rename_i hfind
    have hnul := hinbox.resolve_left hfind
    have hcreated : s.registry <+: (s.created call.applicationId input).registry := List.prefix_append _ _
    simp only [hnul, Bool.not_true, Bool.false_eq_true, if_false, if_true]
    exact h.answer hcreated rfl _ _

theorem reread_running (h : Running s) {input : ValidatedUsageEvent}
    (hfind : (s.find call.applicationId input.eventId).isSome = true) : Running (s.reread i call input) := by
  obtain ⟨existing, hexisting⟩ := Option.isSome_iff_exists.mp hfind
  simp only [IngestionStore.reread, hexisting]
  exact h.answer List.prefix_rfl rfl _ _

theorem undisturbed_step {a : IngestAct} {o : Unit} (hs : Running s) (hquiet : Undisturbed service s a)
    (h : s.act service a = .ok (o, s')) : Running s' := by
  cases a with
  | ingest applicationId input stored =>
    simp only [IngestionStore.act] at h
    split at h
    · cases h
    · cases h
      constructor
      · intro call hcall
        rcases List.mem_append.mp hcall with hcall | hcall
        · exact hs.running call hcall
        · rw [List.mem_singleton.mp hcall]
          intro hphase
          cases hphase
      · intro call hcall
        rcases List.mem_append.mp hcall with hcall | hcall
        · exact hs.rereading call hcall
        · rw [List.mem_singleton.mp hcall]
          intro input hphase
          cases hphase
  | next i =>
    simp only [IngestionStore.act] at h
    split at h
    · cases h
      exact begin_running hs _ _
    · cases h
  | commit i answered =>
    obtain ⟨rfl, hfits⟩ := hquiet
    simp only [IngestionStore.act] at h
    split at h
    · rename_i hcall
      obtain ⟨hrow, hinbox⟩ := hfits _ _ hcall rfl
      cases h
      exact commit_running hs hrow hinbox
    · cases h
  | race i =>
    simp only [IngestionStore.act] at h
    split at h
    · rename_i hcall
      have hfind := hquiet _ _ hcall rfl
      cases h
      refine hs.moved List.prefix_rfl rfl ?_ ?_
      · intro hphase
        cases hphase
      · intro other hother
        cases hother
        exact hfind
    · cases h
  | reread i =>
    simp only [IngestionStore.act] at h
    split at h
    · rename_i hcall
      have hfind := hs.rereading _ (List.mem_of_getElem? hcall) _ rfl
      cases h
      exact reread_running hs hfind
    · cases h
  | fail i => cases hquiet

/-- How many acts of its own a call makes at most before its end. -/
def IngestCall.work (call : IngestCall) : Nat :=
  3 * call.remaining.length +
    match call.phase with
    | .creating _ => 2
    | .rereading _ => 1
    | _ => 0

/-- The call `i` of `s'` has less to do than `call` had. -/
def Nearer (s' : IngestionStore) (i : Nat) (call : IngestCall) : Prop :=
  ∃ call', s'.calls[i]? = some call' ∧ call'.work < call.work

theorem nearer_set (hcall : s.calls[i]? = some call) {call' : IngestCall} (hcalls : s'.calls = s.calls.set i call')
    (hwork : call'.work < call.work) : Nearer s' i call := by
  refine ⟨call', ?_, hwork⟩
  rw [hcalls, List.getElem?_set_self (List.getElem?_eq_some_iff.mp hcall).1]

theorem begin_nearer {candidate : Value} {index : Nat} {rest : List (Value × Nat)} (hcall : s.calls[i]? = some call)
    (hphase : call.phase = .idle) (hnext : call.remaining = (candidate, index) :: rest) :
    Nearer (s.begin service i { call with remaining := rest } candidate index) i call := by
  have hwork : call.work = 3 * rest.length + 3 := by
    simp only [IngestCall.work, hphase, hnext, List.length_cons]
    omega
  unfold IngestionStore.begin
  split
  · refine nearer_set hcall rfl ?_
    rw [hwork]
    simp only [IngestCall.work]
    omega
  · split
    · refine nearer_set hcall rfl ?_
      rw [hwork]
      simp only [IngestCall.work]
      omega
    · refine nearer_set hcall rfl ?_
      rw [hwork]
      simp only [IngestCall.work]
      omega

theorem commit_nearer {input : ValidatedUsageEvent} (hcall : s.calls[i]? = some call) (hphase : call.phase = .creating input) :
    Nearer (s.commit service i call input true) i call := by
  have hwork : call.work = 3 * call.remaining.length + 2 := by
    simp only [IngestCall.work, hphase]
  unfold IngestionStore.commit
  simp only [if_true]
  split
  · refine nearer_set hcall rfl ?_
    rw [hwork]
    simp only [IngestCall.work]
    omega
  · split
    · refine nearer_set hcall rfl ?_
      rw [hwork]
      simp only [IngestCall.work]
      omega
    · split
      · refine nearer_set hcall rfl ?_
        rw [hwork]
        simp only [IngestCall.work]
        omega
      · refine nearer_set hcall rfl ?_
        rw [hwork]
        simp only [IngestCall.work]
        omega

theorem reread_nearer {input : ValidatedUsageEvent} (hcall : s.calls[i]? = some call) (hphase : call.phase = .rereading input) :
    Nearer (s.reread i call input) i call := by
  have hwork : call.work = 3 * call.remaining.length + 1 := by
    simp only [IngestCall.work, hphase]
  unfold IngestionStore.reread
  split
  · refine nearer_set hcall rfl ?_
    rw [hwork]
    simp only [IngestCall.work]
    omega
  · refine nearer_set hcall rfl ?_
    rw [hwork]
    simp only [IngestCall.work]
    omega

/-- A call that has not come to its end has an act of its own, which brings it nearer to it. -/
def Proceeds (service : IngestionService) (s : IngestionStore) (i : Nat) (call : IngestCall) : Prop :=
  (call.remaining = [] ∧ call.phase = .idle) ∨
    ∃ a ∈ [IngestAct.next i, .commit i true, .reread i], ∃ s', s.act service a = .ok ((), s') ∧ Nearer s' i call

theorem Running.proceeds (h : Running s) (hcall : s.calls[i]? = some call) : Proceeds service s i call := by
  have hrunning := h.running call (List.mem_of_getElem? hcall)
  obtain ⟨applicationId, batch, definitions, remaining, phase⟩ := call
  cases phase with
  | idle =>
    cases remaining with
    | nil => exact .inl ⟨rfl, rfl⟩
    | cons candidate rest =>
      exact .inr ⟨.next i, by simp, _, by simp only [IngestionStore.act, hcall]; rfl, begin_nearer hcall rfl rfl⟩
  | creating input =>
    exact .inr ⟨.commit i true, by simp, _, by simp only [IngestionStore.act, hcall]; rfl, commit_nearer hcall rfl⟩
  | rereading input =>
    exact .inr ⟨.reread i, by simp, _, by simp only [IngestionStore.act, hcall], reread_nearer hcall rfl⟩
  | failed => exact absurd rfl hrunning

/-- An answer for a row: its acceptance, or a duplicate of the stored payload up to the order of
    its keys and a conflict with any other, if the digest tells the two payloads apart. -/
def Classified (service : IngestionService) (s : IngestionStore) : Prop :=
  ∀ row inbox, (row, inbox) ∈ s.registry.zip s.inbox → inbox.payload.Distinct → ∀ answer ∈ s.answers,
    answer.key = (row.applicationId, some row.eventId) → answer.result.status ≠ .rejected → ∀ event,
    answer.payloadHash = some (service.digest (canonical event)) →
    (service.digest (canonical inbox.payload) = service.digest (canonical event) →
      canonical inbox.payload = canonical event) →
    (answer.result.status = .conflict ↔ ¬Json.KeyOrder inbox.payload event) ∧
      (answer.result.status = .accepted ∨ answer.result.status = .duplicate ↔ Json.KeyOrder inbox.payload event)

theorem Ingested.classified (h : Ingested service s) : Classified service s := by
  intro row inbox hrow hdistinct answer hanswer hkey hrejected event hevent hdigest
  obtain ⟨applicationId, input, hchecked, hregistry, hinbox⟩ := (List.forall₂_iff_zip.mp h.together).2 hrow
  have hmem := (List.of_mem_zip hrow).1
  have hrowHash : row.payloadHash = service.digest (canonical inbox.payload) := by
    rw [hregistry, hinbox]
    exact hchecked.hash
  have hsame : some row.payloadHash = answer.payloadHash ↔ Json.KeyOrder inbox.payload event := by
    rw [hevent, Option.some.injEq, ← Runtime.canonical_iff hdistinct, hrowHash]
    exact ⟨hdigest, fun h => congrArg service.digest h⟩
  have hother : ∀ other ∈ s.registry, (other.applicationId, some other.eventId) = answer.key → other = row := by
    intro other hother hotherKey
    exact same_row h.registered hother hmem (some_key_iff.mp (hotherKey.trans hkey))
  have hanswered := h.answered answer hanswer
  rw [← hsame]
  unfold Answered at hanswered
  split at hanswered
  · exact absurd ‹_› hrejected
  · rename_i hstatus
    obtain ⟨other, hmem', hkey', hhash⟩ := hanswered
    rw [hother other hmem' hkey'] at hhash
    simp only [hstatus, ← hhash, reduceCtorEq, not_true, or_false, and_self]
  · rename_i hstatus
    obtain ⟨other, hmem', hkey', hhash⟩ := hanswered
    rw [hother other hmem' hkey'] at hhash
    simp only [hstatus, ← hhash, reduceCtorEq, not_true, false_or, and_self]
  · rename_i hstatus
    obtain ⟨other, hmem', hkey', hash, hhash, hne⟩ := hanswered
    rw [hother other hmem' hkey'] at hne
    simp only [hstatus, hhash, Option.some.injEq, hne, reduceCtorEq, not_false_eq_true, or_self, and_self]

/-- What is promised of every state: each event of a call that has begun has its one result, in
    order; rows and acceptances are one for an event id; later answers are by the payload; no call
    has failed, and none is stuck. -/
structure Idempotent (service : IngestionService) (s : IngestionStore) : Prop where
  results : Proceeding service s
  rows : Ingested service s
  classified : Classified service s
  running : ∀ call ∈ s.calls, call.phase ≠ .failed
  total : ∀ i call, s.calls[i]? = some call → Proceeds service s i call

/-- Every run that nothing disturbs and in which every event that is written fits its columns. -/
theorem ingestion_idempotent (acts : List IngestAct)
    (h : (ingestionMachine service).Guarded (Undisturbed service) .empty acts) :
    Idempotent service ((ingestionMachine service).run .empty acts) := by
  have hrunning : Running ((ingestionMachine service).run .empty acts) :=
    Machine.guarded_invariant (P := Running) (fun _ _ _ _ hs hquiet hact => undisturbed_step hs hquiet hact) acts _
      ⟨nofun, nofun⟩ h
  have hingested : Ingested service _ := ingestion_once acts
  exact ⟨proceeding_run acts, hingested, hingested.classified, hrunning.running, fun _ _ => hrunning.proceeds⟩

/-- The sample with another user. -/
def userEvent (userId : String) : Value :=
  match sampleUsageEvent firstEventId with
  | .obj fields =>
    .obj (fields.map fun field => if field.1 = "user" then ("user", .obj [("user_id", .str userId)]) else field)
  | v => v

/-- The sample is sent twice, and then another payload under its id. -/
def conflictingSendings : List IngestAct :=
  firstSending (sampleUsageEvent firstEventId) ++ secondSending (sampleUsageEvent firstEventId) ++
    [.ingest "app_1" (sampleBatch (userEvent "user-2")) [], .next 2]

def conflictAnswer : IngestAnswer :=
  ⟨2, "app_1", some (sampleInput (userEvent "user-2")).payloadHash, itemResult (sampleInput (userEvent "user-2")) .conflict⟩

/-- The store when the call with the other payload has begun. -/
def conflictingStore : IngestionStore :=
  { resentStore sentInput with
    calls := (resentStore sentInput).calls ++
      [sampleCall (sampleInput (userEvent "user-2")) [(userEvent "user-2", 0)] .idle] }

theorem conflicting_begun :
    (ingestionMachine sampleIngestion).step (resentStore sentInput) (.ingest "app_1" (sampleBatch (userEvent "user-2")) []) =
      conflictingStore :=
  sampleBatch_begins (by decide +kernel) _

theorem conflicting_answered :
    (conflictingStore.act sampleIngestion (.next 2)).map (fun next => next.2.answers) =
      .ok ((sampleStore sentInput).answers ++ [resentAnswer sentInput, conflictAnswer]) := by
  have hvalid := @sampleInput_valid (userEvent "user-2") (by decide +kernel) rfl (by decide +kernel)
  have hother : (registryRow "app_1" sentInput).payloadHash ≠ (sampleInput (userEvent "user-2")).payloadHash := by
    intro h
    exact absurd (String.ofList_injective h) (by decide +kernel)
  have hstatus : statusForExisting (registryRow "app_1" sentInput) (sampleInput (userEvent "user-2")).payloadHash = .conflict :=
    if_neg hother
  have hfind : conflictingStore.find "app_1" (sampleInput (userEvent "user-2")).eventId =
      some (registryRow "app_1" sentInput) := rfl
  have hbegin : conflictingStore.begin sampleIngestion 2 (sampleCall (sampleInput (userEvent "user-2")) [] .idle)
      (userEvent "user-2") 0 = _ := begin_finds hvalid hfind
  rw [hstatus] at hbegin
  exact congrArg (fun s : IngestionStore => Except.ok s.answers) hbegin

theorem conflictingSendings_run :
    ((ingestionMachine sampleIngestion).run .empty conflictingSendings).answers =
      (sampleStore sentInput).answers ++ [resentAnswer sentInput, conflictAnswer] := by
  have hanswered := conflicting_answered
  cases hact : conflictingStore.act sampleIngestion (.next 2) with
  | error refusal =>
    rw [hact] at hanswered
    cases hanswered
  | ok next =>
    rw [hact] at hanswered
    rw [conflictingSendings, Machine.run_append, secondSending_run, Machine.run_cons, conflicting_begun, Machine.run_cons,
      ingestion_step hact, Machine.run_nil]
    exact Except.ok.inj hanswered

theorem sent_idempotent :
    Idempotent sampleIngestion ((ingestionMachine sampleIngestion).run .empty conflictingSendings) ∧
      ((ingestionMachine sampleIngestion).run .empty conflictingSendings).answers.map (·.result.status) =
        [.accepted, .duplicate, .conflict] := by
  refine ⟨ingestion_idempotent conflictingSendings ?_, by rw [conflictingSendings_run]; rfl⟩
  unfold conflictingSendings
  rw [List.append_assoc, Machine.guarded_append, sent_steps, Machine.guarded_append, sent_created]
  refine ⟨⟨⟨trivial, trivial, trivial⟩, ⟨rfl, ?_⟩, trivial⟩, trivial, trivial, trivial, trivial, trivial⟩
  intro call input hcall hphase
  cases hcall
  cases hphase
  exact ⟨sent_fits.1, .inr sent_fits.2⟩

/-- An event whose user id is a space. -/
def blankUserEvent : Value := userEvent " "

/-- The check of the user's row refuses the event, and the request fails without an answer. -/
theorem blank_user_fails :
    usageEventSchema blankUserEvent = true ∧
      (∃ call, ((ingestionMachine sampleIngestion).run .empty (firstSending blankUserEvent)).calls = [call] ∧
        call.batch.events = [blankUserEvent] ∧ call.phase = .failed) ∧
      ((ingestionMachine sampleIngestion).run .empty (firstSending blankUserEvent)).answers = [] ∧
      ¬Idempotent sampleIngestion ((ingestionMachine sampleIngestion).run .empty (firstSending blankUserEvent)) := by
  have hschema : usageEventSchema blankUserEvent = true := by decide +kernel
  have hvalid := sampleInput_valid hschema rfl (by decide +kernel)
  have hrow : rowFits sampleIngestion (sampleInput blankUserEvent).event = false := by decide +kernel
  have hbegins : (ingestionMachine sampleIngestion).step .empty (.ingest "app_1" (sampleBatch blankUserEvent) []) =
      ⟨[], [], [], [sampleCall (sampleInput blankUserEvent) [((sampleInput blankUserEvent).event, 0)] .idle], []⟩ :=
    sampleBatch_begins (by decide +kernel) _
  have hrun : (ingestionMachine sampleIngestion).run .empty (firstSending blankUserEvent) =
      ⟨[], [], [], [sampleCall (sampleInput blankUserEvent) [] .failed], []⟩ := by
    rw [firstSending, Machine.run_cons, hbegins, Machine.run_cons, ingestion_step (sample_misses hvalid),
      Machine.run_cons, ingestion_step (sample_fails hrow), Machine.run_nil]
  rw [hrun]
  refine ⟨hschema, ⟨_, rfl, rfl, rfl⟩, rfl, ?_⟩
  intro h
  exact h.running _ (List.mem_singleton_self _) rfl

end Undisturbed

end TokenPilot.Operations
