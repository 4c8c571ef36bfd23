/-
  TokenPilot.Management.BackgroundJobs — background jobs from the request to the result:
  `createExport` (`jobs.service.ts`), the recovery that queues what is still QUEUED
  (`background-job-recovery.service.ts`) and the worker (`operational-processor.ts`).

  A queue keeps its jobs and delivers each any number of times, also while an earlier delivery
  still runs. A delivery is `process` cut at its database calls, each of which can fail before or
  after its effect; a delivery that makes no further step has crashed. What a job does is a
  parameter of the step (`outcome`). `completions` and `requests` record what was written as
  completed and what was asked for.

  A delivery that reads a completed row answers with its result (`completed_answered`), but every
  write after the read is unconditional: of two deliveries that overlap, the one that was overtaken
  writes over what the other has written. A delivery whose write of a result took effect although
  the answer to it was lost writes over its own. And the key of an export is made of the texts of
  its range. `jobs_survive`: where a delivery that was overtaken writes no more, no answer to a
  result is lost and no range is asked for in other texts, a job that is completed keeps its
  result, a failed one was never completed, and the same range is the same job. `result_lost` is a
  run of an overtaken delivery and of a range in other texts.

  Left out: times, the size of a scan, and the cut of an error's message.
-/

import TokenPilot.Library.Machine
import TokenPilot.Management.QuotaSettings

namespace TokenPilot.Management

open TokenPilot.Library TokenPilot.Runtime

variable {R : Type}

/-! ## Jobs -/

inductive BackgroundJobType where
  | exportsGenerate
  | maintenance
  deriving DecidableEq, Repr

inductive BackgroundJobStatus where
  | queued
  | running
  | completed
  | failed
  deriving DecidableEq, Repr

/-- `result` is the object of `resultJson`; what it holds is left open. -/
structure BackgroundJob (R : Type) where
  id : Nat
  applicationId : Option String
  type : BackgroundJobType
  status : BackgroundJobStatus
  idempotencyKey : String
  parametersJson : Value
  result : Option R
  attempts : Nat
  errorCode : Option String
  errorMessage : Option String

inductive OperationalJobKind where
  | exportsGenerate
  | connectorHeartbeatCheck
  | unpricedAlert
  | apiKeyExpiry
  deriving DecidableEq, Repr

def typeFor : OperationalJobKind → BackgroundJobType
  | .exportsGenerate => .exportsGenerate
  | _ => .maintenance

structure OperationalJobData where
  backgroundJobId : Option Nat
  applicationId : Option String
  kind : OperationalJobKind
  idempotencyKey : String
  parameters : Value

def BackgroundJob.queuedRow (id : Nat) (applicationId : Option String) (type : BackgroundJobType) (idempotencyKey : String)
    (parameters : Value) : BackgroundJob R :=
  ⟨id, applicationId, type, .queued, idempotencyKey, parameters, none, 0, none, none⟩

/-- `upsert` by the key with an empty update; the id of a new row is its place. -/
def upsertJob (jobs : List (BackgroundJob R)) (create : Nat → BackgroundJob R) : List (BackgroundJob R) × BackgroundJob R :=
  match jobs.find? (·.idempotencyKey = (create jobs.length).idempotencyKey) with
  | some job => (jobs, job)
  | none => (jobs ++ [create jobs.length], create jobs.length)

/-! ## `createExport` -/

structure ExportInput where
  from_ : String
  to_ : String
  reason : String

/-- `z.literal("csv")` -/
def csvSchema : Value → Option Unit
  | .str s => if s = "csv" then some () else none
  | _ => none

def exportSchema (v : Value) : Option ExportInput := do
  let field ← strictObject ["from", "to", "format", "reason"] v
  let first ← required field "from" dateTimeText
  let last ← required field "to" dateTimeText
  let _ ← optionally csvSchema (field "format")
  let reason ← required field "reason" (textSchema fun s => 1 ≤ jsLength s && jsLength s ≤ 500)
  some ⟨first, last, reason⟩

/-- An export that was asked for: its application, the instants of the range, and the job. -/
structure ExportRequest where
  applicationId : String
  start : Int
  stop : Int
  from_ : String
  to_ : String
  jobId : Nat

def exportKey (applicationId from_ to_ : String) : String :=
  "export:" ++ applicationId ++ ":" ++ from_ ++ ":" ++ to_ ++ ":csv"

/-- The range of an input that is accepted. -/
def exportRange (input : Value) : Except String (ExportInput × Int × Int) :=
  match exportSchema input with
  | none => .error "Invalid export request"
  | some value =>
    match dateTimeSchema (.str value.from_), dateTimeSchema (.str value.to_) with
    | some start, some stop =>
      if stop ≤ start then .error "from must precede to"
      else if 366 * 86400000 < stop - start then .error "export range cannot exceed 366 days"
      else .ok (value, start, stop)
    | _, _ => .error "Invalid export request"

/-! ## Deliveries -/

structure Failure where
  code : String
  message : String
  deriving DecidableEq, Repr

/-- The call that a delivery makes next. -/
inductive DeliveryStage (R : Type) where
  | ensureJob
  | start (id : Nat)
  | execute (id : Nat)
  | complete (id : Nat) (result : R)
  | fail (id : Nat) (failure : Failure)
  | ended (outcome : Except String R)

/-- The row a delivery works on. -/
def DeliveryStage.row : DeliveryStage R → Option Nat
  | .start id | .execute id | .complete id _ | .fail id _ => some id
  | .ensureJob | .ended _ => none

/-- The row the next call of a delivery writes. -/
def DeliveryStage.written : DeliveryStage R → Option Nat
  | .start id | .complete id _ | .fail id _ => some id
  | .ensureJob | .execute _ | .ended _ => none

structure Delivery (R : Type) where
  job : OperationalJobData
  stage : DeliveryStage R
  /-- Another delivery has written to the row since this one read it. -/
  overtaken : Bool

/-- A row that was read as queued, on its way to the queue. -/
inductive EnqueueStage where
  | getJob
  | add
  | ended

structure Enqueue (R : Type) where
  row : BackgroundJob R
  stage : EnqueueStage

structure JobWorld (R : Type) where
  jobs : List (BackgroundJob R)
  exportQueue : List OperationalJobData
  maintenanceQueue : List OperationalJobData
  enqueues : List (Enqueue R)
  deliveries : List (Delivery R)
  requests : List ExportRequest
  completions : List (Nat × R)

inductive JobAct (R : Type) where
  | createExport (applicationId : String) (input : Value)
  | scan
  | enqueue (i : Nat)
  | schedule (kind : OperationalJobKind) (idempotencyKey : String)
  | deliver (maintenance : Bool) (i : Nat)
  | proceed (i : Nat) (answer : Reply) (outcome : Except Failure R)

/-! ## The calls of a delivery -/

def BackgroundJob.started (job : BackgroundJob R) : BackgroundJob R :=
  { job with status := .running, attempts := job.attempts + 1, result := none, errorCode := none, errorMessage := none }

def BackgroundJob.completedWith (result : R) (job : BackgroundJob R) : BackgroundJob R :=
  { job with status := .completed, result := some result }

def BackgroundJob.failedWith (failure : Failure) (job : BackgroundJob R) : BackgroundJob R :=
  { job with status := .failed, errorCode := some failure.code, errorMessage := some failure.message }

/-- `ensureJob`: the rows after it, and the row. -/
def ensureJob (jobs : List (BackgroundJob R)) (job : OperationalJobData) : Except String (List (BackgroundJob R) × BackgroundJob R) :=
  match job.backgroundJobId with
  | some id =>
    match jobs[id]? with
    | none => .error "No record was found for a query."
    | some row =>
      if row.type ≠ typeFor job.kind ∨ row.idempotencyKey ≠ job.idempotencyKey then
        .error "Operational job identity does not match its persisted background job"
      else if row.applicationId ≠ job.applicationId then
        .error "Operational job application does not match its persisted background job"
      else .ok (jobs, row)
  | none =>
    .ok (upsertJob jobs fun id =>
      .queuedRow id job.applicationId (typeFor job.kind) job.idempotencyKey job.parameters)

/-- What is read of the row decides whether the job runs. -/
def afterEnsure (row : BackgroundJob R) : DeliveryStage R :=
  match row.status, row.result with
  | .completed, some result => .ended (.ok result)
  | _, _ => .start row.id

/-- One call of a delivery: the rows after it, where the delivery then stands, and what was
    written as completed. -/
def processCall (jobs : List (BackgroundJob R)) (delivery : Delivery R) (answer : Reply) (outcome : Except Failure R) :
    List (BackgroundJob R) × DeliveryStage R × List (Nat × R) :=
  match delivery.stage with
  | .ensureJob =>
    if delivery.job.kind = .exportsGenerate ∧ delivery.job.applicationId = none then
      (jobs, .ended (.error "Usage exports require an application identity"), [])
    else
      match ensureJob jobs delivery.job with
      | .error message => (jobs, .ended (.error message), [])
      | .ok (ensured, row) =>
        match answer with
        | .done => (ensured, afterEnsure row, [])
        | .failed message effect => (if effect then ensured else jobs, .ended (.error message), [])
  | .start id =>
    let written := if answer.takesEffect then jobs.modify id (·.started) else jobs
    match answer with
    | .done => (written, .execute id, [])
    | .failed message _ => (written, .ended (.error message), [])
  | .execute id =>
    match outcome with
    | .ok result => (jobs, .complete id result, [])
    | .error failure => (jobs, .fail id failure, [])
  | .complete id result =>
    let written := if answer.takesEffect then jobs.modify id (·.completedWith result) else jobs
    let completions := if answer.takesEffect then [(id, result)] else []
    match answer with
    | .done => (written, .ended (.ok result), completions)
    | .failed message _ => (written, .fail id ⟨"JOB_FAILED", message⟩, completions)
  | .fail id failure =>
    let written := if answer.takesEffect then jobs.modify id (·.failedWith failure) else jobs
    match answer with
    | .done => (written, .ended (.error failure.message), [])
    | .failed message _ => (written, .ended (.error message), [])
  | .ended outcome => (jobs, .ended outcome, [])

/-- The deliveries at work on a row that the `i`-th has written. -/
def overtake (deliveries : List (Delivery R)) (i : Nat) (written : Option Nat) : List (Delivery R) :=
  deliveries.mapIdx fun j other =>
    if j ≠ i ∧ written.isSome ∧ other.stage.row = written then { other with overtaken := true } else other

/-! ## Runs -/

/-- `jobOptions`: the id of a queued job is that of its row, and one that is there is not added again. -/
def exportData (row : BackgroundJob R) : OperationalJobData :=
  ⟨some row.id, row.applicationId, .exportsGenerate, row.idempotencyKey, row.parametersJson⟩

def JobWorld.queued (w : JobWorld R) (row : BackgroundJob R) : Bool := w.exportQueue.any (·.backgroundJobId = some row.id)

def enqueueStep (w : JobWorld R) (enqueue : Enqueue R) : List OperationalJobData × EnqueueStage :=
  match enqueue.stage with
  | .getJob => (w.exportQueue, if w.queued enqueue.row then .ended else .add)
  | .add => (if w.queued enqueue.row then w.exportQueue else w.exportQueue ++ [exportData enqueue.row], .ended)
  | .ended => (w.exportQueue, .ended)

def createExport (w : JobWorld R) (applicationId : String) (input : Value) : Except String (JobWorld R) := do
  let (value, start, stop) ← exportRange input
  let (jobs, job) := upsertJob w.jobs fun id =>
    .queuedRow id (some applicationId) .exportsGenerate (exportKey applicationId value.from_ value.to_)
      (.obj [("from", .str value.from_), ("to", .str value.to_), ("format", .str "csv")])
  let enqueues := if job.status = .queued then w.enqueues ++ [⟨job, .getJob⟩] else w.enqueues
  return { w with
    jobs, enqueues
    requests := w.requests ++ [⟨applicationId, start, stop, value.from_, value.to_, job.id⟩] }

def jobStep (w : JobWorld R) : JobAct R → Except String (Unit × JobWorld R)
  | .createExport applicationId input => do return ((), ← createExport w applicationId input)
  | .scan =>
    let rows := w.jobs.filter fun job => job.status = .queued && job.type = .exportsGenerate
    .ok ((), { w with enqueues := w.enqueues ++ rows.map fun row => ⟨row, .getJob⟩ })
  | .enqueue i =>
    match w.enqueues[i]? with
    | none => .error "no such row"
    | some enqueue =>
      let (exportQueue, stage) := enqueueStep w enqueue
      .ok ((), { w with exportQueue, enqueues := w.enqueues.set i { enqueue with stage } })
  | .schedule kind idempotencyKey =>
    if kind = .exportsGenerate then .error "not a maintenance job"
    else .ok ((), { w with maintenanceQueue := w.maintenanceQueue ++ [⟨none, none, kind, idempotencyKey, .obj []⟩] })
  | .deliver maintenance i =>
    match (if maintenance then w.maintenanceQueue else w.exportQueue)[i]? with
    | none => .error "not queued"
    | some job => .ok ((), { w with deliveries := w.deliveries ++ [⟨job, .ensureJob, false⟩] })
  | .proceed i answer outcome =>
    match w.deliveries[i]? with
    | none => .error "no such delivery"
    | some delivery =>
      let (jobs, stage, completions) := processCall w.jobs delivery answer outcome
      .ok ((), { w with
        jobs, completions := w.completions ++ completions
        deliveries := overtake (w.deliveries.set i { delivery with stage }) i
          (if answer.takesEffect then delivery.stage.written else none) })

def jobRuns : Machine (JobWorld R) (JobAct R) Unit String := ⟨jobStep⟩

def JobWorld.empty : JobWorld R := ⟨[], [], [], [], [], [], []⟩

/-! ## What disturbs a run -/

/-- The result of a job that is completed. -/
def BackgroundJob.finished (job : BackgroundJob R) : Option R := if job.status = .completed then job.result else none

def finishedAt (jobs : List (BackgroundJob R)) (id : Nat) : Option R := jobs[id]?.bind BackgroundJob.finished

/-- The delivery is about to write to a row that another has written since it was read. -/
def Delivery.stale (delivery : Delivery R) : Bool := delivery.overtaken && delivery.stage.written.isSome

/-- A result is written, and the delivery does not learn of it. -/
def DeliveryStage.loses : DeliveryStage R → Reply → Bool
  | .complete _ _, .failed _ effect => effect
  | _, _ => false

/-- Another request wrote the same range in other texts. -/
def respells (requests : List ExportRequest) (applicationId : String) (input : Value) : Bool :=
  match exportRange input with
  | .error _ => false
  | .ok (value, start, stop) => requests.any fun request =>
    request.applicationId = applicationId && request.start = start && request.stop = stop &&
      !(request.from_ = value.from_ && request.to_ = value.to_)

def Undisturbed (w : JobWorld R) : JobAct R → Prop
  | .createExport applicationId input => respells w.requests applicationId input = false
  | .proceed i answer _ => ∀ delivery ∈ w.deliveries[i]?,
    (answer.takesEffect = true → delivery.stale = false) ∧ delivery.stage.loses answer = false
  | _ => True

instance : ∀ (w : JobWorld R) (act : JobAct R), Decidable (Undisturbed w act)
  | w, .createExport applicationId input => inferInstanceAs (Decidable (respells w.requests applicationId input = false))
  | w, .proceed i answer _ =>
    match h : w.deliveries[i]? with
    | none => isTrue fun delivery hdelivery => by rw [h] at hdelivery; cases hdelivery
    | some delivery =>
      if hok : (answer.takesEffect = true → delivery.stale = false) ∧ delivery.stage.loses answer = false then
        isTrue fun other hother => by rw [h] at hother; cases hother; exact hok
      else isFalse fun hall => hok (hall delivery h)
  | _, .scan | _, .enqueue _ | _, .schedule _ _ | _, .deliver _ _ => isTrue trivial

/-! ## What a step does to the rows -/

theorem written_row {stage : DeliveryStage R} {id : Nat} (h : stage.written = some id) : stage.row = some id := by
  cases stage <;> first | exact h | cases h

/-- What a delivery writes where it stands, and what that completes. -/
inductive Writes : DeliveryStage R → Nat → (BackgroundJob R → BackgroundJob R) → List (Nat × R) → Prop
  | start (id : Nat) : Writes (.start id) id BackgroundJob.started []
  | complete (id : Nat) (result : R) : Writes (.complete id result) id (BackgroundJob.completedWith result) [(id, result)]
  | fail (id : Nat) (failure : Failure) : Writes (.fail id failure) id (BackgroundJob.failedWith failure) []

/-- A row is added under a key of its own. -/
structure Added (jobs jobs' : List (BackgroundJob R)) (job : BackgroundJob R) : Prop where
  rows : jobs' = jobs ++ [job]
  id : job.id = jobs.length
  status : job.status = .queued
  key : ∀ other ∈ jobs, other.idempotencyKey ≠ job.idempotencyKey

section Rows

variable {jobs jobs' : List (BackgroundJob R)} {job : BackgroundJob R}

theorem upsertJob_cases {create : Nat → BackgroundJob R} (hid : (create jobs.length).id = jobs.length)
    (hstatus : (create jobs.length).status = .queued) (h : upsertJob jobs create = (jobs', job)) :
    job.idempotencyKey = (create jobs.length).idempotencyKey ∧
      ((jobs' = jobs ∧ job ∈ jobs) ∨ Added jobs jobs' job) := by
  unfold upsertJob at h
  cases hfind : jobs.find? (·.idempotencyKey = (create jobs.length).idempotencyKey) with
  | some found =>
    rw [hfind] at h
    cases h
    exact ⟨by simpa using List.find?_some hfind, .inl ⟨rfl, List.mem_of_find?_eq_some hfind⟩⟩
  | none =>
    rw [hfind] at h
    cases h
    refine ⟨rfl, .inr ⟨rfl, hid, hstatus, fun other hother hkey => ?_⟩⟩
    exact List.find?_eq_none.mp hfind other hother (decide_eq_true hkey)

/-- Ids are places, and no two rows share a key. -/
structure Keyed (jobs : List (BackgroundJob R)) : Prop where
  id : ∀ {i : Nat} {job : BackgroundJob R}, jobs[i]? = some job → job.id = i
  key : ∀ {i j : Nat} {a b : BackgroundJob R}, jobs[i]? = some a → jobs[j]? = some b →
    a.idempotencyKey = b.idempotencyKey → i = j

/-- What a call does to the rows. -/
inductive RowsChange (jobs jobs' : List (BackgroundJob R)) : Prop
  | same : jobs' = jobs → RowsChange jobs jobs'
  | added (job : BackgroundJob R) : Added jobs jobs' job → RowsChange jobs jobs'
  | written (id : Nat) (f : BackgroundJob R → BackgroundJob R) :
      (∀ job, (f job).id = job.id ∧ (f job).idempotencyKey = job.idempotencyKey) → jobs' = jobs.modify id f →
      RowsChange jobs jobs'

/-- A row keeps its id and its key. -/
theorem RowsChange.kept (h : RowsChange jobs jobs') {i : Nat} (hjob : jobs[i]? = some job) :
    ∃ job', jobs'[i]? = some job' ∧ job'.id = job.id ∧ job'.idempotencyKey = job.idempotencyKey := by
  cases h with
  | same heq => exact ⟨job, heq ▸ hjob, rfl, rfl⟩
  | added other hadded =>
    rw [hadded.rows]
    exact ⟨job, List.getElem?_append_left (List.getElem?_eq_some_iff.mp hjob).1 ▸ hjob, rfl, rfl⟩
  | written id f hf heq =>
    rw [heq, List.getElem?_modify, hjob]
    by_cases hid : id = i
    · exact ⟨f job, by simp [hid], (hf job).1, (hf job).2⟩
    · exact ⟨job, by simp [hid], rfl, rfl⟩

/-- A row after a call was there before, or is the one that was added. -/
theorem RowsChange.came (h : RowsChange jobs jobs') {i : Nat} (hjob : jobs'[i]? = some job) :
    (∃ job', jobs[i]? = some job' ∧ job.id = job'.id ∧ job.idempotencyKey = job'.idempotencyKey) ∨
      (i = jobs.length ∧ Added jobs jobs' job) := by
  cases h with
  | same heq => exact .inl ⟨job, heq ▸ hjob, rfl, rfl⟩
  | added other hadded =>
    rw [hadded.rows] at hjob
    rcases Nat.lt_or_ge i jobs.length with hlt | hge
    · rw [List.getElem?_append_left hlt] at hjob
      exact .inl ⟨job, hjob, rfl, rfl⟩
    · rw [List.getElem?_append_right hge, List.getElem?_singleton] at hjob
      obtain ⟨hi, hsome⟩ := Option.ite_none_right_eq_some.mp hjob
      cases hsome
      exact .inr ⟨by omega, hadded⟩
  | written id f hf heq =>
    rw [heq, List.getElem?_modify] at hjob
    obtain ⟨job', hjob', hmodified⟩ := Option.map_eq_some_iff.mp hjob
    refine .inl ⟨job', hjob', ?_⟩
    by_cases hid : id = i
    · rw [if_pos hid] at hmodified
      exact hmodified ▸ hf job'
    · rw [if_neg hid] at hmodified
      exact hmodified ▸ ⟨rfl, rfl⟩

theorem RowsChange.length_le (h : RowsChange jobs jobs') : jobs.length ≤ jobs'.length := by
  cases h with
  | same heq => rw [heq]
  | added job hadded =>
    rw [hadded.rows, List.length_append]
    exact Nat.le_add_right _ _
  | written id f hf heq => rw [heq, List.length_modify]

theorem RowsChange.keyed (h : RowsChange jobs jobs') (hkeyed : Keyed jobs) : Keyed jobs' := by
  refine ⟨?_, ?_⟩
  · intro i job hjob
    rcases h.came hjob with ⟨job', hjob', hid, -⟩ | ⟨hi, hadded⟩
    · rw [hid]
      exact hkeyed.id hjob'
    · rw [hi]
      exact hadded.id
  · intro i j a b ha hb hkey
    rcases h.came ha with ⟨a', ha', -, hkeyA⟩ | ⟨hi, hadded⟩
    · rcases h.came hb with ⟨b', hb', -, hkeyB⟩ | ⟨-, hadded⟩
      · exact hkeyed.key ha' hb' (hkeyA.symm.trans (hkey.trans hkeyB))
      · exact absurd (hkeyA.symm.trans hkey) (hadded.key a' (List.mem_of_getElem? ha'))
    · rcases h.came hb with ⟨b', hb', -, hkeyB⟩ | ⟨hj, -⟩
      · exact absurd (hkeyB.symm.trans hkey.symm) (hadded.key b' (List.mem_of_getElem? hb'))
      · rw [hi, hj]

theorem Writes.keeps {stage : DeliveryStage R} {id : Nat} {f : BackgroundJob R → BackgroundJob R}
    {completions : List (Nat × R)} (h : Writes stage id f completions) (job : BackgroundJob R) :
    (f job).id = job.id ∧ (f job).idempotencyKey = job.idempotencyKey := by
  cases h <;> exact ⟨rfl, rfl⟩

theorem Writes.written {stage : DeliveryStage R} {id : Nat} {f : BackgroundJob R → BackgroundJob R}
    {completions : List (Nat × R)} (h : Writes stage id f completions) : stage.written = some id := by
  cases h <;> rfl

theorem Writes.row {stage : DeliveryStage R} {id : Nat} {f : BackgroundJob R → BackgroundJob R}
    {completions : List (Nat × R)} (h : Writes stage id f completions) : stage.row = some id := by
  cases h <;> rfl

/-- Only the write of a result completes, its own row. -/
theorem Writes.completed {stage : DeliveryStage R} {k id : Nat} {r : R} {f : BackgroundJob R → BackgroundJob R}
    {completions : List (Nat × R)} (h : Writes stage k f completions) (hmem : (id, r) ∈ completions) :
    k = id ∧ f = BackgroundJob.completedWith r := by
  cases h with
  | start | fail => cases hmem
  | complete k result =>
    cases List.mem_singleton.mp hmem
    exact ⟨rfl, rfl⟩

end Rows

/-! ## Results that stay -/

section Results

variable {jobs jobs' : List (BackgroundJob R)} {id : Nat} {r : R}

theorem finishedAt_iff : finishedAt jobs id = some r ↔
    ∃ job, jobs[id]? = some job ∧ job.status = .completed ∧ job.result = some r := by
  unfold finishedAt BackgroundJob.finished
  rw [Option.bind_eq_some_iff]
  exact exists_congr fun job => and_congr_right fun _ => Option.ite_none_right_eq_some

theorem finishedAt_row {row : BackgroundJob R} (h : jobs[id]? = some row) : finishedAt jobs id = row.finished := by
  unfold finishedAt
  rw [h]
  rfl

/-- A new row has no result. -/
theorem Added.finished {job : BackgroundJob R} (h : Added jobs jobs' job) : finishedAt jobs' id = finishedAt jobs id := by
  have hnew : job.finished = none := by
    unfold BackgroundJob.finished
    rw [h.status]
    rfl
  rw [h.rows]
  rcases Nat.lt_trichotomy id jobs.length with hlt | heq | hgt
  · unfold finishedAt
    rw [List.getElem?_append_left hlt]
  · have hrow : (jobs ++ [job])[id]? = some job := by simp [heq]
    rw [finishedAt_row hrow, hnew]
    unfold finishedAt
    rw [heq, List.getElem?_eq_none le_rfl]
    rfl
  · unfold finishedAt
    rw [List.getElem?_eq_none hgt.le, List.getElem?_eq_none (by simpa using Nat.succ_le_of_lt hgt)]

theorem finishedAt_modify_ne {f : BackgroundJob R → BackgroundJob R} {k : Nat} (h : id ≠ k) :
    finishedAt (jobs.modify id f) k = finishedAt jobs k := by
  unfold finishedAt
  rw [List.getElem?_modify]
  simp [h]

theorem finishedAt_completed (h : id < jobs.length) :
    finishedAt (jobs.modify id (BackgroundJob.completedWith r)) id = some r := by
  refine finishedAt_iff.mpr ⟨jobs[id].completedWith r, ?_, rfl, rfl⟩
  rw [List.getElem?_modify, List.getElem?_eq_getElem h]
  simp

/-- A row that is started or failed has no result. -/
theorem finishedAt_modify_none {f : BackgroundJob R → BackgroundJob R} (hf : ∀ job, (f job).finished = none) :
    finishedAt (jobs.modify id f) id = none := by
  unfold finishedAt
  rw [List.getElem?_modify]
  cases jobs[id]? with
  | none => rfl
  | some job => simp [hf]

theorem finished_started (job : BackgroundJob R) : job.started.finished = none := rfl

end Results

/-! ## One call of a delivery -/

section Calls

variable {jobs jobs' : List (BackgroundJob R)} {delivery : Delivery R} {answer : Reply} {outcome : Except Failure R}
  {stage' : DeliveryStage R} {completions : List (Nat × R)}

theorem upsertJob_row {row : BackgroundJob R} (hkeyed : Keyed jobs)
    (h : (jobs' = jobs ∧ row ∈ jobs) ∨ Added jobs jobs' row) : jobs'[row.id]? = some row := by
  rcases h with ⟨rfl, hmem⟩ | hadded
  · obtain ⟨i, hi⟩ := List.mem_iff_getElem?.mp hmem
    rw [hkeyed.id hi]
    exact hi
  · rw [hadded.rows, hadded.id, List.getElem?_append_right le_rfl]
    simp

theorem ensureJob_ok {job : OperationalJobData} {row : BackgroundJob R} (hkeyed : Keyed jobs)
    (h : ensureJob jobs job = .ok (jobs', row)) :
    (jobs' = jobs ∨ Added jobs jobs' row) ∧ jobs'[row.id]? = some row := by
  unfold ensureJob at h
  cases hid : job.backgroundJobId with
  | some id =>
    rw [hid] at h
    simp only at h
    cases hrow : jobs[id]? with
    | none =>
      rw [hrow] at h
      cases h
    | some found =>
      rw [hrow] at h
      simp only at h
      by_cases hidentity : found.type ≠ typeFor job.kind ∨ found.idempotencyKey ≠ job.idempotencyKey
      · rw [if_pos hidentity] at h
        cases h
      · rw [if_neg hidentity] at h
        by_cases happlication : found.applicationId ≠ job.applicationId
        · rw [if_pos happlication] at h
          cases h
        · rw [if_neg happlication] at h
          cases h
          refine ⟨.inl rfl, ?_⟩
          rw [hkeyed.id hrow]
          exact hrow
  | none =>
    rw [hid] at h
    have hcases := (upsertJob_cases rfl rfl (Except.ok.inj h)).2
    refine ⟨?_, upsertJob_row hkeyed hcases⟩
    rcases hcases with ⟨hsame, -⟩ | hadded
    · exact .inl hsame
    · exact .inr hadded

/-- What a call of a delivery does to the rows, and what it completes. -/
inductive CallChange (jobs jobs' : List (BackgroundJob R)) (stage : DeliveryStage R) (answer : Reply) :
    List (Nat × R) → Prop
  | same : jobs' = jobs → CallChange jobs jobs' stage answer []
  | added (job : BackgroundJob R) : Added jobs jobs' job → CallChange jobs jobs' stage answer []
  | written (id : Nat) (f : BackgroundJob R → BackgroundJob R) (completions : List (Nat × R)) :
      answer.takesEffect = true → Writes stage id f completions → jobs' = jobs.modify id f →
      CallChange jobs jobs' stage answer completions

theorem CallChange.rows {stage : DeliveryStage R} (h : CallChange jobs jobs' stage answer completions) :
    RowsChange jobs jobs' := by
  cases h with
  | same heq => exact .same heq
  | added job hadded => exact .added job hadded
  | written id f _ _ hwrites heq => exact .written id f hwrites.keeps heq

/-- The results of the rows that are not written stay as they are. -/
theorem CallChange.finished {stage : DeliveryStage R} (h : CallChange jobs jobs' stage answer completions) {k : Nat}
    (hk : answer.takesEffect = true → stage.written ≠ some k) : finishedAt jobs' k = finishedAt jobs k := by
  cases h with
  | same heq => rw [heq]
  | added job hadded => exact hadded.finished
  | written id f _ heffect hwrites heq =>
    have hne : id ≠ k := by
      rintro rfl
      exact hk heffect hwrites.written
    rw [heq]
    exact finishedAt_modify_ne hne

/-- A write that may not take effect. -/
theorem callChange_write {id : Nat} {f : BackgroundJob R → BackgroundJob R} {stage : DeliveryStage R}
    (hwrites : Writes stage id f completions) :
    CallChange jobs (if answer.takesEffect then jobs.modify id f else jobs) stage answer
      (if answer.takesEffect then completions else []) := by
  cases heffect : answer.takesEffect with
  | true => exact .written id f completions heffect hwrites rfl
  | false => exact .same rfl

theorem proceed_change (hkeyed : Keyed jobs) (h : processCall jobs delivery answer outcome = (jobs', stage', completions)) :
    CallChange jobs jobs' delivery.stage answer completions := by
  unfold processCall at h
  cases hstage : delivery.stage with
  | ensureJob =>
    rw [hstage] at h
    simp only at h
    by_cases hidentity : delivery.job.kind = .exportsGenerate ∧ delivery.job.applicationId = none
    · rw [if_pos hidentity] at h
      cases h
      exact .same rfl
    · rw [if_neg hidentity] at h
      cases hensure : ensureJob jobs delivery.job with
      | error message =>
        rw [hensure] at h
        cases h
        exact .same rfl
      | ok ensured =>
        obtain ⟨rows, row⟩ := ensured
        have hchange : CallChange jobs rows .ensureJob answer [] := by
          rcases (ensureJob_ok hkeyed hensure).1 with hsame | hadded
          · exact .same hsame
          · exact .added row hadded
        rw [hensure] at h
        cases answer with
        | done => cases h; exact hchange
        | failed message effect =>
          cases effect with
          | true => cases h; exact hchange
          | false => cases h; exact .same rfl
  | start id =>
    rw [hstage] at h
    have hwrite := @callChange_write R jobs answer _ _ _ _ (Writes.start id)
    rw [ite_self] at hwrite
    cases answer <;> cases h <;> exact hwrite
  | execute id =>
    rw [hstage] at h
    cases outcome <;> cases h <;> exact .same rfl
  | complete id result =>
    rw [hstage] at h
    have hwrite := @callChange_write R jobs answer _ _ _ _ (Writes.complete id result)
    cases answer <;> cases h <;> exact hwrite
  | fail id failure =>
    rw [hstage] at h
    have hwrite := @callChange_write R jobs answer _ _ _ _ (Writes.fail id failure)
    rw [ite_self] at hwrite
    cases answer <;> cases h <;> exact hwrite
  | ended outcome =>
    rw [hstage] at h
    cases h
    exact .same rfl

theorem afterEnsure_eq (row : BackgroundJob R) :
    afterEnsure row = match row.finished with
      | some result => .ended (.ok result)
      | none => .start row.id := by
  unfold afterEnsure BackgroundJob.finished
  cases row.status <;> cases row.result <;> rfl

/-- A delivery that reads a completed row answers with its result, and never writes to the row. -/
theorem completed_answered {row : BackgroundJob R} {r : R} (hstage : delivery.stage = .ensureJob)
    (hidentity : ¬ (delivery.job.kind = .exportsGenerate ∧ delivery.job.applicationId = none))
    (hensure : ensureJob jobs delivery.job = .ok (jobs', row)) (hfinished : row.finished = some r) :
    processCall jobs delivery .done outcome = (jobs', .ended (.ok r), []) := by
  unfold processCall
  rw [hstage]
  simp only [if_neg hidentity, hensure]
  rw [afterEnsure_eq, hfinished]

/-- How a delivery comes to work on a row, and goes on with it. -/
inductive AtWork (jobs jobs' : List (BackgroundJob R)) (stage : DeliveryStage R) (answer : Reply) (id : Nat) : Prop
  | read (row : BackgroundJob R) : jobs'[id]? = some row → row.finished = none → AtWork jobs jobs' stage answer id
  | started : stage = .start id → jobs' = jobs.modify id (·.started) → AtWork jobs jobs' stage answer id
  | executed : stage = .execute id → jobs' = jobs → AtWork jobs jobs' stage answer id
  | unanswered (result : R) : stage = .complete id result → (stage.loses answer = false → jobs' = jobs) →
      AtWork jobs jobs' stage answer id

theorem proceed_atWork (hkeyed : Keyed jobs) (h : processCall jobs delivery answer outcome = (jobs', stage', completions))
    {id : Nat} (hid : stage'.row = some id) : AtWork jobs jobs' delivery.stage answer id := by
  cases hstage : delivery.stage with
  | ensureJob =>
    by_cases hidentity : delivery.job.kind = .exportsGenerate ∧ delivery.job.applicationId = none
    · simp only [processCall, hstage, if_pos hidentity] at h
      cases h
      cases hid
    · cases hensure : ensureJob jobs delivery.job with
      | error message =>
        simp only [processCall, hstage, if_neg hidentity, hensure] at h
        cases h
        cases hid
      | ok ensured =>
        obtain ⟨rows, row⟩ := ensured
        cases answer with
        | done =>
          cases hfinished : row.finished with
          | some r =>
            rw [completed_answered hstage hidentity hensure hfinished] at h
            cases h
            cases hid
          | none =>
            simp only [processCall, hstage, if_neg hidentity, hensure, afterEnsure_eq, hfinished] at h
            cases h
            cases hid
            exact .read row (ensureJob_ok hkeyed hensure).2 hfinished
        | failed message effect =>
          simp only [processCall, hstage, if_neg hidentity, hensure] at h
          cases h
          cases hid
  | start k =>
    simp only [processCall, hstage] at h
    cases answer <;> cases h <;> cases hid
    exact .started rfl rfl
  | execute k =>
    simp only [processCall, hstage] at h
    cases outcome <;> cases h <;> cases hid <;> exact .executed rfl rfl
  | complete k result =>
    simp only [processCall, hstage] at h
    cases answer with
    | done =>
      cases h
      cases hid
    | failed message effect =>
      cases h
      cases hid
      refine .unanswered result rfl fun hloses => ?_
      have hnone : effect = false := hloses
      rw [hnone]
      rfl
  | fail k failure =>
    simp only [processCall, hstage] at h
    cases answer <;> cases h <;> cases hid
  | ended outcome =>
    simp only [processCall, hstage] at h
    cases h
    cases hid

/-- A delivery works on a row that is there. -/
theorem AtWork.lt {stage : DeliveryStage R} {id : Nat} (h : AtWork jobs jobs' stage answer id)
    (hrow : ∀ k, stage.row = some k → k < jobs.length) (hlength : jobs.length ≤ jobs'.length) : id < jobs'.length := by
  cases h with
  | read row hread => exact (List.getElem?_eq_some_iff.mp hread).1
  | started hstage | executed hstage | unanswered result hstage =>
    exact (hrow id (by rw [hstage]; rfl)).trans_le hlength

/-- A delivery that learns of its results works on a row without one, as long as it is not overtaken. -/
theorem AtWork.open {stage : DeliveryStage R} {id : Nat} (h : AtWork jobs jobs' stage answer id)
    (hloses : stage.loses answer = false) (hopen : ∀ k, stage.row = some k → finishedAt jobs k = none) :
    finishedAt jobs' id = none := by
  cases h with
  | read row hread hfinished =>
    rw [finishedAt_row hread]
    exact hfinished
  | started _ hjobs =>
    rw [hjobs]
    exact finishedAt_modify_none finished_started
  | executed hstage hjobs =>
    rw [hjobs]
    exact hopen id (by rw [hstage]; rfl)
  | unanswered result hstage hjobs =>
    rw [hjobs hloses]
    exact hopen id (by rw [hstage]; rfl)

end Calls

/-! ## The invariant -/

/-- The same range of the same application. -/
def SameRange (q q' : ExportRequest) : Prop :=
  q.applicationId = q'.applicationId ∧ q.start = q'.start ∧ q.stop = q'.stop

def ExportRequest.key (q : ExportRequest) : String := exportKey q.applicationId q.from_ q.to_

structure JobInv (w : JobWorld R) : Prop where
  keyed : Keyed w.jobs
  rows : ∀ {i : Nat} {delivery : Delivery R}, w.deliveries[i]? = some delivery →
    ∀ id, delivery.stage.row = some id → id < w.jobs.length
  current : ∀ {i : Nat} {delivery : Delivery R}, w.deliveries[i]? = some delivery → delivery.overtaken = false →
    ∀ id, delivery.stage.row = some id → finishedAt w.jobs id = none
  completed : ∀ {id : Nat} {r : R}, (id, r) ∈ w.completions → finishedAt w.jobs id = some r
  requested : ∀ {q : ExportRequest}, q ∈ w.requests → ∃ job, w.jobs[q.jobId]? = some job ∧ job.idempotencyKey = q.key
  texts : ∀ {q q' : ExportRequest}, q ∈ w.requests → q' ∈ w.requests → SameRange q q' → q.from_ = q'.from_ ∧ q.to_ = q'.to_

section Invariant

variable {w w' : JobWorld R}

theorem jobInv_empty : JobInv (.empty : JobWorld R) where
  keyed := ⟨fun h => (by cases h), fun h _ _ => (by cases h)⟩
  rows h := by cases h
  current h := by cases h
  completed h := by cases h
  requested h := by cases h
  texts h := by cases h

/-- The calls that leave the rows alone and start deliveries at most. -/
theorem JobInv.queues (hinv : JobInv w) (hjobs : w'.jobs = w.jobs) (hcompletions : w'.completions = w.completions)
    (hrequests : w'.requests = w.requests)
    (hdeliveries : ∀ {i : Nat} {delivery : Delivery R}, w'.deliveries[i]? = some delivery →
      w.deliveries[i]? = some delivery ∨ delivery.stage.row = none) : JobInv w' where
  keyed := hjobs ▸ hinv.keyed
  rows hget id hid := by
    rw [hjobs]
    rcases hdeliveries hget with hget | hnone
    · exact hinv.rows hget id hid
    · rw [hnone] at hid
      cases hid
  current hget hcurrent id hid := by
    rw [hjobs]
    rcases hdeliveries hget with hget | hnone
    · exact hinv.current hget hcurrent id hid
    · rw [hnone] at hid
      cases hid
  completed hmem := by
    rw [hjobs]
    exact hinv.completed (hcompletions ▸ hmem)
  requested hmem := by
    rw [hjobs]
    exact hinv.requested (hrequests ▸ hmem)
  texts hmem hmem' := hinv.texts (hrequests ▸ hmem) (hrequests ▸ hmem')

theorem requested_kept {jobs jobs' : List (BackgroundJob R)} (hchange : RowsChange jobs jobs') {q : ExportRequest}
    (h : ∃ job, jobs[q.jobId]? = some job ∧ job.idempotencyKey = q.key) :
    ∃ job, jobs'[q.jobId]? = some job ∧ job.idempotencyKey = q.key := by
  obtain ⟨job, hjob, hkey⟩ := h
  obtain ⟨job', hjob', -, hkey'⟩ := hchange.kept hjob
  exact ⟨job', hjob', hkey'.trans hkey⟩

theorem respells_false {requests : List ExportRequest} {applicationId : String} {input : Value} {value : ExportInput}
    {start stop : Int} (h : respells requests applicationId input = false)
    (hrange : exportRange input = .ok (value, start, stop)) {q : ExportRequest} (hq : q ∈ requests)
    (hsame : SameRange q ⟨applicationId, start, stop, value.from_, value.to_, 0⟩) :
    q.from_ = value.from_ ∧ q.to_ = value.to_ := by
  unfold respells at h
  rw [hrange] at h
  have hnot := List.any_eq_false.mp h q hq
  obtain ⟨happlication, hstart, hstop⟩ := hsame
  simpa [happlication, hstart, hstop] using hnot

theorem jobInv_createExport (hinv : JobInv w) {applicationId : String} {input : Value}
    (hok : respells w.requests applicationId input = false) (h : createExport w applicationId input = .ok w') :
    JobInv w' ∧ ∀ id, finishedAt w'.jobs id = finishedAt w.jobs id := by
  unfold createExport at h
  obtain ⟨⟨value, start, stop⟩, hrange, h⟩ := bind_ok h
  simp only at h
  generalize hupsert : upsertJob w.jobs (fun id => BackgroundJob.queuedRow id (some applicationId) .exportsGenerate
    (exportKey applicationId value.from_ value.to_)
    (.obj [("from", .str value.from_), ("to", .str value.to_), ("format", .str "csv")])) = upserted at h
  obtain ⟨jobs, job⟩ := upserted
  cases h
  obtain ⟨hkey, hcases⟩ := upsertJob_cases rfl rfl hupsert
  have hchange : RowsChange w.jobs jobs := by
    rcases hcases with ⟨hsame, -⟩ | hadded
    · exact .same hsame
    · exact .added job hadded
  have hfinished : ∀ id, finishedAt jobs id = finishedAt w.jobs id := by
    intro id
    rcases hcases with ⟨rfl, -⟩ | hadded
    · rfl
    · exact hadded.finished
  refine ⟨⟨hchange.keyed hinv.keyed, ?_, ?_, fun hmem => (hfinished _).trans (hinv.completed hmem), ?_, ?_⟩, hfinished⟩
  · intro i delivery hget id hid
    exact (hinv.rows hget id hid).trans_le hchange.length_le
  · intro i delivery hget hcurrent id hid
    exact (hfinished id).trans (hinv.current hget hcurrent id hid)
  · intro q hq
    rcases List.mem_append.mp hq with hq | hq
    · exact requested_kept hchange (hinv.requested hq)
    · rw [List.mem_singleton.mp hq]
      exact ⟨job, upsertJob_row hinv.keyed hcases, hkey⟩
  · intro q q' hq hq' hsame
    have hnew : ∀ {other : ExportRequest}, other ∈ w.requests →
        SameRange other ⟨applicationId, start, stop, value.from_, value.to_, job.id⟩ →
        other.from_ = value.from_ ∧ other.to_ = value.to_ := fun hother hrangeOther => respells_false hok hrange hother hrangeOther
    rcases List.mem_append.mp hq with hq | hq
    · rcases List.mem_append.mp hq' with hq' | hq'
      · exact hinv.texts hq hq' hsame
      · rw [List.mem_singleton.mp hq'] at hsame ⊢
        exact hnew hq hsame
    · rw [List.mem_singleton.mp hq] at hsame ⊢
      rcases List.mem_append.mp hq' with hq' | hq'
      · obtain ⟨hfrom, hto⟩ := hnew hq' ⟨hsame.1.symm, hsame.2.1.symm, hsame.2.2.symm⟩
        exact ⟨hfrom.symm, hto.symm⟩
      · rw [List.mem_singleton.mp hq']
        exact ⟨rfl, rfl⟩

theorem overtake_get {deliveries : List (Delivery R)} {i j : Nat} {written : Option Nat} {other : Delivery R}
    (h : (overtake deliveries i written)[j]? = some other) :
    ∃ before, deliveries[j]? = some before ∧ other.stage = before.stage ∧
      (other.overtaken = false → before.overtaken = false ∧ ∀ id, j ≠ i → other.stage.row = some id → written ≠ some id) := by
  unfold overtake at h
  rw [List.getElem?_mapIdx] at h
  obtain ⟨before, hbefore, rfl⟩ := Option.map_eq_some_iff.mp h
  refine ⟨before, hbefore, ?_⟩
  by_cases hmarked : j ≠ i ∧ written.isSome ∧ before.stage.row = written
  · rw [if_pos hmarked]
    exact ⟨rfl, fun hfalse => by cases hfalse⟩
  · rw [if_neg hmarked]
    refine ⟨rfl, fun hfalse => ⟨hfalse, fun id hne hid hwritten => hmarked ⟨hne, ?_, ?_⟩⟩⟩
    · rw [hwritten]
      rfl
    · rw [hid, hwritten]

/-- The call of a delivery that is not overtaken and learns of its result. -/
theorem jobInv_proceed (hinv : JobInv w) {i : Nat} {delivery : Delivery R} {answer : Reply} {outcome : Except Failure R}
    (hget : w.deliveries[i]? = some delivery) (hfresh : answer.takesEffect = true → delivery.stale = false)
    (hlearns : delivery.stage.loses answer = false) {jobs : List (BackgroundJob R)} {stage : DeliveryStage R}
    {completions : List (Nat × R)} (hnext : processCall w.jobs delivery answer outcome = (jobs, stage, completions)) :
    JobInv { w with
      jobs, completions := w.completions ++ completions
      deliveries := overtake (w.deliveries.set i { delivery with stage }) i
        (if answer.takesEffect then delivery.stage.written else none) } ∧
      ∀ {id : Nat} {r : R}, finishedAt w.jobs id = some r → finishedAt jobs id = some r := by
  have hchange := proceed_change hinv.keyed hnext
  -- the row that is written has no result yet
  have hopen : answer.takesEffect = true → ∀ id, delivery.stage.written = some id → finishedAt w.jobs id = none := by
    intro heffect id hwritten
    have hfresh := hfresh heffect
    have hcurrent : delivery.overtaken = false := by
      unfold Delivery.stale at hfresh
      rw [hwritten] at hfresh
      simpa using hfresh
    exact hinv.current hget hcurrent id (written_row hwritten)
  have hfinished : ∀ {id : Nat} {r : R}, finishedAt w.jobs id = some r → finishedAt jobs id = some r := by
    intro id r hfinished
    refine (hchange.finished fun heffect hwritten => ?_).trans hfinished
    rw [hopen heffect id hwritten] at hfinished
    cases hfinished
  have hlength := hchange.rows.length_le
  refine ⟨⟨hchange.rows.keyed hinv.keyed, ?_, ?_, ?_, fun hmem => requested_kept hchange.rows (hinv.requested hmem),
    hinv.texts⟩, hfinished⟩
  · intro j other hother id hid
    obtain ⟨before, hbefore, hsame, -⟩ := overtake_get hother
    rw [hsame] at hid
    rcases getElem?_set_cases hbefore with ⟨-, rfl⟩ | ⟨-, hbefore⟩
    · exact (proceed_atWork hinv.keyed hnext hid).lt (hinv.rows hget) hlength
    · exact (hinv.rows hbefore id hid).trans_le hlength
  · intro j other hother hcurrent id hid
    obtain ⟨before, hbefore, hsame, hmarked⟩ := overtake_get hother
    obtain ⟨hcurrent, hunwritten⟩ := hmarked hcurrent
    rcases getElem?_set_cases hbefore with ⟨-, rfl⟩ | ⟨hne, hbefore⟩
    · rw [hsame] at hid
      exact (proceed_atWork hinv.keyed hnext hid).open hlearns fun k hk => hinv.current hget hcurrent k hk
    · -- another delivery that is not overtaken works on another row
      have hother := hunwritten id hne hid
      rw [hsame] at hid
      refine (hchange.finished fun heffect hwritten => hother ?_).trans (hinv.current hbefore hcurrent id hid)
      rw [if_pos heffect]
      exact hwritten
  · intro id r hmem
    rcases List.mem_append.mp hmem with hmem | hmem
    · exact hfinished (hinv.completed hmem)
    · -- what this call completed
      cases hchange with
      | same | added => cases hmem
      | written k f _ heffect hwrites heq =>
        obtain ⟨rfl, rfl⟩ := hwrites.completed hmem
        rw [heq]
        exact finishedAt_completed (hinv.rows hget _ hwrites.row)

/-- One step keeps the invariant and every result. -/
theorem jobInv_step (hinv : JobInv w) {act : JobAct R} (hok : Undisturbed w act) {o : Unit} (h : jobStep w act = .ok (o, w')) :
    JobInv w' ∧ ∀ {id : Nat} {r : R}, finishedAt w.jobs id = some r → finishedAt w'.jobs id = some r := by
  cases act with
  | createExport applicationId input =>
    obtain ⟨created, hcreated, h⟩ := bind_ok h
    cases h
    obtain ⟨hcreatedInv, hfinished⟩ := jobInv_createExport hinv hok hcreated
    exact ⟨hcreatedInv, fun hbefore => (hfinished _).trans hbefore⟩
  | scan =>
    cases h
    exact ⟨hinv.queues rfl rfl rfl .inl, id⟩
  | enqueue i =>
    cases hget : w.enqueues[i]? with
    | none => simp [jobStep, hget] at h
    | some enqueue =>
      simp only [jobStep, hget] at h
      cases h
      exact ⟨hinv.queues rfl rfl rfl .inl, id⟩
  | schedule kind idempotencyKey =>
    unfold jobStep at h
    by_cases hkind : kind = .exportsGenerate
    · simp [hkind] at h
    · simp only [if_neg hkind] at h
      cases h
      exact ⟨hinv.queues rfl rfl rfl .inl, id⟩
  | deliver maintenance i =>
    cases hget : (if maintenance then w.maintenanceQueue else w.exportQueue)[i]? with
    | none => simp [jobStep, hget] at h
    | some job =>
      simp only [jobStep, hget] at h
      cases h
      refine ⟨hinv.queues rfl rfl rfl fun hdelivery => ?_, id⟩
      rcases getElem?_snoc_cases hdelivery with hdelivery | rfl
      · exact .inl hdelivery
      · exact .inr rfl
  | proceed i answer outcome =>
    cases hget : w.deliveries[i]? with
    | none => simp [jobStep, hget] at h
    | some delivery =>
      simp only [jobStep, hget] at h
      generalize hnext : processCall w.jobs delivery answer outcome = next at h
      obtain ⟨jobs, stage, completions⟩ := next
      cases h
      obtain ⟨hfresh, hlearns⟩ := hok delivery hget
      exact jobInv_proceed hinv hget hfresh hlearns hnext

end Invariant

/-! ## Runs -/

section Runs

variable {acts : List (JobAct R)}

theorem jobInv_run (h : jobRuns.Guarded Undisturbed (.empty : JobWorld R) acts) : JobInv (jobRuns.run .empty acts) := by
  refine Machine.guarded_invariant (P := JobInv) ?_ acts _ jobInv_empty h
  intro w act o w' hinv hok hstep
  exact (jobInv_step hinv hok hstep).1

/-- A result that is there stays through the rest of the run. -/
theorem finished_run {w : JobWorld R} {id : Nat} {r : R} (hinv : JobInv w) (hfinished : finishedAt w.jobs id = some r)
    (h : jobRuns.Guarded Undisturbed w acts) : finishedAt (jobRuns.run w acts).jobs id = some r := by
  have hboth := Machine.guarded_invariant (P := fun w => JobInv w ∧ finishedAt w.jobs id = some r) (m := jobRuns) ?_ acts w
    ⟨hinv, hfinished⟩ h
  · exact hboth.2
  · rintro w act o w' ⟨hinv, hfinished⟩ hok hstep
    obtain ⟨hnext, hkept⟩ := jobInv_step hinv hok hstep
    exact ⟨hnext, hkept hfinished⟩

end Runs

/-- In a run in which no delivery writes after it was overtaken, no answer to a result is lost and no
    range is asked for in other texts: a job that is completed keeps its result, a job that is
    failed was never completed, and one range of an application is one job. -/
theorem jobs_survive (acts later : List (JobAct R))
    (h : jobRuns.Guarded Undisturbed (.empty : JobWorld R) (acts ++ later)) :
    let w := jobRuns.run .empty acts
    let w' := jobRuns.run .empty (acts ++ later)
    (∀ id r, finishedAt w.jobs id = some r → finishedAt w'.jobs id = some r) ∧
      (∀ id job, w'.jobs[id]? = some job → job.status = .failed → ∀ r, (id, r) ∉ w'.completions) ∧
      ∀ q ∈ w'.requests, ∀ q' ∈ w'.requests, SameRange q q' → q.jobId = q'.jobId := by
  intro w w'
  obtain ⟨hacts, hlater⟩ := Machine.guarded_append.mp h
  have hinv : JobInv w' := jobInv_run h
  refine ⟨?_, ?_, ?_⟩
  · intro id r hfinished
    have hrun : w' = jobRuns.run w later := jobRuns.run_append _ _ _
    rw [hrun]
    exact finished_run (jobInv_run hacts) hfinished hlater
  · intro id job hjob hfailed r hmem
    obtain ⟨job', hjob', hcompleted, -⟩ := finishedAt_iff.mp (hinv.completed hmem)
    rw [hjob] at hjob'
    cases hjob'
    rw [hfailed] at hcompleted
    cases hcompleted
  · intro q hq q' hq' hsame
    obtain ⟨job, hjob, hkey⟩ := hinv.requested hq
    obtain ⟨job', hjob', hkey'⟩ := hinv.requested hq'
    obtain ⟨hfrom, hto⟩ := hinv.texts hq hq' hsame
    refine hinv.keyed.key hjob hjob' ?_
    rw [hkey, hkey', ExportRequest.key, ExportRequest.key, hsame.1, hfrom, hto]

def exportInput (from_ to_ : String) : Value :=
  .obj [("from", .str from_), ("to", .str to_), ("reason", .str "audit")]

/-- An export is asked for twice and queued once. Its first delivery crashes while it runs, the
    second overlaps it and completes the job, and the third answers with the result. -/
def exportedTwice : List (JobAct String) :=
  [.createExport "app" (exportInput "2026-01-01T00:00:00Z" "2026-02-01T00:00:00Z"),
    .createExport "app" (exportInput "2026-01-01T00:00:00Z" "2026-02-01T00:00:00Z"),
    .enqueue 0, .enqueue 1, .enqueue 0, .enqueue 1, .deliver false 0, .deliver false 0,
    .proceed 0 .done (.ok ""), .proceed 0 .done (.ok "")] ++
    List.replicate 4 (.proceed 1 .done (.ok "usage.csv")) ++ [.deliver false 0, .proceed 2 .done (.ok "")]

theorem exported_once :
    finishedAt (jobRuns.run .empty (exportedTwice ++ [.scan, .deliver false 0, .proceed 3 .done (.ok "")])).jobs 0 =
      some "usage.csv" :=
  (jobs_survive exportedTwice [.scan, .deliver false 0, .proceed 3 .done (.ok "")] (by decide +kernel)).1 0 "usage.csv"
    (by decide +kernel)

/-- Both deliveries read the row before either writes; the first completes it, the second fails.
    The second request names the same instants by an offset. -/
def overtakenDelivery : List (JobAct String) :=
  [.createExport "app" (exportInput "2026-01-01T00:00:00Z" "2026-02-01T00:00:00Z"), .enqueue 0, .enqueue 0,
    .deliver false 0, .deliver false 0, .proceed 0 .done (.ok ""), .proceed 1 .done (.ok ""),
    .proceed 0 .done (.ok ""), .proceed 0 .done (.ok "usage.csv"), .proceed 0 .done (.ok "")]

def overtakenLater : List (JobAct String) :=
  [.proceed 1 .done (.ok ""), .proceed 1 .done (.error ⟨"JOB_FAILED", "disk full"⟩), .proceed 1 .done (.ok ""),
    .createExport "app" (exportInput "2026-01-01T00:00:00+00:00" "2026-02-01T00:00:00+00:00")]

/-- The result of the first delivery is lost, the job is failed though it was completed, and one
    range has two jobs. -/
theorem result_lost :
    let w := jobRuns.run .empty overtakenDelivery
    let w' := jobRuns.run .empty (overtakenDelivery ++ overtakenLater)
    finishedAt w.jobs 0 = some "usage.csv" ∧ finishedAt w'.jobs 0 = none ∧
      (w'.jobs[0]?.map (·.status)) = some .failed ∧ (0, "usage.csv") ∈ w'.completions ∧
      w'.requests.map (fun q => (q.applicationId, q.start, q.stop, q.jobId)) =
        [("app", 1767225600000, 1769904000000, 0), ("app", 1767225600000, 1769904000000, 1)] := by
  decide +kernel

end TokenPilot.Management
