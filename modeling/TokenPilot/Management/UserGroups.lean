/-
  TokenPilot.Management.UserGroups — the evaluations of one user group: `update` and `evaluate`
  of the API (`user-group.service.ts`) and `refresh` of the worker (`user-groups/refresher.ts`).

  An evaluator reads the row of the group, then the candidates, and writes later, in a
  serializable transaction that updates the row: it commits only when no one else has updated
  the row since the transaction began (`revision`). The acts of any number of evaluators and of
  updates interleave in any way; the lock of the worker in Redis is not relied on, since it
  expires. An evaluator may stop anywhere.
  - The API takes the definition, its version and the time of the latest evaluation from what it
    read before the transaction; the worker reads the latest evaluation inside and compares the
    version there.
  - `evaluations_ordered_iff`: the evaluations are in the order of their times, and the latest is
    one of the current definition whenever the group counts as evaluated, in every state of a
    run, if and only if no commit of the API meets another version of the definition or an
    evaluation as late as its own.
  - The consumers compare the version of the latest evaluation, so they never see the members of
    an older definition (`latest_members`).

  What a condition says of a candidate is a parameter. Left out: names and descriptions, the
  counts of members, and the quota periods that a commit materializes.
-/

import TokenPilot.Library.Machine
import TokenPilot.Quota.Policies

namespace TokenPilot.Management

open Library Quota

/-! ## Definitions -/

inductive DefinitionMatch where
  | all
  | any
  deriving DecidableEq, Repr

structure UserGroupDefinition (Condition : Type) where
  «match» : DefinitionMatch
  conditions : List Condition
  deriving DecidableEq, Repr

/-- What is read of a candidate; `meets` is `matches`. -/
structure Segmentation (Candidate Condition : Type) where
  id : Candidate → Uuid
  meets : Candidate → Condition → Bool

variable {Candidate Condition : Type}

def evaluateUserGroup (segmentation : Segmentation Candidate Condition) (definition : UserGroupDefinition Condition)
    (candidates : List Candidate) : List Candidate :=
  candidates.filter fun candidate =>
    let outcomes := definition.conditions.map (segmentation.meets candidate)
    match definition.match with
    | .all => outcomes.all id
    | .any => outcomes.any id

/-! ## The database -/

structure UserGroupRow (Condition : Type) where
  definition : UserGroupDefinition Condition
  definitionVersion : Nat
  refreshMinutes : Option Nat
  enabled : Bool
  lastEvaluatedAt : Option Timestamp
  deriving DecidableEq, Repr

/-- An evaluation and its members; `candidates` is history: what it was computed from. -/
structure EvaluationRow (Candidate : Type) where
  evaluation : GroupEvaluation
  candidates : List Candidate
  deriving DecidableEq, Repr

/-- The row of the group with the number of its updates, and its evaluations in commit order. -/
structure GroupDatabase (Candidate Condition : Type) where
  group : UserGroupRow Condition
  evaluations : List (EvaluationRow Candidate)
  revision : Nat
  deriving DecidableEq, Repr

namespace GroupDatabase

/-- A group that has just been created. -/
def created (definition : UserGroupDefinition Condition) (refreshMinutes : Option Nat) :
    GroupDatabase Candidate Condition :=
  ⟨⟨definition, 1, refreshMinutes, true, none⟩, [], 0⟩

def times (db : GroupDatabase Candidate Condition) : List Timestamp := db.evaluations.map (·.evaluation.evaluatedAt)

/-- The time of the latest evaluation. -/
def latestTime (db : GroupDatabase Candidate Condition) : Option Timestamp := db.times.max?

/-- The group as the consumers read it. -/
def stored (db : GroupDatabase Candidate Condition) (id applicationId : Uuid) : ApplicationUserGroup :=
  ⟨id, applicationId, db.group.definitionVersion, db.evaluations.map (·.evaluation)⟩

end GroupDatabase

structure GroupChanges (Condition : Type) where
  definition : Option (UserGroupDefinition Condition)
  refreshMinutes : Option (Option Nat)
  enabled : Option Bool
  deriving DecidableEq, Repr

/-- `update` -/
def updateGroup (db : GroupDatabase Candidate Condition) (changes : GroupChanges Condition) :
    GroupDatabase Candidate Condition :=
  { db with
    revision := db.revision + 1
    group :=
      { definition := changes.definition.getD db.group.definition
        definitionVersion := if changes.definition.isSome then db.group.definitionVersion + 1 else db.group.definitionVersion
        lastEvaluatedAt := if changes.definition.isSome then none else db.group.lastEvaluatedAt
        refreshMinutes := changes.refreshMinutes.getD db.group.refreshMinutes
        enabled := changes.enabled.getD db.group.enabled } }

/-! ## Evaluators -/

inductive Evaluator where
  | api
  | worker
  deriving DecidableEq, Repr

/-- An evaluation on its way: what it has read, and the database its transaction began on. -/
structure Evaluating (Candidate Condition : Type) where
  evaluator : Evaluator
  now : Timestamp
  group : Option (UserGroupRow Condition) := none
  /-- The API's read of the latest evaluation. -/
  latest : Option (Option Timestamp) := none
  candidates : Option (List Candidate) := none
  snapshot : Option (GroupDatabase Candidate Condition) := none
  deriving DecidableEq, Repr

/-- Not before the latest evaluation that is known. -/
def evaluationTime (latest : Option Timestamp) (now : Timestamp) : Timestamp :=
  match latest with
  | some time => if now ≤ time then time + 1 else now
  | none => now

structure GroupState (Candidate Condition : Type) where
  db : GroupDatabase Candidate Condition
  sessions : List (Evaluating Candidate Condition)
  deriving DecidableEq, Repr

inductive GroupAct (Candidate Condition : Type) where
  | update (changes : GroupChanges Condition)
  | start (evaluator : Evaluator) (now : Timestamp)
  | readGroup (session : Nat)
  | readLatest (session : Nat)
  | load (session : Nat) (candidates : List Candidate)
  | begin (session : Nat)
  | commit (session : Nat)
  | abandon (session : Nat)

inductive GroupReply where
  | done
  /-- The evaluation ends in an error. -/
  | failed
  deriving DecidableEq, Repr

/-- `refreshDue` takes the group. -/
def due (group : UserGroupRow Condition) (now : Timestamp) : Bool :=
  group.enabled && group.refreshMinutes.any fun minutes =>
    group.lastEvaluatedAt.all fun last => last + minutes * 60000 ≤ now

/-- What the transaction writes, from the latest time it goes by. -/
def written (segmentation : Segmentation Candidate Condition) (db : GroupDatabase Candidate Condition)
    (group : UserGroupRow Condition) (candidates : List Candidate) (evaluatedAt : Timestamp) :
    GroupDatabase Candidate Condition :=
  { revision := db.revision + 1
    group := { db.group with lastEvaluatedAt := some evaluatedAt }
    evaluations := db.evaluations ++ [{ candidates, evaluation :=
      { evaluatedAt
        definitionVersion := group.definitionVersion
        members := (evaluateUserGroup segmentation group.definition candidates).map segmentation.id } }] }

namespace Evaluating

/-- The latest time a commit goes by. -/
def knownLatest (session : Evaluating Candidate Condition) (snapshot : GroupDatabase Candidate Condition) : Option Timestamp :=
  match session.evaluator with
  | .api => session.latest.join
  | .worker => snapshot.latestTime

def evaluatedAt (session : Evaluating Candidate Condition) (snapshot : GroupDatabase Candidate Condition) : Timestamp :=
  evaluationTime (session.knownLatest snapshot) session.now

end Evaluating

/-- What the transaction checks of the row; the API checks nothing. -/
def transactionChecks (session : Evaluating Candidate Condition) (group : UserGroupRow Condition)
    (db : GroupDatabase Candidate Condition) : Bool :=
  match session.evaluator with
  | .api => true
  | .worker => db.group.enabled && db.group.definitionVersion = group.definitionVersion

/-- The session's read of the row; the worker takes a group that is due. -/
def readGroup (session : Evaluating Candidate Condition) (db : GroupDatabase Candidate Condition) :
    Except Unit (Option (Evaluating Candidate Condition)) :=
  match session.group with
  | some _ => .error ()
  | none =>
    if session.evaluator = .worker && !due db.group session.now then .ok none
    else .ok (some { session with group := some db.group })

def readLatest (session : Evaluating Candidate Condition) (db : GroupDatabase Candidate Condition) :
    Except Unit (Option (Evaluating Candidate Condition)) :=
  match session.evaluator, session.group, session.latest with
  | .api, some _, none => .ok (some { session with latest := some db.latestTime })
  | _, _, _ => .error ()

/-- The candidates, for a group that is enabled as the session read it. -/
def loadCandidates (session : Evaluating Candidate Condition) (candidates : List Candidate) :
    Except Unit (Option (Evaluating Candidate Condition)) :=
  match session.group, session.candidates with
  | some group, none =>
    if session.evaluator = .api && session.latest.isNone then .error ()
    else if group.enabled then .ok (some { session with candidates := some candidates })
    else .ok none
  | _, _ => .error ()

def beginTransaction (session : Evaluating Candidate Condition) (db : GroupDatabase Candidate Condition) :
    Except Unit (Option (Evaluating Candidate Condition)) :=
  match session.group, session.candidates, session.snapshot with
  | some group, some _, none =>
    if transactionChecks session group db then .ok (some { session with snapshot := some db }) else .ok none
  | _, _, _ => .error ()

/-- The database after the commit, or nothing where the row was updated meanwhile. -/
def commitEvaluation (segmentation : Segmentation Candidate Condition) (session : Evaluating Candidate Condition)
    (db : GroupDatabase Candidate Condition) : Except Unit (Option (GroupDatabase Candidate Condition)) :=
  match session.group, session.candidates, session.snapshot with
  | some group, some candidates, some snapshot =>
    if db.revision = snapshot.revision then
      .ok (some (written segmentation db group candidates (session.evaluatedAt snapshot)))
    else .ok none
  | _, _, _ => .error ()

/-- A session goes on, or ends in an error. -/
def proceed (s : GroupState Candidate Condition) (i : Nat)
    (act : Evaluating Candidate Condition → Except Unit (Option (Evaluating Candidate Condition))) :
    Except Unit (GroupReply × GroupState Candidate Condition) :=
  match s.sessions[i]? with
  | none => .error ()
  | some session =>
    match act session with
    | .error _ => .error ()
    | .ok none => .ok (.failed, { s with sessions := s.sessions.eraseIdx i })
    | .ok (some next) => .ok (.done, { s with sessions := s.sessions.set i next })

def groups (segmentation : Segmentation Candidate Condition) :
    Machine (GroupState Candidate Condition) (GroupAct Candidate Condition) GroupReply Unit where
  exec s
    | .update changes => .ok (.done, { s with db := updateGroup s.db changes })
    | .start evaluator now => .ok (.done, { s with sessions := s.sessions ++ [{ evaluator, now }] })
    | .readGroup i => proceed s i fun session => readGroup session s.db
    | .readLatest i => proceed s i fun session => readLatest session s.db
    | .load i candidates => proceed s i fun session => loadCandidates session candidates
    | .begin i => proceed s i fun session => beginTransaction session s.db
    | .commit i =>
      match s.sessions[i]? with
      | none => .error ()
      | some session =>
        match commitEvaluation segmentation session s.db with
        | .error _ => .error ()
        | .ok none => .ok (.failed, { s with sessions := s.sessions.eraseIdx i })
        | .ok (some db) => .ok (.done, { db, sessions := s.sessions.eraseIdx i })
    | .abandon i => .ok (.done, { s with sessions := s.sessions.eraseIdx i })

/-! ## What every run keeps -/

section Runs

variable {segmentation : Segmentation Candidate Condition} {db db' : GroupDatabase Candidate Condition}
  {session next : Evaluating Candidate Condition} {s s' : GroupState Candidate Condition}

/-- The members of a row are those that its definition selects. -/
def Selected (segmentation : Segmentation Candidate Condition) (definition : UserGroupDefinition Condition)
    (row : EvaluationRow Candidate) : Prop :=
  row.evaluation.members = (evaluateUserGroup segmentation definition row.candidates).map segmentation.id

/-- No evaluation is of a later version than the current one, and those of it are of its definition. -/
def VersionsKept (segmentation : Segmentation Candidate Condition) (db : GroupDatabase Candidate Condition) : Prop :=
  ∀ row ∈ db.evaluations, row.evaluation.definitionVersion ≤ db.group.definitionVersion ∧
    (row.evaluation.definitionVersion = db.group.definitionVersion → Selected segmentation db.group.definition row)

/-- What a session has read is of this database, earlier or now. -/
structure ReadFrom (db : GroupDatabase Candidate Condition) (session : Evaluating Candidate Condition) : Prop where
  group : ∀ group, session.group = some group → group.definitionVersion ≤ db.group.definitionVersion ∧
    (group.definitionVersion = db.group.definitionVersion → group.definition = db.group.definition)
  snapshot : ∀ snapshot, session.snapshot = some snapshot →
    snapshot.revision ≤ db.revision ∧ (snapshot.revision = db.revision → snapshot = db)
  worker : session.evaluator = .worker → ∀ group snapshot, session.group = some group → session.snapshot = some snapshot →
    group.definitionVersion = snapshot.group.definitionVersion
  began : session.group = none → session.snapshot = none

structure Faithful (segmentation : Segmentation Candidate Condition) (s : GroupState Candidate Condition) : Prop where
  versions : VersionsKept segmentation s.db
  sessions : ∀ session ∈ s.sessions, ReadFrom s.db session

theorem Faithful.proceed {i : Nat} {reply : GroupReply}
    {act : Evaluating Candidate Condition → Except Unit (Option (Evaluating Candidate Condition))}
    (h : Faithful segmentation s) (hproceed : Management.proceed s i act = .ok (reply, s'))
    (hact : ∀ session next, ReadFrom s.db session → act session = .ok (some next) → ReadFrom s.db next) :
    s'.db = s.db ∧ Faithful segmentation s' := by
  unfold Management.proceed at hproceed
  split at hproceed
  · cases hproceed
  rename_i session hsession
  split at hproceed
  · cases hproceed
  · cases hproceed
    exact ⟨rfl, h.versions, fun other hother => h.sessions other (List.mem_of_mem_eraseIdx hother)⟩
  · rename_i next hnext
    cases hproceed
    refine ⟨rfl, h.versions, fun other hother => ?_⟩
    rcases List.mem_or_eq_of_mem_set hother with hold | rfl
    · exact h.sessions other hold
    · exact hact session other (h.sessions session (List.mem_of_getElem? hsession)) hnext

/-- What was read stays of an earlier database when the row is updated. -/
theorem ReadFrom.later (h : ReadFrom db session) (hrevision : db.revision < db'.revision)
    (hversion : db.group.definitionVersion ≤ db'.group.definitionVersion ∧
      (db.group.definitionVersion = db'.group.definitionVersion → db.group.definition = db'.group.definition)) :
    ReadFrom db' session where
  group group hgroup := by
    obtain ⟨hle, hsame⟩ := h.group group hgroup
    refine ⟨hle.trans hversion.1, fun heq => ?_⟩
    have hfirst : group.definitionVersion = db.group.definitionVersion := le_antisymm hle (heq ▸ hversion.1)
    exact (hsame hfirst).trans (hversion.2 (hfirst.symm.trans heq))
  snapshot snapshot hsnapshot := by
    have hle := (h.snapshot snapshot hsnapshot).1
    exact ⟨by omega, fun heq => by omega⟩
  worker := h.worker
  began := h.began

theorem VersionsKept.later (h : VersionsKept segmentation db) (hevaluations : db'.evaluations = db.evaluations)
    (hversion : db.group.definitionVersion ≤ db'.group.definitionVersion ∧
      (db.group.definitionVersion = db'.group.definitionVersion → db.group.definition = db'.group.definition)) :
    VersionsKept segmentation db' := by
  intro row hrow
  rw [hevaluations] at hrow
  obtain ⟨hle, hselected⟩ := h row hrow
  refine ⟨hle.trans hversion.1, fun heq => ?_⟩
  have hfirst : row.evaluation.definitionVersion = db.group.definitionVersion := le_antisymm hle (heq ▸ hversion.1)
  rw [← hversion.2 (hfirst.symm.trans heq)]
  exact hselected hfirst

theorem updateGroup_versions (changes : GroupChanges Condition) :
    db.group.definitionVersion ≤ (updateGroup db changes).group.definitionVersion ∧
      (db.group.definitionVersion = (updateGroup db changes).group.definitionVersion →
        db.group.definition = (updateGroup db changes).group.definition) := by
  unfold updateGroup
  cases changes.definition with
  | none => exact ⟨le_refl _, fun _ => rfl⟩
  | some definition => exact ⟨by simp, fun heq => by simp at heq⟩

theorem readGroup_from (h : ReadFrom db session) (hread : readGroup session db = .ok (some next)) : ReadFrom db next := by
  unfold readGroup at hread
  split at hread
  · cases hread
  rename_i hnone
  split at hread
  · cases hread
  · cases hread
    refine ⟨?_, h.snapshot, ?_, nofun⟩
    · rintro _ ⟨⟩
      exact ⟨le_refl _, fun _ => rfl⟩
    · intro _ group snapshot _ hsnapshot
      rw [h.began hnone] at hsnapshot
      cases hsnapshot

theorem readLatest_from (h : ReadFrom db session) (hread : readLatest session db = .ok (some next)) : ReadFrom db next := by
  unfold readLatest at hread
  split at hread
  · cases hread
    exact ⟨h.group, h.snapshot, h.worker, h.began⟩
  · cases hread

theorem loadCandidates_from {candidates : List Candidate} (h : ReadFrom db session)
    (hload : loadCandidates session candidates = .ok (some next)) : ReadFrom db next := by
  unfold loadCandidates at hload
  split at hload
  · split at hload
    · cases hload
    · split at hload
      · cases hload
        exact ⟨h.group, h.snapshot, h.worker, h.began⟩
      · cases hload
  · cases hload

theorem beginTransaction_from (h : ReadFrom db session) (hbegin : beginTransaction session db = .ok (some next)) :
    ReadFrom db next := by
  unfold beginTransaction at hbegin
  split at hbegin
  · rename_i group _ hgroup _ _
    split at hbegin
    · rename_i hchecks
      cases hbegin
      refine ⟨h.group, ?_, ?_, ?_⟩
      · rintro _ ⟨⟩
        exact ⟨le_refl _, fun _ => rfl⟩
      · -- the worker has compared the versions
        intro hworker other snapshot hother hsnapshot
        cases hsnapshot
        rw [hgroup] at hother
        cases hother
        dsimp only at hworker
        simp only [transactionChecks, hworker, Bool.and_eq_true, decide_eq_true_eq] at hchecks
        exact hchecks.2.symm
      · intro hnone
        dsimp only at hnone
        rw [hgroup] at hnone
        cases hnone
    · cases hbegin
  · cases hbegin

theorem commitEvaluation_ok (hcommit : commitEvaluation segmentation session db = .ok (some db')) :
    ∃ group candidates snapshot, session.group = some group ∧ session.candidates = some candidates ∧
      session.snapshot = some snapshot ∧ snapshot.revision = db.revision ∧
      db' = written segmentation db group candidates (session.evaluatedAt snapshot) := by
  unfold commitEvaluation at hcommit
  split at hcommit
  · rename_i group candidates snapshot hgroup hcandidates hsnapshot
    split at hcommit
    · rename_i hrevision
      cases hcommit
      exact ⟨group, candidates, snapshot, hgroup, hcandidates, hsnapshot, hrevision.symm, rfl⟩
    · cases hcommit
  · cases hcommit

theorem written_versions {group : UserGroupRow Condition} {candidates : List Candidate} {time : Timestamp}
    (h : VersionsKept segmentation db) (hgroup : group.definitionVersion ≤ db.group.definitionVersion ∧
      (group.definitionVersion = db.group.definitionVersion → group.definition = db.group.definition)) :
    VersionsKept segmentation (written segmentation db group candidates time) := by
  intro row hrow
  rcases List.mem_append.mp hrow with hold | hnew
  · exact h row hold
  · rw [List.mem_singleton.mp hnew]
    refine ⟨hgroup.1, fun heq => ?_⟩
    show _ = (evaluateUserGroup segmentation db.group.definition candidates).map segmentation.id
    rw [← hgroup.2 heq]

theorem faithful_step (h : Faithful segmentation s) {act : GroupAct Candidate Condition} {reply : GroupReply}
    (hexec : (groups segmentation).exec s act = .ok (reply, s')) : Faithful segmentation s' := by
  cases act with
  | update changes =>
    cases hexec
    refine ⟨h.versions.later rfl (updateGroup_versions changes), fun session hsession => ?_⟩
    exact (h.sessions session hsession).later (Nat.lt_succ_self _) (updateGroup_versions changes)
  | start evaluator now =>
    cases hexec
    refine ⟨h.versions, fun session hsession => ?_⟩
    rcases List.mem_append.mp hsession with hold | hnew
    · exact h.sessions session hold
    · rw [List.mem_singleton.mp hnew]
      exact ⟨nofun, nofun, nofun, fun _ => rfl⟩
  | readGroup i => exact (h.proceed hexec fun _ _ => readGroup_from).2
  | readLatest i => exact (h.proceed hexec fun _ _ => readLatest_from).2
  | load i candidates => exact (h.proceed hexec fun _ _ => loadCandidates_from).2
  | begin i => exact (h.proceed hexec fun _ _ => beginTransaction_from).2
  | commit i =>
    simp only [groups] at hexec
    split at hexec
    · cases hexec
    rename_i session hsession
    split at hexec
    · cases hexec
    · cases hexec
      exact ⟨h.versions, fun other hother => h.sessions other (List.mem_of_mem_eraseIdx hother)⟩
    · rename_i db hcommit
      cases hexec
      obtain ⟨group, candidates, snapshot, hgroup, -, -, -, rfl⟩ := commitEvaluation_ok hcommit
      have hread := (h.sessions session (List.mem_of_getElem? hsession)).group group hgroup
      refine ⟨written_versions h.versions hread, fun other hother => ?_⟩
      exact (h.sessions other (List.mem_of_mem_eraseIdx hother)).later (Nat.lt_succ_self _) ⟨le_refl _, fun _ => rfl⟩
  | abandon i =>
    cases hexec
    exact ⟨h.versions, fun session hsession => h.sessions session (List.mem_of_mem_eraseIdx hsession)⟩

/-! ## The latest evaluation -/

/-- The evaluations are in the order of their times, and where the group counts as evaluated the
    latest is of the current definition, with the members it selects. -/
structure Current (segmentation : Segmentation Candidate Condition) (db : GroupDatabase Candidate Condition) : Prop where
  ordered : db.times.Pairwise (· < ·)
  current : ∀ time, db.group.lastEvaluatedAt = some time → ∃ row ∈ db.evaluations, row.evaluation.evaluatedAt = time ∧
    (∀ other ∈ db.times, other ≤ time) ∧ row.evaluation.definitionVersion = db.group.definitionVersion ∧
    Selected segmentation db.group.definition row

/-- A commit of the API meets the definition it has read, and its evaluation is the latest. -/
def Timely (s : GroupState Candidate Condition) : GroupAct Candidate Condition → Prop
  | .commit i => ∀ session, s.sessions[i]? = some session → session.evaluator = .api →
    ∀ group candidates snapshot, session.group = some group → session.candidates = some candidates →
      session.snapshot = some snapshot → snapshot.revision = s.db.revision →
        group.definitionVersion = s.db.group.definitionVersion ∧ ∀ time ∈ s.db.times, time < session.evaluatedAt snapshot
  | _ => True

theorem evaluationTime_after {now : Timestamp} {time : Timestamp} (htime : time ∈ db.times) :
    time < evaluationTime db.latestTime now := by
  cases hmax : db.latestTime with
  | none =>
    rw [GroupDatabase.latestTime, List.max?_eq_none_iff] at hmax
    rw [hmax] at htime
    cases htime
  | some latest =>
    have hle : time ≤ latest := (List.max?_eq_some_iff.mp hmax).2 time htime
    unfold evaluationTime
    dsimp only
    split
    · exact Int.lt_add_one_of_le hle
    · rename_i hlate
      exact lt_of_le_of_lt hle (not_le.mp hlate)

theorem written_current_iff {group : UserGroupRow Condition} {candidates : List Candidate} {time : Timestamp}
    (h : Current segmentation db)
    (hgroup : group.definitionVersion = db.group.definitionVersion → group.definition = db.group.definition) :
    Current segmentation (written segmentation db group candidates time) ↔
      group.definitionVersion = db.group.definitionVersion ∧ ∀ earlier ∈ db.times, earlier < time := by
  have htimes : (written segmentation db group candidates time).times = db.times ++ [time] := by
    simp [GroupDatabase.times, written]
  constructor
  · intro hcurrent
    have hordered := hcurrent.ordered
    rw [htimes, List.pairwise_append] at hordered
    have hearlier : ∀ earlier ∈ db.times, earlier < time := fun earlier hmem =>
      hordered.2.2 earlier hmem time (List.mem_singleton_self _)
    obtain ⟨row, hrow, hat, -, hversion, -⟩ := hcurrent.current time rfl
    rcases List.mem_append.mp hrow with hold | hnew
    · have hlt := hearlier _ (List.mem_map_of_mem hold)
      exact absurd hat hlt.ne
    · rw [List.mem_singleton.mp hnew] at hversion
      exact ⟨hversion, hearlier⟩
  · rintro ⟨hversion, hearlier⟩
    refine ⟨?_, ?_⟩
    · rw [htimes, List.pairwise_append]
      refine ⟨h.ordered, List.pairwise_singleton _ _, fun earlier hmem last hlast => ?_⟩
      rw [List.mem_singleton.mp hlast]
      exact hearlier earlier hmem
    · rintro _ ⟨⟩
      refine ⟨_, List.mem_append_right _ (List.mem_singleton_self _), rfl, fun other hother => ?_, hversion, ?_⟩
      · rw [htimes] at hother
        rcases List.mem_append.mp hother with hold | hnew
        · exact (hearlier other hold).le
        · exact (List.mem_singleton.mp hnew).le
      · show _ = (evaluateUserGroup segmentation db.group.definition candidates).map segmentation.id
        rw [← hgroup hversion]

theorem updateGroup_current (h : Current segmentation db) (changes : GroupChanges Condition) :
    Current segmentation (updateGroup db changes) := by
  refine ⟨h.ordered, fun time htime => ?_⟩
  unfold updateGroup at htime ⊢
  cases hdefinition : changes.definition with
  | none =>
    rw [hdefinition] at htime
    exact h.current time htime
  | some definition =>
    rw [hdefinition] at htime
    cases htime

theorem current_commit_iff (h : Faithful segmentation s) (hcurrent : Current segmentation s.db) (i : Nat) :
    Current segmentation ((groups segmentation).step s (.commit i)).db ↔ Timely s (.commit i) := by
  cases hsession : s.sessions[i]? with
  | none =>
    have hexec : (groups segmentation).exec s (.commit i) = .error () := by simp only [groups, hsession]
    rw [Machine.step_of_error _ hexec]
    refine iff_of_true hcurrent fun session hthis => ?_
    rw [hsession] at hthis
    cases hthis
  | some session =>
    have hread := h.sessions session (List.mem_of_getElem? hsession)
    have htimely : Timely s (.commit i) ↔ (session.evaluator = .api → ∀ group candidates snapshot,
        session.group = some group → session.candidates = some candidates → session.snapshot = some snapshot →
        snapshot.revision = s.db.revision → group.definitionVersion = s.db.group.definitionVersion ∧
          ∀ time ∈ s.db.times, time < session.evaluatedAt snapshot) := by
      simp only [Timely, hsession, Option.some.injEq, forall_eq']
    rw [htimely]
    cases hcommit : commitEvaluation segmentation session s.db with
    | error e =>
      have hexec : (groups segmentation).exec s (.commit i) = .error () := by simp only [groups, hsession, hcommit]
      rw [Machine.step_of_error _ hexec]
      refine iff_of_true hcurrent fun _ group candidates snapshot hgroup hcandidates hsnapshot hrevision => ?_
      simp [commitEvaluation, hgroup, hcandidates, hsnapshot, hrevision] at hcommit
    | ok result =>
      cases result with
      | none =>
        have hexec : (groups segmentation).exec s (.commit i) = .ok (.failed, { s with sessions := s.sessions.eraseIdx i }) := by
          simp only [groups, hsession, hcommit]
        rw [Machine.step_of_ok _ hexec]
        refine iff_of_true hcurrent fun _ group candidates snapshot hgroup hcandidates hsnapshot hrevision => ?_
        simp [commitEvaluation, hgroup, hcandidates, hsnapshot, hrevision] at hcommit
      | some db =>
        have hexec : (groups segmentation).exec s (.commit i) = .ok (.done, { db, sessions := s.sessions.eraseIdx i }) := by
          simp only [groups, hsession, hcommit]
        rw [Machine.step_of_ok _ hexec]
        obtain ⟨group, candidates, snapshot, hgroup, hcandidates, hsnapshot, hrevision, rfl⟩ := commitEvaluation_ok hcommit
        rw [written_current_iff hcurrent (hread.group group hgroup).2]
        cases hevaluator : session.evaluator with
        | api =>
          constructor
          · intro hmet _ other _ begun hother _ hbegun _
            rw [hgroup] at hother
            rw [hsnapshot] at hbegun
            cases hother
            cases hbegun
            exact hmet
          · exact fun hall => hall rfl group candidates snapshot hgroup hcandidates hsnapshot hrevision
        | worker =>
          -- the row is as the transaction found it, so the worker has compared and read what is there
          have hsame : snapshot = s.db := (hread.snapshot snapshot hsnapshot).2 hrevision
          refine iff_of_true ⟨?_, fun time htime => ?_⟩ nofun
          · rw [← hsame]
            exact hread.worker hevaluator group snapshot hgroup hsnapshot
          · simp only [Evaluating.evaluatedAt, Evaluating.knownLatest, hevaluator]
            rw [hsame]
            exact evaluationTime_after htime

theorem current_step_iff (h : Faithful segmentation s) (hcurrent : Current segmentation s.db)
    (act : GroupAct Candidate Condition) : Current segmentation ((groups segmentation).step s act).db ↔ Timely s act := by
  have hkept : ∀ {act}, (∀ reply s', (groups segmentation).exec s act = .ok (reply, s') → s'.db = s.db) →
      Current segmentation ((groups segmentation).step s act).db := by
    intro act hsame
    rcases (groups segmentation).step_cases s act with ⟨reply, hexec⟩ | hstay
    · rw [hsame reply _ hexec]
      exact hcurrent
    · rw [hstay]
      exact hcurrent
  cases act with
  | commit i => exact current_commit_iff h hcurrent i
  | update changes => exact iff_of_true (updateGroup_current hcurrent changes) trivial
  | start | abandon =>
    exact iff_of_true hcurrent trivial
  | readGroup i => exact iff_of_true (hkept fun _ _ hexec => (h.proceed hexec fun _ _ => readGroup_from).1) trivial
  | readLatest i => exact iff_of_true (hkept fun _ _ hexec => (h.proceed hexec fun _ _ => readLatest_from).1) trivial
  | load i candidates =>
    exact iff_of_true (hkept fun _ _ hexec => (h.proceed hexec fun _ _ => loadCandidates_from).1) trivial
  | begin i => exact iff_of_true (hkept fun _ _ hexec => (h.proceed hexec fun _ _ => beginTransaction_from).1) trivial

theorem current_run_iff (h : Faithful segmentation s) (hcurrent : Current segmentation s.db)
    (acts : List (GroupAct Candidate Condition)) :
    (∀ before after, acts = before ++ after → Current segmentation ((groups segmentation).run s before).db) ↔
      (groups segmentation).Guarded Timely s acts := by
  induction acts generalizing s with
  | nil =>
    refine iff_of_true (fun before after hacts => ?_) trivial
    rw [(List.append_eq_nil_iff.mp hacts.symm).1]
    exact hcurrent
  | cons act rest ih =>
    have hstep := current_step_iff h hcurrent act
    have hfaithful : Faithful segmentation ((groups segmentation).step s act) := by
      rcases (groups segmentation).step_cases s act with ⟨reply, hexec⟩ | hstay
      · exact faithful_step h hexec
      · rw [hstay]
        exact h
    constructor
    · intro hall
      have hnext : Current segmentation ((groups segmentation).step s act).db := hall [act] rest rfl
      refine ⟨hstep.mp hnext, (ih hfaithful hnext).mp fun before after hacts => ?_⟩
      exact hall (act :: before) after (by rw [hacts, List.cons_append])
    · rintro ⟨htimely, hguarded⟩ before after hacts
      cases before with
      | nil => exact hcurrent
      | cons first before =>
        obtain ⟨rfl, hrest⟩ := List.cons.inj hacts
        exact (ih hfaithful (hstep.mpr htimely)).mpr hguarded before after hrest

/-! ## The consumers -/

/-- The members that the audience of routes, the quota rules and the group actions go by. -/
def currentMembers (group : ApplicationUserGroup) : Option (List Uuid) :=
  ((latestEvaluation group).filter fun evaluation => evaluation.definitionVersion = group.definitionVersion).map (·.members)

theorem latestEvaluation_mem {group : ApplicationUserGroup} {evaluation : GroupEvaluation}
    (h : latestEvaluation group = some evaluation) : evaluation ∈ group.evaluations := by
  have hmem := List.mem_of_head? h
  exact (List.mem_insertionSort _).mp hmem

theorem latest_members (h : VersionsKept segmentation db) {id applicationId : Uuid} {evaluation : GroupEvaluation}
    (hlatest : latestEvaluation (db.stored id applicationId) = some evaluation)
    (hversion : evaluation.definitionVersion = db.group.definitionVersion) :
    ∃ row ∈ db.evaluations, evaluation.members =
      (evaluateUserGroup segmentation db.group.definition row.candidates).map segmentation.id := by
  obtain ⟨row, hrow, rfl⟩ := List.mem_map.mp (latestEvaluation_mem hlatest)
  exact ⟨row, hrow, (h row hrow).2 hversion⟩

end Runs

/-- From the creation of a group on, its evaluations are in order and the latest is current, in
    every state of a run, if and only if every commit of the API is timely; and in every state the
    members that are read are those that the current definition selects. -/
theorem evaluations_ordered_iff (segmentation : Segmentation Candidate Condition)
    (definition : UserGroupDefinition Condition) (refreshMinutes : Option Nat) (acts : List (GroupAct Candidate Condition)) :
    let start : GroupState Candidate Condition := ⟨.created definition refreshMinutes, []⟩
    ((∀ before after, acts = before ++ after → Current segmentation ((groups segmentation).run start before).db) ↔
        (groups segmentation).Guarded Timely start acts) ∧
      ∀ id applicationId, let db := ((groups segmentation).run start acts).db
        (∀ members, currentMembers (db.stored id applicationId) = some members → ∃ row ∈ db.evaluations,
          members = (evaluateUserGroup segmentation db.group.definition row.candidates).map segmentation.id) ∧
        ∀ (store : QuotaStore) userId policy,
          store.groups.find? (fun g => g.applicationId == policy.applicationId && some g.id == policy.userGroupId) =
            some (db.stored id applicationId) → groupApplies store userId policy = true → ∃ row ∈ db.evaluations,
              userId ∈ (evaluateUserGroup segmentation db.group.definition row.candidates).map segmentation.id := by
  intro start
  have hfaithful : Faithful segmentation start :=
    ⟨fun row hrow => absurd hrow List.not_mem_nil, fun session hsession => absurd hsession List.not_mem_nil⟩
  have hcurrent : Current segmentation start.db := ⟨List.Pairwise.nil, nofun⟩
  refine ⟨current_run_iff hfaithful hcurrent acts, fun id applicationId => ?_⟩
  intro db
  have hversions : VersionsKept segmentation db :=
    ((groups segmentation).run_invariant (fun s act reply s' hs hexec => faithful_step hs hexec) acts start hfaithful).versions
  refine ⟨fun members hmembers => ?_, fun store userId policy hfind happlies => ?_⟩
  · obtain ⟨evaluation, hfiltered, rfl⟩ := Option.map_eq_some_iff.mp hmembers
    obtain ⟨hlatest, hversion⟩ := Option.filter_eq_some_iff.mp hfiltered
    exact latest_members hversions hlatest (of_decide_eq_true hversion)
  · unfold groupApplies at happlies
    rw [hfind] at happlies
    simp only [Bool.and_eq_true] at happlies
    cases hlatest : latestEvaluation (db.stored id applicationId) with
    | none => simp [hlatest] at happlies
    | some evaluation =>
      simp only [hlatest, Bool.and_eq_true, beq_iff_eq] at happlies
      obtain ⟨row, hrow, hmembers⟩ := latest_members hversions hlatest happlies.2.1
      refine ⟨row, hrow, ?_⟩
      rw [← hmembers]
      exact List.contains_iff_mem.mp happlies.2.2

/-! ## A stale evaluation -/

/-- The candidates are numbers, and a condition is the least of those it takes. -/
def numbered : Segmentation Nat Nat := ⟨id, fun candidate least => least ≤ candidate⟩

/-- The API reads the group and the candidates, the definition is changed, and the API commits. -/
def overtaken : List (GroupAct Nat Nat) :=
  [.start .api 1000, .readGroup 0, .readLatest 0, .load 0 [1, 2, 3], .update ⟨some ⟨.all, [3]⟩, none, none⟩, .begin 0,
    .commit 0]

theorem overtaken_not_current :
    let db := ((groups numbered).run ⟨.created ⟨.all, [1]⟩ none, []⟩ overtaken).db
    db.group.lastEvaluatedAt = some 1000 ∧ db.group.definitionVersion = 2 ∧
      db.evaluations.map (·.evaluation) = [⟨1000, 1, [1, 2, 3]⟩] ∧ ¬ Current numbered db := by
  intro db
  have hdb : db.group.lastEvaluatedAt = some 1000 ∧ db.group.definitionVersion = 2 ∧
      db.evaluations.map (·.evaluation) = [⟨1000, 1, [1, 2, 3]⟩] := by decide
  refine ⟨hdb.1, hdb.2.1, hdb.2.2, fun hcurrent => ?_⟩
  obtain ⟨row, hrow, -, -, hversion, -⟩ := hcurrent.current 1000 hdb.1
  have hmem : row.evaluation ∈ db.evaluations.map (·.evaluation) := List.mem_map_of_mem hrow
  rw [hdb.2.2, List.mem_singleton] at hmem
  rw [hmem, hdb.2.1] at hversion
  cases hversion

end TokenPilot.Management
