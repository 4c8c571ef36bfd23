/-
  TokenPilot.Runtime.Versions — the version table of one application and the runs that write
  it: `publish`, `restore` and the access publications (`publishWithin`) of user, group and
  application updates.

  A run is a sequence of moves, and the moves of different runs interleave in any way. A read
  sees what is committed; inside a transaction also what the transaction wrote (READ
  COMMITTED). `publish` and `restore` read the latest version and the audience in either order
  and open their transaction afterwards; an access publication runs inside the transaction that
  updates the users, reads the published row first, then the latest version and the blocked
  users.

  The UPDATE that retires takes the rows that are published when it starts. It locks them one by
  one, waits for a row that another transaction has locked, and then takes only those still
  published. The INSERT fails on a committed row with its version or etag, and waits while
  another transaction holds one that is not committed. A move that waits is refused. A run can
  fail at any move; nothing it wrote stays.

  Left out: the audit entries, the outbox rows of changed users, and `lastPublishedVersion`.
  User edits that keep the status are left out too. The column `snapshot_json` does not keep
  the order of keys, at which the verification does not look (`canonical_iff`); it is kept here.
-/

import Mathlib.Data.List.MinMax
import TokenPilot.Library.Machine
import TokenPilot.Runtime.Republication

namespace TokenPilot.Runtime

open Library

/-! ## Rows -/

inductive PublicationStatus where
  | draft
  | published
  | retired
  | unknown
  deriving DecidableEq, Repr

/-- Which kind of run created a row. -/
inductive Origin where
  | publish
  | restore
  | access
  deriving DecidableEq, Repr

structure VersionRow where
  version : Nat
  status : PublicationStatus
  snapshot : Snapshot
  origin : Origin

def VersionRow.stored (row : VersionRow) : StoredSnapshot :=
  ⟨row.snapshot.etag, row.snapshot.signature, row.snapshot.toJson⟩

def latestVersion (rows : List VersionRow) : Nat := (rows.map (·.version)).max?.getD 0

def publishedRows (rows : List VersionRow) : List VersionRow := rows.filter (·.status = .published)

/-- The published row of the greatest version. -/
def publishedRow (rows : List VersionRow) : Option VersionRow := (publishedRows rows).argmax (·.version)

def VersionRow.retire (retired : List Nat) (row : VersionRow) : VersionRow :=
  if row.version ∈ retired then { row with status := .retired } else row

/-! ## Access changes -/

inductive AccessChange where
  | user (externalId : String) (blocked : Bool)
  | group (members : List String) (blocked : Bool)
  | application

def AccessChange.members : AccessChange → List String
  | .user externalId _ => [externalId]
  | .group members _ => members
  | .application => []

def AccessChange.status : AccessChange → UserStatus
  | .user _ blocked | .group _ blocked => if blocked then .blocked else .active
  | .application => .active

def AccessChange.apply (change : AccessChange) (users : List RouteAudienceUser) : List RouteAudienceUser :=
  users.map fun user => if user.externalId ∈ change.members then { user with status := change.status } else user

/-! ## Runs -/

/-- A run with everything it reads besides versions and users. -/
inductive Job where
  | publish (input : PublicationInput)
  | restore (input : RestoreInput)
  | access (change : AccessChange) (input : AccessInput)

def Job.origin : Job → Origin
  | .publish _ => .publish
  | .restore _ => .restore
  | .access _ _ => .access

/-- What a run has read. -/
structure Reads where
  row : Option (Option VersionRow) := none
  latest : Option Nat := none
  users : Option (List RouteAudienceUser) := none

inductive Phase where
  | starting
  | found (status : UserStatus)
  | reading (reads : Reads)
  /-- An access update that publishes nothing. -/
  | unpublished
  | retiring (snapshot : Snapshot) (version : Nat) (pending retired : List Nat)
  | created (snapshot : Snapshot) (version : Nat) (retired : List Nat)
  | finished (committed : Bool)

structure Run where
  job : Job
  phase : Phase

def Job.start : Job → Phase
  | .access _ _ => .starting
  | _ => .reading {}

/-- The transaction has updated the users and is not finished. -/
def Phase.updated : Phase → Bool
  | .reading _ | .unpublished | .retiring .. | .created .. => true
  | _ => false

/-- The users whose rows the run has locked. -/
def Run.lockedUsers (run : Run) : List String :=
  match run.job with
  | .access change _ => if run.phase.updated then change.members else []
  | _ => []

/-- The versions whose rows the run has locked. -/
def Run.lockedVersions (run : Run) : List Nat :=
  match run.phase with
  | .retiring _ _ _ retired | .created _ _ retired => retired
  | _ => []

/-- The uncommitted row of the run has the version or the etag. -/
def Run.holds (run : Run) (version : Nat) (etag : String) : Bool :=
  match run.phase with
  | .created snapshot own _ => own = version || snapshot.etag = etag
  | _ => false

/-- The users as the run sees them. -/
def Job.view (job : Job) (users : List RouteAudienceUser) : List RouteAudienceUser :=
  match job with
  | .access change _ => change.apply users
  | _ => users

structure VersionState where
  rows : List VersionRow
  users : List RouteAudienceUser
  runs : List Run

/-- `accessChanged` of `UserService.update`; the other access updates always publish. -/
def AccessChange.publishes (change : AccessChange) (found : UserStatus) : Bool :=
  match change with
  | .user _ _ => found ≠ change.status
  | _ => true

inductive Move where
  | findUser
  | changeUsers
  | readRow
  | readLatest
  | readUsers
  | build
  | retire
  | create
  | fail
  deriving DecidableEq, Repr

section

variable (digest : Digest) (isHttpUrl : String → Bool)

/-- The snapshot of a run that has read everything. -/
def Job.snapshot (job : Job) (row : Option VersionRow) (latest : Nat) (users : List RouteAudienceUser) :
    Option Snapshot :=
  match job with
  | .publish input =>
    (buildRuntimePublication digest isHttpUrl
      { input with audience := { input.audience with users }, version := latest + 1 }).toOption
  | .restore input =>
    (Runtime.restore digest isHttpUrl { input with
      source := row.map VersionRow.stored
      latest := some latest
      audience := { input.audience with users } }).toOption
  | .access _ input =>
    (publishWithin digest isHttpUrl { input with
      current := row.map VersionRow.stored
      latest := some latest
      blockedUsers := (blockedUserIds { users, groups := [] }).take 50001 }).toOption.join

/-- The reads are complete: the row (unless it publishes), the latest version and the users. -/
def Reads.complete (reads : Reads) (job : Job) : Option (Option VersionRow × Nat × List RouteAudienceUser) :=
  match job, reads.row, reads.latest, reads.users with
  | .publish _, _, some latest, some users => some (none, latest, users)
  | .restore _, some row, some latest, some users => some (row, latest, users)
  | .access _ _, some row, some latest, some users => some (row, latest, users)
  | _, _, _, _ => none

/-- Reads inside an access publication start with the published row. -/
def Reads.opened (reads : Reads) (job : Job) : Bool :=
  match job with
  | .access _ _ => reads.row.isSome
  | _ => true

/-- One move of a run among the others, `none` when it cannot be made (now). -/
def advance (state : VersionState) (others : List Run) (run : Run) : Move → Option Phase
  | .findUser =>
    match run.job, run.phase with
    | .access (.user externalId _) _, .starting =>
      match state.users.find? (·.externalId = externalId) with
      | some user => some (.found user.status)
      | none => some (.finished false)
    | _, _ => none
  | .changeUsers =>
    match run.job, run.phase with
    | .access change _, phase =>
      if others.any fun other => other.lockedUsers.any (change.members.contains ·) then none
      else
        match change, phase with
        | .user _ _, .found status => some (if change.publishes status then .reading {} else .unpublished)
        | .group _ _, .starting => some (.reading {})
        | .application, .starting => some (.reading {})
        | _, _ => none
    | _, _ => none
  | .readRow =>
    match run.job, run.phase with
    | .restore input, .reading ⟨none, latest, users⟩ =>
      some (.reading ⟨some (state.rows.find? (·.version = input.sourceVersion)), latest, users⟩)
    | .access _ _, .reading ⟨none, none, none⟩ =>
      match publishedRow state.rows with
      | some row => some (.reading ⟨some (some row), none, none⟩)
      | none => some .unpublished
    | _, _ => none
  | .readLatest =>
    match run.phase with
    | .reading ⟨row, none, users⟩ =>
      if Reads.opened ⟨row, none, users⟩ run.job then some (.reading ⟨row, some (latestVersion state.rows), users⟩)
      else none
    | _ => none
  | .readUsers =>
    match run.phase with
    | .reading ⟨row, latest, none⟩ =>
      if Reads.opened ⟨row, latest, none⟩ run.job then some (.reading ⟨row, latest, some (run.job.view state.users)⟩)
      else none
    | _ => none
  | .build =>
    match run.phase with
    | .reading reads =>
      match reads.complete run.job with
      | some (row, latest, users) =>
        match run.job.snapshot digest isHttpUrl row latest users with
        | some snapshot =>
          some (.retiring snapshot (latest + 1) ((publishedRows state.rows).map (·.version)) [])
        | none => some (.finished false)
      | none => none
    | _ => none
  | .retire =>
    match run.phase with
    | .retiring snapshot version (next :: pending) retired =>
      if others.any (·.lockedVersions.contains next) then none
      else if state.rows.any fun row => row.version = next && row.status = .published then
        some (.retiring snapshot version pending (next :: retired))
      else some (.retiring snapshot version pending retired)
    | _ => none
  | .create =>
    match run.phase with
    | .retiring snapshot version [] retired =>
      if state.rows.any fun row => row.version = version || row.snapshot.etag = snapshot.etag then
        some (.finished false)
      else if others.any (·.holds version snapshot.etag) then none
      else some (.created snapshot version retired)
    | _ => none
  | .fail =>
    match run.phase with
    | .finished _ => none
    | _ => some (.finished false)

/-- What the transaction of a run leaves when it commits. -/
def Run.commit (run : Run) (state : VersionState) : Option (List VersionRow × List RouteAudienceUser) :=
  match run.phase with
  | .unpublished => some (state.rows, run.job.view state.users)
  | .created snapshot version retired =>
    some (state.rows.map (VersionRow.retire retired) ++ [⟨version, .published, snapshot, run.job.origin⟩],
      run.job.view state.users)
  | _ => none

inductive VersionAction where
  | start (job : Job)
  | move (id : Nat) (move : Move)
  | commit (id : Nat)

def VersionState.exec (state : VersionState) : VersionAction → Except Unit (Unit × VersionState)
  | .start job => .ok ((), { state with runs := state.runs ++ [⟨job, job.start⟩] })
  | .move id move =>
    match state.runs[id]? with
    | none => .error ()
    | some run =>
      match advance digest isHttpUrl state (state.runs.eraseIdx id) run move with
      | none => .error ()
      | some phase => .ok ((), { state with runs := state.runs.set id { run with phase } })
  | .commit id =>
    match state.runs[id]? with
    | none => .error ()
    | some run =>
      match run.commit state with
      | none => .error ()
      | some (rows, users) =>
        .ok ((), ⟨rows, users, state.runs.set id { run with phase := .finished true }⟩)

def versionMachine : Machine VersionState VersionAction Unit Unit := ⟨VersionState.exec digest isHttpUrl⟩

end

end TokenPilot.Runtime
