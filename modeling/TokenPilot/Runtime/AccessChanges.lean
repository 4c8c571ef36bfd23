/-
  TokenPilot.Runtime.AccessChanges — access and routing of the published snapshot.

  Every run rebuilds the whole snapshot from reads made at different moments, and only the
  version number arbitrates: a run whose read of the latest version is overtaken fails. What it
  read before that is not protected. So a publish can read the audience, be overtaken by a
  block, read the latest version and publish without the block; an access update can read the
  published row, be overtaken by a publish, and put the old routing back; and a user update
  that looked the user up before another one changed it does not publish at all.

  `Undisturbed` excludes these three steps. In runs of undisturbed steps the published snapshot
  reflects users and routing in every state (`access_kept`).
-/

import TokenPilot.Runtime.Identity
import TokenPilot.Runtime.VersionSafety

namespace TokenPilot.Runtime

open Library

variable {digest : Digest} {isHttpUrl : String → Bool}

/-! ## The published snapshot reflects users and routing -/

def blockedOf (users : List RouteAudienceUser) : List String := blockedUserIds { users, groups := [] }

/-- The last row that a publish or a restore created. -/
def lastPlanned (rows : List VersionRow) : Option VersionRow := (rows.filter (·.origin ≠ .access)).getLast?

def Reflects (state : VersionState) : Prop :=
  ∃ current planned, publishedRow state.rows = some current ∧ lastPlanned state.rows = some planned ∧
    (∀ id, id ∈ current.snapshot.access.blockedUserIds ↔ id ∈ blockedOf state.users) ∧
    unversionedRouting current.snapshot.routing = unversionedRouting planned.snapshot.routing

def Quiescent (state : VersionState) : Prop := ∀ run ∈ state.runs, ∃ committed, run.phase = .finished committed

/-- A state to start from: numbered versions, nothing in progress, the last row published. -/
structure Settled (state : VersionState) : Prop where
  numbered : Numbered state.rows
  stored : ∀ row ∈ state.rows, row.snapshot.normal = row.snapshot
  quiet : Quiescent state
  reflects : Reflects state

/-- What the run has read is still so. -/
def Current (rows : List VersionRow) (users : List RouteAudienceUser) (job : Job) (reads : Reads) : Prop :=
  (∀ read, reads.users = some read → blockedOf read = blockedOf (job.view users)) ∧
    (job.origin = .access → reads.row = some (publishedRow rows))

/-- A run reads the latest version while its other reads are current, and a user update finds
    the user as it was looked up. -/
def Undisturbed (state : VersionState) : VersionAction → Prop
  | .move id .readLatest =>
    ∀ run reads, state.runs[id]? = some run → run.phase = .reading reads → Current state.rows state.users run.job reads
  | .move id .changeUsers =>
    ∀ run externalId blocked input status, state.runs[id]? = some run →
      run.job = .access (.user externalId blocked) input → run.phase = .found status →
        ∀ user ∈ state.users, user.externalId = externalId → user.status = status
  | _ => True

/-! ## The invariant -/

/-- The snapshot has the users the run sees and, for an access update, the published routing. -/
structure Carries (rows : List VersionRow) (users : List RouteAudienceUser) (job : Job) (snapshot : Snapshot) : Prop where
  normal : snapshot.normal = snapshot
  blocked : snapshot.access.blockedUserIds = blockedOf (job.view users)
  routing : job.origin = .access → ∃ current, publishedRow rows = some current ∧
    unversionedRouting snapshot.routing = unversionedRouting current.snapshot.routing

def Run.Fresh (rows : List VersionRow) (users : List RouteAudienceUser) (run : Run) : Prop :=
  match run.phase with
  | .reading reads => reads.latest = some rows.length → Current rows users run.job reads
  | .retiring snapshot version _ _ | .created snapshot version _ =>
    version = rows.length + 1 → Carries rows users run.job snapshot
  | .unpublished => run.job.view users = users
  | _ => True

structure Faithful (state : VersionState) : Prop where
  consistent : Consistent state
  reflects : Reflects state
  stored : ∀ row ∈ state.rows, row.snapshot.normal = row.snapshot
  fresh : ∀ (id : Nat) (run : Run), state.runs[id]? = some run → run.Fresh state.rows state.users
  apart : ∀ (id other : Nat) (run run' : Run), state.runs[id]? = some run → state.runs[other]? = some run' →
    id ≠ other → ∀ user ∈ run.lockedUsers, user ∉ run'.lockedUsers

/-! ## What each run signs -/

theorem publish_snapshot {input : PublicationInput} {row : Option VersionRow} {latest : Nat}
    {users : List RouteAudienceUser} {snapshot : Snapshot}
    (h : (Job.publish input).snapshot digest isHttpUrl row latest users = some snapshot) :
    snapshot.normal = snapshot ∧ snapshot.access.blockedUserIds = blockedOf users := by
  simp only [Job.snapshot, Except.toOption] at h
  split at h
  · rename_i built hbuilt
    cases h
    obtain ⟨routing, hrouting, -, -, hsigned⟩ := buildRuntimePublication_ok hbuilt
    have heq := signed_eq (publicationBody_normal hrouting) hsigned
    refine ⟨(runtimeSnapshotSchema_lawful isHttpUrl).fixed hsigned, ?_⟩
    rw [heq]
    rfl
  · cases h

theorem restore_snapshot {input : RestoreInput} {row : Option VersionRow} {latest : Nat}
    {users : List RouteAudienceUser} {snapshot : Snapshot}
    (h : (Job.restore input).snapshot digest isHttpUrl row latest users = some snapshot) :
    snapshot.normal = snapshot ∧ snapshot.access.blockedUserIds = blockedOf users := by
  simp only [Job.snapshot, Except.toOption] at h
  split at h
  · rename_i built hbuilt
    cases h
    obtain ⟨stored, enabled, source, -, -, hsource, -, hsigned⟩ := restore_ok hbuilt
    have heq := signed_eq (restoreBody_normal _ enabled (verifiedSource_normal hsource)) hsigned
    refine ⟨(runtimeSnapshotSchema_lawful isHttpUrl).fixed hsigned, ?_⟩
    rw [heq]
    rfl
  · cases h

theorem access_snapshot {change : AccessChange} {input : AccessInput} {row : VersionRow} {latest : Nat}
    {users : List RouteAudienceUser} {snapshot : Snapshot} (hrow : row.snapshot.normal = row.snapshot)
    (h : (Job.access change input).snapshot digest isHttpUrl (some row) latest users = some snapshot) :
    snapshot.normal = snapshot ∧ snapshot.access.blockedUserIds = blockedOf users ∧
      unversionedRouting snapshot.routing = unversionedRouting row.snapshot.routing := by
  simp only [Job.snapshot, Except.toOption] at h
  split at h
  · rename_i built hbuilt
    cases built with
    | none => cases h
    | some signed =>
      cases h
      obtain ⟨stored, slug, enabled, source, hstored, -, hsource, hfew, hsigned⟩ := publishWithin_ok hbuilt
      cases hstored
      have heq := signed_eq (accessBody_normal _ slug enabled (verifiedSource_normal hsource)) hsigned
      have hread : source = row.snapshot := verifiedSource_eq hrow rfl hsource
      refine ⟨(runtimeSnapshotSchema_lawful isHttpUrl).fixed hsigned, ?_, ?_⟩
      · rw [heq]
        -- fewer than the query takes, so they are all of them
        show (blockedUserIds { users, groups := [] }).take 50001 = _
        apply List.take_of_length_le
        rw [List.length_take] at hfew
        omega
      · rw [heq]
        show unversionedRouting (republishedRouting digest _ _ _ source.routing) = _
        rw [republished_unversioned, hread]
  · cases h

/-- A run that has read everything, with current reads, signs what the state shows. -/
theorem carries_of_current {state : VersionState} (hstored : ∀ row ∈ state.rows, row.snapshot.normal = row.snapshot)
    (hreflects : Reflects state) {job : Job} {reads : Reads} {row : Option VersionRow} {latest : Nat}
    {users : List RouteAudienceUser} {snapshot : Snapshot} (hcurrent : Current state.rows state.users job reads)
    (hcomplete : reads.complete job = some (row, latest, users))
    (hsnapshot : job.snapshot digest isHttpUrl row latest users = some snapshot) :
    Carries state.rows state.users job snapshot := by
  have husers := hcurrent.1 users (complete_latest hcomplete).2
  cases job with
  | publish input =>
    obtain ⟨hnormal, hblocked⟩ := publish_snapshot hsnapshot
    exact ⟨hnormal, hblocked.trans husers, fun h => by cases h⟩
  | restore input =>
    obtain ⟨hnormal, hblocked⟩ := restore_snapshot hsnapshot
    exact ⟨hnormal, hblocked.trans husers, fun h => by cases h⟩
  | access change input =>
    obtain ⟨current, planned, hpublished, -⟩ := hreflects
    have hrow : row = some current := by
      have hread := hcurrent.2 rfl
      rw [hpublished] at hread
      obtain ⟨read, latest', users'⟩ := reads
      cases hread
      cases latest' <;> cases users' <;> cases hcomplete
      rfl
    subst hrow
    have hmem : current ∈ state.rows := List.mem_of_mem_filter (List.argmax_mem hpublished)
    obtain ⟨hnormal, hblocked, hrouting⟩ := access_snapshot (hstored current hmem) hsnapshot
    exact ⟨hnormal, hblocked.trans husers, fun _ => ⟨current, hpublished, hrouting⟩⟩

/-! ## Moves -/

theorem view_settled {change : AccessChange} {input : AccessInput} {users : List RouteAudienceUser}
    (h : ∀ user ∈ users, user.externalId ∈ change.members → user.status = change.status) :
    (Job.access change input).view users = users := by
  show users.map _ = users
  conv_rhs => rw [← List.map_id users]
  apply List.map_congr_left
  intro user huser
  split
  · rename_i hmember
    rw [← h user huser hmember]
    rfl
  · rfl

theorem advances_fresh {state : VersionState} (h : Faithful state) {id : Nat} {run : Run} {move : Move} {phase : Phase}
    (hrun : state.runs[id]? = some run) (hguard : Undisturbed state (.move id move))
    (hphase : Advances digest isHttpUrl state (state.runs.eraseIdx id) run.job move run.phase phase) :
    Run.Fresh state.rows state.users { run with phase } := by
  have hlatest := h.consistent.numbered.latest
  have hfresh := h.fresh id run hrun
  obtain ⟨job, before⟩ := run
  cases hphase with
  | foundUser => trivial
  | failed => trivial
  | changed =>
    intro hread
    cases hread
  | @unchanged externalId blocked input status hjob _ hstatus =>
    -- the user has the status the update sets
    have hjob' : job = .access (.user externalId blocked) input := hjob
    show job.view state.users = state.users
    rw [hjob']
    apply view_settled
    intro user huser hmember
    have hsame := hguard ⟨job, .found status⟩ externalId blocked input status hrun hjob rfl user huser
      (List.mem_singleton.mp hmember)
    rw [hsame, hstatus]
  | readSource hjob =>
    intro hread
    obtain ⟨husers, -⟩ := hfresh hread
    exact ⟨husers, fun horigin => by rw [hjob] at horigin; cases horigin⟩
  | readPublished _ hrow =>
    intro hread
    cases hread
  | nothingPublished _ hrow =>
    obtain ⟨current, planned, hpublished, -⟩ := h.reflects
    rw [hrow] at hpublished
    cases hpublished
  | @readLatest row users =>
    intro _
    exact hguard ⟨job, .reading ⟨row, none, users⟩⟩ ⟨row, none, users⟩ hrun rfl
  | readUsers =>
    intro hread
    refine ⟨?_, (hfresh hread).2⟩
    intro users husers
    cases husers
    rfl
  | @built reads row latest users snapshot hcomplete hsnapshot =>
    intro hversion
    have hread : reads.latest = some state.rows.length := by
      rw [(complete_latest hcomplete).1]
      congr 1
      omega
    exact carries_of_current h.stored h.reflects (hfresh hread) hcomplete hsnapshot
  | retired => exact hfresh
  | skipped => exact hfresh
  | created => exact hfresh

/-- The rows of users that a run has locked after a move: those it had, or none that another has. -/
theorem advances_locked {state : VersionState} {others : List Run} {job : Job} {move : Move} {before after : Phase}
    (h : Advances digest isHttpUrl state others job move before after) :
    (∀ user ∈ Run.lockedUsers ⟨job, after⟩, user ∈ Run.lockedUsers ⟨job, before⟩) ∨
      ∀ user ∈ Run.lockedUsers ⟨job, after⟩, ∀ other ∈ others, user ∉ other.lockedUsers := by
  cases h with
  | changed hjob hfree =>
    subst hjob
    exact .inr fun user huser other hother hlocked => hfree other hother user hlocked huser
  | unchanged hjob hfree =>
    subst hjob
    exact .inr fun user huser other hother hlocked => hfree other hother user hlocked huser
  | foundUser hjob =>
    subst hjob
    exact .inl fun user huser => huser
  | failed =>
    refine .inl fun user huser => ?_
    cases job <;> cases huser
  | _ => exact .inl fun user huser => huser

theorem faithful_move {state : VersionState} (h : Faithful state) {id : Nat} {run : Run} {move : Move} {phase : Phase}
    (hrun : state.runs[id]? = some run) (hguard : Undisturbed state (.move id move))
    (hphase : Advances digest isHttpUrl state (state.runs.eraseIdx id) run.job move run.phase phase) :
    Faithful { state with runs := state.runs.set id { run with phase } } := by
  have hlocked := advances_locked hphase
  -- what the run has locked after the move, no other run has
  have hmine : ∀ (other : Nat) (run' : Run), other ≠ id → state.runs[other]? = some run' →
      ∀ user ∈ Run.lockedUsers { run with phase }, user ∉ run'.lockedUsers := by
    intro other run' hother hrun' user huser
    rcases hlocked with hkept | hfree
    · exact h.apart id other run run' hrun hrun' (Ne.symm hother) user (hkept user huser)
    · exact hfree user huser run' (List.mem_eraseIdx_iff_getElem?.mpr ⟨other, hother, hrun'⟩)
  refine ⟨consistent_move h.consistent hrun hphase, h.reflects, h.stored, ?_, ?_⟩
  · intro other run' hrun'
    rcases getElem?_set_cases hrun' with ⟨-, rfl⟩ | ⟨-, hrun'⟩
    · exact advances_fresh h hrun hguard hphase
    · exact h.fresh other run' hrun'
  · intro one other run₁ run₂ h₁ h₂ hne user huser₁ huser₂
    rcases getElem?_set_cases h₁ with ⟨rfl, rfl⟩ | ⟨hone, hrun₁⟩
    · rcases getElem?_set_cases h₂ with ⟨rfl, -⟩ | ⟨hother, hrun₂⟩
      · exact hne rfl
      · exact hmine other run₂ hother hrun₂ user huser₁ huser₂
    · rcases getElem?_set_cases h₂ with ⟨rfl, rfl⟩ | ⟨-, hrun₂⟩
      · exact hmine one run₁ hone hrun₁ user huser₂ huser₁
      · exact h.apart one other run₁ run₂ hrun₁ hrun₂ hne user huser₁ huser₂

theorem faithful_start {state : VersionState} (h : Faithful state) (job : Job) :
    Faithful { state with runs := state.runs ++ [⟨job, job.start⟩] } := by
  have hfresh : Run.Fresh state.rows state.users ⟨job, job.start⟩ := by
    cases job with
    | access change input => trivial
    | _ =>
      intro hread
      cases hread
  have hlocked : Run.lockedUsers ⟨job, job.start⟩ = [] := by cases job <;> rfl
  refine ⟨consistent_start h.consistent job, h.reflects, h.stored, ?_, ?_⟩
  · intro id run hrun
    rcases getElem?_snoc_cases hrun with hrun | rfl
    · exact h.fresh id run hrun
    · exact hfresh
  · intro one other run₁ run₂ h₁ h₂ hne user huser₁ huser₂
    rcases getElem?_snoc_cases h₁ with h₁ | rfl
    · rcases getElem?_snoc_cases h₂ with h₂ | rfl
      · exact h.apart one other run₁ run₂ h₁ h₂ hne user huser₁ huser₂
      · rw [hlocked] at huser₂
        cases huser₂
    · rw [hlocked] at huser₁
      cases huser₁

/-! ## Commits -/

theorem publishedRow_commit {rows : List VersionRow} {retired : List Nat} {row : VersionRow}
    (hretired : ∀ old ∈ publishedRows rows, old.version ∈ retired) (hstatus : row.status = .published) :
    publishedRow (rows.map (VersionRow.retire retired) ++ [row]) = some row := by
  have hnone := publishedRows_retire hretired
  unfold publishedRows at hnone
  unfold publishedRow publishedRows
  rw [List.filter_append, hnone, List.nil_append, List.filter_singleton, hstatus]
  rfl

theorem retire_origin (retired : List Nat) (row : VersionRow) : (row.retire retired).origin = row.origin := by
  unfold VersionRow.retire
  split <;> rfl

theorem retire_snapshot (retired : List Nat) (row : VersionRow) : (row.retire retired).snapshot = row.snapshot := by
  unfold VersionRow.retire
  split <;> rfl

/-- The last planned row after a commit: the new one, or the one before with its status changed. -/
theorem lastPlanned_commit (rows : List VersionRow) (retired : List Nat) (row : VersionRow) :
    lastPlanned (rows.map (VersionRow.retire retired) ++ [row]) =
      if row.origin = .access then (lastPlanned rows).map (VersionRow.retire retired) else some row := by
  unfold lastPlanned
  rw [List.filter_append, List.filter_map]
  have hfilter : rows.filter ((fun old : VersionRow => decide (old.origin ≠ .access)) ∘ VersionRow.retire retired) =
      rows.filter (·.origin ≠ .access) := by
    apply List.filter_congr
    intro old _
    simp only [Function.comp, retire_origin]
  rw [hfilter]
  split
  · rename_i horigin
    simp [horigin]
  · rename_i horigin
    simp [horigin]

/-- Changes of different users commute. -/
theorem view_apart {change : AccessChange} {input : AccessInput} {job : Job} {users : List RouteAudienceUser}
    (hsettled : (Job.access change input).view users = users)
    (hapart : ∀ change' input', job = .access change' input' → ∀ user ∈ change.members, user ∉ change'.members) :
    (Job.access change input).view (job.view users) = job.view users := by
  cases job with
  | publish _ => exact hsettled
  | restore _ => exact hsettled
  | access change' input' =>
    have happly : ∀ user ∈ users, (if user.externalId ∈ change.members then { user with status := change.status } else user)
        = user := by
      intro user huser
      have hmap : users.map (fun user : RouteAudienceUser =>
          if user.externalId ∈ change.members then { user with status := change.status } else user) = users.map id := by
        rw [List.map_id]
        exact hsettled
      exact List.map_inj_left.mp hmap user huser
    show ((users.map _).map _) = users.map _
    rw [List.map_map]
    apply List.map_congr_left
    intro user huser
    simp only [Function.comp]
    by_cases hother : user.externalId ∈ change'.members
    · rw [if_pos hother]
      apply if_neg
      intro hmine
      exact hapart change' input' rfl user.externalId hmine hother
    · rw [if_neg hother]
      exact happly user huser

/-- A commit overtakes every other run. -/
theorem fresh_later {state : VersionState} (h : Faithful state) {id other : Nat} {run run' : Run} {snapshot : Snapshot}
    {version : Nat} {retired : List Nat} (hrun : state.runs[id]? = some run)
    (hphase : run.phase = .created snapshot version retired) (hother : other ≠ id)
    (hrun' : state.runs[other]? = some run') {rows : List VersionRow} (hlength : rows.length = state.rows.length + 1) :
    run'.Fresh rows (run.job.view state.users) := by
  have hsound := h.consistent.sound other run' hrun'
  have hfresh := h.fresh other run' hrun'
  have hapart := h.apart other id run' run hrun' hrun hother
  have hexclusive := h.consistent.exclusive other id run' run hrun' hrun
  obtain ⟨job', phase'⟩ := run'
  cases phase' with
  | reading reads =>
    intro hread
    have hle := hsound rows.length hread
    omega
  | retiring snapshot' version' pending' retired' =>
    intro hversion
    have hle := hsound.2.1
    omega
  | created snapshot' version' retired' => exact absurd (hexclusive rfl (by rw [hphase]; rfl)) hother
  | unpublished =>
    cases job' with
    | access change input =>
      apply view_apart hfresh
      intro change' input' hjob user hmine hyours
      apply hapart user hmine
      obtain ⟨job, phase⟩ := run
      subst hphase hjob
      exact hyours
    | _ => rfl
  | _ => trivial

theorem faithful_commit {state : VersionState} (h : Faithful state) {id : Nat} {run : Run} {rows : List VersionRow}
    {users : List RouteAudienceUser} (hrun : state.runs[id]? = some run)
    (hcommit : run.commit state = some (rows, users)) :
    Faithful ⟨rows, users, state.runs.set id { run with phase := .finished true }⟩ := by
  have hconsistent := consistent_commit h.consistent hrun hcommit
  have hapart : ∀ (one other : Nat) (run₁ run₂ : Run),
      (state.runs.set id { run with phase := .finished true })[one]? = some run₁ →
      (state.runs.set id { run with phase := .finished true })[other]? = some run₂ → one ≠ other →
      ∀ user ∈ run₁.lockedUsers, user ∉ run₂.lockedUsers := by
    have hnone : Run.lockedUsers { run with phase := .finished true } = [] := by
      obtain ⟨job, phase⟩ := run
      cases job <;> rfl
    intro one other run₁ run₂ h₁ h₂ hne user huser₁ huser₂
    rcases getElem?_set_cases h₁ with ⟨-, rfl⟩ | ⟨-, hrun₁⟩
    · rw [hnone] at huser₁
      cases huser₁
    · rcases getElem?_set_cases h₂ with ⟨-, rfl⟩ | ⟨-, hrun₂⟩
      · rw [hnone] at huser₂
        cases huser₂
      · exact h.apart one other run₁ run₂ hrun₁ hrun₂ hne user huser₁ huser₂
  obtain ⟨rfl, ⟨hphase, rfl⟩ | ⟨snapshot, version, retired, hphase, rfl⟩⟩ := commit_cases hcommit
  · -- nothing changes: the user had the status already
    have hsame : run.job.view state.users = state.users := by
      have hfresh := h.fresh id run hrun
      unfold Run.Fresh at hfresh
      rwa [hphase] at hfresh
    refine ⟨hconsistent, ?_, h.stored, ?_, hapart⟩
    · obtain ⟨current, planned, hpublished, hplanned, hblocked, hrouting⟩ := h.reflects
      exact ⟨current, planned, hpublished, hplanned, by rw [hsame]; exact hblocked, hrouting⟩
    · intro other run' hrun'
      rw [hsame]
      rcases getElem?_set_cases hrun' with ⟨-, rfl⟩ | ⟨-, hrun'⟩
      · trivial
      · exact h.fresh other run' hrun'
  · have hsound := h.consistent.sound id run hrun
    unfold Run.Sound at hsound
    rw [hphase] at hsound
    have hcarries : Carries state.rows state.users run.job snapshot := by
      have hfresh := h.fresh id run hrun
      unfold Run.Fresh at hfresh
      rw [hphase] at hfresh
      exact hfresh hsound.1
    refine ⟨hconsistent, ?_, ?_, ?_, hapart⟩
    · obtain ⟨current, planned, hpublished, hplanned, -, hrouting⟩ := h.reflects
      have hnew := publishedRow_commit hsound.2
        (rfl : (VersionRow.mk version .published snapshot run.job.origin).status = .published)
      have hlast := lastPlanned_commit state.rows retired ⟨version, .published, snapshot, run.job.origin⟩
      by_cases horigin : run.job.origin = .access
      · obtain ⟨old, hold, hsame⟩ := hcarries.routing horigin
        cases Option.some.inj (hpublished.symm.trans hold)
        rw [if_pos horigin, hplanned] at hlast
        refine ⟨_, _, hnew, hlast, ?_, ?_⟩
        · intro user
          show user ∈ snapshot.access.blockedUserIds ↔ _
          rw [hcarries.blocked]
        · rw [retire_snapshot]
          exact hsame.trans hrouting
      · rw [if_neg horigin] at hlast
        refine ⟨_, _, hnew, hlast, ?_, rfl⟩
        intro user
        show user ∈ snapshot.access.blockedUserIds ↔ _
        rw [hcarries.blocked]
    · intro row hrow
      rcases List.mem_append.mp hrow with hold | hnew
      · obtain ⟨old, hmem, rfl⟩ := List.mem_map.mp hold
        rw [retire_snapshot]
        exact h.stored old hmem
      · rw [List.mem_singleton.mp hnew]
        exact hcarries.normal
    · intro other run' hrun'
      rcases getElem?_set_cases hrun' with ⟨-, rfl⟩ | ⟨hother, hrun'⟩
      · trivial
      · exact fresh_later h hrun hphase hother hrun' (by simp)

/-! ## Runs -/

theorem faithful_exec (state : VersionState) (action : VersionAction) (o : Unit) (state' : VersionState)
    (h : Faithful state) (hguard : Undisturbed state action)
    (hexec : state.exec digest isHttpUrl action = .ok (o, state')) : Faithful state' := by
  obtain ⟨job, -, rfl⟩ | ⟨id, move, run, phase, rfl, hrun, hphase, rfl⟩ | ⟨id, run, rows, users, -, hrun, hcommit, rfl⟩ :=
    exec_cases hexec
  · exact faithful_start h job
  · exact faithful_move h hrun hguard hphase
  · exact faithful_commit h hrun hcommit

theorem faithful_of_settled {state : VersionState} (h : Settled state) : Faithful state := by
  have hfinished : ∀ (id : Nat) (run : Run), state.runs[id]? = some run → ∃ committed, run.phase = .finished committed :=
    fun id run hrun => h.quiet run (List.mem_of_getElem? hrun)
  refine ⟨⟨h.numbered, ?_, ?_⟩, h.reflects, h.stored, ?_, ?_⟩
  · intro id run hrun
    obtain ⟨committed, hphase⟩ := hfinished id run hrun
    unfold Run.Sound
    rw [hphase]
    trivial
  · intro id other run run' hrun _ hcreated
    obtain ⟨committed, hphase⟩ := hfinished id run hrun
    rw [hphase] at hcreated
    cases hcreated
  · intro id run hrun
    obtain ⟨committed, hphase⟩ := hfinished id run hrun
    unfold Run.Fresh
    rw [hphase]
    trivial
  · intro id other run run' hrun _ _ user huser
    obtain ⟨committed, hphase⟩ := hfinished id run hrun
    obtain ⟨job, phase⟩ := run
    subst hphase
    cases job <;> cases huser

/-- Runs of undisturbed steps, from a published configuration. -/
theorem access_kept (digest : Digest) (isHttpUrl : String → Bool) (state : VersionState) (hsettled : Settled state)
    (actions : List VersionAction) (hguarded : (versionMachine digest isHttpUrl).Guarded Undisturbed state actions) :
    Reflects ((versionMachine digest isHttpUrl).run state actions) :=
  (Machine.guarded_invariant (m := versionMachine digest isHttpUrl) faithful_exec actions state
    (faithful_of_settled hsettled) hguarded).reflects

/-! ## A publish that overwrites a block -/

def checksum (text : List Char) : Nat := (text.map Char.toNat).sum

/-- The hex digests of the texts that versions of `assistantInput` hash: published, blocked,
    published again, and restored. -/
def versionsDigest : Digest := fun text =>
  if checksum text = 101924 then "14cff70797e37bcd09d18537fcd6419fe91efe793d0850606a56f955cc66f136"
  else if checksum text = 10033 then "fb6cee33d38e8f696aca3f40d0ea2b9026912e8116da5af2a85685ccc10364c4"
  else if checksum text = 42402 then "08e869ed479b39be687e118cd883e2bb9d44336b4249e80b327b64ac951e7f19"
  else if checksum text = 101574 then "247c768e05de00a79471fb906b95ade09a3ee6b2004ed47ba3a20db7ed300c6f"
  else if checksum text = 10165 then "c99d16c17e7f466a338cfab9244278d5b130b05439196c6170c2055659f39a18"
  else if checksum text = 42403 then "e502632c651beb7b4655dfa2a7773bb69c6bda6fdbdc42647de8e0b5e3c5a9c8"
  else if checksum text = 102158 then "4edd52ff0b7cc9a6afbd1beecbbc06015e6db588ab71ea6c67c9ae82c8be3613"
  else if checksum text = 10560 then "8b63d38926d5bce5bf3a9c71f79b304bb0109f52f0e70f6af95a704c1f59995f"
  else if checksum text = 42404 then "cbb20ce33771cf3e34e6812cd4fea89b4f07824aed9f9aa9c1c4c654321a817f"
  else if checksum text = 101827 then "64e328dfe14dfd3c893a480878e926ede67a690f4b051ba9a94e7c99194ade3b"
  else "d5d88dae0307ca82d73d52a2268ee4743271652bbf7746163dfe07397fa2e54a"

def caller : RouteAudienceUser := ⟨"u1", [], .active, none⟩

def blockInput : AccessInput where
  applicationId := assistantInput.application.id
  current := none
  application := some (assistantInput.application.slug, true)
  latest := none
  blockedUsers := []
  now := 0

def blockCaller : Job := .access (.user "u1" true) blockInput

theorem hexDigest_ite {c : Prop} [Decidable c] {a b : String} (ha : isHexDigest a = true) (hb : isHexDigest b = true) :
    isHexDigest (if c then a else b) = true := by
  split
  · exact ha
  · exact hb

/-- The etag of a version: its configuration has the one text, and it the other. -/
structure VersionHashed (version : Nat) (blocked : List String) (configuration digits : String) : Prop where
  configured : versionsDigest (configurationText version) = configuration
  body : versionsDigest (canonical (assistantBody ("sha256:" ++ configuration) version blocked).toJson) = digits

/-- What is evaluated of the versions: their digests and the texts they hash. -/
structure VersionFacts : Prop where
  digits : isHexDigest "14cff70797e37bcd09d18537fcd6419fe91efe793d0850606a56f955cc66f136" = true ∧
    isHexDigest "fb6cee33d38e8f696aca3f40d0ea2b9026912e8116da5af2a85685ccc10364c4" = true ∧
    isHexDigest "08e869ed479b39be687e118cd883e2bb9d44336b4249e80b327b64ac951e7f19" = true ∧
    isHexDigest "247c768e05de00a79471fb906b95ade09a3ee6b2004ed47ba3a20db7ed300c6f" = true ∧
    isHexDigest "c99d16c17e7f466a338cfab9244278d5b130b05439196c6170c2055659f39a18" = true ∧
    isHexDigest "e502632c651beb7b4655dfa2a7773bb69c6bda6fdbdc42647de8e0b5e3c5a9c8" = true ∧
    isHexDigest "4edd52ff0b7cc9a6afbd1beecbbc06015e6db588ab71ea6c67c9ae82c8be3613" = true ∧
    isHexDigest "8b63d38926d5bce5bf3a9c71f79b304bb0109f52f0e70f6af95a704c1f59995f" = true ∧
    isHexDigest "cbb20ce33771cf3e34e6812cd4fea89b4f07824aed9f9aa9c1c4c654321a817f" = true ∧
    isHexDigest "64e328dfe14dfd3c893a480878e926ede67a690f4b051ba9a94e7c99194ade3b" = true ∧
    isHexDigest "d5d88dae0307ca82d73d52a2268ee4743271652bbf7746163dfe07397fa2e54a" = true
  caller : bounded 1 128 "u1" = true
  versions : opaqueIdPattern (runtimeVersion "demo" 2) = true ∧ opaqueIdPattern (runtimeVersion "demo" 3) = true
  first : VersionHashed 1 [] "08e869ed479b39be687e118cd883e2bb9d44336b4249e80b327b64ac951e7f19"
    "247c768e05de00a79471fb906b95ade09a3ee6b2004ed47ba3a20db7ed300c6f"
  second : VersionHashed 2 ["u1"] "e502632c651beb7b4655dfa2a7773bb69c6bda6fdbdc42647de8e0b5e3c5a9c8"
    "4edd52ff0b7cc9a6afbd1beecbbc06015e6db588ab71ea6c67c9ae82c8be3613"
  third : VersionHashed 3 [] "cbb20ce33771cf3e34e6812cd4fea89b4f07824aed9f9aa9c1c4c654321a817f"
    "64e328dfe14dfd3c893a480878e926ede67a690f4b051ba9a94e7c99194ade3b"
  restored : VersionHashed 2 [] "e502632c651beb7b4655dfa2a7773bb69c6bda6fdbdc42647de8e0b5e3c5a9c8"
    "14cff70797e37bcd09d18537fcd6419fe91efe793d0850606a56f955cc66f136"

theorem version_facts : VersionFacts where
  digits := by decide +kernel
  caller := by decide +kernel
  versions := by decide +kernel
  first := by
    constructor
    · rw [configurationText, ← canonical_chars]
      decide +kernel
    · rw [← canonical_chars]
      decide +kernel
  second := by
    constructor
    · rw [configurationText, ← canonical_chars]
      decide +kernel
    · rw [← canonical_chars]
      decide +kernel
  third := by
    constructor
    · rw [configurationText, ← canonical_chars]
      decide +kernel
    · rw [← canonical_chars]
      decide +kernel
  restored := by
    constructor
    · rw [configurationText, ← canonical_chars]
      decide +kernel
    · rw [← canonical_chars]
      decide +kernel

theorem versionsDigest_hex : HexDigest versionsDigest := by
  obtain ⟨h₁, h₂, h₃, h₄, h₅, h₆, h₇, h₈, h₉, h₁₀, h₁₁⟩ := (version_facts).digits
  intro text
  apply fingerprint_of
  unfold versionsDigest
  exact hexDigest_ite h₁ (hexDigest_ite h₂ (hexDigest_ite h₃ (hexDigest_ite h₄ (hexDigest_ite h₅ (hexDigest_ite h₆
    (hexDigest_ite h₇ (hexDigest_ite h₈ (hexDigest_ite h₉ (hexDigest_ite h₁₀ h₁₁)))))))))

theorem version_etag {version : Nat} {blocked : List String} {configuration digits : String}
    (h : VersionHashed version blocked configuration digits) :
    (stamped versionsDigest (assistantBody (assistantEtag versionsDigest version) version blocked)).etag =
      "sha256:" ++ digits := by
  show "sha256:" ++ versionsDigest _ = _
  rw [assistantEtag_eq, h.configured, h.body]

theorem first_version : (buildRuntimePublication versionsDigest gatewayUrl assistantInput).toOption.map (·.etag) =
    some "sha256:247c768e05de00a79471fb906b95ade09a3ee6b2004ed47ba3a20db7ed300c6f" := by
  rw [assistantInput_signed versionsDigest_hex]
  exact congrArg some (version_etag (version_facts).first)

/-- What the block reads of the published version. -/
def blockReads (first : Snapshot) : AccessInput :=
  { blockInput with
    current := some ⟨first.etag, first.signature, first.toJson⟩
    latest := some 1
    blockedUsers := (blockedUserIds { users := blockCaller.view [caller], groups := [] }).take 50001 }

theorem second_version {first : Snapshot}
    (h : buildRuntimePublication versionsDigest gatewayUrl assistantInput = .ok first) :
    (blockCaller.snapshot versionsDigest gatewayUrl (some ⟨1, .published, first, .publish⟩) 1
      (blockCaller.view [caller])).map (·.etag) =
    some "sha256:4edd52ff0b7cc9a6afbd1beecbbc06015e6db588ab71ea6c67c9ae82c8be3613" := by
  have hsource := verifiedSource_published h
  have hfirst := Except.ok.inj (h.symm.trans (assistantInput_signed versionsDigest_hex))
  have hbody : accessBody versionsDigest (blockReads first) assistantInput.application.slug true first =
      assistantBody (assistantEtag versionsDigest 2) 2 ["u1"] := by
    rw [hfirst]
    rfl
  have hblocked : ({ applicationEnabled := true, blockedUserIds := ["u1"] } : Access).Accepted :=
    ⟨fun user huser => by rw [List.mem_singleton.mp huser]; exact (version_facts).caller, of_decide_eq_true rfl, List.nodup_singleton _⟩
  have hsigned : signRuntimeSnapshot versionsDigest gatewayUrl
      (accessBody versionsDigest (blockReads first) assistantInput.application.slug true first) =
        some (stamped versionsDigest (assistantBody (assistantEtag versionsDigest 2) 2 ["u1"])) := by
    rw [hbody]
    exact assistant_signed versionsDigest_hex (versionsDigest_hex _) ⟨by decide, by decide⟩ (version_facts).versions.1 hblocked
  have hpublish : publishWithin versionsDigest gatewayUrl (blockReads first) = _ :=
    publishWithin_of rfl rfl hsource (of_decide_eq_true rfl) hsigned
  show (publishWithin versionsDigest gatewayUrl (blockReads first)).toOption.join.map (·.etag) = _
  rw [hpublish]
  exact congrArg some (version_etag (version_facts).second)

theorem third_version :
    ((Job.publish assistantInput).snapshot versionsDigest gatewayUrl none 2 [caller]).map (·.etag) =
      some "sha256:64e328dfe14dfd3c893a480878e926ede67a690f4b051ba9a94e7c99194ade3b" := by
  have hpublished := @assistant_published versionsDigest versionsDigest_hex { users := [caller], groups := [] } 3
    ⟨by decide, by decide⟩ (version_facts).versions.2 first_access
  show (buildRuntimePublication versionsDigest gatewayUrl
    { assistantInput with audience := { users := [caller], groups := [] }, version := 3 }).toOption.map (·.etag) = _
  rw [hpublished]
  exact congrArg some (version_etag (version_facts).third)

/-- The publish reads the audience, the block commits, and the publish goes on. -/
def overwriting (input : PublicationInput) (block : Job) : List VersionAction :=
  [.start (.publish input), .move 0 .readUsers, .start block, .move 1 .findUser, .move 1 .changeUsers,
    .move 1 .readRow, .move 1 .readLatest, .move 1 .readUsers, .move 1 .build, .move 1 .retire, .move 1 .create, .commit 1,
    .move 0 .readLatest, .move 0 .build, .move 0 .retire, .move 0 .create, .commit 0]

def firstState (first : Snapshot) (user : RouteAudienceUser) : VersionState :=
  ⟨[⟨1, .published, first, .publish⟩], [user], []⟩

theorem step_move {state : VersionState} {id : Nat} {move : Move} {run : Run} {phase : Phase}
    (hrun : state.runs[id]? = some run)
    (h : advance digest isHttpUrl state (state.runs.eraseIdx id) run move = some phase) :
    (versionMachine digest isHttpUrl).step state (.move id move) =
      { state with runs := state.runs.set id { run with phase } } := by
  apply Machine.step_of_ok (o := ())
  show state.exec digest isHttpUrl (.move id move) = _
  simp only [VersionState.exec, hrun, h]

theorem step_commit {state : VersionState} {id : Nat} {run : Run} {rows : List VersionRow}
    {users : List RouteAudienceUser} (hrun : state.runs[id]? = some run) (h : run.commit state = some (rows, users)) :
    (versionMachine digest isHttpUrl).step state (.commit id) =
      ⟨rows, users, state.runs.set id { run with phase := .finished true }⟩ := by
  apply Machine.step_of_ok (o := ())
  show state.exec digest isHttpUrl (.commit id) = _
  simp only [VersionState.exec, hrun, h]

theorem step_start (state : VersionState) (job : Job) :
    (versionMachine digest isHttpUrl).step state (.start job) = { state with runs := state.runs ++ [⟨job, job.start⟩] } :=
  rfl

theorem overwriting_run {input : PublicationInput} {blocking : AccessInput} {id : String} {tags : List String}
    {quota : Option AudienceQuota} {block : Job} {first second third : Snapshot}
    (hblock : block = .access (.user id true) blocking)
    (hsecond : block.snapshot digest isHttpUrl (some ⟨1, .published, first, .publish⟩) 1
      (block.view [⟨id, tags, .active, quota⟩]) = some second)
    (hthird : (Job.publish input).snapshot digest isHttpUrl none 2 [⟨id, tags, .active, quota⟩] = some third)
    (h12 : first.etag ≠ second.etag) (h13 : first.etag ≠ third.etag) (h23 : second.etag ≠ third.etag) :
    (versionMachine digest isHttpUrl).run (firstState first ⟨id, tags, .active, quota⟩) (overwriting input block) =
      ⟨[⟨1, .retired, first, .publish⟩, ⟨2, .retired, second, .access⟩, ⟨3, .published, third, .publish⟩],
        block.view [⟨id, tags, .active, quota⟩], [⟨.publish input, .finished true⟩, ⟨block, .finished true⟩]⟩ := by
  subst hblock
  have hfind : advance digest isHttpUrl ⟨[⟨1, .published, first, .publish⟩], [⟨id, tags, .active, quota⟩],
      [⟨.publish input, .reading ⟨none, none, some [⟨id, tags, .active, quota⟩]⟩⟩,
        ⟨.access (.user id true) blocking, .starting⟩]⟩
      [⟨.publish input, .reading ⟨none, none, some [⟨id, tags, .active, quota⟩]⟩⟩]
      ⟨.access (.user id true) blocking, .starting⟩ .findUser = some (.found .active) := by
    simp [advance]
  rw [overwriting, Machine.run_cons, step_start, Machine.run_cons, step_move rfl rfl, Machine.run_cons, step_start,
    Machine.run_cons, step_move rfl hfind, Machine.run_cons, step_move rfl rfl,
    Machine.run_cons, step_move rfl rfl, Machine.run_cons, step_move rfl rfl, Machine.run_cons, step_move rfl rfl]
  have hbuild {state : VersionState} {others : List Run} : advance digest isHttpUrl state others
      ⟨.access (.user id true) blocking, .reading ⟨some (some ⟨1, .published, first, .publish⟩), some 1,
        some ((Job.access (.user id true) blocking).view [⟨id, tags, .active, quota⟩])⟩⟩ .build =
      some (.retiring second 2 ((publishedRows state.rows).map (·.version)) []) := by
    simp only [advance, Reads.complete, hsecond]
  have hcreate {state : VersionState} {others : List Run} (hrows : state.rows = [⟨1, .published, first, .publish⟩])
      (hothers : others.any (·.holds 2 second.etag) = false) : advance digest isHttpUrl state others
      ⟨.access (.user id true) blocking, .retiring second 2 [] [1]⟩ .create = some (.created second 2 [1]) := by
    simp [advance, hrows, h12, hothers]
  have hbuild' {state : VersionState} {others : List Run} : advance digest isHttpUrl state others
      ⟨.publish input, .reading ⟨none, some 2, some [⟨id, tags, .active, quota⟩]⟩⟩ .build =
      some (.retiring third 3 ((publishedRows state.rows).map (·.version)) []) := by
    simp only [advance, Reads.complete, hthird]
  have hcreate' {state : VersionState} {others : List Run}
      (hrows : state.rows = [⟨1, .retired, first, .publish⟩, ⟨2, .published, second, .access⟩])
      (hothers : others.any (·.holds 3 third.etag) = false) : advance digest isHttpUrl state others
      ⟨.publish input, .retiring third 3 [] [2]⟩ .create = some (.created third 3 [2]) := by
    simp [advance, hrows, h13, h23, hothers]
  rw [Machine.run_cons, step_move rfl hbuild]
  show (versionMachine digest isHttpUrl).run ⟨[⟨1, .published, first, .publish⟩], [⟨id, tags, .active, quota⟩],
      [⟨.publish input, .reading ⟨none, none, some [⟨id, tags, .active, quota⟩]⟩⟩,
        ⟨.access (.user id true) blocking, .retiring second 2 [1] []⟩]⟩ _ = _
  rw [Machine.run_cons, step_move rfl rfl, Machine.run_cons,
    step_move rfl (hcreate rfl rfl), Machine.run_cons, step_commit rfl rfl,
    Machine.run_cons, step_move rfl rfl, Machine.run_cons, step_move rfl hbuild']
  show (versionMachine digest isHttpUrl).run ⟨[⟨1, .retired, first, .publish⟩, ⟨2, .published, second, .access⟩],
      (Job.access (.user id true) blocking).view [⟨id, tags, .active, quota⟩],
      [⟨.publish input, .retiring third 3 [2] []⟩, ⟨.access (.user id true) blocking, .finished true⟩]⟩ _ = _
  rw [Machine.run_cons, step_move rfl rfl,
    Machine.run_cons, step_move rfl (hcreate' rfl rfl), Machine.run_cons, step_commit rfl rfl]
  rfl

/-- The versions of the sample, and what they block. -/
theorem sample_versions : ∃ first second third,
    buildRuntimePublication versionsDigest gatewayUrl assistantInput = .ok first ∧
      blockCaller.snapshot versionsDigest gatewayUrl (some ⟨1, .published, first, .publish⟩) 1
        (blockCaller.view [caller]) = some second ∧
      (Job.publish assistantInput).snapshot versionsDigest gatewayUrl none 2 [caller] = some third ∧
      first.etag ≠ second.etag ∧ first.etag ≠ third.etag ∧ second.etag ≠ third.etag := by
  have hfirst := first_version
  obtain ⟨third, hthird, hetag₃⟩ := Option.map_eq_some_iff.mp third_version
  cases hbuilt : buildRuntimePublication versionsDigest gatewayUrl assistantInput with
  | error failure =>
    rw [hbuilt] at hfirst
    cases hfirst
  | ok first =>
    rw [hbuilt] at hfirst
    obtain ⟨second, hblocked, hetag₂⟩ := Option.map_eq_some_iff.mp (second_version hbuilt)
    have hetag₁ : first.etag = "sha256:247c768e05de00a79471fb906b95ade09a3ee6b2004ed47ba3a20db7ed300c6f" :=
      Option.some.inj hfirst
    refine ⟨first, second, third, rfl, hblocked, hthird, ?_, ?_, ?_⟩
    · rw [hetag₁, hetag₂]
      decide
    · rw [hetag₁, hetag₃]
      decide
    · rw [hetag₂, hetag₃]
      decide

theorem firstState_settled {first : Snapshot}
    (h : buildRuntimePublication versionsDigest gatewayUrl assistantInput = .ok first) :
    Settled (firstState first caller) := by
  have hpublished : (Job.publish assistantInput).snapshot versionsDigest gatewayUrl none 0 [] = some first := by
    show (buildRuntimePublication versionsDigest gatewayUrl assistantInput).toOption = some first
    rw [h]
    rfl
  obtain ⟨hnormal, hblocked⟩ := publish_snapshot hpublished
  refine ⟨⟨rfl, ?_⟩, ?_, ?_, ⟨1, .published, first, .publish⟩, ⟨1, .published, first, .publish⟩, rfl, rfl, ?_, rfl⟩
  · simp [firstState, publishedRows]
  · simp [firstState, hnormal]
  · simp [firstState, Quiescent]
  · intro id
    rw [hblocked]
    rfl

theorem access_overwritten :
    ¬ ∀ (digest : Digest) (isHttpUrl : String → Bool) (state : VersionState), Settled state →
      ∀ actions, Quiescent ((versionMachine digest isHttpUrl).run state actions) →
        Reflects ((versionMachine digest isHttpUrl).run state actions) := by
  intro hall
  obtain ⟨first, second, third, hbuilt, hsecond, hthird, h12, h13, h23⟩ := sample_versions
  have hreflects := hall versionsDigest gatewayUrl (firstState first caller) (firstState_settled hbuilt)
    (overwriting assistantInput blockCaller)
  rw [show caller = ⟨"u1", [], .active, none⟩ from rfl] at hreflects hsecond hthird
  have hblock : blockCaller = .access (.user "u1" true) blockInput := rfl
  rw [overwriting_run hblock hsecond hthird h12 h13 h23] at hreflects
  obtain ⟨current, planned, hcurrent, -, hblocked, -⟩ := hreflects (by simp [Quiescent])
  cases hcurrent
  -- the snapshot has the audience that was read, the table has the block
  have hblocks : "u1" ∈ blockedOf (blockCaller.view [caller]) := by decide
  have hmember := (hblocked "u1").mpr hblocks
  rw [(publish_snapshot hthird).2] at hmember
  revert hmember
  decide

/-- A block with nothing else in progress. -/
def blocking (block : Job) : List VersionAction :=
  [.start block, .move 0 .findUser, .move 0 .changeUsers, .move 0 .readRow, .move 0 .readLatest, .move 0 .readUsers,
    .move 0 .build, .move 0 .retire, .move 0 .create, .commit 0]

theorem blocking_undisturbed {input : AccessInput} {id : String} {tags : List String} {quota : Option AudienceQuota}
    (first : Snapshot) :
    (versionMachine digest isHttpUrl).Guarded Undisturbed (firstState first ⟨id, tags, .active, quota⟩)
      (blocking (.access (.user id true) input)) := by
  have hfind {state : VersionState} {others : List Run} (husers : state.users = [⟨id, tags, .active, quota⟩]) :
      advance digest isHttpUrl state others ⟨.access (.user id true) input, .starting⟩ .findUser =
        some (.found .active) := by
    simp [advance, husers]
  refine ⟨trivial, trivial, ?_, trivial, ?_, trivial, trivial, trivial, trivial, trivial, trivial⟩
  · rw [step_start, step_move rfl (hfind rfl)]
    intro run externalId blocked blocking status hrun _ hphase user huser _
    cases hrun
    cases hphase
    rw [List.mem_singleton.mp huser]
  · rw [step_start, step_move rfl (hfind rfl), step_move rfl rfl, step_move rfl rfl]
    intro run reads hrun hphase
    cases hrun
    cases hphase
    refine ⟨?_, fun _ => rfl⟩
    intro read hread
    cases hread

theorem block_kept : ∃ first, Settled (firstState first caller) ∧
    Reflects ((versionMachine versionsDigest gatewayUrl).run (firstState first caller) (blocking blockCaller)) := by
  obtain ⟨first, -, -, hbuilt, -⟩ := sample_versions
  exact ⟨first, firstState_settled hbuilt, access_kept versionsDigest gatewayUrl _ (firstState_settled hbuilt)
    (blocking blockCaller) (blocking_undisturbed first)⟩

end TokenPilot.Runtime
