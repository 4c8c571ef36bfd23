/-
  TokenPilot.Runtime.VersionSafety — what the version table is in every reachable state.

  The unique version is the arbiter. The table always holds the versions 1..n in the order they
  were committed. A run that read the latest version m creates m + 1, so it can create only
  while m is still n; the UPDATE it made in between started after it read m, so it took the row
  that is published. `Run.Sound` says this of each phase, and at most one run holds a created
  row.
-/

import TokenPilot.Runtime.Versions

namespace TokenPilot.Runtime

open Library

variable {digest : Digest} {isHttpUrl : String → Bool}

/-! ## What a step can do -/

section

variable (digest isHttpUrl)

/-- The moves of a run: `advance` with its guards. -/
inductive Advances (state : VersionState) (others : List Run) (job : Job) : Move → Phase → Phase → Prop where
  | foundUser {externalId : String} {blocked : Bool} {input : AccessInput} {user : RouteAudienceUser}
      (hjob : job = .access (.user externalId blocked) input) (hmem : user ∈ state.users)
      (hid : user.externalId = externalId) : Advances state others job .findUser .starting (.found user.status)
  | failed {move : Move} {phase : Phase} (h : ∀ committed, phase ≠ .finished committed) :
      Advances state others job move phase (.finished false)
  | changed {change : AccessChange} {input : AccessInput} {phase : Phase} (hjob : job = .access change input)
      (hfree : ∀ other ∈ others, ∀ user ∈ other.lockedUsers, user ∉ change.members)
      (hphase : phase = .starting ∨ ∃ status, phase = .found status) :
      Advances state others job .changeUsers phase (.reading {})
  | unchanged {externalId : String} {blocked : Bool} {input : AccessInput} {status : UserStatus}
      (hjob : job = .access (.user externalId blocked) input)
      (hfree : ∀ other ∈ others, ∀ user ∈ other.lockedUsers, user ∉ (AccessChange.user externalId blocked).members)
      (hstatus : status = (AccessChange.user externalId blocked).status) :
      Advances state others job .changeUsers (.found status) .unpublished
  | readSource {input : RestoreInput} {latest : Option Nat} {users : Option (List RouteAudienceUser)}
      (hjob : job = .restore input) :
      Advances state others job .readRow (.reading ⟨none, latest, users⟩)
        (.reading ⟨some (state.rows.find? (·.version = input.sourceVersion)), latest, users⟩)
  | readPublished {change : AccessChange} {input : AccessInput} {row : VersionRow} (hjob : job = .access change input)
      (hrow : publishedRow state.rows = some row) :
      Advances state others job .readRow (.reading ⟨none, none, none⟩) (.reading ⟨some (some row), none, none⟩)
  | nothingPublished {change : AccessChange} {input : AccessInput} (hjob : job = .access change input)
      (hrow : publishedRow state.rows = none) :
      Advances state others job .readRow (.reading ⟨none, none, none⟩) .unpublished
  | readLatest {row : Option (Option VersionRow)} {users : Option (List RouteAudienceUser)} :
      Advances state others job .readLatest (.reading ⟨row, none, users⟩)
        (.reading ⟨row, some (latestVersion state.rows), users⟩)
  | readUsers {row : Option (Option VersionRow)} {latest : Option Nat} :
      Advances state others job .readUsers (.reading ⟨row, latest, none⟩)
        (.reading ⟨row, latest, some (job.view state.users)⟩)
  | built {reads : Reads} {row : Option VersionRow} {latest : Nat} {users : List RouteAudienceUser} {snapshot : Snapshot}
      (hcomplete : reads.complete job = some (row, latest, users))
      (hsnapshot : job.snapshot digest isHttpUrl row latest users = some snapshot) :
      Advances state others job .build (.reading reads)
        (.retiring snapshot (latest + 1) ((publishedRows state.rows).map (·.version)) [])
  | retired {snapshot : Snapshot} {version next : Nat} {pending retired : List Nat}
      (hfree : ∀ other ∈ others, next ∉ other.lockedVersions) (hthere : ∃ row ∈ publishedRows state.rows, row.version = next) :
      Advances state others job .retire (.retiring snapshot version (next :: pending) retired)
        (.retiring snapshot version pending (next :: retired))
  | skipped {snapshot : Snapshot} {version next : Nat} {pending retired : List Nat}
      (hfree : ∀ other ∈ others, next ∉ other.lockedVersions) (hgone : ∀ row ∈ publishedRows state.rows, row.version ≠ next) :
      Advances state others job .retire (.retiring snapshot version (next :: pending) retired)
        (.retiring snapshot version pending retired)
  | created {snapshot : Snapshot} {version : Nat} {retired : List Nat}
      (hunique : ∀ row ∈ state.rows, row.version ≠ version ∧ row.snapshot.etag ≠ snapshot.etag)
      (hheld : ∀ other ∈ others, other.holds version snapshot.etag = false) :
      Advances state others job .create (.retiring snapshot version [] retired) (.created snapshot version retired)

end

theorem advance_cases {state : VersionState} {others : List Run} {run : Run} {move : Move} {phase : Phase}
    (h : advance digest isHttpUrl state others run move = some phase) :
    Advances digest isHttpUrl state others run.job move run.phase phase := by
  obtain ⟨job, before⟩ := run
  cases move with
  | findUser =>
    simp only [advance] at h
    split at h
    · split at h
      · rename_i user huser
        cases h
        exact .foundUser rfl (List.mem_of_find?_eq_some huser) (by simpa using List.find?_some huser)
      · cases h
        exact .failed (by simp)
    · cases h
  | changeUsers =>
    simp only [advance] at h
    split at h
    · rename_i change input
      split at h
      · cases h
      · rename_i hlocked
        have hfree : ∀ other ∈ others, ∀ user ∈ other.lockedUsers, user ∉ change.members := by
          simpa using hlocked
        split at h
        · rename_i externalId blocked status
          cases h
          split
          · exact .changed rfl hfree (.inr ⟨status, rfl⟩)
          · rename_i hsame
            exact .unchanged rfl hfree (by simpa [AccessChange.publishes] using hsame)
        · cases h
          exact .changed rfl hfree (.inl rfl)
        · cases h
          exact .changed rfl hfree (.inl rfl)
        · cases h
    · cases h
  | readRow =>
    simp only [advance] at h
    split at h
    · cases h
      exact .readSource rfl
    · split at h
      · rename_i row hrow
        cases h
        exact .readPublished rfl hrow
      · rename_i hrow
        cases h
        exact .nothingPublished rfl hrow
    · cases h
  | readLatest =>
    simp only [advance] at h
    split at h
    · split at h
      · cases h
        exact .readLatest
      · cases h
    · cases h
  | readUsers =>
    simp only [advance] at h
    split at h
    · split at h
      · cases h
        exact .readUsers
      · cases h
    · cases h
  | build =>
    simp only [advance] at h
    split at h
    · split at h
      · rename_i row latest users hcomplete
        split at h
        · rename_i snapshot hsnapshot
          cases h
          exact .built hcomplete hsnapshot
        · cases h
          exact .failed (by simp)
      · cases h
    · cases h
  | retire =>
    simp only [advance] at h
    split at h
    · rename_i snapshot version next pending retired
      split at h
      · cases h
      · rename_i hlocked
        have hfree : ∀ other ∈ others, next ∉ other.lockedVersions := by simpa using hlocked
        split at h
        · rename_i hthere
          cases h
          exact .retired hfree (by simpa [publishedRows, and_comm, and_assoc] using hthere)
        · rename_i hgone
          cases h
          refine .skipped hfree ?_
          intro row hrow heq
          obtain ⟨hmem, hstatus⟩ := List.mem_filter.mp hrow
          apply hgone
          rw [List.any_eq_true]
          exact ⟨row, hmem, by simpa [heq] using hstatus⟩
    · cases h
  | create =>
    simp only [advance] at h
    split at h
    · split at h
      · cases h
        exact .failed (by simp)
      · rename_i hunique
        split at h
        · cases h
        · rename_i hheld
          cases h
          exact .created (by simpa using hunique) (by simpa using hheld)
    · cases h
  | fail =>
    simp only [advance] at h
    split at h
    · cases h
    · rename_i hunfinished
      cases h
      exact .failed hunfinished

theorem complete_latest {reads : Reads} {job : Job} {row : Option VersionRow} {latest : Nat}
    {users : List RouteAudienceUser} (h : reads.complete job = some (row, latest, users)) :
    reads.latest = some latest ∧ reads.users = some users := by
  unfold Reads.complete at h
  split at h <;> cases h <;> exact ⟨‹_›, ‹_›⟩

theorem exec_cases {state state' : VersionState} {action : VersionAction} {o : Unit}
    (h : state.exec digest isHttpUrl action = .ok (o, state')) :
    (∃ job, action = .start job ∧ state' = { state with runs := state.runs ++ [⟨job, job.start⟩] }) ∨
      (∃ id move run phase, action = .move id move ∧ state.runs[id]? = some run ∧
        Advances digest isHttpUrl state (state.runs.eraseIdx id) run.job move run.phase phase ∧
        state' = { state with runs := state.runs.set id { run with phase } }) ∨
      ∃ id run rows users, action = .commit id ∧ state.runs[id]? = some run ∧ run.commit state = some (rows, users) ∧
        state' = ⟨rows, users, state.runs.set id { run with phase := .finished true }⟩ := by
  cases action with
  | start job =>
    cases h
    exact .inl ⟨job, rfl, rfl⟩
  | move id move =>
    simp only [VersionState.exec] at h
    split at h
    · cases h
    · rename_i run hrun
      split at h
      · cases h
      · rename_i phase hphase
        cases h
        exact .inr (.inl ⟨id, move, run, phase, rfl, hrun, advance_cases hphase, rfl⟩)
  | commit id =>
    simp only [VersionState.exec] at h
    split at h
    · cases h
    · rename_i run hrun
      split at h
      · cases h
      · rename_i rows users hcommit
        cases h
        exact .inr (.inr ⟨id, run, rows, users, rfl, hrun, hcommit, rfl⟩)

/-! ## The invariant -/

structure Numbered (rows : List VersionRow) : Prop where
  versions : rows.map (·.version) = List.range' 1 rows.length
  published : ∀ row ∈ publishedRows rows, row.version = rows.length

/-- A run that can still create has, or is about to take, the published row. -/
def Run.Sound (rows : List VersionRow) (run : Run) : Prop :=
  match run.phase with
  | .reading reads => ∀ latest, reads.latest = some latest → latest ≤ rows.length
  | .retiring _ version pending retired => 1 ≤ version ∧ version ≤ rows.length + 1 ∧
      (version = rows.length + 1 → ∀ row ∈ publishedRows rows, row.version ∈ pending ∨ row.version ∈ retired)
  | .created _ version retired => version = rows.length + 1 ∧ ∀ row ∈ publishedRows rows, row.version ∈ retired
  | _ => True

def Phase.isCreated : Phase → Bool
  | .created .. => true
  | _ => false

structure Consistent (state : VersionState) : Prop where
  numbered : Numbered state.rows
  sound : ∀ (id : Nat) (run : Run), state.runs[id]? = some run → run.Sound state.rows
  exclusive : ∀ (id other : Nat) (run run' : Run), state.runs[id]? = some run → state.runs[other]? = some run' →
    run.phase.isCreated = true → run'.phase.isCreated = true → id = other

/-! ## Versions -/

theorem Numbered.mem_iff {rows : List VersionRow} (h : Numbered rows) (version : Nat) :
    version ∈ rows.map (·.version) ↔ 1 ≤ version ∧ version ≤ rows.length := by
  rw [h.versions, List.mem_range'_1]
  omega

theorem Numbered.latest {rows : List VersionRow} (h : Numbered rows) : latestVersion rows = rows.length := by
  unfold latestVersion
  cases hrows : rows with
  | nil => rfl
  | cons first rest =>
    have hmax : (rows.map (·.version)).max? = some rows.length := by
      rw [List.max?_eq_some_iff]
      constructor
      · rw [h.mem_iff, hrows, List.length_cons]
        omega
      · intro version hversion
        exact ((h.mem_iff version).mp hversion).2
    rw [← hrows, hmax]
    rfl

theorem publishedRows_retire {rows : List VersionRow} {retired : List Nat}
    (h : ∀ row ∈ publishedRows rows, row.version ∈ retired) :
    publishedRows (rows.map (VersionRow.retire retired)) = [] := by
  unfold publishedRows
  rw [List.filter_eq_nil_iff]
  intro row hrow hstatus
  obtain ⟨old, hold, rfl⟩ := List.mem_map.mp hrow
  unfold VersionRow.retire at hstatus
  split at hstatus
  · simp at hstatus
  · rename_i hretired
    exact hretired (h old (List.mem_filter.mpr ⟨hold, hstatus⟩))

theorem retire_version (retired : List Nat) (row : VersionRow) : (row.retire retired).version = row.version := by
  unfold VersionRow.retire
  split
  · rfl
  · rfl

theorem map_retire_version (retired : List Nat) (rows : List VersionRow) :
    (rows.map (VersionRow.retire retired)).map (·.version) = rows.map (·.version) := by
  rw [List.map_map]
  apply List.map_congr_left
  intro row _
  exact retire_version retired row

/-- The table after the commit of the next version, with the published row retired. -/
theorem Numbered.commit {rows : List VersionRow} (h : Numbered rows) {retired : List Nat} {row : VersionRow}
    (hversion : row.version = rows.length + 1) (hretired : ∀ old ∈ publishedRows rows, old.version ∈ retired) :
    Numbered (rows.map (VersionRow.retire retired) ++ [row]) := by
  constructor
  · rw [List.map_append, map_retire_version, h.versions, List.length_append, List.length_map, List.length_singleton,
      List.range'_concat]
    simp [hversion, Nat.add_comm]
  · intro current hcurrent
    unfold publishedRows at hcurrent
    have hnone := publishedRows_retire hretired
    unfold publishedRows at hnone
    rw [List.filter_append, hnone, List.nil_append] at hcurrent
    rw [List.mem_singleton.mp (List.mem_of_mem_filter hcurrent), hversion]
    simp

/-! ## Each move keeps the invariant -/

theorem start_sound (job : Job) (rows : List VersionRow) : Run.Sound rows ⟨job, job.start⟩ := by
  cases job with
  | publish input => simp [Run.Sound, Job.start]
  | restore input => simp [Run.Sound, Job.start]
  | access change input => trivial

theorem advances_sound {state : VersionState} {others : List Run} {job : Job} {move : Move} {before after : Phase}
    (hnumbered : Numbered state.rows) (hsound : Run.Sound state.rows ⟨job, before⟩)
    (h : Advances digest isHttpUrl state others job move before after) : Run.Sound state.rows ⟨job, after⟩ := by
  cases h with
  | foundUser => trivial
  | failed => trivial
  | changed => simp [Run.Sound]
  | unchanged => trivial
  | readSource => exact hsound
  | readPublished => exact hsound
  | nothingPublished => trivial
  | readLatest =>
    intro latest hlatest
    cases hlatest
    exact hnumbered.latest.le
  | readUsers => exact hsound
  | @built reads row latest users snapshot hcomplete hsnapshot =>
    have hlatest := (complete_latest hcomplete).1
    refine ⟨Nat.le_add_left 1 latest, Nat.add_le_add_right (hsound latest hlatest) 1, ?_⟩
    -- the UPDATE takes what is published now
    intro _ row hrow
    exact .inl (List.mem_map_of_mem hrow)
  | @retired snapshot version next pending retired hfree hthere =>
    obtain ⟨hpos, hle, htaken⟩ := hsound
    refine ⟨hpos, hle, ?_⟩
    intro hnext row hrow
    rcases htaken hnext row hrow with hmem | hmem
    · rcases List.mem_cons.mp hmem with heq | hmem
      · exact .inr (by simp [heq])
      · exact .inl hmem
    · exact .inr (List.mem_cons_of_mem _ hmem)
  | @skipped snapshot version next pending retired hfree hgone =>
    obtain ⟨hpos, hle, htaken⟩ := hsound
    refine ⟨hpos, hle, ?_⟩
    intro hnext row hrow
    rcases htaken hnext row hrow with hmem | hmem
    · rcases List.mem_cons.mp hmem with heq | hmem
      · exact absurd heq (hgone row hrow)
      · exact .inl hmem
    · exact .inr hmem
  | @created snapshot version retired hunique hheld =>
    obtain ⟨hpos, hle, htaken⟩ := hsound
    have hversion : version = state.rows.length + 1 := by
      by_contra hne
      have hmem := (hnumbered.mem_iff version).mpr ⟨hpos, by omega⟩
      obtain ⟨row, hrow, heq⟩ := List.mem_map.mp hmem
      exact (hunique row hrow).1 heq
    refine ⟨hversion, ?_⟩
    intro row hrow
    simpa using htaken hversion row hrow

/-- Only a run that creates gets to hold a created row, and no other holds that version. -/
theorem advances_created {state : VersionState} {others : List Run} {job : Job} {move : Move} {before after : Phase}
    (h : Advances digest isHttpUrl state others job move before after) (hcreated : after.isCreated = true) :
    ∃ snapshot version retired, after = .created snapshot version retired ∧
      ∀ other ∈ others, other.holds version snapshot.etag = false := by
  cases h with
  | created _ hheld => exact ⟨_, _, _, rfl, hheld⟩
  | _ => cases hcreated

theorem Run.Sound.later {rows rows' : List VersionRow} {run : Run} (h : run.Sound rows)
    (hcreated : run.phase.isCreated = false) (hlength : rows'.length = rows.length + 1) : run.Sound rows' := by
  obtain ⟨job, phase⟩ := run
  cases phase with
  | reading reads =>
    intro latest hlatest
    have hle := h latest hlatest
    omega
  | retiring snapshot version pending retired =>
    refine ⟨h.1, ?_, ?_⟩
    · have hle := h.2.1
      omega
    · intro hnext
      have hle := h.2.1
      omega
  | created snapshot version retired => cases hcreated
  | _ => trivial

theorem consistent_start {state : VersionState} (h : Consistent state) (job : Job) :
    Consistent { state with runs := state.runs ++ [⟨job, job.start⟩] } := by
  have hstart : (Job.start job).isCreated = false := by cases job <;> rfl
  refine ⟨h.numbered, ?_, ?_⟩
  · intro id run hrun
    rcases getElem?_snoc_cases hrun with hrun | rfl
    · exact h.sound id run hrun
    · exact start_sound job state.rows
  · intro id other run run' hrun hrun' hcreated hcreated'
    rcases getElem?_snoc_cases hrun with hrun | rfl
    · rcases getElem?_snoc_cases hrun' with hrun' | rfl
      · exact h.exclusive id other run run' hrun hrun' hcreated hcreated'
      · rw [hstart] at hcreated'
        cases hcreated'
    · rw [hstart] at hcreated
      cases hcreated

theorem holds_of_created {rows : List VersionRow} {run : Run} (hsound : run.Sound rows)
    (hcreated : run.phase.isCreated = true) (etag : String) : run.holds (rows.length + 1) etag = true := by
  obtain ⟨job, phase⟩ := run
  cases phase with
  | created snapshot version retired => simp [Run.holds, hsound.1]
  | _ => cases hcreated

theorem consistent_move {state : VersionState} (h : Consistent state) {id : Nat} {move : Move} {run : Run} {phase : Phase}
    (hrun : state.runs[id]? = some run)
    (hphase : Advances digest isHttpUrl state (state.runs.eraseIdx id) run.job move run.phase phase) :
    Consistent { state with runs := state.runs.set id { run with phase } } := by
  have hsound := advances_sound h.numbered (h.sound id run hrun) hphase
  -- a run that creates holds the next version, which no other created run can hold
  have halone : phase.isCreated = true → ∀ (other : Nat) (run' : Run), other ≠ id → state.runs[other]? = some run' →
      run'.phase.isCreated = false := by
    intro hcreated other run' hother hrun'
    obtain ⟨snapshot, version, retired, rfl, hfree⟩ := advances_created hphase hcreated
    by_contra hheld
    have hmem : run' ∈ state.runs.eraseIdx id := List.mem_eraseIdx_iff_getElem?.mpr ⟨other, hother, hrun'⟩
    have hholds := holds_of_created (h.sound other run' hrun') (by simpa using hheld) snapshot.etag
    rw [← hsound.1, hfree run' hmem] at hholds
    cases hholds
  refine ⟨h.numbered, ?_, ?_⟩
  · intro other run' hrun'
    rcases getElem?_set_cases hrun' with ⟨-, rfl⟩ | ⟨-, hrun'⟩
    · exact hsound
    · exact h.sound other run' hrun'
  · intro one other run₁ run₂ h₁ h₂ hcreated₁ hcreated₂
    rcases getElem?_set_cases h₁ with ⟨rfl, rfl⟩ | ⟨hone, hrun₁⟩
    · rcases getElem?_set_cases h₂ with ⟨rfl, rfl⟩ | ⟨hother, hrun₂⟩
      · rfl
      · rw [halone hcreated₁ other run₂ hother hrun₂] at hcreated₂
        cases hcreated₂
    · rcases getElem?_set_cases h₂ with ⟨rfl, rfl⟩ | ⟨-, hrun₂⟩
      · rw [halone hcreated₂ one run₁ hone hrun₁] at hcreated₁
        cases hcreated₁
      · exact h.exclusive one other run₁ run₂ hrun₁ hrun₂ hcreated₁ hcreated₂

/-- A commit leaves the rows, or retires the published one and appends the next version. -/
theorem commit_cases {state : VersionState} {run : Run} {rows : List VersionRow} {users : List RouteAudienceUser}
    (h : run.commit state = some (rows, users)) :
    users = run.job.view state.users ∧
      ((run.phase = .unpublished ∧ rows = state.rows) ∨
        ∃ snapshot version retired, run.phase = .created snapshot version retired ∧
          rows = state.rows.map (VersionRow.retire retired) ++ [⟨version, .published, snapshot, run.job.origin⟩]) := by
  unfold Run.commit at h
  split at h
  · rename_i hphase
    cases h
    exact ⟨rfl, .inl ⟨hphase, rfl⟩⟩
  · rename_i snapshot version retired hphase
    cases h
    exact ⟨rfl, .inr ⟨snapshot, version, retired, hphase, rfl⟩⟩
  · cases h

theorem consistent_commit {state : VersionState} (h : Consistent state) {id : Nat} {run : Run} {rows : List VersionRow}
    {users : List RouteAudienceUser} (hrun : state.runs[id]? = some run)
    (hcommit : run.commit state = some (rows, users)) :
    Consistent ⟨rows, users, state.runs.set id { run with phase := .finished true }⟩ := by
  obtain ⟨-, ⟨-, rfl⟩ | ⟨snapshot, version, retired, hphase, rfl⟩⟩ := commit_cases hcommit
  · refine ⟨h.numbered, ?_, ?_⟩
    · intro other run' hrun'
      rcases getElem?_set_cases hrun' with ⟨-, rfl⟩ | ⟨-, hrun'⟩
      · trivial
      · exact h.sound other run' hrun'
    · intro one other run₁ run₂ h₁ h₂ hcreated₁ hcreated₂
      rcases getElem?_set_cases h₁ with ⟨-, rfl⟩ | ⟨-, h₁⟩
      · cases hcreated₁
      · rcases getElem?_set_cases h₂ with ⟨-, rfl⟩ | ⟨-, h₂⟩
        · cases hcreated₂
        · exact h.exclusive one other run₁ run₂ h₁ h₂ hcreated₁ hcreated₂
  · have hsound := h.sound id run hrun
    unfold Run.Sound at hsound
    rw [hphase] at hsound
    have hcreated : run.phase.isCreated = true := by rw [hphase]; rfl
    -- every other run has lost its chance to create
    have hothers : ∀ (other : Nat) (run' : Run), other ≠ id → state.runs[other]? = some run' →
        run'.phase.isCreated = false := by
      intro other run' hother hrun'
      by_contra hheld
      exact hother (h.exclusive other id run' run hrun' hrun (by simpa using hheld) hcreated)
    refine ⟨h.numbered.commit hsound.1 hsound.2, ?_, ?_⟩
    · intro other run' hrun'
      rcases getElem?_set_cases hrun' with ⟨-, rfl⟩ | ⟨hother, hrun'⟩
      · trivial
      · exact (h.sound other run' hrun').later (hothers other run' hother hrun') (by simp)
    · intro one other run₁ run₂ h₁ h₂ hcreated₁ hcreated₂
      rcases getElem?_set_cases h₁ with ⟨-, rfl⟩ | ⟨hone, h₁⟩
      · cases hcreated₁
      · rw [hothers one run₁ hone h₁] at hcreated₁
        cases hcreated₁

theorem consistent_exec (state : VersionState) (action : VersionAction) (o : Unit) (state' : VersionState)
    (h : Consistent state) (hexec : state.exec digest isHttpUrl action = .ok (o, state')) : Consistent state' := by
  obtain ⟨job, -, rfl⟩ | ⟨id, move, run, phase, -, hrun, hphase, rfl⟩ | ⟨id, run, rows, users, -, hrun, hcommit, rfl⟩ :=
    exec_cases hexec
  · exact consistent_start h job
  · exact consistent_move h hrun hphase
  · exact consistent_commit h hrun hcommit

theorem consistent_run {state : VersionState} (h : Consistent state) (actions : List VersionAction) :
    Consistent ((versionMachine digest isHttpUrl).run state actions) :=
  Machine.run_invariant consistent_exec actions state h

/-! ## Lost races -/

/-- Another run has committed since this one read the latest version, or it has failed. -/
def Run.Lost (rows : List VersionRow) (run : Run) : Prop :=
  match run.phase with
  | .reading reads => ∃ latest, reads.latest = some latest ∧ latest < rows.length
  | .retiring _ version _ _ => version ≤ rows.length
  | .finished committed => committed = false
  | _ => False

theorem Run.Lost.later {rows rows' : List VersionRow} {run : Run} (h : run.Lost rows) (hlength : rows.length ≤ rows'.length) :
    run.Lost rows' := by
  obtain ⟨job, phase⟩ := run
  cases phase with
  | reading reads =>
    obtain ⟨latest, hlatest, hlt⟩ := h
    exact ⟨latest, hlatest, hlt.trans_le hlength⟩
  | retiring snapshot version pending retired => exact h.trans hlength
  | finished committed => exact h
  | _ => exact h.elim

theorem lost_commit {state : VersionState} {run : Run} (h : run.Lost state.rows) : run.commit state = none := by
  obtain ⟨job, phase⟩ := run
  cases phase with
  | unpublished => exact h.elim
  | created snapshot version retired => exact h.elim
  | _ => rfl

theorem lost_advances {state : VersionState} {others : List Run} {job : Job} {move : Move} {before after : Phase}
    (hsound : Run.Sound state.rows ⟨job, before⟩) (hlost : Run.Lost state.rows ⟨job, before⟩)
    (hnumbered : Numbered state.rows) (h : Advances digest isHttpUrl state others job move before after) :
    Run.Lost state.rows ⟨job, after⟩ := by
  cases h with
  | foundUser => exact hlost
  | failed => rfl
  | changed _ _ hphase =>
    rcases hphase with rfl | ⟨status, rfl⟩
    · exact hlost.elim
    · exact hlost.elim
  | unchanged => exact hlost
  | readSource => exact hlost
  | readPublished => exact hlost
  | nothingPublished =>
    obtain ⟨latest, hlatest, -⟩ := hlost
    cases hlatest
  | readLatest =>
    obtain ⟨latest, hlatest, -⟩ := hlost
    cases hlatest
  | readUsers => exact hlost
  | @built reads row latest users snapshot hcomplete hsnapshot =>
    obtain ⟨read, hread, hlt⟩ := hlost
    have heq : read = latest := Option.some.inj (hread.symm.trans (complete_latest hcomplete).1)
    show latest + 1 ≤ state.rows.length
    omega
  | retired => exact hlost
  | skipped => exact hlost
  | created hunique =>
    -- the version it wants is taken
    obtain ⟨row, hrow, heq⟩ := List.mem_map.mp ((hnumbered.mem_iff _).mpr ⟨hsound.1, hlost⟩)
    exact absurd heq (hunique row hrow).1

/-- The run an action belongs to. -/
def VersionAction.run? : VersionAction → Option Nat
  | .start _ => none
  | .move id _ | .commit id => some id

/-- A lost run stays lost whatever the next step is. -/
theorem lost_exec {state state' : VersionState} {action : VersionAction} {o : Unit} (h : Consistent state) {id : Nat}
    {run : Run} (hrun : state.runs[id]? = some run) (hlost : run.Lost state.rows)
    (hexec : state.exec digest isHttpUrl action = .ok (o, state')) :
    (∃ run', state'.runs[id]? = some run' ∧ run'.Lost state'.rows) ∧
      (action.run? = some id → state'.rows = state.rows) := by
  obtain ⟨job, rfl, rfl⟩ | ⟨other, move, run', phase, rfl, hrun', hphase, rfl⟩ |
    ⟨other, run', rows, users, rfl, hrun', hcommit, rfl⟩ := exec_cases hexec
  · refine ⟨⟨run, ?_, hlost⟩, fun _ => rfl⟩
    rw [List.getElem?_append_left (List.getElem?_eq_some_iff.mp hrun).1]
    exact hrun
  · refine ⟨?_, fun _ => rfl⟩
    by_cases heq : other = id
    · subst heq
      cases Option.some.inj (hrun.symm.trans hrun')
      have hnext := lost_advances (h.sound other run hrun) hlost h.numbered hphase
      exact ⟨_, getElem?_set_of hrun, hnext⟩
    · exact ⟨run, by rw [List.getElem?_set_ne heq]; exact hrun, hlost⟩
  · by_cases heq : other = id
    · subst heq
      cases Option.some.inj (hrun.symm.trans hrun')
      rw [lost_commit hlost] at hcommit
      cases hcommit
    · refine ⟨⟨run, by rw [List.getElem?_set_ne heq]; exact hrun, hlost.later ?_⟩, ?_⟩
      · obtain ⟨-, ⟨-, rfl⟩ | ⟨snapshot, version, retired, -, rfl⟩⟩ := commit_cases hcommit
        · exact Nat.le_refl _
        · simp
      · intro hown
        exact absurd (Option.some.inj hown) heq

theorem lost_run {state : VersionState} (h : Consistent state) {id : Nat} {run : Run} (hrun : state.runs[id]? = some run)
    (hlost : run.Lost state.rows) (actions : List VersionAction) :
    ∃ run', ((versionMachine digest isHttpUrl).run state actions).runs[id]? = some run' ∧
      run'.Lost ((versionMachine digest isHttpUrl).run state actions).rows := by
  refine (Machine.run_invariant (m := versionMachine digest isHttpUrl)
    (P := fun s => Consistent s ∧ ∃ run', s.runs[id]? = some run' ∧ run'.Lost s.rows) ?_ actions state
    ⟨h, run, hrun, hlost⟩).2
  rintro s action o s' ⟨hs, run', hrun', hlost'⟩ hexec
  exact ⟨consistent_exec s action o s' hs hexec, (lost_exec hs hrun' hlost' hexec).1⟩

/-! ## The version table -/

theorem published_le_one {rows : List VersionRow} (h : Numbered rows) : (publishedRows rows).length ≤ 1 := by
  have hnodup : ((publishedRows rows).map (·.version)).Nodup := by
    have hall : (rows.map (·.version)).Nodup := by
      rw [h.versions]
      exact List.nodup_range' _
    exact hall.sublist (List.filter_sublist.map _)
  cases hrows : publishedRows rows with
  | nil => exact Nat.zero_le 1
  | cons first rest =>
    cases rest with
    | nil => exact Nat.le_refl 1
    | cons second rest =>
      exfalso
      rw [hrows] at hnodup
      have hfirst := h.published first (by simp [hrows])
      have hsecond := h.published second (by simp [hrows])
      simp [hfirst, hsecond] at hnodup

/-- The rows before a step, with their versions, are those of the rows after it, in front. -/
theorem exec_rows {state state' : VersionState} {action : VersionAction} {o : Unit}
    (h : state.exec digest isHttpUrl action = .ok (o, state')) :
    state'.rows = state.rows ∨
      ∃ retired row, state'.rows = state.rows.map (VersionRow.retire retired) ++ [row] ∧ row.status = .published := by
  obtain ⟨job, -, rfl⟩ | ⟨id, move, run, phase, -, -, -, rfl⟩ | ⟨id, run, rows, users, -, -, hcommit, rfl⟩ :=
    exec_cases h
  · exact .inl rfl
  · exact .inl rfl
  · obtain ⟨-, ⟨-, rfl⟩ | ⟨snapshot, version, retired, -, rfl⟩⟩ := commit_cases hcommit
    · exact .inl rfl
    · exact .inr ⟨retired, _, rfl, rfl⟩

section

variable (digest isHttpUrl)

structure Arbitrated (state : VersionState) : Prop where
  single : (publishedRows state.rows).length ≤ 1
  greatest : ∀ row ∈ publishedRows state.rows, ∀ other ∈ state.rows, other.version ≤ row.version
  numbered : state.rows.map (·.version) = List.range' 1 state.rows.length
  /-- The rows are in the order of their commits. -/
  appended : ∀ action, ((versionMachine digest isHttpUrl).step state action).rows = state.rows ∨
    ∃ retired row, ((versionMachine digest isHttpUrl).step state action).rows =
      state.rows.map (VersionRow.retire retired) ++ [row] ∧ row.status = .published
  /-- A run that is overtaken is so to its end, and none of its steps changes a row. -/
  overtaken : ∀ id run, state.runs[id]? = some run → run.Lost state.rows → ∀ later,
    let after := (versionMachine digest isHttpUrl).run state later
    (∃ run', after.runs[id]? = some run' ∧ run'.Lost after.rows) ∧
      ∀ action, VersionAction.run? action = some id →
        ((versionMachine digest isHttpUrl).step after action).rows = after.rows

end

theorem arbitrated_of_consistent {state : VersionState} (h : Consistent state) : Arbitrated digest isHttpUrl state := by
  refine ⟨published_le_one h.numbered, ?_, h.numbered.versions, ?_, ?_⟩
  · intro row hrow other hother
    rw [h.numbered.published row hrow]
    exact ((h.numbered.mem_iff _).mp (List.mem_map_of_mem hother)).2
  · intro action
    rcases (versionMachine digest isHttpUrl).step_cases state action with ⟨o, hexec⟩ | hstep
    · exact exec_rows hexec
    · exact .inl (by rw [hstep])
  · intro id run hrun hlost later after
    have hafter : Consistent after := consistent_run h later
    obtain ⟨run', hrun', hlost'⟩ : ∃ run', after.runs[id]? = some run' ∧ run'.Lost after.rows :=
      lost_run h hrun hlost later
    refine ⟨⟨run', hrun', hlost'⟩, ?_⟩
    intro action hown
    rcases (versionMachine digest isHttpUrl).step_cases after action with ⟨o, hexec⟩ | hstep
    · exact (lost_exec hafter hrun' hlost' hexec).2 hown
    · rw [hstep]

/-- Every interleaving of any runs, from the empty table. -/
theorem versions_arbitrated (digest : Digest) (isHttpUrl : String → Bool) (users : List RouteAudienceUser)
    (actions : List VersionAction) :
    Arbitrated digest isHttpUrl ((versionMachine digest isHttpUrl).run ⟨[], users, []⟩ actions) := by
  apply arbitrated_of_consistent
  apply consistent_run
  exact ⟨⟨rfl, by simp [publishedRows]⟩, by simp, by simp⟩

end TokenPilot.Runtime
