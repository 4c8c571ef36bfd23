/-
  TokenPilot.Runtime.RefreshSafety — what any sequence of refreshes leaves of the snapshot in
  memory and of the last known good one.

  `flush_kept` says what a flush touches, `attempt_cases` what the `try` block of a refresh can
  end in: it keeps the memory, or adopts the candidate of its reply (`Adopted`). The `catch`
  block loads the file when the memory is empty (`Reloaded`), expired or not. `RefreshSafe`
  holds of every refresh of every run, whoever answers the acknowledgements, and two managers
  that read the replies alike hold the same (`runs_twins`): the Node and the Python client do, of a
  service that returns one published snapshot (`clients_runsAlike`).
-/

import TokenPilot.Library.Machine
import TokenPilot.Runtime.Identity
import TokenPilot.Runtime.Refresh

namespace TokenPilot.Runtime

open Library

section Refresh

variable {σ : Type} {sdk : RefreshSdk} {post : σ → RuntimeAcknowledgement → Bool × σ} {w : Refreshing}
  {m m' : ManagerState} {s s' : σ}

/-! ## The queue -/

/-- The memory and the file are as before, and no accepted acknowledgement is forgotten. -/
structure ManagerState.Kept (m m' : ManagerState) : Prop where
  snapshot : m'.snapshot = m.snapshot
  lkg : m'.lkg = m.lkg
  accepted : ∀ acknowledgement ∈ m.accepted, acknowledgement ∈ m'.accepted

theorem ManagerState.Kept.refl (m : ManagerState) : m.Kept m := ⟨rfl, rfl, fun _ h => h⟩

theorem flush_kept {acknowledgements : List RuntimeAcknowledgement} {sent : Bool}
    (h : flush post s m acknowledgements = (sent, m', s')) : m.Kept m' ∧
      (sent = true → m'.pending = [] ∧ ∀ acknowledgement ∈ acknowledgements, acknowledgement ∈ m'.accepted) ∧
      ∀ acknowledgement ∈ m'.pending, acknowledgement ∈ acknowledgements := by
  induction acknowledgements generalizing m s with
  | nil =>
    cases h
    exact ⟨⟨rfl, rfl, fun _ h => h⟩, fun _ => ⟨rfl, by simp⟩, by simp⟩
  | cons acknowledgement rest ih =>
    unfold flush at h
    split at h
    · obtain ⟨hkept, hsent, hpending⟩ := ih h
      have hthis : acknowledgement ∈ m'.accepted := hkept.accepted _ (by simp)
      refine ⟨⟨hkept.snapshot, hkept.lkg, fun a ha => hkept.accepted a (by simp [ha])⟩, fun hall => ?_, ?_⟩
      · refine ⟨(hsent hall).1, fun a ha => ?_⟩
        rcases List.mem_cons.mp ha with rfl | ha
        · exact hthis
        · exact (hsent hall).2 a ha
      · exact fun a ha => List.mem_cons_of_mem _ (hpending a ha)
    · cases h
      exact ⟨⟨rfl, rfl, fun _ h => h⟩, nofun, fun _ h => h⟩

/-- What `queue` adds is of the value's reference. -/
theorem runtimeAcknowledgements_ok {value : Value} {state : AcknowledgementState} {now : Int} {id : String}
    {message : Option String} {acknowledgements : List RuntimeAcknowledgement}
    (h : runtimeAcknowledgements sdk value state now id message = .ok acknowledgements) :
    (sdk.configurationReference value = none ∧ acknowledgements = []) ∨
      ∃ reference error, sdk.configurationReference value = some reference ∧
        acknowledgements = [⟨reference, id, now, sdk.identity, state, if state = .applied then some now else none, error⟩] ∧
        ((message = none ∧ error = none) ∨ ∃ text, message.bind sdk.cut = some text ∧ error = some text ∧
          bounded 1 500 text = true) := by
  unfold runtimeAcknowledgements at h
  split at h
  · rename_i hnone
    cases h
    exact .inl ⟨hnone, rfl⟩
  · rename_i reference hreference
    cases message with
    | none =>
      cases h
      exact .inr ⟨reference, none, hreference, rfl, .inl ⟨rfl, rfl⟩⟩
    | some message =>
      dsimp only at h
      split at h
      · rename_i text hcut
        cases h
        obtain ⟨hcut, hbounded⟩ := Option.filter_eq_some_iff.mp hcut
        exact .inr ⟨reference, some text, hreference, rfl, .inr ⟨text, hcut, rfl, hbounded⟩⟩
      · cases h

theorem queueAndFlush_kept {value : Value} {state : AcknowledgementState} {now : Int} {id : String}
    {message : Option String} {result : Except RefreshFailure Unit}
    (h : queueAndFlush sdk post value state now id message m s = (result, m', s')) : m.Kept m' := by
  unfold queueAndFlush at h
  split at h
  · cases h
    exact .refl m
  · cases h
    exact (flush_kept rfl).1

theorem reject_kept {value : Value} {failure : RefreshFailure} {result : Except RefreshFailure RefreshStatus}
    (h : reject sdk post w value failure m s = (result, m', s')) : m.Kept m' ∧ ∃ e, result = .error e := by
  unfold reject at h
  split at h
  · rename_i hqueue
    cases h
    exact ⟨queueAndFlush_kept hqueue, _, rfl⟩
  · rename_i hqueue
    cases h
    exact ⟨queueAndFlush_kept hqueue, _, rfl⟩

/-! ## Adopting a snapshot -/

/-- The reply is a snapshot that is verified, not expired and no reuse of the held version. -/
structure Candidate (sdk : RefreshSdk) (w : Refreshing) (m : ManagerState) (candidate : Snapshot) : Prop where
  body : ∃ value, w.reply = .body value ∧ sdk.verify value = .ok candidate
  unexpired : sdk.expired candidate w.verifiedAt = false
  version : ∀ current, m.snapshot = some current → candidate.version = current.version → candidate.etag = current.etag

/-- The candidate is in memory: it was acknowledged as received, and written. -/
structure Adopted (sdk : RefreshSdk) (w : Refreshing) (m m' : ManagerState) (candidate : Snapshot) : Prop where
  valid : Candidate sdk w m candidate
  received : ∀ reference, sdk.configurationReference candidate.toJson = some reference →
    ⟨reference, w.receivedId, w.receivedAt, sdk.identity, .received, none, none⟩ ∈ m'.accepted
  written : m'.lkg = .stored (sdk.stored candidate)
  memory : m'.snapshot = some candidate

theorem validateCandidate_ok {value : Value} {now : Int} {candidate : Snapshot} :
    validateCandidate sdk m value now = .ok candidate ↔ sdk.verify value = .ok candidate ∧
      sdk.expired candidate now = false ∧
      ∀ current, m.snapshot = some current → candidate.version = current.version → candidate.etag = current.etag := by
  unfold validateCandidate
  cases hverify : sdk.verify value with
  | error e => simp
  | ok snapshot =>
    dsimp only
    by_cases hexpired : sdk.expired snapshot now = true
    · rw [if_pos hexpired]
      simp only [reduceCtorEq, Except.ok.injEq, false_iff, not_and]
      rintro rfl hfalse
      exact absurd hexpired (by simp [hfalse])
    · rw [if_neg hexpired]
      cases hsnapshot : m.snapshot with
      | none =>
        simp only [Option.any_none, Bool.false_eq_true, if_false, Except.ok.injEq]
        constructor
        · rintro rfl
          exact ⟨rfl, by simpa using hexpired, nofun⟩
        · exact fun h => h.1
      | some current =>
        simp only [Option.any_some, Bool.and_eq_true, decide_eq_true_eq]
        split
        · rename_i hcollision
          simp only [reduceCtorEq, Except.ok.injEq, Option.some.injEq, false_iff, not_and]
          rintro rfl - hversion
          exact hcollision.2 (hversion current rfl hcollision.1)
        · rename_i hfresh
          simp only [Except.ok.injEq, Option.some.injEq]
          constructor
          · rintro rfl
            refine ⟨rfl, by simpa using hexpired, ?_⟩
            rintro other rfl hversion
            by_contra hetag
            exact hfresh ⟨hversion, hetag⟩
          · exact fun h => h.1

/-- What the `try` block ends in. -/
inductive Attempted (sdk : RefreshSdk) (w : Refreshing) (m : ManagerState) :
    Except RefreshFailure RefreshStatus → ManagerState → Prop
  | failed {e : RefreshFailure} {m' : ManagerState} : m'.snapshot = m.snapshot →
      (m'.lkg = m.lkg ∨ ∃ candidate, Candidate sdk w m candidate ∧ m'.lkg = .stored (sdk.stored candidate)) →
      Attempted sdk w m (.error e) m'
  | notModified {m' : ManagerState} : m'.snapshot = m.snapshot → m'.snapshot.isSome → m'.lkg = m.lkg →
      Attempted sdk w m (.ok .notModified) m'
  | updated {candidate : Snapshot} {m' : ManagerState} : Adopted sdk w m m' candidate → Attempted sdk w m (.ok .updated) m'

theorem writeLkg_cases {candidate : Snapshot} {outcome : WriteOutcome} {written : Bool}
    (h : writeLkg sdk m candidate outcome = (written, m')) : m'.snapshot = m.snapshot ∧ m'.accepted = m.accepted ∧
      (m'.lkg = m.lkg ∨ m'.lkg = .stored (sdk.stored candidate)) ∧
      (written = true → m'.lkg = .stored (sdk.stored candidate)) := by
  cases outcome with
  | written | replaced =>
    cases h
    exact ⟨rfl, rfl, .inr rfl, fun _ => rfl⟩
  | failed =>
    cases h
    exact ⟨rfl, rfl, .inl rfl, nofun⟩

theorem adopt_cases {candidate : Snapshot} {result : Except RefreshFailure RefreshStatus}
    (hcandidate : Candidate sdk w m candidate) (h : adopt sdk post w candidate m s = (result, m', s')) :
    Attempted sdk w m result m' := by
  unfold adopt at h
  split at h
  · cases h
    exact .failed rfl (.inl rfl)
  rename_i acknowledgements hacknowledgements
  split at h
  · rename_i m₁ s₁ hflush
    cases h
    exact .failed (flush_kept hflush).1.snapshot (.inl (flush_kept hflush).1.lkg)
  rename_i m₁ s₁ hflush
  obtain ⟨hkept, hsent, -⟩ := flush_kept hflush
  have hreceived : ∀ reference, sdk.configurationReference candidate.toJson = some reference →
      ⟨reference, w.receivedId, w.receivedAt, sdk.identity, .received, none, none⟩ ∈ m₁.accepted := by
    intro reference hreference
    rcases runtimeAcknowledgements_ok hacknowledgements with ⟨hnone, -⟩ |
      ⟨other, error, hother, rfl, ⟨-, rfl⟩ | ⟨text, hcut, -⟩⟩
    · rw [hreference] at hnone
      cases hnone
    · rw [hreference] at hother
      cases hother
      exact (hsent rfl).2 _ (by simp)
    · cases hcut
  split at h
  · rename_i m₂ hwrite
    obtain ⟨hsnapshot, -, hlkg, -⟩ := writeLkg_cases hwrite
    obtain ⟨hrejected, e, rfl⟩ := reject_kept h
    refine .failed ((hrejected.snapshot.trans hsnapshot).trans hkept.snapshot) ?_
    rcases hlkg with hlkg | hlkg
    · exact .inl ((hrejected.lkg.trans hlkg).trans hkept.lkg)
    · exact .inr ⟨candidate, hcandidate, hrejected.lkg.trans hlkg⟩
  · rename_i m₂ hwrite
    obtain ⟨-, haccepted, -, hlkg⟩ := writeLkg_cases hwrite
    dsimp only at h
    split at h
    · -- an applied acknowledgement has no message the contract could refuse
      rename_i hqueue
      unfold queueAndFlush at hqueue
      split at hqueue
      · rename_i e he
        unfold runtimeAcknowledgements at he
        split at he <;> cases he
      · cases hqueue
    · rename_i hqueue
      cases h
      have happlied := queueAndFlush_kept hqueue
      refine .updated ⟨hcandidate, fun reference hreference => ?_, happlied.lkg.trans (hlkg rfl), happlied.snapshot⟩
      apply happlied.accepted
      show _ ∈ m₂.accepted
      rw [haccepted]
      exact hreceived reference hreference

theorem attempt_cases {result : Except RefreshFailure RefreshStatus}
    (h : attemptRefresh sdk post w m s = (result, m', s')) : Attempted sdk w m result m' := by
  unfold attemptRefresh at h
  split at h
  · rename_i m₁ s₁ hflush
    cases h
    exact .failed (flush_kept hflush).1.snapshot (.inl (flush_kept hflush).1.lkg)
  rename_i m₁ s₁ hflush
  have hkept := (flush_kept hflush).1
  -- what is a candidate for the manager after the flush is one for the manager before
  have hcandidates : ∀ {candidate}, Candidate sdk w m₁ candidate → Candidate sdk w m candidate := by
    intro candidate hcandidate
    exact ⟨hcandidate.body, hcandidate.unexpired, fun current hcurrent =>
      hcandidate.version current (hkept.snapshot.trans hcurrent)⟩
  have hfrom : ∀ {result m'}, Attempted sdk w m₁ result m' → Attempted sdk w m result m' := by
    intro result m' hattempted
    cases hattempted with
    | failed hsnapshot hlkg =>
      refine .failed (hsnapshot.trans hkept.snapshot) ?_
      rcases hlkg with hlkg | ⟨candidate, hcandidate, hlkg⟩
      · exact .inl (hlkg.trans hkept.lkg)
      · exact .inr ⟨candidate, hcandidates hcandidate, hlkg⟩
    | notModified hsnapshot hsome hlkg =>
      exact .notModified (hsnapshot.trans hkept.snapshot) hsome (hlkg.trans hkept.lkg)
    | updated hadopted =>
      exact .updated ⟨hcandidates hadopted.valid, hadopted.received, hadopted.written, hadopted.memory⟩
  apply hfrom
  split at h
  · cases h
    exact .failed rfl (.inl rfl)
  · cases h
    exact .failed rfl (.inl rfl)
  · cases h
    exact .failed rfl (.inl rfl)
  · split at h
    · cases h
      exact .failed rfl (.inl rfl)
    · rename_i snapshot hsnapshot
      split at h
      · cases h
        exact .failed rfl (.inl rfl)
      · split at h
        · cases h
          exact .failed rfl (.inl rfl)
        · cases h
          refine .notModified rfl ?_ rfl
          show m₁.snapshot.isSome
          rw [hsnapshot]
          rfl
  · rename_i value hreply
    split at h
    · obtain ⟨hrejected, e, rfl⟩ := reject_kept h
      exact .failed hrejected.snapshot (.inl hrejected.lkg)
    · rename_i candidate hvalid
      obtain ⟨hverify, hunexpired, hversion⟩ := (validateCandidate_ok).mp hvalid
      exact adopt_cases ⟨⟨value, hreply, hverify⟩, hunexpired, hversion⟩ h

/-! ## One refresh -/

/-- The memory was empty, and holds what the file held. -/
structure Reloaded (sdk : RefreshSdk) (m m' : ManagerState) : Prop where
  empty : m.snapshot = none
  file : ∃ value snapshot, m'.lkg = .stored value ∧ sdk.verify value = .ok snapshot ∧ m'.snapshot = some snapshot

/-- What a refresh leaves. One that fails keeps a memory that was not empty, unless the snapshot it
    has just adopted is of no use to the result any more. -/
structure RefreshSafe (sdk : RefreshSdk) (w : Refreshing) (m : ManagerState)
    (result : Except RefreshFailure RefreshResult) (m' : ManagerState) : Prop where
  memory : m'.snapshot = m.snapshot ∨ (∃ candidate, Adopted sdk w m m' candidate) ∨ Reloaded sdk m m'
  failed : (∀ r, result = .ok r → r.status = .lkg) → m.snapshot.isSome → m'.snapshot = m.snapshot ∨
    ∃ candidate, Adopted sdk w m m' candidate ∧ sdk.usable candidate w.resultAt = false
  updated : ∀ r, result = .ok r → r.status = .updated →
    ∃ candidate, Adopted sdk w m m' candidate ∧ r.version = candidate.version ∧ r.etag = candidate.etag
  lkg : m'.lkg = m.lkg ∨ ∃ candidate, Candidate sdk w m candidate ∧ m'.lkg = .stored (sdk.stored candidate)

theorem refreshResult_ok {status : RefreshStatus} {now : Int} {r : RefreshResult}
    (h : refreshResult sdk status now m = .ok r) : r.status = status ∧
      ∃ snapshot, m.snapshot = some snapshot ∧ r.version = snapshot.version ∧ r.etag = snapshot.etag := by
  unfold refreshResult at h
  split at h
  · cases h
  · rename_i snapshot hsnapshot
    split at h
    · cases h
      exact ⟨rfl, snapshot, hsnapshot, rfl, rfl⟩
    · cases h

theorem refreshResult_error {status : RefreshStatus} {now : Int} {e : RefreshFailure}
    (h : refreshResult sdk status now m = .error e) {snapshot : Snapshot} (hsnapshot : m.snapshot = some snapshot) :
    sdk.usable snapshot now = false := by
  unfold refreshResult at h
  rw [hsnapshot] at h
  dsimp only at h
  split at h
  · cases h
  · rename_i husable
    simpa using husable

/-- The `catch` block keeps a memory that is not empty, and the file. -/
theorem fallBack_cases {failure : RefreshFailure} {result : Except RefreshFailure RefreshResult}
    (h : fallBack sdk failure w m = (result, m')) : (∀ r, result = .ok r → r.status = .lkg) ∧ m'.lkg = m.lkg ∧
      (m'.snapshot = m.snapshot ∨ Reloaded sdk m m') := by
  unfold fallBack at h
  split at h
  · rename_i snapshot hsnapshot
    cases h
    exact ⟨fun r hr => (refreshResult_ok hr).1, rfl, .inl rfl⟩
  · rename_i hempty
    split at h
    · rename_i hload
      cases h
      unfold loadLkg at hload
      split at hload
      · cases hload
        exact ⟨nofun, rfl, .inl rfl⟩
      · cases hload
        exact ⟨nofun, rfl, .inl rfl⟩
      · split at hload
        · cases hload
          exact ⟨nofun, rfl, .inl rfl⟩
        · cases hload
    · rename_i hload
      cases h
      unfold loadLkg at hload
      split at hload
      · cases hload
      · cases hload
      · rename_i value hvalue
        split at hload
        · cases hload
        · rename_i snapshot hverify
          cases hload
          exact ⟨fun r hr => (refreshResult_ok hr).1, rfl, .inr ⟨hempty, value, snapshot, hvalue, hverify, rfl⟩⟩

theorem loadLkg_accepted {failure : RefreshFailure} : (loadLkg sdk failure m).2.accepted = m.accepted := by
  unfold loadLkg
  split
  · rfl
  · rfl
  · split <;> rfl

theorem fallBack_accepted {failure : RefreshFailure} {result : Except RefreshFailure RefreshResult}
    (h : fallBack sdk failure w m = (result, m')) : m'.accepted = m.accepted := by
  unfold fallBack at h
  split at h
  · cases h
    rfl
  · have haccepted : (loadLkg sdk failure m).2.accepted = m.accepted := loadLkg_accepted
    split at h <;> rename_i hload <;> cases h <;> rw [hload] at haccepted <;> exact haccepted

theorem Reloaded.of_same {m₁ : ManagerState} (h : Reloaded sdk m₁ m') (hsame : m₁.snapshot = m.snapshot) :
    Reloaded sdk m m' :=
  ⟨hsame.symm.trans h.empty, h.file⟩

theorem refresh_cases {result : Except RefreshFailure RefreshResult} (h : refresh sdk post w m s = (result, m', s')) :
    RefreshSafe sdk w m result m' := by
  unfold refresh at h
  split at h
  · rename_i failure m₁ s₁ hattempt
    cases hattempted : fallBack sdk failure w m₁ with
    | mk result₁ m₂ =>
      rw [hattempted] at h
      cases h
      obtain ⟨hstatus, hfile, hmemory⟩ := fallBack_cases hattempted
      cases attempt_cases hattempt with
      | failed hsnapshot hlkg =>
        constructor
        · rcases hmemory with hmemory | hreloaded
          · exact .inl (hmemory.trans hsnapshot)
          · exact .inr (.inr (hreloaded.of_same hsnapshot))
        · intro _ hsome
          rcases hmemory with hmemory | hreloaded
          · exact .inl (hmemory.trans hsnapshot)
          · rw [← hsnapshot, hreloaded.empty] at hsome
            cases hsome
        · intro r hr hupdated
          rw [hstatus r hr] at hupdated
          cases hupdated
        · rcases hlkg with hlkg | ⟨candidate, hcandidate, hlkg⟩
          · exact .inl (hfile.trans hlkg)
          · exact .inr ⟨candidate, hcandidate, hfile.trans hlkg⟩
  · rename_i status m₁ s₁ hattempt
    split at h
    · rename_i result₁ hresult
      cases h
      obtain ⟨hstatus, snapshot, hsnapshot, hversion, hetag⟩ := refreshResult_ok hresult
      cases attempt_cases hattempt with
      | notModified hkept hsome hlkg =>
        refine ⟨.inl hkept, fun _ _ => .inl hkept, ?_, .inl hlkg⟩
        rintro r hr hupdated
        cases hr
        rw [hstatus] at hupdated
        cases hupdated
      | @updated candidate _ hadopted =>
        have hcandidate : snapshot = candidate := Option.some.inj (hsnapshot.symm.trans hadopted.memory)
        refine ⟨.inr (.inl ⟨candidate, hadopted⟩), fun hfell => ?_, ?_, .inr ⟨candidate, hadopted.valid, hadopted.written⟩⟩
        · have hlkg := hfell result₁ rfl
          rw [hstatus] at hlkg
          cases hlkg
        · rintro r hr -
          cases hr
          exact ⟨candidate, hadopted, hcandidate ▸ hversion, hcandidate ▸ hetag⟩
    · rename_i failure hresult
      cases hattempted : fallBack sdk failure w m₁ with
      | mk result₁ m₂ =>
        rw [hattempted] at h
        cases h
        obtain ⟨hstatus, hfile, hmemory⟩ := fallBack_cases hattempted
        -- the memory is not empty after an attempt that went through
        have hsame : m₁.snapshot.isSome → m'.snapshot = m₁.snapshot := by
          intro hsome
          rcases hmemory with hmemory | hreloaded
          · exact hmemory
          · rw [hreloaded.empty] at hsome
            cases hsome
        have hnone : ∀ r, result = .ok r → r.status = .updated →
            ∃ candidate, Adopted sdk w m m' candidate ∧ r.version = candidate.version ∧ r.etag = candidate.etag := by
          intro r hr hupdated
          rw [hstatus r hr] at hupdated
          cases hupdated
        cases attempt_cases hattempt with
        | notModified hkept hsome hlkg =>
          have hall := (hsame hsome).trans hkept
          exact ⟨.inl hall, fun _ _ => .inl hall, hnone, .inl (hfile.trans hlkg)⟩
        | @updated candidate _ hadopted =>
          have hsome : m₁.snapshot.isSome := by
            rw [hadopted.memory]
            rfl
          have haccepted : m'.accepted = m₁.accepted := fallBack_accepted hattempted
          have hadopted' : Adopted sdk w m m' candidate :=
            ⟨hadopted.valid, fun reference hreference => haccepted ▸ hadopted.received reference hreference,
              hfile.trans hadopted.written, (hsame hsome).trans hadopted.memory⟩
          exact ⟨.inr (.inl ⟨candidate, hadopted'⟩),
            fun _ _ => .inr ⟨candidate, hadopted', refreshResult_error hresult hadopted.memory⟩, hnone,
            .inr ⟨candidate, hadopted.valid, hadopted'.written⟩⟩

/-- With a snapshot in memory, what follows the attempt touches the source only. -/
theorem refresh_after {status : RefreshStatus} {snapshot : Snapshot}
    (h : attemptRefresh sdk post w m s = (.ok status, m', s')) (hsnapshot : m'.snapshot = some snapshot) :
    ∃ source, (refresh sdk post w m s).2 = ({ m' with source }, s') := by
  unfold refresh
  rw [h]
  dsimp only
  split
  · exact ⟨m'.source, rfl⟩
  · unfold fallBack
    rw [hsnapshot]
    exact ⟨.lkg, by simp⟩

end Refresh

/-! ## Runs -/

def refreshes {σ : Type} (sdk : RefreshSdk) (post : σ → RuntimeAcknowledgement → Bool × σ) :
    Machine (ManagerState × σ) Refreshing (Except RefreshFailure RefreshResult) Unit where
  exec state w := .ok (refresh sdk post w state.1 state.2)

/-- A client that has just been made. -/
def newManager (file : LkgFile) : ManagerState := ⟨none, .lkg, [], file, []⟩

/-- The file is the one that was there, or was written with a snapshot that was verified. -/
def WrittenVerified (sdk : RefreshSdk) (file : LkgFile) (m : ManagerState) : Prop :=
  m.lkg = file ∨ ∃ candidate value, sdk.verify value = .ok candidate ∧ m.lkg = .stored (sdk.stored candidate)

section Runs

variable {σ : Type} {sdk : RefreshSdk} {post : σ → RuntimeAcknowledgement → Bool × σ} {file : LkgFile}

theorem refresh_step (state : ManagerState × σ) (w : Refreshing) :
    (refreshes sdk post).step state w = (refresh sdk post w state.1 state.2).2 := rfl

theorem writtenVerified_run (steps : List Refreshing) (s : σ) :
    WrittenVerified sdk file ((refreshes sdk post).run (newManager file, s) steps).1 := by
  refine Machine.run_invariant (m := refreshes sdk post) (P := fun state => WrittenVerified sdk file state.1) ?_ steps
    (newManager file, s) (.inl rfl)
  intro state w result state' hstate hexec
  have hrefresh : refresh sdk post w state.1 state.2 = (result, state') := Except.ok.inj hexec
  rcases (refresh_cases hrefresh).lkg with hlkg | ⟨candidate, hcandidate, hlkg⟩
  · rcases hstate with hfile | ⟨written, value, hverify, hwritten⟩
    · exact .inl (hlkg.trans hfile)
    · exact .inr ⟨written, value, hverify, hlkg.trans hwritten⟩
  · obtain ⟨value, -, hverify⟩ := hcandidate.body
    exact .inr ⟨candidate, value, hverify, hlkg⟩

end Runs

/-! ## Two managers -/

/-- Answers to the posts, in order. -/
def scripted : List Bool → RuntimeAcknowledgement → Bool × List Bool
  | [], _ => (false, [])
  | answer :: rest, _ => (answer, rest)

/-- Two files that read alike. -/
inductive FilesAlike (sdk sdk' : RefreshSdk) : LkgFile → LkgFile → Prop
  | missing : FilesAlike sdk sdk' .missing .missing
  | unreadable : FilesAlike sdk sdk' .unreadable .unreadable
  | stored {value value' : Value} : (sdk.verify value).toOption = (sdk'.verify value').toOption →
      FilesAlike sdk sdk' (.stored value) (.stored value')

/-- The managers hold the same; their queues are as long as each other. -/
structure HeldAlike (sdk sdk' : RefreshSdk) (m n : ManagerState) : Prop where
  snapshot : m.snapshot = n.snapshot
  pending : m.pending.length = n.pending.length
  lkg : FilesAlike sdk sdk' m.lkg n.lkg

/-- Two refreshes that meet the same, which the two SDKs read alike. -/
structure ReadAlike (sdk sdk' : RefreshSdk) (m : ManagerState) (w w' : Refreshing) : Prop where
  reply : w'.reply = w.reply
  write : w'.write = w.write
  verify : ∀ value, w.reply = .body value → (sdk.verify value).toOption = (sdk'.verify value).toOption
  named : ∀ value, w.reply = .body value →
    (sdk.configurationReference value).isSome = (sdk'.configurationReference value).isSome
  candidate : ∀ value candidate, w.reply = .body value → sdk.verify value = .ok candidate →
    sdk.expired candidate w.verifiedAt = sdk'.expired candidate w'.verifiedAt ∧
      (sdk.configurationReference candidate.toJson).isSome = (sdk'.configurationReference candidate.toJson).isSome ∧
      (sdk.verify (sdk.stored candidate)).toOption = (sdk'.verify (sdk'.stored candidate)).toOption
  held : ∀ snapshot, m.snapshot = some snapshot → (sdk.verifyHeld snapshot).toOption = (sdk'.verifyHeld snapshot).toOption ∧
    sdk.expired snapshot w.verifiedAt = sdk'.expired snapshot w'.verifiedAt
  message : ∀ failure, (sdk.cut (w.message failure)).any (bounded 1 500) = true
  message' : ∀ failure, (sdk'.cut (w'.message failure)).any (bounded 1 500) = true

section Twins

variable {sdk sdk' : RefreshSdk} {w w' : Refreshing} {m₀ m n : ManagerState} {answers : List Bool}

/-- Both went through with the same, or both failed. -/
def SameEnd {α : Type} (sdk sdk' : RefreshSdk) (a b : Except RefreshFailure α × ManagerState × List Bool) : Prop :=
  a.1.toOption = b.1.toOption ∧ HeldAlike sdk sdk' a.2.1 b.2.1 ∧ a.2.2 = b.2.2

theorem flush_twins (answers : List Bool) {queue queue' : List RuntimeAcknowledgement} (h : HeldAlike sdk sdk' m n)
    (hlength : queue.length = queue'.length) :
    (flush scripted answers m queue).1 = (flush scripted answers n queue').1 ∧
      HeldAlike sdk sdk' (flush scripted answers m queue).2.1 (flush scripted answers n queue').2.1 ∧
      (flush scripted answers m queue).2.2 = (flush scripted answers n queue').2.2 := by
  induction queue generalizing queue' m n answers with
  | nil =>
    cases queue' with
    | nil => exact ⟨rfl, ⟨h.snapshot, rfl, h.lkg⟩, rfl⟩
    | cons a rest => cases hlength
  | cons a rest ih =>
    cases queue' with
    | nil => cases hlength
    | cons b rest' =>
      cases answers with
      | nil => exact ⟨rfl, ⟨h.snapshot, hlength, h.lkg⟩, rfl⟩
      | cons answer answers =>
        cases answer with
        | false => exact ⟨rfl, ⟨h.snapshot, hlength, h.lkg⟩, rfl⟩
        | true =>
          have hrest : HeldAlike sdk sdk' { m with accepted := m.accepted ++ [a] } { n with accepted := n.accepted ++ [b] } :=
            ⟨h.snapshot, h.pending, h.lkg⟩
          exact ih answers hrest (Nat.succ.inj hlength)

/-- Values that both SDKs, or neither, take to name a configuration give queues of one length. -/
theorem acknowledgements_twins {value value' : Value} (state : AcknowledgementState) (now now' : Int) (id id' : String)
    {message message' : Option String}
    (hnamed : (sdk.configurationReference value).isSome = (sdk'.configurationReference value').isSome)
    (hmessage : ∀ text, message = some text → (sdk.cut text).any (bounded 1 500) = true)
    (hmessage' : ∀ text, message' = some text → (sdk'.cut text).any (bounded 1 500) = true) :
    ∃ l l', runtimeAcknowledgements sdk value state now id message = .ok l ∧
      runtimeAcknowledgements sdk' value' state now' id' message' = .ok l' ∧ l.length = l'.length := by
  have hone : ∀ (sdk : RefreshSdk) (value : Value) (now : Int) (id : String) (message : Option String),
      (∀ text, message = some text → (sdk.cut text).any (bounded 1 500) = true) →
      ∃ l, runtimeAcknowledgements sdk value state now id message = .ok l ∧
        l.length = if (sdk.configurationReference value).isSome then 1 else 0 := by
    intro sdk value now id message hmessage
    unfold runtimeAcknowledgements
    cases sdk.configurationReference value with
    | none => exact ⟨[], rfl, rfl⟩
    | some reference =>
      cases message with
      | none => exact ⟨_, rfl, rfl⟩
      | some text =>
        obtain ⟨cut, hcut, hbounded⟩ := (Option.any_eq_true _ _).mp (hmessage text rfl)
        have hfilter : (sdk.cut text).filter (bounded 1 500) = some cut := by
          rw [hcut, Option.filter_some, if_pos hbounded]
        simp only [hfilter]
        exact ⟨_, rfl, rfl⟩
  obtain ⟨l, hl, hlength⟩ := hone sdk value now id message hmessage
  obtain ⟨l', hl', hlength'⟩ := hone sdk' value' now' id' message' hmessage'
  exact ⟨l, l', hl, hl', by rw [hlength, hlength', hnamed]⟩

theorem queueAndFlush_twins (answers : List Bool) {value value' : Value} (state : AcknowledgementState) (now now' : Int)
    (id id' : String) {message message' : Option String} (h : HeldAlike sdk sdk' m n)
    (hnamed : (sdk.configurationReference value).isSome = (sdk'.configurationReference value').isSome)
    (hmessage : ∀ text, message = some text → (sdk.cut text).any (bounded 1 500) = true)
    (hmessage' : ∀ text, message' = some text → (sdk'.cut text).any (bounded 1 500) = true) :
    SameEnd sdk sdk' (queueAndFlush sdk scripted value state now id message m answers)
      (queueAndFlush sdk' scripted value' state now' id' message' n answers) := by
  obtain ⟨l, l', hl, hl', hlength⟩ := acknowledgements_twins state now now' id id' hnamed hmessage hmessage'
  have hqueues : (m.pending ++ l).length = (n.pending ++ l').length := by
    rw [List.length_append, List.length_append, h.pending, hlength]
  have hflush := flush_twins answers h hqueues
  simp only [queueAndFlush, hl, hl']
  exact ⟨rfl, hflush.2⟩

theorem reject_twins {value value' : Value} {failure failure' : RefreshFailure} (hr : ReadAlike sdk sdk' m₀ w w')
    (h : HeldAlike sdk sdk' m n)
    (hnamed : (sdk.configurationReference value).isSome = (sdk'.configurationReference value').isSome) :
    SameEnd sdk sdk' (reject sdk scripted w value failure m answers) (reject sdk' scripted w' value' failure' n answers) := by
  have hmessage : ∀ text, some (w.message failure) = some text → (sdk.cut text).any (bounded 1 500) = true := by
    rintro _ ⟨⟩
    exact hr.message failure
  have hmessage' : ∀ text, some (w'.message failure') = some text → (sdk'.cut text).any (bounded 1 500) = true := by
    rintro _ ⟨⟩
    exact hr.message' failure'
  have hqueue := queueAndFlush_twins answers .rejected w.closedAt w'.closedAt w.closedId w'.closedId h hnamed hmessage hmessage'
  unfold reject
  generalize queueAndFlush sdk scripted value .rejected w.closedAt w.closedId (some (w.message failure)) m answers = a
    at hqueue ⊢
  generalize queueAndFlush sdk' scripted value' .rejected w'.closedAt w'.closedId (some (w'.message failure')) n answers = b
    at hqueue ⊢
  obtain ⟨ra, ma, sa⟩ := a
  obtain ⟨rb, mb, sb⟩ := b
  obtain ⟨-, htwins, hanswers⟩ := hqueue
  cases ra <;> cases rb <;> exact ⟨rfl, htwins, hanswers⟩

theorem writeLkg_twins {candidate : Snapshot} (outcome : WriteOutcome) (h : HeldAlike sdk sdk' m n)
    (hstored : (sdk.verify (sdk.stored candidate)).toOption = (sdk'.verify (sdk'.stored candidate)).toOption) :
    (writeLkg sdk m candidate outcome).1 = (writeLkg sdk' n candidate outcome).1 ∧
      HeldAlike sdk sdk' (writeLkg sdk m candidate outcome).2 (writeLkg sdk' n candidate outcome).2 := by
  cases outcome with
  | written | replaced => exact ⟨rfl, h.snapshot, h.pending, .stored hstored⟩
  | failed => exact ⟨rfl, h⟩

theorem adopt_twins {candidate : Snapshot} (hr : ReadAlike sdk sdk' m₀ w w') (h : HeldAlike sdk sdk' m n)
    (hnamed : (sdk.configurationReference candidate.toJson).isSome = (sdk'.configurationReference candidate.toJson).isSome)
    (hstored : (sdk.verify (sdk.stored candidate)).toOption = (sdk'.verify (sdk'.stored candidate)).toOption) :
    SameEnd sdk sdk' (adopt sdk scripted w candidate m answers) (adopt sdk' scripted w' candidate n answers) := by
  have hnone : ∀ (sdk : RefreshSdk) (text : String), none = some text → (sdk.cut text).any (bounded 1 500) = true := nofun
  obtain ⟨l, l', hl, hl', hlength⟩ :=
    acknowledgements_twins .received w.receivedAt w'.receivedAt w.receivedId w'.receivedId hnamed (hnone sdk) (hnone sdk')
  have hqueues : (m.pending ++ l).length = (n.pending ++ l').length := by
    rw [List.length_append, List.length_append, h.pending, hlength]
  have hflush := flush_twins answers h hqueues
  unfold adopt
  simp only [hl, hl']
  generalize flush scripted answers m (m.pending ++ l) = a at hflush ⊢
  generalize flush scripted answers n (n.pending ++ l') = b at hflush ⊢
  obtain ⟨sent, m₁, s₁⟩ := a
  obtain ⟨sent', n₁, t₁⟩ := b
  obtain ⟨hsent, htwins, hanswers⟩ := hflush
  cases hsent
  cases hanswers
  cases sent with
  | false => exact ⟨rfl, htwins, rfl⟩
  | true =>
    have hwrite := writeLkg_twins w.write htwins hstored
    rw [hr.write]
    dsimp only
    generalize writeLkg sdk m₁ candidate w.write = c at hwrite ⊢
    generalize writeLkg sdk' n₁ candidate w.write = d at hwrite ⊢
    obtain ⟨written, m₂⟩ := c
    obtain ⟨written', n₂⟩ := d
    obtain ⟨hwritten, htwins₂⟩ := hwrite
    cases hwritten
    cases written with
    | false => exact reject_twins hr htwins₂ hnamed
    | true =>
      have hheld : HeldAlike sdk sdk' { m₂ with snapshot := some candidate, source := .remote }
          { n₂ with snapshot := some candidate, source := .remote } :=
        ⟨rfl, htwins₂.pending, htwins₂.lkg⟩
      have hqueue := queueAndFlush_twins s₁ .applied w.closedAt w'.closedAt w.closedId w'.closedId hheld hnamed
        (hnone sdk) (hnone sdk')
      dsimp only
      generalize queueAndFlush sdk scripted candidate.toJson .applied w.closedAt w.closedId none
        { m₂ with snapshot := some candidate, source := .remote } s₁ = e at hqueue ⊢
      generalize queueAndFlush sdk' scripted candidate.toJson .applied w'.closedAt w'.closedId none
        { n₂ with snapshot := some candidate, source := .remote } s₁ = f at hqueue ⊢
      obtain ⟨re, me, se⟩ := e
      obtain ⟨rf, mf, sf⟩ := f
      obtain ⟨hend, htwins₃, hanswers⟩ := hqueue
      cases re <;> cases rf <;> first | exact ⟨rfl, htwins₃, hanswers⟩ | cases hend

theorem validateCandidate_twins {value : Value} (hr : ReadAlike sdk sdk' m₀ w w') (hreply : w.reply = .body value)
    (h : HeldAlike sdk sdk' m n) :
    (validateCandidate sdk m value w.verifiedAt).toOption = (validateCandidate sdk' n value w'.verifiedAt).toOption := by
  have hverify := hr.verify value hreply
  unfold validateCandidate
  cases hv : sdk.verify value with
  | error e =>
    cases hv' : sdk'.verify value with
    | error e' => rfl
    | ok candidate =>
      rw [hv, hv'] at hverify
      cases hverify
  | ok candidate =>
    cases hv' : sdk'.verify value with
    | error e' =>
      rw [hv, hv'] at hverify
      cases hverify
    | ok candidate' =>
      rw [hv, hv'] at hverify
      cases hverify
      dsimp only
      rw [(hr.candidate value candidate hreply hv).1, h.snapshot]

theorem attempt_twins (answers : List Bool) (hr : ReadAlike sdk sdk' m w w') (h : HeldAlike sdk sdk' m n) :
    SameEnd sdk sdk' (attemptRefresh sdk scripted w m answers) (attemptRefresh sdk' scripted w' n answers) := by
  have hflush := flush_twins answers h h.pending
  have hkept : m.Kept (flush scripted answers m m.pending).2.1 := (flush_kept rfl).1
  unfold attemptRefresh
  generalize flush scripted answers m m.pending = a at hflush hkept ⊢
  generalize flush scripted answers n n.pending = b at hflush ⊢
  obtain ⟨sent, m₁, s₁⟩ := a
  obtain ⟨sent', n₁, t₁⟩ := b
  obtain ⟨hsent, htwins, hanswers⟩ := hflush
  cases hsent
  cases hanswers
  cases sent with
  | false => exact ⟨rfl, htwins, rfl⟩
  | true =>
    dsimp only
    rw [hr.reply]
    cases hreply : w.reply with
    | networkFailure | refused | notJson => exact ⟨rfl, htwins, rfl⟩
    | notModified =>
      dsimp only
      rw [← htwins.snapshot]
      cases hsnapshot : m₁.snapshot with
      | none => exact ⟨rfl, htwins, rfl⟩
      | some snapshot =>
        obtain ⟨hverify, hexpired⟩ := hr.held snapshot (hkept.snapshot.symm.trans hsnapshot)
        dsimp only
        rw [← hexpired]
        cases hv : sdk.verifyHeld snapshot <;> cases hv' : sdk'.verifyHeld snapshot <;>
          simp only [hv, hv', Except.toOption, reduceCtorEq] at hverify
        · exact ⟨rfl, htwins, rfl⟩
        · dsimp only
          split
          · exact ⟨rfl, htwins, rfl⟩
          · exact ⟨rfl, ⟨rfl, htwins.pending, htwins.lkg⟩, rfl⟩
    | body value =>
      dsimp only
      have hvalid := validateCandidate_twins hr hreply htwins
      cases hv : validateCandidate sdk m₁ value w.verifiedAt <;>
        cases hv' : validateCandidate sdk' n₁ value w'.verifiedAt <;>
        simp only [hv, hv', Except.toOption, reduceCtorEq, Option.some.injEq] at hvalid
      · exact reject_twins hr htwins (hr.named value hreply)
      · cases hvalid
        obtain ⟨-, hnamed, hstored⟩ := hr.candidate value _ hreply ((validateCandidate_ok).mp hv).1
        exact adopt_twins hr htwins hnamed hstored

theorem fallBack_twins {failure failure' : RefreshFailure} (h : HeldAlike sdk sdk' m n) :
    HeldAlike sdk sdk' (fallBack sdk failure w m).2 (fallBack sdk' failure' w' n).2 := by
  unfold fallBack
  rw [← h.snapshot]
  cases hsnapshot : m.snapshot with
  | some snapshot => exact ⟨rfl, h.pending, h.lkg⟩
  | none =>
    have hfiles := h.lkg
    dsimp only
    unfold loadLkg
    cases hm : m.lkg <;> cases hn : n.lkg <;> rw [hm, hn] at hfiles <;> cases hfiles
    · exact h
    · exact h
    · rename_i value value' hverify
      dsimp only
      cases hv : sdk.verify value <;> cases hv' : sdk'.verify value' <;>
        simp only [hv, hv', Except.toOption, reduceCtorEq, Option.some.injEq] at hverify
      · exact h
      · exact ⟨congrArg some hverify, h.pending, .stored (by rw [hv, hv', hverify])⟩

theorem refresh_twins (answers : List Bool) (hr : ReadAlike sdk sdk' m w w') (h : HeldAlike sdk sdk' m n) :
    HeldAlike sdk sdk' (refresh sdk scripted w m answers).2.1 (refresh sdk' scripted w' n answers).2.1 ∧
      (refresh sdk scripted w m answers).2.2 = (refresh sdk' scripted w' n answers).2.2 := by
  have hattempt := attempt_twins answers hr h
  cases ha : attemptRefresh sdk scripted w m answers with
  | mk ra rest =>
    obtain ⟨ma, sa⟩ := rest
    cases hb : attemptRefresh sdk' scripted w' n answers with
    | mk rb rest =>
      obtain ⟨mb, sb⟩ := rest
      rw [ha, hb] at hattempt
      obtain ⟨hend, htwins, hanswers⟩ := hattempt
      cases ra with
      | error e =>
        cases rb with
        | ok status => cases hend
        | error e' =>
          unfold refresh
          rw [ha, hb]
          exact ⟨fallBack_twins htwins, hanswers⟩
      | ok status =>
        cases rb with
        | error e' => cases hend
        | ok status' =>
          -- an attempt that goes through leaves a snapshot in memory
          obtain ⟨snapshot, hsnapshot⟩ : ∃ snapshot, ma.snapshot = some snapshot := by
            cases attempt_cases ha with
            | notModified _ hsome _ => exact Option.isSome_iff_exists.mp hsome
            | updated hadopted => exact ⟨_, hadopted.memory⟩
          obtain ⟨source, heq⟩ := refresh_after ha hsnapshot
          obtain ⟨source', heq'⟩ := refresh_after hb (htwins.snapshot.symm.trans hsnapshot)
          rw [heq, heq']
          exact ⟨⟨htwins.snapshot, htwins.pending, htwins.lkg⟩, hanswers⟩

/-- The runs of two managers whose refreshes meet the same, each read alike. -/
def RunsAlike (sdk sdk' : RefreshSdk) :
    ManagerState × List Bool → ManagerState × List Bool → List (Refreshing × Refreshing) → Prop
  | _, _, [] => True
  | s, t, (w, w') :: rest => ReadAlike sdk sdk' s.1 w w' ∧
      RunsAlike sdk sdk' ((refreshes sdk scripted).step s w) ((refreshes sdk' scripted).step t w') rest

theorem runs_twins {steps : List (Refreshing × Refreshing)} {s t : ManagerState × List Bool}
    (h : HeldAlike sdk sdk' s.1 t.1) (hanswers : s.2 = t.2) (halike : RunsAlike sdk sdk' s t steps) :
    HeldAlike sdk sdk' ((refreshes sdk scripted).run s (steps.map Prod.fst)).1
      ((refreshes sdk' scripted).run t (steps.map Prod.snd)).1 := by
  induction steps generalizing s t with
  | nil => exact h
  | cons pair rest ih =>
    obtain ⟨w, w'⟩ := pair
    have hstep := refresh_twins s.2 halike.1 h
    rw [List.map_cons, List.map_cons, Machine.run_cons, Machine.run_cons]
    refine ih ?_ ?_ halike.2
    · rw [refresh_step, refresh_step, ← hanswers]
      exact hstep.1
    · rw [refresh_step, refresh_step, ← hanswers]
      exact hstep.2

end Twins

/-- After any sequence of refreshes, whatever is answered to acknowledgements, the next one leaves
    the memory as it was, or with the candidate of its reply, acknowledged as received and
    written, or with the file's snapshot when it was empty; the file is the one there was, or was
    written with a verified snapshot; and two managers that read the replies alike hold the same. -/
theorem refresh_protocol :
    (∀ (σ : Type) (sdk : RefreshSdk) (post : σ → RuntimeAcknowledgement → Bool × σ) (file : LkgFile) (s : σ)
        (steps : List Refreshing) (w : Refreshing),
      let state := (refreshes sdk post).run (newManager file, s) steps
      RefreshSafe sdk w state.1 (refresh sdk post w state.1 state.2).1 (refresh sdk post w state.1 state.2).2.1 ∧
        WrittenVerified sdk file state.1) ∧
      ∀ (sdk sdk' : RefreshSdk) (file file' : LkgFile) (answers : List Bool) (steps : List (Refreshing × Refreshing)),
        FilesAlike sdk sdk' file file' →
        RunsAlike sdk sdk' (newManager file, answers) (newManager file', answers) steps →
        ((refreshes sdk scripted).run (newManager file, answers) (steps.map Prod.fst)).1.snapshot =
          ((refreshes sdk' scripted).run (newManager file', answers) (steps.map Prod.snd)).1.snapshot := by
  constructor
  · intro σ sdk post file s steps w
    exact ⟨refresh_cases rfl, writtenVerified_run steps s⟩
  · intro sdk sdk' file file' answers steps hfiles halike
    have htwins : HeldAlike sdk sdk' (newManager file) (newManager file') := ⟨rfl, rfl, hfiles⟩
    exact (@runs_twins _ _ steps (newManager file, answers) (newManager file', answers) htwins rfl halike).snapshot

/-! ## The Node client and the Python client of one published snapshot -/

/-- What the Python client has to read and write alike: a verified snapshot is what it verifies,
    again once it is held, and once its file is read back. -/
structure PythonReads (verify : Value → Except IntegrityError Snapshot)
    (verifyHeld : Snapshot → Except IntegrityError Unit) (stored : Snapshot → Value) (snapshot : Snapshot) : Prop where
  body : verify snapshot.toJson = .ok snapshot
  held : verifyHeld snapshot = .ok ()
  written : verify (stored snapshot) = .ok snapshot

/-- A snapshot refers to the version of its plans. -/
theorem configurationReferences_toJson (snapshot : Snapshot) :
    Node.configurationReferences snapshot.toJson = referenceOf snapshot.toJson (snapshot.routing.filterMap fun entry =>
      integerSchema 1 maxSafeInteger (integer entry.2.configurationVersion)) := by
  have hrouting : fieldOf snapshot.toJson "routing" =
      some (.obj (snapshot.routing.map fun entry => (entry.1, entry.2.toJson))) := by
    simp [fieldOf, Snapshot.toJson, UnsignedSnapshot.fields, List.lookup_cons]
  unfold Node.configurationReferences
  rw [hrouting]
  show referenceOf snapshot.toJson (((snapshot.routing.map fun entry => (entry.1, entry.2.toJson)).map (·.2)).filterMap _) = _
  rw [List.map_map, List.filterMap_map]
  congr 1

theorem integerOf_integer (n : Int) : Python.integerOf (integer n) = some n := by
  simp only [Python.integerOf, integer]
  rw [if_pos (ofInt_exponent n), ofInt_integer]

theorem configurationReference_toJson (snapshot : Snapshot) :
    Python.configurationReference snapshot.toJson = referenceOf snapshot.toJson (snapshot.routing.filterMap fun entry =>
      Python.integerOf (integer entry.2.configurationVersion)) := by
  have hrouting : fieldOf snapshot.toJson "routing" =
      some (.obj (snapshot.routing.map fun entry => (entry.1, entry.2.toJson))) := by
    simp [fieldOf, Snapshot.toJson, UnsignedSnapshot.fields, List.lookup_cons]
  unfold Python.configurationReference
  rw [hrouting]
  show referenceOf snapshot.toJson ((snapshot.routing.map fun entry => (entry.1, entry.2.toJson)).filterMap _) = _
  rw [List.filterMap_map]
  congr 1

section Clients

variable {digest : Digest} {isHttpUrl : String → Bool} {snapshot : Snapshot}

/-- The version of a plan of a verified snapshot is one that both SDKs read. -/
theorem references_alike (hverified : verifyRuntimeSnapshot digest isHttpUrl snapshot.toJson = .ok snapshot) :
    Node.configurationReferences snapshot.toJson = Python.configurationReference snapshot.toJson := by
  have haccepted : snapshot.Accepted isHttpUrl := by
    apply (runtimeSnapshotSchema_accepts isHttpUrl snapshot).mp
    unfold Accepts
    unfold verifyRuntimeSnapshot at hverified
    split at hverified
    · cases hverified
    · rename_i parsed hparse
      rw [hparse]
      rfl
  rw [configurationReferences_toJson, configurationReference_toJson]
  congr 1
  apply List.filterMap_congr
  intro entry hentry
  obtain ⟨hpositive, hsafe⟩ := (haccepted.routing entry hentry).2.configurationVersion
  rw [integerOf_integer, integerSchema_integer, if_pos (by omega)]

/-- The expiry of a published snapshot is whole in milliseconds, so that both SDKs see it pass at once. -/
theorem expired_alike (hwhole : snapshot.expiresAt.microseconds = 0) (now : Int) :
    Node.expired snapshot now = Python.expired snapshot now := by
  unfold Node.expired Python.expired Python.expiresAfter
  rw [hwhole, ← decide_not, decide_eq_decide]
  omega

/-- The two refreshes meet the same reply, of which a body is the snapshot, at times on one side of
    its expiry. -/
structure SameReply (snapshot : Snapshot) (w w' : Refreshing) : Prop where
  reply : w'.reply = w.reply
  body : ∀ value, w.reply = .body value → value = snapshot.toJson
  write : w'.write = w.write
  time : Node.expired snapshot w.verifiedAt = Node.expired snapshot w'.verifiedAt
  message : ∀ failure, (Node.cut (w.message failure)).any (bounded 1 500) = true
  message' : ∀ failure, (Python.cut (w'.message failure)).any (bounded 1 500) = true

/-- The memory and the file hold no other snapshot. -/
def HoldsOnly (snapshot : Snapshot) (m : ManagerState) : Prop :=
  (∀ held, m.snapshot = some held → held = snapshot) ∧ ∀ value, m.lkg = .stored value → value = snapshot.toJson

variable {failMode : FailMode} {node nodeVersion python pythonVersion : String}
  {verify : Value → Except IntegrityError Snapshot} {verifyHeld : Snapshot → Except IntegrityError Unit}
  {stored : Snapshot → Value}

theorem clients_readAlike (hverified : verifyRuntimeSnapshot digest isHttpUrl snapshot.toJson = .ok snapshot)
    (hwhole : snapshot.expiresAt.microseconds = 0) (hpython : PythonReads verify verifyHeld stored snapshot)
    {w w' : Refreshing} (hreply : SameReply snapshot w w') {m : ManagerState} (hholds : HoldsOnly snapshot m) :
    ReadAlike (nodeRefresh digest isHttpUrl failMode node nodeVersion)
      (pythonRefresh verify verifyHeld stored python pythonVersion) m w w' where
  reply := hreply.reply
  write := hreply.write
  verify value hbody := by
    rw [hreply.body value hbody]
    show (verifyRuntimeSnapshot digest isHttpUrl snapshot.toJson).toOption = (verify snapshot.toJson).toOption
    rw [hverified, hpython.body]
  named value hbody := by
    rw [hreply.body value hbody]
    exact congrArg Option.isSome (references_alike hverified)
  candidate value candidate hbody hcandidate := by
    have hsnapshot : candidate = snapshot := by
      rw [hreply.body value hbody] at hcandidate
      exact (Except.ok.inj (hverified.symm.trans hcandidate)).symm
    rw [hsnapshot]
    refine ⟨hreply.time.trans (expired_alike hwhole _), congrArg Option.isSome (references_alike hverified), ?_⟩
    show (verifyRuntimeSnapshot digest isHttpUrl snapshot.toJson).toOption = (verify (stored snapshot)).toOption
    rw [hverified, hpython.written]
  held held hheld := by
    rw [hholds.1 held hheld]
    refine ⟨?_, hreply.time.trans (expired_alike hwhole _)⟩
    show ((verifyRuntimeSnapshot digest isHttpUrl snapshot.toJson).map fun _ => ()).toOption = (verifyHeld snapshot).toOption
    rw [hverified, hpython.held]
    rfl
  message := hreply.message
  message' := hreply.message'

theorem refresh_holdsOnly {σ : Type} {post : σ → RuntimeAcknowledgement → Bool × σ} {s : σ} {w : Refreshing}
    (hverified : verifyRuntimeSnapshot digest isHttpUrl snapshot.toJson = .ok snapshot)
    (hbody : ∀ value, w.reply = .body value → value = snapshot.toJson) {m : ManagerState} (hholds : HoldsOnly snapshot m) :
    HoldsOnly snapshot (refresh (nodeRefresh digest isHttpUrl failMode node nodeVersion) post w m s).2.1 := by
  have hsafe := @refresh_cases σ (nodeRefresh digest isHttpUrl failMode node nodeVersion) post w m _ s _ _ rfl
  have hcandidate : ∀ candidate, Candidate (nodeRefresh digest isHttpUrl failMode node nodeVersion) w m candidate →
      candidate = snapshot := by
    intro candidate hcandidate
    obtain ⟨value, hreply, hverify⟩ := hcandidate.body
    rw [hbody value hreply] at hverify
    exact (Except.ok.inj (hverified.symm.trans hverify)).symm
  have hfile : ∀ value, (refresh (nodeRefresh digest isHttpUrl failMode node nodeVersion) post w m s).2.1.lkg =
      .stored value → value = snapshot.toJson := by
    intro value hvalue
    rcases hsafe.lkg with hsame | ⟨candidate, hvalid, hwritten⟩
    · exact hholds.2 value (hsame.symm.trans hvalue)
    · rw [← hcandidate candidate hvalid]
      exact (LkgFile.stored.inj (hwritten.symm.trans hvalue)).symm
  refine ⟨fun held hheld => ?_, hfile⟩
  rcases hsafe.memory with hsame | ⟨candidate, hadopted⟩ | hreloaded
  · exact hholds.1 held (hsame.symm.trans hheld)
  · rw [← hcandidate candidate hadopted.valid]
    exact Option.some.inj (hheld.symm.trans hadopted.memory)
  · obtain ⟨value, loaded, hvalue, hverify, hmemory⟩ := hreloaded.file
    rw [hfile value hvalue] at hverify
    rw [Option.some.inj (hheld.symm.trans hmemory)]
    exact (Except.ok.inj (hverified.symm.trans hverify)).symm

/-- Where the service returns one snapshot, both clients read every refresh of every run alike. -/
theorem clients_runsAlike (hverified : verifyRuntimeSnapshot digest isHttpUrl snapshot.toJson = .ok snapshot)
    (hwhole : snapshot.expiresAt.microseconds = 0) (hpython : PythonReads verify verifyHeld stored snapshot)
    {steps : List (Refreshing × Refreshing)} (hsteps : ∀ pair ∈ steps, SameReply snapshot pair.1 pair.2)
    {s t : ManagerState × List Bool} (hholds : HoldsOnly snapshot s.1) :
    RunsAlike (nodeRefresh digest isHttpUrl failMode node nodeVersion)
      (pythonRefresh verify verifyHeld stored python pythonVersion) s t steps := by
  induction steps generalizing s t with
  | nil => trivial
  | cons pair rest ih =>
    have hpair := hsteps pair List.mem_cons_self
    refine ⟨clients_readAlike hverified hwhole hpython hpair hholds, ih (fun next hnext => ?_) ?_⟩
    · exact hsteps next (List.mem_cons_of_mem _ hnext)
    · rw [refresh_step]
      exact refresh_holdsOnly hverified hpair.body hholds

end Clients

/-! ## Refreshes on a fixed snapshot -/

/-- A refresh that reaches nobody. -/
def unreached (now : Int) : Refreshing :=
  { reply := .networkFailure, write := .written, verifiedAt := now, receivedAt := now, closedAt := now, resultAt := now
    receivedId := "01J00000000000000000000001", closedId := "01J00000000000000000000002", message := fun _ => "failed" }

/-- A refresh that gets the snapshot. -/
def returning (snapshot : Snapshot) : Refreshing := { unreached 0 with reply := .body snapshot.toJson }

def assistantNode (failMode : FailMode) : RefreshSdk := nodeRefresh assistantDigest gatewayUrl failMode "node-sdk" "0.2.0"

/-- On the published snapshot, which has every field, pydantic reads and writes what zod does. -/
def assistantPython : RefreshSdk :=
  pythonRefresh (verifyRuntimeSnapshot assistantDigest gatewayUrl)
    (fun snapshot => (verifyRuntimeSnapshot assistantDigest gatewayUrl snapshot.toJson).map fun _ => ()) Snapshot.toJson
    "python-sdk" "0.2.0"

/-- The snapshot expires ten years after it is published. -/
theorem assistant_expires {snapshot : Snapshot} {now : Int}
    (h : buildRuntimePublication assistantDigest gatewayUrl assistantInput = .ok snapshot) :
    Node.expired snapshot now = decide (10 * 365 * 86400000 ≤ now) := by
  obtain ⟨routing, -, rfl⟩ := published_stamped h
  rfl

/-- A new client whose acknowledgements are taken adopts what it verifies. -/
theorem taken_adopted {sdk : RefreshSdk} {file : LkgFile} {w : Refreshing} {value : Value} {candidate : Snapshot}
    (hreply : w.reply = .body value) (hverify : sdk.verify value = .ok candidate)
    (hunexpired : sdk.expired candidate w.verifiedAt = false) (hwrite : w.write = .written) :
    ((refreshes sdk scripted).run (newManager file, [true, true]) [w]).1.snapshot = some candidate := by
  have hvalid : validateCandidate sdk (newManager file) value w.verifiedAt = .ok candidate :=
    validateCandidate_ok.mpr ⟨hverify, hunexpired, nofun⟩
  have hattempt : ∃ m s, attemptRefresh sdk scripted w (newManager file) [true, true] = (.ok .updated, m, s) ∧
      m.snapshot = some candidate := by
    unfold attemptRefresh
    simp only [newManager, flush, hreply] at hvalid ⊢
    rw [hvalid]
    dsimp only
    unfold adopt
    cases hreference : sdk.configurationReference candidate.toJson <;>
      simp [runtimeAcknowledgements, hreference, flush, scripted, writeLkg, hwrite, queueAndFlush]
  obtain ⟨m, s, hattempt, hsnapshot⟩ := hattempt
  obtain ⟨source, hafter⟩ := refresh_after hattempt hsnapshot
  rw [Machine.run_cons, refresh_step, hafter]
  exact hsnapshot

/-- A refresh that reaches nobody keeps the snapshot that is held. -/
theorem RefreshSafe.unreached_kept {sdk : RefreshSdk} {w : Refreshing} {m m' : ManagerState}
    {result : Except RefreshFailure RefreshResult} {snapshot : Snapshot} (h : RefreshSafe sdk w m result m')
    (hreply : w.reply = .networkFailure) (hsnapshot : m.snapshot = some snapshot) : m'.snapshot = some snapshot := by
  rcases h.memory with hsame | ⟨candidate, hadopted⟩ | hreloaded
  · exact hsame.trans hsnapshot
  · obtain ⟨value, hbody, -⟩ := hadopted.valid.body
    rw [hreply] at hbody
    cases hbody
  · rw [hreloaded.empty] at hsnapshot
    cases hsnapshot

/-- A client that holds a snapshot falls back on it when it reaches nobody. -/
theorem unreached_falls_back {σ : Type} {sdk : RefreshSdk} {post : σ → RuntimeAcknowledgement → Bool × σ} {s : σ}
    {w : Refreshing} {m : ManagerState} {snapshot : Snapshot} (hreply : w.reply = .networkFailure)
    (hsnapshot : m.snapshot = some snapshot) (husable : sdk.usable snapshot w.resultAt = true) :
    (refresh sdk post w m s).1 = .ok ⟨.lkg, snapshot.version, snapshot.etag, sdk.expired snapshot w.resultAt⟩ := by
  have hattempt : ∃ e m₁ s₁, attemptRefresh sdk post w m s = (.error e, m₁, s₁) ∧ m₁.snapshot = some snapshot := by
    unfold attemptRefresh
    cases hflush : flush post s m m.pending with
    | mk sent rest =>
      have hkept := (flush_kept hflush).1.snapshot.trans hsnapshot
      cases sent with
      | false => exact ⟨_, _, _, rfl, hkept⟩
      | true =>
        dsimp only
        rw [hreply]
        exact ⟨_, _, _, rfl, hkept⟩
  obtain ⟨e, m₁, s₁, hattempt, hkept⟩ := hattempt
  simp [refresh, hattempt, fallBack, hkept, refreshResult, husable]

/-- A refresh that brings the snapshot, and one that reaches nobody, as the Node client and the
    Python client meet them. -/
def returningThenUnreached (snapshot : Snapshot) : List (Refreshing × Refreshing) :=
  [(returning snapshot, { returning snapshot with verifiedAt := 2 }), (unreached 1, unreached 3)]

theorem assistant_sameReply {snapshot : Snapshot}
    (h : buildRuntimePublication assistantDigest gatewayUrl assistantInput = .ok snapshot) :
    ∀ pair ∈ returningThenUnreached snapshot, SameReply snapshot pair.1 pair.2 := by
  have hunexpired : ∀ now < 1000, Node.expired snapshot now = false := by
    intro now hnow
    rw [assistant_expires h]
    exact decide_eq_false (by omega)
  have hcut : (Node.cut "failed").any (bounded 1 500) = true ∧ (Python.cut "failed").any (bounded 1 500) = true := by
    constructor <;> decide +kernel
  intro pair hpair
  simp only [returningThenUnreached, List.mem_cons, List.not_mem_nil, or_false] at hpair
  rcases hpair with rfl | rfl
  · refine ⟨rfl, ?_, rfl, ?_, fun _ => hcut.1, fun _ => hcut.2⟩
    · rintro value ⟨⟩
      rfl
    · exact (hunexpired 0 (by decide)).trans (hunexpired 2 (by decide)).symm
  · refine ⟨rfl, ?_, rfl, ?_, fun _ => hcut.1, fun _ => hcut.2⟩
    · rintro value ⟨⟩
    · exact (hunexpired 1 (by decide)).trans (hunexpired 3 (by decide)).symm

/-- The Node client adopts the snapshot, falls back on it when it reaches nobody, and the Python
    client holds it too. -/
theorem assistant_protocol : ∃ snapshot,
    let adopted := (refreshes (assistantNode .failOpen) scripted).run (newManager .missing, [true, true]) [returning snapshot]
    let failed := refresh (assistantNode .failOpen) scripted (unreached 1) adopted.1 adopted.2
    adopted.1.snapshot = some snapshot ∧ failed.1 = .ok ⟨.lkg, snapshot.version, snapshot.etag, false⟩ ∧
      failed.2.1.snapshot = some snapshot ∧
      ((refreshes assistantPython scripted).run (newManager .missing, [true, true])
        ((returningThenUnreached snapshot).map Prod.snd)).1.snapshot = some snapshot := by
  obtain ⟨-, snapshot, hpublished, hreverified⟩ := assistant_identified
  have hverified : verifyRuntimeSnapshot assistantDigest gatewayUrl snapshot.toJson = .ok snapshot := hreverified _ rfl
  have hunexpired : ∀ now : Int, now < 1000 → Node.expired snapshot now = false := by
    intro now hnow
    rw [assistant_expires hpublished]
    exact decide_eq_false (by omega)
  have hmemory : ((refreshes (assistantNode .failOpen) scripted).run (newManager .missing, [true, true])
      [returning snapshot]).1.snapshot = some snapshot :=
    taken_adopted rfl hverified (hunexpired 0 (by decide)) rfl
  have halike : RunsAlike (assistantNode .failOpen) assistantPython (newManager .missing, [true, true])
      (newManager .missing, [true, true]) (returningThenUnreached snapshot) := by
    have hwhole : snapshot.expiresAt.microseconds = 0 := by
      obtain ⟨routing, -, rfl⟩ := published_stamped hpublished
      rfl
    refine clients_runsAlike hverified hwhole ⟨hverified, ?_, hverified⟩ (assistant_sameReply hpublished) ⟨nofun, nofun⟩
    rw [hverified]
    rfl
  have hboth := refresh_protocol.2 (assistantNode .failOpen) assistantPython .missing .missing [true, true]
    (returningThenUnreached snapshot) .missing halike
  have hsafe := (refresh_protocol.1 (List Bool) (assistantNode .failOpen) scripted .missing [true, true]
    [returning snapshot] (unreached 1)).1
  have hrun : ∀ adopted, (refreshes (assistantNode .failOpen) scripted).run (newManager .missing, [true, true])
      [returning snapshot] = adopted →
      (refreshes (assistantNode .failOpen) scripted).run (newManager .missing, [true, true])
        ((returningThenUnreached snapshot).map Prod.fst) =
      (refresh (assistantNode .failOpen) scripted (unreached 1) adopted.1 adopted.2).2 := by
    rintro _ rfl
    exact Machine.run_append (refreshes (assistantNode .failOpen) scripted) _ [returning snapshot] [unreached 1]
  rw [hrun _ rfl] at hboth
  clear hrun halike
  refine ⟨snapshot, ?_⟩
  dsimp only
  generalize (refreshes (assistantNode .failOpen) scripted).run (newManager .missing, [true, true]) [returning snapshot] =
    adopted at hmemory hboth hsafe ⊢
  have hkept := hsafe.unreached_kept rfl hmemory
  refine ⟨hmemory, ?_, hkept, hboth.symm.trans hkept⟩
  rw [unreached_falls_back rfl hmemory (by simp [assistantNode, nodeRefresh])]
  show (Except.ok (RefreshResult.mk .lkg snapshot.version snapshot.etag (Node.expired snapshot 1)) : Except RefreshFailure RefreshResult) = _
  rw [hunexpired 1 (by decide)]

/-- What a fallback of an empty memory does, where the snapshot of the file may be used. -/
theorem fallBack_loads {sdk : RefreshSdk} {failure : RefreshFailure} {w : Refreshing} {value : Value} {snapshot : Snapshot}
    (hverify : sdk.verify value = .ok snapshot) (husable : sdk.usable snapshot w.resultAt = true) :
    fallBack sdk failure w (newManager (.stored value)) =
      (.ok ⟨.lkg, snapshot.version, snapshot.etag, sdk.expired snapshot w.resultAt⟩,
        { newManager (.stored value) with snapshot := some snapshot, source := .lkg }) := by
  simp [fallBack, loadLkg, newManager, hverify, refreshResult, husable]

/-- A failed refresh of a new client changes its memory, to the expired snapshot of the file. -/
theorem failed_refresh_loads : ∃ snapshot file,
    let failed := attemptRefresh (assistantNode .failOpen) scripted (unreached (2 ^ 45)) (newManager file) []
    let refreshed := refresh (assistantNode .failOpen) scripted (unreached (2 ^ 45)) (newManager file) []
    failed.1 = .error .fetchFailed ∧ refreshed.1 = .ok ⟨.lkg, snapshot.version, snapshot.etag, true⟩ ∧
      (newManager file).snapshot = none ∧ refreshed.2.1.snapshot = some snapshot ∧
      (assistantNode .failOpen).expired snapshot (2 ^ 45) = true := by
  obtain ⟨-, snapshot, hpublished, hverified⟩ := assistant_identified
  have hexpired : Node.expired snapshot (2 ^ 45) = true := by
    rw [assistant_expires hpublished]
    decide
  have hverify : (assistantNode .failOpen).verify snapshot.toJson = .ok snapshot := hverified _ rfl
  have husable : (assistantNode .failOpen).usable snapshot (2 ^ 45) = true := by simp [assistantNode, nodeRefresh]
  have hloads := @fallBack_loads _ .fetchFailed (unreached (2 ^ 45)) _ _ hverify husable
  refine ⟨snapshot, .stored snapshot.toJson, rfl, ?_, rfl, ?_, hexpired⟩
  · rw [← show (assistantNode .failOpen).expired snapshot (2 ^ 45) = true from hexpired]
    exact congrArg Prod.fst hloads
  · exact congrArg (fun out => out.2.snapshot) hloads

end TokenPilot.Runtime
