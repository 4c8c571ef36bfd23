/-
  TokenPilot.Pipeline.LeaseSafety — what holds of the inbox however the workers interleave.

  `Tracks`: the tokens of two sessions differ, and a running session whose token is
  still stored in its row knows the stage of the row. Every call keeps it
  (`tracks_step`), so that `process` takes its decisions on the stage that is stored.
  Then a stage decreases by an administrative reset only (`stage_mono`), and a row
  gets to `completed` only after its official commit (`completed_was_committed`).
-/

import Mathlib.Data.List.Induction
import TokenPilot.Pipeline.Completion
import TokenPilot.Pipeline.Workers

namespace TokenPilot.Pipeline

open TokenPilot.Library TokenPilot.Quota

/-- The row and the token of a session. -/
def Session.key (σ : Session) : Uuid × String := (σ.lease.id, σ.lease.leaseOwner)

structure Tracks (s : Cluster) : Prop where
  drawn : ∀ σ ∈ s.sessions, ∃ token ∈ s.tokens, σ.lease.leaseOwner = leaseOwnerOf token σ.lease.id
  distinct : (s.sessions.map Session.key).Nodup
  stage : ∀ σ ∈ s.sessions, σ.phase = .running → ∀ row ∈ s.db.inbox.rows, row.id = σ.lease.id →
    row.leaseOwner = some σ.lease.leaseOwner → row.stage = σ.lease.stage
  active : ∀ σ ∈ s.sessions, σ.phase = .running → stageRank σ.lease.stage ≤ stageRank .outboxCreated

theorem leaseOwnerOf_inj {token token' : String} {id : Uuid} (h : leaseOwnerOf token id = leaseOwnerOf token' id) :
    token = token' :=
  String.append_left_inj _ |>.mp h

/-! ## One call of a session -/

section Session

variable {settings : ProcessorSettings} {s : Cluster} {σ σ' τ : Session} {call : Call} {db' : Database}

theorem answered_key {lost : Option Failure} {lease' : InboxLease} (hid : lease'.id = σ.lease.id)
    (howner : lease'.leaseOwner = σ.lease.leaseOwner) : (σ.answered lost (.ok (lease', db'))).key = σ.key := by
  cases lost with
  | none => simp [Session.answered, Session.key, hid, howner]
  | some e => rfl

/-- A session stays on its row, under its token. -/
theorem Outcome.key (h : Outcome settings s σ call σ' db') : σ'.key = σ.key := by
  cases h with
  | advanced _ _ _ hadvance =>
    obtain ⟨hid, howner, -⟩ := advance_lease hadvance
    exact answered_key hid howner
  | committed _ _ _ _ hcommit =>
    obtain ⟨-, hid, howner, -⟩ := commitOfficial_rewrites hcommit
    exact answered_key hid howner
  | unchanged | completed | retried | deadLettered => rfl

/-- A session that is still running after a call got its lease from it. -/
theorem Outcome.running (h : Outcome settings s σ call σ' db') (hrun : σ'.phase = .running) :
    ∃ f, Rewrites σ.lease s.clock f s.db db' ∧ (∀ row, (f row).stage = σ'.lease.stage) ∧
      stageRank σ'.lease.stage ≤ stageRank .outboxCreated := by
  cases h with
  | unchanged hphase => exact absurd hrun hphase
  | @advanced i stage lost lease' db' _ _ hrank hadvance =>
    cases lost with
    | some e => cases hrun
    | none =>
      obtain ⟨-, -, hstage⟩ := advance_lease hadvance
      refine ⟨_, advance_rewrites hadvance, fun _ => hstage.symm, ?_⟩
      show stageRank lease'.stage ≤ stageRank .outboxCreated
      rw [hstage]
      exact le_trans hrank (by decide)
  | @committed i values lost context lease' metrics db' elapsed elapsed' _ _ _ _ hcommit =>
    cases lost with
    | some e => cases hrun
    | none =>
      obtain ⟨⟨f, hf, hfstage⟩, -, -, hstage⟩ := commitOfficial_rewrites hcommit
      refine ⟨f, hf, fun row => (hfstage row).1.trans hstage.symm, ?_⟩
      show stageRank lease'.stage ≤ stageRank .outboxCreated
      rw [hstage]
  | completed _ _ _ hphase => exact absurd hrun hphase
  | retried => cases hrun
  | deadLettered => cases hrun

/-- The row of a session that still has its token, after a call that rewrote it. -/
theorem Rewrites.row {f : IngestionInbox → IngestionInbox} (h : Rewrites σ.lease s.clock f s.db db')
    {row : IngestionInbox} (hrow : row ∈ db'.inbox.rows) (hid : row.id = σ.lease.id) :
    ∃ row₀ ∈ s.db.inbox.rows, σ.lease.owns s.clock row₀ = true ∧ row = f row₀ := by
  obtain ⟨row₀, hrow₀, hown⟩ := h.owned
  rw [h.rows] at hrow
  obtain ⟨x, hx, rfl⟩ := List.mem_map.mp hrow
  rw [rewrite_id h.keeps] at hid
  have hx₀ : x = row₀ := row_eq_of_id hx hrow₀ (hid.trans (owns_iff.mp hown).1.symm)
  subst hx₀
  exact ⟨x, hx, hown, if_pos hown⟩

/-- The calls of one session leave the rows of another token alone. -/
theorem Outcome.frame (h : Outcome settings s σ call σ' db') (hkey : τ.key ≠ σ.key) {row : IngestionInbox}
    (hrow : row ∈ db'.inbox.rows) (hid : row.id = τ.lease.id) (howner : row.leaseOwner = some τ.lease.leaseOwner) :
    row ∈ s.db.inbox.rows := by
  rcases h.rewrites with rfl | ⟨f, hf⟩
  · exact hrow
  rw [hf.rows] at hrow
  obtain ⟨x, hx, rfl⟩ := List.mem_map.mp hrow
  by_cases hown : σ.lease.owns s.clock x = true
  · rw [Table.rewrite, if_pos hown] at hid howner
    rw [hf.keeps.id] at hid
    rw [hf.keeps.leaseOwner] at howner
    obtain ⟨hid', -, howner', -⟩ := owns_iff.mp hown
    refine absurd ?_ hkey
    unfold Session.key
    rw [← hid, hid', ← Option.some.inj (howner.symm.trans howner')]
  · rw [Table.rewrite, if_neg hown]
    exact hx

end Session

/-! ## The sessions keep track -/

section Tracks

variable {settings : ProcessorSettings} {s s' : Cluster}

theorem mem_set {α : Type} {l : List α} {i : Nat} {a x : α} (h : x ∈ l.set i a) :
    x = a ∨ ∃ j, j ≠ i ∧ l[j]? = some x := by
  obtain ⟨j, hj⟩ := List.mem_iff_getElem?.mp h
  rw [List.getElem?_set] at hj
  split at hj
  · split at hj
    · cases hj; exact Or.inl rfl
    · cases hj
  · rename_i hne
    exact Or.inr ⟨j, fun heq => hne heq.symm, hj⟩

theorem Tracks.key_ne (h : Tracks s) {i j : Nat} {σ τ : Session} (hσ : s.sessions[i]? = some σ)
    (hτ : s.sessions[j]? = some τ) (hne : j ≠ i) : τ.key ≠ σ.key := by
  intro hkey
  have hi : (s.sessions.map Session.key)[i]? = some σ.key := by rw [List.getElem?_map, hσ]; rfl
  have hj : (s.sessions.map Session.key)[j]? = some σ.key := by rw [List.getElem?_map, hτ, ← hkey]; rfl
  exact hne ((List.getElem?_inj (List.getElem?_eq_some_iff.mp hj).1 h.distinct).mp (hj.trans hi.symm))

theorem tracks_session (h : Tracks s) {call : Call} {i : Nat} {σ σ' : Session} (hσ : s.sessions[i]? = some σ)
    (hout : Outcome settings s σ call σ' s'.db) (htokens : s'.tokens = s.tokens)
    (hsessions : s'.sessions = s.sessions.set i σ') : Tracks s' := by
  have hmem : σ ∈ s.sessions := List.mem_of_getElem? hσ
  have hkey := hout.key
  have hlease : σ'.lease.id = σ.lease.id ∧ σ'.lease.leaseOwner = σ.lease.leaseOwner := Prod.mk.inj hkey
  have hold : ∀ τ ∈ s'.sessions, τ = σ' ∨ (τ ∈ s.sessions ∧ τ.key ≠ σ.key) := by
    intro τ hτ
    rw [hsessions] at hτ
    rcases mem_set hτ with rfl | ⟨j, hne, hj⟩
    · exact Or.inl rfl
    · exact Or.inr ⟨List.mem_of_getElem? hj, h.key_ne hσ hj hne⟩
  refine ⟨?_, ?_, ?_, ?_⟩
  · intro τ hτ
    rw [htokens]
    rcases hold τ hτ with rfl | ⟨hτ, -⟩
    · rw [hlease.1, hlease.2]
      exact h.drawn σ hmem
    · exact h.drawn τ hτ
  · have hkeys : s'.sessions.map Session.key = s.sessions.map Session.key := by
      rw [hsessions, List.map_set, hkey]
      refine List.ext_getElem? fun j => ?_
      rw [List.getElem?_set]
      split
      · rename_i hij
        subst hij
        rw [List.getElem?_map, hσ, if_pos]
        · rfl
        · rw [List.length_map]
          exact (List.getElem?_eq_some_iff.mp hσ).1
      · rfl
    rw [hkeys]
    exact h.distinct
  · intro τ hτ hrun row hrow hid howner
    rcases hold τ hτ with rfl | ⟨hτ, hne⟩
    · obtain ⟨f, hf, hstage, -⟩ := hout.running hrun
      obtain ⟨row₀, -, -, rfl⟩ := hf.row hrow (hid.trans hlease.1)
      exact hstage row₀
    · exact h.stage τ hτ hrun row (hout.frame hne hrow hid howner) hid howner
  · intro τ hτ hrun
    rcases hold τ hτ with rfl | ⟨hτ, -⟩
    · obtain ⟨f, -, -, hrank⟩ := hout.running hrun
      exact hrank
    · exact h.active τ hτ hrun

theorem leasable_rank {row : IngestionInbox} {now : Int} (h : row.leasable now = true) :
    stageRank row.stage ≤ stageRank .outboxCreated := by
  unfold IngestionInbox.leasable at h
  simp only [Bool.and_eq_true, bne_iff_ne] at h
  cases hstage : row.stage with
  | completed => exact absurd hstage h.1.2
  | deadLetter => exact absurd hstage h.2
  | _ => decide

theorem tracks_leaseInbox (h : Tracks s) {token : String} {limit : Nat} {locked : List Uuid}
    {leases : List InboxLease} (hfresh : token ∉ s.tokens)
    (hleases : leases = [] ∨
      (leaseInbox s.db token limit locked s.clock settings.leaseDuration).1 = .ok leases) :
    Tracks { s with
      db := (leaseInbox s.db token limit locked s.clock settings.leaseDuration).2
      tokens := token :: s.tokens
      sessions := s.sessions ++ leases.map (⟨·, .running⟩) } := by
  obtain ⟨selects, inbox, hdb, hrows, hleasable, hreturned⟩ :=
    leaseInbox_cases s.db token limit locked s.clock settings.leaseDuration
  rw [hdb]
  -- every new lease is that of a row the statement leased
  have hnew : (leases.map (·.id)).Nodup ∧ ∀ lease ∈ leases, ∃ row ∈ s.db.inbox.rows, selects row = true ∧
      lease.id = row.id ∧ lease.stage = row.stage ∧ lease.leaseOwner = leaseOwnerOf token row.id := by
    rcases hleases with rfl | hleases
    · simp
    · obtain ⟨hnodup, hall⟩ := hreturned leases hleases
      refine ⟨hnodup, fun lease hlease => ?_⟩
      obtain ⟨row, hrow, hsel, hmap⟩ := hall lease hlease
      obtain ⟨hid, hstage, howner, -⟩ := mapLease_fields hmap
      exact ⟨row, hrow, hsel, hid, hstage, howner⟩
  have hcases : ∀ σ ∈ s.sessions ++ leases.map (fun lease => (⟨lease, .running⟩ : Session)),
      σ ∈ s.sessions ∨ σ.lease ∈ leases := by
    intro σ hσ
    rcases List.mem_append.mp hσ with hσ | hσ
    · exact Or.inl hσ
    · obtain ⟨lease, hlease, rfl⟩ := List.mem_map.mp hσ
      exact Or.inr hlease
  -- the token of an earlier session is not the one drawn now
  have hold : ∀ σ ∈ s.sessions, σ.lease.leaseOwner ≠ leaseOwnerOf token σ.lease.id := by
    intro σ hσ howner
    obtain ⟨token', htoken', howner'⟩ := h.drawn σ hσ
    rw [howner'] at howner
    rw [leaseOwnerOf_inj howner] at htoken'
    exact hfresh htoken'
  refine ⟨?_, ?_, ?_, ?_⟩
  · intro σ hσ
    rcases hcases σ hσ with hσ | hlease
    · obtain ⟨token', htoken', howner⟩ := h.drawn σ hσ
      exact ⟨token', List.mem_cons_of_mem _ htoken', howner⟩
    · obtain ⟨row, -, -, hid, -, howner⟩ := hnew.2 _ hlease
      exact ⟨token, List.mem_cons_self, by rw [howner, hid]⟩
  · rw [List.map_append, List.map_map, List.nodup_append]
    refine ⟨h.distinct, ?_, ?_⟩
    · refine List.Nodup.of_map Prod.fst ?_
      rw [List.map_map]
      exact hnew.1
    · rintro key hkey key' hkey' rfl
      obtain ⟨σ, hσ, rfl⟩ := List.mem_map.mp hkey
      obtain ⟨lease, hlease, hkey'⟩ := List.mem_map.mp hkey'
      obtain ⟨row, -, -, hid, -, howner⟩ := hnew.2 _ hlease
      obtain ⟨hid', howner'⟩ : lease.id = σ.lease.id ∧ lease.leaseOwner = σ.lease.leaseOwner := Prod.mk.inj hkey'
      exact hold σ hσ (by rw [← howner', howner, ← hid, hid'])
  · intro σ hσ hrun row hrow hid howner
    rw [hrows] at hrow
    obtain ⟨x, hx, rfl⟩ := List.mem_map.mp hrow
    rcases hcases σ hσ with hσ | hlease
    · by_cases hsel : selects x = true
      · rw [Table.rewrite, if_pos hsel] at hid howner
        have hid : x.id = σ.lease.id := hid
        have howner : some (leaseOwnerOf token x.id) = some σ.lease.leaseOwner := howner
        exact absurd (by rw [← Option.some.inj howner, hid]) (hold σ hσ)
      · rw [Table.rewrite, if_neg hsel] at hid howner ⊢
        exact h.stage σ hσ hrun x hx hid howner
    · obtain ⟨row₀, hrow₀, hsel, hid₀, hstage, -⟩ := hnew.2 _ hlease
      have hxid : x.id = σ.lease.id := by
        unfold Table.rewrite at hid
        split at hid <;> exact hid
      have heq : x = row₀ := row_eq_of_id hx hrow₀ (hxid.trans hid₀)
      subst heq
      rw [Table.rewrite, if_pos hsel]
      exact hstage.symm
  · intro σ hσ hrun
    rcases hcases σ hσ with hσ | hlease
    · exact h.active σ hσ hrun
    · obtain ⟨row₀, hrow₀, hsel, -, hstage, -⟩ := hnew.2 _ hlease
      rw [hstage]
      exact leasable_rank (hleasable row₀ hrow₀ hsel).1

theorem tracks_resets (h : Tracks s) {db' : Database} (hdb : Resets s.db db') : Tracks { s with db := db' } := by
  refine ⟨h.drawn, h.distinct, ?_, h.active⟩
  intro σ hσ hrun row hrow hid howner
  obtain ⟨selects, now, intent, hrows⟩ := hdb
  rw [hrows] at hrow
  obtain ⟨x, hx, rfl⟩ := List.mem_map.mp hrow
  by_cases hsel : selects x = true
  · rw [Table.rewrite, if_pos hsel] at howner
    cases howner
  · rw [Table.rewrite, if_neg hsel] at hid howner ⊢
    exact h.stage σ hσ hrun x hx hid howner

/-- Every call keeps the sessions on track. -/
theorem tracks_step {call : Call} {u : Unit} (h : Tracks s) (hcall : execCall settings s call = .ok (u, s')) :
    Tracks s' := by
  cases hi : call.session with
  | some i =>
    obtain ⟨σ, σ', hσ, hout, htokens, hsessions⟩ := execCall_session hi hcall
    exact tracks_session h hσ hout htokens hsessions
  | none =>
    rcases execCall_other hi hcall with ⟨clock, rfl⟩ | ⟨token, limit, locked, leases, -, hfresh, rfl, hleases⟩ |
      ⟨-, db', rfl, hresets, -⟩
    · exact ⟨h.drawn, h.distinct, h.stage, h.active⟩
    · exact tracks_leaseInbox h hfresh hleases
    · exact tracks_resets h hresets

theorem tracks_run (h : Tracks s) (calls : List Call) : Tracks ((workers settings).run s calls) :=
  Machine.run_invariant (m := workers settings) (fun _ _ _ _ hs hcall => tracks_step hs hcall) calls s h

end Tracks

/-! ## The stage of a row -/

/-- The call is the official commit of the row, and it goes through. -/
def CommitsRow (settings : ProcessorSettings) (s : Cluster) (call : Call) (id : Uuid) : Prop :=
  ∃ i values elapsed elapsed' lost σ r, call = .commitOfficial i values elapsed elapsed' lost ∧
    s.sessions[i]? = some σ ∧ σ.lease.id = id ∧ commitResults settings s σ.lease values elapsed elapsed' = .ok r ∧
    ((workers settings).step s call).db = r.2

section Stage

variable {settings : ProcessorSettings} {s s' : Cluster} {call : Call}

/-- What a call can make of a row's stage. -/
inductive StageStep (settings : ProcessorSettings) (s : Cluster) (call : Call) (id : Uuid) :
    PipelineStageName → PipelineStageName → Prop
  | same {stage} : StageStep settings s call id stage stage
  | reset {stage} : call.isReset = true → StageStep settings s call id stage .received
  | checkpoint {stage stage'} : stageRank stage' = stageRank stage + 1 → stageRank stage' ≤ stageRank .quotaSettled →
      StageStep settings s call id stage stage'
  | commit {stage} : stageRank stage < stageRank .outboxCreated → CommitsRow settings s call id →
      StageStep settings s call id stage .outboxCreated
  | complete : StageStep settings s call id .outboxCreated .completed
  | deadLetter {stage} : StageStep settings s call id stage .deadLetter

theorem stage_outboxCreated {stage : PipelineStageName} (h : stageRank .outboxCreated ≤ stageRank stage)
    (h' : stageRank stage ≤ stageRank .outboxCreated) : stage = .outboxCreated := by
  cases stage with
  | outboxCreated => rfl
  | completed | deadLetter => exact absurd h' (by decide)
  | _ => exact absurd h (by decide)

/-- The stage of the row a running session owns is the session's. -/
theorem Tracks.stage_eq (h : Tracks s) {σ : Session} {now : Int} {row : IngestionInbox} (hσ : σ ∈ s.sessions)
    (hrun : σ.phase = .running) (hrow : row ∈ s.db.inbox.rows) (hown : σ.lease.owns now row = true) :
    row.stage = σ.lease.stage := by
  obtain ⟨hid, -, howner, -⟩ := owns_iff.mp hown
  exact h.stage σ hσ hrun row hrow hid howner

theorem rewrites_stage {σ : Session} {db' : Database} {f : IngestionInbox → IngestionInbox} {id : Uuid}
    (hf : Rewrites σ.lease s.clock f s.db db') (hstage : ∀ row ∈ s.db.inbox.rows, σ.lease.owns s.clock row = true →
      row.id = id → StageStep settings s call id row.stage (f row).stage) {row : IngestionInbox}
    (hrow : row ∈ db'.inbox.rows) (hid : row.id = id) :
    ∃ row₀ ∈ s.db.inbox.rows, row₀.id = id ∧ StageStep settings s call id row₀.stage row.stage := by
  rw [hf.rows] at hrow
  obtain ⟨x, hx, rfl⟩ := List.mem_map.mp hrow
  rw [rewrite_id hf.keeps] at hid
  refine ⟨x, hx, hid, ?_⟩
  by_cases hown : σ.lease.owns s.clock x = true
  · rw [Table.rewrite, if_pos hown]
    exact hstage x hx hown hid
  · rw [Table.rewrite, if_neg hown]
    exact .same

theorem stage_step (h : Tracks s) {u : Unit} (hcall : execCall settings s call = .ok (u, s')) {row : IngestionInbox}
    (hrow : row ∈ s'.db.inbox.rows) :
    ∃ row₀ ∈ s.db.inbox.rows, row₀.id = row.id ∧ StageStep settings s call row.id row₀.stage row.stage := by
  cases hi : call.session with
  | some i =>
    obtain ⟨σ, σ', hσ, hout, -, -⟩ := execCall_session hi hcall
    have hmem : σ ∈ s.sessions := List.mem_of_getElem? hσ
    have hstep : (workers settings).step s call = s' := (workers settings).step_of_ok hcall
    obtain ⟨db', hdb⟩ : ∃ db', s'.db = db' := ⟨_, rfl⟩
    rw [hdb] at hout hrow
    cases hout with
    | unchanged => exact ⟨row, hrow, rfl, .same⟩
    | advanced hrun hnext hlast hadvance =>
      refine rewrites_stage (advance_rewrites hadvance) (fun x hx hown hid => ?_) hrow rfl
      rw [h.stage_eq hmem hrun hx hown]
      exact .checkpoint hnext hlast
    | @committed j values lost context lease' metrics _ elapsed elapsed' hrun hfirst hlast hstages hcommit =>
      obtain ⟨⟨f, hf, hfstage⟩, -⟩ := commitOfficial_rewrites hcommit
      refine rewrites_stage hf (fun x hx hown hid => ?_) hrow rfl
      rw [(hfstage x).1]
      refine .commit (by rw [h.stage_eq hmem hrun hx hown]; exact hlast) ?_
      refine ⟨i, values, elapsed, elapsed', lost, σ, (lease', db'), ?_, hσ, ?_, ?_, ?_⟩
      · cases hi; rfl
      · rw [← hid, (owns_iff.mp hown).1]
      · exact bind_of hstages (bind_of hcommit rfl)
      · rw [hstep, hdb]
    | completed hrun hfirst hcomplete =>
      refine rewrites_stage (complete_rewrites hcomplete) (fun x hx hown hid => ?_) hrow rfl
      have hstage := h.stage_eq hmem hrun hx hown
      have hlast := h.active σ hmem hrun
      rw [hstage, stage_outboxCreated hfirst hlast]
      exact .complete
    | retried _ hretry => exact rewrites_stage (retry_rewrites hretry) (fun x _ _ _ => .same) hrow rfl
    | deadLettered _ hdead => exact rewrites_stage (deadLetter_rewrites hdead) (fun x _ _ _ => .deadLetter) hrow rfl
  | none =>
    rcases execCall_other hi hcall with ⟨clock, rfl⟩ | ⟨token, limit, locked, leases, -, -, rfl, -⟩ |
      ⟨hreset, db', rfl, ⟨selects, now, intent, hrows⟩, -⟩
    · exact ⟨row, hrow, rfl, .same⟩
    · obtain ⟨selects, inbox, hdb, hrows, -, -⟩ :=
        leaseInbox_cases s.db token limit locked s.clock settings.leaseDuration
      have hrow : row ∈ (leaseInbox s.db token limit locked s.clock settings.leaseDuration).2.inbox.rows := hrow
      rw [hdb, hrows] at hrow
      obtain ⟨x, hx, rfl⟩ := List.mem_map.mp hrow
      refine ⟨x, hx, ?_, ?_⟩
      · unfold Table.rewrite; split <;> rfl
      · unfold Table.rewrite; split <;> exact .same
    · rw [hrows] at hrow
      obtain ⟨x, hx, rfl⟩ := List.mem_map.mp hrow
      refine ⟨x, hx, ?_, ?_⟩
      · unfold Table.rewrite; split <;> rfl
      · unfold Table.rewrite
        split
        · exact .reset hreset
        · exact .same

theorem StageStep.mono {id : Uuid} {stage stage' : PipelineStageName} (h : StageStep settings s call id stage stage')
    (hreset : call.isReset = false) : stageRank stage ≤ stageRank stage' := by
  cases h with
  | same => exact le_refl _
  | reset h => rw [h] at hreset; cases hreset
  | checkpoint h _ => omega
  | commit h _ => exact le_of_lt h
  | complete => decide
  | deadLetter => cases stage <;> decide

/-- Between administrative resets, the stage of a row never decreases. -/
theorem stage_mono_run {calls : List Call} (h : Tracks s) (hcalls : ∀ call ∈ calls, call.isReset = false)
    {row : IngestionInbox} (hrow : row ∈ ((workers settings).run s calls).db.inbox.rows) :
    ∃ row₀ ∈ s.db.inbox.rows, row₀.id = row.id ∧ stageRank row₀.stage ≤ stageRank row.stage := by
  induction calls generalizing s with
  | nil => exact ⟨row, hrow, rfl, le_refl _⟩
  | cons call calls ih =>
    rcases (workers settings).step_cases s call with ⟨u, hcall⟩ | hstep
    · obtain ⟨row₁, hrow₁, hid₁, hle₁⟩ := ih (tracks_step h hcall) (fun c hc => hcalls c (List.mem_cons_of_mem _ hc)) hrow
      obtain ⟨row₀, hrow₀, hid₀, hstage⟩ := stage_step h hcall hrow₁
      exact ⟨row₀, hrow₀, hid₀.trans hid₁, (hstage.mono (hcalls call List.mem_cons_self)).trans hle₁⟩
    · rw [Machine.run_cons, hstep] at hrow
      exact ih h (fun c hc => hcalls c (List.mem_cons_of_mem _ hc)) hrow

end Stage

/-! ## A completed row was committed -/

/-- The inbox before any worker looked at it: no row is past its settlement. -/
structure Untouched (s : Cluster) : Prop where
  sessions : s.sessions = []
  rows : ∀ row ∈ s.db.inbox.rows, stageRank row.stage ≤ stageRank .quotaSettled

theorem Untouched.tracks {s : Cluster} (h : Untouched s) : Tracks s := by
  constructor <;> simp [h.sessions]

/-- In the run, the row was committed and since then has not been reset. -/
def CommittedIn (settings : ProcessorSettings) (s : Cluster) (calls : List Call) (id : Uuid) : Prop :=
  ∃ before call after, calls = before ++ call :: after ∧
    CommitsRow settings ((workers settings).run s before) call id ∧
    ∀ prior, prior <+: after →
      ∃ row ∈ ((workers settings).run s (before ++ call :: prior)).db.inbox.rows, row.id = id ∧
        stageRank .outboxCreated ≤ stageRank row.stage

theorem CommittedIn.snoc {settings : ProcessorSettings} {s : Cluster} {calls : List Call} {call : Call} {id : Uuid}
    (h : CommittedIn settings s calls id)
    (hnow : ∃ row ∈ ((workers settings).run s (calls ++ [call])).db.inbox.rows, row.id = id ∧
      stageRank .outboxCreated ≤ stageRank row.stage) : CommittedIn settings s (calls ++ [call]) id := by
  obtain ⟨before, commit, after, rfl, hcommit, hsince⟩ := h
  refine ⟨before, commit, after ++ [call], by simp, hcommit, fun prior hprior => ?_⟩
  rcases List.prefix_concat_iff.mp hprior with rfl | hprior
  · simpa using hnow
  · exact hsince prior hprior

theorem run_snoc {settings : ProcessorSettings} (s : Cluster) (calls : List Call) (call : Call) :
    (workers settings).run s (calls ++ [call]) =
      (workers settings).step ((workers settings).run s calls) call := by
  rw [Machine.run_append]
  rfl

/-- A row that is past its commit was committed. By induction on the run, from its end. -/
theorem committed_in_run {settings : ProcessorSettings} {s : Cluster} (h : Untouched s) (calls : List Call) :
    ∀ row ∈ ((workers settings).run s calls).db.inbox.rows, row.stage = .outboxCreated ∨ row.stage = .completed →
      CommittedIn settings s calls row.id := by
  induction calls using List.reverseRecOn with
  | nil =>
    intro row hrow hstage
    have hle := h.rows row hrow
    rcases hstage with hstage | hstage <;> rw [hstage] at hle <;> simp [stageRank] at hle
  | append_singleton calls call ih =>
    intro row hrow hstage
    have hpast : stageRank .outboxCreated ≤ stageRank row.stage := by
      rcases hstage with hstage | hstage <;> rw [hstage] <;> decide
    have hnow : ∃ r ∈ ((workers settings).run s (calls ++ [call])).db.inbox.rows, r.id = row.id ∧
        stageRank .outboxCreated ≤ stageRank r.stage := ⟨row, hrow, rfl, hpast⟩
    have hkeep : ∀ {row₀ : IngestionInbox}, row₀ ∈ ((workers settings).run s calls).db.inbox.rows → row₀.id = row.id →
        row₀.stage = .outboxCreated ∨ row₀.stage = .completed → CommittedIn settings s (calls ++ [call]) row.id := by
      intro row₀ hrow₀ hid hstage₀
      exact (hid ▸ ih row₀ hrow₀ hstage₀).snoc hnow
    rcases (workers settings).step_cases ((workers settings).run s calls) call with ⟨u, hcall⟩ | hstep
    · rw [run_snoc] at hrow
      obtain ⟨row₀, hrow₀, hid, hstep⟩ := stage_step (tracks_run h.tracks calls) hcall hrow
      generalize hst : row.stage = stage at hstep hstage
      generalize hst₀ : row₀.stage = stage₀ at hstep
      cases hstep with
      | same => exact hkeep hrow₀ hid (by rw [hst₀]; exact hstage)
      | reset => simp at hstage
      | checkpoint _ hle =>
        rw [hst] at hpast
        exact absurd (le_trans hpast hle) (by decide)
      | commit _ hcommit =>
        refine ⟨calls, call, [], rfl, hcommit, fun prior hprior => ?_⟩
        rw [List.prefix_nil.mp hprior]
        exact hnow
      | complete => exact hkeep hrow₀ hid (Or.inl hst₀)
      | deadLetter => simp at hstage
    · rw [run_snoc, hstep] at hrow
      exact hkeep hrow rfl hstage

/-- However the workers interleave: a call of a session rewrites at most the row its
    token owns at that time, and does nothing at all without one; each message and each
    rating row appears at most once; and a completed row was committed, and has not been
    reset since. -/
theorem lease_owned_writes (settings : ProcessorSettings) (s : Cluster) (h : Untouched s) (calls : List Call) :
    (∀ call i σ, call.session = some i → ((workers settings).run s calls).sessions[i]? = some σ →
      (∃ f, ((workers settings).step ((workers settings).run s calls) call).db.inbox.rows =
        ((workers settings).run s calls).db.inbox.rows.map
          (Table.rewrite (σ.lease.owns ((workers settings).run s calls).clock) f)) ∧
      ((∀ row ∈ ((workers settings).run s calls).db.inbox.rows,
          σ.lease.owns ((workers settings).run s calls).clock row = false) →
        ((workers settings).step ((workers settings).run s calls) call).db = ((workers settings).run s calls).db)) ∧
    (∀ applicationId key, (workers settings).changes (·.db.outboxOf applicationId key) s calls ≤ 1) ∧
    (∀ applicationId eventId, (workers settings).changes (·.db.ratingOf applicationId eventId) s calls ≤ 1) ∧
    ∀ row ∈ ((workers settings).run s calls).db.inbox.rows, row.stage = .completed →
      CommittedIn settings s calls row.id := by
  refine ⟨fun call i σ hi hσ => session_call hi hσ, fun applicationId key => ?_, fun applicationId eventId => ?_, ?_⟩
  · exact Machine.changes_le_one (fun s call o ho => (step_appends settings s call).outboxOf ho) calls s
  · exact Machine.changes_le_one (fun s call r hr => (step_appends settings s call).ratingOf hr) calls s
  · intro row hrow hstage
    exact committed_in_run h calls row hrow (Or.inr hstage)

namespace Sample

/-- The event without a reservation waits in the inbox. -/
def waiting : Cluster where
  db := { database ((system Quota.Sample.service).run .empty Quota.Sample.opened) with
    inbox := ⟨[⟨90, 0, Quota.Sample.unreservedEvent, some (event Quota.Sample.unreservedEvent none), .pending, .received,
      0, 0, none, none, none, .null⟩], by simp, by simp [Row.refused]⟩ }
  clock := 0
  tokens := []
  sessions := []

/-- A first worker commits and does not hear of it; its retry comes too late, since a
    second one has the row by then. -/
def takenOver : List Call :=
  [.leaseInbox "a:1" 10 [], .checkpoint 0 .normalized none, .checkpoint 0 .modelResolved none,
    .checkpoint 0 .providerCostRated none, .checkpoint 0 .aiuRated none, .checkpoint 0 .quotaSettled none,
    .commitOfficial 0 (values 40 2000) 1 1 (some (.retryable "Connection lost")), .tick 90000000,
    .leaseInbox "b:2" 10 [], .retry 0 5000, .complete 1 none]

end Sample

open Sample in
theorem taken_over_row_was_committed :
    ((workers (processor (pipelineRuntimeFlags everythingOn))).run waiting takenOver).db.inbox.rows.map
        (fun row => (row.id, row.status, row.stage, row.leaseOwner)) =
          [(90, .completed, .completed, some "b:2:90")] ∧
      CommittedIn (processor (pipelineRuntimeFlags everythingOn)) waiting takenOver 90 := by
  have hrows : ((workers (processor (pipelineRuntimeFlags everythingOn))).run waiting takenOver).db.inbox.rows.map
      (fun row => (row.id, row.status, row.stage, row.leaseOwner)) =
        [(90, .completed, .completed, some "b:2:90")] := by
    decide +kernel
  refine ⟨hrows, ?_⟩
  obtain ⟨row, hrow, heq⟩ := List.mem_map.mp (hrows ▸ List.mem_singleton_self _)
  obtain ⟨hid, -, hstage, -⟩ : row.id = 90 ∧ row.status = .completed ∧ row.stage = .completed ∧
      row.leaseOwner = some "b:2:90" := by simpa using heq
  rw [← hid]
  exact (lease_owned_writes _ waiting ⟨rfl, by decide⟩ takenOver).2.2.2 row hrow hstage

end TokenPilot.Pipeline
