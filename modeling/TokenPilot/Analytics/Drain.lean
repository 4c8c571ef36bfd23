/-
  TokenPilot.Analytics.Drain — what runs of the processor settle when the store works.

  A run leases a batch and moves until it has finished; the effort it still needs goes down
  with every move (`moves_remaining`), so it comes to an end. While nothing else happens its
  leases stay live, and a uniform batch is then settled as a whole: sent when it is well
  formed (`Delivering`), dead-lettered when it is malformed (`Burying`). Each run takes a
  record that is due, if there is one, so as many runs as there are due records settle all of
  them (`runs_settle`), and none is touched again.
-/

import TokenPilot.Analytics.Isolation

namespace TokenPilot.Analytics

open Library

/-! ## Effort -/

def tablesEffort (tables : List (SinkTable × List ClickHouseSinkRow)) : Nat :=
  (tables.map fun group => group.2.length + 2).sum

/-- A bound on the moves a worker has still to make. -/
def Phase.remaining : Phase → Nat
  | .querying d tables => tablesEffort tables + 2 * d.leases.length + 3
  | .inserting d _ rows tables => rows.length + 1 + tablesEffort tables + 2 * d.leases.length + 3
  | .acknowledging d => 2 * d.leases.length + 2
  | .handling _ leases => 2 * leases.length + 1
  | .syncing _ _ _ leases => 2 * leases.length + 2
  | .finished => 0

theorem Representatives.length_le {rows distinct : List ClickHouseSinkRow} (h : Representatives rows distinct) :
    distinct.length ≤ rows.length := by
  have hsub : distinct.map (·.sinkDeliveryId) ⊆ rows.map (·.sinkDeliveryId) := by
    intro id hid
    obtain ⟨row, hrow, rfl⟩ := List.mem_map.mp hid
    exact List.mem_map_of_mem (h.mem row hrow)
  have := (List.subperm_of_subset h.nodup hsub).length_le
  simpa using this

theorem moves_remaining {settings : OutboxSettings} {s s' : OutboxState} {phase phase' : Phase}
    (h : Moves settings s phase s' phase') (hphase : phase ≠ .finished) : phase'.remaining < phase.remaining := by
  cases h with
  | watermark _ => simp only [Phase.remaining, tablesEffort]; omega
  | @fail _ d _ _ _ _ delivering =>
    cases phase <;> simp only [Phase.delivery, reduceCtorEq, Option.some.injEq] at delivering <;> subst delivering <;>
      simp only [Phase.remaining] <;> omega
  | conflict _ => simp only [Phase.remaining]; omega
  | present _ _ =>
    simp only [Phase.remaining, tablesEffort, List.map_cons, List.sum_cons]
    omega
  | @absent d table rows distinct tables read =>
    have hmissing : (missing s.clickhouse table distinct).length ≤ distinct.length := List.length_filter_le ..
    have hdistinct := (byDeliveryId_ok read).length_le
    simp only [Phase.remaining, tablesEffort, List.map_cons, List.sum_cons]
    omega
  | insertLast _ => simp only [Phase.remaining]; omega
  | @insertMore d table rows tables more =>
    have hbatch := settings.insertBatchSize_valid
    have hlength : (rows.drop settings.insertBatchSize).length = rows.length - settings.insertBatchSize := List.length_drop
    have hpositive : 0 < (rows.drop settings.insertBatchSize).length := List.length_pos_of_ne_nil more
    simp only [Phase.remaining]
    omega
  | insertUnanswered => simp only [Phase.remaining]; omega
  | acknowledge _ => simp only [Phase.remaining]; omega
  | stop =>
    cases phase with
    | finished => exact absurd rfl hphase
    | _ => simp only [Phase.remaining]; omega
  | retry _ => simp only [Phase.remaining, List.length_cons]; omega
  | bury _ => simp only [Phase.remaining, List.length_cons]; omega
  | sync _ => simp only [Phase.remaining]; omega

/-! ## Runs of the processor -/

section Runs

variable (settings : OutboxSettings)

/-- A run of the processor with a store that works: a lease and all its moves. -/
def workingRun (token : String) (s : OutboxState) : List OutboxStep :=
  .lease token [] :: List.replicate (firstPhase settings (s.leased settings token []).1).remaining
    (.advance s.workers.length .done)

/-- Runs one after the other. -/
def workingRuns : List String → OutboxState → List OutboxStep
  | [], _ => []
  | token :: tokens, s =>
    workingRun settings token s ++ workingRuns tokens ((outboxMachine settings).run s (workingRun settings token s))

variable {settings} {s : OutboxState} {w : Nat} {phase : Phase} {answer : Answer}

theorem step_lease (token : String) (locked : List Nat) :
    (outboxMachine settings).step s (.lease token locked) =
      { s with
        outbox := (s.leased settings token locked).2
        workers := s.workers ++ [firstPhase settings (s.leased settings token locked).1] } := rfl

theorem step_advance (hw : s.workers[w]? = some phase) :
    (outboxMachine settings).step s (.advance w answer) =
      { (advance settings s answer phase).1 with workers := s.workers.set w (advance settings s answer phase).2 } := by
  apply Machine.step_of_ok (o := ())
  simp only [outboxMachine, OutboxState.next, hw]
  rfl

/-- Only a lease has to be uniform. -/
theorem guarded_advances (s : OutboxState) (w k : Nat) :
    (outboxMachine settings).Guarded (fun s step => Uniform settings s step = true) s
      (List.replicate k (.advance w .done)) := by
  induction k generalizing s with
  | zero => trivial
  | succ k ih => exact ⟨rfl, ih _⟩

/-- An invariant of the moves of one worker holds when it has finished. -/
theorem run_worker {I : OutboxState → Phase → Prop}
    (hI : ∀ s phase, s.workers[w]? = some phase → I s phase → phase ≠ .finished →
      I ((outboxMachine settings).step s (.advance w .done)) (advance settings s .done phase).2)
    {k : Nat} (hw : s.workers[w]? = some phase) (hk : phase.remaining ≤ k) (h : I s phase) :
    I ((outboxMachine settings).run s (List.replicate k (.advance w .done))) .finished := by
  induction k generalizing s phase with
  | zero =>
    cases phase with
    | finished => exact h
    | _ => simp only [Phase.remaining] at hk; omega
  | succ k ih =>
    rw [List.replicate_succ, Machine.run_cons]
    have hlt : w < s.workers.length := (List.getElem?_eq_some_iff.mp hw).1
    have hset : ((outboxMachine settings).step s (.advance w .done)).workers[w]? =
        some (advance settings s .done phase).2 := by
      rw [step_advance hw]
      simp [hlt]
    by_cases hfinished : phase = .finished
    · subst hfinished
      have hsame : (outboxMachine settings).step s (.advance w .done) = s := by
        rw [step_advance hw]
        show { s with workers := s.workers.set w .finished } = s
        obtain ⟨before, after, hworkers, hset, -⟩ := workers_split hw
        rw [hset, ← hworkers]
      rw [hsame]
      exact ih hw (Nat.zero_le _) h
    · have hlt := moves_remaining (advance_moves settings s .done phase) hfinished
      exact ih hset (by omega) (hI s phase hw h hfinished)

end Runs

/-! ## Live leases -/

/-- The lease owns its row. -/
def Owned (t : OutboxTable) (now : Int) (lease : OutboxLease) : Prop := ∃ row ∈ t.rows, lease.owns now row = true

/-- The row of the lease has the status. -/
def Ended (t : OutboxTable) (status : OutboxStatus) (lease : OutboxLease) : Prop :=
  ∃ row ∈ t.rows, row.entry.id = lease.entry.id ∧ row.progress.status = status

/-- Rows that are not the batch's stay as they are. -/
def Frame (leases : List OutboxLease) (t t' : OutboxTable) : Prop :=
  t'.entries = t.entries ∧ ∀ row ∈ t.rows, row.entry.id ∉ leases.map (·.entry.id) → row ∈ t'.rows

theorem Frame.refl (leases : List OutboxLease) (t : OutboxTable) : Frame leases t t := ⟨rfl, fun _ hrow _ => hrow⟩

theorem Frame.trans {leases : List OutboxLease} {a b c : OutboxTable} (hab : Frame leases a b) (hbc : Frame leases b c) :
    Frame leases a c :=
  ⟨hbc.1.trans hab.1, fun row hrow hid => hbc.2 row (hab.2 row hrow hid) hid⟩

theorem Frame.mono {leases more : List OutboxLease} {a b : OutboxTable} (h : Frame leases a b)
    (hsub : ∀ lease ∈ leases, lease ∈ more) : Frame more a b := by
  refine ⟨h.1, fun row hrow hid => h.2 row hrow fun hmem => hid ?_⟩
  obtain ⟨lease, hlease, heq⟩ := List.mem_map.mp hmem
  exact List.mem_map.mpr ⟨lease, hsub lease hlease, heq⟩

/-- An update by the owner of a live lease. -/
theorem updateOwned_of {t : OutboxTable} {now : Int} {lease : OutboxLease} {f : OutboxProgress → OutboxProgress}
    (h : Owned t now lease) : ∃ t', t.updateOwned lease now f = some t' ∧ Frame [lease] t t' ∧
      ∃ row ∈ t.rows, lease.owns now row = true ∧ (⟨row.entry, f row.progress⟩ : OutboxRow) ∈ t'.rows := by
  obtain ⟨row, hrow, howns⟩ := h
  have hmem : ∀ r ∈ t.rows, (⟨r.entry, if lease.owns now r then f r.progress else r.progress⟩ : OutboxRow) ∈
      (t.update fun row => if lease.owns now row then f row.progress else row.progress).rows :=
    fun r hr => List.mem_map.mpr ⟨r, hr, rfl⟩
  refine ⟨_, if_pos (List.any_eq_true.mpr ⟨row, hrow, howns⟩), ⟨OutboxTable.entries_update .., ?_⟩, row, hrow, howns, ?_⟩
  · intro other hother hid
    have hnot : ¬ lease.owns now other = true := fun h => hid (by simp [(OutboxLease.owns_id h).1])
    have := hmem other hother
    rwa [if_neg hnot] at this
  · have := hmem row hrow
    rwa [if_pos howns] at this

/-- Another lease stays live. -/
theorem Owned.frame {t t' : OutboxTable} {now : Int} {lease : OutboxLease} {leases : List OutboxLease}
    (h : Owned t now lease) (hframe : Frame leases t t') (hid : lease.entry.id ∉ leases.map (·.entry.id)) :
    Owned t' now lease := by
  obtain ⟨row, hrow, howns⟩ := h
  exact ⟨row, hframe.2 row hrow (by rwa [(OutboxLease.owns_id howns).1]), howns⟩

theorem Ended.frame {t t' : OutboxTable} {status : OutboxStatus} {lease : OutboxLease} {leases : List OutboxLease}
    (h : Ended t status lease) (hframe : Frame leases t t') (hid : lease.entry.id ∉ leases.map (·.entry.id)) :
    Ended t' status lease := by
  obtain ⟨row, hrow, heq, hstatus⟩ := h
  exact ⟨row, hframe.2 row hrow (by rwa [heq]), heq, hstatus⟩

/-- An acknowledgement of live leases goes through. -/
theorem sendAll_of {now : Int} {leases : List OutboxLease} {t : OutboxTable}
    (hsorted : leases.Pairwise fun a b => a.entry.id < b.entry.id) (h : ∀ lease ∈ leases, Owned t now lease) :
    ∃ t', leases.foldlM (fun t lease => t.updateOwned lease now (.sent now)) t = some t' ∧ Frame leases t t' ∧
      ∀ lease ∈ leases, Ended t' .sent lease := by
  induction leases generalizing t with
  | nil => exact ⟨t, rfl, .refl _ _, by simp⟩
  | cons lease rest ih =>
    obtain ⟨hfirst, hrest⟩ := List.pairwise_cons.mp hsorted
    have hnot : lease.entry.id ∉ rest.map (·.entry.id) := by
      intro hmem
      obtain ⟨other, hother, heq⟩ := List.mem_map.mp hmem
      have := hfirst other hother
      omega
    obtain ⟨middle, hmiddle, hframe, row, hrow, howns, hsent⟩ := updateOwned_of (f := .sent now) (h lease List.mem_cons_self)
    have howned : ∀ other ∈ rest, Owned middle now other := by
      intro other hother
      apply (h other (List.mem_cons_of_mem _ hother)).frame hframe
      have := hfirst other hother
      simp only [List.map_cons, List.map_nil, List.mem_singleton]
      omega
    obtain ⟨t', hall, hframe', hended⟩ := ih hrest howned
    refine ⟨t', ?_, ?_, ?_⟩
    · rw [List.foldlM_cons, hmiddle]
      exact hall
    · exact (hframe.mono (by simp)).trans (hframe'.mono fun l hl => List.mem_cons_of_mem _ hl)
    · intro other hother
      rcases List.mem_cons.mp hother with rfl | hother
      · have hfirst : Ended middle .sent other := ⟨_, hsent, (OutboxLease.owns_id howns).1, rfl⟩
        exact hfirst.frame hframe' hnot
      · exact hended other hother

/-! ## One run -/

section OneRun

variable {settings : OutboxSettings} {s : OutboxState} {leases : List OutboxLease} {phase : Phase}

/-- A well-formed batch on its way, or sent. -/
inductive Delivering (leases : List OutboxLease) (t : OutboxTable) (now : Int) : Phase → Prop
  | going {phase : Phase} {d : Delivery} (delivery : phase.delivery = some d) (same : d.leases = leases)
      (ids : d.outboxIds = leases.map (·.entry.id)) (last : some d.maxOutboxId = (leases.map (·.entry.id)).getLast?)
      (positive : d.maxOutboxId ≠ 0) (owned : ∀ lease ∈ leases, Owned t now lease) : Delivering leases t now phase
  | done (sent : ∀ lease ∈ leases, Ended t .sent lease) : Delivering leases t now .finished

/-- A malformed batch on its way, or buried. -/
inductive Burying (leases : List OutboxLease) (t : OutboxTable) (now : Int) : Phase → Prop
  | handling {failure : OutboxFailure} {buried rest : List OutboxLease} (permanent : failure.retryable = false)
      (split : leases = buried ++ rest) (ended : ∀ lease ∈ buried, Ended t .deadLetter lease)
      (owned : ∀ lease ∈ rest, Owned t now lease) : Burying leases t now (.handling failure rest)
  | syncing {recorded failure : OutboxFailure} {terminal : Bool} {buried rest : List OutboxLease}
      (permanent : failure.retryable = false) (split : leases = buried ++ rest)
      (ended : ∀ lease ∈ buried, Ended t .deadLetter lease) (owned : ∀ lease ∈ rest, Owned t now lease) :
      Burying leases t now (.syncing recorded terminal failure rest)
  | done (ended : ∀ lease ∈ leases, Ended t .deadLetter lease) : Burying leases t now .finished

theorem markDelivered_of {d : Delivery} (hsorted : leases.Pairwise fun a b => a.entry.id < b.entry.id)
    (hsame : d.leases = leases) (hids : d.outboxIds = leases.map (·.entry.id))
    (hlast : some d.maxOutboxId = (leases.map (·.entry.id)).getLast?)
    (howned : ∀ lease ∈ leases, Owned s.outbox s.now lease) :
    ∃ s', markDelivered s d = some s' ∧ s'.now = s.now ∧ Frame leases s.outbox s'.outbox ∧
      ∀ lease ∈ leases, Ended s'.outbox .sent lease := by
  obtain ⟨outbox, hsend, hframe, hended⟩ := sendAll_of hsorted howned
  have hne : leases.map (·.entry.id) ≠ [] := by
    intro hnil
    rw [hnil] at hlast
    cases hlast
  refine ⟨{ s with
    outbox
    registry := markRegistry s.registry leases s.now
    sync := some (advanceSync s.sync d s.now) }, ?_, rfl, hframe, hended⟩
  unfold markDelivered
  simp only [hsame]
  rw [if_neg (by simp only [not_or, not_not]; exact ⟨hne, hids, hlast⟩), hsend]
  rfl

/-- A move that stops no clock, touches no other row and keeps how far the batch is. -/
def Serves (leases : List OutboxLease) (J : OutboxTable → Int → Phase → Prop) (s : OutboxState)
    (r : OutboxState × Phase) : Prop :=
  r.1.now = s.now ∧ Frame leases s.outbox r.1.outbox ∧ J r.1.outbox r.1.now r.2

theorem delivering_advance (hsorted : leases.Pairwise fun a b => a.entry.id < b.entry.id)
    (hblameless : phase.Blameless settings s) (hsound : phase.Sound settings s)
    (h : Delivering leases s.outbox s.now phase) : Serves leases (Delivering leases) s (advance settings s .done phase) := by
  cases h with
  | done sent => exact ⟨rfl, .refl _ _, .done sent⟩
  | @going _ d delivery same ids last positive owned =>
    cases phase with
    | querying d' tables =>
      cases delivery
      cases tables with
      | nil =>
        simp only [advance, writeWatermark, if_neg positive]
        exact ⟨rfl, .refl _ _, .going rfl same ids last positive owned⟩
      | cons group tables =>
        obtain ⟨table, rows⟩ := group
        have hids : ∀ row ∈ rows, row.sinkDeliveryId ≠ "" := fun row hrow =>
          (hsound.tables table rows List.mem_cons_self row hrow).delivery_ne_empty
        obtain ⟨distinct, hread⟩ := byDeliveryId_of_agree table (hblameless table rows List.mem_cons_self) hids
        simp only [advance, askTable, hread]
        refine ⟨rfl, .refl _ _, ?_⟩
        split
        · exact .going rfl same ids last positive owned
        · exact .going rfl same ids last positive owned
    | inserting d' table rows tables =>
      cases delivery
      simp only [advance, insertChunk]
      refine ⟨rfl, .refl _ _, ?_⟩
      split
      · exact .going rfl same ids last positive owned
      · exact .going rfl same ids last positive owned
    | acknowledging d' =>
      cases delivery
      obtain ⟨s', hmarked, hnow, hframe, hended⟩ := markDelivered_of hsorted same ids last owned
      simp only [advance, hmarked, Option.getD_some]
      exact ⟨hnow, hframe, .done hended⟩
    | handling _ _ => cases delivery
    | syncing _ _ _ _ => cases delivery
    | finished => cases delivery

theorem burying_advance (hsorted : leases.Pairwise fun a b => a.entry.id < b.entry.id)
    (h : Burying leases s.outbox s.now phase) : Serves leases (Burying leases) s (advance settings s .done phase) := by
  cases h with
  | done ended => exact ⟨rfl, .refl _ _, .done ended⟩
  | syncing permanent split ended owned => exact ⟨rfl, .refl _ _, .handling permanent split ended owned⟩
  | @handling failure buried rest permanent split ended owned =>
    cases rest with
    | nil =>
      rw [List.append_nil] at split
      subst split
      exact ⟨rfl, .refl _ _, .done ended⟩
    | cons lease rest =>
      subst split
      obtain ⟨-, hsorted, hbefore⟩ := List.pairwise_append.mp hsorted
      have hafter := (List.pairwise_cons.mp hsorted).1
      obtain ⟨outbox, houtbox, hframe, row, hrow, howns, hburied⟩ :=
        updateOwned_of (f := .buried failure.terminal.text) (owned lease List.mem_cons_self)
      simp only [advance, handleLease, permanent, Bool.false_eq_true, false_and, if_false, deadLetter, houtbox]
      have hsplit : buried ++ lease :: rest = (buried ++ [lease]) ++ rest := by simp
      refine ⟨rfl, hframe.mono (by simp), .syncing permanent hsplit ?_ ?_⟩
      · intro other hother
        rcases List.mem_append.mp hother with hother | hother
        · apply (ended other hother).frame hframe
          have := hbefore other hother lease List.mem_cons_self
          simp only [List.map_cons, List.map_nil, List.mem_singleton]
          omega
        · rw [List.mem_singleton.mp hother]
          exact ⟨_, hburied, (OutboxLease.owns_id howns).1, rfl⟩
      · intro other hother
        apply (owned other (List.mem_cons_of_mem _ hother)).frame hframe
        have := hafter other hother
        simp only [List.map_cons, List.map_nil, List.mem_singleton]
        omega

variable {token : String} {locked : List Nat}

theorem lease_mem {t : OutboxTable} {limit : Nat} {now duration : Int} {row : OutboxRow} (hrow : row ∈ t.rows)
    (hchosen : row.entry.id ∈ t.candidates limit locked now) :
    row.lease token ∈ (leaseOutbox t token limit locked now duration).1 := by
  refine (List.perm_insertionSort ..).mem_iff.mpr (List.mem_map.mpr ⟨row, List.mem_filter.mpr ⟨hrow, ?_⟩, rfl⟩)
  simpa using hchosen

theorem leased_frame : Frame (s.leased settings token locked).1 s.outbox (s.leased settings token locked).2 := by
  refine ⟨OutboxTable.entries_update .., fun row hrow hid => ?_⟩
  have hnot : ¬ (s.outbox.candidates settings.batchSize locked s.now).contains row.entry.id = true := by
    intro hchosen
    apply hid
    exact List.mem_map.mpr ⟨row.lease token, lease_mem hrow (by simpa using hchosen), rfl⟩
  refine List.mem_map.mpr ⟨row, hrow, ?_⟩
  simp only [if_neg hnot]

theorem leased_owned {lease : OutboxLease} (h : lease ∈ (s.leased settings token locked).1) :
    Owned (s.leased settings token locked).2 s.now lease := by
  obtain ⟨row, hrow, hchosen, rfl⟩ := mem_leased h
  have hduration := settings.leaseDuration_valid
  refine ⟨_, List.mem_map.mpr ⟨row, hrow, rfl⟩, ?_⟩
  have hcontains : (s.outbox.candidates settings.batchSize locked s.now).contains row.entry.id = true := by
    simpa using hchosen
  simp only [if_pos hcontains, OutboxLease.owns, OutboxRow.lease, OutboxRow.leasedTo, beq_self_eq_true, Option.any_some,
    Bool.true_and, decide_eq_true_eq]
  omega

/-- Moves that serve a batch, until the worker has finished. -/
theorem run_serves {J : OutboxTable → Int → Phase → Prop} {w k : Nat}
    (hJ : ∀ (s : OutboxState) (phase : Phase), phase.Blameless settings s → phase.Sound settings s →
      J s.outbox s.now phase → Serves leases J s (advance settings s .done phase))
    (hs : Isolated settings s) (hw : s.workers[w]? = some phase) (h : J s.outbox s.now phase) (hk : phase.remaining ≤ k) :
    Isolated settings ((outboxMachine settings).run s (List.replicate k (.advance w .done))) ∧
      Serves leases J s ((outboxMachine settings).run s (List.replicate k (.advance w .done)), .finished) := by
  refine run_worker (I := fun s' phase => Isolated settings s' ∧ Serves leases J s (s', phase)) ?_ hw hk
    ⟨hs, rfl, .refl _ _, h⟩
  rintro s' phase hw ⟨hisolated, hnow, hframe, hJ'⟩ -
  have hmem := List.mem_of_getElem? hw
  have hmove := hJ s' phase (hisolated.workers phase hmem) (hisolated.consistent.workers phase hmem) hJ'
  rw [step_advance hw]
  exact ⟨isolated_advance hisolated hw (advance_moves settings s' .done phase), hmove.1.trans hnow,
    hframe.trans hmove.2.1, hmove.2.2⟩

/-- What holds when a run over a uniform batch has finished. -/
structure Settled (settings : OutboxSettings) (batch : List OutboxLease) (s s' : OutboxState) : Prop where
  isolated : Isolated settings s'
  now : s'.now = s.now
  frame : Frame batch s.outbox s'.outbox
  ended : ∀ lease ∈ batch, Ended s'.outbox (if malformed settings lease.entry then .deadLetter else .sent) lease

theorem workingRun_settles (hs : Isolated settings s) (hpositive : ∀ entry ∈ s.outbox.entries, entry.id ≠ 0)
    (hok : Uniform settings s (.lease token []) = true) :
    Settled settings (s.leased settings token []).1 s ((outboxMachine settings).run s (workingRun settings token s)) := by
  have hsorted : (s.leased settings token []).1.Pairwise fun a b => a.entry.id < b.entry.id := leased_sorted
  have hleased : Isolated settings ((outboxMachine settings).step s (.lease token [])) := isolated_next hs hok rfl
  have hw : ((outboxMachine settings).step s (.lease token [])).workers[s.workers.length]? =
      some (firstPhase settings (s.leased settings token []).1) := by
    rw [step_lease]
    simp
  rw [workingRun, Machine.run_cons]
  rcases firstPhase_cases hsorted hok with ⟨hnil, hphase⟩ | ⟨failure, hpermanent, hall, hphase⟩ |
    ⟨d, tables, hprepared, hall, -, hphase⟩
  · rw [hphase]
    refine ⟨hleased, rfl, leased_frame, ?_⟩
    rw [hnil]
    simp
  · have hburying : Burying (s.leased settings token []).1 (s.leased settings token []).2 s.now
        (firstPhase settings (s.leased settings token []).1) := by
      rw [hphase]
      exact .handling hpermanent (List.nil_append _).symm (by simp) fun lease hlease => leased_owned hlease
    obtain ⟨hisolated, hnow, hframe, hend⟩ :=
      run_serves (fun s phase _ _ h => burying_advance hsorted h) hleased hw hburying le_rfl
    cases hend with
    | done ended =>
      refine ⟨hisolated, hnow, leased_frame.trans hframe, fun lease hlease => ?_⟩
      rw [hall lease hlease]
      exact ended lease hlease
  · obtain ⟨hsame, hids, hlast, -⟩ := prepare_ok hsorted hprepared
    have hnonzero : d.maxOutboxId ≠ 0 := by
      have hmem := List.mem_of_getLast? hlast.symm
      obtain ⟨lease, hlease, hid⟩ := List.mem_map.mp hmem
      obtain ⟨row, hrow, -, rfl⟩ := mem_leased hlease
      rw [← hid]
      exact hpositive _ (List.mem_map_of_mem hrow)
    have hdelivering : Delivering (s.leased settings token []).1 (s.leased settings token []).2 s.now
        (firstPhase settings (s.leased settings token []).1) := by
      rw [hphase]
      exact .going rfl hsame hids hlast hnonzero fun lease hlease => leased_owned hlease
    obtain ⟨hisolated, hnow, hframe, hend⟩ :=
      run_serves (fun s phase hblameless hsound h => delivering_advance hsorted hblameless hsound h) hleased hw hdelivering
        le_rfl
    cases hend with
    | going delivery => cases delivery
    | done sent =>
      refine ⟨hisolated, hnow, leased_frame.trans hframe, fun lease hlease => ?_⟩
      rw [hall lease hlease]
      exact sent lease hlease

end OneRun

/-! ## What is due -/

section Due

variable {settings : OutboxSettings} {s s' : OutboxState} {token : String}

theorem mem_candidates {t : OutboxTable} {limit id : Nat} {locked : List Nat} {now : Int}
    (h : id ∈ t.candidates limit locked now) : ∃ row ∈ t.due locked now, row.entry.id = id := by
  obtain ⟨row, hrow, hid⟩ := List.mem_map.mp h
  exact ⟨row, (List.perm_insertionSort ..).mem_iff.mp (List.mem_of_mem_take hrow), hid⟩

/-- A run takes a record when one is due. -/
theorem leased_ne_nil (token : String) (h : s.outbox.due [] s.now ≠ []) : (s.leased settings token []).1 ≠ [] := by
  have hlimit := settings.batchSize_valid.1
  have hne : s.outbox.candidates settings.batchSize [] s.now ≠ [] := by
    intro hnil
    have hlength := congrArg List.length hnil
    have hpositive := List.length_pos_of_ne_nil h
    simp only [OutboxTable.candidates, List.length_map, List.length_take, List.length_insertionSort, List.length_nil] at hlength
    omega
  obtain ⟨id, hid⟩ := List.exists_mem_of_ne_nil _ hne
  obtain ⟨row, hrow, rfl⟩ := mem_candidates hid
  exact List.ne_nil_of_mem (lease_mem (List.mem_of_mem_filter hrow) hid)

theorem leased_due {lease : OutboxLease} (h : lease ∈ (s.leased settings token []).1) :
    ∃ row ∈ s.outbox.due [] s.now, row.entry = lease.entry := by
  obtain ⟨row, hrow, hchosen, rfl⟩ := mem_leased h
  obtain ⟨row', hdue, hid⟩ := mem_candidates hchosen
  rw [← s.outbox.row_eq (List.mem_of_mem_filter hdue) hrow hid]
  exact ⟨row', hdue, rfl⟩

theorem not_leasable_of_ended {row : OutboxRow} (now : Int) {status : OutboxStatus}
    (h : row.progress.status = status) (hstatus : status = .deadLetter ∨ status = .sent) : row.leasable now = false := by
  subst h
  rcases hstatus with h | h <;> simp [OutboxRow.leasable, h]

/-- What is due after a run was due before and not taken. -/
theorem due_after (h : Settled settings (s.leased settings token []).1 s s') {row : OutboxRow}
    (hrow : row ∈ s'.outbox.due [] s'.now) :
    row ∈ s.outbox.due [] s.now ∧ row.entry.id ∉ (s.leased settings token []).1.map (·.entry.id) := by
  obtain ⟨hmem, hdue⟩ := List.mem_filter.mp hrow
  simp only [Bool.and_eq_true] at hdue
  have hnot : row.entry.id ∉ (s.leased settings token []).1.map (·.entry.id) := by
    intro hid
    obtain ⟨lease, hlease, hid⟩ := List.mem_map.mp hid
    obtain ⟨row', hrow', hid', hstatus⟩ := h.ended lease hlease
    have heq : row' = row := s'.outbox.row_eq hrow' hmem (hid'.trans hid)
    subst heq
    have hclosed := not_leasable_of_ended s'.now hstatus (by split <;> simp)
    rw [hclosed] at hdue
    exact absurd hdue.1.2 (by decide)
  refine ⟨?_, hnot⟩
  have hentry : row.entry ∈ s.outbox.entries := h.frame.1 ▸ List.mem_map_of_mem hmem
  obtain ⟨old, hold, heq⟩ := List.mem_map.mp hentry
  have hsame : old = row := by
    refine s'.outbox.row_eq (h.frame.2 old hold ?_) hmem (congrArg (·.id) heq)
    rwa [heq]
  subst hsame
  rw [← h.now]
  exact List.mem_filter.mpr ⟨hold, by simpa only [Bool.and_eq_true] using hdue⟩

theorem due_nodup (t : OutboxTable) (now : Int) : ((t.due [] now).map (·.entry.id)).Nodup := by
  refine List.Nodup.sublist (List.filter_sublist.map _) ?_
  have := t.ids_nodup
  rwa [OutboxTable.entries, List.map_map] at this

/-- Fewer records are due after a run. -/
theorem due_decreases (h : Settled settings (s.leased settings token []).1 s s') :
    (s'.outbox.due [] s'.now).length ≤ (s.outbox.due [] s.now).length - 1 := by
  by_cases hnil : s.outbox.due [] s.now = []
  · have hnone : s'.outbox.due [] s'.now = [] := by
      rw [List.eq_nil_iff_forall_not_mem]
      intro row hrow
      have := (due_after h hrow).1
      rw [hnil] at this
      cases this
    rw [hnone]
    exact Nat.zero_le _
  · obtain ⟨lease, hlease⟩ := List.exists_mem_of_ne_nil _ (leased_ne_nil token hnil)
    obtain ⟨row, hrow, hentry⟩ := leased_due hlease
    have hsub : (s'.outbox.due [] s'.now).map (·.entry.id) ⊆ ((s.outbox.due [] s.now).map (·.entry.id)).erase row.entry.id := by
      intro id hid
      obtain ⟨r, hr, rfl⟩ := List.mem_map.mp hid
      obtain ⟨hdue, hnot⟩ := due_after h hr
      refine (List.mem_erase_of_ne ?_).mpr (List.mem_map_of_mem hdue)
      intro heq
      apply hnot
      rw [heq, hentry]
      exact List.mem_map_of_mem hlease
    have hlength := (List.subperm_of_subset (due_nodup ..) hsub).length_le
    have hmem : row.entry.id ∈ (s.outbox.due [] s.now).map (·.entry.id) := List.mem_map_of_mem hrow
    rw [List.length_erase_of_mem hmem, List.length_map, List.length_map] at hlength
    exact hlength

end Due

/-! ## Every run -/

section EveryRun

variable {settings : OutboxSettings}

theorem nonzero_next {s s' : OutboxState} {step : OutboxStep} (hs : ∀ entry ∈ s.outbox.entries, entry.id ≠ 0)
    (h : s.next settings step = some s') : ∀ entry ∈ s'.outbox.entries, entry.id ≠ 0 := by
  have hgrow : ∀ {outbox : OutboxTable} {new : List OutboxRow}, outbox.rows = s.outbox.rows ++ new →
      (∀ row ∈ new, row.entry.id ≠ 0) → ∀ entry ∈ outbox.entries, entry.id ≠ 0 := by
    intro outbox new hrows hnew entry hentry
    rw [OutboxTable.entries, hrows, List.map_append] at hentry
    rcases List.mem_append.mp hentry with hentry | hentry
    · exact hs entry hentry
    · obtain ⟨row, hrow, rfl⟩ := List.mem_map.mp hentry
      exact hnew row hrow
  cases step with
  | wait microseconds => cases h; exact hs
  | register applicationId eventId =>
    simp only [OutboxState.next] at h
    split at h
    · cases h
    · cases h; exact hs
  | produce applicationId id message =>
    simp only [OutboxState.next] at h
    split at h
    · cases h
    · rename_i hid
      obtain ⟨outbox, hinsert, h⟩ := Option.bind_eq_some_iff.mp h
      cases h
      apply hgrow (OutboxTable.insert_ok hinsert)
      intro row hrow
      rw [List.mem_singleton.mp hrow]
      exact hid
  | replay run =>
    obtain ⟨outbox, hreset, h⟩ := Option.bind_eq_some_iff.mp h
    cases h
    obtain ⟨new, hrows, hnew⟩ := resetOutbox_ok hreset
    apply hgrow hrows
    intro row hrow
    obtain ⟨source, -, -, -, -, -, hlater⟩ := hnew row hrow
    exact Nat.ne_zero_of_lt hlater
  | lease token locked =>
    cases h
    show ∀ entry ∈ (s.leased settings token locked).2.entries, entry.id ≠ 0
    rw [leased_frame.1]
    exact hs
  | advance w answer =>
    obtain ⟨phase, hw, h⟩ := Option.bind_eq_some_iff.mp h
    cases h
    show ∀ entry ∈ (advance settings s answer phase).1.outbox.entries, entry.id ≠ 0
    rw [moves_entries (advance_moves settings s answer phase)]
    exact hs
  | crash w =>
    simp only [OutboxState.next] at h
    split at h
    · cases h; exact hs
    · cases h

/-- The invariant of runs that lease uniform batches. -/
structure Good (settings : OutboxSettings) (s : OutboxState) : Prop where
  isolated : Isolated settings s
  nonzero : ∀ entry ∈ s.outbox.entries, entry.id ≠ 0

theorem good_empty (settings : OutboxSettings) (now : Int) : Good settings (emptyOutbox now) where
  isolated := ⟨consistent_empty settings now, ⟨by simp [emptyOutbox], by simp [emptyOutbox]⟩, by simp [emptyOutbox]⟩
  nonzero := by simp [emptyOutbox, OutboxTable.entries]

theorem good_run {s : OutboxState} {steps : List OutboxStep} (hs : Good settings s)
    (h : (outboxMachine settings).Guarded (fun s step => Uniform settings s step = true) s steps) :
    Good settings ((outboxMachine settings).run s steps) := by
  refine Machine.guarded_invariant ?_ steps s hs h
  intro s step o s' hs hok h
  exact ⟨isolated_next hs.isolated hok (exec_ok h), nonzero_next hs.nonzero (exec_ok h)⟩

/-- As many runs as records are due settle them and touch no other. -/
theorem runs_settle {tokens : List String} {s : OutboxState} (hs : Good settings s)
    (hcount : (s.outbox.due [] s.now).length ≤ tokens.length)
    (h : (outboxMachine settings).Guarded (fun s step => Uniform settings s step = true) s (workingRuns settings tokens s)) :
    (∀ row ∈ s.outbox.rows, row ∉ s.outbox.due [] s.now →
      row ∈ ((outboxMachine settings).run s (workingRuns settings tokens s)).outbox.rows) ∧
    ∀ row ∈ s.outbox.due [] s.now,
      ∃ row' ∈ ((outboxMachine settings).run s (workingRuns settings tokens s)).outbox.rows, row'.entry = row.entry ∧
        row'.progress.status = if malformed settings row.entry then .deadLetter else .sent := by
  induction tokens generalizing s with
  | nil =>
    have hnil : s.outbox.due [] s.now = [] := List.length_eq_zero_iff.mp (Nat.le_zero.mp hcount)
    rw [hnil]
    exact ⟨fun row hrow _ => hrow, by simp⟩
  | cons token tokens ih =>
    rw [workingRuns] at h ⊢
    rw [Machine.run_append]
    obtain ⟨hfirst, hrest⟩ := Machine.guarded_append.mp h
    have hsettled := workingRun_settles hs.isolated hs.nonzero hfirst.1
    have hdecreases := due_decreases hsettled
    obtain ⟨hkept, hends⟩ := ih (good_run hs hfirst) (by rw [List.length_cons] at hcount; omega) hrest
    have hthere : ∀ row ∈ s.outbox.rows, row.entry.id ∉ (s.leased settings token []).1.map (·.entry.id) →
        row ∈ ((outboxMachine settings).run s (workingRun settings token s)).outbox.rows := hsettled.frame.2
    refine ⟨?_, ?_⟩
    · intro row hrow hnot
      apply hkept row
      · apply hthere row hrow
        intro hid
        obtain ⟨lease, hlease, hid⟩ := List.mem_map.mp hid
        obtain ⟨due, hdue, hentry⟩ := leased_due hlease
        have heq : due = row := s.outbox.row_eq (List.mem_of_mem_filter hdue) hrow (by rw [hentry, hid])
        exact hnot (heq ▸ hdue)
      · exact fun hdue => hnot (due_after hsettled hdue).1
    · intro row hrow
      by_cases hid : row.entry.id ∈ (s.leased settings token []).1.map (·.entry.id)
      · obtain ⟨lease, hlease, hid⟩ := List.mem_map.mp hid
        obtain ⟨due, hdue, hentry⟩ := leased_due hlease
        have heq : due = row :=
          s.outbox.row_eq (List.mem_of_mem_filter hdue) (List.mem_of_mem_filter hrow) (by rw [hentry, hid])
        subst heq
        obtain ⟨ended, hended, heid, hstatus⟩ := hsettled.ended lease hlease
        have hsame : ended.entry = due.entry := by
          rw [hentry]
          refine OutboxTable.entry_eq _ (List.mem_map_of_mem hended) ?_ heid
          rw [hsettled.frame.1, ← hentry]
          exact List.mem_map_of_mem (List.mem_of_mem_filter hdue)
        rw [← hentry] at hstatus
        refine ⟨ended, hkept ended hended ?_, hsame, hstatus⟩
        intro hagain
        have hclosed := not_leasable_of_ended
          ((outboxMachine settings).run s (workingRun settings token s)).now hstatus (by split <;> simp)
        have hopen := (List.mem_filter.mp hagain).2
        simp [hclosed] at hopen
      · have hmem := hthere row (List.mem_of_mem_filter hrow) hid
        refine hends row (List.mem_filter.mpr ⟨hmem, ?_⟩)
        rw [hsettled.now]
        exact (List.mem_filter.mp hrow).2

/-- From `s` to `s'` malformed records spoil no other: whatever was dead-lettered for its payload
    is malformed, and of the records that were due exactly the malformed ones are dead letters
    and the others are sent and there. -/
structure SpoilsNone (settings : OutboxSettings) (s s' : OutboxState) : Prop where
  blamed : Blamed settings s ∧ Blamed settings s'
  settled : ∀ row ∈ s.outbox.due [] s.now, ∃ row' ∈ s'.outbox.rows, row'.entry = row.entry ∧
    (row'.progress.status = .deadLetter ↔ malformed settings row.entry = true) ∧
    (row'.progress.status = .sent ↔ malformed settings row.entry = false) ∧
    (malformed settings row.entry = false → Projected settings s' row.entry)

/-- Whatever happened before, as many working runs as records are due. -/
theorem batches_isolated (settings : OutboxSettings) (now : Int) (steps : List OutboxStep) (tokens : List String)
    (hcount : (((outboxMachine settings).run (emptyOutbox now) steps).outbox.due []
      ((outboxMachine settings).run (emptyOutbox now) steps).now).length ≤ tokens.length)
    (h : (outboxMachine settings).Guarded (fun s step => Uniform settings s step = true) (emptyOutbox now)
      (steps ++ workingRuns settings tokens ((outboxMachine settings).run (emptyOutbox now) steps))) :
    SpoilsNone settings ((outboxMachine settings).run (emptyOutbox now) steps)
      ((outboxMachine settings).run (emptyOutbox now)
        (steps ++ workingRuns settings tokens ((outboxMachine settings).run (emptyOutbox now) steps))) := by
  obtain ⟨hfirst, hrest⟩ := Machine.guarded_append.mp h
  have hs := good_run (good_empty settings now) hfirst
  have hs' := good_run hs hrest
  rw [Machine.run_append]
  refine ⟨⟨hs.isolated.blamed, hs'.isolated.blamed⟩, fun row hrow => ?_⟩
  obtain ⟨row', hrow', hentry, hstatus⟩ := (runs_settle hs hcount hrest).2 row hrow
  refine ⟨row', hrow', hentry, ?_⟩
  cases hmalformed : malformed settings row.entry with
  | true =>
    rw [hmalformed] at hstatus
    exact ⟨by simp [hstatus], by simp [hstatus], by simp⟩
  | false =>
    rw [hmalformed] at hstatus
    refine ⟨by simp [hstatus], by simp [hstatus], fun _ => ?_⟩
    rw [← hentry]
    exact hs'.isolated.consistent.sent row' hrow' (by simpa using hstatus)

end EveryRun

/-! ## A malformed record and a well-formed one -/

/-- A raw record without the normalized event. -/
def produceMalformed : OutboxStep :=
  .produce sampleApplication 2
    ⟨"usage_event", "event-2", "usage_events_raw", .obj [("application_id", .str sampleApplication)], "clickhouse-raw:2"⟩

/-- The malformed record is leased alone and buried; then the other one is there. -/
def separateRun : List OutboxStep :=
  [produceMalformed, .lease "m" [], .advance 0 .done, .advance 0 .done, .advance 0 .done, produceRaw]

theorem separateRun_uniform : (outboxMachine sampleSettings).Guarded (fun s step => Uniform sampleSettings s step = true)
    sampleStart (separateRun ++ workingRuns sampleSettings ["a"] ((outboxMachine sampleSettings).run sampleStart separateRun)) := by
  refine Machine.guarded_append.mpr ⟨⟨rfl, uniformBatch_one (by decide +kernel), rfl, rfl, rfl, rfl, trivial⟩, ?_⟩
  rw [workingRuns, workingRuns, List.append_nil]
  exact ⟨uniformBatch_one (by decide +kernel), guarded_advances _ _ _⟩

theorem raw_isolated :
    ((outboxMachine sampleSettings).run sampleStart separateRun).outbox.rows.map (·.progress.status) =
        [.deadLetter, .pending] ∧
      SpoilsNone sampleSettings ((outboxMachine sampleSettings).run sampleStart separateRun)
        ((outboxMachine sampleSettings).run sampleStart
          (separateRun ++ workingRuns sampleSettings ["a"] ((outboxMachine sampleSettings).run sampleStart separateRun))) :=
  ⟨by decide +kernel, batches_isolated sampleSettings _ separateRun ["a"] (by decide +kernel) separateRun_uniform⟩

/-- Both are leased in one batch. -/
def mixedRun : List OutboxStep := [produceMalformed, produceRaw]

theorem raw_spoiled :
    ¬ SpoilsNone sampleSettings ((outboxMachine sampleSettings).run sampleStart mixedRun)
      ((outboxMachine sampleSettings).run sampleStart
        (mixedRun ++ workingRuns sampleSettings ["a"] ((outboxMachine sampleSettings).run sampleStart mixedRun))) := by
  intro h
  have hletter : ((outboxMachine sampleSettings).run sampleStart (mixedRun ++ workingRuns sampleSettings ["a"]
      ((outboxMachine sampleSettings).run sampleStart mixedRun))).deadLetters.any
      (fun d => d.outboxId = 1 && d.errorCode = payloadInvalid) = true := by decide +kernel
  have hformed : ((outboxMachine sampleSettings).run sampleStart (mixedRun ++ workingRuns sampleSettings ["a"]
      ((outboxMachine sampleSettings).run sampleStart mixedRun))).outbox.entries.all
      (fun entry => entry.id ≠ 1 || !malformed sampleSettings entry) = true := by decide +kernel
  obtain ⟨d, hd, heq⟩ := List.any_eq_true.mp hletter
  simp only [Bool.and_eq_true, decide_eq_true_eq] at heq
  obtain ⟨entry, hentry, hid, hmalformed⟩ := h.blamed.2.payload d hd heq.2
  have := List.all_eq_true.mp hformed entry hentry
  simp [hid, heq.1, hmalformed] at this

end TokenPilot.Analytics
