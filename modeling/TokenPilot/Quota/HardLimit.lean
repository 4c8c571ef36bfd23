/-
  TokenPilot.Quota.HardLimit — how far a hard limit holds.

  A reservation is granted only within what remains, and settling at most what was
  reserved gives back at least what it takes. So while limits are not lowered and
  nothing is consumed without a reservation, only one kind of step can take a quota over
  its limit: the worker's reconciliation, which raises a settled reservation to the
  rated amount whatever remains. Under a limit of 5, a reservation of 5 that is settled at 2
  leaves room for one of 3, and is then rated at 5 (`reconciliation_exceeds_the_limit`).

  `raised` is what reconciliations added to a quota since it was last renewed. The
  invariant of a move (`WithinLimit.move`) is that the quota is over its limit by at most
  that, and that what is reserved alone never is.

  Main result: `hard_limit_exceeded_only_by_reconciliation`, for any number of requests in
  flight, with any conflicts and retries.
-/

import TokenPilot.Quota.Attempts
import TokenPilot.Quota.ConsumedBalance

namespace TokenPilot.Quota

open TokenPilot.Library

def UserAiuLedgerEntry.raises (e : UserAiuLedgerEntry) : Bool :=
  (match e.idempotencyKey with
    | .usageReconciliation _ => true
    | _ => false) && decide (0 < e.consumedDeltaMicros)

/-- What worker reconciliations added to a quota since it was last renewed. -/
def raised (l : List UserAiuLedgerEntry) (quotaId : Uuid) : Int :=
  sumOf (·.raises) (·.consumedDeltaMicros) (sinceRenewal l quotaId)

theorem UserAiuLedgerEntry.raise_nonneg (e : UserAiuLedgerEntry) :
    0 ≤ if e.raises then e.consumedDeltaMicros else 0 := by
  split
  · rename_i h
    simp only [UserAiuLedgerEntry.raises, Bool.and_eq_true, decide_eq_true_eq] at h
    omega
  · exact Int.le_refl 0

theorem raised_nonneg (l : List UserAiuLedgerEntry) (quotaId : Uuid) : 0 ≤ raised l quotaId := by
  refine sumOf_nonneg ?_
  intro e _ he
  have := e.raise_nonneg
  rwa [if_pos he] at this

/-- A quota is over its limit by at most what was raised; what is reserved alone is not. -/
def WithinLimit (s : QuotaStore) : Prop :=
  ∀ q ∈ s.quotas.rows, q.reservedAiuMicros ≤ q.limitAiuMicros ∧
    q.consumedAiuMicros + q.reservedAiuMicros ≤ q.limitAiuMicros + raised s.ledger.rows q.id

/-! ## One move -/

/-- A move that settles within the reservation, lowers no limit and consumes nothing unreserved. -/
structure Move.Orderly (m : Move) : Prop where
  settles : ∀ r amount event, m.change = .settle r amount event → amount ≤ r.reservedAiuMicros
  limits : m.change ≠ .grant → m.quota.limitAiuMicros ≤ m.next.limitAiuMicros
  unreserved : ∀ amount event, m.change ≠ .consume amount event

theorem raised_move {m : Move} {s s' : QuotaStore} (h : m.Applies s s') (quotaId : Uuid) :
    raised s'.ledger.rows quotaId =
      if m.quota.id = quotaId then
        if m.entry.renews then 0 else raised s.ledger.rows quotaId + if m.entry.raises then m.entry.consumedDeltaMicros else 0
      else raised s.ledger.rows quotaId := by
  unfold raised sinceRenewal
  rw [h.ledger, since_snoc, m.recorded.quotaId]
  simp only [beq_iff_eq]
  split
  · split
    · rfl
    · rw [sumOf_snoc]
  · rfl

/-- The amount a change adds to consumed and reserved together, beyond what it raises. -/
theorem Move.Applies.sum_le {m : Move} {s s' : QuotaStore} (h : m.Applies s s') (ho : m.Orderly) (hw : WithinLimit s)
    (hc : m.change ≠ .grant) :
    m.next.reservedAiuMicros ≤ m.next.limitAiuMicros ∧
    m.next.consumedAiuMicros + m.next.reservedAiuMicros ≤ m.next.limitAiuMicros + (raised s.ledger.rows m.quota.id +
      if m.entry.raises then m.entry.consumedDeltaMicros else 0) := by
  have hg := h.guard
  obtain ⟨hres, hsum⟩ := hw m.quota (hg.mem hc)
  have hlim := ho.limits hc
  have hraise := m.entry.raise_nonneg
  have hnext := QuotaStore.quota_counters h.next_mem
  have hraised := raised_nonneg s.ledger.rows m.quota.id
  rw [m.consumed, m.reserved]
  cases hm : m.change with
  | grant => exact absurd hm hc
  | settings => simp only [Change.consumed, Change.reserved]; omega
  | renew closed => simp only [Change.consumed, Change.reserved]; omega
  | reserve r =>
    rw [hm] at hg
    have hrem := hg.2.2.2.2.2.2.2
    simp only [remainingAiu] at hrem
    simp only [Change.consumed, Change.reserved]
    have hcon := QuotaStore.quota_counters (hg.1)
    split at hrem <;> omega
  | close r status =>
    rw [hm] at hg
    have := QuotaStore.reservation_amounts hg.2.1
    simp only [Change.consumed, Change.reserved]
    omega
  | settle r amount event =>
    rw [hm] at hg
    have := QuotaStore.reservation_amounts hg.2.1
    have := ho.settles r amount event hm
    simp only [Change.consumed, Change.reserved]
    omega
  | reconcile r amount event =>
    -- what is added is raised, and what is taken back leaves room
    have hdelta : m.entry.consumedDeltaMicros = amount - r.settledAiuMicros := by
      rw [m.recorded.consumedDelta, m.consumed, hm, Change.consumed]
      omega
    have hkey : m.entry.idempotencyKey = .usageReconciliation event := by
      have := m.recorded.key
      rw [hm] at this
      simpa [Change.keyed] using this
    have hraises : m.entry.raises = decide (0 < amount - r.settledAiuMicros) := by
      rw [UserAiuLedgerEntry.raises, hkey, hdelta, Bool.true_and]
    rw [hraises, hdelta]
    simp only [Change.consumed, Change.reserved, decide_eq_true_eq]
    split <;> omega
  | consume amount event => exact absurd hm (ho.unreserved amount event)

theorem WithinLimit.move {m : Move} {s s' : QuotaStore} (hw : WithinLimit s) (ho : m.Orderly) (h : m.Applies s s') :
    WithinLimit s' := by
  intro x hx
  rw [raised_move h]
  rcases h.quota_iff.mp hx with rfl | ⟨hx, hne⟩
  · rw [m.same.1, if_pos rfl]
    have hnext := QuotaStore.quota_counters h.next_mem
    by_cases hc : m.change = .grant
    · have hg := h.guard
      rw [hc] at hg
      have hcon : m.next.consumedAiuMicros = 0 := by rw [m.consumed, hc]; exact hg.2.1
      have hres : m.next.reservedAiuMicros = 0 := by rw [m.reserved, hc]; exact hg.2.2
      have hraise := m.entry.raise_nonneg
      have := raised_nonneg s.ledger.rows m.quota.id
      split <;> omega
    · obtain ⟨hres, hsum⟩ := h.sum_le ho hw hc
      refine ⟨hres, ?_⟩
      split
      · rename_i hren
        -- nothing is consumed after an entry that renews
        have hzero : m.next.consumedAiuMicros = 0 := by
          rw [← m.recorded.consumedAfter]
          simp only [UserAiuLedgerEntry.renews, Bool.and_eq_true, beq_iff_eq] at hren
          exact hren.2
        omega
      · exact hsum
  · rw [if_neg (Ne.symm hne)]
    exact hw x hx

/-! ## One call -/

/-- A settlement is at most what the reservation holds. -/
def SettlesWithin (s : QuotaStore) : Op → Prop
  | .transition call =>
    match call.action with
    | .settle actual => ∀ r ∈ s.reservations.rows, r.id = call.id → (actual : Int) ≤ r.reservedAiuMicros
    | .release _ => True
  | .applyUserAiu call => ∀ r ∈ s.reservations.rows, call.reservationId = some r.id →
      call.settled ≤ r.reservedAiuMicros
  | _ => True

/-- What is asked of a run: settlements within their reservations, no limit lowered, no
    CONSUME entry written. -/
structure Orderly (settings : ReservationSettings) (s : QuotaStore) (op : Op) : Prop where
  settles : SettlesWithin s op
  limits : ∀ q ∈ s.quotas.rows, ∀ q' ∈ ((system settings).step s op).quotas.rows, q.id = q'.id →
    q.limitAiuMicros ≤ q'.limitAiuMicros
  unreserved : ∀ e ∈ ((system settings).step s op).ledger.rows, e.entryType = .consume → e ∈ s.ledger.rows

instance (s : QuotaStore) : ∀ op, Decidable (SettlesWithin s op)
  | .transition ⟨_, id, _, .settle actual, _⟩ => inferInstanceAs (Decidable (∀ r ∈ s.reservations.rows,
      r.id = id → (actual : Int) ≤ r.reservedAiuMicros))
  | .transition ⟨_, _, _, .release _, _⟩ => isTrue trivial
  | .applyUserAiu call => inferInstanceAs (Decidable (∀ r ∈ s.reservations.rows, call.reservationId = some r.id →
      call.settled ≤ r.reservedAiuMicros))
  | .configure _ _ _ | .identify _ _ _ | .create _ | .materialize _ | .save _ | .reset _ | .expire _ => isTrue trivial

instance (settings : ReservationSettings) (s : QuotaStore) (op : Op) : Decidable (Orderly settings s op) :=
  decidable_of_iff (SettlesWithin s op ∧
      (∀ q ∈ s.quotas.rows, ∀ q' ∈ ((system settings).step s op).quotas.rows, q.id = q'.id →
        q.limitAiuMicros ≤ q'.limitAiuMicros) ∧
      ∀ e ∈ ((system settings).step s op).ledger.rows, e.entryType = .consume → e ∈ s.ledger.rows)
    ⟨fun h => ⟨h.1, h.2.1, h.2.2⟩, fun h => ⟨h.settles, h.limits, h.unreserved⟩⟩

theorem Moves.limits_kept {s s' : QuotaStore} {ms : List Move} (h : Moves s ms s')
    (hkeep : ∀ m ∈ ms, m.next.limitAiuMicros = m.quota.limitAiuMicros) {q : UserAiuQuota} (hq : q ∈ s.quotas.rows) :
    ∃ q' ∈ s'.quotas.rows, q'.id = q.id ∧ q'.limitAiuMicros = q.limitAiuMicros := by
  induction h generalizing q with
  | nil hs => exact ⟨q, hs.quotas ▸ hq, rfl, rfl⟩
  | @cons s s₁ s' m ms ha _ ih =>
    have hrest : ∀ m ∈ ms, m.next.limitAiuMicros = m.quota.limitAiuMicros :=
      fun x hx => hkeep x (List.mem_cons_of_mem _ hx)
    by_cases hid : q.id = m.quota.id
    · have hc : m.change ≠ .grant := by
        intro hc
        have hg := ha.guard
        rw [hc] at hg
        have := hg.1 q hq
        simp [Row.clash, hid] at this
      obtain ⟨q', hq', hid', hlim⟩ := ih hrest ha.next_mem
      refine ⟨q', hq', by rw [hid', m.same.1, hid], ?_⟩
      rw [hlim, hkeep m List.mem_cons_self, QuotaStore.quota_eq_of_id hq (ha.guard.mem hc) hid]
    · exact ih hrest (ha.quota_iff.mpr (Or.inr ⟨hq, hid⟩))

/-- The limits of a call that lowered none were lowered by none of its moves. -/
theorem Moves.limits_le {s s' : QuotaStore} {ms : List Move} (h : Moves s ms s')
    (htail : ∀ m ∈ ms.tail, m.next.limitAiuMicros = m.quota.limitAiuMicros)
    (hlim : ∀ q ∈ s.quotas.rows, ∀ q' ∈ s'.quotas.rows, q.id = q'.id → q.limitAiuMicros ≤ q'.limitAiuMicros) :
    ∀ m ∈ ms, m.change ≠ .grant → m.quota.limitAiuMicros ≤ m.next.limitAiuMicros := by
  cases h with
  | nil => intro x hx; cases hx
  | @cons _ s₁ _ m ms ha hms =>
    intro x hx hc
    rcases List.mem_cons.mp hx with rfl | hx
    · obtain ⟨q', hq', hid, heq⟩ := hms.limits_kept htail ha.next_mem
      rw [← heq]
      exact hlim _ (ha.guard.mem hc) q' hq' (by rw [hid, x.same.1])
    · rw [htail x hx]

variable {settings : ReservationSettings}

/-- An orderly call made orderly moves. -/
theorem Orderly.moves {s s' : QuotaStore} {op : Op} {answer : Answer} (hl : Linked s) (ho : Orderly settings s op)
    (h : exec settings s op = .ok (answer, s')) : ∃ ms, Moves s ms s' ∧ ∀ m ∈ ms, m.Orderly := by
  have hstep : (system settings).step s op = s' := (system settings).step_of_ok h
  have hlim := ho.limits
  have hunres := ho.unreserved
  rw [hstep] at hlim hunres
  have hone : ∀ m : Move, m.Applies s s' → (∀ r amount event, m.change = .settle r amount event →
      amount ≤ r.reservedAiuMicros) → ∃ ms, Moves s ms s' ∧ ∀ m ∈ ms, m.Orderly := by
    intro m happ hset
    refine ⟨[m], .one happ, ?_⟩
    simp only [List.mem_singleton, forall_eq]
    refine ⟨hset, fun hc => (Moves.one happ).limits_le (by simp) hlim m List.mem_cons_self hc, ?_⟩
    intro amount event hc
    -- a CONSUME entry is new, since the ledger holds no row twice
    have hnew : m.entry ∉ s.ledger.rows := by
      have hnodup := s'.ledger.nodup
      rw [happ.ledger, List.nodup_append] at hnodup
      intro hmem
      exact hnodup.2.2 _ hmem _ (List.mem_singleton.mpr rfl) rfl
    refine hnew (hunres m.entry (by rw [happ.ledger]; simp) ?_)
    have htype := m.recorded.entryType
    rw [hc] at htype
    simpa [Change.entryTypes] using htype
  by_cases hsdk : ∃ call, op = .transition call
  · obtain ⟨call, rfl⟩ := hsdk
    obtain ⟨a, h⟩ := answered_ok h
    rcases transition_moves hl h with rfl | ⟨m, r, hid, -, hm, happ⟩
    · exact ⟨[], .nil (.refl _), by simp⟩
    · refine hone m happ ?_
      intro r' amount event hc
      have hg := happ.guard
      rw [hc] at hm hg
      cases hact : call.action with
      | settle actual =>
        rw [hact] at hm
        cases hm
        have hset := ho.settles
        simp only [SettlesWithin, hact] at hset
        exact hset r hg.2.1 hid
      | release reason => rw [hact] at hm; cases hm
  by_cases hworker : ∃ call, op = .applyUserAiu call
  · obtain ⟨call, rfl⟩ := hworker
    obtain ⟨a, h⟩ := answered_ok h
    rcases applyUserAiu_moves hl h with rfl | ⟨m, hm, happ⟩
    · exact ⟨[], .nil (.refl _), by simp⟩
    · refine hone m happ ?_
      intro r' amount event hc
      have hg := happ.guard
      rw [hc] at hm hg
      rcases hm with ⟨r, hid, -, -, hm | hm⟩ | ⟨-, actual, -, hm⟩
      · cases hm
        exact ho.settles r' hg.2.1 hid
      · cases hm
      · cases hm
  · obtain ⟨ms, hms, hmakes, htail⟩ := exec_moves hl h
    refine ⟨ms, hms, fun m hm => ?_⟩
    have hspend := (hmakes m hm).spends_false (fun call hc => hsdk ⟨call, hc⟩) fun call hc => hworker ⟨call, hc⟩
    refine ⟨?_, hms.limits_le htail hlim m hm, ?_⟩
    · intro r amount event hc
      rw [hc] at hspend
      cases hspend
    · intro amount event hc
      rw [hc] at hspend
      cases hspend

/-! ## Every run -/

/-- An event of the server is orderly when the operation it executes is. -/
def OrderlyEvent (settings : ReservationSettings) (sv : Server) (event : Event) : Prop :=
  ∀ op, sv.executes event = some op → Orderly settings sv.store op

instance (settings : ReservationSettings) (sv : Server) (event : Event) : Decidable (OrderlyEvent settings sv event) :=
  match h : sv.executes event with
  | none => isTrue fun op hop => by rw [h] at hop; cases hop
  | some op => decidable_of_iff (Orderly settings sv.store op)
      ⟨fun ho op' hop => by rw [h] at hop; cases hop; exact ho, fun ho => ho op h⟩

/-- With any requests in flight, conflicts and retries: in every orderly run an enabled
    hard-limit quota has consumed and reserved at most its limit and what worker
    reconciliations raised since it was last renewed. -/
theorem hard_limit_exceeded_only_by_reconciliation (settings : ReservationSettings) (events : List Event)
    (h : (server settings).Guarded (OrderlyEvent settings) .empty events) :
    let s := ((server settings).run .empty events).store
    ∀ q ∈ s.quotas.rows, q.enabled = true → q.hardLimit = true →
      q.consumedAiuMicros + q.reservedAiuMicros ≤ q.limitAiuMicros + raised s.ledger.rows q.id := by
  intro s q hq _ _
  have hinv : Linked s ∧ WithinLimit s := by
    refine Machine.guarded_invariant (P := fun sv : Server => Linked sv.store ∧ WithinLimit sv.store) ?_ events
      Server.empty ⟨empty_linked, by simp [WithinLimit, Server.empty, QuotaStore.empty, Table.empty]⟩ h
    intro sv event u sv' hyp ho hexec
    obtain ⟨hl, hw⟩ := hyp
    cases hexec
    rw [serve_store]
    cases hop : sv.executes event with
    | none => exact ⟨hl, hw⟩
    | some op =>
      rcases (system settings).step_cases sv.store op with ⟨answer, hok⟩ | hsame
      · obtain ⟨ms, hms, hall⟩ := (ho op hop).moves hl hok
        exact hms.invariant (P := WithinLimit) Move.Orderly
          (fun _ _ hs hw => by unfold WithinLimit; rw [hs.quotas, hs.ledger]; exact hw)
          (fun _ _ _ _ hw ho ha => hw.move ho ha) hl hw hall
      · dsimp only
        rw [hsame]
        exact ⟨hl, hw⟩
  exact (hinv.2 q hq).2

open Sample in
/-- A reservation whose first attempt meets a conflict, settled by the SDK at 5 and rated
    at 3 after another reservation. -/
theorem hard_limit_with_a_retry :
    let events := serially [known, saveDaily 10] ++
      [.submit fun _ => create 7 "call-1" 5 1000, .attempt 0 true, .attempt 0 false] ++
      serially [settle 7 "tpur1.7" 5 2000, create 8 "call-2" 1 3000, rate 7 firstEvent (some 3) 4000]
    let s := ((server service).run .empty events).store
    s.quotas.rows.map (fun q => (q.consumedAiuMicros, q.reservedAiuMicros, q.limitAiuMicros)) = [(3, 1, 10)] ∧
      ∀ q ∈ s.quotas.rows, q.enabled = true → q.hardLimit = true →
        q.consumedAiuMicros + q.reservedAiuMicros ≤ q.limitAiuMicros + raised s.ledger.rows q.id :=
  ⟨by decide +kernel, hard_limit_exceeded_only_by_reconciliation service _ (by decide +kernel)⟩

open Sample in
/-- With a limit of 5, a reservation of 5 is settled at 2, one of 3 is granted, and the
    worker rates the first at 5. Every settlement is within its reservation. -/
theorem reconciliation_exceeds_the_limit :
    let events := serially [known, saveDaily 5, create 7 "call-1" 5 1000, settle 7 "tpur1.7" 2 2000,
      create 8 "call-2" 3 3000, rate 7 firstEvent (some 5) 4000]
    (server service).Guarded (OrderlyEvent service) .empty events ∧
      ¬ ∀ q ∈ ((server service).run .empty events).store.quotas.rows, q.enabled = true → q.hardLimit = true →
        q.consumedAiuMicros + q.reservedAiuMicros ≤ q.limitAiuMicros := by
  decide +kernel

end TokenPilot.Quota
