/-
  TokenPilot.Quota.Reapplication — `applyUserAiu` called again for the same event.

  The first call for an event with a reservation leaves the reservation settled at the
  rated amount (`applyUserAiu_settles`), and a later one that finds it there changes
  nothing; the first call for an event without a reservation leaves a `consume` entry, and
  a later one finds that. `run_settled_kept` and `run_taken` say what stays through a run:
  a settled reservation keeps its amount unless another event is applied to it, and a
  ledger key that is used stays used (`applied_after_run`). `applyUserAiu_again` is the
  second call, and `applyUserAiu_applied` says that nothing else leaves the store as it is.
-/

import TokenPilot.Quota.Outcomes

namespace TokenPilot.Quota

open TokenPilot.Library

variable {settings : ReservationSettings}

/-! ## What the first application leaves -/

/-- The reservation is settled at the amount. -/
def SettledAt (s : QuotaStore) (r : UserAiuReservation) (amount : Int) : Prop :=
  ∃ r' ∈ s.reservations.rows, r'.terms = r.terms ∧ r'.status = .settled ∧ r'.settledAiuMicros = amount

theorem applyUserAiu_settles {s s' : QuotaStore} {call : AiuCall} {c : Option UserAiuConsumption} {id : Uuid}
    (hl : Linked s) (hid : call.reservationId = some id) (h : applyUserAiu s call = .ok (c, s')) :
    ∃ r ∈ s.reservations.rows, (r.id = id ∧ r.applicationId = call.applicationId ∧ r.userId = call.userId) ∧
      SettledAt s' r call.settled := by
  unfold applyUserAiu at h
  rw [hid] at h
  dsimp only at h
  split at h
  · cases h
  rename_i r hr
  split at h
  · cases h
  rename_i quota hquota
  obtain ⟨hmem, hp⟩ := Table.find?_mem hr
  simp only [Bool.and_eq_true, beq_iff_eq] at hp
  obtain ⟨⟨ha, hrid⟩, hu⟩ := hp
  obtain ⟨hq, hof⟩ := hl.of_quotaById hmem hquota
  refine ⟨r, hmem, ⟨hrid, ha, hu⟩, ?_⟩
  -- a row that was written at the rated amount
  have hwritten : ∀ {m : Move}, m.Applies s s' → m.change.reservations m.quota s.reservations.rows =
      replace r (r.written (.settled, call.settled)) s.reservations.rows → SettledAt s' r call.settled := by
    intro m happ hrows
    refine ⟨r.written (.settled, call.settled), ?_, rfl, rfl, rfl⟩
    rw [happ.reservations, hrows]
    exact (mem_replace hmem).mpr (Or.inl rfl)
  split at h
  · rename_i hst
    rcases reconcileSettled_moves hmem ha hq hof hst h with ⟨hsame, rfl⟩ | ⟨m, hm, -, happ⟩
    · exact ⟨r, hmem, rfl, hst, hsame⟩
    · exact hwritten happ (by rw [hm]; rfl)
  · rename_i hst
    obtain ⟨m, hm, -, happ⟩ := settleReserved_moves hmem ha hq hof hst h
    exact hwritten happ (by rw [hm]; rfl)
  · cases h

/-! ## What a run leaves -/

/-- A settled reservation stays settled; only a reconciliation changes its amount. -/
theorem Change.settled_kept {s : QuotaStore} {c : Change} {q : UserAiuQuota} (hg : c.Guard s q)
    {r : UserAiuReservation} (hr : r ∈ s.reservations.rows) (hst : r.status = .settled) :
    ∃ r' ∈ c.reservations q s.reservations.rows, r'.terms = r.terms ∧ r'.status = .settled ∧
      (r'.settledAiuMicros = r.settledAiuMicros ∨ ∃ event, c = .reconcile r r'.settledAiuMicros event) := by
  have hsame : ∀ {x : UserAiuReservation} {data : AiuReservationStatus × Int}, x.status ≠ .settled →
      r ∈ replace x (x.written data) s.reservations.rows := by
    intro x data hx
    refine List.mem_map.mpr ⟨r, hr, if_neg ?_⟩
    rintro rfl
    exact hx hst
  cases c with
  | renew closed =>
    cases closed with
    | none => exact ⟨r, hr, rfl, hst, Or.inl rfl⟩
    | some status =>
      refine ⟨r, List.mem_map.mpr ⟨r, hr, if_neg ?_⟩, rfl, hst, Or.inl rfl⟩
      simp [Change.isOpenOf, hst]
  | reserve x => exact ⟨r, List.mem_append_left _ hr, rfl, hst, Or.inl rfl⟩
  | close x status => exact ⟨r, hsame (by rw [hg.2.2.2.1]; decide), rfl, hst, Or.inl rfl⟩
  | settle x amount event => exact ⟨r, hsame (by rw [hg.2.2.2.1]; decide), rfl, hst, Or.inl rfl⟩
  | reconcile x amount event =>
    by_cases hx : r = x
    · subst hx
      exact ⟨r.written (.settled, amount), (mem_replace hr).mpr (Or.inl rfl), rfl, rfl, Or.inr ⟨event, rfl⟩⟩
    · exact ⟨r, (mem_replace hg.2.1).mpr (Or.inr ⟨hr, hx⟩), rfl, hst, Or.inl rfl⟩
  | _ => exact ⟨r, hr, rfl, hst, Or.inl rfl⟩

/-- The operation applies no event to the reservation at another amount. -/
def Leaves (id : Uuid) (amount : Int) : Op → Prop
  | .applyUserAiu call => call.reservationId = some id → call.settled = amount
  | _ => True

theorem Moves.settled_kept {s s' : QuotaStore} {ms : List Move} (h : Moves s ms s') {r : UserAiuReservation}
    {amount : Int} (hr : SettledAt s r amount)
    (hms : ∀ m ∈ ms, ∀ x a event, m.change = .reconcile x a event → x.id = r.id → a = amount) :
    SettledAt s' r amount := by
  induction h with
  | nil hs =>
    obtain ⟨r', hr', hrest⟩ := hr
    exact ⟨r', by rw [hs.reservations]; exact hr', hrest⟩
  | cons ha _ ih =>
    refine ih ?_ fun m hm => hms m (List.mem_cons_of_mem _ hm)
    obtain ⟨r₁, hr₁, ht₁, hst₁, hamount₁⟩ := hr
    obtain ⟨r', hr', ht', hst', hamount⟩ := Change.settled_kept ha.guard hr₁ hst₁
    rw [← ha.reservations] at hr'
    refine ⟨r', hr', ht'.trans ht₁, hst', ?_⟩
    rcases hamount with hamount | ⟨event, hc⟩
    · exact hamount.trans hamount₁
    · exact hms _ List.mem_cons_self _ _ _ hc (terms_id ht₁)

/-- An operation that leaves the reservation alone makes no reconciliation of it. -/
theorem Leaves.reconcile {op : Op} {id : Uuid} {amount : Int} (hop : Leaves id amount op) {x : UserAiuReservation}
    {a : Int} {event : String} (hm : op.Makes (.reconcile x a event)) (hx : x.id = id) : a = amount := by
  cases op with
  | applyUserAiu call =>
    rcases hm with ⟨y, hid, -, -, hc | hc⟩ | ⟨-, actual, -, hc⟩
    · cases hc
    · cases hc
      exact hop (by rw [hid, hx])
    · cases hc
  | transition call =>
    obtain ⟨y, -, -, hc⟩ := hm
    cases hact : call.action with
    | settle actual => rw [hact] at hc; cases hc
    | release reason => rw [hact] at hc; cases hc
  | create call => rcases hm with hm | ⟨y, hm⟩ <;> cases hm
  | materialize call => cases hm
  | save call => rcases hm with hm | hm <;> cases hm
  | reset call => cases hm
  | expire call => obtain ⟨y, -, hm⟩ := hm; cases hm
  | _ => exact False.elim hm

theorem run_settled_kept {s : QuotaStore} (hl : Linked s) {r : UserAiuReservation} {amount : Int}
    (hr : SettledAt s r amount) (ops : List Op) (hops : ∀ op ∈ ops, Leaves r.id amount op) :
    SettledAt ((system settings).run s ops) r amount := by
  induction ops generalizing s with
  | nil => exact hr
  | cons op ops ih =>
    have hrest : ∀ op ∈ ops, Leaves r.id amount op := fun o ho => hops o (List.mem_cons_of_mem _ ho)
    rw [Machine.run_cons]
    rcases (system settings).step_cases s op with ⟨o, h⟩ | h
    · obtain ⟨ms, hms, hmakes, -⟩ := exec_moves hl h
      refine ih (hms.linked hl) (Moves.settled_kept hms hr ?_) hrest
      intro m hm x a event hc hx
      exact Leaves.reconcile (hops op List.mem_cons_self) (hc ▸ hmakes m hm) hx
    · rw [h]
      exact ih hl hr hrest

theorem SettledAt.eq {s : QuotaStore} {r : UserAiuReservation} {amount amount' : Int} (h : SettledAt s r amount)
    (h' : ∀ x ∈ s.reservations.rows, x.id = r.id → x.settledAiuMicros = amount') : SettledAt s r amount' := by
  obtain ⟨x, hx, ht, hst, -⟩ := h
  exact ⟨x, hx, ht, hst, h' x hx (terms_id ht)⟩

variable (settings) in
/-- A settled reservation is settled after any run, at some amount. -/
theorem run_settled {s : QuotaStore} (hl : Linked s) {r : UserAiuReservation} {amount : Int}
    (h : SettledAt s r amount) (ops : List Op) : ∃ amount', SettledAt ((system settings).run s ops) r amount' := by
  obtain ⟨x, hx, ht, hst, -⟩ := h
  obtain ⟨x', hx', ht', hst'⟩ := run_reservation_kept settings hl hx ops
  exact ⟨_, x', hx', ht'.trans ht, (hst' (by rw [hst]; decide)).trans hst, rfl⟩

/-- The ledger only grows. -/
theorem Moves.taken {s s' : QuotaStore} {ms : List Move} (h : Moves s ms s') {applicationId : Uuid} {key : LedgerKey}
    (ht : s.Taken applicationId key) : s'.Taken applicationId key := by
  induction h with
  | nil hs =>
    obtain ⟨e, he, hrest⟩ := ht
    exact ⟨e, by rw [hs.ledger]; exact he, hrest⟩
  | cons ha _ ih =>
    obtain ⟨e, he, hrest⟩ := ht
    exact ih ⟨e, by rw [ha.ledger]; exact List.mem_append_left _ he, hrest⟩

variable (settings) in
theorem run_taken {s : QuotaStore} (hl : Linked s) {applicationId : Uuid} {key : LedgerKey}
    (ht : s.Taken applicationId key) (ops : List Op) : ((system settings).run s ops).Taken applicationId key := by
  refine (Machine.run_invariant (m := system settings) (P := fun x => Linked x ∧ x.Taken applicationId key) ?_ ops s
    ⟨hl, ht⟩).2
  intro x op answer x' hyp hexec
  obtain ⟨hlx, htx⟩ := hyp
  obtain ⟨ms, hms, -, -⟩ := exec_moves hlx hexec
  exact ⟨hms.linked hlx, hms.taken htx⟩

/-! ## The second application -/

/-- Nothing is left to apply: the reservation is settled at the amount, or, without one, the
    consumption is on record, the event is not rated, or the user has no enabled quota. -/
def Applied (s : QuotaStore) (call : AiuCall) : Prop :=
  match call.reservationId with
  | some id => ∃ r : UserAiuReservation,
      (r.id = id ∧ r.applicationId = call.applicationId ∧ r.userId = call.userId) ∧ SettledAt s r call.settled
  | none => call.actual = none ∨ s.Taken call.applicationId (.usageConsume call.eventId) ∨
      ∀ quota, s.quotaOf call.applicationId call.userId = some quota → quota.enabled = false

theorem applyUserAiu_again {s : QuotaStore} {call : AiuCall} (hl : Linked s) (h : Applied s call) :
    ∃ c, applyUserAiu s call = .ok (c, s) := by
  unfold Applied at h
  split at h
  · rename_i id hid
    obtain ⟨r₀, ⟨hrid, ha, hu⟩, r, hr, ht, hst, hamount⟩ := h
    obtain ⟨hid', ha', hu', -⟩ := terms_fields ht
    obtain ⟨quota, hq, hof⟩ := hl.reservation r hr
    rw [applyUserAiu_reserved hr (by rw [hid, hid', hrid]) (ha'.trans ha) (hu'.trans hu) hq hof, hst]
    exact ⟨_, reconcileSettled_same hamount⟩
  · rename_i hid
    unfold applyUserAiu
    simp only [hid]
    split
    · exact ⟨none, rfl⟩
    rename_i actual hactual
    split
    · exact ⟨none, rfl⟩
    rename_i quota hquota
    split
    · rename_i hen
      unfold consumeUnreserved
      split
      · exact ⟨_, rfl⟩
      · rename_i hnone
        rcases h with h | ⟨e, he, hea, hek⟩ | h
        · rw [h] at hactual
          cases hactual
        · have := List.find?_eq_none.mp hnone e he
          simp [hea, hek] at this
        · rw [h quota hquota] at hen
          cases hen
    · exact ⟨none, rfl⟩

/-- A call that returned found nothing left to apply, or made a move. -/
theorem applyUserAiu_applied {s s' : QuotaStore} {call : AiuCall} {c : Option UserAiuConsumption} (hl : Linked s)
    (h : applyUserAiu s call = .ok (c, s')) : Applied s call ∨ ∃ m : Move, m.Applies s s' := by
  rcases applyUserAiu_moves hl h with rfl | ⟨m, -, happ⟩
  swap
  · exact Or.inr ⟨m, happ⟩
  left
  unfold Applied
  cases hid : call.reservationId with
  | some id =>
    obtain ⟨r, -, hr, hsettled⟩ := applyUserAiu_settles hl hid h
    exact ⟨r, hr, hsettled⟩
  | none =>
    dsimp only
    unfold applyUserAiu at h
    simp only [hid] at h
    split at h
    · exact Or.inl ‹_›
    split at h
    · rename_i hnone
      exact Or.inr (Or.inr fun quota hquota => by rw [hnone] at hquota; cases hquota)
    rename_i quota hquota
    split at h
    · rename_i hen
      unfold consumeUnreserved at h
      split at h
      · rename_i e he
        obtain ⟨hmem, hkey⟩ := Table.find?_mem he
        simp only [Bool.and_eq_true, beq_iff_eq] at hkey
        exact Or.inr (Or.inl ⟨e, hmem, hkey⟩)
      · -- a consumption would have been recorded
        obtain ⟨⟨s₁, n⟩, h₁, h⟩ := bind_ok h
        obtain ⟨_, hn, h⟩ := bind_ok h
        obtain ⟨s₂, h₂, h⟩ := bind_ok h
        cases h
        obtain ⟨hmem, -, -⟩ := QuotaStore.quotaOf_mem hquota
        obtain ⟨-, quotas, rfl, -⟩ := QuotaStore.updateQuota_ok h₁ hmem
          (by simp only [Bool.and_eq_true, beq_iff_eq]; exact fun x hx => hx.1.2) (Or.inl (require_ok hn))
        obtain ⟨-, ledger, hs', he⟩ := QuotaStore.insertLedgerEntry_ok h₂
        have hlen := congrArg (fun x : QuotaStore => x.ledger.rows.length) hs'
        simp [he] at hlen
    · rename_i hen
      refine Or.inr (Or.inr fun q hq => ?_)
      rw [hquota] at hq
      cases hq
      exact Bool.eq_false_iff.mpr hen

variable (settings) in
/-- What a call applied is still applied after a run (`ops`) and a policy step (`ms`), if the
    run left the reservation alone or it is back at the amount; without a reservation, if
    the consumption was recorded or there is still nothing to consume it from. -/
theorem applied_after_run {s₀ s₁ s : QuotaStore} {call : AiuCall} {c : Option UserAiuConsumption} (hl₀ : Linked s₀)
    (hfirst : applyUserAiu s₀ call = .ok (c, s₁)) (ops : List Op) {ms : List Move}
    (hms : Moves ((system settings).run s₁ ops) ms s) (hconf : ∀ m ∈ ms, m.change.configures = true)
    (hkept : match call.reservationId with
      | some id => (∀ op ∈ ops, Leaves id call.settled op) ∨
          ∀ r ∈ s.reservations.rows, r.id = id → r.settledAiuMicros = call.settled
      | none => call.actual = none ∨ s₁.Taken call.applicationId (.usageConsume call.eventId) ∨
          ∀ quota, s.quotaOf call.applicationId call.userId = some quota → quota.enabled = false) : Applied s call := by
  have hl₁ : Linked s₁ := by
    rcases applyUserAiu_moves hl₀ hfirst with rfl | ⟨m, -, happ⟩
    · exact hl₀
    · exact hl₀.move happ
  -- the policy step reconciles nothing
  have hpolicy : ∀ {r amount}, SettledAt ((system settings).run s₁ ops) r amount → SettledAt s r amount := by
    intro r amount hr
    refine hms.settled_kept hr ?_
    intro m hm x a event hc
    have := hconf m hm
    rw [hc] at this
    cases this
  unfold Applied
  cases hid : call.reservationId with
  | some id =>
    rw [hid] at hkept
    obtain ⟨r, -, hr, hsettled⟩ := applyUserAiu_settles hl₀ hid hfirst
    refine ⟨r, hr, ?_⟩
    rcases hkept with hops | hall
    · exact hpolicy (run_settled_kept hl₁ hsettled ops (by rw [hr.1]; exact hops))
    · obtain ⟨amount, hrun⟩ := run_settled settings hl₁ hsettled ops
      exact (hpolicy hrun).eq (by rw [hr.1]; exact hall)
  | none =>
    rw [hid] at hkept
    rcases hkept with h | h | h
    · exact Or.inl h
    · exact Or.inr (Or.inl (hms.taken (run_taken settings hl₁ h ops)))
    · exact Or.inr (Or.inr h)

end TokenPilot.Quota
