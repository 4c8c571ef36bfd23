/-
  TokenPilot.Quota.Moves — what a transaction can do to the quota tables, said once.

  Every write of the services is one of eight changes to one quota: its row appears
  (`grant`), gets new settings (`settings`), starts a period from zero (`renew`), or
  takes an amount for a reservation or an event (`reserve`, `close`, `settle`,
  `reconcile`, `consume`). A `Move` is such a change with the row before and after and
  the ledger entry written for it, and carries the proof that they agree. A
  transaction is a list of moves (`Moves`); the operations are shown to be such lists in
  `TokenPilot.Quota.Effects`, and every invariant is a fact about one move.

  `Linked` is what the foreign keys promise: a reservation and a ledger entry belong to
  a quota of the same application and user. `Moves.invariant` carries a property of
  linked stores through a transaction.
-/

import TokenPilot.Quota.System

namespace TokenPilot.Quota

open TokenPilot.Library

/-- The reservation is one of the quota's. -/
def UserAiuReservation.Of (r : UserAiuReservation) (q : UserAiuQuota) : Prop :=
  r.quotaId = q.id ∧ r.applicationId = q.applicationId ∧ r.userId = q.userId

inductive Change where
  | grant
  | settings
  /-- A new period; what was open is closed with the status, unless nothing was reserved. -/
  | renew (closed : Option AiuReservationStatus)
  | reserve (r : UserAiuReservation)
  | close (r : UserAiuReservation) (status : AiuReservationStatus)
  /-- By the SDK, or by the worker for an event. -/
  | settle (r : UserAiuReservation) (amount : Int) (event : Option String)
  | reconcile (r : UserAiuReservation) (amount : Int) (event : String)
  | consume (amount : Int) (event : String)

/-- The keys of the entries that are for no reservation and no event. -/
def LedgerKey.configures : LedgerKey → Bool
  | .userQuotaPeriod _ _ | .quotaPolicy _ _ _ | .quotaSetting _ | .quotaReset _ | .groupQuotaReset _ _ _ => true
  | _ => false

namespace Change

def consumed : Change → Int → Int
  | .renew _, _ => 0
  | .settle _ amount _, c => c + amount
  | .reconcile r amount _, c => c + (amount - r.settledAiuMicros)
  | .consume amount _, c => c + amount
  | _, c => c

def reserved : Change → Int → Int
  | .renew _, _ => 0
  | .reserve r, v => v + r.reservedAiuMicros
  | .close r _, v => v - r.reservedAiuMicros
  | .settle r _ _, v => v - r.reservedAiuMicros
  | _, v => v

def isOpenOf (q : UserAiuQuota) (r : UserAiuReservation) : Bool := r.quotaId == q.id && r.status == .reserved

def reservations (q : UserAiuQuota) (l : List UserAiuReservation) : Change → List UserAiuReservation
  | .renew (some status) => l.map (Table.rewrite (isOpenOf q) fun r => r.written (status, r.settledAiuMicros))
  | .reserve r => l ++ [r]
  | .close r status => replace r (r.written (status, r.settledAiuMicros)) l
  | .settle r amount _ => replace r (r.written (.settled, amount)) l
  | .reconcile r amount _ => replace r (r.written (.settled, amount)) l
  | _ => l

def quotas (q q' : UserAiuQuota) (l : List UserAiuQuota) : Change → List UserAiuQuota
  | .grant => l ++ [q']
  | _ => replace q q' l

/-- The changes that may set anything but the counters. -/
def configures : Change → Bool
  | .grant | .settings | .renew _ => true
  | _ => false

/-- The changes that move the consumed counter by an amount. -/
def spends : Change → Bool
  | .settle _ _ _ | .reconcile _ _ _ | .consume _ _ => true
  | _ => false

/-- The row a change touches is there (a granted one is not), and so is its reservation. -/
def Guard (s : QuotaStore) (q : UserAiuQuota) : Change → Prop
  | .grant => (∀ x ∈ s.quotas.rows, Row.clash x q = false) ∧ q.consumedAiuMicros = 0 ∧ q.reservedAiuMicros = 0
  | .settings => q ∈ s.quotas.rows
  | .renew closed => q ∈ s.quotas.rows ∧ (closed = none → q.reservedAiuMicros = 0) ∧
      ∀ status, closed = some status → status = .released ∨ status = .expired
  | .reserve r => q ∈ s.quotas.rows ∧ (∀ x ∈ s.reservations.rows, Row.clash x r = false) ∧ r.Of q ∧
      r.status = .reserved ∧ r.settledAiuMicros = 0 ∧
      q.enabled = true ∧ q.hardLimit = true ∧ r.reservedAiuMicros ≤ remainingAiu q
  | .close r status => q ∈ s.quotas.rows ∧ r ∈ s.reservations.rows ∧ r.Of q ∧ r.status = .reserved ∧
      (status = .released ∨ status = .expired)
  | .settle r amount _ => q ∈ s.quotas.rows ∧ r ∈ s.reservations.rows ∧ r.Of q ∧ r.status = .reserved ∧ 0 ≤ amount
  | .reconcile r amount _ => q ∈ s.quotas.rows ∧ r ∈ s.reservations.rows ∧ r.Of q ∧ r.status = .settled ∧
      amount ≠ r.settledAiuMicros ∧ 0 ≤ amount
  | .consume amount _ => q ∈ s.quotas.rows ∧ q.enabled = true ∧ 0 ≤ amount

/-! What the ledger entry of a change says about it. -/

def entryTypes : Change → List AiuLedgerEntryType
  | .grant | .settings => [.grant]
  | .renew _ => [.grant, .expire, .adjustment]
  | .reserve _ => [.reserve]
  | .close _ _ => [.reservationRelease, .expire]
  | .settle _ _ _ | .reconcile _ _ _ => [.settlementDelta]
  | .consume _ _ => [.consume]

def sourceReservationId : Change → Option Uuid
  | .reserve r | .close r _ | .settle r _ _ | .reconcile r _ _ => some r.id
  | _ => none

def sourceEventId : Change → Option String
  | .settle _ _ event => event
  | .reconcile _ _ event | .consume _ event => some event
  | _ => none

def keyed : Change → LedgerKey → Bool
  | .grant, k | .settings, k | .renew _, k => k.configures
  | .reserve r, k => k == .reservationReserve r.id
  | .close r _, k => k == .reservationRelease r.id || k == .reservationExpire r.id
  | .settle r _ none, k => k == .reservationSettle r.id
  | .settle _ _ (some event), k => k == .usageSettle event
  | .reconcile _ _ event, k => k == .usageReconciliation event
  | .consume _ event, k => k == .usageConsume event

end Change

/-- The ledger entry of a change from `q` to `q'`: whose it is, by how much the counters
    moved, and what they are now. -/
structure Recorded (change : Change) (q q' : UserAiuQuota) (e : UserAiuLedgerEntry) : Prop where
  applicationId : e.applicationId = q.applicationId
  quotaId : e.quotaId = q.id
  entryType : e.entryType ∈ change.entryTypes
  sourceReservationId : e.sourceReservationId = change.sourceReservationId
  sourceEventId : e.sourceEventId = change.sourceEventId
  key : change.keyed e.idempotencyKey = true
  consumedDelta : e.consumedDeltaMicros = q'.consumedAiuMicros - q.consumedAiuMicros
  reservedDelta : e.reservedDeltaMicros = q'.reservedAiuMicros - q.reservedAiuMicros
  consumedAfter : e.consumedAfterMicros = q'.consumedAiuMicros
  reservedAfter : e.reservedAfterMicros = q'.reservedAiuMicros
  limitAfter : e.limitAfterMicros = q'.limitAiuMicros

structure Move where
  change : Change
  /-- The row before; of a `grant`, the row itself. -/
  quota : UserAiuQuota
  next : UserAiuQuota
  entry : UserAiuLedgerEntry
  same : next.id = quota.id ∧ next.applicationId = quota.applicationId ∧ next.userId = quota.userId
  consumed : next.consumedAiuMicros = change.consumed quota.consumedAiuMicros
  reserved : next.reservedAiuMicros = change.reserved quota.reservedAiuMicros
  /-- A change that configures nothing moves the counters only. -/
  rest : change.configures = false → next = { quota with
    consumedAiuMicros := next.consumedAiuMicros
    reservedAiuMicros := next.reservedAiuMicros
    lockVersion := quota.lockVersion + 1 }
  recorded : Recorded change quota next entry

structure Move.Applies (m : Move) (s s' : QuotaStore) : Prop where
  guard : m.change.Guard s m.quota
  quotas : s'.quotas.rows = m.change.quotas m.quota m.next s.quotas.rows
  reservations : s'.reservations.rows = m.change.reservations m.quota s.reservations.rows
  ledger : s'.ledger.rows = s.ledger.rows ++ [m.entry]

/-- A move from what the statements of a transaction did. -/
theorem Move.exists_applies (s s' : QuotaStore) (c : Change) {q q' : UserAiuQuota} {e : UserAiuLedgerEntry}
    (guard : c.Guard s q) (hq : s'.quotas.rows = c.quotas q q' s.quotas.rows)
    (hr : s'.reservations.rows = c.reservations q s.reservations.rows) (he : s'.ledger.rows = s.ledger.rows ++ [e])
    (same : q'.id = q.id ∧ q'.applicationId = q.applicationId ∧ q'.userId = q.userId)
    (consumed : q'.consumedAiuMicros = c.consumed q.consumedAiuMicros)
    (reserved : q'.reservedAiuMicros = c.reserved q.reservedAiuMicros)
    (rest : c.configures = false → q' = { q with
      consumedAiuMicros := q'.consumedAiuMicros
      reservedAiuMicros := q'.reservedAiuMicros
      lockVersion := q.lockVersion + 1 })
    (recorded : Recorded c q q' e) :
    ∃ m : Move, m.change = c ∧ m.quota = q ∧ m.next = q' ∧ m.entry = e ∧ m.Applies s s' :=
  ⟨⟨c, q, q', e, same, consumed, reserved, rest, recorded⟩, rfl, rfl, rfl, rfl, guard, hq, hr, he⟩

/-- The stores hold the same quotas, reservations and ledger. -/
structure SameRecords (s s' : QuotaStore) : Prop where
  quotas : s'.quotas.rows = s.quotas.rows
  reservations : s'.reservations.rows = s.reservations.rows
  ledger : s'.ledger.rows = s.ledger.rows

theorem SameRecords.refl (s : QuotaStore) : SameRecords s s := ⟨rfl, rfl, rfl⟩

theorem SameRecords.trans {s s' s'' : QuotaStore} (h : SameRecords s s') (h' : SameRecords s' s'') :
    SameRecords s s'' :=
  ⟨h'.quotas.trans h.quotas, h'.reservations.trans h.reservations, h'.ledger.trans h.ledger⟩

inductive Moves : QuotaStore → List Move → QuotaStore → Prop
  | nil {s s'} : SameRecords s s' → Moves s [] s'
  | cons {s s₁ s' m ms} : m.Applies s s₁ → Moves s₁ ms s' → Moves s (m :: ms) s'

/-- A reservation or a ledger entry is of a quota of the same application (and user). -/
structure Linked (s : QuotaStore) : Prop where
  reservation : ∀ r ∈ s.reservations.rows, ∃ q ∈ s.quotas.rows, r.Of q
  entry : ∀ e ∈ s.ledger.rows, ∃ q ∈ s.quotas.rows, e.quotaId = q.id ∧ e.applicationId = q.applicationId

/-! ## Rows after a move -/

section Applies

variable {m : Move} {s s' : QuotaStore}

theorem Change.Guard.mem {c : Change} {q : UserAiuQuota} (h : c.Guard s q) (hc : c ≠ .grant) : q ∈ s.quotas.rows := by
  cases c with
  | grant => exact absurd rfl hc
  | settings => exact h
  | _ => exact h.1

theorem Move.Applies.quota_iff (h : m.Applies s s') {x : UserAiuQuota} :
    x ∈ s'.quotas.rows ↔ x = m.next ∨ (x ∈ s.quotas.rows ∧ x.id ≠ m.quota.id) := by
  rw [h.quotas]
  by_cases hc : m.change = .grant
  · have hg := h.guard
    rw [hc] at hg ⊢
    have hne : x ∈ s.quotas.rows → x.id ≠ m.quota.id := by
      intro hx he
      have := hg.1 x hx
      simp [Row.clash, he] at this
    simp only [Change.quotas, List.mem_append, List.mem_singleton]
    constructor
    · rintro (hx | hx)
      · exact Or.inr ⟨hx, hne hx⟩
      · exact Or.inl hx
    · rintro (hx | hx)
      · exact Or.inr hx
      · exact Or.inl hx.1
  · have hq := h.guard.mem hc
    have hrows : m.change.quotas m.quota m.next s.quotas.rows = replace m.quota m.next s.quotas.rows := by
      cases hm : m.change with
      | grant => exact absurd hm hc
      | _ => rfl
    rw [hrows, mem_replace hq]
    refine or_congr Iff.rfl (and_congr_right fun hx => ?_)
    constructor
    · intro hne he
      exact hne (QuotaStore.quota_eq_of_id hx hq he)
    · rintro hne rfl
      exact hne rfl

theorem Move.Applies.next_mem (h : m.Applies s s') : m.next ∈ s'.quotas.rows := h.quota_iff.mpr (Or.inl rfl)

theorem Move.Applies.quota_kept (h : m.Applies s s') {q : UserAiuQuota} (hq : q ∈ s.quotas.rows) :
    ∃ q' ∈ s'.quotas.rows, q'.id = q.id ∧ q'.applicationId = q.applicationId ∧ q'.userId = q.userId := by
  by_cases hid : q.id = m.quota.id
  · refine ⟨m.next, h.next_mem, ?_⟩
    by_cases hc : m.change = .grant
    · have hg := h.guard
      rw [hc] at hg
      have := hg.1 q hq
      simp [Row.clash, hid] at this
    · rw [QuotaStore.quota_eq_of_id hq (h.guard.mem hc) hid]
      exact m.same
  · exact ⟨q, h.quota_iff.mpr (Or.inr ⟨hq, hid⟩), rfl, rfl, rfl⟩

/-- What no writer changes once the reservation is there. -/
def UserAiuReservation.terms (r : UserAiuReservation) : UserAiuReservation :=
  { r with status := .reserved, settledAiuMicros := 0, lockVersion := 0 }

theorem Change.reservations_origin {c : Change} {q : UserAiuQuota} {l : List UserAiuReservation}
    {r' : UserAiuReservation} (h : r' ∈ c.reservations q l) : (∃ r ∈ l, r'.terms = r.terms) ∨ c = .reserve r' := by
  have hmap : ∀ {g : UserAiuReservation → UserAiuReservation}, (∀ r, (g r).terms = r.terms) → r' ∈ l.map g →
      ∃ r ∈ l, r'.terms = r.terms := by
    intro g hg hr'
    obtain ⟨r, hr, rfl⟩ := List.mem_map.mp hr'
    exact ⟨r, hr, hg r⟩
  have hone : ∀ {r : UserAiuReservation} {data}, r' ∈ replace r (r.written data) l →
      ∃ r ∈ l, r'.terms = r.terms := by
    intro r data hr'
    refine hmap (fun x => ?_) hr'
    split
    · rename_i hx; rw [hx]; rfl
    · rfl
  cases c with
  | renew closed =>
    cases closed with
    | none => exact Or.inl ⟨r', h, rfl⟩
    | some status =>
      refine Or.inl (hmap (fun r => ?_) h)
      unfold Table.rewrite
      split <;> rfl
  | reserve r =>
    rcases List.mem_append.mp h with h | h
    · exact Or.inl ⟨r', h, rfl⟩
    · rw [List.mem_singleton] at h
      exact Or.inr (by rw [h])
  | close r status => exact Or.inl (hone h)
  | settle r amount event => exact Or.inl (hone h)
  | reconcile r amount event => exact Or.inl (hone h)
  | _ => exact Or.inl ⟨r', h, rfl⟩

/-- A reservation stays, on its terms; once it is not open its status stays too. -/
theorem Change.reservations_kept {c : Change} {q : UserAiuQuota} (hg : c.Guard s q) {r : UserAiuReservation}
    (hr : r ∈ s.reservations.rows) : ∃ r' ∈ c.reservations q s.reservations.rows,
      r'.terms = r.terms ∧ (r.status ≠ .reserved → r'.status = r.status) := by
  have hone : ∀ {x : UserAiuReservation} {data : AiuReservationStatus × Int},
      (x.status ≠ .reserved → data.1 = x.status) → ∃ r' ∈ replace x (x.written data) s.reservations.rows,
        r'.terms = r.terms ∧ (r.status ≠ .reserved → r'.status = r.status) := by
    intro x data hx
    refine ⟨if r = x then x.written data else r, List.mem_map.mpr ⟨r, hr, rfl⟩, ?_⟩
    split
    · rename_i hrx
      subst hrx
      exact ⟨rfl, hx⟩
    · exact ⟨rfl, fun _ => rfl⟩
  cases c with
  | renew closed =>
    cases closed with
    | none => exact ⟨r, hr, rfl, fun _ => rfl⟩
    | some status =>
      refine ⟨_, List.mem_map.mpr ⟨r, hr, rfl⟩, ?_⟩
      unfold Table.rewrite Change.isOpenOf
      split
      · rename_i hopen
        simp only [Bool.and_eq_true, beq_iff_eq] at hopen
        exact ⟨rfl, fun hne => absurd hopen.2 hne⟩
      · exact ⟨rfl, fun _ => rfl⟩
  | reserve x => exact ⟨r, List.mem_append_left _ hr, rfl, fun _ => rfl⟩
  | close x status => exact hone fun hne => absurd hg.2.2.2.1 hne
  | settle x amount event => exact hone fun hne => absurd hg.2.2.2.1 hne
  | reconcile x amount event => exact hone fun _ => hg.2.2.2.1.symm
  | _ => exact ⟨r, hr, rfl, fun _ => rfl⟩

theorem UserAiuReservation.Of.of_terms {r r' : UserAiuReservation} {q : UserAiuQuota} (h : r.Of q)
    (ht : r'.terms = r.terms) : r'.Of q := by
  simp only [UserAiuReservation.terms, UserAiuReservation.mk.injEq] at ht
  exact ⟨ht.2.2.2.1.trans h.1, ht.2.1.trans h.2.1, ht.2.2.1.trans h.2.2⟩

theorem terms_id {r r' : UserAiuReservation} (h : r'.terms = r.terms) : r'.id = r.id := congrArg (·.id) h

theorem terms_fields {r r' : UserAiuReservation} (h : r'.terms = r.terms) :
    r'.id = r.id ∧ r'.applicationId = r.applicationId ∧ r'.userId = r.userId ∧ r'.quotaId = r.quotaId :=
  ⟨congrArg (·.id) h, congrArg (·.applicationId) h, congrArg (·.userId) h, congrArg (·.quotaId) h⟩

/-! ## Linked stores -/

theorem Linked.of_id {s : QuotaStore} (hl : Linked s) {r : UserAiuReservation} (hr : r ∈ s.reservations.rows)
    {q : UserAiuQuota} (hq : q ∈ s.quotas.rows) (hid : r.quotaId = q.id) : r.Of q := by
  obtain ⟨q', hq', hof⟩ := hl.reservation r hr
  rw [QuotaStore.quota_eq_of_id hq hq' (hid.symm.trans hof.1)]
  exact hof

theorem Linked.move (hl : Linked s) (h : m.Applies s s') : Linked s' := by
  have hnext := h.next_mem
  constructor
  · intro r' hr'
    rw [h.reservations] at hr'
    rcases Change.reservations_origin hr' with ⟨r, hr, ht⟩ | hc
    · obtain ⟨q, hq, hof⟩ := hl.reservation r hr
      obtain ⟨q', hq', hid, ha, hu⟩ := h.quota_kept hq
      refine ⟨q', hq', UserAiuReservation.Of.of_terms ?_ ht⟩
      exact ⟨hof.1.trans hid.symm, hof.2.1.trans ha.symm, hof.2.2.trans hu.symm⟩
    · have hg := h.guard
      rw [hc] at hg
      obtain ⟨-, -, hof, -⟩ := hg
      obtain ⟨hid, ha, hu⟩ := m.same
      exact ⟨m.next, hnext, hof.1.trans hid.symm, hof.2.1.trans ha.symm, hof.2.2.trans hu.symm⟩
  · intro e he
    rw [h.ledger] at he
    rcases List.mem_append.mp he with he | he
    · obtain ⟨q, hq, hid, ha⟩ := hl.entry e he
      obtain ⟨q', hq', hid', ha', -⟩ := h.quota_kept hq
      exact ⟨q', hq', hid.trans hid'.symm, ha.trans ha'.symm⟩
    · rw [List.mem_singleton] at he
      subst he
      exact ⟨m.next, hnext, m.recorded.quotaId.trans m.same.1.symm, m.recorded.applicationId.trans m.same.2.1.symm⟩

theorem Linked.same (hl : Linked s) (h : SameRecords s s') : Linked s' := by
  constructor
  · rw [h.reservations, h.quotas]; exact hl.reservation
  · rw [h.ledger, h.quotas]; exact hl.entry

end Applies

/-! ## Transactions -/

theorem Moves.one {m : Move} {s s' : QuotaStore} (h : m.Applies s s') : Moves s [m] s' :=
  .cons h (.nil (.refl s'))

theorem Move.Applies.of_same {m : Move} {s₀ s s' : QuotaStore} (h : m.Applies s s') (h₀ : SameRecords s₀ s) :
    m.Applies s₀ s' := by
  obtain ⟨hg, hq, hr, he⟩ := h
  refine ⟨?_, by rw [hq, h₀.quotas], by rw [hr, h₀.reservations], by rw [he, h₀.ledger]⟩
  cases hm : m.change with
  | _ => rw [hm] at hg; simpa only [Change.Guard, h₀.quotas, h₀.reservations] using hg

theorem Moves.append {s s₁ s' : QuotaStore} {ms ns : List Move} (h : Moves s ms s₁) (h' : Moves s₁ ns s') :
    Moves s (ms ++ ns) s' := by
  induction h with
  | nil hs =>
    cases h' with
    | nil hs' => exact .nil (hs.trans hs')
    | cons ha hms => exact .cons (ha.of_same hs) hms
  | cons ha _ ih => exact .cons ha (ih h')

theorem Moves.linked {s s' : QuotaStore} {ms : List Move} (h : Moves s ms s') (hl : Linked s) : Linked s' := by
  induction h with
  | nil hs => exact hl.same hs
  | cons ha _ ih => exact ih (hl.move ha)

/-- A property of the records that every move of a linked store keeps, a transaction keeps. -/
theorem Moves.invariant {P : QuotaStore → Prop} (ok : Move → Prop)
    (hsame : ∀ s s', SameRecords s s' → P s → P s')
    (hmove : ∀ m s s', Linked s → P s → ok m → m.Applies s s' → P s')
    {s s' : QuotaStore} {ms : List Move} (h : Moves s ms s') (hl : Linked s) (hP : P s) (hok : ∀ m ∈ ms, ok m) :
    Linked s' ∧ P s' := by
  induction h with
  | nil hs => exact ⟨hl.same hs, hsame _ _ hs hP⟩
  | cons ha _ ih =>
    exact ih (hl.move ha) (hmove _ _ _ hl hP (hok _ List.mem_cons_self) ha) fun m hm => hok m (List.mem_cons_of_mem _ hm)

end TokenPilot.Quota
