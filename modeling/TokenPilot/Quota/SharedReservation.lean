/-
  TokenPilot.Quota.SharedReservation — several usage events on one reservation.

  The SDK stamps every attempt of a call with the same reservation and settles the
  reservation at its estimate; the worker processes the attempts' events in whatever
  order the pipeline delivers them. The worker treats the reservation as having one
  event: the first event processed settles it, and each later one rewrites the settled
  amount. So what the reservation adds to the quota is the amount of the event that was
  processed last (`run_uses`, `outcome_attempt`), and not the sum of the events: two
  attempts rated 3 and 4 leave 4, or 3 in the other order (`second_attempt_replaces_the_first`).

  Main result: `shared_reservation_sum_iff`, exactly when every order, with the SDK's
  settlement anywhere in it, leaves the sum.
-/

import TokenPilot.Quota.Outcomes

namespace TokenPilot.Quota

open TokenPilot.Library

/-! ## The settle key of an open reservation -/

/-- A reservation the SDK's settlement is on record for is not open. -/
def SettledOnRecord (s : QuotaStore) : Prop :=
  ∀ e ∈ s.ledger.rows, ∀ id, e.idempotencyKey = .reservationSettle id →
    ∃ r ∈ s.reservations.rows, r.id = id ∧ r.status ≠ .reserved

theorem SettledOnRecord.move {m : Move} {s s' : QuotaStore} (hs : SettledOnRecord s) (h : m.Applies s s') :
    SettledOnRecord s' := by
  intro e he id hkey
  rw [h.reservations]
  rw [h.ledger] at he
  rcases List.mem_append.mp he with he | he
  · obtain ⟨r, hr, hid, hst⟩ := hs e he id hkey
    obtain ⟨r', hr', hterms, hkept⟩ := Change.reservations_kept h.guard hr
    exact ⟨r', hr', (terms_id hterms).trans hid, by rw [hkept hst]; exact hst⟩
  · rw [List.mem_singleton] at he
    subst he
    have hk := m.recorded.key
    have hg := h.guard
    rw [hkey] at hk
    cases hm : m.change with
    | settle r amount event =>
      rw [hm] at hk hg
      cases event with
      | none =>
        simp only [Change.keyed, beq_iff_eq, LedgerKey.reservationSettle.injEq] at hk
        refine ⟨r.written (.settled, amount), (mem_replace hg.2.1).mpr (Or.inl rfl), hk.symm, ?_⟩
        simp [UserAiuReservation.written]
      | some event => simp [Change.keyed] at hk
    | _ => rw [hm] at hk; simp [Change.keyed, LedgerKey.configures] at hk

theorem reachable_settledOnRecord {settings : ReservationSettings} {s : QuotaStore} (h : Reachable settings s) :
    SettledOnRecord s :=
  (reachable_invariant (P := SettledOnRecord) (by simp [SettledOnRecord, QuotaStore.empty, Table.empty])
    (fun _ _ hsame hs => by unfold SettledOnRecord; rw [hsame.reservations, hsame.ledger]; exact hs)
    (fun _ _ _ _ hs ha => hs.move ha) h).2

/-! ## Uses of a reservation -/

/-- A usage event of one attempt, with its rating. -/
structure Attempt where
  eventId : String
  actual : Option Nat
  entry : Stamp
  deriving DecidableEq, Repr

def Attempt.amount (a : Attempt) : Int := (a.actual.getD 0 : Nat)

inductive Use where
  | settle (estimate : Nat) (entry : Stamp)
  | attempt (a : Attempt)
  deriving DecidableEq, Repr

namespace Use

def op (r : UserAiuReservation) (token : String) : Use → Op
  | .settle estimate entry => .transition ⟨r.applicationId, r.id, token, .settle estimate, entry⟩
  | .attempt a => .applyUserAiu ⟨r.applicationId, r.userId, some r.id, a.eventId, a.actual, a.entry⟩

def entry : Use → Stamp
  | .settle _ entry => entry
  | .attempt a => a.entry

def keys (r : UserAiuReservation) : Use → List LedgerKey
  | .settle _ _ => [.reservationSettle r.id]
  | .attempt a => [.usageSettle a.eventId, .usageReconciliation a.eventId]

/-- The settled amount a use leaves: an attempt's own, the estimate only while nothing is settled. -/
def after (settled : Option Int) : Use → Option Int
  | .settle estimate _ => settled.or (some estimate)
  | .attempt a => some a.amount

end Use

/-- Uses the ledger knows nothing of, with ids and keys of their own. -/
structure NewUses (s : QuotaStore) (r : UserAiuReservation) (uses : List Use) : Prop where
  stamps : ∀ u ∈ uses, s.FreshStamp u.entry
  keys : ∀ u ∈ uses, ∀ k ∈ u.keys r, ¬ s.Taken r.applicationId k
  distinct : uses.Pairwise fun u v => u.entry.id ≠ v.entry.id ∧ ∀ k ∈ u.keys r, k ∉ v.keys r

/-- Where a reservation is: open, or settled at an amount that its quota carries. -/
structure Progress (s : QuotaStore) (r : UserAiuReservation) (base : Int) (settled : Option Int) : Prop where
  linked : Linked s
  balance : ReservedBalance s
  reservation : ∃ r' ∈ s.reservations.rows, r'.terms = r.terms ∧
    match settled with
    | none => r'.status = .reserved
    | some amount => r'.status = .settled ∧ r'.settledAiuMicros = amount
  quota : ∃ q ∈ s.quotas.rows, q.id = r.quotaId ∧ q.consumedAiuMicros = base + settled.getD 0

theorem TokenOf.of_terms {codec : UserReservationTokenCodec} {r r' : UserAiuReservation} {token : String}
    (ht : TokenOf codec r token) (h : r'.terms = r.terms) : TokenOf codec r' token := by
  -- the claims and the hash are terms
  have hclaims : reservationClaims r'.terms = reservationClaims r.terms := congrArg reservationClaims h
  have hhash : r'.tokenHash = r.tokenHash := congrArg (·.tokenHash) h
  exact ⟨ht.verify.trans (congrArg Except.ok hclaims.symm), ht.hash.trans hhash.symm⟩

/-- The ledger after a use: as it was, or with one entry of the use. -/
def LedgerStep (s s' : QuotaStore) (r : UserAiuReservation) (u : Use) : Prop :=
  s'.ledger.rows = s.ledger.rows ∨
    ∃ e, s'.ledger.rows = s.ledger.rows ++ [e] ∧ e.id = u.entry.id ∧ e.idempotencyKey ∈ u.keys r

theorem NewUses.tail {s s' : QuotaStore} {r : UserAiuReservation} {u : Use} {us : List Use}
    (h : NewUses s r (u :: us)) (hl : LedgerStep s s' r u) : NewUses s' r us := by
  have hdist := List.pairwise_cons.mp h.distinct
  refine ⟨fun v hv e he => ?_, fun v hv k hk => ?_, hdist.2⟩
  · rcases hl with hl | ⟨e', hl, hid, -⟩
    · exact h.stamps v (List.mem_cons_of_mem _ hv) e (hl ▸ he)
    · rw [hl] at he
      rcases List.mem_append.mp he with he | he
      · exact h.stamps v (List.mem_cons_of_mem _ hv) e he
      · rw [List.mem_singleton] at he
        rw [he, hid]
        exact (hdist.1 v hv).1
  · intro hyp
    obtain ⟨e, he, ha, hkey⟩ := hyp
    rcases hl with hl | ⟨e', hl, -, hkey'⟩
    · exact h.keys v (List.mem_cons_of_mem _ hv) k hk ⟨e, hl ▸ he, ha, hkey⟩
    · rw [hl] at he
      rcases List.mem_append.mp he with he | he
      · exact h.keys v (List.mem_cons_of_mem _ hv) k hk ⟨e, he, ha, hkey⟩
      · rw [List.mem_singleton] at he
        rw [← hkey, he] at hk
        exact (hdist.1 v hv).2 _ hkey' hk

/-! ## One use -/

section Step

variable {settings : ReservationSettings} {s : QuotaStore} {r : UserAiuReservation} {base : Int} {settled : Option Int}

/-- A move that settles or reconciles the reservation at `amount` leaves it there. -/
theorem Progress.settled_by {m : Move} {s' : QuotaStore} (hp : Progress s r base settled)
    {r' : UserAiuReservation} (hr' : r' ∈ s.reservations.rows) (ht : r'.terms = r.terms) (happ : m.Applies s s')
    {amount : Int} (hres : m.change.reservations m.quota s.reservations.rows =
      replace r' (r'.written (.settled, amount)) s.reservations.rows)
    (hid : m.quota.id = r.quotaId) (hcon : m.next.consumedAiuMicros = base + amount) :
    Progress s' r base (some amount) := by
  refine ⟨hp.linked.move happ, hp.balance.move hp.linked happ, ?_, m.next, happ.next_mem, m.same.1.trans hid, hcon⟩
  refine ⟨r'.written (.settled, amount), ?_, ht, rfl, rfl⟩
  rw [happ.reservations, hres]
  exact (mem_replace hr').mpr (Or.inl rfl)

theorem Progress.attempt {a : Attempt} {us : List Use} {token : String} (hp : Progress s r base settled)
    (hbase : 0 ≤ base) (hnew : NewUses s r (.attempt a :: us)) :
    Progress ((system settings).step s (Use.op r token (.attempt a))) r base (some a.amount) ∧
      LedgerStep s ((system settings).step s (Use.op r token (.attempt a))) r (.attempt a) := by
  obtain ⟨r', hr', ht, hstatus⟩ := hp.reservation
  obtain ⟨q, hq, hqid, hconsumed⟩ := hp.quota
  obtain ⟨hid, ha, hu, hrq⟩ := terms_fields ht
  have hof : r'.Of q := hp.linked.of_id hr' hq (hrq.trans hqid.symm)
  -- the call, which reads the row by its id
  obtain ⟨call, hcall⟩ : ∃ call : AiuCall,
      call = ⟨r.applicationId, r.userId, some r.id, a.eventId, a.actual, a.entry⟩ := ⟨_, rfl⟩
  have hop : Use.op r token (.attempt a) = .applyUserAiu call := by rw [hcall]; rfl
  have heq : applyUserAiu s call = _ := applyUserAiu_reserved hr' (by rw [hcall, hid]) (by rw [hcall, ha])
    (by rw [hcall, hu]) hq hof
  have hamount : call.settled = a.amount := by rw [hcall]; rfl
  have hra : r'.applicationId = call.applicationId := by rw [hcall, ha]
  have hstamp : s.FreshStamp call.entry := by rw [hcall]; exact hnew.stamps _ List.mem_cons_self
  have hkeys : ∀ k ∈ Use.keys r (.attempt a), ¬ s.Taken call.applicationId k := by
    rw [hcall]
    exact hnew.keys _ List.mem_cons_self
  have hevent : call.eventId = a.eventId := by rw [hcall]
  have hstep : ∀ {c s'}, applyUserAiu s call = .ok (c, s') →
      (system settings).step s (Use.op r token (.attempt a)) = s' := by
    intro c s' h
    refine Machine.step_of_ok _ (o := .consumption c) ?_
    rw [hop]
    simp only [system, exec, h, answered]
  cases settled with
  | none =>
    rw [hstatus] at heq
    obtain ⟨s', hs'⟩ := settleReserved_ok hp.balance hr' hra hq hof hstatus hstamp
      (hkeys _ (by simp [Use.keys, hevent]))
    obtain ⟨m, hm, hme, happ⟩ := settleReserved_moves hr' hra hq hof hstatus hs'
    have hg := happ.guard
    rw [hm] at hg
    have hmq := QuotaStore.quota_eq_of_id hg.1 hq (hg.2.2.1.1.symm.trans hof.1)
    rw [hstep (heq.trans hs')]
    refine ⟨hp.settled_by hr' ht happ (by rw [hm, hamount]; rfl) (by rw [hmq, hqid]) ?_, Or.inr ⟨m.entry, happ.ledger, ?_⟩⟩
    · rw [m.consumed, hm, hmq, Change.consumed, hconsumed, hamount, Option.getD_none, Int.add_zero]
    · rw [hme, hcall]
      exact ⟨rfl, by simp [Use.keys, settlementEntry]⟩
  | some amount =>
    obtain ⟨hst, hset⟩ := hstatus
    rw [hst] at heq
    simp only [Option.getD_some] at hconsumed
    have hle : r'.settledAiuMicros ≤ q.consumedAiuMicros + call.settled := by
      have : 0 ≤ call.settled := Int.natCast_nonneg _
      omega
    obtain ⟨s', hs'⟩ := reconcileSettled_ok hr' hra hq hof hst hstamp (hkeys _ (by simp [Use.keys, hevent])) hle
    rw [hstep (heq.trans hs')]
    rcases reconcileSettled_moves hr' hra hq hof hst hs' with ⟨hsame, rfl⟩ | ⟨m, hm, hme, happ⟩
    · have heq' : amount = a.amount := by rw [← hset, hsame, hamount]
      subst heq'
      exact ⟨⟨hp.linked, hp.balance, ⟨r', hr', ht, hst, hset⟩, q, hq, hqid, hconsumed⟩, Or.inl rfl⟩
    · have hg := happ.guard
      rw [hm] at hg
      have hmq := QuotaStore.quota_eq_of_id hg.1 hq (hg.2.2.1.1.symm.trans hof.1)
      refine ⟨hp.settled_by hr' ht happ (by rw [hm, hamount]; rfl) (by rw [hmq, hqid]) ?_,
        Or.inr ⟨m.entry, happ.ledger, ?_⟩⟩
      · rw [m.consumed, hm, hmq, Change.consumed, hconsumed, hamount, hset]
        omega
      · rw [hme, hcall]
        exact ⟨rfl, by simp [Use.keys, reconciliationEntry]⟩

theorem Progress.settle {estimate : Nat} {entry : Stamp} {us : List Use} {token : String}
    (hp : Progress s r base settled) (htok : TokenOf settings.codec r token)
    (hnew : NewUses s r (.settle estimate entry :: us)) :
    Progress ((system settings).step s (Use.op r token (.settle estimate entry))) r base
        (Use.after settled (.settle estimate entry)) ∧
      LedgerStep s ((system settings).step s (Use.op r token (.settle estimate entry))) r (.settle estimate entry) := by
  obtain ⟨r', hr', ht, hstatus⟩ := hp.reservation
  obtain ⟨q, hq, hqid, hconsumed⟩ := hp.quota
  obtain ⟨hid, ha, hu, hrq⟩ := terms_fields ht
  have hof : r'.Of q := hp.linked.of_id hr' hq (hrq.trans hqid.symm)
  obtain ⟨call, hcall⟩ : ∃ call : TransitionCall, call = ⟨r.applicationId, r.id, token, .settle estimate, entry⟩ :=
    ⟨_, rfl⟩
  have hop : Use.op r token (.settle estimate entry) = .transition call := by rw [hcall]; rfl
  have hrid : r'.id = call.id := by rw [hcall, hid]
  have hra : r'.applicationId = call.applicationId := by rw [hcall, ha]
  have hact : call.action = .settle estimate := by rw [hcall]
  have htok' : TokenOf settings.codec r' call.token := by rw [hcall]; exact htok.of_terms ht
  have hstamp : s.FreshStamp call.entry := by rw [hcall]; exact hnew.stamps _ List.mem_cons_self
  have heq := transition_eq hr' hrid hra hq hof htok'
  cases settled with
  | none =>
    rw [hstatus, hact] at heq
    obtain ⟨answer, s', hs'⟩ := closeReservation_ok hp.balance hr' hrid hra hq hof hstatus hstamp
      (by
        rw [transitionEntry, hact, ← hra, ha, hid]
        exact hnew.keys _ List.mem_cons_self _ (by simp [Use.keys]))
    have hstep : (system settings).step s (Use.op r token (.settle estimate entry)) = s' := by
      refine Machine.step_of_ok _ (o := .transition answer) ?_
      rw [hop]
      simp only [system, exec, heq.trans hs', answered]
    obtain ⟨m, hm, hme, happ⟩ := closeReservation_moves hr' hrid hra hq hof hstatus hs'
    rw [hact] at hm
    have hg := happ.guard
    rw [hm] at hg
    have hmq := QuotaStore.quota_eq_of_id hg.1 hq (hg.2.2.1.1.symm.trans hof.1)
    rw [hstep]
    refine ⟨hp.settled_by hr' ht happ (by rw [hm]; rfl) (by rw [hmq, hqid]) ?_, Or.inr ⟨m.entry, happ.ledger, ?_⟩⟩
    · rw [m.consumed, hm, hmq]
      simp only [TransitionAction.change, Change.consumed, hconsumed, Option.getD_none, Int.add_zero]
    · rw [hme, transitionEntry, hact, hcall]
      exact ⟨rfl, by simp [Use.keys, hid]⟩
  | some amount =>
    -- settled already: the SDK is answered, or refused, and nothing changes
    obtain ⟨hst, hset⟩ := hstatus
    rw [hst, hact] at heq
    have hstep : (system settings).step s (Use.op r token (.settle estimate entry)) = s := by
      by_cases hsame : r'.settledAiuMicros = estimate
      · refine Machine.step_of_ok _ (o := .transition (reservationTransitionResult r' q)) ?_
        rw [hop]
        simp only [system, exec, heq.trans (bind_of (require_of _ hsame) rfl), answered]
        rfl
      · refine Machine.step_of_error _ (e := .conflict "AIU reservation is already settled") ?_
        rw [hop]
        simp only [system, exec, heq.trans (bind_throws (if_neg hsame)), answered]
    rw [hstep]
    exact ⟨⟨hp.linked, hp.balance, ⟨r', hr', ht, hst, hset⟩, q, hq, hqid, hconsumed⟩, Or.inl rfl⟩

theorem run_uses (hbase : 0 ≤ base) {token : String} (htok : TokenOf settings.codec r token) (uses : List Use)
    (hp : Progress s r base settled) (hnew : NewUses s r uses) :
    Progress ((system settings).run s (uses.map (Use.op r token))) r base (uses.foldl Use.after settled) := by
  induction uses generalizing s settled with
  | nil => exact hp
  | cons u us ih =>
    rw [List.map_cons, Machine.run_cons, List.foldl_cons]
    cases u with
    | settle estimate entry =>
      obtain ⟨hp', hl⟩ := hp.settle htok hnew
      exact ih hp' (hnew.tail hl)
    | attempt a =>
      obtain ⟨hp', hl⟩ := hp.attempt hbase hnew
      exact ih hp' (hnew.tail hl)

end Step

/-! ## The amount that stays -/

theorem foldl_after_settles (uses : List Use) (h : ∀ a, Use.attempt a ∉ uses) (amount : Int) :
    uses.foldl Use.after (some amount) = some amount := by
  induction uses with
  | nil => rfl
  | cons u us ih =>
    cases u with
    | settle estimate entry => exact ih fun a ha => h a (List.mem_cons_of_mem _ ha)
    | attempt a => exact absurd List.mem_cons_self (h a)

/-- With any attempt among the uses, one of the attempts' amounts stays: the last one's. -/
theorem outcome_attempt (uses : List Use) (settled : Option Int) (h : ∃ a, Use.attempt a ∈ uses) :
    ∃ a, Use.attempt a ∈ uses ∧ uses.foldl Use.after settled = some a.amount := by
  induction uses generalizing settled with
  | nil => obtain ⟨a, ha⟩ := h; cases ha
  | cons u us ih =>
    by_cases hus : ∃ a, Use.attempt a ∈ us
    · obtain ⟨a, ha, heq⟩ := ih (u.after settled) hus
      exact ⟨a, List.mem_cons_of_mem _ ha, heq⟩
    · obtain ⟨a, ha⟩ := h
      rcases List.mem_cons.mp ha with rfl | ha
      · refine ⟨a, List.mem_cons_self, ?_⟩
        exact foldl_after_settles us (fun b hb => hus ⟨b, hb⟩) a.amount
      · exact absurd ⟨a, ha⟩ hus

/-- What the reservation's quota has consumed. -/
def consumedOf (s : QuotaStore) (quotaId : Uuid) : Int :=
  match s.quotas.rows.find? fun q => q.id == quotaId with
  | some q => q.consumedAiuMicros
  | none => 0

theorem consumedOf_of {s : QuotaStore} {q : UserAiuQuota} (hq : q ∈ s.quotas.rows) :
    consumedOf s q.id = q.consumedAiuMicros := by
  have hfind : s.quotas.rows.find? (fun x => x.id == q.id) = some q :=
    s.quotas.find?_of_clash hq (by simp) fun x hx => by
      rw [beq_iff_eq] at hx
      simp [Row.clash, hx]
  rw [consumedOf, hfind]

theorem mem_attempts {a : Attempt} {attempts : List Attempt} {estimate : Nat} {entry : Stamp} :
    Use.attempt a ∈ Use.settle estimate entry :: attempts.map Use.attempt ↔ a ∈ attempts := by
  simp

/-- Any attempt can be the one processed last. -/
theorem exists_last {a : Attempt} {attempts : List Attempt} (h : a ∈ attempts) (estimate : Nat) (entry : Stamp) :
    ∃ uses, List.Perm uses (Use.settle estimate entry :: attempts.map Use.attempt) ∧
      uses.foldl Use.after none = some a.amount := by
  refine ⟨(Use.settle estimate entry :: (attempts.erase a).map Use.attempt) ++ [Use.attempt a], ?_, ?_⟩
  · have hperm : List.Perm (a :: attempts.erase a) attempts := (List.perm_cons_erase h).symm
    refine (@List.perm_append_comm _ _ [Use.attempt a]).trans ?_
    exact (List.Perm.swap _ _ _).trans ((hperm.map Use.attempt).cons _)
  · rw [List.foldl_append]
    rfl

theorem eq_zero_of_sum {attempts : List Attempt} {total : Int} (h : ∀ a ∈ attempts, a.amount = total)
    (hsum : (attempts.map Attempt.amount).sum = total) (hlen : 2 ≤ attempts.length) : total = 0 := by
  have hmul : (attempts.map Attempt.amount).sum = attempts.length * total := by
    clear hsum hlen
    induction attempts with
    | nil => simp
    | cons a l ih =>
      rw [List.map_cons, List.sum_cons, ih fun b hb => h b (List.mem_cons_of_mem _ hb), h a List.mem_cons_self,
        List.length_cons, Int.natCast_add, Int.add_mul, Int.natCast_one, Int.one_mul, Int.add_comm]
  rw [hsum] at hmul
  by_contra hne
  have hone : (attempts.length : Int) = 1 := by
    refine Int.eq_of_mul_eq_mul_right hne ?_
    rw [← hmul, Int.one_mul]
  omega

/-- When each order leaves the sum: with one attempt, or when there is nothing to add. -/
theorem every_order_sums_iff (attempts : List Attempt) (estimate : Nat) (entry : Stamp) :
    (∀ uses, List.Perm uses (Use.settle estimate entry :: attempts.map Use.attempt) →
      (uses.foldl Use.after none).getD 0 = (attempts.map Attempt.amount).sum) ↔
    (attempts.length = 1 ∨ ((∀ a ∈ attempts, a.amount = 0) ∧ (attempts ≠ [] ∨ estimate = 0))) := by
  constructor
  · intro h
    by_cases hnil : attempts = []
    · subst hnil
      have := h [.settle estimate entry] (List.Perm.refl _)
      simp [Use.after] at this
      exact Or.inr ⟨by simp, Or.inr this⟩
    by_cases hlen : attempts.length = 1
    · exact Or.inl hlen
    have hlen2 : 2 ≤ attempts.length := by
      have := List.length_pos_iff.mpr hnil
      omega
    have hall : ∀ a ∈ attempts, a.amount = (attempts.map Attempt.amount).sum := by
      intro a ha
      obtain ⟨uses, hperm, hout⟩ := exists_last ha estimate entry
      have := h uses hperm
      rwa [hout] at this
    have hzero := eq_zero_of_sum hall rfl hlen2
    exact Or.inr ⟨fun a ha => (hall a ha).trans hzero, Or.inl hnil⟩
  · intro h uses hperm
    have hmem : ∀ a, Use.attempt a ∈ uses ↔ a ∈ attempts := fun a => (hperm.mem_iff).trans mem_attempts
    by_cases hnil : attempts = []
    · subst hnil
      rw [List.perm_singleton.mp hperm]
      rcases h with h | ⟨-, h | h⟩
      · cases h
      · exact absurd rfl h
      · simp [Use.after, h]
    · obtain ⟨a₀, ha₀⟩ := List.exists_mem_of_ne_nil _ hnil
      obtain ⟨a, ha, hout⟩ := outcome_attempt uses none ⟨a₀, (hmem a₀).mpr ha₀⟩
      rw [hout, Option.getD_some]
      rw [hmem] at ha
      rcases h with h | ⟨h, -⟩
      · obtain ⟨b, rfl⟩ := List.length_eq_one_iff.mp h
        rw [List.mem_singleton] at ha
        simp [ha]
      · rw [h a ha]
        have hsum : ∀ l : List Attempt, (∀ b ∈ l, b.amount = 0) → (l.map Attempt.amount).sum = 0 := by
          intro l hl
          induction l with
          | nil => rfl
          | cons b l ih =>
            rw [List.map_cons, List.sum_cons, hl b List.mem_cons_self, ih fun c hc => hl c (List.mem_cons_of_mem _ hc)]
            rfl
        exact (hsum attempts h).symm

/-! ## Every order -/

/-- Events the worker has not processed, and ledger ids that are new. -/
structure NewAttempts (s : QuotaStore) (r : UserAiuReservation) (entry : Stamp) (attempts : List Attempt) : Prop where
  events : (attempts.map (·.eventId)).Nodup
  unknown : ∀ a ∈ attempts, ¬ s.Taken r.applicationId (.usageSettle a.eventId) ∧
    ¬ s.Taken r.applicationId (.usageReconciliation a.eventId)
  stamps : ((entry :: attempts.map (·.entry)).map (·.id)).Nodup
  fresh : ∀ stamp ∈ entry :: attempts.map (·.entry), s.FreshStamp stamp

theorem NewAttempts.uses {settings : ReservationSettings} {s : QuotaStore} {r : UserAiuReservation} {entry : Stamp}
    {attempts : List Attempt} {estimate : Nat} (hs : Reachable settings s) (hr : r ∈ s.reservations.rows)
    (hopen : r.status = .reserved) (h : NewAttempts s r entry attempts) :
    NewUses s r (.settle estimate entry :: attempts.map .attempt) := by
  refine ⟨?_, ?_, ?_⟩
  · intro u hu
    rcases List.mem_cons.mp hu with rfl | hu
    · exact h.fresh _ List.mem_cons_self
    · obtain ⟨a, ha, rfl⟩ := List.mem_map.mp hu
      exact h.fresh _ (List.mem_cons_of_mem _ (List.mem_map.mpr ⟨a, ha, rfl⟩))
  · intro u hu k hk
    rcases List.mem_cons.mp hu with rfl | hu
    · -- an open reservation has no settlement on record
      simp only [Use.keys, List.mem_singleton] at hk
      intro hyp
      obtain ⟨e, he, -, hkey⟩ := hyp
      obtain ⟨r', hr', hid, hst⟩ := reachable_settledOnRecord hs e he r.id (hkey.trans hk)
      rw [QuotaStore.reservation_eq_of_id hr' hr hid] at hst
      exact hst hopen
    · obtain ⟨a, ha, rfl⟩ := List.mem_map.mp hu
      simp only [Use.keys, List.mem_cons, List.not_mem_nil, or_false] at hk
      rcases hk with rfl | rfl
      · exact (h.unknown a ha).1
      · exact (h.unknown a ha).2
  · have hstamps := h.stamps
    have hevents := h.events
    simp only [List.map_cons, List.nodup_cons, List.mem_map, List.map_map] at hstamps
    rw [List.pairwise_cons, List.pairwise_map]
    refine ⟨?_, ?_⟩
    · intro u hu
      obtain ⟨a, ha, rfl⟩ := List.mem_map.mp hu
      refine ⟨fun heq => hstamps.1 ⟨a, ha, heq.symm⟩, ?_⟩
      simp [Use.keys]
    · have hids : attempts.Pairwise fun a b => a.entry.id ≠ b.entry.id := List.pairwise_map.mp hstamps.2
      have hevs : attempts.Pairwise fun a b => a.eventId ≠ b.eventId := List.pairwise_map.mp hevents
      refine (hids.and hevs).imp ?_
      intro a b hyp
      obtain ⟨hid, hev⟩ := hyp
      refine ⟨hid, ?_⟩
      simp [Use.keys, hev]

theorem NewUses.perm {s : QuotaStore} {r : UserAiuReservation} {uses uses' : List Use} (h : NewUses s r uses)
    (hp : List.Perm uses' uses) : NewUses s r uses' := by
  refine ⟨fun u hu => h.stamps u (hp.mem_iff.mp hu), fun u hu => h.keys u (hp.mem_iff.mp hu), ?_⟩
  refine hp.symm.pairwise h.distinct ?_
  intro u v hyp
  obtain ⟨hid, hk⟩ := hyp
  exact ⟨hid.symm, fun k hv hu => hk k hu hv⟩

/-- Every order of the attempts, with the SDK's settlement anywhere in it, adds the sum
    of the rated amounts to the quota if and only if there is exactly one attempt, or
    all are rated zero (or null) and there is an attempt or the SDK settles zero. -/
theorem shared_reservation_sum_iff (settings : ReservationSettings) {s : QuotaStore} (hs : Reachable settings s)
    {r : UserAiuReservation} (hr : r ∈ s.reservations.rows) (hopen : r.status = .reserved) {token : String}
    (htok : TokenOf settings.codec r token) (estimate : Nat) (entry : Stamp) (attempts : List Attempt)
    (hnew : NewAttempts s r entry attempts) :
    (∀ uses, List.Perm uses (Use.settle estimate entry :: attempts.map Use.attempt) →
      consumedOf ((system settings).run s (uses.map (Use.op r token))) r.quotaId - consumedOf s r.quotaId =
        (attempts.map Attempt.amount).sum) ↔
    (attempts.length = 1 ∨ ((∀ a ∈ attempts, a.amount = 0) ∧ (attempts ≠ [] ∨ estimate = 0))) := by
  rw [← every_order_sums_iff attempts estimate entry]
  have hl := reachable_linked hs
  obtain ⟨q, hq, hof⟩ := hl.reservation r hr
  have hstart : Progress s r q.consumedAiuMicros none :=
    ⟨hl, reachable_reservedBalance hs, ⟨r, hr, rfl, hopen⟩, q, hq, hof.1.symm, (Int.add_zero _).symm⟩
  refine forall_congr' fun uses => forall_congr' ?_
  intro hperm
  obtain ⟨q', hq', hid', hconsumed⟩ :=
    (run_uses (QuotaStore.quota_counters hq).2.1 htok uses hstart ((hnew.uses hs hr hopen).perm hperm)).quota
  have hdiff : ∀ a b : Int, a + b - a = b := by omega
  rw [← hid', consumedOf_of hq', hid', hof.1, consumedOf_of hq, hconsumed, hdiff]

open Sample in
/-- One attempt, rated 3, processed before the SDK settles at 5: the quota is left with 3. -/
theorem one_attempt_sums :
    let s := (system service).run .empty opened
    let uses := [Use.attempt ⟨firstEvent, some 3, ⟨901, 3000⟩⟩, Use.settle 5 ⟨900, 2000⟩]
    consumedOf ((system service).run s (uses.map (Use.op reservation "tpur1.7"))) 2 - consumedOf s 2 = 3 :=
  (shared_reservation_sum_iff service ⟨opened, rfl⟩ (r := reservation) (by decide +kernel) rfl ⟨rfl, rfl⟩ 5 ⟨900, 2000⟩
    [⟨firstEvent, some 3, ⟨901, 3000⟩⟩] ⟨by decide, by decide +kernel, by decide, by decide +kernel⟩).mpr (Or.inl rfl)
    _ (List.Perm.swap _ _ _)

open Sample in
/-- A failed attempt rated 3 and its retry rated 4: the quota is left with 4, and with 3
    when the events arrive the other way round. -/
theorem second_attempt_replaces_the_first :
    let s := (system service).run .empty opened
    let settled := Use.settle 5 ⟨900, 2000⟩
    let first := Use.attempt ⟨firstEvent, some 3, ⟨901, 3000⟩⟩
    let second := Use.attempt ⟨secondEvent, some 4, ⟨902, 3001⟩⟩
    consumedOf ((system service).run s ([settled, first, second].map (Use.op reservation "tpur1.7"))) 2 -
        consumedOf s 2 = 4 ∧
      consumedOf ((system service).run s ([settled, second, first].map (Use.op reservation "tpur1.7"))) 2 -
        consumedOf s 2 = 3 ∧ (4 : Int) ≠ 3 + 4 := by
  decide +kernel

end TokenPilot.Quota
