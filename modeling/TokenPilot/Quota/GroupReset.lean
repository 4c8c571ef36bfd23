/-
  TokenPilot.Quota.GroupReset — the bulk quota reset of a user group
  (apps/api/src/user-groups/user-group-actions.service.ts).

  `resetQuotas` is one transaction over the members of an evaluation, against the quota
  rows that were read with the evaluation, before the transaction opened. Per member it
  closes the open reservations, updates the quota under the lock version it read, and
  counts the member as failed when the update matched no row. `userSystem` is the quota
  store with this writer beside those of `TokenPilot.Quota.System`.

  A member's step is seen in the records of one user only (`resetMember_records`), and
  what it does there is `MemberStep`; `resetMembers_steps` puts the members together.
  `group_reset_isolates_iff` says when a failed member is left as it was and no member
  stops the others: no quota of a fixed window is reset, and no member whose quota
  changed has an open reservation.
-/

import TokenPilot.Quota.Effects

namespace TokenPilot.Quota

open TokenPilot.Library

/-- `periodEnd`: a fixed window ends when it starts. -/
def groupPeriodEnd (type : QuotaPeriodType) (start : Timestamp) : Option Timestamp :=
  match type with
  | .lifetime => none
  | .calendarDay => some (start + msPerDay)
  | .calendarWeek => some (start + 7 * msPerDay)
  | .calendarMonth => some (addUtcMonth start)
  | .fixedWindow | .unknown => some start

/-- A member of the evaluation, with the quota of the user as it was read, and what is
    generated for its ledger entry. -/
structure GroupMember where
  userId : Uuid
  quota : Option UserAiuQuota
  nonce : Uuid
  entry : Stamp
  deriving DecidableEq, Repr

structure GroupResetCall where
  applicationId : Uuid
  evaluationId : Uuid
  reason : String
  now : Timestamp
  members : List GroupMember
  deriving DecidableEq, Repr

structure GroupResetOutcome where
  evaluationId : Uuid
  targetCount : Nat
  successCount : Nat
  failureCount : Nat
  failedUserIds : List Uuid
  deriving DecidableEq, Repr

/-- What the reset puts on the quota; the period type is the one that was read. -/
def groupReset (call : GroupResetCall) (read quota : UserAiuQuota) : UserAiuQuota :=
  { quota with
    consumedAiuMicros := 0
    reservedAiuMicros := 0
    periodStart := call.now
    periodEnd := groupPeriodEnd read.periodType call.now }

def groupResetEntry (call : GroupResetCall) (member : GroupMember) (read : UserAiuQuota) : UserAiuLedgerEntry where
  id := member.entry.id
  createdAt := member.entry.createdAt
  applicationId := call.applicationId
  userId := member.userId
  quotaId := read.id
  entryType := .adjustment
  consumedDeltaMicros := -read.consumedAiuMicros
  reservedDeltaMicros := -read.reservedAiuMicros
  consumedAfterMicros := 0
  reservedAfterMicros := 0
  limitAfterMicros := read.limitAiuMicros
  idempotencyKey := .groupQuotaReset call.evaluationId member.userId member.nonce
  reason := call.reason

/-- One turn of the loop: whether the member succeeded. -/
def resetMember (s : QuotaStore) (call : GroupResetCall) (member : GroupMember) :
    Except Failure (Bool × QuotaStore) := do
  match member.quota with
  | none => return (false, s)
  | some read =>
    let (s, _) ← s.updateReservations
      (fun r => r.applicationId == call.applicationId && r.userId == member.userId && r.status == .reserved)
      fun r => (.released, r.settledAiuMicros)
    let (s, changed) ← s.updateQuotas
      (fun q => q.applicationId == call.applicationId && q.id == read.id && q.lockVersion == read.lockVersion)
      (groupReset call read)
    if changed ≠ 1 then return (false, s)
    let s ← s.insertLedgerEntry (groupResetEntry call member read)
    return (true, s)

/-- The loop: how many members succeeded, and those that failed in order. -/
def resetMembers (call : GroupResetCall) :
    QuotaStore → List GroupMember → Except Failure ((Nat × List Uuid) × QuotaStore)
  | s, [] => .ok ((0, []), s)
  | s, member :: members => do
    let (done, s) ← resetMember s call member
    let ((succeeded, failed), s) ← resetMembers call s members
    return (if done then (succeeded + 1, failed) else (succeeded, member.userId :: failed), s)

def resetQuotas (s : QuotaStore) (call : GroupResetCall) : Except Failure (GroupResetOutcome × QuotaStore) := do
  let ((succeeded, failed), s) ← resetMembers call s call.members
  return ({
    evaluationId := call.evaluationId
    targetCount := call.members.length
    successCount := succeeded
    failureCount := failed.length
    failedUserIds := failed }, s)

/-! ## The store with group resets -/

inductive UserOp where
  | quota (op : Op)
  | groupReset (call : GroupResetCall)

def execUser (settings : ReservationSettings) (s : QuotaStore) :
    UserOp → Except Failure ((Answer ⊕ GroupResetOutcome) × QuotaStore)
  | .quota op => do
    let (answer, s) ← exec settings s op
    return (.inl answer, s)
  | .groupReset call => do
    let (outcome, s) ← resetQuotas s call
    return (.inr outcome, s)

def userSystem (settings : ReservationSettings) :
    Machine QuotaStore UserOp (Answer ⊕ GroupResetOutcome) Failure := ⟨execUser settings⟩

/-! ## One member -/

section Member

variable {s s' : QuotaStore} {call : GroupResetCall} {member : GroupMember} {done : Bool}

/-- Closing the open reservations of a user cannot fail. -/
theorem closeOpen_of (s : QuotaStore) (applicationId userId : Uuid) : ∃ reservations n,
    s.updateReservations
      (fun r => r.applicationId == applicationId && r.userId == userId && r.status == .reserved)
      (fun r => (.released, r.settledAiuMicros)) = .ok ({ s with reservations }, n) := by
  cases h : s.updateReservations
      (fun r => r.applicationId == applicationId && r.userId == userId && r.status == .reserved)
      (fun r => (.released, r.settledAiuMicros)) with
  | error e =>
    obtain ⟨r, hr, -, c, -, hc⟩ := QuotaStore.updateReservations_error h
    -- the amounts are those the table has already
    have hnone : Row.refused (r.written (.released, r.settledAiuMicros)) = none := s.reservations.checked r hr
    rw [hnone] at hc
    cases hc
  | ok a =>
    obtain ⟨reservations, hs, -⟩ := QuotaStore.updateReservations_ok h
    exact ⟨reservations, a.2, by rw [← hs]⟩

/-- The open reservations of a user, released. -/
def releasedFor (applicationId userId : Uuid) (r : UserAiuReservation) : UserAiuReservation :=
  Table.rewrite (fun r => r.applicationId == applicationId && r.userId == userId && r.status == .reserved)
    (fun r => r.written (.released, r.settledAiuMicros)) r

/-- Everything a turn of the loop can do. -/
theorem resetMember_cases (h : resetMember s call member = .ok (done, s')) :
    (member.quota = none ∧ done = false ∧ s' = s) ∨
    ∃ read reservations, member.quota = some read ∧
      reservations.rows = s.reservations.rows.map (releasedFor call.applicationId member.userId) ∧
      ((done = false ∧ s' = { s with reservations } ∧ ∀ q ∈ s.quotas.rows, ¬ (q.applicationId = call.applicationId ∧
          q.id = read.id ∧ q.lockVersion = read.lockVersion)) ∨
        ∃ q ∈ s.quotas.rows, ∃ quotas ledger, done = true ∧ s' = { s with quotas, reservations, ledger } ∧
          q.applicationId = call.applicationId ∧ q.id = read.id ∧ q.lockVersion = read.lockVersion ∧
          quotas.rows = replace q (q.written (groupReset call read)) s.quotas.rows ∧
          ledger.rows = s.ledger.rows ++ [groupResetEntry call member read]) := by
  unfold resetMember at h
  split at h
  · cases h
    exact Or.inl ⟨‹_›, rfl, rfl⟩
  rename_i read hread
  obtain ⟨⟨s₁, n⟩, h₁, h⟩ := bind_ok h
  obtain ⟨⟨s₂, changed⟩, h₂, h⟩ := bind_ok h
  obtain ⟨reservations, rfl, hr⟩ := QuotaStore.updateReservations_ok h₁
  refine Or.inr ⟨read, reservations, hread, hr, ?_⟩
  have hid : ∀ x : UserAiuQuota, (x.applicationId == call.applicationId && x.id == read.id &&
      x.lockVersion == read.lockVersion) = true → x.id = read.id := by
    intro x hx
    simp only [Bool.and_eq_true, beq_iff_eq] at hx
    exact hx.1.2
  rcases QuotaStore.updateQuotas_cases h₂ hid with ⟨hn, rfl, hnone⟩ | ⟨q, hq, rfl, hp, quotas, rfl, hquotas⟩
  · dsimp only at h
    rw [if_pos hn] at h
    cases h
    refine Or.inl ⟨rfl, rfl, ?_⟩
    intro q hq hmatch
    have hfalse := hnone q hq
    simp [hmatch.1, hmatch.2.1, hmatch.2.2] at hfalse
  · dsimp only at h
    rw [if_neg (by decide)] at h
    obtain ⟨s₃, h₃, h⟩ := bind_ok h
    cases h
    obtain ⟨-, ledger, rfl, hledger⟩ := QuotaStore.insertLedgerEntry_ok h₃
    simp only [Bool.and_eq_true, beq_iff_eq] at hp
    exact Or.inr ⟨q, hq, quotas, ledger, rfl, rfl, hp.1.1, hp.1.2, hp.2, hquotas, hledger⟩

theorem refused_groupReset {read q : UserAiuQuota} (hq : q ∈ s.quotas.rows) :
    Row.refused (q.written (groupReset call read)) = none ↔
      ∀ e, groupPeriodEnd read.periodType call.now = some e → call.now < e := by
  have hcounters : ¬ ¬ (0 ≤ q.limitAiuMicros ∧ (0 : Int) ≤ 0 ∧ (0 : Int) ≤ 0) :=
    not_not_intro ⟨(QuotaStore.quota_counters hq).1, Int.le_refl 0, Int.le_refl 0⟩
  show (if ¬ (0 ≤ q.limitAiuMicros ∧ (0 : Int) ≤ 0 ∧ (0 : Int) ≤ 0) then some "user_aiu_quotas_counters_check"
    else if (groupPeriodEnd read.periodType call.now).any (fun e => decide (e ≤ call.now)) then
      some "user_aiu_quotas_period_check" else none) = none ↔ _
  rw [if_neg hcounters]
  cases groupPeriodEnd read.periodType call.now with
  | none => simp
  | some e => simp

/-- A member whose quota can be reset, or changed, is taken care of. -/
theorem resetMember_of {read : UserAiuQuota} (hread : member.quota = some read) (hlimit : 0 ≤ read.limitAiuMicros)
    (hreset : ∀ q ∈ s.quotas.rows, q.applicationId = call.applicationId → q.id = read.id →
      q.lockVersion = read.lockVersion → ∀ e, groupPeriodEnd read.periodType call.now = some e → call.now < e)
    (hfresh : ∀ e ∈ s.ledger.rows, Row.clash e (groupResetEntry call member read) = false) :
    ∃ done s', resetMember s call member = .ok (done, s') := by
  obtain ⟨reservations, n, hclose⟩ := closeOpen_of s call.applicationId member.userId
  cases hupdate : QuotaStore.updateQuotas { s with reservations }
      (fun q => q.applicationId == call.applicationId && q.id == read.id && q.lockVersion == read.lockVersion)
      (groupReset call read) with
  | error e =>
    obtain ⟨q, hq, hp, c, -, hc⟩ := QuotaStore.updateQuotas_error hupdate
    simp only [Bool.and_eq_true, beq_iff_eq] at hp
    rw [(refused_groupReset hq).mpr (hreset q hq hp.1.1 hp.1.2 hp.2)] at hc
    cases hc
  | ok a =>
    obtain ⟨s₂, changed⟩ := a
    obtain ⟨quotas, rfl⟩ := QuotaStore.updateQuotas_ok hupdate
    obtain ⟨ledger, hinsert, -⟩ := QuotaStore.insertLedgerEntry_of (s := { s with reservations, quotas })
      (e := groupResetEntry call member read) (if_pos ⟨Int.le_refl 0, Int.le_refl 0, hlimit⟩) hfresh
    unfold resetMember
    rw [hread]
    by_cases hn : changed ≠ 1
    · exact ⟨false, _, bind_of hclose (bind_of hupdate (if_pos hn))⟩
    · exact ⟨true, _, bind_of hclose (bind_of hupdate ((if_neg hn).trans (bind_of hinsert rfl)))⟩

end Member

/-! ## The records of a user -/

structure UserRecords where
  quota : Option UserAiuQuota
  reservations : List UserAiuReservation
  ledger : List UserAiuLedgerEntry
  deriving DecidableEq

def QuotaStore.recordsOf (s : QuotaStore) (applicationId userId : Uuid) : UserRecords where
  quota := s.quotaOf applicationId userId
  reservations := s.reservations.rows.filter fun r => r.applicationId == applicationId && r.userId == userId
  ledger := s.ledger.rows.filter fun e => e.applicationId == applicationId && e.userId == userId

/-- What a turn of the loop does to the records of its member. -/
inductive MemberStep (call : GroupResetCall) (member : GroupMember) (before : UserRecords) : Bool → UserRecords → Prop
  | absent : member.quota = none → MemberStep call member before false before
  | changed {read : UserAiuQuota} : member.quota = some read →
      (∀ q, before.quota = some q → q.lockVersion ≠ read.lockVersion) →
      MemberStep call member before false { before with
        reservations := before.reservations.map (releasedFor call.applicationId member.userId) }
  | reset {read q : UserAiuQuota} : member.quota = some read → before.quota = some q →
      q.lockVersion = read.lockVersion →
      (∀ e, groupPeriodEnd read.periodType call.now = some e → call.now < e) →
      MemberStep call member before true {
        quota := some (q.written (groupReset call read))
        reservations := before.reservations.map (releasedFor call.applicationId member.userId)
        ledger := before.ledger ++ [groupResetEntry call member read] }

/-- The quota that was read is the user's, whatever has been written to it since. -/
def Reads (s : QuotaStore) (call : GroupResetCall) (member : GroupMember) : Prop :=
  ∀ read, member.quota = some read → 0 ≤ read.limitAiuMicros ∧
    ∃ q, s.quotaOf call.applicationId member.userId = some q ∧ q.id = read.id

section Records

variable {s s' : QuotaStore} {call : GroupResetCall} {member : GroupMember} {done : Bool} {a u : Uuid}

theorem releasedFor_keys (r : UserAiuReservation) :
    (releasedFor a u r).applicationId = r.applicationId ∧ (releasedFor a u r).userId = r.userId := by
  unfold releasedFor Table.rewrite
  split
  · exact ⟨rfl, rfl⟩
  · exact ⟨rfl, rfl⟩

theorem filter_releasedFor (l : List UserAiuReservation) (v : Uuid) :
    (l.map (releasedFor a u)).filter (fun r => r.applicationId == a && r.userId == v) =
      (l.filter fun r => r.applicationId == a && r.userId == v).map (releasedFor a u) := by
  rw [List.filter_map]
  congr 1
  refine List.filter_congr ?_
  intro r _
  simp only [Function.comp, (releasedFor_keys r).1, (releasedFor_keys r).2]

/-- The reservations of another user stay. -/
theorem map_releasedFor_other {v : Uuid} (hv : v ≠ u) (l : List UserAiuReservation) :
    (l.filter fun r => r.applicationId == a && r.userId == v).map (releasedFor a u) =
      l.filter fun r => r.applicationId == a && r.userId == v := by
  refine Table.map_rewrite_none ?_
  intro r hr
  have hp := (List.mem_filter.mp hr).2
  simp only [Bool.and_eq_true, beq_iff_eq] at hp
  simp [hp.2, hv]

theorem map_releasedFor_eq (l : List UserAiuReservation) :
    (l.filter fun r => r.applicationId == a && r.userId == u).map (releasedFor a u) =
        (l.filter fun r => r.applicationId == a && r.userId == u) ↔
      ∀ r ∈ l, r.applicationId = a → r.userId = u → r.status ≠ .reserved := by
  constructor
  · intro h r hr ha hu hst
    have hmem : r ∈ l.filter fun r => r.applicationId == a && r.userId == u := by
      rw [List.mem_filter]
      exact ⟨hr, by simp [ha, hu]⟩
    have hsame : releasedFor a u r = r := List.map_inj_left.mp (h.trans (List.map_id _).symm) r hmem
    have hreleased : (releasedFor a u r).status = .released := by
      simp [releasedFor, Table.rewrite, ha, hu, hst, UserAiuReservation.written]
    rw [hsame, hst] at hreleased
    cases hreleased
  · intro h
    refine Table.map_rewrite_none ?_
    intro r hr
    obtain ⟨hrl, hp⟩ := List.mem_filter.mp hr
    simp only [Bool.and_eq_true, beq_iff_eq] at hp
    simp [h r hrl hp.1 hp.2]

theorem quotaOf_replace {q q' : UserAiuQuota} {quotas : Table UserAiuQuota} (hq : q ∈ s.quotas.rows)
    (hsame : q'.applicationId = q.applicationId ∧ q'.userId = q.userId)
    (hrows : quotas.rows = replace q q' s.quotas.rows) (v : Uuid) :
    QuotaStore.quotaOf { s with quotas } q.applicationId v =
      if v = q.userId then some q' else s.quotaOf q.applicationId v := by
  ext x
  rw [QuotaStore.quotaOf_iff]
  show x ∈ quotas.rows ∧ _ ↔ _
  rw [hrows, mem_replace hq]
  split
  · rename_i hv
    subst hv
    constructor
    · rintro ⟨rfl | ⟨hx, hne⟩, ha, hu⟩
      · rfl
      · exact absurd (QuotaStore.quota_eq_of_user hx hq ha hu) hne
    · intro hx
      cases hx
      exact ⟨Or.inl rfl, hsame⟩
  · rename_i hv
    rw [QuotaStore.quotaOf_iff]
    constructor
    · rintro ⟨rfl | ⟨hx, hne⟩, ha, hu⟩
      · exact absurd (hu.symm.trans hsame.2) hv
      · exact ⟨hx, ha, hu⟩
    · rintro ⟨hx, ha, hu⟩
      refine ⟨Or.inr ⟨hx, ?_⟩, ha, hu⟩
      rintro rfl
      exact hv hu.symm

/-- A turn of the loop is a step of its member's records, and leaves those of every other user. -/
theorem resetMember_records (hreads : Reads s call member) (h : resetMember s call member = .ok (done, s')) :
    MemberStep call member (s.recordsOf call.applicationId member.userId) done
        (s'.recordsOf call.applicationId member.userId) ∧
      ∀ v, v ≠ member.userId → s'.recordsOf call.applicationId v = s.recordsOf call.applicationId v := by
  rcases resetMember_cases h with ⟨hnone, rfl, rfl⟩ | ⟨read, reservations, hread, hr, hcases⟩
  · exact ⟨.absent hnone, fun _ _ => rfl⟩
  obtain ⟨-, current, hcurrent, hid⟩ := hreads read hread
  obtain ⟨hmem, ha, hu⟩ := QuotaStore.quotaOf_mem hcurrent
  have hown : reservations.rows.filter (fun r => r.applicationId == call.applicationId && r.userId == member.userId) =
      (s.recordsOf call.applicationId member.userId).reservations.map (releasedFor call.applicationId member.userId) := by
    rw [hr]
    exact filter_releasedFor _ _
  have hother : ∀ v, v ≠ member.userId →
      reservations.rows.filter (fun r => r.applicationId == call.applicationId && r.userId == v) =
        (s.recordsOf call.applicationId v).reservations := by
    intro v hv
    rw [hr, filter_releasedFor, map_releasedFor_other hv]
    rfl
  rcases hcases with ⟨rfl, rfl, hnone⟩ | ⟨q, hq, quotas, ledger, rfl, rfl, hqa, hqid, hlock, hquotas, hledger⟩
  · constructor
    · have hstep : MemberStep call member (s.recordsOf call.applicationId member.userId) false
          { s.recordsOf call.applicationId member.userId with
            reservations := (s.recordsOf call.applicationId member.userId).reservations.map
              (releasedFor call.applicationId member.userId) } := by
        refine .changed hread ?_
        intro x hx hlock
        obtain ⟨hxm, hxa, hxu⟩ := QuotaStore.quotaOf_mem hx
        have hxc : x = current := QuotaStore.quota_eq_of_user hxm hmem (hxa.trans ha.symm) (hxu.trans hu.symm)
        exact hnone x hxm ⟨hxa, by rw [hxc, hid], hlock⟩
      rw [← hown] at hstep
      exact hstep
    · intro v hv
      show UserRecords.mk _ _ _ = UserRecords.mk _ _ _
      rw [UserRecords.mk.injEq]
      exact ⟨rfl, hother v hv, rfl⟩
  · -- the row that matched is the user's
    have hqc : q = current := QuotaStore.quota_eq_of_id hq hmem (hqid.trans hid.symm)
    subst hqc
    have hquotaOf := quotaOf_replace hq (by exact ⟨rfl, rfl⟩) hquotas
    rw [ha, hu] at hquotaOf
    have hkept : Row.refused (q.written (groupReset call read)) = none :=
      quotas.checked _ (by rw [hquotas]; exact (mem_replace hq).mpr (Or.inl rfl))
    constructor
    · have hstep : MemberStep call member (s.recordsOf call.applicationId member.userId) true _ :=
        .reset hread hcurrent hlock ((refused_groupReset hq).mp hkept)
      have hentries : ledger.rows.filter (fun e => e.applicationId == call.applicationId && e.userId == member.userId) =
          (s.recordsOf call.applicationId member.userId).ledger ++ [groupResetEntry call member read] := by
        rw [hledger, List.filter_append]
        congr 1
        simp [groupResetEntry]
      have hrow := hquotaOf member.userId
      rw [if_pos rfl] at hrow
      rw [← hown, ← hentries, ← hrow] at hstep
      exact hstep
    · intro v hv
      have hrow := hquotaOf v
      rw [if_neg hv] at hrow
      show UserRecords.mk _ _ _ = UserRecords.mk _ _ _
      rw [UserRecords.mk.injEq]
      refine ⟨hrow, hother v hv, ?_⟩
      rw [hledger, List.filter_append]
      simp [groupResetEntry, hv.symm]

end Records

/-! ## All members -/

/-- What is generated for the entries is new, and the members are as many users. -/
structure NewMembers (s : QuotaStore) (call : GroupResetCall) (members : List GroupMember) : Prop where
  users : (members.map (·.userId)).Nodup
  ids : (members.map (·.entry.id)).Nodup
  entry : ∀ m ∈ members, ∀ e ∈ s.ledger.rows, e.id ≠ m.entry.id ∧
    ¬ (e.applicationId = call.applicationId ∧
      e.idempotencyKey = .groupQuotaReset call.evaluationId m.userId m.nonce)

section Members

variable {s s' : QuotaStore} {call : GroupResetCall} {member : GroupMember} {members : List GroupMember}
  {done : Bool} {succeeded : Nat} {failed : List Uuid}

theorem Reads.of_quota (h : Reads s call member)
    (hq : s'.quotaOf call.applicationId member.userId = s.quotaOf call.applicationId member.userId) :
    Reads s' call member := by
  intro read hread
  rw [hq]
  exact h read hread

theorem NewMembers.fresh (h : NewMembers s call (member :: members)) (read : UserAiuQuota) :
    ∀ e ∈ s.ledger.rows, Row.clash e (groupResetEntry call member read) = false := by
  intro e he
  obtain ⟨hid, hkey⟩ := h.entry member List.mem_cons_self e he
  simp only [Row.clash, groupResetEntry, Bool.or_eq_false_iff, beq_eq_false_iff_ne, ne_eq]
  refine ⟨hid, ?_⟩
  rw [Bool.eq_false_iff]
  intro hboth
  simp only [Bool.and_eq_true, beq_iff_eq] at hboth
  exact hkey hboth

/-- After a turn of the loop, what the others generated is still new. -/
theorem NewMembers.tail (h : NewMembers s call (member :: members))
    (hstep : resetMember s call member = .ok (done, s')) : NewMembers s' call members := by
  have hids := List.nodup_cons.mp h.ids
  have husers := List.nodup_cons.mp h.users
  refine ⟨husers.2, hids.2, ?_⟩
  intro m hm e he
  have hold : e ∈ s.ledger.rows → _ := h.entry m (List.mem_cons_of_mem _ hm) e
  rcases resetMember_cases hstep with ⟨-, -, rfl⟩ | ⟨read, reservations, -, -, ⟨-, rfl, -⟩ | ⟨q, -, quotas, ledger, -, rfl,
    -, -, -, -, hledger⟩⟩
  · exact hold he
  · exact hold he
  · have he : e ∈ ledger.rows := he
    rw [hledger, List.mem_append, List.mem_singleton] at he
    rcases he with he | rfl
    · exact hold he
    · refine ⟨?_, ?_⟩
      · intro hid
        exact hids.1 (List.mem_map.mpr ⟨m, hm, hid.symm⟩)
      · rintro ⟨-, hkey⟩
        injection hkey with _ huser
        exact husers.1 (List.mem_map.mpr ⟨m, hm, huser.symm⟩)

/-- The other members' quotas are read as before. -/
theorem reads_tail (hnodup : ((member :: members).map (·.userId)).Nodup)
    (hreads : ∀ m ∈ member :: members, Reads s call m) (hstep : resetMember s call member = .ok (done, s')) :
    ∀ m ∈ members, m.userId ≠ member.userId ∧ Reads s' call m ∧
      s'.recordsOf call.applicationId m.userId = s.recordsOf call.applicationId m.userId := by
  intro m hm
  have hne : m.userId ≠ member.userId := by
    intro he
    exact (List.nodup_cons.mp hnodup).1 (List.mem_map.mpr ⟨m, hm, he⟩)
  have hrecords := (resetMember_records (hreads member List.mem_cons_self) hstep).2 m.userId hne
  exact ⟨hne, (hreads m (List.mem_cons_of_mem _ hm)).of_quota (congrArg (·.quota) hrecords), hrecords⟩

/-- The loop takes one step in the records of each member, and lists those that failed. -/
theorem resetMembers_steps (hnodup : (members.map (·.userId)).Nodup) (hreads : ∀ m ∈ members, Reads s call m)
    (h : resetMembers call s members = .ok ((succeeded, failed), s')) :
    (∀ u, u ∉ members.map (·.userId) →
      u ∉ failed ∧ s'.recordsOf call.applicationId u = s.recordsOf call.applicationId u) ∧
      ∀ m ∈ members, ∃ done, (m.userId ∈ failed ↔ done = false) ∧
        MemberStep call m (s.recordsOf call.applicationId m.userId) done
          (s'.recordsOf call.applicationId m.userId) := by
  induction members generalizing s s' succeeded failed with
  | nil =>
    cases h
    exact ⟨fun u _ => ⟨List.not_mem_nil, rfl⟩, by simp⟩
  | cons member members ih =>
    obtain ⟨⟨done, s₁⟩, hstep, h⟩ := bind_ok h
    obtain ⟨⟨⟨succeeded₁, failed₁⟩, s₂⟩, hrest, h⟩ := bind_ok h
    have htail := reads_tail hnodup hreads hstep
    obtain ⟨hmine, hothers⟩ := resetMember_records (hreads member List.mem_cons_self) hstep
    obtain ⟨houtside, hmembers⟩ := ih (List.nodup_cons.mp hnodup).2 (fun m hm => (htail m hm).2.1) hrest
    obtain ⟨hnotfailed, hsame⟩ := houtside member.userId (List.nodup_cons.mp hnodup).1
    -- the failed list of the whole is that of the rest, and the member itself if it failed
    have hfailed : s₂ = s' ∧ ∀ u, u ∈ failed ↔ (u = member.userId ∧ done = false) ∨ u ∈ failed₁ := by
      cases done with
      | true => cases h; exact ⟨rfl, by simp⟩
      | false => cases h; exact ⟨rfl, by simp⟩
    obtain ⟨rfl, hfailed⟩ := hfailed
    refine ⟨?_, ?_⟩
    · intro u hu
      rw [List.map_cons, List.mem_cons, not_or] at hu
      obtain ⟨hnot, hrec⟩ := houtside u hu.2
      refine ⟨?_, hrec.trans (hothers u hu.1)⟩
      rw [hfailed]
      rintro (⟨heq, -⟩ | hin)
      · exact hu.1 heq
      · exact hnot hin
    · intro m hm
      rcases List.mem_cons.mp hm with rfl | hm
      · refine ⟨done, ?_, by rw [hsame]; exact hmine⟩
        rw [hfailed]
        simp [hnotfailed]
      · obtain ⟨d, hd, hs⟩ := hmembers m hm
        obtain ⟨hne, -, hrec⟩ := htail m hm
        refine ⟨d, ?_, by rw [← hrec]; exact hs⟩
        rw [hfailed, ← hd]
        simp [hne]

/-- The loop returns when every quota it still matches can start its period. -/
theorem resetMembers_of (hnew : NewMembers s call members) (hreads : ∀ m ∈ members, Reads s call m)
    (hperiods : ∀ m ∈ members, ∀ read q, m.quota = some read →
      s.quotaOf call.applicationId m.userId = some q → q.lockVersion = read.lockVersion →
      ∀ e, groupPeriodEnd read.periodType call.now = some e → call.now < e) :
    ∃ result s', resetMembers call s members = .ok (result, s') := by
  induction members generalizing s with
  | nil => exact ⟨_, _, rfl⟩
  | cons member members ih =>
    obtain ⟨done, s₁, hstep⟩ : ∃ done s₁, resetMember s call member = .ok (done, s₁) := by
      cases hread : member.quota with
      | none => exact ⟨false, s, by unfold resetMember; rw [hread]; rfl⟩
      | some read =>
        obtain ⟨hlimit, current, hcurrent, hid⟩ := hreads member List.mem_cons_self read hread
        obtain ⟨hmem, -, -⟩ := QuotaStore.quotaOf_mem hcurrent
        refine resetMember_of hread hlimit ?_ (hnew.fresh read)
        intro q hq ha hqid hlock
        have hqc : q = current := QuotaStore.quota_eq_of_id hq hmem (hqid.trans hid.symm)
        subst hqc
        exact hperiods member List.mem_cons_self read q hread hcurrent hlock
    have htail := reads_tail hnew.users hreads hstep
    obtain ⟨⟨succeeded, failed⟩, s₂, hrest⟩ := ih (hnew.tail hstep) (fun m hm => (htail m hm).2.1) (by
      intro m hm read q hread hq hlock
      rw [show s₁.quotaOf call.applicationId m.userId = s.quotaOf call.applicationId m.userId from
        congrArg (·.quota) (htail m hm).2.2] at hq
      exact hperiods m (List.mem_cons_of_mem _ hm) read q hread hq hlock)
    exact ⟨_, _, bind_of hstep (bind_of hrest rfl)⟩

end Members

/-! ## Between the read and the reset -/

/-- No quota row goes, or changes hands. -/
def KeepsQuotas (s s' : QuotaStore) : Prop :=
  ∀ q ∈ s.quotas.rows, ∃ q' ∈ s'.quotas.rows, q'.id = q.id ∧ q'.applicationId = q.applicationId ∧ q'.userId = q.userId

theorem KeepsQuotas.trans {s s₁ s' : QuotaStore} (h : KeepsQuotas s s₁) (h' : KeepsQuotas s₁ s') : KeepsQuotas s s' := by
  intro q hq
  obtain ⟨q₁, hq₁, hid, ha, hu⟩ := h q hq
  obtain ⟨q', hq', hid', ha', hu'⟩ := h' q₁ hq₁
  exact ⟨q', hq', hid'.trans hid, ha'.trans ha, hu'.trans hu⟩

theorem Moves.keepsQuotas {s s' : QuotaStore} {ms : List Move} (h : Moves s ms s') : KeepsQuotas s s' := by
  induction h with
  | nil hs => exact fun q hq => ⟨q, by rw [hs.quotas]; exact hq, rfl, rfl, rfl⟩
  | cons ha _ ih => exact KeepsQuotas.trans (fun q hq => ha.quota_kept hq) ih

theorem releasedFor_terms (a u : Uuid) (r : UserAiuReservation) : (releasedFor a u r).terms = r.terms := by
  unfold releasedFor Table.rewrite
  split
  · rfl
  · rfl

theorem resetMember_linked {s s' : QuotaStore} {call : GroupResetCall} {member : GroupMember} {done : Bool}
    (hl : Linked s) (h : resetMember s call member = .ok (done, s')) : Linked s' ∧ KeepsQuotas s s' := by
  have hreservation : ∀ {reservations : Table UserAiuReservation},
      reservations.rows = s.reservations.rows.map (releasedFor call.applicationId member.userId) →
      ∀ r' ∈ reservations.rows, ∃ q ∈ s.quotas.rows, r'.Of q := by
    intro reservations hr r' hr'
    rw [hr] at hr'
    obtain ⟨r, hrm, rfl⟩ := List.mem_map.mp hr'
    obtain ⟨q, hq, hof⟩ := hl.reservation r hrm
    exact ⟨q, hq, hof.of_terms (releasedFor_terms _ _ r)⟩
  rcases resetMember_cases h with ⟨-, -, rfl⟩ | ⟨read, reservations, -, hr, ⟨-, rfl, -⟩ | ⟨q, hq, quotas, ledger, -, rfl,
    ha, hid, -, hquotas, hledger⟩⟩
  · exact ⟨hl, fun q hq => ⟨q, hq, rfl, rfl, rfl⟩⟩
  · exact ⟨⟨hreservation hr, hl.entry⟩, fun q hq => ⟨q, hq, rfl, rfl, rfl⟩⟩
  · have hkept : KeepsQuotas s { s with quotas, reservations, ledger } := by
      intro x hx
      by_cases hxq : x = q
      · exact ⟨_, by rw [hquotas]; exact (mem_replace hq).mpr (Or.inl rfl), by rw [hxq]; exact ⟨rfl, rfl, rfl⟩⟩
      · exact ⟨x, by rw [hquotas]; exact (mem_replace hq).mpr (Or.inr ⟨hx, hxq⟩), rfl, rfl, rfl⟩
    refine ⟨⟨?_, ?_⟩, hkept⟩
    · intro r' hr'
      obtain ⟨x, hx, hof⟩ := hreservation hr r' hr'
      obtain ⟨x', hx', hid', ha', hu'⟩ := hkept x hx
      exact ⟨x', hx', hof.1.trans hid'.symm, hof.2.1.trans ha'.symm, hof.2.2.trans hu'.symm⟩
    · intro e he
      rw [hledger, List.mem_append, List.mem_singleton] at he
      obtain ⟨x, hx, hidx, hax⟩ : ∃ x ∈ s.quotas.rows, e.quotaId = x.id ∧ e.applicationId = x.applicationId := by
        rcases he with he | rfl
        · exact hl.entry e he
        · exact ⟨q, hq, hid.symm, ha.symm⟩
      obtain ⟨x', hx', hid', ha', -⟩ := hkept x hx
      exact ⟨x', hx', hidx.trans hid'.symm, hax.trans ha'.symm⟩

theorem resetMembers_linked {s s' : QuotaStore} {call : GroupResetCall} {members : List GroupMember}
    {result : Nat × List Uuid} (hl : Linked s) (h : resetMembers call s members = .ok (result, s')) :
    Linked s' ∧ KeepsQuotas s s' := by
  induction members generalizing s result s' with
  | nil =>
    cases h
    exact ⟨hl, fun q hq => ⟨q, hq, rfl, rfl, rfl⟩⟩
  | cons member members ih =>
    obtain ⟨⟨done, s₁⟩, hstep, h⟩ := bind_ok h
    obtain ⟨⟨⟨succeeded, failed⟩, s₂⟩, hrest, h⟩ := bind_ok h
    cases h
    obtain ⟨hl₁, hk₁⟩ := resetMember_linked hl hstep
    obtain ⟨hl₂, hk₂⟩ := ih hl₁ hrest
    exact ⟨hl₂, hk₁.trans hk₂⟩

variable (settings : ReservationSettings)

theorem execUser_linked {s s' : QuotaStore} {op : UserOp} {answer : Answer ⊕ GroupResetOutcome} (hl : Linked s)
    (h : execUser settings s op = .ok (answer, s')) : Linked s' ∧ KeepsQuotas s s' := by
  cases op with
  | quota op =>
    obtain ⟨⟨a, s₁⟩, hexec, h⟩ := bind_ok h
    cases h
    obtain ⟨ms, hms, -, -⟩ := exec_moves hl hexec
    exact ⟨hms.linked hl, hms.keepsQuotas⟩
  | groupReset call =>
    obtain ⟨⟨outcome, s₁⟩, hexec, h⟩ := bind_ok h
    cases h
    obtain ⟨⟨⟨succeeded, failed⟩, s₂⟩, hmembers, hexec⟩ := bind_ok hexec
    cases hexec
    exact resetMembers_linked hl hmembers

theorem runUser_linked {s : QuotaStore} (hl : Linked s) (ops : List UserOp) :
    Linked ((userSystem settings).run s ops) ∧ KeepsQuotas s ((userSystem settings).run s ops) := by
  refine Machine.run_invariant (m := userSystem settings) (P := fun x => Linked x ∧ KeepsQuotas s x) ?_ ops s
    ⟨hl, fun q hq => ⟨q, hq, rfl, rfl, rfl⟩⟩
  intro x op answer x' hx hexec
  obtain ⟨hl', hk'⟩ := execUser_linked settings hx.1 hexec
  exact ⟨hl', hx.2.trans hk'⟩

/-! ## Isolation -/

/-- The quota has the lock version that was read. -/
def GroupMember.isCurrent (s : QuotaStore) (call : GroupResetCall) (member : GroupMember) : Bool :=
  match member.quota, s.quotaOf call.applicationId member.userId with
  | some read, some quota => quota.lockVersion == read.lockVersion
  | _, _ => false

/-- The counters are zero, nothing is open, and the ledger has one entry more. -/
structure WasReset (s s' : QuotaStore) (applicationId userId : Uuid) : Prop where
  quota : ∃ q, s'.quotaOf applicationId userId = some q ∧ q.consumedAiuMicros = 0 ∧ q.reservedAiuMicros = 0
  closed : ∀ r ∈ s'.reservations.rows, r.applicationId = applicationId → r.userId = userId → r.status ≠ .reserved
  entry : ∃ e, (s'.recordsOf applicationId userId).ledger = (s.recordsOf applicationId userId).ledger ++ [e]

/-- The reset returns; the members it reports as failed, those without a quota or with one
    that changed, keep their records, and the others are reset. -/
def Isolates (s : QuotaStore) (call : GroupResetCall) : Prop :=
  ∃ outcome s', resetQuotas s call = .ok (outcome, s') ∧ ∀ m ∈ call.members,
    (m.userId ∈ outcome.failedUserIds ↔ m.isCurrent s call = false) ∧
    (m.userId ∈ outcome.failedUserIds →
      s'.recordsOf call.applicationId m.userId = s.recordsOf call.applicationId m.userId) ∧
    (m.userId ∉ outcome.failedUserIds → WasReset s s' call.applicationId m.userId)

/-- What the members need for that: a quota that will be reset has a period that can be
    started now, and a quota that changed has nothing reserved. -/
def Spared (s : QuotaStore) (call : GroupResetCall) : Prop :=
  ∀ m ∈ call.members, ∀ read ∈ m.quota,
    if m.isCurrent s call then read.periodType ≠ .fixedWindow ∧ read.periodType ≠ .unknown
    else ∀ r ∈ s.reservations.rows, r.applicationId = call.applicationId → r.userId = m.userId → r.status ≠ .reserved

instance (s : QuotaStore) (call : GroupResetCall) : Decidable (Spared s call) :=
  inferInstanceAs (Decidable (∀ m ∈ call.members, ∀ read ∈ m.quota, _))

theorem groupPeriodEnd_after (type : QuotaPeriodType) (now : Timestamp) :
    (∀ e, groupPeriodEnd type now = some e → now < e) ↔ type ≠ .fixedWindow ∧ type ≠ .unknown := by
  have hmonth := addUtcMonth_after now
  cases type with
  | calendarDay => simpa [groupPeriodEnd] using Int.lt_add_of_pos_right now (show 0 < msPerDay by decide)
  | calendarWeek => simpa [groupPeriodEnd] using Int.lt_add_of_pos_right now (show 0 < 7 * msPerDay by decide)
  | calendarMonth => simpa [groupPeriodEnd] using hmonth
  | fixedWindow => simp [groupPeriodEnd]
  | lifetime => simp [groupPeriodEnd]
  | unknown => simp [groupPeriodEnd]

section Isolation

variable {settings} {s s' : QuotaStore} {call : GroupResetCall} {member : GroupMember} {done : Bool}

theorem isCurrent_iff {read : UserAiuQuota} (hread : member.quota = some read) :
    member.isCurrent s call = true ↔
      ∃ q, s.quotaOf call.applicationId member.userId = some q ∧ q.lockVersion = read.lockVersion := by
  unfold GroupMember.isCurrent
  rw [hread]
  cases s.quotaOf call.applicationId member.userId with
  | none => simp
  | some q => simp

/-- What a step says of a member: it fails when the quota is not current, and a member that
    failed keeps its records when it had no quota or nothing open. -/
theorem MemberStep.outcome
    (h : MemberStep call member (s.recordsOf call.applicationId member.userId) done
      (s'.recordsOf call.applicationId member.userId)) :
    (done = false ↔ member.isCurrent s call = false) ∧
    (done = false → (s'.recordsOf call.applicationId member.userId = s.recordsOf call.applicationId member.userId ↔
      (member.quota = none ∨ ∀ r ∈ s.reservations.rows, r.applicationId = call.applicationId →
        r.userId = member.userId → r.status ≠ .reserved))) ∧
    (done = true → WasReset s s' call.applicationId member.userId ∧
      ∀ read, member.quota = some read → read.periodType ≠ .fixedWindow ∧ read.periodType ≠ .unknown) := by
  generalize hafter : s'.recordsOf call.applicationId member.userId = after at h
  cases h with
  | absent hnone =>
    refine ⟨?_, ?_, by simp⟩
    · simp [GroupMember.isCurrent, hnone]
    · simp [hnone]
  | @changed read hread hlock =>
    refine ⟨?_, ?_, by simp⟩
    · have hnot : ¬ member.isCurrent s call = true := by
        rw [isCurrent_iff hread]
        rintro ⟨q, hq, hsame⟩
        exact hlock q hq hsame
      simpa using hnot
    · intro _
      rw [hread, UserRecords.mk.injEq]
      simp only [reduceCtorEq, false_or, true_and, and_true]
      exact map_releasedFor_eq s.reservations.rows
  | @reset read q hread hq hlock hperiod =>
    refine ⟨?_, by simp, ?_⟩
    · have hcurrent : member.isCurrent s call = true := (isCurrent_iff hread).mpr ⟨q, hq, hlock⟩
      simp [hcurrent]
    · intro _
      have hquota := congrArg UserRecords.quota hafter
      have hreservations := congrArg UserRecords.reservations hafter
      have hledger := congrArg UserRecords.ledger hafter
      refine ⟨⟨⟨_, hquota, rfl, rfl⟩, ?_, ⟨_, hledger⟩⟩, ?_⟩
      · intro r hr ha hu hst
        have hmem : r ∈ (s'.recordsOf call.applicationId member.userId).reservations :=
          List.mem_filter.mpr ⟨hr, by simp [ha, hu]⟩
        rw [hreservations] at hmem
        obtain ⟨x, hx, rfl⟩ := List.mem_map.mp hmem
        -- what is open of the member has been released
        unfold releasedFor Table.rewrite at ha hu hst
        split at hst
        · cases hst
        · rename_i hopen
          rw [if_neg hopen] at ha hu
          simp [ha, hu, hst] at hopen
      · intro read' hread'
        rw [hread] at hread'
        cases hread'
        exact (groupPeriodEnd_after _ _).mp hperiod

theorem isolates_iff (hnew : NewMembers s call call.members) (hreads : ∀ m ∈ call.members, Reads s call m) :
    Isolates s call ↔ Spared s call := by
  constructor
  · intro hyp
    obtain ⟨outcome, s', h, hmembers⟩ := hyp
    obtain ⟨⟨⟨succeeded, failed⟩, s₁⟩, hrun, h⟩ := bind_ok h
    cases h
    intro m hm read hread
    obtain ⟨done, hdone, hstep⟩ := (resetMembers_steps hnew.users hreads hrun).2 m hm
    obtain ⟨hcurrent, hkept, hreset⟩ := hstep.outcome
    obtain ⟨-, hfailed, -⟩ := hmembers m hm
    cases done with
    | true =>
      have hc : m.isCurrent s call = true := by
        cases hb : m.isCurrent s call with
        | true => rfl
        | false => exact absurd (hcurrent.mpr hb) (by decide)
      rw [if_pos hc]
      exact (hreset rfl).2 read hread
    | false =>
      rw [if_neg (by rw [hcurrent.mp rfl]; decide)]
      rcases (hkept rfl).mp (hfailed (hdone.mpr rfl)) with hnone | hopen
      · rw [hread] at hnone
        cases hnone
      · exact hopen
  · intro hspared
    obtain ⟨⟨succeeded, failed⟩, s', hrun⟩ := resetMembers_of hnew hreads (by
      intro m hm read q hread hq hlock
      have hcond := hspared m hm read hread
      rw [if_pos ((isCurrent_iff hread).mpr ⟨q, hq, hlock⟩)] at hcond
      exact (groupPeriodEnd_after _ _).mpr hcond)
    refine ⟨_, s', bind_of hrun rfl, ?_⟩
    intro m hm
    obtain ⟨done, hdone, hstep⟩ := (resetMembers_steps hnew.users hreads hrun).2 m hm
    obtain ⟨hcurrent, hkept, hreset⟩ := hstep.outcome
    refine ⟨hdone.trans hcurrent, ?_, ?_⟩
    · intro hfailed
      have hfalse := hdone.mp hfailed
      refine (hkept hfalse).mpr ?_
      cases hread : m.quota with
      | none => exact Or.inl rfl
      | some read =>
        have hcond := hspared m hm read hread
        rw [if_neg (by rw [hcurrent.mp hfalse]; decide)] at hcond
        exact Or.inr hcond
    · intro hnot
      refine (hreset ?_).1
      cases done with
      | true => rfl
      | false => exact absurd (hdone.mpr rfl) hnot

/-- What was read in a state of a run is read as the user's quota in every later one. -/
theorem reads_later (before between : List UserOp)
    (hread : member.quota =
      ((userSystem settings).run .empty before).quotaOf call.applicationId member.userId) :
    Reads ((userSystem settings).run .empty (before ++ between)) call member := by
  intro read hsome
  rw [hread] at hsome
  obtain ⟨hmem, ha, hu⟩ := QuotaStore.quotaOf_mem hsome
  refine ⟨(QuotaStore.quota_counters hmem).1, ?_⟩
  have hl : Linked ((userSystem settings).run .empty before) := (runUser_linked settings empty_linked before).1
  rw [Machine.run_append]
  obtain ⟨q, hq, hid, ha', hu'⟩ := (runUser_linked settings hl between).2 read hmem
  exact ⟨q, QuotaStore.quotaOf_iff.mpr ⟨hq, ha'.trans ha, hu'.trans hu⟩, hid⟩

end Isolation

/-- The members of an evaluation are read in any state of a run and reset in any later one. -/
theorem group_reset_isolates_iff (before between : List UserOp) (call : GroupResetCall)
    (hread : ∀ m ∈ call.members, m.quota =
      ((userSystem settings).run .empty before).quotaOf call.applicationId m.userId)
    (hnew : NewMembers ((userSystem settings).run .empty (before ++ between)) call call.members) :
    Isolates ((userSystem settings).run .empty (before ++ between)) call ↔
      Spared ((userSystem settings).run .empty (before ++ between)) call :=
  isolates_iff hnew fun m hm => reads_later before between (hread m hm)

namespace Sample

/-- A group of the one user and of one that has no quota, as the reads of the group found them. -/
def groupCall (read : QuotaStore) : GroupResetCall :=
  ⟨0, 50, "new month", 2000, [⟨1, read.quotaOf 0 1, 700, ⟨700, 2000⟩⟩, ⟨8, read.quotaOf 0 8, 701, ⟨701, 2000⟩⟩]⟩

theorem groupCall_reads (read : QuotaStore) :
    ∀ m ∈ (groupCall read).members, m.quota = read.quotaOf (groupCall read).applicationId m.userId := by
  intro m hm
  simp only [groupCall, List.mem_cons, List.not_mem_nil, or_false] at hm
  rcases hm with rfl | rfl
  · rfl
  · rfl

/-- The entries before those of the group are older, and none is a group's. -/
theorem groupCall_new {s : QuotaStore} (read : QuotaStore)
    (h : ∀ e ∈ s.ledger.rows, e.id < 700 ∧ ∀ m ∈ (groupCall read).members,
      e.idempotencyKey ≠ .groupQuotaReset 50 m.userId m.nonce) :
    NewMembers s (groupCall read) (groupCall read).members := by
  refine ⟨by simp [groupCall], by simp [groupCall], ?_⟩
  intro m hm e he
  obtain ⟨hid, hkey⟩ := h e he
  refine ⟨?_, fun hboth => hkey m hm hboth.2⟩
  simp only [groupCall, List.mem_cons, List.not_mem_nil, or_false] at hm
  rcases hm with rfl | rfl
  · exact Nat.ne_of_lt hid
  · exact Nat.ne_of_lt (Nat.lt_succ_of_lt hid)

def granted : List UserOp := [.quota known, .quota (saveDaily 10)]

/-- A reservation of 5, made after the members were read. -/
def reserving : List UserOp := [.quota (create 7 "call-1" 5 1000)]

def saveFixed : Op := .save { dailyCall 10 with
  periodType := .fixedWindow
  fixed := some (0, 86400000) }

end Sample

open Sample in
/-- The quota is as it was read and of a calendar day; the other member has none. -/
theorem group_of_a_daily_quota_isolates :
    let s := (userSystem service).run .empty (granted ++ [.quota known])
    let call := groupCall ((userSystem service).run .empty granted)
    Spared s call ∧ Isolates s call := by
  intro s call
  have hspared : Spared s call := by decide +kernel
  exact ⟨hspared, (group_reset_isolates_iff service granted [.quota known] call (groupCall_reads _)
    (groupCall_new _ (by decide +kernel))).mpr hspared⟩

open Sample in
/-- A reservation made after the members were read stays released though the member failed,
    and one quota of a fixed window fails the transaction. -/
theorem group_reset_does_not_isolate :
    (let s := (userSystem service).run .empty (granted ++ reserving)
     let call := groupCall ((userSystem service).run .empty granted)
     ¬ Isolates s call) ∧
    (let s := (userSystem service).run .empty ([.quota known, .quota saveFixed] ++ [])
     ¬ Isolates s (groupCall s)) := by
  constructor
  · intro s call hisolates
    have hspared := (isolates_iff (groupCall_new _ (by decide +kernel))
      fun m hm => reads_later granted reserving (groupCall_reads _ m hm)).mp hisolates
    revert hspared
    decide +kernel
  · intro s hisolates
    have hspared := (isolates_iff (groupCall_new _ (by decide +kernel))
      fun m hm => reads_later [.quota known, .quota saveFixed] [] (groupCall_reads _ m hm)).mp hisolates
    revert hspared
    decide +kernel

end TokenPilot.Quota
