/-
  TokenPilot.Quota.Idempotence — a client that sends a reservation request again.

  Between a request and its retry anything may happen to the store: other requests,
  administrators, the sweeper, the worker on the same operation's events. What a
  retry is compared with is the reservation's row, and of the row only the status and
  the settled amount ever change (`run_reservation_kept`): an open reservation may be
  closed, a closed one keeps its status.

  Main result: `reservation_retries`. A repeated `create` never reserves again, and
  while the reservation is open it answers with the same id and token; a repeated
  `settle` succeeds without a change while the settled amount is still the one it
  settled; a repeated `release` always does. A request that disagrees with the
  reservation is refused. A `create` says this only where it gets to its duplicate
  check (`Admitted`): a blocked user, a quota that is soft or disabled, or a fixed window
  that ended is answered before it. `retries_refused` has the requests that are
  answered otherwise.
-/

import TokenPilot.Quota.SharedReservation

namespace TokenPilot.Quota

open TokenPilot.Library

variable {settings : ReservationSettings}

/-! ## Candidates -/

/-- The candidates of a call are the ones resolved for its request. -/
def Resolved (call : CreateCall) : Prop := ∃ available, resolveCandidates available call.request = .ok call.candidates

theorem Resolved.sorted {call : CreateCall} (h : Resolved call) :
    call.candidates.Pairwise (· ≤ ·) ∧ call.candidates.Nodup := by
  obtain ⟨available, h⟩ := h
  unfold resolveCandidates at h
  split at h
  · cases h
  dsimp only at h
  split at h
  · cases h
  rw [← Except.ok.inj h]
  exact ⟨List.pairwise_insertionSort _ _, (List.perm_insertionSort _ _).nodup_iff.mpr (eraseDups_nodup _)⟩

/-- A candidate set has one resolved list. -/
theorem Resolved.eq {call call' : CreateCall} (h : Resolved call) (h' : Resolved call')
    (hmem : ∀ id, id ∈ call'.candidates ↔ id ∈ call.candidates) : call'.candidates = call.candidates := by
  have hperm : List.Perm call'.candidates call.candidates :=
    (List.perm_ext_iff_of_nodup h'.sorted.2 h.sorted.2).mpr hmem
  exact hperm.eq_of_pairwise (fun _ _ _ _ => Nat.le_antisymm) h'.sorted.1 h.sorted.1

/-! ## The reservation of an answer -/

/-- The reservation as an answer gives it out. -/
def UserAiuReservation.issue (codec : UserReservationTokenCodec) (r : UserAiuReservation) : IssuedReservation :=
  ⟨r.id, codec.sign (reservationClaims r), r.reservedAiuMicros, r.expiresAt⟩

/-- The row is what the call asked for, and its token is on record. -/
structure Serves (codec : UserReservationTokenCodec) (call : CreateCall) (r : UserAiuReservation) : Prop where
  isRepeat : call.isRepeat r = true
  virtualModel : r.virtualModel = call.request.virtualModel
  estimate : r.estimatedAiuMicros = call.request.estimatedAiuMicros
  candidates : r.candidateModelIds.insertionSort (· ≤ ·) = call.candidates
  token : codec.hash (codec.sign (reservationClaims r)) = r.tokenHash

theorem isRepeat_iff {call : CreateCall} {r : UserAiuReservation} :
    call.isRepeat r = true ↔
      (r.applicationId = call.applicationId ∧ r.userId = call.userId) ∧ r.operationId = call.request.operationId := by
  simp [CreateCall.isRepeat]

theorem existing_ok {codec : UserReservationTokenCodec} {row : UserAiuReservation} {quota : Option UserAiuQuota}
    {request : UserReservationRequest} {candidates : List Uuid} {answer : ReservationAnswer}
    (h : existing codec row quota request candidates = .ok answer) :
    (row.virtualModel = request.virtualModel ∧ row.estimatedAiuMicros = request.estimatedAiuMicros ∧
      row.candidateModelIds.insertionSort (· ≤ ·) = candidates) ∧
    ((row.status ≠ .reserved ∧ answer.reservation = none) ∨
      (row.status = .reserved ∧ codec.hash (codec.sign (reservationClaims row)) = row.tokenHash ∧
        answer.allowed = true ∧ answer.reservation = some (row.issue codec))) := by
  unfold existing at h
  split at h
  · cases h
  rename_i hsame
  rw [not_or, not_or, not_not, not_not, not_not] at hsame
  refine ⟨hsame, ?_⟩
  split at h
  · cases h
    exact Or.inl ⟨‹_›, rfl⟩
  rename_i hopen
  dsimp only at h
  split at h
  · cases h
  rename_i hhash
  cases h
  exact Or.inr ⟨not_not.mp hopen, not_not.mp hhash, rfl, rfl⟩

theorem existing_open {codec : UserReservationTokenCodec} {call : CreateCall} {r : UserAiuReservation}
    {quota : Option UserAiuQuota} (h : Serves codec call r) (hopen : r.status = .reserved) :
    existing codec r quota call.request call.candidates =
      .ok ⟨true, .reserved, reservationUserSummary r.userId quota, some (r.issue codec)⟩ := by
  unfold existing
  rw [if_neg (by simp [h.virtualModel, h.estimate, h.candidates]), if_neg (not_not_intro hopen)]
  dsimp only
  rw [if_neg (not_not_intro h.token)]
  rfl

theorem Serves.of_terms {codec : UserReservationTokenCodec} {call : CreateCall} {r r' : UserAiuReservation}
    (h : Serves codec call r) (ht : r'.terms = r.terms) : Serves codec call r' ∧ r'.issue codec = r.issue codec := by
  have hclaims : reservationClaims r' = reservationClaims r :=
    (congrArg reservationClaims ht : reservationClaims r'.terms = reservationClaims r.terms)
  have hhash : r'.tokenHash = r.tokenHash := congrArg (·.tokenHash) ht
  refine ⟨⟨?_, ?_, ?_, ?_, ?_⟩, ?_⟩
  · exact (congrArg call.isRepeat ht : call.isRepeat r'.terms = call.isRepeat r.terms).trans h.isRepeat
  · exact (congrArg (·.virtualModel) ht : r'.virtualModel = r.virtualModel).trans h.virtualModel
  · exact (congrArg (·.estimatedAiuMicros) ht : r'.estimatedAiuMicros = r.estimatedAiuMicros).trans h.estimate
  · exact (congrArg (fun x => x.candidateModelIds.insertionSort (· ≤ ·)) ht :
      r'.candidateModelIds.insertionSort (· ≤ ·) = r.candidateModelIds.insertionSort (· ≤ ·)).trans h.candidates
  · rw [hclaims, hhash]
    exact h.token
  · exact (congrArg (UserAiuReservation.issue codec) ht : r'.terms.issue codec = r.terms.issue codec)

/-- A `create` that gave out a reservation left the row it gave out. -/
theorem create_serves {s s' : QuotaStore} {call : CreateCall} {answer : ReservationAnswer} {issued : IssuedReservation}
    (hcand : Resolved call) (h : createReservation settings s call = .ok (answer, s'))
    (hissued : answer.reservation = some issued) :
    ∃ r ∈ s'.reservations.rows, Serves settings.codec call r ∧ issued = r.issue settings.codec := by
  obtain ⟨a, s₁, h₁, ⟨-, hnone, -⟩ | ⟨quota, q₂, s₂, hadm, h₂, h⟩⟩ := createReservation_ok h
  · rw [hnone] at hissued
    cases hissued
  rcases h with ⟨row, hrow, rfl, h⟩ | ⟨-, h⟩
  · -- itself a repeat
    obtain ⟨hmem, hrep⟩ := Table.find?_mem hrow
    obtain ⟨hsame, ⟨-, hnone⟩ | ⟨-, htoken, -, hres⟩⟩ := existing_ok h
    · rw [hnone] at hissued
      cases hissued
    · rw [hres] at hissued
      cases hissued
      exact ⟨row, hmem, ⟨hrep, hsame.1, hsame.2.1, hsame.2.2, htoken⟩, rfl⟩
  · unfold reserve at h
    dsimp only at h
    split at h
    · cases h
      cases hissued
    obtain ⟨⟨s₃, n⟩, h₃, h⟩ := bind_ok h
    obtain ⟨_, -, h⟩ := bind_ok h
    obtain ⟨s₄, h₄, h⟩ := bind_ok h
    obtain ⟨s₅, h₅, h⟩ := bind_ok h
    cases h
    cases hissued
    obtain ⟨-, reservations, rfl, hr⟩ := QuotaStore.insertReservation_ok h₄
    obtain ⟨-, ledger, rfl, -⟩ := QuotaStore.insertLedgerEntry_ok h₅
    refine ⟨newReservation settings call call.userId q₂, ?_, ⟨?_, rfl, rfl, ?_, rfl⟩, rfl⟩
    · rw [hr]
      simp
    · exact isRepeat_iff.mpr ⟨⟨rfl, rfl⟩, rfl⟩
    · exact hcand.sorted.1.insertionSort_eq

/-! ## Repeated `create` -/

/-- The second call asks for what the first did. -/
structure SameRequest (call call' : CreateCall) : Prop where
  applicationId : call'.applicationId = call.applicationId
  userId : call'.userId = call.userId
  operationId : call'.request.operationId = call.request.operationId
  virtualModel : call'.request.virtualModel = call.request.virtualModel
  estimate : call'.request.estimatedAiuMicros = call.request.estimatedAiuMicros
  candidates : ∀ id, id ∈ call'.candidates ↔ id ∈ call.candidates

theorem Serves.of_same {codec : UserReservationTokenCodec} {call call' : CreateCall} {r : UserAiuReservation}
    (h : Serves codec call r) (hsame : SameRequest call call') (hc : Resolved call) (hc' : Resolved call') :
    Serves codec call' r := by
  refine ⟨isRepeat_iff.mpr ?_, h.virtualModel.trans hsame.virtualModel.symm, ?_, ?_, h.token⟩
  · rw [hsame.applicationId, hsame.userId, hsame.operationId]
    exact isRepeat_iff.mp h.isRepeat
  · rw [hsame.estimate]
    exact h.estimate
  · rw [hc.eq hc' hsame.candidates]
    exact h.candidates

theorem find?_repeat {s : QuotaStore} {call : CreateCall} {r : UserAiuReservation} (hr : r ∈ s.reservations.rows)
    (h : call.isRepeat r = true) : s.reservations.rows.find? call.isRepeat = some r :=
  s.reservations.find?_of_clash hr h fun x hx => by
    have hr' := isRepeat_iff.mp h
    have hx' := isRepeat_iff.mp hx
    simp [Row.clash, hr'.1, hr'.2, hx'.1, hx'.2]

/-- No quota has more reserved after the moves than before. -/
def NothingReserved (s s' : QuotaStore) : Prop :=
  ∀ q' ∈ s'.quotas.rows, ∃ q ∈ s.quotas.rows, q.id = q'.id ∧ q'.reservedAiuMicros ≤ q.reservedAiuMicros

theorem NothingReserved.refl (s : QuotaStore) : NothingReserved s s := fun q hq => ⟨q, hq, rfl, Int.le_refl _⟩

theorem NothingReserved.trans {s s₁ s' : QuotaStore} (h : NothingReserved s s₁) (h' : NothingReserved s₁ s') :
    NothingReserved s s' := by
  intro q' hq'
  obtain ⟨q₁, hq₁, hid₁, hle₁⟩ := h' q' hq'
  obtain ⟨q, hq, hid, hle⟩ := h q₁ hq₁
  exact ⟨q, hq, hid.trans hid₁, Int.le_trans hle₁ hle⟩

/-- A change of an existing quota's settings or period reserves nothing. -/
theorem NothingReserved.of_configures {m : Move} {s s' : QuotaStore} (happ : m.Applies s s')
    (hm : m.change.configures = true) (hgrant : m.change ≠ .grant) : NothingReserved s s' := by
  intro q' hq'
  rcases happ.quota_iff.mp hq' with rfl | ⟨hq, -⟩
  · have hq := happ.guard.mem hgrant
    refine ⟨m.quota, hq, m.same.1.symm, ?_⟩
    rw [m.reserved]
    have hc := QuotaStore.quota_counters hq
    cases hm' : m.change with
    | grant => exact absurd hm' hgrant
    | settings => exact Int.le_refl _
    | renew closed => exact hc.2.2
    | _ => rw [hm'] at hm; cases hm
  · exact ⟨q', hq, rfl, Int.le_refl _⟩

theorem materialize_reserves_nothing {s s' : QuotaStore} {input : MaterializeInput} {ids : MaterializeIds}
    {a : Option UserAiuQuota} (hl : Linked s) {q : UserAiuQuota}
    (hq : s.quotaOf input.applicationId input.userId = some q)
    (h : materializeEffectiveAiuQuotaPolicy s input ids = .ok (a, s')) : NothingReserved s s' := by
  unfold materializeEffectiveAiuQuotaPolicy at h
  rw [hq] at h
  dsimp only at h
  split at h
  · rcases withdrawPolicy_moves hq h with rfl | ⟨m, hm, happ⟩
    · exact .refl _
    · exact .of_configures happ (by rw [hm]; rfl) (by simp [hm])
  · obtain ⟨window, -, h⟩ := bind_ok h
    rcases applyPolicy_moves hl hq h with rfl | ⟨m, hm | ⟨closed, hm⟩, happ⟩
    · exact .refl _
    · exact .of_configures happ (by rw [hm]; rfl) (by simp [hm])
    · exact .of_configures happ (by rw [hm]; rfl) (by simp [hm])

theorem materialize_reservation_kept {s s' : QuotaStore} {input : MaterializeInput} {ids : MaterializeIds}
    {a : Option UserAiuQuota} (hl : Linked s) (h : materializeEffectiveAiuQuotaPolicy s input ids = .ok (a, s'))
    {r : UserAiuReservation} (hr : r ∈ s.reservations.rows) : ∃ r' ∈ s'.reservations.rows, r'.terms = r.terms := by
  rcases materialize_moves hl h with rfl | ⟨m, -, happ⟩
  · exact ⟨r, hr, rfl⟩
  · obtain ⟨r', hr', ht, -⟩ := (Moves.one happ).reservation_kept hr
    exact ⟨r', hr', ht⟩

/-- The quota a reservation is of is the one its user's requests read. -/
theorem Linked.quotaOf {s : QuotaStore} (hl : Linked s) {r : UserAiuReservation} (hr : r ∈ s.reservations.rows) :
    ∃ q, s.quotaOf r.applicationId r.userId = some q := by
  obtain ⟨q, hq, -, ha, hu⟩ := hl.reservation r hr
  exact ⟨q, by rw [ha, hu]; exact QuotaStore.quotaOf_of hq⟩

/-- A `create` on an operation that has a reservation reserves nothing: it stops before the
    duplicate check, or is answered from the reservation. -/
theorem create_known {s s' : QuotaStore} (hl : Linked s) {call : CreateCall} {r : UserAiuReservation}
    (hr : r ∈ s.reservations.rows) (hrep : call.isRepeat r = true) {answer : ReservationAnswer}
    (h : createReservation settings s call = .ok (answer, s')) :
    NothingReserved s s' ∧
      ∃ a s₁, materializeEffectiveAiuQuotaPolicy s call.policyInput call.policyIds = .ok (a, s₁) ∧
        ((∀ quota, ¬ Admitted s₁ call quota) ∨
          ∃ r' quota, r'.terms = r.terms ∧
            existing settings.codec r' quota call.request call.candidates = .ok answer) := by
  obtain ⟨a, s₁, h₁, h⟩ := createReservation_ok h
  have hid := isRepeat_iff.mp hrep
  obtain ⟨q, hq⟩ := hl.quotaOf hr
  rw [hid.1.1, hid.1.2] at hq
  have hpolicy : NothingReserved s s₁ := materialize_reserves_nothing hl hq h₁
  rcases h with ⟨rfl, -, hno⟩ | ⟨quota, q₂, s₂, hadm, h₂, h⟩
  · exact ⟨hpolicy, a, s', h₁, Or.inl hno⟩
  have hl₁ : Linked s₁ := materialize_linked hl h₁
  obtain ⟨r₁, hr₁, ht₁⟩ := materialize_reservation_kept hl h₁ hr
  obtain ⟨hmem, -, -⟩ := QuotaStore.quotaOf_mem hadm.quotaOf
  obtain ⟨hover, r₂, hr₂, ht₂⟩ : NothingReserved s₁ s₂ ∧ ∃ r₂ ∈ s₂.reservations.rows, r₂.terms = r₁.terms := by
    rcases rollover_moves hl₁ hmem h₂ with ⟨rfl, -⟩ | ⟨m, hm, -, -, -, -, -, happ⟩
    · exact ⟨.refl _, r₁, hr₁, rfl⟩
    · obtain ⟨r₂, hr₂, ht₂, -⟩ := (Moves.one happ).reservation_kept hr₁
      exact ⟨.of_configures happ (by rw [hm]; rfl) (by simp [hm]), r₂, hr₂, ht₂⟩
  have hrep₂ : call.isRepeat r₂ = true :=
    (congrArg call.isRepeat (ht₂.trans ht₁) : call.isRepeat r₂.terms = call.isRepeat r.terms).trans hrep
  rcases h with ⟨row, hrow, rfl, hexisting⟩ | ⟨hnone, -⟩
  · rw [find?_repeat hr₂ hrep₂] at hrow
    cases hrow
    exact ⟨hpolicy.trans hover, a, s₁, h₁, Or.inr ⟨r₂, _, ht₂.trans ht₁, hexisting⟩⟩
  · rw [find?_repeat hr₂ hrep₂] at hnone
    cases hnone

theorem repeat_reserves_nothing {s : QuotaStore} (hl : Linked s) {call : CreateCall} {r : UserAiuReservation}
    (hr : r ∈ s.reservations.rows) (hrep : call.isRepeat r = true) :
    NothingReserved s ((system settings).step s (.create call)) := by
  rcases (system settings).step_cases s (.create call) with ⟨o, h⟩ | h
  · obtain ⟨answer, h⟩ := answered_ok h
    exact (create_known hl hr hrep h).1
  · rw [h]
    exact .refl s

/-- The period of the quota is not over at the rollover check. -/
def PeriodRuns (call : CreateCall) (quota : UserAiuQuota) : Prop :=
  ∀ periodEnd, quota.periodEnd = some periodEnd → call.clock.due < periodEnd

theorem rollover_idle {s : QuotaStore} {quota : UserAiuQuota} {call : CreateCall} (h : PeriodRuns call quota) :
    rolloverReservationQuota s quota call.userId call.applicationId call.timezone call.clock call.rolloverEntry =
      .ok (quota, s) := by
  unfold rolloverReservationQuota
  split
  · rfl
  · rw [if_pos (h _ ‹_›)]
    rfl

/-- A repeated `create` that gets to the duplicate check with the reservation still open
    gives out the reservation again. -/
theorem repeat_open {s s₁ : QuotaStore} {a : Option UserAiuQuota} {call : CreateCall} {quota : UserAiuQuota}
    {r : UserAiuReservation}
    (h₁ : materializeEffectiveAiuQuotaPolicy s call.policyInput call.policyIds = .ok (a, s₁))
    (hadm : Admitted s₁ call quota) (hperiod : PeriodRuns call quota) (hr : r ∈ s₁.reservations.rows)
    (hserves : Serves settings.codec call r) (hopen : r.status = .reserved) :
    ∃ answer, createReservation settings s call = .ok (answer, s₁) ∧ answer.allowed = true ∧
      answer.reservation = some (r.issue settings.codec) := by
  obtain ⟨u, hu, hid, hactive⟩ := hadm.user
  have hfind : s₁.users.rows.find? (fun x => x.applicationId == call.applicationId && x.id == call.userId) = some u :=
    s₁.users.find?_of_clash hu (by simp [hid.1, hid.2]) fun x hx => by
      simp only [Bool.and_eq_true, beq_iff_eq] at hx
      simp [Row.clash, hx.2, hid.2]
  have hrepeat : s₁.reservations.rows.find? (fun x => x.applicationId == call.applicationId &&
      x.userId == call.userId && x.operationId == call.request.operationId) = some r :=
    find?_repeat hr hserves.isRepeat
  refine ⟨⟨true, .reserved, reservationUserSummary r.userId (s₁.quotaById r.applicationId r.quotaId),
    some (r.issue settings.codec)⟩, ?_, rfl, rfl⟩
  unfold createReservation
  refine bind_of h₁ ?_
  simp only [hfind, hid.2, hadm.quotaOf, hadm.enabled, hadm.hardLimit, if_neg hactive, if_neg hadm.period]
  refine bind_of (rollover_idle hperiod) ?_
  simp only [hrepeat]
  exact bind_of (existing_open hserves hopen) rfl

variable (settings) in
/-- A `create` that gets to the duplicate check and disagrees with the operation's
    reservation is refused. -/
theorem create_differs {s : QuotaStore} (hl : Linked s) {call : CreateCall} {r : UserAiuReservation}
    (hr : r ∈ s.reservations.rows) (hrep : call.isRepeat r = true)
    (hdiff : r.virtualModel ≠ call.request.virtualModel ∨ r.estimatedAiuMicros ≠ call.request.estimatedAiuMicros ∨
      ∃ id, ¬ (id ∈ call.candidates ↔ id ∈ r.candidateModelIds))
    (hadm : ∀ a s₁, materializeEffectiveAiuQuotaPolicy s call.policyInput call.policyIds = .ok (a, s₁) →
      ∃ quota, Admitted s₁ call quota) :
    ∃ e, createReservation settings s call = .error e := by
  cases h : createReservation settings s call with
  | error e => exact ⟨e, rfl⟩
  | ok result =>
    obtain ⟨-, a, s₁, h₁, hno | ⟨r', quota, ht, hexisting⟩⟩ := create_known hl hr hrep h
    · obtain ⟨quota, hquota⟩ := hadm a s₁ h₁
      exact absurd hquota (hno quota)
    · obtain ⟨⟨hmodel, hestimate, hcand⟩, -⟩ := existing_ok hexisting
      rcases hdiff with hdiff | hdiff | ⟨id, hdiff⟩
      · exact absurd ((congrArg (·.virtualModel) ht).symm.trans hmodel) hdiff
      · exact absurd ((congrArg (·.estimatedAiuMicros) ht).symm.trans hestimate) hdiff
      · refine absurd ?_ hdiff
        have hids : r'.candidateModelIds = r.candidateModelIds := congrArg (·.candidateModelIds) ht
        rw [← hcand, List.mem_insertionSort, hids]

/-! ## Repeated `settle` and `release` -/

/-- The reservation is as the action leaves it. A `release` is satisfied with any
    reservation that is closed without a settlement. -/
def TransitionAction.Done (r : UserAiuReservation) : TransitionAction → Prop
  | .settle actual => r.status = .settled ∧ r.settledAiuMicros = actual
  | .release _ => r.status ≠ .reserved ∧ r.status ≠ .settled

/-- A transition that returns named a reservation, with its token. -/
theorem transition_known {codec : UserReservationTokenCodec} {s s' : QuotaStore} {call : TransitionCall}
    {answer : TransitionAnswer} (hl : Linked s) (h : transition codec s call = .ok (answer, s')) :
    ∃ r ∈ s.reservations.rows, ∃ q ∈ s.quotas.rows, r.id = call.id ∧ r.applicationId = call.applicationId ∧
      r.Of q ∧ TokenOf codec r call.token := by
  unfold transition at h
  obtain ⟨verified, hverified, h⟩ := bind_ok h
  split at h
  · cases h
  rename_i row hrow
  split at h
  · cases h
  rename_i quota hquota
  obtain ⟨_, hlineage, -⟩ := bind_ok h
  obtain ⟨hmem, hp⟩ := Table.find?_mem hrow
  simp only [Bool.and_eq_true, beq_iff_eq] at hp
  obtain ⟨hq, hof⟩ := hl.of_quotaById hmem hquota
  obtain ⟨hhash, hclaims⟩ := require_ok hlineage
  refine ⟨row, hmem, quota, hq, hp.1, hp.2, hof, ?_, hhash⟩
  unfold verifyTransitionToken at hverified
  split at hverified
  · cases hverified
  · obtain ⟨_, -, hverified⟩ := bind_ok hverified
    cases hverified
    rw [← hclaims]
    assumption

theorem transition_repeat (codec : UserReservationTokenCodec) {s : QuotaStore} (hl : Linked s) (call : TransitionCall)
    {r : UserAiuReservation} (hr : r ∈ s.reservations.rows) (hid : r.id = call.id)
    (ha : r.applicationId = call.applicationId) (htoken : TokenOf codec r call.token) (hdone : call.action.Done r) :
    ∃ answer, transition codec s call = .ok (answer, s) := by
  obtain ⟨q, hq, hof⟩ := hl.reservation r hr
  refine ⟨reservationTransitionResult r q, (transition_eq hr hid ha hq hof htoken).trans ?_⟩
  cases haction : call.action with
  | settle actual =>
    rw [haction] at hdone
    rw [hdone.1]
    exact bind_of (require_of _ hdone.2) rfl
  | release reason =>
    rw [haction] at hdone
    cases hst : r.status with
    | reserved => exact absurd hst hdone.1
    | settled => exact absurd hst hdone.2
    | _ => rfl

/-- What a transition that returned left: the reservation closed its way. -/
theorem transition_done {codec : UserReservationTokenCodec} {s s' : QuotaStore} (hl : Linked s) {call : TransitionCall}
    {answer : TransitionAnswer} (h : transition codec s call = .ok (answer, s')) :
    ∃ r ∈ s.reservations.rows, ∃ r' ∈ s'.reservations.rows, r'.terms = r.terms ∧ r.id = call.id ∧
      r.applicationId = call.applicationId ∧ TokenOf codec r call.token ∧ call.action.Done r' ∧
      (r.status ≠ .reserved → call.action.Done r ∧ s' = s) := by
  obtain ⟨r, hr, q, hq, hid, ha, hof, htoken⟩ := transition_known hl h
  refine ⟨r, hr, ?_⟩
  rw [transition_eq hr hid ha hq hof htoken] at h
  -- a closed reservation is left as it is
  have hsame : call.action.Done r → s' = s → ∃ r' ∈ s'.reservations.rows, r'.terms = r.terms ∧ r.id = call.id ∧
      r.applicationId = call.applicationId ∧ TokenOf codec r call.token ∧ call.action.Done r' ∧
      (r.status ≠ .reserved → call.action.Done r ∧ s' = s) := by
    rintro hdone rfl
    exact ⟨r, hr, rfl, hid, ha, htoken, hdone, fun _ => ⟨hdone, rfl⟩⟩
  split at h
  · rename_i actual hst haction
    obtain ⟨_, hamount, h⟩ := bind_ok h
    cases h
    exact hsame (by rw [haction]; exact ⟨hst, require_ok hamount⟩) rfl
  · cases h
  · rename_i hst
    obtain ⟨m, hm, -, happ⟩ := closeReservation_moves hr hid ha hq hof hst h
    cases haction : call.action with
    | settle actual =>
      rw [haction] at hm
      refine ⟨r.written (.settled, actual), ?_, rfl, hid, ha, htoken, ⟨rfl, rfl⟩, fun hne => absurd hst hne⟩
      rw [happ.reservations, hm]
      exact (mem_replace hr).mpr (Or.inl rfl)
    | release reason =>
      rw [haction] at hm
      refine ⟨r.written (.released, r.settledAiuMicros), ?_, rfl, hid, ha, htoken, ⟨nofun, nofun⟩,
        fun hne => absurd hst hne⟩
      rw [happ.reservations, hm]
      exact (mem_replace hr).mpr (Or.inl rfl)
  · rename_i haction hsettled hreserved
    cases h
    refine hsame ?_ rfl
    rw [haction]
    exact ⟨hreserved, hsettled⟩
  · cases h

/-- A closed reservation refuses what it was not closed by. -/
theorem transition_differs (codec : UserReservationTokenCodec) {s : QuotaStore} (hl : Linked s) {call : TransitionCall}
    {r : UserAiuReservation} (hr : r ∈ s.reservations.rows) (hid : r.id = call.id) (hclosed : r.status ≠ .reserved)
    (hdiff : ¬ call.action.Done r) : ∃ e, transition codec s call = .error e := by
  cases h : transition codec s call with
  | error e => exact ⟨e, rfl⟩
  | ok result =>
    obtain ⟨r₀, hr₀, -, -, -, hid₀, -, -, -, hdone⟩ := transition_done hl h
    rw [QuotaStore.reservation_eq_of_id hr₀ hr (hid₀.trans hid.symm)] at hdone
    exact absurd (hdone hclosed).1 hdiff

/-! ## Retries -/

/-- The reservation of this id is still open. -/
def QuotaStore.Open (s : QuotaStore) (id : Uuid) : Prop :=
  ∃ r ∈ s.reservations.rows, r.id = id ∧ r.status = .reserved

/-- Client retries, whatever ran in between (`ops`).

    A `create` that asks again for what was given out raises the reserved counter of no
    quota; if the reservation is still open when the retry gets to its duplicate check, the
    same reservation and token are given out. A `settle` repeated with its amount
    succeeds and changes nothing while the settled amount is the one it settled, a
    `release` repeated always. A request that disagrees with the reservation (a
    `create` that gets to the duplicate check, or any action on a closed reservation)
    fails, and a failed request changes nothing. -/
theorem reservation_retries (settings : ReservationSettings) (s₀ : QuotaStore) (hs₀ : Reachable settings s₀)
    (ops : List Op) :
    (∀ call answer s₁ issued, Resolved call → createReservation settings s₀ call = .ok (answer, s₁) →
      answer.reservation = some issued → ∀ call', Resolved call' → SameRequest call call' →
        let s := (system settings).run s₁ ops
        NothingReserved s ((system settings).step s (.create call')) ∧
        ∀ a s₂ quota, materializeEffectiveAiuQuotaPolicy s call'.policyInput call'.policyIds = .ok (a, s₂) →
          Admitted s₂ call' quota → PeriodRuns call' quota → s₂.Open issued.id →
          ∃ answer', createReservation settings s call' = .ok (answer', s₂) ∧ answer'.allowed = true ∧
            answer'.reservation = some issued) ∧
    (∀ call answer s₁, transition settings.codec s₀ call = .ok (answer, s₁) →
      ∀ call', call'.applicationId = call.applicationId → call'.id = call.id → call'.token = call.token →
        let s := (system settings).run s₁ ops
        (∀ actual, call.action = .settle actual → call'.action = .settle actual →
          (∀ r ∈ s.reservations.rows, r.id = call.id → r.settledAiuMicros = actual) →
          ∃ answer', transition settings.codec s call' = .ok (answer', s)) ∧
        (∀ reason reason', call.action = .release reason → call'.action = .release reason' →
          ∃ answer', transition settings.codec s call' = .ok (answer', s))) ∧
    (let s := (system settings).run s₀ ops
      ∀ r ∈ s.reservations.rows,
        (∀ call, call.isRepeat r = true →
          (r.virtualModel ≠ call.request.virtualModel ∨ r.estimatedAiuMicros ≠ call.request.estimatedAiuMicros ∨
            ∃ id, ¬ (id ∈ call.candidates ↔ id ∈ r.candidateModelIds)) →
          (∀ a s₁, materializeEffectiveAiuQuotaPolicy s call.policyInput call.policyIds = .ok (a, s₁) →
            ∃ quota, Admitted s₁ call quota) →
          (∃ e, createReservation settings s call = .error e) ∧ (system settings).step s (.create call) = s) ∧
        (r.status ≠ .reserved → ∀ call : TransitionCall, call.id = r.id → ¬ call.action.Done r →
          (∃ e, transition settings.codec s call = .error e) ∧ (system settings).step s (.transition call) = s)) := by
  have hl₀ := reachable_linked hs₀
  refine ⟨?_, ?_, ?_⟩
  · intro call answer s₁ issued hcall h hissued call' hcall' hsame
    dsimp only
    have hl₁ : Linked s₁ := by
      obtain ⟨ms, hms, -⟩ := create_moves hl₀ h
      exact hms.linked hl₀
    obtain ⟨r₁, hr₁, hserves₁, rfl⟩ := create_serves hcall h hissued
    have hl : Linked ((system settings).run s₁ ops) := run_linked hl₁ ops
    obtain ⟨r, hr, ht, -⟩ := run_reservation_kept settings hl₁ hr₁ ops
    obtain ⟨hserves, hissue⟩ := hserves₁.of_terms ht
    have hserves' := hserves.of_same hsame hcall hcall'
    refine ⟨repeat_reserves_nothing hl hr hserves'.isRepeat, ?_⟩
    intro a s₂ quota h₂ hadm hperiod hyp
    obtain ⟨r₂, hr₂, hid₂, hopen⟩ := hyp
    -- the row is still the one given out
    obtain ⟨r', hr', ht'⟩ := materialize_reservation_kept hl h₂ hr
    have hrr : r₂ = r' := by
      refine QuotaStore.reservation_eq_of_id hr₂ hr' (hid₂.trans ?_)
      exact ((terms_id ht').trans (terms_id ht)).symm
    subst hrr
    obtain ⟨hserves₂, hissue₂⟩ := hserves'.of_terms ht'
    rw [← hissue, ← hissue₂]
    exact repeat_open h₂ hadm hperiod hr₂ hserves₂ hopen
  · intro call answer s₁ h call' ha' hid' htok'
    dsimp only
    obtain ⟨r₀, hr₀, r₁, hr₁, ht₁, hid, ha, htoken, hdone, -⟩ := transition_done hl₀ h
    have hl₁ : Linked s₁ := by
      rcases transition_moves hl₀ h with rfl | ⟨m, -, -, -, -, happ⟩
      · exact hl₀
      · exact hl₀.move happ
    have hl : Linked ((system settings).run s₁ ops) := run_linked hl₁ ops
    obtain ⟨r, hr, ht, hst⟩ := run_reservation_kept settings hl₁ hr₁ ops
    have hterms := ht.trans ht₁
    obtain ⟨hrid, hra, -, -⟩ := terms_fields hterms
    have hrepeat := fun hdone' => transition_repeat settings.codec hl call' hr
      ((hrid.trans hid).trans hid'.symm) ((hra.trans ha).trans ha'.symm)
      (by rw [htok']; exact htoken.of_terms hterms) hdone'
    refine ⟨fun actual hact hact' hamount => hrepeat ?_, fun reason reason' hact hact' => hrepeat ?_⟩
    · rw [hact] at hdone
      rw [hact']
      exact ⟨(hst (by rw [hdone.1]; decide)).trans hdone.1, hamount r hr (hrid.trans hid)⟩
    · rw [hact] at hdone
      rw [hact']
      have hkept := hst hdone.1
      exact ⟨by rw [hkept]; exact hdone.1, by rw [hkept]; exact hdone.2⟩
  · intro s r hr
    have hl : Linked s := run_linked hl₀ ops
    refine ⟨fun call hrep hdiff hadm => ?_, fun hclosed call hid hdiff => ?_⟩
    · obtain ⟨e, he⟩ := create_differs settings hl hr hrep hdiff hadm
      exact ⟨⟨e, he⟩, Machine.step_of_error _ (answered_error he)⟩
    · obtain ⟨e, he⟩ := transition_differs settings.codec hl hr hid.symm hclosed hdiff
      exact ⟨⟨e, he⟩, Machine.step_of_error _ (answered_error he)⟩

open Sample in
/-- A `create` retried after another reservation of the user gives out the first again. -/
theorem create_retried :
    let s := (system service).run .empty (opened ++ [create 8 "call-2" 2 1500])
    ∃ answer s', createReservation service s (createCall 9 "call-1" 5 2000) = .ok (answer, s') ∧
      answer.reservation = some ⟨7, "tpur1.7", 5, 301000⟩ := by
  have hresolved : ∀ id operationId estimate now, Resolved (createCall id operationId estimate now) :=
    fun _ _ _ _ => ⟨some [5], by rfl⟩
  have hsame : SameRequest (createCall 7 "call-1" 5 1000) (createCall 9 "call-1" 5 2000) :=
    ⟨rfl, rfl, rfl, rfl, rfl, fun _ => Iff.rfl⟩
  obtain ⟨answer, h, -, hissued⟩ :=
    ((reservation_retries service ((system service).run .empty [known, saveDaily 10]) ⟨_, rfl⟩
      [create 8 "call-2" 2 1500]).1 (createCall 7 "call-1" 5 1000) _ _ ⟨7, "tpur1.7", 5, 301000⟩ (hresolved _ _ _ _) rfl rfl
      (createCall 9 "call-1" 5 2000) (hresolved _ _ _ _) hsame).2 _ _ _ rfl
      ⟨⟨_, List.mem_singleton.mpr rfl, ⟨rfl, rfl⟩, nofun⟩, rfl, rfl, rfl, nofun⟩ (by rintro _ ⟨⟩; decide)
      ⟨_, List.mem_cons_self, rfl, rfl⟩
  exact ⟨answer, _, h, hissued⟩

open Sample in
/-- Retries that are not answered as the first request was: a `create` whose reservation is
    open but whose quota an administrator made soft; a `settle` of an amount the worker
    has rewritten since; and a `release` of a reservation the sweeper had closed, which is
    not refused. -/
theorem retries_refused :
    let soften := Op.save {
      applicationId := 0
      userId := 1
      timezone := utc
      now := 1200
      periodType := .calendarDay
      fixed := none
      limitAiuMicros := 10
      hardLimit := false
      policyId := 3
      policyUpdatedAt := 1200
      quotaId := 2
      nonce := 101
      entry := ⟨101, 1200⟩ }
    let softened := (system service).run .empty (opened ++ [soften])
    let rerated := (system service).run .empty (spent ++ [rate 7 firstEvent (some 3) 3000])
    let expired := (system service).run .empty (opened ++ [.expire ⟨0, 7, 400000, ⟨700, 400000⟩⟩])
    (softened.reservations.rows.map (·.status) = [.reserved] ∧
      (createReservation service softened (createCall 9 "call-1" 5 2000)).toOption.map (·.1.reservation) = some none) ∧
    (rerated.reservations.rows.map (·.settledAiuMicros) = [3] ∧
      (transition service.codec rerated ⟨0, 7, "tpur1.7", .settle 5, ⟨800, 4000⟩⟩).toOption.isNone) ∧
    (expired.reservations.rows.map (·.status) = [.expired] ∧
      (transition service.codec expired ⟨0, 7, "tpur1.7", .release "cancelled", ⟨800, 400001⟩⟩).toOption.isSome) := by
  decide +kernel

end TokenPilot.Quota
