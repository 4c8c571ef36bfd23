/-
  TokenPilot.Runtime.SpoolLaws — what a spool keeps, and when a flush ends.

  An event is in one table at most (`Exclusive`), and every move keeps it there, except that
  an action takes the event it names out of the pending ones (`perform_pending`), either on
  the service's word or to the rejected ones. So nothing is lost, whatever the service says.

  What a response says is another matter. The contract lets it leave events out, and lets it
  name others than it was sent. `answersBatch` asks of a response that it settles an event of
  the batch and names no other. Then every request of a flush call goes with an event that
  has left the table since (`Counted`), so a call makes no more requests than events were
  reported, and what leaves a table was in the batch that was sent (`leaves_settled`).
-/

import TokenPilot.Runtime.Spool

namespace TokenPilot.Runtime

open Library

/-! ## The tables -/

def UsageSpool.pendingIds (spool : UsageSpool) : List String := spool.pending.map (·.eventId)

def UsageSpool.rejectedIds (spool : UsageSpool) : List String := spool.rejected.map (·.eventId)

/-- An event is once in one of the tables. -/
structure UsageSpool.Exclusive (spool : UsageSpool) : Prop where
  pending : spool.pendingIds.Nodup
  rejected : spool.rejectedIds.Nodup
  apart : ∀ id ∈ spool.pendingIds, id ∉ spool.rejectedIds

def Action.names : Action → Option String
  | .acknowledge eventId | .reject eventId _ => some eventId
  | _ => none

section Tables

variable {spool spool' : UsageSpool} {event : SpooledUsageEvent} {full : Bool} {id eventId : String}

theorem knows_iff : spool.knows id = true ↔ id ∈ spool.pendingIds ∨ id ∈ spool.rejectedIds := by
  simp [UsageSpool.knows, UsageSpool.pendingIds, UsageSpool.rejectedIds]

theorem enqueue_ok (h : spool.enqueue event full = some spool') :
    spool' = spool ∧ (event.eventId ∈ spool.pendingIds ∨ event.eventId ∈ spool.rejectedIds) ∨
      spool' = { spool with pending := spool.pending ++ [event] } ∧ event.eventId ∉ spool.pendingIds ∧
        event.eventId ∉ spool.rejectedIds := by
  unfold UsageSpool.enqueue at h
  split at h
  · rename_i hknown
    cases h
    exact .inl ⟨rfl, knows_iff.mp hknown⟩
  · rename_i hunknown
    split at h
    · cases h
    · cases h
      have hnew := fun hknown => hunknown (knows_iff.mpr hknown)
      exact .inr ⟨rfl, fun hp => hnew (.inl hp), fun hr => hnew (.inr hr)⟩

theorem pendingIds_filter (id : String) :
    (spool.pending.filter (·.eventId ≠ id)).map (·.eventId) = spool.pendingIds.filter (· ≠ id) := by
  rw [UsageSpool.pendingIds, List.filter_map]
  rfl

@[simp] theorem pendingIds_acknowledge : (spool.acknowledge id).pendingIds = spool.pendingIds.filter (· ≠ id) :=
  pendingIds_filter id

@[simp] theorem pendingIds_reject (reasonCode : String) :
    (spool.reject id reasonCode).pendingIds = spool.pendingIds.filter (· ≠ id) :=
  pendingIds_filter id

theorem rejectedIds_reject (reasonCode : String) :
    (spool.reject id reasonCode).rejectedIds =
      spool.rejectedIds ++ if id ∈ spool.rejectedIds then [] else spool.pendingIds.filter (· = id) := by
  have hknown : spool.rejected.any (·.eventId = id) = true ↔ id ∈ spool.rejectedIds := by
    simp [UsageSpool.rejectedIds]
  unfold UsageSpool.reject
  simp only [hknown]
  by_cases hthere : id ∈ spool.rejectedIds
  · rw [if_pos hthere, if_pos hthere]
    simp [UsageSpool.rejectedIds]
  · rw [if_neg hthere, if_neg hthere]
    simp [UsageSpool.rejectedIds, UsageSpool.pendingIds, List.filter_map, Function.comp_def]

theorem mem_rejectedIds_reject {reasonCode : String} (h : spool.Exclusive) :
    eventId ∈ (spool.reject id reasonCode).rejectedIds ↔
      eventId ∈ spool.rejectedIds ∨ eventId = id ∧ eventId ∈ spool.pendingIds := by
  rw [rejectedIds_reject, List.mem_append]
  by_cases hthere : id ∈ spool.rejectedIds
  · rw [if_pos hthere]
    constructor
    · rintro (hmem | hmem)
      · exact .inl hmem
      · cases hmem
    · rintro (hmem | ⟨rfl, hpending⟩)
      · exact .inl hmem
      · exact absurd hthere (h.apart _ hpending)
  · rw [if_neg hthere]
    simp only [List.mem_filter, decide_eq_true_eq]
    constructor
    · rintro (hmem | ⟨hpending, heq⟩)
      · exact .inl hmem
      · exact .inr ⟨heq, hpending⟩
    · rintro (hmem | ⟨heq, hpending⟩)
      · exact .inl hmem
      · exact .inr ⟨hpending, heq⟩

theorem UsageSpool.Exclusive.enqueue (h : spool.Exclusive) (hadd : spool.enqueue event full = some spool') : spool'.Exclusive := by
  rcases enqueue_ok hadd with ⟨rfl, -⟩ | ⟨rfl, hpending, hrejected⟩
  · exact h
  · have hids : ({ spool with pending := spool.pending ++ [event] } : UsageSpool).pendingIds =
        spool.pendingIds ++ [event.eventId] := by simp [UsageSpool.pendingIds]
    refine ⟨?_, h.rejected, ?_⟩
    · rw [hids]
      exact h.pending.append (List.nodup_singleton _) (by simpa using hpending)
    · rw [hids]
      intro id hid
      rcases List.mem_append.mp hid with hid | hid
      · exact h.apart id hid
      · rw [List.mem_singleton.mp hid]
        exact hrejected

theorem UsageSpool.Exclusive.acknowledge (h : spool.Exclusive) (id : String) : (spool.acknowledge id).Exclusive where
  pending := by
    rw [pendingIds_acknowledge]
    exact h.pending.filter _
  rejected := h.rejected
  apart := by
    rw [pendingIds_acknowledge]
    exact fun other hother => h.apart other (List.mem_of_mem_filter hother)

theorem UsageSpool.Exclusive.reject (h : spool.Exclusive) (id reasonCode : String) : (spool.reject id reasonCode).Exclusive where
  pending := by
    rw [pendingIds_reject]
    exact h.pending.filter _
  rejected := by
    rw [rejectedIds_reject]
    split
    · rw [List.append_nil]
      exact h.rejected
    · refine h.rejected.append (h.pending.filter _) ?_
      intro other hother hnew
      exact h.apart other (List.mem_of_mem_filter hnew) hother
  apart := by
    rw [pendingIds_reject]
    intro other hother hrejected
    obtain ⟨hpending, hne⟩ := List.mem_filter.mp hother
    rcases (mem_rejectedIds_reject h).mp hrejected with hold | ⟨rfl, -⟩
    · exact h.apart other hpending hold
    · simp at hne

end Tables

/-! ## Actions -/

section Actions

variable {s : SpoolState} {action : Action} {id : String}

theorem perform_exclusive (h : s.spool.Exclusive) (action : Action) : (s.perform action).spool.Exclusive := by
  cases action with
  | skip => exact h
  | raise => exact h
  | acknowledge eventId => exact h.acknowledge eventId
  | reject eventId reasonCode => exact h.reject eventId reasonCode

/-- An action takes out of the pending events the one it names. -/
theorem perform_pending : id ∈ (s.perform action).spool.pendingIds ↔ id ∈ s.spool.pendingIds ∧ action.names ≠ some id := by
  cases action with
  | skip => simp [SpoolState.perform, Action.names]
  | raise => simp [SpoolState.perform, Action.names]
  | acknowledge eventId =>
    simp only [SpoolState.perform, pendingIds_acknowledge, List.mem_filter, decide_eq_true_eq, Action.names, ne_eq,
      Option.some.injEq]
    rw [eq_comm (a := id)]
  | reject eventId reasonCode =>
    simp only [SpoolState.perform, pendingIds_reject, List.mem_filter, decide_eq_true_eq, Action.names, ne_eq,
      Option.some.injEq]
    rw [eq_comm (a := id)]

theorem perform_rejected (h : s.spool.Exclusive) (hid : id ∈ (s.perform action).spool.rejectedIds) :
    id ∈ s.spool.rejectedIds ∨ action.names = some id ∧ id ∈ s.spool.pendingIds := by
  cases action with
  | skip => exact .inl hid
  | raise => exact .inl hid
  | acknowledge eventId => exact .inl hid
  | reject eventId reasonCode =>
    rcases (mem_rejectedIds_reject h).mp hid with hold | ⟨rfl, hpending⟩
    · exact .inl hold
    · exact .inr ⟨rfl, hpending⟩

theorem perform_keeps (h : s.spool.Exclusive) (hid : id ∈ s.spool.rejectedIds) :
    id ∈ (s.perform action).spool.rejectedIds := by
  cases action with
  | reject eventId reasonCode => exact (mem_rejectedIds_reject h).mpr (.inl hid)
  | _ => exact hid

/-- A pending event that an action names is acknowledged or rejected. -/
theorem perform_settles (h : s.spool.Exclusive) (hid : id ∈ s.spool.pendingIds) (hnames : action.names = some id) :
    id ∈ (s.perform action).acknowledged ∨ id ∈ (s.perform action).spool.rejectedIds := by
  cases action with
  | skip => cases hnames
  | raise => cases hnames
  | acknowledge eventId =>
    cases hnames
    exact .inl (List.mem_append_right _ (List.mem_singleton.mpr rfl))
  | reject eventId reasonCode =>
    cases hnames
    exact .inr ((mem_rejectedIds_reject h).mpr (.inr ⟨rfl, hid⟩))

theorem perform_acknowledged (hid : id ∈ s.acknowledged) : id ∈ (s.perform action).acknowledged := by
  cases action with
  | acknowledge eventId => exact List.mem_append_left _ hid
  | _ => exact hid

theorem countP_add_filter (eventId : String) (l : List SpooledUsageEvent) :
    l.countP (·.eventId = eventId) + (l.filter (·.eventId ≠ eventId)).length = l.length := by
  induction l with
  | nil => rfl
  | cons event l ih =>
    by_cases heq : event.eventId = eventId
    · rw [List.countP_cons_of_pos (by simpa using heq), List.filter_cons_of_neg (by simpa using heq), List.length_cons]
      omega
    · rw [List.countP_cons_of_neg (by simpa using heq), List.filter_cons_of_pos (by simpa using heq), List.length_cons,
        List.length_cons]
      omega

theorem perform_removed (s : SpoolState) (action : Action) :
    (s.perform action).removed + (s.perform action).spool.pending.length = s.removed + s.spool.pending.length := by
  cases action with
  | skip => rfl
  | raise => rfl
  | acknowledge eventId =>
    have := countP_add_filter eventId s.spool.pending
    simp only [SpoolState.perform, UsageSpool.acknowledge]
    omega
  | reject eventId reasonCode =>
    have := countP_add_filter eventId s.spool.pending
    simp only [SpoolState.perform, UsageSpool.reject]
    omega

/-- Either nothing leaves the pending table or the count of what has left it goes up. -/
theorem perform_progress (s : SpoolState) (action : Action) :
    s.removed ≤ (s.perform action).removed ∧
      ((∀ id ∈ s.spool.pendingIds, id ∈ (s.perform action).spool.pendingIds) ∨ s.removed < (s.perform action).removed) := by
  have hsame : ∀ eventId, s.spool.pending.countP (·.eventId = eventId) = 0 → ∀ id ∈ s.spool.pendingIds, id ≠ eventId := by
    intro eventId hzero id hid heq
    obtain ⟨event, hevent, rfl⟩ := List.mem_map.mp hid
    have := List.countP_eq_zero.mp hzero event hevent
    simp [heq] at this
  cases action with
  | skip => exact ⟨le_refl _, .inl fun id hid => hid⟩
  | raise => exact ⟨le_refl _, .inl fun id hid => hid⟩
  | acknowledge eventId =>
    refine ⟨Nat.le_add_right _ _, ?_⟩
    by_cases hzero : s.spool.pending.countP (·.eventId = eventId) = 0
    · refine .inl fun id hid => perform_pending.mpr ⟨hid, ?_⟩
      exact fun heq => hsame eventId hzero id hid (Option.some.inj heq).symm
    · refine .inr ?_
      simp only [SpoolState.perform]
      omega
  | reject eventId reasonCode =>
    refine ⟨Nat.le_add_right _ _, ?_⟩
    by_cases hzero : s.spool.pending.countP (·.eventId = eventId) = 0
    · refine .inl fun id hid => perform_pending.mpr ⟨hid, ?_⟩
      exact fun heq => hsame eventId hzero id hid (Option.some.inj heq).symm
    · refine .inr ?_
      simp only [SpoolState.perform]
      omega

end Actions

/-! ## Responses -/

def eventIds (batch : List SpooledUsageEvent) : List String := batch.map (·.eventId)

/-- The response settles an event of the batch and names no other. -/
def answersBatch (batch : List SpooledUsageEvent) (response : BatchIngestionResponse) : Bool :=
  (response.results.all fun item => (item.eventOf batch).all (eventIds batch).contains) &&
    response.results.any fun item => (item.eventOf batch).isSome

/-- The same for what an SDK does with a response. -/
structure Settles (batch : List SpooledUsageEvent) (actions : List Action) : Prop where
  within : ∀ action ∈ actions, ∀ id, action.names = some id → id ∈ eventIds batch
  settles : ∃ action ∈ actions, ∃ id, action.names = some id

theorem node_names (batch : List SpooledUsageEvent) (item : IngestionResult) :
    (Node.action batch item).names = item.eventOf batch := by
  unfold Node.action
  cases item.eventOf batch with
  | none => rfl
  | some id =>
    dsimp only
    split <;> rfl

theorem node_settles {batch : List SpooledUsageEvent} {response : BatchIngestionResponse}
    (h : answersBatch batch response = true) : Settles batch (response.results.map (Node.action batch)) := by
  rw [answersBatch, Bool.and_eq_true, List.all_eq_true, List.any_eq_true] at h
  obtain ⟨hall, item, hitem, hsome⟩ := h
  constructor
  · intro action haction id hid
    obtain ⟨result, hresult, rfl⟩ := List.mem_map.mp haction
    rw [node_names] at hid
    have := hall result hresult
    rw [hid] at this
    simpa using this
  · obtain ⟨id, hid⟩ := Option.isSome_iff_exists.mp hsome
    exact ⟨_, List.mem_map_of_mem hitem, id, by rw [node_names, hid]⟩

/-! ## Counting requests -/

/-- The request of a call whose batch is still pending has settled nothing yet. -/
def FlushCall.Owing (call : FlushCall) (s : SpoolState) : Prop :=
  call.requests ≤ s.removed + 1 ∧ ∀ id ∈ eventIds call.batch, id ∈ s.spool.pendingIds

def FlushCall.Counted (call : FlushCall) (s : SpoolState) : Prop :=
  match call.phase with
  | .reading => call.requests ≤ s.removed
  | .sent => call.requests ≤ s.removed ∨ call.batch ≠ [] ∧ call.Owing s
  | .applying actions =>
    (∀ action ∈ actions, ∀ id, action.names = some id → id ∈ eventIds call.batch) ∧
      (call.requests ≤ s.removed ∨ (∃ action ∈ actions, ∃ id, action.names = some id) ∧ call.Owing s)
  | .finished => call.requests ≤ s.reported.length

structure Kept (s : SpoolState) : Prop where
  exclusive : s.spool.Exclusive
  stored : s.removed + s.spool.pending.length ≤ s.reported.length
  kept : ∀ id ∈ s.reported, id ∈ s.acknowledged ∨ id ∈ s.spool.pendingIds ∨ id ∈ s.spool.rejectedIds
  counted : ∀ call ∈ s.flushes, call.Counted s

section Counting

variable {s s' : SpoolState} {call : FlushCall}

/-- Nothing has left the pending table, or one more row has. -/
structure Grows (s s' : SpoolState) : Prop where
  removed : s.removed ≤ s'.removed
  reported : s.reported.length ≤ s'.reported.length
  pending : (∀ id ∈ s.spool.pendingIds, id ∈ s'.spool.pendingIds) ∨ s.removed < s'.removed

theorem Grows.refl (s : SpoolState) : Grows s s := ⟨le_refl _, le_refl _, .inl fun _ hid => hid⟩

theorem FlushCall.Owing.mono (h : call.Owing s) (hgrows : Grows s s') : call.requests ≤ s'.removed ∨ call.Owing s' := by
  obtain ⟨hle, hpending⟩ := h
  have hremoved := hgrows.removed
  rcases hgrows.pending with hsub | hlt
  · exact .inr ⟨by omega, fun id hid => hsub id (hpending id hid)⟩
  · exact .inl (by omega)

theorem FlushCall.Counted.mono (h : call.Counted s) (hgrows : Grows s s') : call.Counted s' := by
  have hremoved := hgrows.removed
  have hreported := hgrows.reported
  unfold FlushCall.Counted at h ⊢
  split at h
  · exact h.trans hremoved
  · rcases h with hle | ⟨hne, howing⟩
    · exact .inl (hle.trans hremoved)
    · exact (howing.mono hgrows).imp_right fun howing => ⟨hne, howing⟩
  · obtain ⟨hwithin, hle | ⟨hsettles, howing⟩⟩ := h
    · exact ⟨hwithin, .inl (hle.trans hremoved)⟩
    · exact ⟨hwithin, (howing.mono hgrows).imp_right fun howing => ⟨hsettles, howing⟩⟩
  · exact h.trans hreported

theorem Owing.le (h : call.Owing s) (hstored : s.removed + s.spool.pending.length ≤ s.reported.length) {id : String}
    (hid : id ∈ eventIds call.batch) : call.requests ≤ s.reported.length := by
  have hpositive : 0 < s.spool.pendingIds.length := List.length_pos_of_mem (h.2 id hid)
  rw [UsageSpool.pendingIds, List.length_map] at hpositive
  have := h.1
  omega

/-- A call makes no more requests than events were reported. -/
theorem FlushCall.Counted.le (h : call.Counted s) (hstored : s.removed + s.spool.pending.length ≤ s.reported.length) :
    call.requests ≤ s.reported.length := by
  unfold FlushCall.Counted at h
  split at h
  · omega
  · rcases h with hle | ⟨hne, howing⟩
    · omega
    · obtain ⟨event, hevent⟩ := List.exists_mem_of_ne_nil _ hne
      exact Owing.le howing hstored (List.mem_map_of_mem hevent)
  · obtain ⟨hwithin, hle | ⟨⟨action, haction, id, hid⟩, howing⟩⟩ := h
    · omega
    · exact Owing.le howing hstored (hwithin action haction id hid)
  · exact h

/-- The calls after one of them has moved. -/
theorem counted_set {i : Nat} (h : ∀ call ∈ s.flushes, call.Counted s) (hgrows : Grows s s') (hcall : call.Counted s') :
    ∀ other ∈ s.flushes.set i call, other.Counted s' := by
  intro other hother
  rcases List.mem_or_eq_of_mem_set hother with hother | rfl
  · exact (h other hother).mono hgrows
  · exact hcall

theorem perform_grows (s : SpoolState) (action : Action) : Grows s (s.perform action) := by
  obtain ⟨hremoved, hpending⟩ := perform_progress s action
  exact ⟨hremoved, by cases action <;> exact le_refl _, hpending⟩

/-- A call goes on to its next action. -/
theorem counted_after {action : Action} {rest : List Action} (hphase : call.phase = .applying (action :: rest))
    (h : call.Counted s) (hstored : s.removed + s.spool.pending.length ≤ s.reported.length) :
    (call.after s rest action).Counted (s.perform action) := by
  have hle := h.le hstored
  unfold FlushCall.Counted at h
  rw [hphase] at h
  obtain ⟨hwithin, howed⟩ := h
  have hrest : ∀ a ∈ rest, ∀ id, a.names = some id → id ∈ eventIds call.batch :=
    fun a ha => hwithin a (List.mem_cons_of_mem _ ha)
  have hgrows := perform_grows s action
  -- naming a pending event of the batch takes it out, which pays for the request
  have hpaid : call.requests ≤ (s.perform action).removed ∨
      (∃ a ∈ rest, ∃ id, a.names = some id) ∧ call.Owing (s.perform action) := by
    rcases howed with hpaid | ⟨⟨a, ha, id, hid⟩, howing⟩
    · exact .inl (hpaid.trans hgrows.removed)
    · rcases List.mem_cons.mp ha with rfl | ha
      · refine .inl ?_
        have hbatch := hwithin a List.mem_cons_self id hid
        have hgone : id ∉ (s.perform a).spool.pendingIds := fun hthere => (perform_pending.mp hthere).2 hid
        rcases hgrows.pending with hsub | hlt
        · exact absurd (hsub id (howing.2 id hbatch)) hgone
        · have := howing.1
          omega
      · rcases howing.mono hgrows with hpaid | howing
        · exact .inl hpaid
        · exact .inr ⟨⟨a, ha, id, hid⟩, howing⟩
  cases action with
  | raise => exact hle
  | skip => exact ⟨hrest, hpaid⟩
  | acknowledge eventId => exact ⟨hrest, hpaid⟩
  | reject eventId reasonCode => exact ⟨hrest, hpaid⟩

end Counting

/-! ## Moves -/

/-- A response that is read settles an event of the batch it answers and names no other. -/
def Steady (sdk : UsageSdk) (s : SpoolState) : SpoolStep → Prop
  | .answer i response =>
    ∀ call, s.flushes[i]? = some call → ∀ actions, sdk.actions call.batch response = some actions → Settles call.batch actions
  | _ => True

section Moves

variable {sdk : UsageSdk} {batchSize : Nat} {s s' : SpoolState}

theorem counted_finished {call : FlushCall} (h : call.Counted s)
    (hstored : s.removed + s.spool.pending.length ≤ s.reported.length) :
    ({ call with phase := .finished } : FlushCall).Counted s := h.le hstored

theorem counted_read {call : FlushCall} (h : call.Counted s) (hphase : call.phase = .reading)
    (hstored : s.removed + s.spool.pending.length ≤ s.reported.length) : (readPending sdk batchSize s call).Counted s := by
  have hle := h.le hstored
  unfold readPending
  simp only
  split
  · split
    · exact hle
    · rename_i hne
      refine .inr ⟨by simpa using hne, ?_, ?_⟩
      · have hreading : call.requests ≤ s.removed := by
          unfold FlushCall.Counted at h
          rwa [hphase] at h
        show call.requests + 1 ≤ s.removed + 1
        omega
      · intro id hid
        obtain ⟨event, hevent, rfl⟩ := List.mem_map.mp hid
        exact List.mem_map_of_mem (List.mem_of_mem_take hevent)
  · exact hle

theorem counted_answer {call : FlushCall} {response : Value} (h : call.Counted s) (hphase : call.phase = .sent)
    (hstored : s.removed + s.spool.pending.length ≤ s.reported.length)
    (hsteady : ∀ actions, sdk.actions call.batch response = some actions → Settles call.batch actions) :
    (readResponse sdk call response).Counted s := by
  unfold readResponse
  cases hactions : sdk.actions call.batch response with
  | none => exact h.le hstored
  | some actions =>
    have hsettles := hsteady actions hactions
    refine ⟨hsettles.within, ?_⟩
    unfold FlushCall.Counted at h
    rw [hphase] at h
    rcases h with hle | ⟨-, howing⟩
    · exact .inl hle
    · exact .inr ⟨hsettles.settles, howing⟩

/-- Only the calls change. -/
theorem Kept.calls {flushes : List FlushCall} (hs : Kept s) (h : ∀ call ∈ flushes, call.Counted s) :
    Kept { s with flushes } := ⟨hs.exclusive, hs.stored, hs.kept, h⟩

theorem kept_next {step : SpoolStep} (hs : Kept s) (hok : Steady sdk s step) (h : s.next sdk batchSize step = some s') :
    Kept s' := by
  cases step with
  | report event full =>
    obtain ⟨row, -, h⟩ := Option.bind_eq_some_iff.mp h
    obtain ⟨spool, hadd, h⟩ := Option.bind_eq_some_iff.mp h
    cases h
    have hstored := hs.stored
    refine ⟨hs.exclusive.enqueue hadd, ?_, ?_, ?_⟩
    · show s.removed + spool.pending.length ≤ (s.reported ++ [row.eventId]).length
      rw [List.length_append, List.length_singleton]
      rcases enqueue_ok hadd with ⟨rfl, -⟩ | ⟨rfl, -⟩
      · omega
      · rw [List.length_append, List.length_singleton]
        omega
    · intro id hid
      rcases enqueue_ok hadd with ⟨rfl, hknown⟩ | ⟨rfl, -⟩
      · rcases List.mem_append.mp hid with hid | hid
        · exact hs.kept id hid
        · rw [List.mem_singleton.mp hid]
          exact .inr hknown
      · have hsub : ∀ other ∈ s.spool.pendingIds, other ∈ (s.spool.pending ++ [row]).map (·.eventId) := by
          intro other hother
          rw [List.map_append]
          exact List.mem_append_left _ hother
        rcases List.mem_append.mp hid with hid | hid
        · exact (hs.kept id hid).imp_right (Or.imp_left (hsub id))
        · rw [List.mem_singleton.mp hid]
          exact .inr (.inl (List.mem_map_of_mem (List.mem_append_right _ (List.mem_singleton.mpr rfl))))
    · intro call hcall
      refine (hs.counted call hcall).mono ⟨le_refl _, ?_, .inl ?_⟩
      · show s.reported.length ≤ (s.reported ++ [row.eventId]).length
        rw [List.length_append]
        omega
      · intro id hid
        rcases enqueue_ok hadd with ⟨rfl, -⟩ | ⟨rfl, -⟩
        · exact hid
        · show id ∈ (s.spool.pending ++ [row]).map (·.eventId)
          rw [List.map_append]
          exact List.mem_append_left _ hid
  | flush =>
    cases h
    refine hs.calls fun call hcall => ?_
    rcases List.mem_append.mp hcall with hcall | hcall
    · exact hs.counted call hcall
    · rw [List.mem_singleton.mp hcall]
      exact Nat.zero_le _
  | read i =>
    obtain ⟨call, hcall, h⟩ := Option.bind_eq_some_iff.mp h
    split at h
    · rename_i hphase
      cases h
      have hcounted := hs.counted call (List.mem_of_getElem? hcall)
      exact hs.calls (counted_set hs.counted (.refl s) (counted_read hcounted hphase hs.stored))
    · cases h
  | answer i response =>
    obtain ⟨call, hcall, h⟩ := Option.bind_eq_some_iff.mp h
    split at h
    · rename_i hphase
      cases h
      have hcounted := hs.counted call (List.mem_of_getElem? hcall)
      exact hs.calls (counted_set hs.counted (.refl s) (counted_answer hcounted hphase hs.stored (hok call hcall)))
    · cases h
  | apply i =>
    obtain ⟨call, hcall, h⟩ := Option.bind_eq_some_iff.mp h
    have hcounted := hs.counted call (List.mem_of_getElem? hcall)
    simp only at h
    split at h
    · rename_i hphase
      cases h
      refine hs.calls (counted_set hs.counted (.refl s) ?_)
      unfold FlushCall.Counted at hcounted
      rw [hphase] at hcounted
      rcases hcounted.2 with hle | ⟨⟨action, haction, -⟩, -⟩
      · exact hle
      · cases haction
    · rename_i action rest hphase
      cases h
      have hgrows := perform_grows s action
      have hsum := perform_removed s action
      have hlength : (s.perform action).reported = s.reported := by cases action <;> rfl
      have hflushes : ∀ {x : List FlushCall} {c : FlushCall}, c.Counted (s.perform action) →
          c.Counted { s.perform action with flushes := x } := fun hc => hc
      refine ⟨perform_exclusive hs.exclusive action, ?_, ?_, ?_⟩
      · show (s.perform action).removed + (s.perform action).spool.pending.length ≤ (s.perform action).reported.length
        rw [hlength, hsum]
        exact hs.stored
      · intro id hid
        have hid : id ∈ s.reported := hlength ▸ hid
        rcases hs.kept id hid with hacknowledged | hpending | hrejected
        · exact .inl (perform_acknowledged hacknowledged)
        · by_cases hnames : action.names = some id
          · exact (perform_settles hs.exclusive hpending hnames).imp_right .inr
          · exact .inr (.inl (perform_pending.mpr ⟨hpending, hnames⟩))
        · exact .inr (.inr (perform_keeps hs.exclusive hrejected))
      · exact fun other hother =>
          hflushes (counted_set hs.counted hgrows (counted_after hphase hcounted hs.stored) other hother)
    · cases h
  | throw i =>
    obtain ⟨call, hcall, h⟩ := Option.bind_eq_some_iff.mp h
    cases h
    have hcounted := hs.counted call (List.mem_of_getElem? hcall)
    exact hs.calls (counted_set hs.counted (.refl s) (counted_finished hcounted hs.stored))
  | restart =>
    cases h
    refine hs.calls fun call hcall => ?_
    obtain ⟨old, hold, rfl⟩ := List.mem_map.mp hcall
    exact counted_finished (hs.counted old hold) hs.stored
  | close =>
    cases h
    refine hs.calls fun call hcall => ?_
    obtain ⟨old, hold, rfl⟩ := List.mem_map.mp hcall
    exact counted_finished (hs.counted old hold) hs.stored

/-- A pending event goes, or an event comes to the rejected ones. -/
def Leaves (s s' : SpoolState) (id : String) : Prop :=
  id ∈ s.spool.pendingIds ∧ id ∉ s'.spool.pendingIds ∨ id ∉ s.spool.rejectedIds ∧ id ∈ s'.spool.rejectedIds

/-- The step applies a result for an event of the batch that the call has sent. -/
def SettledBy (s : SpoolState) (step : SpoolStep) (id : String) : Prop :=
  ∃ i call action rest, step = .apply i ∧ s.flushes[i]? = some call ∧ call.phase = .applying (action :: rest) ∧
    action.names = some id ∧ id ∈ eventIds call.batch

theorem not_leaves {id : String} (h : s'.spool = s.spool) : ¬Leaves s s' id := by
  rintro (⟨hin, hout⟩ | ⟨hout, hin⟩)
  · exact hout (h ▸ hin)
  · exact hout (h ▸ hin)

theorem leaves_settled {step : SpoolStep} {id : String} (hs : Kept s) (h : s.next sdk batchSize step = some s')
    (hleaves : Leaves s s' id) : SettledBy s step id := by
  cases step with
  | report event full =>
    obtain ⟨row, -, h⟩ := Option.bind_eq_some_iff.mp h
    obtain ⟨spool, hadd, h⟩ := Option.bind_eq_some_iff.mp h
    cases h
    rcases enqueue_ok hadd with ⟨rfl, -⟩ | ⟨rfl, -⟩
    · exact absurd hleaves (not_leaves rfl)
    · rcases hleaves with ⟨hin, hout⟩ | ⟨hout, hin⟩
      · refine absurd ?_ hout
        show id ∈ (s.spool.pending ++ [row]).map (·.eventId)
        rw [List.map_append]
        exact List.mem_append_left _ hin
      · exact absurd hin hout
  | flush =>
    cases h
    exact absurd hleaves (not_leaves rfl)
  | read i =>
    obtain ⟨call, hcall, h⟩ := Option.bind_eq_some_iff.mp h
    split at h
    · cases h
      exact absurd hleaves (not_leaves rfl)
    · cases h
  | answer i response =>
    obtain ⟨call, hcall, h⟩ := Option.bind_eq_some_iff.mp h
    split at h
    · cases h
      exact absurd hleaves (not_leaves rfl)
    · cases h
  | apply i =>
    obtain ⟨call, hcall, h⟩ := Option.bind_eq_some_iff.mp h
    have hcounted := hs.counted call (List.mem_of_getElem? hcall)
    simp only at h
    split at h
    · cases h
      exact absurd hleaves (not_leaves rfl)
    · rename_i action rest hphase
      cases h
      have hnames : action.names = some id := by
        rcases hleaves with ⟨hin, hout⟩ | ⟨hout, hin⟩
        · by_contra hne
          exact hout (perform_pending.mpr ⟨hin, hne⟩)
        · rcases perform_rejected hs.exclusive hin with hold | ⟨hnames, -⟩
          · exact absurd hold hout
          · exact hnames
      unfold FlushCall.Counted at hcounted
      rw [hphase] at hcounted
      exact ⟨i, call, action, rest, rfl, hcall, hphase, hnames, hcounted.1 action List.mem_cons_self id hnames⟩
    · cases h
  | throw i =>
    obtain ⟨call, hcall, h⟩ := Option.bind_eq_some_iff.mp h
    cases h
    exact absurd hleaves (not_leaves rfl)
  | restart =>
    cases h
    exact absurd hleaves (not_leaves rfl)
  | close =>
    cases h
    exact absurd hleaves (not_leaves rfl)

end Moves

end TokenPilot.Runtime
