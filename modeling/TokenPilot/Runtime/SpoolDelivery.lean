/-
  TokenPilot.Runtime.SpoolDelivery — the spools of the two SDKs under one run.

  Node reads a response through the contract, Python field by field; of a response that the
  contract admits both make the same actions, up to the reason they note for a rejection
  (`python_actions`). So two spools that get the same events, calls and responses hold the
  same events (`alike_next`), and what holds of one holds of the other.

  `spool_keeps` says what a spool keeps when every response settles an event of its batch and
  names no other. A response that settles nothing is asked for again without end, and one
  that names another event takes that one out unsent (`endless_flush`).
-/

import TokenPilot.Runtime.SchemaLaws
import TokenPilot.Runtime.SpoolLaws

namespace TokenPilot.Runtime

open Library

/-! ## Two SDKs in step -/

def Action.bare : Action → Action
  | .reject eventId _ => .reject eventId ""
  | action => action

def FlushPhase.bare : FlushPhase → FlushPhase
  | .applying actions => .applying (actions.map Action.bare)
  | phase => phase

def FlushCall.bare (call : FlushCall) : FlushCall := { call with phase := call.phase.bare }

/-- The tables without the reasons of the rejections. -/
def UsageSpool.bare (spool : UsageSpool) : UsageSpool :=
  { spool with rejected := spool.rejected.map fun event => { event with reasonCode := "" } }

def SpoolState.bare (s : SpoolState) : SpoolState :=
  { s with spool := s.spool.bare, flushes := s.flushes.map FlushCall.bare }

section Bare

variable {sdk sdk' : UsageSdk} {batchSize : Nat} {s t : SpoolState}

theorem bare_enqueue (spool : UsageSpool) (event : SpooledUsageEvent) (full : Bool) :
    (spool.enqueue event full).map UsageSpool.bare = spool.bare.enqueue event full := by
  have hknows : spool.bare.knows event.eventId = spool.knows event.eventId := by
    simp [UsageSpool.knows, UsageSpool.bare, List.any_map, Function.comp_def]
  unfold UsageSpool.enqueue
  rw [hknows]
  split
  · rfl
  · split <;> rfl

theorem bare_perform (s : SpoolState) (action : Action) : (s.perform action).bare = s.bare.perform action.bare := by
  cases action with
  | skip => rfl
  | raise => rfl
  | acknowledge eventId => rfl
  | reject eventId reasonCode =>
    simp only [SpoolState.perform, SpoolState.bare, UsageSpool.bare, UsageSpool.reject, Action.bare, List.map_append,
      List.any_map, Function.comp_def]
    split <;> simp

theorem bare_after (call : FlushCall) (s : SpoolState) (rest : List Action) (action : Action) :
    (call.after s rest action).bare = call.bare.after s.bare (rest.map Action.bare) action.bare := by
  cases action <;> rfl

/-- What the two SDKs do alike with what they meet in a step. -/
structure ActsAlike (sdk sdk' : UsageSdk) (s : SpoolState) (step : SpoolStep) : Prop where
  row : ∀ event full, step = .report event full → sdk.row event = sdk'.row event
  readable : ∀ event ∈ s.spool.pending, sdk.readable event = sdk'.readable event
  actions : ∀ i response, step = .answer i response → ∀ call, s.flushes[i]? = some call →
    (sdk.actions call.batch response).map (·.map Action.bare) = (sdk'.actions call.batch response).map (·.map Action.bare)

theorem bare_call {i : Nat} {call : FlushCall} (hst : s.bare = t.bare) (h : s.flushes[i]? = some call) :
    ∃ other, t.flushes[i]? = some other ∧ call.bare = other.bare := by
  have hflushes : s.flushes.map FlushCall.bare = t.flushes.map FlushCall.bare := congrArg SpoolState.flushes hst
  have hget := congrArg (·[i]?) hflushes
  simp only [List.getElem?_map, h, Option.map_some] at hget
  obtain ⟨other, hother, heq⟩ := Option.map_eq_some_iff.mp hget.symm
  exact ⟨other, hother, heq.symm⟩

theorem bare_none {i : Nat} (hst : s.bare = t.bare) (h : s.flushes[i]? = none) : t.flushes[i]? = none := by
  have hflushes : s.flushes.map FlushCall.bare = t.flushes.map FlushCall.bare := congrArg SpoolState.flushes hst
  have hget := congrArg (·[i]?) hflushes
  simp only [List.getElem?_map, h, Option.map_none] at hget
  exact Option.map_eq_none_iff.mp hget.symm

/-- Two states that differ in reasons only, with one call set. -/
theorem bare_set {i : Nat} {a b : FlushCall} (hst : s.bare = t.bare) (hab : a.bare = b.bare) :
    ({ s with flushes := s.flushes.set i a } : SpoolState).bare = { t with flushes := t.flushes.set i b }.bare := by
  have hflushes : s.flushes.map FlushCall.bare = t.flushes.map FlushCall.bare := congrArg SpoolState.flushes hst
  show (⟨s.spool.bare, (s.flushes.set i a).map FlushCall.bare, _, _, _⟩ : SpoolState) = _
  rw [List.map_set, hflushes, hab, ← List.map_set]
  exact congrArg (fun x : SpoolState => { x with flushes := (t.flushes.set i b).map FlushCall.bare }) hst

theorem bare_reading {call other : FlushCall} (h : call.bare = other.bare) : call.phase = .reading ↔ other.phase = .reading := by
  have hphase : call.phase.bare = other.phase.bare := congrArg FlushCall.phase h
  cases hc : call.phase <;> cases ho : other.phase <;> simp [hc, ho, FlushPhase.bare] at hphase ⊢

theorem bare_sent {call other : FlushCall} (h : call.bare = other.bare) : call.phase = .sent ↔ other.phase = .sent := by
  have hphase : call.phase.bare = other.phase.bare := congrArg FlushCall.phase h
  cases hc : call.phase <;> cases ho : other.phase <;> simp [hc, ho, FlushPhase.bare] at hphase ⊢

/-- The rest of a call is as that of the other. -/
theorem bare_with {call other : FlushCall} (h : call.bare = other.bare) {phase phase' : FlushPhase}
    (hphase : phase.bare = phase'.bare) :
    ({ call with phase } : FlushCall).bare = { other with phase := phase' }.bare := by
  have hrest : ({ call.bare with phase := phase.bare } : FlushCall) = { other.bare with phase := phase'.bare } := by
    rw [h, hphase]
  exact hrest

theorem bare_read {call other : FlushCall} (hst : s.bare = t.bare) (h : call.bare = other.bare)
    (hreadable : ∀ event ∈ s.spool.pending, sdk.readable event = sdk'.readable event) :
    (readPending sdk batchSize s call).bare = (readPending sdk' batchSize t other).bare := by
  have hpending : t.spool.pending = s.spool.pending := by
    have heq : t.bare.spool.pending = s.bare.spool.pending := by rw [hst]
    exact heq
  have hall : (s.spool.pending.take batchSize).all sdk'.readable = (s.spool.pending.take batchSize).all sdk.readable := by
    rw [Bool.eq_iff_iff, List.all_eq_true, List.all_eq_true]
    have hread := fun event hevent => hreadable event (List.mem_of_mem_take (i := batchSize) hevent)
    constructor
    · intro h event hevent
      rw [hread event hevent]
      exact h event hevent
    · intro h event hevent
      rw [← hread event hevent]
      exact h event hevent
  unfold readPending
  simp only [hpending, hall]
  split
  · split
    · exact bare_with h rfl
    · have hstep : ({ call.bare with
            phase := .sent, batch := s.spool.pending.take batchSize, requests := call.bare.requests + 1 } : FlushCall) =
          { other.bare with
            phase := .sent, batch := s.spool.pending.take batchSize, requests := other.bare.requests + 1 } := by
        rw [h]
      exact hstep
  · exact bare_with h rfl

theorem bare_answer {call other : FlushCall} {response : Value} (h : call.bare = other.bare)
    (hactions : (sdk.actions call.batch response).map (·.map Action.bare) =
      (sdk'.actions call.batch response).map (·.map Action.bare)) :
    (readResponse sdk call response).bare = (readResponse sdk' other response).bare := by
  have hbatch : other.batch = call.batch := by
    have heq : other.bare.batch = call.bare.batch := by rw [h]
    exact heq
  have hfinished : ({ call with phase := .finished } : FlushCall).bare = { other with phase := .finished }.bare :=
    bare_with h rfl
  unfold readResponse
  rw [hbatch] at hfinished ⊢
  cases hs : sdk.actions call.batch response <;> cases ht : sdk'.actions call.batch response <;>
    simp only [hs, ht, Option.map_none, Option.map_some, reduceCtorEq, Option.some.injEq] at hactions
  · exact hfinished
  · rename_i as bs
    have hphase : (FlushPhase.applying as).bare = (FlushPhase.applying bs).bare := congrArg FlushPhase.applying hactions
    have happlying := bare_with h hphase
    rwa [hbatch] at happlying

variable (batchSize) in
theorem alike_next {step : SpoolStep} (hst : s.bare = t.bare) (h : ActsAlike sdk sdk' s step) :
    (s.next sdk batchSize step).map SpoolState.bare = (t.next sdk' batchSize step).map SpoolState.bare := by
  have hspool : s.spool.bare = t.spool.bare := congrArg SpoolState.spool hst
  cases step with
  | report event full =>
    simp only [SpoolState.next, ← h.row event full rfl]
    cases sdk.row event with
    | none => rfl
    | some row =>
      have hadd := (bare_enqueue s.spool row full).trans (hspool ▸ (bare_enqueue t.spool row full).symm)
      simp only [Option.bind_eq_bind, Option.bind_some]
      cases hs : s.spool.enqueue row full <;> cases ht : t.spool.enqueue row full <;>
        simp only [hs, ht, Option.map_none, Option.map_some, reduceCtorEq, Option.some.injEq] at hadd
      · rfl
      · rename_i a b
        have hstep : ({ s.bare with spool := a.bare, reported := s.reported ++ [row.eventId] } : SpoolState) =
            { t.bare with spool := b.bare, reported := t.reported ++ [row.eventId] } := by
          have hreported : s.bare.reported = t.bare.reported := by rw [hst]
          have hreported : s.reported = t.reported := hreported
          rw [hst, hadd, hreported]
        exact congrArg some hstep
  | flush =>
    have hflushes : s.flushes.map FlushCall.bare = t.flushes.map FlushCall.bare := congrArg SpoolState.flushes hst
    have hstep : ({ s.bare with flushes := s.flushes.map FlushCall.bare ++ [⟨.reading, [], 0, 0⟩] } : SpoolState) =
        { t.bare with flushes := t.flushes.map FlushCall.bare ++ [⟨.reading, [], 0, 0⟩] } := by
      rw [hst, hflushes]
    simp only [SpoolState.next, Option.map_some, SpoolState.bare, List.map_append, List.map_cons, List.map_nil]
    exact congrArg some hstep
  | read i =>
    simp only [SpoolState.next]
    cases hcall : s.flushes[i]? with
    | none => rw [bare_none hst hcall]; rfl
    | some call =>
      obtain ⟨other, hother, hbare⟩ := bare_call hst hcall
      rw [hother]
      simp only [Option.bind_eq_bind, Option.bind_some, bare_reading hbare]
      split
      · exact congrArg some (bare_set hst (bare_read hst hbare h.readable))
      · rfl
  | answer i response =>
    simp only [SpoolState.next]
    cases hcall : s.flushes[i]? with
    | none => rw [bare_none hst hcall]; rfl
    | some call =>
      obtain ⟨other, hother, hbare⟩ := bare_call hst hcall
      rw [hother]
      simp only [Option.bind_eq_bind, Option.bind_some, bare_sent hbare]
      split
      · exact congrArg some (bare_set hst (bare_answer hbare (h.actions i response rfl call hcall)))
      · rfl
  | apply i =>
    simp only [SpoolState.next]
    cases hcall : s.flushes[i]? with
    | none => rw [bare_none hst hcall]; rfl
    | some call =>
      obtain ⟨other, hother, hbare⟩ := bare_call hst hcall
      rw [hother]
      simp only [Option.bind_eq_bind, Option.bind_some]
      have hphase : call.phase.bare = other.phase.bare := congrArg FlushCall.phase hbare
      cases hc : call.phase <;> cases ho : other.phase <;>
        simp only [hc, ho, FlushPhase.bare, reduceCtorEq, FlushPhase.applying.injEq] at hphase
      · rfl
      · rfl
      · rename_i as bs
        cases as <;> cases bs <;> simp only [List.map_nil, List.map_cons, reduceCtorEq, List.cons.injEq] at hphase
        · exact congrArg some (bare_set hst (bare_with hbare rfl))
        · rename_i a as b bs
          obtain ⟨hab, hrest⟩ := hphase
          have hperform : (s.perform a).bare = (t.perform b).bare := by
            rw [bare_perform, bare_perform, hst, hab]
          have hafter : (call.after s as a).bare = (other.after t bs b).bare := by
            rw [bare_after, bare_after, hbare, hst, hrest, hab]
          have hcalls : ∀ (x : SpoolState) (y : Action), (x.perform y).flushes = x.flushes := by
            intro x y
            cases y <;> rfl
          have hset := bare_set (i := i) hperform hafter
          rw [hcalls, hcalls] at hset
          exact congrArg some hset
      · rfl
  | throw i =>
    simp only [SpoolState.next]
    cases hcall : s.flushes[i]? with
    | none => rw [bare_none hst hcall]; rfl
    | some call =>
      obtain ⟨other, hother, hbare⟩ := bare_call hst hcall
      rw [hother]
      exact congrArg some (bare_set hst (bare_with hbare rfl))
  | restart | close =>
    have hflushes : s.flushes.map FlushCall.bare = t.flushes.map FlushCall.bare := congrArg SpoolState.flushes hst
    have hended : ∀ x : List FlushCall, (x.map fun call => ({ call with phase := .finished } : FlushCall)).map FlushCall.bare =
        (x.map FlushCall.bare).map fun call => ({ call with phase := .finished } : FlushCall) := by
      intro x
      rw [List.map_map, List.map_map]
      rfl
    have hstep : ({ s.bare with
          flushes := (s.flushes.map fun call => ({ call with phase := .finished } : FlushCall)).map FlushCall.bare } : SpoolState) =
        { t.bare with
          flushes := (t.flushes.map fun call => ({ call with phase := .finished } : FlushCall)).map FlushCall.bare } := by
      rw [hst, hended, hended, hflushes]
    exact congrArg some hstep

end Bare

/-! ## Responses of the contract -/

theorem strictObject_ok {keys : List String} {v : Value} {field : String → Option Value}
    (h : strictObject keys v = some field) : ∃ fields, v = .obj fields ∧ field = fun key => fields.lookup key := by
  cases v <;> simp only [strictObject, reduceCtorEq] at h
  rename_i fields
  split at h
  · cases h
    exact ⟨fields, rfl, rfl⟩
  · cases h

theorem get_field {fields : List (String × Value)} {key : String} {v : Value} (h : fields.lookup key = some v) :
    Connector.get (.obj fields) key = v := by
  simp [Connector.get, h]

theorem intOf_natural {v : Value} {least most n : Nat} (h : naturalSchema least most v = some n) :
    Python.intOf v = some (n : Int) := by
  obtain ⟨k, hk, rfl⟩ := Option.map_eq_some_iff.mp h
  have hrange := integerSchema_range hk
  cases v <;> simp only [integerSchema, reduceCtorEq] at hk
  split at hk
  · rename_i hd
    cases hk
    simp only [Python.intOf, if_pos hd.1, Option.some.injEq]
    omega
  · cases hk

/-- Python takes a result to be of the event that Node takes it to be of. -/
theorem python_eventOf (batch : List SpooledUsageEvent) {fields : List (String × Value)} {item : IngestionResult}
    (hindex : required (fun key => fields.lookup key) "index" (naturalSchema 0 maxSafeInteger.toNat) = some item.index)
    (hevent : required (fun key => fields.lookup key) "event_id" (nullable (textSchema contractIdPattern)) =
      some item.eventId) :
    Python.eventOf batch (.obj fields) = .ok (item.eventOf batch) := by
  obtain ⟨v, hv, hread⟩ := Option.bind_eq_some_iff.mp hindex
  obtain ⟨w, hw, htext⟩ := Option.bind_eq_some_iff.mp hevent
  unfold Python.eventOf IngestionResult.eventOf
  rw [get_field hv, get_field hw, intOf_natural hread]
  cases heventId : item.eventId with
  | some id =>
    rw [heventId] at htext
    cases w <;> simp only [nullable, textSchema, reduceCtorEq, Option.map_none, Option.some.injEq] at htext
    split at htext
    · cases htext
      rfl
    · cases htext
  | none =>
    rw [heventId] at htext
    cases w <;> simp only [nullable, textSchema, reduceCtorEq, Option.map_none] at htext
    · have hnat : (0 : Int) ≤ (item.index : Int) := by omega
      show Python.item batch item.index = _
      rw [Python.item, if_pos hnat, Int.toNat_natCast]
      rfl
    · split at htext <;> cases htext

theorem python_action {str : Value → String} {batch : List SpooledUsageEvent} {v : Value} {item : IngestionResult}
    (h : ingestionResultSchema v = some item) : (Python.action str batch v).bare = (Node.action batch item).bare := by
  unfold ingestionResultSchema at h
  simp only [Option.bind_eq_bind, Option.bind_eq_some_iff] at h
  obtain ⟨field, hfield, index, hindex, eventId, hevent, status, hstatus, code, -, message, -, h⟩ := h
  cases h
  obtain ⟨fields, rfl, rfl⟩ := strictObject_ok hfield
  obtain ⟨w, hw, hread⟩ := Option.bind_eq_some_iff.mp hstatus
  have htext : w = .str status.text := by
    cases w <;> simp only [enumSchema, reduceCtorEq] at hread
    have hfound := List.find?_some hread
    rw [of_decide_eq_true hfound]
  unfold Python.action Node.action
  have heventOf : Python.eventOf batch (.obj fields) = .ok (IngestionResult.eventOf ⟨index, eventId, status, code, message⟩ batch) :=
    python_eventOf batch hindex hevent
  simp only [heventOf, get_field hw, htext]
  cases IngestionResult.eventOf ⟨index, eventId, status, code, message⟩ batch with
  | none => rfl
  | some id =>
    cases status <;> rfl

theorem python_actions_all {str : Value → String} {batch : List SpooledUsageEvent} {items : List Value}
    {results : List IngestionResult} (h : readAll ingestionResultSchema items = some results) :
    (items.map (Python.action str batch)).map Action.bare = (results.map (Node.action batch)).map Action.bare := by
  induction items generalizing results with
  | nil => cases h; rfl
  | cons v rest ih =>
    simp only [readAll, Option.bind_eq_bind, Option.bind_eq_some_iff] at h
    obtain ⟨item, hitem, items, hitems, h⟩ := h
    cases h
    rw [List.map_cons, List.map_cons, List.map_cons, List.map_cons, python_action hitem, ih hitems]

theorem python_actions {dateParses : String → Bool} (str : Value → String) (batch : List SpooledUsageEvent)
    {v : Value} {response : BatchIngestionResponse} (h : batchIngestionResponseSchema dateParses v = some response) :
    ∃ actions, (pythonUsage str).actions batch v = some actions ∧
      actions.map Action.bare = (response.results.map (Node.action batch)).map Action.bare := by
  unfold batchIngestionResponseSchema at h
  simp only [Option.bind_eq_bind, Option.bind_eq_some_iff] at h
  obtain ⟨field, hfield, version, -, batchId, -, receivedAt, -, accepted, -, duplicates, -, conflicts, -, rejected, -,
    results, hresults, h⟩ := h
  split at h
  · cases h
    obtain ⟨fields, rfl, rfl⟩ := strictObject_ok hfield
    obtain ⟨w, hw, hread⟩ := Option.bind_eq_some_iff.mp hresults
    cases w <;> simp only [arraySchema, reduceCtorEq] at hread
    rename_i items
    refine ⟨items.map (Python.action str batch), ?_, python_actions_all hread⟩
    simp only [pythonUsage, get_field hw]
  · cases h

/-! ## Runs -/

section Runs

variable (dateParses : String → Bool) (str : Value → String) (batchSize : Nat)

/-- An event that is reported is a usage event; a response is one of the contract, settles an
    event of the batch it answers and names no other. -/
def Prompt (s : SpoolState) : SpoolStep → Bool
  | .report event _ => usageEventSchema event
  | .answer i response =>
    s.flushes[i]?.all fun call => (batchIngestionResponseSchema dateParses response).any (answersBatch call.batch)
  | _ => true

variable {dateParses str batchSize} {s t : SpoolState} {step : SpoolStep}

theorem bare_names (action : Action) : action.bare.names = action.names := by cases action <;> rfl

theorem settles_bare {batch : List SpooledUsageEvent} {actions others : List Action}
    (heq : others.map Action.bare = actions.map Action.bare) (h : Settles batch actions) : Settles batch others := by
  have hnames : others.map Action.names = actions.map Action.names := by
    have hboth := congrArg (List.map Action.names) heq
    simpa [Function.comp_def, bare_names] using hboth
  constructor
  · intro action haction id hid
    have hmem : some id ∈ actions.map Action.names := by
      rw [← hnames, ← hid]
      exact List.mem_map_of_mem haction
    obtain ⟨other, hother, heq⟩ := List.mem_map.mp hmem
    exact h.within other hother id heq
  · obtain ⟨action, haction, id, hid⟩ := h.settles
    have hmem : some id ∈ others.map Action.names := by
      rw [hnames, ← hid]
      exact List.mem_map_of_mem haction
    obtain ⟨other, hother, heq⟩ := List.mem_map.mp hmem
    exact ⟨other, hother, id, heq⟩

theorem prompt_response {i : Nat} {response : Value} {call : FlushCall}
    (h : Prompt dateParses s (.answer i response) = true) (hcall : s.flushes[i]? = some call) :
    ∃ read, batchIngestionResponseSchema dateParses response = some read ∧ answersBatch call.batch read = true := by
  simp only [Prompt, hcall, Option.all_some] at h
  exact (Option.any_eq_true _ _).mp h

theorem steady_node (h : Prompt dateParses s step = true) : Steady (nodeUsage dateParses) s step := by
  cases step with
  | answer i response =>
    intro call hcall actions hactions
    obtain ⟨read, hread, hanswers⟩ := prompt_response h hcall
    simp only [nodeUsage, hread, Option.map_some, Option.some.injEq] at hactions
    exact hactions ▸ node_settles hanswers
  | _ => trivial

theorem steady_python (h : Prompt dateParses s step = true) : Steady (pythonUsage str) s step := by
  cases step with
  | answer i response =>
    intro call hcall actions hactions
    obtain ⟨read, hread, hanswers⟩ := prompt_response h hcall
    obtain ⟨others, hothers, heq⟩ := python_actions str call.batch hread
    cases hactions.symm.trans hothers
    exact settles_bare heq (node_settles hanswers)
  | _ => trivial

/-- Every pending event can be read back. -/
def Readable (s : SpoolState) : Prop := ∀ event ∈ s.spool.pending, usageEventSchema event.payload = true

theorem perform_sublist (s : SpoolState) (action : Action) : (s.perform action).spool.pending.Sublist s.spool.pending := by
  cases action with
  | skip => exact .refl _
  | raise => exact .refl _
  | acknowledge eventId => exact List.filter_sublist
  | reject eventId reasonCode => exact List.filter_sublist

theorem readable_next {s' : SpoolState} (hs : Readable s) (hok : Prompt dateParses s step = true)
    (h : s.next (nodeUsage dateParses) batchSize step = some s') : Readable s' := by
  cases step with
  | report event full =>
    obtain ⟨row, hrow, h⟩ := Option.bind_eq_some_iff.mp h
    obtain ⟨spool, hadd, h⟩ := Option.bind_eq_some_iff.mp h
    cases h
    have hpayload : row.payload = event := by
      simp only [nodeUsage] at hrow
      split at hrow
      · obtain ⟨id, -, rfl⟩ := Option.map_eq_some_iff.mp hrow
        rfl
      · cases hrow
    rcases enqueue_ok hadd with ⟨rfl, -⟩ | ⟨rfl, -⟩
    · exact hs
    · intro other hother
      rcases List.mem_append.mp hother with hother | hother
      · exact hs other hother
      · rw [List.mem_singleton.mp hother, hpayload]
        exact hok
  | flush => cases h; exact hs
  | read i =>
    obtain ⟨call, -, h⟩ := Option.bind_eq_some_iff.mp h
    split at h
    · cases h; exact hs
    · cases h
  | answer i response =>
    obtain ⟨call, -, h⟩ := Option.bind_eq_some_iff.mp h
    split at h
    · cases h; exact hs
    · cases h
  | apply i =>
    obtain ⟨call, -, h⟩ := Option.bind_eq_some_iff.mp h
    simp only at h
    split at h
    · cases h; exact hs
    · cases h
      exact fun event hevent => hs event ((perform_sublist s _).subset hevent)
    · cases h
  | throw i =>
    obtain ⟨call, -, h⟩ := Option.bind_eq_some_iff.mp h
    cases h
    exact hs
  | restart | close => cases h; exact hs

theorem contractId_ne_empty {id : String} (h : contractIdPattern id = true) : id ≠ "" := by
  rintro rfl
  revert h
  decide

/-- The id of a usage event. -/
theorem eventIdOf_valid {event : Value} (h : usageEventSchema event = true) :
    ∃ id, eventIdOf event = some id ∧ id ≠ "" := by
  cases event <;> simp only [usageEventSchema, isStrictObject, Bool.false_eq_true] at h
  rename_i fields
  simp only [Bool.and_eq_true, List.all_eq_true] at h
  have hid := h.1.2 ("event_id", isText contractIdPattern) (by simp)
  obtain ⟨v, hv, htext⟩ := (Option.any_eq_true _ _).mp hid
  cases v <;> simp only [isText, Bool.false_eq_true] at htext
  rename_i id
  exact ⟨id, by simp only [eventIdOf, get_field hv, Connector.textOf], contractId_ne_empty htext⟩

variable (str) in
theorem alike_prompt (hs : Readable s) (h : Prompt dateParses s step = true) :
    ActsAlike (nodeUsage dateParses) (pythonUsage str) s step where
  row event full heq := by
    subst heq
    have hvalid : usageEventSchema event = true := h
    obtain ⟨id, hid, hne⟩ := eventIdOf_valid hvalid
    simp only [nodeUsage, pythonUsage, hvalid, if_true, hid, Option.map_some]
    rw [Option.filter_some, if_pos (by simpa using hne), Option.map_some]
  readable event hevent := hs event hevent
  actions i response heq call hcall := by
    subst heq
    obtain ⟨read, hread, -⟩ := prompt_response h hcall
    obtain ⟨others, hothers, heq⟩ := python_actions str call.batch hread
    rw [hothers]
    simp only [nodeUsage, hread, Option.map_some, heq]

theorem spool_step (sdk : UsageSdk) (s : SpoolState) (step : SpoolStep) :
    (spoolMachine sdk batchSize).step s step = (s.next sdk batchSize step).getD s := by
  cases h : s.next sdk batchSize step with
  | none =>
    have hexec : (spoolMachine sdk batchSize).exec s step = .error () := by simp only [spoolMachine, h]
    exact (spoolMachine sdk batchSize).step_of_error hexec
  | some s' =>
    have hexec : (spoolMachine sdk batchSize).exec s step = .ok ((), s') := by simp only [spoolMachine, h]
    exact (spoolMachine sdk batchSize).step_of_ok hexec

theorem kept_step {sdk : UsageSdk} (hs : Kept s) (hok : Steady sdk s step) : Kept ((spoolMachine sdk batchSize).step s step) := by
  rw [spool_step]
  cases h : s.next sdk batchSize step with
  | none => exact hs
  | some s' => exact kept_next hs hok h

theorem prompt_bare (hst : s.bare = t.bare) (h : Prompt dateParses s step = true) : Prompt dateParses t step = true := by
  cases step with
  | answer i response =>
    simp only [Prompt, Option.all_eq_true] at h ⊢
    intro other hother
    obtain ⟨call, hcall, hbare⟩ := bare_call hst.symm hother
    have hbatch : other.bare.batch = call.bare.batch := by rw [hbare]
    have hbatch : other.batch = call.batch := hbatch
    rw [hbatch]
    exact h call hcall
  | _ => exact h

/-- The two SDKs before a step of a run. -/
structure Twins (s t : SpoolState) : Prop where
  bare : s.bare = t.bare
  readable : Readable s
  node : Kept s
  python : Kept t

theorem twins_step (hst : Twins s t) (h : Prompt dateParses s step = true) :
    Twins ((spoolMachine (nodeUsage dateParses) batchSize).step s step)
      ((spoolMachine (pythonUsage str) batchSize).step t step) where
  bare := by
    have hnext := alike_next batchSize hst.bare (alike_prompt str hst.readable h)
    rw [spool_step, spool_step]
    cases hs : s.next (nodeUsage dateParses) batchSize step <;> cases ht : t.next (pythonUsage str) batchSize step <;>
      simp only [hs, ht, Option.map_none, Option.map_some, reduceCtorEq, Option.some.injEq] at hnext
    · exact hst.bare
    · exact hnext
  readable := by
    rw [spool_step]
    cases hs : s.next (nodeUsage dateParses) batchSize step with
    | none => exact hst.readable
    | some s' => exact readable_next hst.readable h hs
  node := kept_step hst.node (steady_node h)
  python := kept_step hst.python (steady_python (prompt_bare hst.bare h))

variable (str) in
theorem twins_run {steps : List SpoolStep} (hst : Twins s t)
    (h : (spoolMachine (nodeUsage dateParses) batchSize).Guarded (fun s step => Prompt dateParses s step = true) s steps) :
    Twins ((spoolMachine (nodeUsage dateParses) batchSize).run s steps)
      ((spoolMachine (pythonUsage str) batchSize).run t steps) := by
  induction steps generalizing s t with
  | nil => exact hst
  | cons step steps ih =>
    rw [Machine.run_cons, Machine.run_cons]
    exact ih (twins_step hst h.1) h.2

theorem kept_empty : Kept emptySpool where
  exclusive := ⟨.nil, .nil, by simp [emptySpool, UsageSpool.pendingIds]⟩
  stored := le_refl _
  kept := by simp [emptySpool]
  counted := by simp [emptySpool]

/-- Every reported event is acknowledged or in one table; it leaves a table only by a result
    for an event of the batch that was sent; a call makes at most as many requests as there
    were reports. -/
structure Lossless (sdk : UsageSdk) (batchSize : Nat) (s : SpoolState) : Prop where
  exclusive : s.spool.Exclusive
  kept : ∀ id ∈ s.reported, id ∈ s.acknowledged ∨ id ∈ s.spool.pendingIds ∨ id ∈ s.spool.rejectedIds
  settled : ∀ step s', s.next sdk batchSize step = some s' → ∀ id, Leaves s s' id → SettledBy s step id
  requests : ∀ call ∈ s.flushes, call.requests ≤ s.reported.length

theorem Kept.lossless {sdk : UsageSdk} (hs : Kept s) : Lossless sdk batchSize s where
  exclusive := hs.exclusive
  kept := hs.kept
  settled _ _ h _ hleaves := leaves_settled hs h hleaves
  requests call hcall := (hs.counted call hcall).le hs.stored

end Runs

/-- A run of usage events and of responses that each settle an event of their batch and name
    no other. -/
theorem spool_keeps (dateParses : String → Bool) (str : Value → String) (batchSize : Nat) (steps : List SpoolStep)
    (h : (spoolMachine (nodeUsage dateParses) batchSize).Guarded (fun s step => Prompt dateParses s step = true)
      emptySpool steps) :
    let node := (spoolMachine (nodeUsage dateParses) batchSize).run emptySpool steps
    let python := (spoolMachine (pythonUsage str) batchSize).run emptySpool steps
    Lossless (nodeUsage dateParses) batchSize node ∧ Lossless (pythonUsage str) batchSize python ∧
      node.spool.pendingIds = python.spool.pendingIds := by
  have htwins := twins_run str ⟨rfl, by simp [Readable, emptySpool], kept_empty, kept_empty⟩ h
  refine ⟨htwins.node.lossless, htwins.python.lossless, ?_⟩
  have hpending := congrArg (fun s : SpoolState => s.spool.pendingIds) htwins.bare
  exact hpending

/-! ## Runs on fixed events -/

def sampleUsageEvent (eventId : String) : Value :=
  .obj
    [ ("schema_version", .str "2.0"), ("event_id", .str eventId), ("event_time", .str "2026-07-16T00:00:00.000Z"),
      ("user", .obj [("user_id", .str "user-1"), ("display_user", .null)]),
      ("source", .obj [("type", .str "sdk"), ("name", .str "tokenpilot-node"), ("version", .str "0.2.0"),
        ("instance_id", .str "node-sdk")]),
      ("request", .obj [("request_id", .str "req_1"), ("attempt_id", .str "att_1"), ("attempt_index", integer 0),
        ("is_final_attempt", .bool true), ("operation_id", .str "op_1"), ("parent_request_id", .null),
        ("session_id", .null), ("conversation_id", .null), ("trace_id", .str "trace_1")]),
      ("model", .obj [("request_model", .str "fast")]), ("route", .null), ("analytics_dimensions", .obj []),
      ("result", .obj [("status", .str "success"), ("http_status", integer 200), ("latency_ms", integer 5),
        ("error_class", .null)]),
      ("source_cost", .null),
      ("privacy", .obj [("contains_prompt", .bool false), ("contains_response", .bool false)]),
      ("usage", .obj [("request_count", .str "1")]) ]

def firstEventId : String := "01J00000000000000000000001"

def secondEventId : String := "01J00000000000000000000002"

/-- A response with the results, all of them accepted. -/
def sampleResponse (results : List (Nat × String)) : Value :=
  .obj
    [ ("schema_version", .str "2.0"), ("batch_id", .str firstEventId), ("received_at", .str "2026-07-16T00:00:01.000Z"),
      ("accepted", integer results.length), ("duplicates", integer 0), ("conflicts", integer 0), ("rejected", integer 0),
      ("results", .arr (results.map fun (index, eventId) =>
        .obj [("index", integer index), ("event_id", .str eventId), ("status", .str "accepted")])) ]

def acceptedRun : List SpoolStep :=
  [.report (sampleUsageEvent firstEventId) false, .flush, .read 0, .answer 0 (sampleResponse [(0, firstEventId)]), .apply 0,
    .apply 0, .read 0]

/-- A run in which the service accepts the event it is sent. -/
theorem accepted_kept :
    (spoolMachine (nodeUsage fun _ => true) 100).Guarded (fun s step => Prompt (fun _ => true) s step = true) emptySpool
        acceptedRun ∧
      Lossless (nodeUsage fun _ => true) 100 ((spoolMachine (nodeUsage fun _ => true) 100).run emptySpool acceptedRun) := by
  have hguarded : (spoolMachine (nodeUsage fun _ => true) 100).Guarded (fun s step => Prompt (fun _ => true) s step = true)
      emptySpool acceptedRun := by decide +kernel
  exact ⟨hguarded, (spool_keeps (fun _ => true) (fun _ => "") 100 acceptedRun hguarded).1⟩

/-- A round of a call in which the service settles nothing. -/
def silentRound : List SpoolStep := [.read 0, .answer 0 (sampleResponse []), .apply 0]

def silentRounds : Nat → List SpoolStep
  | 0 => []
  | n + 1 => silentRounds n ++ silentRound

/-- The state after so many of them. -/
def silentState (rounds : Nat) : SpoolState where
  spool := ⟨[⟨firstEventId, sampleUsageEvent firstEventId⟩], []⟩
  flushes := [⟨.reading, if rounds = 0 then [] else [⟨firstEventId, sampleUsageEvent firstEventId⟩], rounds, 0⟩]
  reported := [firstEventId]
  acknowledged := []
  removed := 0

theorem silent_round (rounds : Nat) :
    (spoolMachine (nodeUsage fun _ => true) 100).run (silentState rounds) silentRound = silentState (rounds + 1) := by
  have hreadable : usageEventSchema (sampleUsageEvent firstEventId) = true := by decide +kernel
  have hresponse : (batchIngestionResponseSchema (fun _ => true) (sampleResponse [])).map (·.results) = some [] := by
    decide +kernel
  have hread : readPending (nodeUsage fun _ => true) 100 (silentState rounds)
      ⟨.reading, if rounds = 0 then [] else [⟨firstEventId, sampleUsageEvent firstEventId⟩], rounds, 0⟩ =
      ⟨.sent, [⟨firstEventId, sampleUsageEvent firstEventId⟩], rounds + 1, 0⟩ := by
    simp [readPending, silentState, nodeUsage, hreadable]
  have hanswer : readResponse (nodeUsage fun _ => true)
      ⟨.sent, [⟨firstEventId, sampleUsageEvent firstEventId⟩], rounds + 1, 0⟩ (sampleResponse []) =
      ⟨.applying [], [⟨firstEventId, sampleUsageEvent firstEventId⟩], rounds + 1, 0⟩ := by
    obtain ⟨response, hsome, hresults⟩ := Option.map_eq_some_iff.mp hresponse
    simp only [readResponse, nodeUsage, hsome, Option.map_some, hresults, List.map_nil]
  have hsent : (silentState rounds).next (nodeUsage fun _ => true) 100 (.read 0) =
      some { silentState rounds with
        flushes := [⟨.sent, [⟨firstEventId, sampleUsageEvent firstEventId⟩], rounds + 1, 0⟩] } := by
    rw [← hread]
    rfl
  have happlying : ({ silentState rounds with
        flushes := [⟨.sent, [⟨firstEventId, sampleUsageEvent firstEventId⟩], rounds + 1, 0⟩] } : SpoolState).next
        (nodeUsage fun _ => true) 100 (.answer 0 (sampleResponse [])) =
      some { silentState rounds with
        flushes := [⟨.applying [], [⟨firstEventId, sampleUsageEvent firstEventId⟩], rounds + 1, 0⟩] } := by
    rw [← hanswer]
    rfl
  simp only [silentRound, Machine.run_cons, Machine.run_nil, spool_step, hsent, happlying, Option.getD_some]
  rfl

theorem silent_rounds (rounds : Nat) :
    (spoolMachine (nodeUsage fun _ => true) 100).run (silentState 0) (silentRounds rounds) = silentState rounds := by
  induction rounds with
  | zero => rfl
  | succ n ih =>
    rw [silentRounds, Machine.run_append, ih]
    exact silent_round n

theorem silent_start :
    (spoolMachine (nodeUsage fun _ => true) 100).run emptySpool [.report (sampleUsageEvent firstEventId) false, .flush] =
      silentState 0 := by
  have hvalid : usageEventSchema (sampleUsageEvent firstEventId) = true := by decide +kernel
  have hrow : (nodeUsage fun _ => true).row (sampleUsageEvent firstEventId) =
      some ⟨firstEventId, sampleUsageEvent firstEventId⟩ := by
    simp only [nodeUsage, hvalid, if_true]
    rfl
  have hreport : emptySpool.next (nodeUsage fun _ => true) 100 (.report (sampleUsageEvent firstEventId) false) =
      some { silentState 0 with flushes := [] } := by
    simp only [SpoolState.next, hrow]
    rfl
  simp only [Machine.run_cons, Machine.run_nil, spool_step, hreport, Option.getD_some]
  rfl

/-- A call that sends the first of two events and is answered for the second. -/
def foreignRun : List SpoolStep :=
  [.report (sampleUsageEvent firstEventId) false, .report (sampleUsageEvent secondEventId) false, .flush, .read 0,
    .answer 0 (sampleResponse [(0, secondEventId)]), .apply 0]

/-- Responses of the contract under which a call of one event makes any number of requests, and
    an event that was not sent leaves the spool. -/
theorem endless_flush :
    (batchIngestionResponseSchema (fun _ => true) (sampleResponse [])).isSome = true ∧
      (∀ rounds, ∃ call ∈ ((spoolMachine (nodeUsage fun _ => true) 100).run emptySpool
          ([.report (sampleUsageEvent firstEventId) false, .flush] ++ silentRounds rounds)).flushes,
        call.requests = rounds ∧ call.phase = .reading) ∧
      (batchIngestionResponseSchema (fun _ => true) (sampleResponse [(0, secondEventId)])).isSome = true ∧
      ((spoolMachine (nodeUsage fun _ => true) 1).run emptySpool foreignRun).spool.pendingIds = [firstEventId] ∧
      ((spoolMachine (nodeUsage fun _ => true) 1).run emptySpool foreignRun).flushes.map (eventIds ·.batch) =
        [[firstEventId]] := by
  refine ⟨by decide +kernel, fun rounds => ?_, by decide +kernel, by decide +kernel, by decide +kernel⟩
  rw [Machine.run_append, silent_start, silent_rounds]
  exact ⟨_, List.mem_cons_self, rfl, rfl⟩

end TokenPilot.Runtime
