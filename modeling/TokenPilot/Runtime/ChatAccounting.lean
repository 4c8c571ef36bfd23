/-
  TokenPilot.Runtime.ChatAccounting — the events of a chat call and the end of its reservation.

  - `begun_runs`: a call that is prepared and past its reservation makes the tries of its plan,
    reports them once, and settles or releases its reservation once.
  - `chat_accounted_iff`: the events are those of the contract, with one final event at the end,
    if and only if the call is `Accountable`; the attempts of two entry points look the same if
    and only if their plans do as far as they are tried.

  The indices, the single success at the end and the reservation are right in every call.
  Finality is not: it is decided from the position of an attempt, so that a call has no final
  event when its last attempt may be retried and the credential of its last target does not
  resolve (`unresolved_last_target`). An index runs up to 703, the contract up to 63; and
  neither SDK checks what it puts into an event.
-/

import TokenPilot.Runtime.AttemptAccounting

namespace TokenPilot.Runtime

open Library

/-! ## What a call leaves behind -/

/-- The attempts that are reported, each as one event. -/
def reportedBy (effects : List Effect) : List ChatAttempt :=
  effects.flatMap fun effect => match effect with
    | .report attempts => attempts
    | _ => []

def settledBy (effects : List Effect) : List ReservationToken :=
  effects.filterMap fun effect => match effect with
    | .settle token _ => some token
    | _ => none

def releasedBy (effects : List Effect) : List ReservationToken :=
  effects.filterMap fun effect => match effect with
    | .release token _ => some token
    | _ => none

/-- Neither reports nor closes a reservation. -/
def Quiet (effects : List Effect) : Prop := reportedBy effects = [] ∧ settledBy effects = [] ∧ releasedBy effects = []

theorem quiet_calls (tries : List (Nat × Slot × ProviderOutcome)) : Quiet (tries.map callOf) := by
  induction tries with
  | nil => exact ⟨rfl, rfl, rfl⟩
  | cons t tries ih =>
    obtain ⟨hreported, hsettled, hreleased⟩ := ih
    exact ⟨hreported, hsettled, hreleased⟩

@[simp] theorem reportedBy_append (effects more : List Effect) :
    reportedBy (effects ++ more) = reportedBy effects ++ reportedBy more := by simp [reportedBy]

@[simp] theorem settledBy_append (effects more : List Effect) :
    settledBy (effects ++ more) = settledBy effects ++ settledBy more := by simp [settledBy]

@[simp] theorem releasedBy_append (effects more : List Effect) :
    releasedBy (effects ++ more) = releasedBy effects ++ releasedBy more := by simp [releasedBy]

theorem report_observed (attempts : List ChatAttempt) :
    reportedBy [.report attempts] = attempts ∧ settledBy [.report attempts] = [] ∧ releasedBy [.report attempts] = [] :=
  ⟨by simp [reportedBy], rfl, rfl⟩

theorem settle_observed (token : Option ReservationToken) (amount : String) :
    reportedBy (token.toList.map (.settle · amount)) = [] ∧
      settledBy (token.toList.map (.settle · amount)) = token.toList ∧
      releasedBy (token.toList.map (.settle · amount)) = [] := by
  cases token <;> exact ⟨rfl, rfl, rfl⟩

theorem release_observed (token : Option ReservationToken) (reason : String) :
    reportedBy (token.toList.map (.release · reason)) = [] ∧
      settledBy (token.toList.map (.release · reason)) = [] ∧
      releasedBy (token.toList.map (.release · reason)) = token.toList := by
  cases token <;> exact ⟨rfl, rfl, rfl⟩

theorem quiet_append {effects more : List Effect} (h : Quiet effects) (hmore : Quiet more) : Quiet (effects ++ more) := by
  obtain ⟨hreported, hsettled, hreleased⟩ := h
  obtain ⟨hreported', hsettled', hreleased'⟩ := hmore
  exact ⟨by simp [hreported, hreported'], by simp [hsettled, hsettled'], by simp [hreleased, hreleased']⟩

/-- What a call has come to: the attempts it reports, and the end of its reservation. -/
structure Closed (token : Option ReservationToken) (attempts : List ChatAttempt)
    (call : Except ChatError ChatResult × List Effect) : Prop where
  reported : reportedBy call.2 = attempts
  settled : settledBy call.2 = if call.1.isOk then token.toList else []
  released : releasedBy call.2 = if call.1.isOk then [] else token.toList

section Run

variable {mode : ChatMode} {provider : Nat → RouteTarget → Connection → ProviderOutcome}
  {token : Option ReservationToken} {snapshot : Snapshot} {credential : Connection → Except String String}
  {targets : List RouteTarget} {virtualModel operationId amount : String} {effects : List Effect}

/-- The tries of a call. -/
def triesOf (provider : Nat → RouteTarget → Connection → ProviderOutcome) (snapshot : Snapshot)
    (credential : Connection → Except String String) (targets : List RouteTarget) : List (Nat × Slot × ProviderOutcome) :=
  attempted (answer provider) (·.retries) 0 (slots snapshot credential none targets)

theorem reportEffects_attempts (mode : ChatMode) (attempts : List ChatAttempt) :
    reportedBy (reportEffects mode attempts) = attempts ∧ settledBy (reportEffects mode attempts) = [] ∧
      releasedBy (reportEffects mode attempts) = [] := by
  unfold reportEffects
  split
  · rename_i h
    exact ⟨h.2.symm, rfl, rfl⟩
  · exact report_observed attempts

theorem ended_not_aborted (tries : List (Nat × Slot × ProviderOutcome)) : ended tries ≠ .aborted := by
  unfold ended
  split <;> simp

theorem runTargets_closed
    (hconnected : ∀ target ∈ targets, ∃ connection, snapshot.connections.lookup target.connectionId = some connection)
    (hquiet : Quiet effects) :
    Closed token ((triesOf provider snapshot credential targets).map (attemptOf token))
      (runTargets mode provider token snapshot credential targets virtualModel operationId amount effects) := by
  have hmade : Made provider token (slots snapshot credential none targets) ⟨[], none, 0, effects⟩
      (attemptTargets mode provider token snapshot credential none targets ⟨[], none, 0, effects⟩) :=
    attemptTargets_spec mode provider token none ⟨[], none, 0, effects⟩ hconnected rfl
  have hcalls := quiet_append hquiet (quiet_calls (triesOf provider snapshot credential targets))
  unfold runTargets
  generalize attemptTargets mode provider token snapshot credential none targets ⟨[], none, 0, effects⟩ = result at hmade
  obtain ⟨ending, progress⟩ := result
  have hattempts : progress.attempts = (triesOf provider snapshot credential targets).map (attemptOf token) :=
    hmade.attempts
  have heffects : progress.effects = effects ++ (triesOf provider snapshot credential targets).map callOf :=
    hmade.effects
  rw [← heffects] at hcalls
  obtain ⟨hreported, hsettled, hreleased⟩ := hcalls
  cases ending with
  | succeeded target connection =>
    obtain ⟨hlast, hlastSettled, hlastReleased⟩ := report_observed progress.attempts
    obtain ⟨hclose, hcloseSettled, hcloseReleased⟩ := settle_observed token amount
    refine ⟨?_, ?_, ?_⟩
    · rw [← hattempts]
      simp only [reportedBy_append, hreported, hlast, hclose, List.nil_append, List.append_nil]
    · simp only [settledBy_append, hsettled, hlastSettled, hcloseSettled, List.nil_append, List.append_nil]
      rfl
    · simp only [releasedBy_append, hreleased, hlastReleased, hcloseReleased, List.append_nil]
      rfl
  | cancelled =>
    obtain ⟨hlast, hlastSettled, hlastReleased⟩ := report_observed progress.attempts
    obtain ⟨hclose, hcloseSettled, hcloseReleased⟩ := release_observed token "stream was cancelled"
    refine ⟨?_, ?_, ?_⟩
    · rw [← hattempts]
      simp only [reportedBy_append, hreported, hlast, hclose, List.nil_append, List.append_nil]
    · simp only [settledBy_append, hsettled, hlastSettled, hcloseSettled, List.append_nil]
      rfl
    · simp only [releasedBy_append, hreleased, hlastReleased, hcloseReleased, List.nil_append, List.append_nil]
      rfl
  | exhausted =>
    obtain ⟨hlast, hlastSettled, hlastReleased⟩ := reportEffects_attempts mode progress.attempts
    obtain ⟨hclose, hcloseSettled, hcloseReleased⟩ := release_observed token "all model attempts failed"
    refine ⟨?_, ?_, ?_⟩
    · rw [← hattempts]
      simp only [reportedBy_append, hreported, hlast, hclose, List.nil_append, List.append_nil]
    · simp only [settledBy_append, hsettled, hlastSettled, hcloseSettled, List.append_nil]
      rfl
    · simp only [releasedBy_append, hreleased, hlastReleased, hcloseReleased, List.nil_append, List.append_nil]
      rfl
  | aborted => exact absurd hmade.ended.symm (ended_not_aborted _)

end Run

/-! ## Calls -/

/-- A call that is prepared and past its reservation, which it asks for under a hard limit only. -/
inductive Begun (mode : ChatMode) (zones : Zones) (world : World) (failMode : FailMode) (clock : Int) (snapshot : Snapshot)
    (context : AiContext) (input : ChatInput) (route : RouteSelection) (targets : List RouteTarget) :
    Option ReservationToken → Prop where
  | unlimited
      (prepared : mode.prepare zones ⟨some snapshot, failMode⟩ clock snapshot context input = .ok (route, targets))
      (unlimited : snapshot.aiuMode ≠ .hardLimit) :
      Begun mode zones world failMode clock snapshot context input route targets none
  | reserved {result : ReservationResult}
      (prepared : mode.prepare zones ⟨some snapshot, failMode⟩ clock snapshot context input = .ok (route, targets))
      (limited : snapshot.aiuMode = .hardLimit) (admitted : world.admits (reservationRequest context input targets) = true)
      (reserved : reservationOutcome failMode (world.reply (reservationRequest context input targets)) = .ok result) :
      Begun mode zones world failMode clock snapshot context input route targets result.token

section Calls

variable {mode : ChatMode} {zones : Zones} {world : World} {failMode : FailMode} {clock : Int} {snapshot : Snapshot}
  {context : AiContext} {input : ChatInput} {route : RouteSelection} {targets : List RouteTarget}
  {token : Option ReservationToken}

theorem Begun.prepare (h : Begun mode zones world failMode clock snapshot context input route targets token) :
    mode.prepare zones ⟨some snapshot, failMode⟩ clock snapshot context input = .ok (route, targets) := by
  cases h <;> assumption

/-- A call that has begun makes the tries of its plan. -/
theorem begun_runs (hvalid : snapshot.Valid)
    (h : Begun mode zones world failMode clock snapshot context input route targets token) :
    Closed token ((triesOf (mode.provider world) snapshot world.credential targets).map (attemptOf token))
      (executeChat mode zones world failMode clock snapshot context input) := by
  have hconnected := prepare_connected hvalid h.prepare
  unfold executeChat
  rw [h.prepare]
  simp only
  cases h with
  | unlimited prepared unlimited =>
    unfold reserveAndRun
    rw [if_pos unlimited]
    exact runTargets_closed hconnected ⟨rfl, rfl, rfl⟩
  | reserved prepared limited admitted reserved =>
    rw [reserveAndRun_hard mode world limited, if_pos admitted, reserved]
    exact runTargets_closed hconnected ⟨rfl, rfl, rfl⟩

/-- A selection from a plan of the contract. -/
theorem resolveWith_published {virtualModel : String} {virtualModelId : Option String} {plan : RoutingPlan}
    {holds : RoutingRule → Bool} {order : Route → List RouteTarget} (hname : virtualModelName virtualModel = true)
    (haccepted : plan.Accepted) (horder : ∀ route, ∀ target ∈ order route, target ∈ route.targets)
    {selected : RouteSelection}
    (h : resolveWith virtualModel virtualModelId plan (plan.rules.filter holds) order = .ok selected) :
    selected.Published := by
  obtain ⟨⟨route, ruleId⟩, hchosen, h⟩ := bind_ok h
  obtain ⟨hroute, hrule⟩ : route.Accepted ∧ ∀ id ∈ ruleId, bounded 1 120 id = true := by
    rcases choose_cases hchosen with ⟨-, rfl, rfl⟩ | ⟨winner, hwinner, rfl, rfl⟩
    · exact ⟨haccepted.default, nofun⟩
    · have hwon := haccepted.rules winner (List.mem_of_mem_filter hwinner)
      refine ⟨hwon.route, fun id hid => ?_⟩
      cases hid
      exact hwon.id
  dsimp only at h
  cases htargets : order route with
  | nil => simp [htargets, selection] at h
  | cons primary fallbacks =>
    simp only [htargets, selection, Except.ok.injEq] at h
    subst h
    refine ⟨hname, haccepted.configurationVersion.2, ?_, hrule, fun target hmem => ?_⟩
    · simp [isRouteTag, hroute.routeTag.1, hroute.routeTag.2]
    · exact hroute.targets target (horder route target (htargets ▸ hmem))

theorem accepted_of_schema {isHttpUrl : String → Bool} {value : Value}
    (h : runtimeSnapshotSchema isHttpUrl value = some snapshot) : snapshot.Accepted isHttpUrl := by
  refine (runtimeSnapshotSchema_accepts isHttpUrl snapshot).mp ?_
  unfold Accepts
  rw [(runtimeSnapshotSchema_lawful isHttpUrl).stable _ _ h]
  rfl

theorem node_published {isHttpUrl : String → Bool} (haccepted : snapshot.Accepted isHttpUrl) {virtualModel : String}
    {now : Int} {asked : RouteContext} (h : Node.resolveRuntimeRoute zones snapshot virtualModel now asked = .ok route) :
    route.Published := by
  cases hplan : snapshot.routing.lookup virtualModel with
  | none => simp [Node.resolveRuntimeRoute, hplan] at h
  | some plan =>
    obtain ⟨before, after, hrouting, -⟩ := List.lookup_eq_some_iff.mp hplan
    obtain ⟨hname, hentry⟩ := haccepted.routing (virtualModel, plan) (by simp [hrouting])
    cases hzone : zones plan.timezone with
    | none => simp [Node.resolveRuntimeRoute, hplan, hzone] at h
    | some localized =>
      rw [node_resolve hplan hzone] at h
      exact resolveWith_published hname hentry (fun route => orderedTargets_subset _ route _) h

theorem python_published {isHttpUrl : String → Bool} (haccepted : snapshot.Accepted isHttpUrl) {virtualModel : String}
    {now : Int} {asked : RouteContext} (h : Python.resolveRuntimeRoute zones snapshot virtualModel now asked = .ok route) :
    route.Published := by
  cases hplan : snapshot.routing.lookup virtualModel with
  | none => simp [Python.resolveRuntimeRoute, hplan] at h
  | some plan =>
    obtain ⟨before, after, hrouting, -⟩ := List.lookup_eq_some_iff.mp hplan
    obtain ⟨hname, hentry⟩ := haccepted.routing (virtualModel, plan) (by simp [hrouting])
    by_cases hstuck : Stuck zones plan
    · obtain ⟨hzone, rule, hmem, schedule, hmatch⟩ := hstuck
      have hnone : outcome (Python.resolveRuntimeRoute zones snapshot virtualModel now asked) = none :=
        (schedule_fails hmem hmatch hplan hzone).1
      simp [h, outcome] at hnone
    · rw [python_resolve hplan fun rule hmem => pythonHolds_ok rule (evaluable_of_not_stuck hstuck hmem)] at h
      exact resolveWith_published hname hentry (fun route => orderedTargets_subset _ route _) h

/-- What a prepared call selected from a snapshot of the contract. -/
theorem prepare_published {isHttpUrl : String → Bool} (haccepted : snapshot.Accepted isHttpUrl)
    (h : mode.prepare zones ⟨some snapshot, failMode⟩ clock snapshot context input = .ok (route, targets)) :
    route.Published ∧ ∀ target ∈ targets, target.Accepted := by
  have hnode : ∀ streaming,
      Node.prepare zones ⟨some snapshot, failMode⟩ clock snapshot context input streaming = .ok (route, targets) →
      route.Published ∧ ∀ target ∈ targets, target.Accepted := by
    intro streaming h
    unfold Node.prepare at h
    obtain ⟨-, -, h⟩ := bind_ok h
    obtain ⟨-, -, h⟩ := bind_ok h
    obtain ⟨route, hroute, h⟩ := bind_ok h
    obtain ⟨targets, htargets, h⟩ := bind_ok h
    obtain ⟨-, -, h⟩ := bind_ok h
    cases h
    have hpublished := node_published haccepted (selected_of_sdk (mapError_ok hroute))
    exact ⟨hpublished, fun target hmem => hpublished.targets target (candidates_subset htargets target hmem)⟩
  cases mode with
  | nodeChat => exact hnode false h
  | nodeStream => exact hnode true h
  | pythonChat =>
    replace h : Python.prepare zones ⟨some snapshot, failMode⟩ clock snapshot context input = .ok (route, targets) := h
    unfold Python.prepare at h
    obtain ⟨-, -, h⟩ := bind_ok h
    obtain ⟨-, -, h⟩ := bind_ok h
    obtain ⟨route, hroute, h⟩ := bind_ok h
    obtain ⟨targets, htargets, h⟩ := bind_ok h
    cases h
    have hpublished := python_published haccepted (selected_of_sdk (mapError_ok hroute))
    exact ⟨hpublished, fun target hmem => hpublished.targets target (candidates_subset htargets target hmem)⟩

end Calls

/-! ## Accounting -/

/-- What a provider tells and what is generated, for each attempt of a call. -/
structure Telemetry where
  reporter : Reporter
  stamp : Nat → Stamp
  reading : Nat → RouteTarget → Connection → Reading

/-- The event of an attempt. -/
def Telemetry.event (telemetry : Telemetry) (mode : ChatMode) (context : CallContext) (route : RouteSelection)
    (attempt : ChatAttempt) : Value :=
  eventFor mode telemetry.reporter context route (telemetry.stamp attempt.attemptIndex)
    (telemetry.reading attempt.attemptIndex attempt.target attempt.connection) attempt

/-- The events of a call are numbered from 0 within the contract's bound, the last is final and no
    other, only the last can be a success, and each is one of the contract; the reservation is
    settled once on a success and released once on a failure. -/
structure Accounted (event : ChatAttempt → Value) (token : Option ReservationToken)
    (call : Except ChatError ChatResult × List Effect) : Prop where
  indices : (reportedBy call.2).map (·.attemptIndex) = List.range (reportedBy call.2).length
  bounded : ∀ attempt ∈ reportedBy call.2, attempt.attemptIndex ≤ maxAttemptIndex
  final : LastOnly (·.final) (reportedBy call.2)
  success : ∀ before attempt after, reportedBy call.2 = before ++ attempt :: after → attempt.status = .success → after = []
  events : ∀ attempt ∈ reportedBy call.2, usageEventSchema (event attempt) = true
  settled : settledBy call.2 = if call.1.isOk then token.toList else []
  released : releasedBy call.2 = if call.1.isOk then [] else token.toList

/-- Where a call meets its accounting. -/
structure Accountable (mode : ChatMode) (telemetry : Telemetry) (context : CallContext) (token : Option ReservationToken)
    (provider : Nat → RouteTarget → Connection → ProviderOutcome) (snapshot : Snapshot)
    (credential : Connection → Except String String) (targets : List RouteTarget) : Prop where
  /-- Some attempt is not retried, or else the last target is attempted. -/
  decided : ¬Undecided (answer provider) (·.retries) 0 (slots snapshot credential none targets) ∨
    ∃ target, targets.getLast? = some target ∧ Callable snapshot credential target
  /-- At most 64 attempts are planned, or one of the first 64 is not retried. -/
  bounded : (slots snapshot credential none targets).length ≤ maxAttemptIndex + 1 ∨
    ∃ k < maxAttemptIndex + 1, ∃ slot, (slots snapshot credential none targets)[k]? = some slot ∧
      (answer provider k slot).retries = false
  reportable : Reportable telemetry.reporter context
  reservationId : token.all (fun token => opaqueIdPattern token.id) = true
  readable : ∀ k slot, Reached (answer provider) (·.retries) 0 (slots snapshot credential none targets) k slot →
    AttemptFits mode (telemetry.reading k slot.target slot.connection) (slot.attempt token k (answer provider k slot))

section Accounting

variable {mode : ChatMode} {telemetry : Telemetry} {context : CallContext} {token : Option ReservationToken}
  {provider : Nat → RouteTarget → Connection → ProviderOutcome} {snapshot : Snapshot}
  {credential : Connection → Except String String} {targets : List RouteTarget}
  {call : Except ChatError ChatResult × List Effect}

theorem tries_indices (token : Option ReservationToken) :
    ((triesOf provider snapshot credential targets).map (attemptOf token)).map (·.attemptIndex) =
      List.range (triesOf provider snapshot credential targets).length := by
  rw [List.map_map, List.range_eq_range']
  exact attempted_indices 0 (slots snapshot credential none targets)

theorem tries_bounded :
    (∀ attempt ∈ (triesOf provider snapshot credential targets).map (attemptOf token),
        attempt.attemptIndex ≤ maxAttemptIndex) ↔
      (triesOf provider snapshot credential targets).length ≤ maxAttemptIndex + 1 := by
  have hindices : ∀ index, (∃ attempt ∈ (triesOf provider snapshot credential targets).map (attemptOf token),
      attempt.attemptIndex = index) ↔ index < (triesOf provider snapshot credential targets).length := fun index => by
    rw [← List.mem_range, ← tries_indices token, List.mem_map]
  constructor
  · intro h
    by_contra hlong
    obtain ⟨attempt, hmem, hindex⟩ := (hindices (maxAttemptIndex + 1)).mpr (by omega)
    have hbound := h attempt hmem
    omega
  · intro h attempt hmem
    have hshort := (hindices attempt.attemptIndex).mp ⟨attempt, hmem, rfl⟩
    omega

/-- The attempts of a call, as the tries of its plan. -/
theorem mem_tries {attempt : ChatAttempt} :
    attempt ∈ (triesOf provider snapshot credential targets).map (attemptOf token) ↔
      ∃ k slot, Reached (answer provider) (·.retries) 0 (slots snapshot credential none targets) k slot ∧
        attempt = slot.attempt token k (answer provider k slot) := by
  constructor
  · intro hmem
    obtain ⟨t, ht, rfl⟩ := List.mem_map.mp hmem
    obtain ⟨k, hreached, hindex, houtcome⟩ := mem_attempted.mp ht
    rw [Nat.zero_add] at hindex
    refine ⟨k, t.2.1, hreached, ?_⟩
    unfold attemptOf
    rw [houtcome, hindex]
  · rintro ⟨k, slot, hreached, rfl⟩
    exact List.mem_map.mpr ⟨(k, slot, answer provider k slot), mem_attempted.mpr ⟨k, hreached, by simp, rfl⟩, rfl⟩

/-- The failures of a provider are none of a success. -/
def FailuresClassified (provider : Nat → RouteTarget → Connection → ProviderOutcome) : Prop :=
  ∀ index target connection error, provider index target connection = .failure error → error.kind ≠ .success

theorem tries_success (hkinds : FailuresClassified provider) {before after : List ChatAttempt} {attempt : ChatAttempt}
    (h : (triesOf provider snapshot credential targets).map (attemptOf token) = before ++ attempt :: after)
    (hsuccess : attempt.status = .success) : after = [] := by
  by_contra hafter
  obtain ⟨tries, rest, hsplit, -, hrest⟩ := List.map_eq_append_iff.mp h
  obtain ⟨t, later, rfl, rfl, rfl⟩ := List.map_eq_cons_iff.mp hrest
  have hagain : t.2.2.retries = true := attempted_before hsplit fun hnil => hafter (by rw [hnil, List.map_nil])
  obtain ⟨k, -, -, houtcome⟩ := mem_attempted.mp (by rw [triesOf] at hsplit; rw [hsplit]; simp : t ∈ attempted
    (answer provider) (·.retries) 0 (slots snapshot credential none targets))
  replace hsuccess : t.2.2.status = .success := hsuccess
  cases hanswer : t.2.2 with
  | success status => simp [hanswer, ProviderOutcome.retries] at hagain
  | cancelled status => simp [hanswer, ProviderOutcome.retries] at hagain
  | failure error =>
    rw [hanswer] at houtcome hsuccess
    exact hkinds _ _ _ error houtcome.symm hsuccess

theorem accounted_iff {route : RouteSelection} (hcontext : context.Resolved) (hroute : route.Published)
    (htargets : ∀ target ∈ targets, target.Accepted)
    (hconnected : ∀ target ∈ targets, ∃ connection, snapshot.connections.lookup target.connectionId = some connection)
    (hkinds : FailuresClassified provider)
    (hclosed : Closed token ((triesOf provider snapshot credential targets).map (attemptOf token)) call) :
    Accounted (telemetry.event mode context route) token call ↔
      Accountable mode telemetry context token provider snapshot credential targets := by
  have hfinal : LastOnly (·.final) ((triesOf provider snapshot credential targets).map (attemptOf token)) ↔
      ¬Undecided (answer provider) (·.retries) 0 (slots snapshot credential none targets) ∨
        ∃ target, targets.getLast? = some target ∧ Callable snapshot credential target := by
    rw [lastOnly_map, ← slots_last none hconnected]
    exact attempted_lastOnly Slot.last 0 _ (slots_pairwise none)
  have hbounded : (∀ attempt ∈ (triesOf provider snapshot credential targets).map (attemptOf token),
      attempt.attemptIndex ≤ maxAttemptIndex) ↔
      (slots snapshot credential none targets).length ≤ maxAttemptIndex + 1 ∨
        ∃ k < maxAttemptIndex + 1, ∃ slot, (slots snapshot credential none targets)[k]? = some slot ∧
          (answer provider k slot).retries = false := by
    refine tries_bounded.trans ((attempted_length_le 0 (slots snapshot credential none targets) (maxAttemptIndex + 1)).trans ?_)
    simp only [Nat.zero_add]
  have hevent : ∀ k slot, Reached (answer provider) (·.retries) 0 (slots snapshot credential none targets) k slot →
      (usageEventSchema (telemetry.event mode context route (slot.attempt token k (answer provider k slot))) = true ↔
        Reportable telemetry.reporter context ∧ token.all (fun token => opaqueIdPattern token.id) = true ∧
          k ≤ maxAttemptIndex ∧ AttemptFits mode (telemetry.reading k slot.target slot.connection)
            (slot.attempt token k (answer provider k slot))) := by
    intro k slot hreached
    obtain ⟨htarget, -, hprior⟩ := slots_mem none slot (List.mem_of_getElem? hreached.1)
    have haccepted : ∀ prior ∈ (slot.attempt token k (answer provider k slot)).prior, prior.Accepted := by
      intro prior hmem
      rcases hprior prior hmem with hnone | hmem
      · cases hnone
      · exact htargets prior hmem
    refine (event_valid_iff mode telemetry.reporter hcontext hroute (telemetry.stamp k)
      (telemetry.reading k slot.target slot.connection) (htargets slot.target htarget) haccepted).trans (and_congr_right fun _ => and_congr_left fun _ => ?_)
    cases token <;> rfl
  constructor
  · rintro ⟨-, hindex, hlast, -, hevents, -, -⟩
    rw [hclosed.reported] at hindex hlast hevents
    have hevery := fun k slot hreached =>
      (hevent k slot hreached).mp (hevents _ (mem_tries.mpr ⟨k, slot, hreached, rfl⟩))
    -- the final event tells that there is one
    obtain ⟨before, last, hsplit, -, -⟩ := id hlast
    obtain ⟨k, slot, hreached, -⟩ := mem_tries.mp (hsplit ▸ List.mem_append_right before (List.mem_singleton_self last))
    obtain ⟨hreportable, hreservation, -, -⟩ := hevery k slot hreached
    exact ⟨hfinal.mp hlast, hbounded.mp hindex, hreportable, hreservation,
      fun k slot hreached => (hevery k slot hreached).2.2.2⟩
  · intro h
    have hindex := hbounded.mpr h.bounded
    refine ⟨?_, ?_, ?_, ?_, ?_, hclosed.settled, hclosed.released⟩ <;> rw [hclosed.reported]
    · rw [tries_indices, List.length_map]
    · exact hindex
    · exact hfinal.mpr h.decided
    · exact fun before attempt after hsplit hsuccess => tries_success hkinds hsplit hsuccess
    · intro attempt hmem
      obtain ⟨k, slot, hreached, rfl⟩ := mem_tries.mp hmem
      exact (hevent k slot hreached).mpr ⟨h.reportable, h.reservationId, hindex _ hmem, h.readable k slot hreached⟩

/-- What a call shows of its attempts. -/
def sequence (call : Except ChatError ChatResult × List Effect) : List (Nat × RouteTarget × Bool × AttemptStatus) :=
  (reportedBy call.2).map fun attempt => (attempt.attemptIndex, attempt.target, attempt.final, attempt.status)

/-- As far as the plan of the first targets is tried, the plan of the others has the same targets
    and ends at the same place. -/
def PlansAlike (provider : Nat → RouteTarget → Connection → ProviderOutcome) (snapshot : Snapshot)
    (credential : Connection → Except String String) (targets others : List RouteTarget) : Prop :=
  AlikeWhile (answer provider) (·.retries)
    (fun slot outcome => (slot.target, !outcome.retries || slot.last, outcome.status)) 0
    (slots snapshot credential none targets) (slots snapshot credential none others)

/-- Two calls with the same providers show the same if and only if their plans are alike. -/
theorem sequence_eq_iff {others : List RouteTarget} {other : Option ReservationToken}
    {call' : Except ChatError ChatResult × List Effect}
    (hclosed : Closed token ((triesOf provider snapshot credential targets).map (attemptOf token)) call)
    (hclosed' : Closed other ((triesOf provider snapshot credential others).map (attemptOf other)) call') :
    sequence call = sequence call' ↔ PlansAlike provider snapshot credential targets others := by
  unfold sequence
  rw [hclosed.reported, hclosed'.reported, List.map_map, List.map_map]
  refine attempted_alike (fun (slot : Slot) (outcome : ProviderOutcome) =>
    (slot.target, !outcome.retries || slot.last, outcome.status)) 0 _ _ fun index slot hslot slot' hslot' hview => ?_
  -- the target names the connection, so that the provider answers the same
  have htarget : slot.target = slot'.target := congrArg Prod.fst hview
  have hconnection : slot.connection = slot'.connection := by
    have hlookup := (slots_mem none slot hslot).2.1
    rw [htarget, (slots_mem none slot' hslot').2.1] at hlookup
    exact (Option.some.inj hlookup).symm
  unfold answer
  rw [htarget, hconnection]

end Accounting

/-- In every call on a snapshot of the contract that gets past its reservation, the accounting is
    right if and only if the call is accountable; and where the providers behave the same, two
    calls show the same attempts if and only if their plans are alike. -/
theorem chat_accounted_iff (isHttpUrl : String → Bool) (value : Value) (snapshot : Snapshot)
    (hschema : runtimeSnapshotSchema isHttpUrl value = some snapshot) (hvalid : snapshot.Valid) (zones : Zones)
    (world : World) (hkinds : ∀ mode : ChatMode, FailuresClassified (mode.provider world)) (failMode : FailMode)
    (clock : Int) (context : CallContext) (hcontext : context.Resolved) (input : ChatInput) (telemetry : Telemetry) :
    (∀ mode route targets token,
        Begun mode zones world failMode clock snapshot context.toAiContext input route targets token →
        (Accounted (telemetry.event mode context route) token
            (executeChat mode zones world failMode clock snapshot context.toAiContext input) ↔
          Accountable mode telemetry context token (mode.provider world) snapshot world.credential targets)) ∧
      ((∀ index target connection, (world.stream index target connection).outcome = world.provider index target connection) →
        ∀ mode mode' route route' targets targets' token token',
          Begun mode zones world failMode clock snapshot context.toAiContext input route targets token →
          Begun mode' zones world failMode clock snapshot context.toAiContext input route' targets' token' →
          (sequence (executeChat mode zones world failMode clock snapshot context.toAiContext input) =
              sequence (executeChat mode' zones world failMode clock snapshot context.toAiContext input) ↔
            PlansAlike world.provider snapshot world.credential targets targets')) := by
  have haccepted := accepted_of_schema hschema
  constructor
  · intro mode route targets token hbegun
    obtain ⟨hroute, htargets⟩ := prepare_published haccepted hbegun.prepare
    exact accounted_iff hcontext hroute htargets (prepare_connected hvalid hbegun.prepare) (hkinds mode)
      (begun_runs hvalid hbegun)
  · intro hsame mode mode' route route' targets targets' token token' hbegun hbegun'
    have hprovider : ∀ mode : ChatMode, mode.provider world = world.provider := fun mode => by
      cases mode with
      | nodeChat => rfl
      | pythonChat => rfl
      | nodeStream =>
        funext index target connection
        exact hsame index target connection
    have hclosed := begun_runs hvalid hbegun
    have hclosed' := begun_runs hvalid hbegun'
    rw [hprovider] at hclosed hclosed'
    exact sequence_eq_iff hclosed hclosed'

/-! ## A route with a fallback -/

/-- The fallback's connection has a credential of its own. -/
def fallbackSnapshot : Snapshot :=
  { hardSnapshot with
    connections := hardSnapshot.connections ++
      [ ( "backup",
          { id := "backup", name := "backup", driver := .litellm, baseUrl := some "https://gateway.example"
            credentialRef := some "BACKUP_KEY", timeoutMs := 1000, maxRetries := 0, apiVersion := none } ) ]
    routing :=
      [ ( "assistant",
          { onePlan with
            default := { onePlan.default with
              targets := onePlan.default.targets ++
                [ { modelId := "5c1d7e2a-9b4f-4e6d-8a3c-1f2e3d4c5b6a", connectionId := "backup", requestModel := "large"
                    provider := "provider", taskType := .chat, capabilities := [.streaming]
                    routeTag := "cp:virtual:assistant:default", fallbackOrder := 1, weight := .ofInt 1 } ] } } ) ] }

/-- A service that reserves; the backup has no credential. -/
def partialWorld (answered : ProviderOutcome) : World where
  admits _ := true
  reply _ := .allowed (some ⟨"reservation-1", "token"⟩)
  credential connection := if connection.id = "backup" then .error "Credential BACKUP_KEY is not configured." else .ok ""
  provider _ _ _ := answered
  stream _ _ _ := .opened 200 true .completed

def fallbackContext : CallContext :=
  { deniedContext with
    applicationVersion := none, parentRequestId := none, sessionId := none, conversationId := none, traceId := "trace-1"
    eventProperties := [], analyticsDimensions := [] }

/-- What is evaluated of the snapshot, of the calls on it and of what they report. -/
structure FallbackFacts : Prop where
  texts : opaqueIdPattern "5c1d7e2a-9b4f-4e6d-8a3c-1f2e3d4c5b6a" = true ∧ opaqueIdPattern "backup" = true ∧
    bounded 1 256 "large" = true
  normal : fallbackSnapshot.connections.map (fun entry => (entry.1, entry.2.normal)) = fallbackSnapshot.connections
  gateways : ∀ entry ∈ fallbackSnapshot.connections,
    (runtimeCallConnectionSchema gatewayUrl entry.2.toJson).isSome = true
  models : ∀ entry ∈ fallbackSnapshot.routing, (entry.2.default.targets.map (·.modelId)).Nodup
  consistent : fallbackSnapshot.consistent = true
  connected : ∀ entry ∈ fallbackSnapshot.routing, ∀ target ∈ entry.2.targets,
    (fallbackSnapshot.connections.lookup target.connectionId).isSome
  context : opaqueIdPattern fallbackContext.requestId = true ∧ opaqueIdPattern fallbackContext.traceId = true
  ulid : ulidPattern "01ARZ3NDEKTSV4RRFFQ69G5FAV" = true ∧ "01ARZ3NDEKTSV4RRFFQ69G5FAV".toList.length = 26 ∧
    "01ARZ3NDEKTSV4RRFFQ69G5FAV".toList.all (fun c => isLower c || isUpper c || isDigit c) = true
  time : isUtcTimestamp (.str "2026-01-01T00:00:00.000Z") = true
  reporter : bounded 1 64 "0.2.0" = true ∧ bounded 1 256 "node-sdk" = true
  operation : opaqueIdPattern fallbackContext.operationId = true
  reservation : opaqueIdPattern "reservation-1" = true
  usage : rawUsageSchema oneRequest = true
  answered : (Node.prepare utcZone ⟨some fallbackSnapshot, .failClosed⟩ (-1) fallbackSnapshot deniedContext deniedInput
    false).toOption.any (fun prepared => decide ((slots fallbackSnapshot (partialWorld (.success 200)).credential none
      prepared.2).length = 1)) = true
  prepared : (Node.prepare utcZone ⟨some fallbackSnapshot, .failClosed⟩ (-1) fallbackSnapshot deniedContext deniedInput
    false).toOption.any (fun _ => true) = true
  openEnded : (reportedBy (executeChat .nodeChat utcZone
    (partialWorld (.failure ⟨"Model service returned HTTP 503.", some 503, .failure, true⟩)) .failClosed (-1)
    fallbackSnapshot deniedContext deniedInput).2).all (!·.final) = true

theorem fallback_facts : FallbackFacts where
  texts := by decide +kernel
  normal := by decide +kernel
  gateways := by decide +kernel
  models := by decide +kernel
  consistent := by decide +kernel
  connected := by decide +kernel
  context := by decide +kernel
  ulid := by decide +kernel
  time := by decide +kernel
  reporter := by decide +kernel
  operation := by decide +kernel
  reservation := by decide +kernel
  usage := by decide +kernel
  answered := by decide +kernel
  prepared := by decide +kernel
  openEnded := by decide +kernel

def fallbackTelemetry : Telemetry where
  reporter := ⟨"0.2.0", "node-sdk"⟩
  stamp _ :=
    { eventId := "01ARZ3NDEKTSV4RRFFQ69G5FAV", eventTime := "2026-01-01T00:00:00.000Z"
      attemptKey := "01ARZ3NDEKTSV4RRFFQ69G5FAV", latencyMs := 12
      eventId_ulid := (fallback_facts).ulid.1
      eventTime_utc := (fallback_facts).time
      attemptKey_ulid := ⟨(fallback_facts).ulid.2.1, List.all_eq_true.mp (fallback_facts).ulid.2.2⟩
      latencyMs_safe := by decide }
  reading _ _ _ := ⟨oneRequest, .null⟩

theorem fallbackSnapshot_normal : fallbackSnapshot.normal = fallbackSnapshot := by
  have hexpiry : (UtcTime.ofMilliseconds 0).normal = .ofMilliseconds 0 := ofMilliseconds_normal 0
  have hexpires : fallbackSnapshot.expiresAt.normal = fallbackSnapshot.expiresAt := hexpiry
  have hrouting : fallbackSnapshot.routing.map (fun entry => (entry.1, entry.2.normal)) = fallbackSnapshot.routing := by
    simp [fallbackSnapshot, RoutingPlan.normal, onePlan, hexpiry]
  unfold Snapshot.normal UnsignedSnapshot.normal
  rw [(fallback_facts).normal, hexpires, hrouting]

theorem fallbackSnapshot_accepted : fallbackSnapshot.Accepted gatewayUrl := by
  have hfacts := sample_facts
  obtain ⟨hmodel, hbackup, hlarge⟩ := (fallback_facts).texts
  refine ⟨hfacts.application, hfacts.version, hfacts.etag, hfacts.etag, hfacts.published, ?_, ?_, ⟨nofun, Nat.zero_le _, .nil⟩, ⟨nofun, Nat.zero_le _, .nil⟩, ?_⟩
  · intro entry hentry
    have haccepted := (fallback_facts).gateways entry hentry
    rcases List.mem_cons.mp hentry with rfl | hentry
    · exact ⟨hfacts.connection, haccepted⟩
    · rw [List.mem_singleton.mp hentry] at haccepted ⊢
      exact ⟨hbackup, haccepted⟩
  · intro entry hentry
    have hmodels := (fallback_facts).models entry hentry
    rw [List.mem_singleton.mp hentry] at hmodels ⊢
    refine ⟨hfacts.name, hfacts.virtualModel, ⟨le_rfl, of_decide_eq_true rfl⟩, hfacts.etag, hfacts.published, hfacts.timezone,
      ?_, fun rule hrule => absurd hrule List.not_mem_nil, Nat.zero_le _, .nil⟩
    refine ⟨hfacts.tag, ⟨by decide, by decide⟩, hmodels, ?_, rfl, ?_⟩
    · intro target htarget
      rcases List.mem_cons.mp htarget with rfl | htarget
      · rfl
      · rw [List.mem_singleton.mp htarget]
        rfl
    · intro target htarget
      rcases List.mem_cons.mp htarget with rfl | htarget
      · exact ⟨hfacts.model, hfacts.connection, hfacts.requestModel, hfacts.provider, ⟨by decide, by decide⟩, hfacts.tag, by decide,
          by norm_num⟩
      · rw [List.mem_singleton.mp htarget]
        exact ⟨hmodel, hbackup, hlarge, hfacts.provider, ⟨by decide, by decide⟩, hfacts.tag, by decide, by norm_num⟩
  · rw [fallbackSnapshot_normal]
    exact (fallback_facts).consistent

theorem fallbackSnapshot_read : runtimeSnapshotSchema gatewayUrl fallbackSnapshot.toJson = some fallbackSnapshot := by
  obtain ⟨read, hread⟩ := Option.isSome_iff_exists.mp
    ((runtimeSnapshotSchema_accepts gatewayUrl _).mpr fallbackSnapshot_accepted)
  rw [hread, (runtimeSnapshotSchema_lawful gatewayUrl).normalises _ _ hread, fallbackSnapshot_normal]

theorem fallbackSnapshot_valid : fallbackSnapshot.Valid where
  plans := by
    intro entry hentry
    simp only [fallbackSnapshot, List.mem_singleton] at hentry
    subst hentry
    refine ⟨⟨by decide, by decide, by decide, rfl, ?_⟩, by simp [onePlan], by decide⟩
    simp [onePlan]
  named := by decide
  connected := (fallback_facts).connected
  unique := by decide
  versions := by decide
  active := by decide
  blocked := by decide

theorem fallbackContext_resolved : fallbackContext.Resolved where
  base := deniedContext_resolved
  requestId := (fallback_facts).context.1
  traceId := (fallback_facts).context.2
  applicationVersion := nofun
  parentRequestId := nofun
  sessionId := nofun
  conversationId := nofun
  sized := by decide
  eventProperties := nofun

/-- A chat of `deniedInput` in that world, up to a check of its route and targets. -/
theorem fallback_begun (answered : ProviderOutcome) (check : RouteSelection × List RouteTarget → Bool)
    (h : (Node.prepare utcZone ⟨some fallbackSnapshot, .failClosed⟩ (-1) fallbackSnapshot deniedContext deniedInput
      false).toOption.any check = true) :
    ∃ route targets, check (route, targets) = true ∧
      Begun .nodeChat utcZone (partialWorld answered) .failClosed (-1) fallbackSnapshot deniedContext deniedInput route
        targets (some ⟨"reservation-1", "token"⟩) := by
  obtain ⟨⟨route, targets⟩, hprepared, hcheck⟩ := (Option.any_eq_true _ _).mp h
  have hok : ChatMode.nodeChat.prepare utcZone ⟨some fallbackSnapshot, .failClosed⟩ (-1) fallbackSnapshot deniedContext
      deniedInput = .ok (route, targets) := by
    show Node.prepare utcZone ⟨some fallbackSnapshot, .failClosed⟩ (-1) fallbackSnapshot deniedContext deniedInput false =
      .ok (route, targets)
    cases hresult : Node.prepare utcZone ⟨some fallbackSnapshot, .failClosed⟩ (-1) fallbackSnapshot deniedContext
      deniedInput false with
    | error error =>
      rw [hresult] at hprepared
      cases hprepared
    | ok prepared =>
      rw [hresult] at hprepared
      cases hprepared
      rfl
  have hreserved : reservationOutcome .failClosed ((partialWorld answered).reply
      (reservationRequest deniedContext deniedInput targets)) = .ok ⟨.reserved, some ⟨"reservation-1", "token"⟩⟩ := rfl
  exact ⟨route, targets, hcheck, .reserved hok rfl rfl hreserved⟩

theorem answered_classified (answered : ProviderOutcome) (h : ∀ error, answered = .failure error → error.kind ≠ .success)
    (mode : ChatMode) : FailuresClassified (mode.provider (partialWorld answered)) := by
  intro index target connection error hfailure
  cases mode with
  | nodeChat => exact h error hfailure
  | pythonChat => exact h error hfailure
  | nodeStream => cases hfailure

/-- A chat that the first target answers. -/
theorem answered_chat_accounted : ∃ route targets,
    Begun .nodeChat utcZone (partialWorld (.success 200)) .failClosed (-1) fallbackSnapshot deniedContext deniedInput route
        targets (some ⟨"reservation-1", "token"⟩) ∧
      Accounted (fallbackTelemetry.event .nodeChat fallbackContext route) (some ⟨"reservation-1", "token"⟩)
        (executeChat .nodeChat utcZone (partialWorld (.success 200)) .failClosed (-1) fallbackSnapshot deniedContext
          deniedInput) := by
  obtain ⟨route, targets, hcheck, hbegun⟩ := fallback_begun (.success 200)
    (fun prepared =>
      decide ((slots fallbackSnapshot (partialWorld (.success 200)).credential none prepared.2).length = 1))
    (fallback_facts).answered
  have hlength := of_decide_eq_true hcheck
  refine ⟨route, targets, hbegun, ((chat_accounted_iff gatewayUrl fallbackSnapshot.toJson fallbackSnapshot
    fallbackSnapshot_read fallbackSnapshot_valid utcZone (partialWorld (.success 200))
    (answered_classified (.success 200) nofun) .failClosed (-1) fallbackContext fallbackContext_resolved deniedInput
    fallbackTelemetry).1 .nodeChat route targets _ hbegun).mpr ?_⟩
  obtain ⟨slot, hslot⟩ := List.length_eq_one_iff.mp hlength
  have hreportable : Reportable fallbackTelemetry.reporter fallbackContext :=
    ⟨(fallback_facts).reporter.1, (fallback_facts).reporter.2, (fallback_facts).operation, rfl, rfl, rfl, nofun, nofun, by decide⟩
  refine ⟨.inl fun hundecided => ?_, .inl (by rw [hlength]; decide), hreportable, (fallback_facts).reservation, ?_⟩
  · have hretries : (answer (partialWorld (.success 200)).provider (0 + 0) slot).retries = true :=
      hundecided 0 slot (by rw [hslot]; rfl)
    cases hretries
  · exact fun k slot _ => ⟨rfl, (fallback_facts).usage, rfl⟩

/-- The first target fails, the second cannot be called: no event of the call is final. -/
theorem unresolved_last_target :
    ¬∀ (isHttpUrl : String → Bool) (value : Value) (snapshot : Snapshot) (zones : Zones) (world : World)
      (failMode : FailMode) (clock : Int) (context : CallContext) (input : ChatInput) (telemetry : Telemetry)
      (mode : ChatMode) (route : RouteSelection) (targets : List RouteTarget) (token : Option ReservationToken),
      runtimeSnapshotSchema isHttpUrl value = some snapshot → snapshot.Valid → context.Resolved →
      (∀ mode : ChatMode, FailuresClassified (mode.provider world)) →
      Begun mode zones world failMode clock snapshot context.toAiContext input route targets token →
      Accounted (telemetry.event mode context route) token
        (executeChat mode zones world failMode clock snapshot context.toAiContext input) := by
  intro hall
  have hunavailable : ∀ error, ProviderOutcome.failure ⟨"Model service returned HTTP 503.", some 503, .failure, true⟩ =
      .failure error → error.kind ≠ .success := by
    rintro error heq
    cases heq
    decide
  obtain ⟨route, targets, -, hbegun⟩ := fallback_begun
    (.failure ⟨"Model service returned HTTP 503.", some 503, .failure, true⟩) (fun _ => true)
    (fallback_facts).prepared
  have haccounted := hall gatewayUrl fallbackSnapshot.toJson fallbackSnapshot utcZone _ .failClosed (-1) fallbackContext
    deniedInput fallbackTelemetry .nodeChat route targets _ fallbackSnapshot_read fallbackSnapshot_valid
    fallbackContext_resolved (answered_classified _ hunavailable) hbegun
  obtain ⟨before, last, hsplit, hlast, -⟩ := haccounted.final
  have hmem := List.all_eq_true.mp (fallback_facts).openEnded last (hsplit ▸ List.mem_append_right before (List.mem_singleton_self last))
  replace hlast : last.final = true := hlast
  rw [hlast] at hmem
  cases hmem

end TokenPilot.Runtime
