/-
  TokenPilot.Runtime.Denial — a denied reservation and the provider.

  The clients throw a denial inside the `try` whose handler swallows every error of a client
  that fails open, so a denial stops the call only of one that fails closed
  (`closed_stops`). A client that fails open goes on without a reservation and calls the
  provider of the first target whose credential resolves (`attemptTargets_calls`).
  `denial_stops_iff` says exactly when a denied call is stopped.
-/

import TokenPilot.Library.Machine
import TokenPilot.Runtime.Chat
import TokenPilot.Runtime.RouteAgreement

namespace TokenPilot.Runtime

open Library

def ProviderCalled (effects : List Effect) : Prop :=
  ∃ index target connection, Effect.provider index target connection ∈ effects

/-- The service denied a reservation that the call asked for. -/
def Denied (world : World) (effects : List Effect) : Prop :=
  ∃ request reason, Effect.reserve request ∈ effects ∧ world.reply request = .denied reason

/-- The call ended with an error and never reached a provider. -/
def Stopped (call : Except ChatError ChatResult × List Effect) : Prop :=
  (∃ error, call.1 = .error error) ∧ ¬ProviderCalled call.2

theorem ProviderCalled.mono {effects more : List Effect} (h : ProviderCalled effects) (hsub : effects ⊆ more) :
    ProviderCalled more := by
  obtain ⟨index, target, connection, hmem⟩ := h
  exact ⟨index, target, connection, hsub hmem⟩

/-- A report is neither a reservation nor a provider call. -/
@[simp] theorem reserve_not_reported (mode : ChatMode) (request : ReservationRequest) (attempts : List ChatAttempt) :
    Effect.reserve request ∉ reportEffects mode attempts := by
  unfold reportEffects
  split <;> simp

@[simp] theorem provider_not_reported (mode : ChatMode) (index : Nat) (target : RouteTarget) (connection : Connection)
    (attempts : List ChatAttempt) : Effect.provider index target connection ∉ reportEffects mode attempts := by
  unfold reportEffects
  split <;> simp

/-! ## The attempts -/

section Attempts

attribute [local simp] attemptConnection attemptTargets

variable (mode : ChatMode) (provider : Nat → RouteTarget → Connection → ProviderOutcome)
  (token : Option ReservationToken)

/-- Attempts only add to the effects. -/
theorem attemptConnection_effects (prior : Option RouteTarget) (target : RouteTarget) (connection : Connection)
    (last : Bool) (remaining : Nat) (progress : Progress) :
    progress.effects ⊆ (attemptConnection provider token prior target connection last remaining progress).2.effects := by
  induction remaining generalizing progress with
  | zero => exact fun _ h => h
  | succ remaining ih =>
    simp only [attemptConnection]
    split
    · exact List.subset_append_left _ _
    · exact List.subset_append_left _ _
    · split
      · exact fun effect hmem => ih _ (List.mem_append_left _ hmem)
      · exact List.subset_append_left _ _

/-- The first attempt calls the provider. -/
theorem attemptConnection_calls (prior : Option RouteTarget) (target : RouteTarget) (connection : Connection)
    (last : Bool) (remaining : Nat) (progress : Progress) :
    ProviderCalled
      (attemptConnection provider token prior target connection last (remaining + 1) progress).2.effects := by
  have hcalled : ProviderCalled (progress.effects ++ [.provider progress.attemptIndex target connection]) :=
    ⟨progress.attemptIndex, target, connection, by simp⟩
  simp only [attemptConnection]
  split
  · exact hcalled
  · exact hcalled
  · split
    · obtain ⟨index, target', connection', hmem⟩ := hcalled
      exact ⟨index, target', connection',
        attemptConnection_effects provider token prior target connection last remaining _ hmem⟩
    · exact hcalled

/-- Attempts reserve nothing. -/
theorem attemptConnection_reserves (request : ReservationRequest) (prior : Option RouteTarget) (target : RouteTarget)
    (connection : Connection) (last : Bool) (remaining : Nat) (progress : Progress)
    (h : Effect.reserve request ∈
      (attemptConnection provider token prior target connection last remaining progress).2.effects) :
    Effect.reserve request ∈ progress.effects := by
  induction remaining generalizing progress with
  | zero => exact h
  | succ remaining ih =>
    simp only [attemptConnection] at h
    split at h
    · simpa using h
    · simpa using h
    · split at h
      · simpa using ih _ h
      · simpa using h

variable (snapshot : Snapshot) (credential : Connection → Except String String)

theorem attemptTargets_reserves (request : ReservationRequest) (prior : Option RouteTarget)
    (targets : List RouteTarget) (progress : Progress)
    (h : Effect.reserve request ∈
      (attemptTargets mode provider token snapshot credential prior targets progress).2.effects) :
    Effect.reserve request ∈ progress.effects := by
  induction targets generalizing prior progress with
  | nil => exact h
  | cons target rest ih =>
    simp only [attemptTargets] at h
    split at h
    · split at h <;> exact h
    · rename_i connection _
      split at h
      · have hrest := ih _ _ h
        exact hrest
      · have hback := attemptConnection_reserves provider token request prior target connection rest.isEmpty
          (connection.maxRetries + 1) progress
        split at h
        · rename_i hended
          rw [hended] at hback
          split at h
          · exact hback h
          · exact hback (ih _ _ h)
        · exact hback h

theorem attemptTargets_effects (prior : Option RouteTarget) (targets : List RouteTarget) (progress : Progress) :
    progress.effects ⊆
      (attemptTargets mode provider token snapshot credential prior targets progress).2.effects := by
  induction targets generalizing prior progress with
  | nil => exact fun _ h => h
  | cons target rest ih =>
    simp only [attemptTargets]
    split
    · split <;> exact fun _ h => h
    · rename_i connection _
      split
      · exact fun effect hmem => ih _ _ hmem
      · have hgrow := attemptConnection_effects provider token prior target connection rest.isEmpty
          (connection.maxRetries + 1) progress
        split
        · rename_i hended
          rw [hended] at hgrow
          split
          · exact hgrow
          · exact List.Subset.trans hgrow (ih _ _)
        · exact hgrow

/-- A target has a credential, so that it would be called. -/
def Callable (target : RouteTarget) : Prop :=
  ∃ connection, snapshot.connections.lookup target.connectionId = some connection ∧
    ∃ value, credential connection = .ok value

variable {snapshot} {credential}

/-- Where every connection is published, a provider is called as soon as one target is callable. -/
theorem attemptTargets_calls {targets : List RouteTarget}
    (hconnected : ∀ target ∈ targets, ∃ connection, snapshot.connections.lookup target.connectionId = some connection)
    (hcallable : ∃ target ∈ targets, Callable snapshot credential target) (prior : Option RouteTarget)
    (progress : Progress) :
    ProviderCalled (attemptTargets mode provider token snapshot credential prior targets progress).2.effects := by
  induction targets generalizing prior progress with
  | nil => simp at hcallable
  | cons target rest ih =>
    obtain ⟨connection, hlookup⟩ := hconnected target (by simp)
    simp only [attemptTargets, hlookup]
    cases hcredential : credential connection with
    | error message =>
      refine ih (fun other hmem => hconnected other (List.mem_cons_of_mem _ hmem)) ?_ _ _
      obtain ⟨other, hmem, hother⟩ := hcallable
      rcases List.mem_cons.mp hmem with rfl | hmem
      · obtain ⟨connection', hlookup', value, hvalue⟩ := hother
        rw [hlookup, Option.some.injEq] at hlookup'
        rw [← hlookup', hcredential] at hvalue
        cases hvalue
      · exact ⟨other, hmem, hother⟩
    | ok value =>
      have hcalled := attemptConnection_calls provider token prior target connection rest.isEmpty connection.maxRetries
        progress
      simp only
      split
      · rename_i hended
        rw [hended] at hcalled
        split
        · exact hcalled
        · exact hcalled.mono (attemptTargets_effects mode provider token snapshot credential _ _ _)
      · exact hcalled

/-- With no callable target the loop ends without effects. -/
theorem attemptTargets_idle {targets : List RouteTarget}
    (hidle : ∀ target ∈ targets, ¬Callable snapshot credential target) (prior : Option RouteTarget)
    (progress : Progress) :
    let ended := attemptTargets mode provider token snapshot credential prior targets progress
    (ended.1 = .exhausted ∨ ended.1 = .aborted) ∧ ended.2.effects = progress.effects := by
  induction targets generalizing prior progress with
  | nil => exact ⟨.inl rfl, rfl⟩
  | cons target rest ih =>
    simp only [attemptTargets]
    cases hlookup : snapshot.connections.lookup target.connectionId with
    | none =>
      simp only
      split
      · exact ⟨.inr rfl, rfl⟩
      · exact ⟨.inl rfl, rfl⟩
    | some connection =>
      cases hcredential : credential connection with
      | error message =>
        have hrest := ih (fun other hmem => hidle other (List.mem_cons_of_mem _ hmem)) (some target)
          { progress with lastError := some ⟨message, none, .failure, true⟩ }
        simpa only [hcredential] using hrest
      | ok value => exact absurd ⟨connection, hlookup, value, hcredential⟩ (hidle target (by simp))

end Attempts

/-! ## The call after the reservation -/

section Run

variable {mode : ChatMode} {provider : Nat → RouteTarget → Connection → ProviderOutcome}
  {token : Option ReservationToken} {snapshot : Snapshot} {credential : Connection → Except String String}
  {targets : List RouteTarget} {virtualModel operationId amount : String} {effects : List Effect}

theorem runTargets_calls
    (hconnected : ∀ target ∈ targets, ∃ connection, snapshot.connections.lookup target.connectionId = some connection)
    (hcallable : ∃ target ∈ targets, Callable snapshot credential target) :
    ProviderCalled
      (runTargets mode provider token snapshot credential targets virtualModel operationId amount effects).2 := by
  have hcalled := attemptTargets_calls mode provider token hconnected hcallable none ⟨[], none, 0, effects⟩
  unfold runTargets
  split
  all_goals
    rename_i hended
    rw [hended] at hcalled
    exact hcalled.mono (by simp)

theorem runTargets_effects :
    effects ⊆
      (runTargets mode provider token snapshot credential targets virtualModel operationId amount effects).2 := by
  have hgrow : effects ⊆ _ :=
    attemptTargets_effects mode provider token snapshot credential none targets ⟨[], none, 0, effects⟩
  unfold runTargets
  split
  all_goals
    rename_i hended
    rw [hended] at hgrow
    exact List.Subset.trans hgrow (by simp)

theorem runTargets_reserves {request : ReservationRequest}
    (h : Effect.reserve request ∈
      (runTargets mode provider token snapshot credential targets virtualModel operationId amount effects).2) :
    Effect.reserve request ∈ effects := by
  have hback := attemptTargets_reserves mode provider token snapshot credential request none targets
    ⟨[], none, 0, effects⟩
  unfold runTargets at h
  split at h
  all_goals
    rename_i hended
    rw [hended] at hback
    refine hback ?_
    simpa using h

theorem runTargets_idle (hidle : ∀ target ∈ targets, ¬Callable snapshot credential target)
    (heffects : ¬ProviderCalled effects) :
    Stopped (runTargets mode provider token snapshot credential targets virtualModel operationId amount effects) := by
  have hended := attemptTargets_idle mode provider token hidle none ⟨[], none, 0, effects⟩
  unfold runTargets
  split
  · rename_i hsucceeded
    simp [hsucceeded] at hended
  · rename_i hcancelled
    simp [hcancelled] at hended
  · rename_i progress hexhausted
    rw [hexhausted] at hended
    obtain ⟨-, hsame⟩ : _ ∧ progress.effects = effects := hended
    refine ⟨⟨_, rfl⟩, ?_⟩
    rintro ⟨index, target, connection, hmem⟩
    refine heffects ⟨index, target, connection, ?_⟩
    rw [← hsame]
    simpa using hmem
  · rename_i progress haborted
    rw [haborted] at hended
    obtain ⟨-, hsame⟩ : _ ∧ progress.effects = effects := hended
    exact ⟨⟨_, rfl⟩, hsame.symm ▸ heffects⟩

end Run

/-! ## The call -/

section Call

variable {zones : Zones} {snapshot : Snapshot} {failMode : FailMode} {clock : Int} {context : AiContext}
  {input : ChatInput}

theorem candidates_subset {keep : RouteTarget → Bool} {route : RouteSelection} {targets : List RouteTarget}
    (h : candidates keep route = .ok targets) : ∀ target ∈ targets, target ∈ route.primary :: route.fallbacks := by
  unfold candidates at h
  split at h
  · cases h
  · simp only [Except.ok.injEq] at h
    intro target hmem
    rw [← h] at hmem
    exact (List.mem_filter.mp hmem).1

theorem selected_of_sdk {expired : Snapshot → Int → Bool} {resolve : Snapshot → Except RouteError RouteSelection}
    {route : RouteSelection}
    (h : ((do
        let snapshot ← requireUsable expired ⟨some snapshot, failMode⟩ clock
        liftRoute (resolve snapshot)) : Except SdkError RouteSelection) = .ok route) : resolve snapshot = .ok route := by
  unfold requireUsable at h
  simp only at h
  split at h
  · cases h
  · simp only [bind, Except.bind, liftRoute] at h
    cases hresolve : resolve snapshot with
    | error error => simp [hresolve, Except.mapError] at h
    | ok selected => simpa [hresolve, Except.mapError] using h

theorem mapError_ok {ε δ α : Type} {result : Except ε α} {f : ε → δ} {value : α} (h : result.mapError f = .ok value) :
    result = .ok value := by
  cases result with
  | error error => cases h
  | ok _ =>
    cases h
    rfl

theorem node_prepare_connected (hvalid : snapshot.Valid) {streaming : Bool} {route : RouteSelection}
    {targets : List RouteTarget}
    (h : Node.prepare zones ⟨some snapshot, failMode⟩ clock snapshot context input streaming = .ok (route, targets)) :
    ∀ target ∈ targets, ∃ connection, snapshot.connections.lookup target.connectionId = some connection := by
  unfold Node.prepare at h
  obtain ⟨-, -, h⟩ := bind_ok h
  obtain ⟨-, -, h⟩ := bind_ok h
  obtain ⟨route, hroute, h⟩ := bind_ok h
  obtain ⟨targets, htargets, h⟩ := bind_ok h
  obtain ⟨-, -, h⟩ := bind_ok h
  cases h
  intro target hmem
  exact node_connected hvalid (selected_of_sdk (mapError_ok hroute)) target (candidates_subset htargets target hmem)

theorem python_prepare_connected (hvalid : snapshot.Valid) {route : RouteSelection} {targets : List RouteTarget}
    (h : Python.prepare zones ⟨some snapshot, failMode⟩ clock snapshot context input = .ok (route, targets)) :
    ∀ target ∈ targets, ∃ connection, snapshot.connections.lookup target.connectionId = some connection := by
  unfold Python.prepare at h
  obtain ⟨-, -, h⟩ := bind_ok h
  obtain ⟨-, -, h⟩ := bind_ok h
  obtain ⟨route, hroute, h⟩ := bind_ok h
  obtain ⟨targets, htargets, h⟩ := bind_ok h
  cases h
  intro target hmem
  exact python_connected hvalid (selected_of_sdk (mapError_ok hroute)) target (candidates_subset htargets target hmem)

/-- The candidates of a call that gets as far as its reservation have published connections. -/
theorem prepare_connected (hvalid : snapshot.Valid) {mode : ChatMode} {route : RouteSelection}
    {targets : List RouteTarget}
    (h : mode.prepare zones ⟨some snapshot, failMode⟩ clock snapshot context input = .ok (route, targets)) :
    ∀ target ∈ targets, ∃ connection, snapshot.connections.lookup target.connectionId = some connection := by
  cases mode with
  | nodeChat => exact node_prepare_connected hvalid h
  | nodeStream => exact node_prepare_connected hvalid h
  | pythonChat => exact python_prepare_connected hvalid h

theorem reservationOutcome_denied (failMode : FailMode) (reason : String) :
    reservationOutcome failMode (.denied reason) =
      if failMode = .failClosed then .error (.userAiuDenied reason) else .ok ⟨.failOpen, none⟩ := rfl

/-- What a call under a hard limit does once it is prepared. -/
theorem reserveAndRun_hard (mode : ChatMode) (world : World) (hhard : snapshot.aiuMode = .hardLimit)
    (route : RouteSelection) (targets : List RouteTarget) :
    reserveAndRun mode world failMode snapshot context input route targets =
      if world.admits (reservationRequest context input targets) then
        match reservationOutcome failMode (world.reply (reservationRequest context input targets)) with
        | .error error => (.error error, [.reserve (reservationRequest context input targets)])
        | .ok result =>
          runTargets mode (mode.provider world) result.token snapshot world.credential targets route.virtualModel
            context.operationId (input.estimatedAiuMicros.getD "0")
            [.reserve (reservationRequest context input targets)]
      else (.error .requestInvalid, []) := by
  have hmode : ¬snapshot.aiuMode ≠ .hardLimit := by simp [hhard]
  exact if_neg hmode

end Call

/-- A request that was sent: the call is stopped under a denial exactly when the client fails
    closed or has nobody to call. -/
theorem denied_request_iff {mode : ChatMode} {world : World} {failMode : FailMode} {snapshot : Snapshot}
    {request : ReservationRequest} {targets : List RouteTarget} {virtualModel operationId amount : String}
    (hconnected : ∀ target ∈ targets, ∃ connection, snapshot.connections.lookup target.connectionId = some connection) :
    let call := match reservationOutcome failMode (world.reply request) with
      | .error error => (.error error, [.reserve request])
      | .ok result =>
        runTargets mode (mode.provider world) result.token snapshot world.credential targets virtualModel operationId
          amount [.reserve request]
    (Denied world call.2 → Stopped call) ↔
      failMode = .failClosed ∨
        ((∃ reason, world.reply request = .denied reason) →
          ∀ target ∈ targets, ¬Callable snapshot world.credential target) := by
  have hquiet : ¬ProviderCalled [Effect.reserve request] := by
    rintro ⟨index, target, connection, hmem⟩
    simp at hmem
  by_cases hdenied : ∃ reason, world.reply request = .denied reason
  · obtain ⟨reason, hreply⟩ := hdenied
    rw [hreply, reservationOutcome_denied]
    by_cases hclosed : failMode = .failClosed
    · simp only [hclosed, if_true, true_or, iff_true]
      exact fun _ => ⟨⟨_, rfl⟩, hquiet⟩
    · simp only [hclosed, if_false, false_or]
      refine ⟨fun hstops _ target hmem hcallable => ?_, fun hidle _ => ?_⟩
      · exact (hstops ⟨request, reason, runTargets_effects (by simp), hreply⟩).2
          (runTargets_calls hconnected ⟨target, hmem, hcallable⟩)
      · exact runTargets_idle (hidle ⟨reason, rfl⟩) hquiet
  · -- whatever else came back, nothing the call reserved was denied
    refine iff_of_true (fun ⟨other, reason, hmem, hreply⟩ => absurd ⟨reason, ?_⟩ hdenied)
      (.inr fun h => absurd h hdenied)
    have hother : Effect.reserve other ∈ [Effect.reserve request] := by
      split at hmem
      · exact hmem
      · exact runTargets_reserves hmem
    simp only [List.mem_singleton, Effect.reserve.injEq] at hother
    rwa [hother] at hreply

/-- Where a denied call is stopped: the client fails closed, or no candidate could be called. -/
def DenialStops (mode : ChatMode) (zones : Zones) (world : World) (failMode : FailMode) (clock : Int)
    (snapshot : Snapshot) (context : AiContext) (input : ChatInput) : Prop :=
  failMode = .failClosed ∨
    ∀ route targets, mode.prepare zones ⟨some snapshot, failMode⟩ clock snapshot context input = .ok (route, targets) →
      world.admits (reservationRequest context input targets) = true →
      (∃ reason, world.reply (reservationRequest context input targets) = .denied reason) →
      ∀ target ∈ targets, ¬Callable snapshot world.credential target

/-- Under a hard limit, a denied call is stopped before the provider exactly when `DenialStops`. -/
theorem denial_stops_iff (mode : ChatMode) (zones : Zones) (world : World) (failMode : FailMode) (clock : Int)
    (snapshot : Snapshot) (hvalid : snapshot.Valid) (hhard : snapshot.aiuMode = .hardLimit) (context : AiContext)
    (input : ChatInput) :
    (Denied world (executeChat mode zones world failMode clock snapshot context input).2 →
        Stopped (executeChat mode zones world failMode clock snapshot context input)) ↔
      DenialStops mode zones world failMode clock snapshot context input := by
  unfold DenialStops executeChat
  cases hprepare : mode.prepare zones ⟨some snapshot, failMode⟩ clock snapshot context input with
  | error error =>
    refine iff_of_true (fun ⟨request, reason, hmem, _⟩ => absurd hmem List.not_mem_nil) (.inr ?_)
    intro route targets hok
    cases hok
  | ok prepared =>
    obtain ⟨route, targets⟩ := prepared
    have hconnected := prepare_connected hvalid hprepare
    simp only [reserveAndRun_hard mode world hhard]
    -- the call reserves for these targets and no others
    have hcondition : (∀ route' targets', (Except.ok (route, targets) : Except ChatError _) = .ok (route', targets') →
        world.admits (reservationRequest context input targets') = true →
        (∃ reason, world.reply (reservationRequest context input targets') = .denied reason) →
        ∀ target ∈ targets', ¬Callable snapshot world.credential target) ↔
        (world.admits (reservationRequest context input targets) = true →
          (∃ reason, world.reply (reservationRequest context input targets) = .denied reason) →
          ∀ target ∈ targets, ¬Callable snapshot world.credential target) := by
      constructor
      · exact fun h => h route targets rfl
      · rintro h route' targets' heq
        cases heq
        exact h
    rw [hcondition]
    by_cases hadmits : world.admits (reservationRequest context input targets) = true
    · simp only [hadmits, if_true, forall_const]
      exact denied_request_iff hconnected
    · simp only [hadmits, if_false, Bool.false_eq_true, false_implies, or_true, iff_true]
      exact fun ⟨request, reason, hmem, _⟩ => absurd hmem List.not_mem_nil

/-- A plan with one model. -/
def onePlan : RoutingPlan where
  virtualModelId := "vm-1"
  configurationVersion := 1
  configurationEtag := "sha256:0000000000000000000000000000000000000000000000000000000000000000"
  publishedAt := .ofMilliseconds 0
  timezone := "UTC"
  default :=
    { routeTag := "cp:virtual:assistant:default"
      selectionMode := .ordered
      targets :=
        [ { modelId := "0b7f2c1e-5a3d-4c8e-9f10-2d3c4b5a6978", connectionId := "connection", requestModel := "small"
            provider := "provider", taskType := .chat, capabilities := [.streaming]
            routeTag := "cp:virtual:assistant:default", fallbackOrder := 0, weight := .ofInt 1 } ] }
  rules := []

theorem onePlan_valid : onePlan.Valid := by
  refine ⟨⟨by decide, by decide, by decide, rfl, ?_⟩, by simp [onePlan], by decide⟩
  simp [onePlan]

/-- A snapshot with a hard AIU limit. -/
def hardSnapshot : Snapshot := { publishing "assistant" onePlan with aiuEnabled := true, aiuMode := .hardLimit }

theorem hardSnapshot_valid : hardSnapshot.Valid := by
  have hvalid := publishing_valid onePlan_valid (by decide) "assistant"
  exact ⟨hvalid.plans, hvalid.named, hvalid.connected, hvalid.unique, hvalid.versions, by decide, hvalid.blocked⟩

/-- A service that denies, and a provider that would answer. -/
def denyingWorld : World where
  admits _ := true
  reply _ := .denied "user_quota_exceeded"
  credential _ := .ok ""
  provider _ _ _ := .success 200
  stream _ _ _ := .opened 200 true .completed

def deniedContext : AiContext where
  userId := "u-2"
  displayUser := none
  operationId := "op-1"
  requestId := "req-1"
  callSource := none
  userProperties := []

def deniedInput : ChatInput := ⟨"assistant", [⟨[]⟩], false, false, some "1000"⟩

theorem closed_client_is_stopped :
    hardSnapshot.Valid ∧
      Stopped (executeChat .nodeChat utcZone denyingWorld .failClosed (-1) hardSnapshot deniedContext deniedInput) := by
  refine ⟨hardSnapshot_valid, ?_⟩
  refine (denial_stops_iff .nodeChat utcZone denyingWorld .failClosed (-1) hardSnapshot hardSnapshot_valid rfl
    deniedContext deniedInput).mpr (.inl rfl) ?_
  exact ⟨_, "user_quota_exceeded", List.mem_cons_self, rfl⟩

/-- A client that fails open answers a denied call from the provider. -/
theorem open_client_is_not_stopped :
    ¬∀ (mode : ChatMode) (zones : Zones) (world : World) (failMode : FailMode) (clock : Int) (snapshot : Snapshot)
      (context : AiContext) (input : ChatInput), snapshot.Valid → snapshot.aiuMode = .hardLimit →
      Denied world (executeChat mode zones world failMode clock snapshot context input).2 →
      Stopped (executeChat mode zones world failMode clock snapshot context input) := by
  intro hall
  obtain ⟨⟨error, herror⟩, -⟩ := hall .nodeChat utcZone denyingWorld .failOpen (-1) hardSnapshot deniedContext
    deniedInput hardSnapshot_valid rfl ⟨_, "user_quota_exceeded", List.mem_cons_self, rfl⟩
  have hok : (executeChat .nodeChat utcZone denyingWorld .failOpen (-1) hardSnapshot deniedContext
      deniedInput).1.isOk = true := by decide +kernel
  rw [herror] at hok
  cases hok

end TokenPilot.Runtime
