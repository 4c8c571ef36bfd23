/-
  TokenPilot.Runtime.Access — who enforces the access block of a snapshot.

  A request is blocked when the snapshot disables its application or lists its user. Every
  public entry point that resolves a route is a `Call`. Only the connector's request hook
  reads the block (`hook_enforces`); the SDK clients and the connector's `select_route` go
  straight to the plan, so they refuse a blocked request exactly when they would refuse it
  anyway: the snapshot has expired and the client fails closed, the virtual model has no
  plan, the timezone is needed and unknown, or the highest priority is tied
  (`access_enforced_iff`).
-/

import TokenPilot.Runtime.Client
import TokenPilot.Runtime.RouteAgreement

namespace TokenPilot.Runtime

open Library

def Blocked (access : Access) (userId : Option String) : Prop :=
  access.applicationEnabled = false ∨ ∃ id, userId = some id ∧ id ∈ access.blockedUserIds

/-! ## Entry points -/

/-- The calls of an SDK client that resolve a route. -/
inductive SdkCall where
  | selectRoute (virtualModel : String) (context : RouteContext) (now : Int)
  | chat (model : String) (context : AiContext)
  | chatStream (model : String) (context : AiContext)
  | recordUsage (model : String) (context : AiContext)
  | openAiRequest (model : String) (context : AiContext)

def SdkCall.virtualModel : SdkCall → String
  | .selectRoute virtualModel _ _ => virtualModel
  | .chat model _ | .chatStream model _ | .recordUsage model _ | .openAiRequest model _ => model

def SdkCall.context : SdkCall → RouteContext
  | .selectRoute _ context _ => context
  | .chat _ context | .chatStream _ context | .recordUsage _ context | .openAiRequest _ context =>
    context.routeContext

def SdkCall.instant (clock : Int) : SdkCall → Int
  | .selectRoute _ _ now => now
  | _ => clock

inductive Call where
  | node (call : SdkCall)
  | python (call : SdkCall)
  | connectorSelectRoute (virtualModel : String) (context : RouteContext) (now : Int)
  | connectorHook (data : Json String Decimal)

def Call.userId : Call → Option String
  | .node call | .python call => call.context.userId
  | .connectorSelectRoute _ context _ => context.userId
  | .connectorHook data => (Connector.routeContextOf data).userId

/-- How the clients are configured, and their time. -/
structure Settings where
  failMode : FailMode
  policyRequired : Bool
  clock : Int

/-- What an entry point does with a request: an error, the request unchanged, or a target. -/
inductive Resolution where
  | failed
  | unchanged
  | target (route : RouteSelection)
  deriving DecidableEq

def Resolution.ofRoute {ε : Type} : Except ε RouteSelection → Resolution
  | .ok route => .target route
  | .error _ => .failed

def Resolution.ofApplied {ε : Type} : Except ε Connector.Applied → Resolution
  | .ok (.routed route) => .target route
  | .ok .unchanged => .unchanged
  | .error _ => .failed

/-- The resolution of a call by a client that has loaded `snapshot`. -/
def Call.resolve (zones : Zones) (settings : Settings) (snapshot : Snapshot) : Call → Resolution
  | .node call =>
    .ofRoute (Node.selectRoute zones ⟨some snapshot, settings.failMode⟩ settings.clock call.virtualModel call.context
      (call.instant settings.clock))
  | .python call =>
    .ofRoute (Python.selectRoute zones ⟨some snapshot, settings.failMode⟩ settings.clock call.virtualModel call.context
      (call.instant settings.clock))
  | .connectorSelectRoute virtualModel context now =>
    .ofRoute (Connector.selectRoute zones ⟨some snapshot, settings.policyRequired⟩ virtualModel context now)
  | .connectorHook data =>
    .ofApplied (Connector.applyToRequest zones ⟨some snapshot, settings.policyRequired⟩ data settings.clock)

/-! ## The hook -/

theorem checkAccess_fails_iff (access : Access) (userId : Option String) :
    (∃ error, Connector.checkAccess access userId = .error error) ↔ Blocked access userId := by
  unfold Connector.checkAccess Blocked
  cases henabled : access.applicationEnabled with
  | false => simp
  | true =>
    cases userId with
    | none => simp
    | some id => by_cases hmem : id ∈ access.blockedUserIds <;> simp [hmem]

theorem hook_enforces (zones : Zones) (settings : Settings) (snapshot : Snapshot) (data : Json String Decimal)
    (hblocked : Blocked snapshot.access (Connector.routeContextOf data).userId) :
    (Call.connectorHook data).resolve zones settings snapshot = .failed := by
  obtain ⟨error, herror⟩ := (checkAccess_fails_iff _ _).mpr hblocked
  simp only [Call.resolve, Connector.applyToRequest]
  cases Connector.virtualModelOf data with
  | none => rfl
  | some virtualModel => simp [herror, bind, Except.bind, Resolution.ofApplied]

/-! ## Resolution without the block -/

/-- The plan refuses a request of itself. -/
def Node.Refuses (zones : Zones) (snapshot : Snapshot) (virtualModel : String) (now : Int) (context : RouteContext) :
    Prop :=
  ∀ plan, snapshot.routing.lookup virtualModel = some plan →
    ∀ localized, zones plan.timezone = some localized →
      Tied (plan.rules.filter (Node.ruleMatches · (localized now) now context))

/-- As `Node.Refuses`, for an evaluator that looks at the timezone only for a schedule. -/
def RefusesLazily (holds : Zones → String → Int → RouteContext → RoutingRule → Bool) (zones : Zones)
    (snapshot : Snapshot) (virtualModel : String) (now : Int) (context : RouteContext) : Prop :=
  ∀ plan, snapshot.routing.lookup virtualModel = some plan →
    Stuck zones plan ∨ Tied (plan.rules.filter (holds zones plan.timezone now context))

/-- A resolution fails exactly when the choice does: a chosen route has a target. -/
theorem resolveWith_fails_iff {plan : RoutingPlan} (hvalid : plan.Valid) {holds : RoutingRule → Bool}
    {order : Route → List RouteTarget} (horder : ∀ route, route.targets ≠ [] → order route ≠ [])
    (virtualModel : String) (virtualModelId : Option String) :
    (∃ error, resolveWith virtualModel virtualModelId plan (plan.rules.filter holds) order = .error error) ↔
      Tied (plan.rules.filter holds) := by
  rw [← choose_fails_iff virtualModel plan (hvalid.distinct.of_map.filter holds)]
  cases hchosen : choose virtualModel plan (plan.rules.filter holds) with
  | error error => simp [resolveWith, hchosen, bind, Except.bind]
  | ok chosen =>
    obtain ⟨route, ruleId⟩ := chosen
    have hfilled : route.targets ≠ [] := by
      rcases choose_cases hchosen with ⟨-, rfl, -⟩ | ⟨winner, hmem, rfl, -⟩
      · exact hvalid.default.filled
      · exact (hvalid.rules winner (List.mem_filter.mp hmem).1).route.filled
    simp only [resolveWith, hchosen, bind, Except.bind, reduceCtorEq, exists_false, iff_false]
    cases htargets : order route with
    | nil => exact absurd htargets (horder route hfilled)
    | cons primary fallbacks => simp [selection]

theorem node_fails_iff {snapshot : Snapshot} (hvalid : snapshot.Valid) (zones : Zones) (virtualModel : String) (now : Int)
    (context : RouteContext) :
    (∃ error, Node.resolveRuntimeRoute zones snapshot virtualModel now context = .error error) ↔
      Node.Refuses zones snapshot virtualModel now context := by
  unfold Node.Refuses
  cases hplan : snapshot.routing.lookup virtualModel with
  | none => simp [Node.resolveRuntimeRoute, hplan]
  | some plan =>
    cases hzone : zones plan.timezone with
    | none => simp [Node.resolveRuntimeRoute, hplan, hzone]
    | some localized =>
      rw [node_resolve hplan hzone, resolveWith_fails_iff (hvalid.plan hplan) fun route h => orderedTargets_ne_nil h _]
      simp [hzone]

/-- An evaluation rule by rule fails when a rule does, or else when the choice does. -/
theorem lazy_fails_iff {plan : RoutingPlan} (hvalid : plan.Valid) {applies : RoutingRule → Except RouteError Bool}
    {holds : RoutingRule → Bool} {stuck : Prop} (hok : ¬stuck → ∀ rule ∈ plan.rules, applies rule = .ok (holds rule))
    (hstuck : stuck → ∃ rule ∈ plan.rules, ∃ error, applies rule = .error error) {order : Route → List RouteTarget}
    (horder : ∀ route, route.targets ≠ [] → order route ≠ []) (virtualModel : String) (virtualModelId : Option String) :
    (∃ error, (do
        let matched ← matchedRules applies plan.rules
        resolveWith virtualModel virtualModelId plan matched order) = .error error) ↔
      stuck ∨ Tied (plan.rules.filter holds) := by
  by_cases h : stuck
  · obtain ⟨rule, hmem, error, herror⟩ := hstuck h
    obtain ⟨error', herror'⟩ := matchedRules_error hmem herror
    simp [herror', bind, Except.bind, h]
  · rw [matchedRules_ok (hok h)]
    simp only [bind, Except.bind, h, false_or]
    exact resolveWith_fails_iff hvalid horder virtualModel virtualModelId

section Lazily

variable {snapshot : Snapshot} (hvalid : snapshot.Valid) (zones : Zones) (virtualModel : String) (now : Int)
  (context : RouteContext)

include hvalid

theorem python_fails_iff :
    (∃ error, Python.resolveRuntimeRoute zones snapshot virtualModel now context = .error error) ↔
      RefusesLazily pythonHolds zones snapshot virtualModel now context := by
  unfold RefusesLazily
  cases hplan : snapshot.routing.lookup virtualModel with
  | none => simp [Python.resolveRuntimeRoute, hplan]
  | some plan =>
    simp only [Option.some.injEq, forall_eq', Python.resolveRuntimeRoute, hplan]
    refine lazy_fails_iff (hvalid.plan hplan) (fun h rule hmem => pythonHolds_ok rule (evaluable_of_not_stuck h hmem))
      ?_ (fun route h => orderedTargets_ne_nil h _) virtualModel (some plan.virtualModelId)
    rintro ⟨hzone, rule, hmem, schedule, hmatch⟩
    exact ⟨rule, hmem, .timezoneInvalid, by simp [Python.matchesRule, hmatch, hzone]⟩

theorem connector_fails_iff :
    (∃ error, Connector.selectRuntimeRoute zones snapshot virtualModel now context = .error error) ↔
      RefusesLazily connectorHolds zones snapshot virtualModel now context := by
  unfold RefusesLazily
  cases hplan : snapshot.routing.lookup virtualModel with
  | none => simp [Connector.selectRuntimeRoute, hplan]
  | some plan =>
    simp only [Option.some.injEq, forall_eq', Connector.selectRuntimeRoute, hplan]
    refine lazy_fails_iff (hvalid.plan hplan)
      (fun h rule hmem => connectorHolds_ok rule (evaluable_of_not_stuck h hmem)) ?_
      (fun route h => orderedTargets_ne_nil h _) virtualModel none
    rintro ⟨hzone, rule, hmem, schedule, hmatch⟩
    exact ⟨rule, hmem, .timezoneInvalid, by simp [Connector.matchesRule, Python.matchesRule, hmatch, hzone]⟩

end Lazily

/-! ## Enforcement -/

/-- What makes an entry point fail whoever asks. The hook is not among them: what it cannot
    route it may pass on. -/
def Refused (zones : Zones) (settings : Settings) (snapshot : Snapshot) : Call → Prop
  | .node call =>
    (Node.expired snapshot settings.clock = true ∧ settings.failMode = .failClosed) ∨
      Node.Refuses zones snapshot call.virtualModel (call.instant settings.clock) call.context
  | .python call =>
    (Python.expired snapshot settings.clock = true ∧ settings.failMode = .failClosed) ∨
      RefusesLazily pythonHolds zones snapshot call.virtualModel (call.instant settings.clock) call.context
  | .connectorSelectRoute virtualModel context now =>
    RefusesLazily connectorHolds zones snapshot virtualModel now context
  | .connectorHook _ => False

def Call.IsHook : Call → Prop
  | .connectorHook _ => True
  | _ => False

theorem ofRoute_failed {ε : Type} {result : Except ε RouteSelection} :
    Resolution.ofRoute result = .failed ↔ ∃ error, result = .error error := by
  cases result <;> simp [Resolution.ofRoute]

theorem mapError_fails {ε δ α : Type} {result : Except ε α} {f : ε → δ} :
    (∃ error, result.mapError f = .error error) ↔ ∃ error, result = .error error := by
  cases result <;> simp [Except.mapError]

/-- An SDK client fails on an unusable snapshot, or else with the evaluator. -/
theorem sdk_fails_iff (expired : Snapshot → Int → Bool) (snapshot : Snapshot) (failMode : FailMode) (clock : Int)
    (resolve : Snapshot → Except RouteError RouteSelection) :
    (∃ error, (do
        let snapshot ← requireUsable expired ⟨some snapshot, failMode⟩ clock
        liftRoute (resolve snapshot)) = .error error) ↔
      (expired snapshot clock = true ∧ failMode = .failClosed) ∨ ∃ error, resolve snapshot = .error error := by
  by_cases h : expired snapshot clock = true ∧ failMode = .failClosed
  · simp [requireUsable, h, bind, Except.bind]
  · simp only [requireUsable, h, if_false, bind, Except.bind, false_or, liftRoute]
    exact mapError_fails

theorem resolve_failed_iff {snapshot : Snapshot} (hvalid : snapshot.Valid) (zones : Zones) (settings : Settings)
    {call : Call} (hhook : ¬call.IsHook) :
    call.resolve zones settings snapshot = .failed ↔ Refused zones settings snapshot call := by
  cases call with
  | node call =>
    simp only [Call.resolve, ofRoute_failed, Refused, Node.selectRoute]
    rw [sdk_fails_iff Node.expired snapshot settings.failMode settings.clock fun snapshot =>
      Node.resolveRuntimeRoute zones snapshot call.virtualModel (call.instant settings.clock) call.context]
    rw [node_fails_iff hvalid]
  | python call =>
    simp only [Call.resolve, ofRoute_failed, Refused, Python.selectRoute]
    rw [sdk_fails_iff Python.expired snapshot settings.failMode settings.clock fun snapshot =>
      Python.resolveRuntimeRoute zones snapshot call.virtualModel (call.instant settings.clock) call.context]
    rw [python_fails_iff hvalid]
  | connectorSelectRoute virtualModel context now =>
    simp only [Call.resolve, ofRoute_failed, Refused, Connector.selectRoute]
    rw [mapError_fails, connector_fails_iff hvalid]
  | connectorHook data => exact absurd trivial hhook

/-- A blocked request fails at an entry point exactly when the entry point is the hook or would
    fail for anyone. -/
theorem access_enforced_iff (zones : Zones) (settings : Settings) (snapshot : Snapshot) (hvalid : snapshot.Valid)
    (call : Call) :
    (Blocked snapshot.access call.userId → call.resolve zones settings snapshot = .failed) ↔
      ¬Blocked snapshot.access call.userId ∨ call.IsHook ∨ Refused zones settings snapshot call := by
  by_cases hblocked : Blocked snapshot.access call.userId
  · simp only [hblocked, forall_const, not_true_eq_false, false_or]
    by_cases hhook : call.IsHook
    · cases call with
      | connectorHook data => exact iff_of_true (hook_enforces zones settings snapshot data hblocked) (.inl trivial)
      | _ => exact absurd hhook id
    · rw [resolve_failed_iff hvalid zones settings hhook]
      simp [hhook]
  · simp [hblocked]

/-- A snapshot that blocks user `u-2`. -/
def blockingSnapshot : Snapshot := { publishing "assistant" betaPlan with access := ⟨true, ["u-2"]⟩ }

theorem blockingSnapshot_valid : blockingSnapshot.Valid where
  plans := betaSnapshot_valid.plans
  named := betaSnapshot_valid.named
  connected := betaSnapshot_valid.connected
  unique := betaSnapshot_valid.unique
  versions := betaSnapshot_valid.versions
  active := betaSnapshot_valid.active
  blocked := by decide

theorem blockingSnapshot_blocks : Blocked blockingSnapshot.access (some "u-2") := .inr ⟨"u-2", rfl, by decide⟩

/-- A request of `u-2` as it reaches the connector. -/
def blockedData : Json String Decimal :=
  .obj [("model", .str "assistant"), ("metadata", .obj [("cp", .obj [("user_id", .str "u-2")])])]

theorem hook_refuses_blocked_user :
    blockingSnapshot.Valid ∧
      (Call.connectorHook blockedData).resolve utcZone ⟨.failOpen, false, 1000⟩ blockingSnapshot = .failed := by
  refine ⟨blockingSnapshot_valid, ?_⟩
  exact (access_enforced_iff utcZone ⟨.failOpen, false, 1000⟩ _ blockingSnapshot_valid (.connectorHook blockedData)).mpr
    (.inr (.inl trivial)) blockingSnapshot_blocks

/-- The Node client routes the blocked user. -/
theorem node_routes_blocked_user :
    ¬∀ (zones : Zones) (settings : Settings) (snapshot : Snapshot) (call : Call), snapshot.Valid →
      Blocked snapshot.access call.userId → call.resolve zones settings snapshot = .failed := by
  intro hall
  have hfailed := hall utcZone ⟨.failClosed, true, -1⟩ _
    (.node (.selectRoute "assistant" (betaRequest (.bool true)) (-1))) blockingSnapshot_valid blockingSnapshot_blocks
  exact absurd hfailed (by decide +kernel)

end TokenPilot.Runtime
