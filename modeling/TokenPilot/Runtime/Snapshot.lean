/-
  TokenPilot.Runtime.Snapshot — the runtime snapshot (`runtime-snapshot.ts`, `policy.ts`,
  `model-runtime.ts` of the contracts) as the clients hold it after parsing.

  The records follow the schema's objects. What the schema asks across fields is `Valid`:
  a route has targets with distinct models, its own tag and a contiguous fallback order; an
  override rule has an expiry; rule ids are unique; every target's connection is published;
  an AIU mode is active exactly when AIU is enabled. The patterns and lengths of single
  texts are not part of it, since no decision of a runtime reads them.

  A timestamp is its text and the time it is read as, to the microsecond: JavaScript reads a
  date to the millisecond, Python to the microsecond, and both drop what follows.
-/

import TokenPilot.Library.Decimal
import TokenPilot.Library.Json
import TokenPilot.Runtime.Texts

namespace TokenPilot.Runtime

open Library

/-- A timestamp text of the schema, with its milliseconds and what is left of them. -/
structure UtcTime where
  text : String
  milliseconds : Int
  microseconds : Nat
  fits : microseconds < 1000
  deriving DecidableEq

/-- `toISOString` of a date. -/
def UtcTime.ofMilliseconds (milliseconds : Int) : UtcTime := ⟨isoString milliseconds, milliseconds, 0, by decide⟩

/-! ## Matches -/

inductive Operator where
  | equals
  | notEquals
  | contains
  | startsWith
  | isSet
  | isNotSet
  deriving DecidableEq, Repr

/-- The value of a condition; a number is a safe integer. -/
inductive PropertyValue where
  | text (s : String)
  | number (n : Int)
  | flag (b : Bool)
  deriving DecidableEq, Repr

structure UserPropertyMatch where
  key : String
  operator : Operator
  value : Option PropertyValue
  deriving DecidableEq, Repr

/-- A clock time `HH:MM`. -/
structure Clock where
  hour : Fin 24
  minute : Fin 60
  deriving DecidableEq, Repr

structure Schedule where
  days : List Nat
  start : Clock
  stop : Clock
  deriving DecidableEq, Repr

inductive RouteMatch where
  | overrideActive
  | schedule (schedule : Schedule)
  | user (ids : List String)
  | userProperty (condition : UserPropertyMatch)
  | callSource (value : String)
  deriving DecidableEq, Repr

def RouteMatch.Valid : RouteMatch → Prop
  | .user ids => "" ∉ ids
  | .userProperty condition => condition.operator = .isSet ∨ condition.operator = .isNotSet ∨ condition.value.isSome
  | _ => True

instance : DecidablePred RouteMatch.Valid := fun m => by
  cases m <;> unfold RouteMatch.Valid <;> infer_instance

/-! ## Routes and plans -/

inductive TaskType where
  | chat
  | embedding
  | image
  | audio
  deriving DecidableEq, Repr

inductive Capability where
  | streaming
  | tools
  | structuredOutput
  | imageInput
  | audioInput
  | audioOutput
  | cacheMetering
  | reasoning
  deriving DecidableEq, Repr

structure RouteTarget where
  modelId : String
  connectionId : String
  requestModel : String
  provider : String
  taskType : TaskType
  capabilities : List Capability
  routeTag : String
  fallbackOrder : Nat
  weight : Decimal
  deriving DecidableEq

inductive SelectionMode where
  | ordered
  | weighted
  deriving DecidableEq, Repr

structure Route where
  routeTag : String
  selectionMode : SelectionMode
  targets : List RouteTarget
  deriving DecidableEq

structure Route.Valid (route : Route) : Prop where
  filled : route.targets ≠ []
  distinct : (route.targets.map (·.modelId)).Nodup
  tagged : ∀ target ∈ route.targets, target.routeTag = route.routeTag
  contiguous : route.targets.map (·.fallbackOrder) = List.range route.targets.length
  weighted : ∀ target ∈ route.targets, 0 < target.weight.toRat ∧ target.weight.toRat ≤ 1000

structure RoutingRule where
  id : String
  priority : Int
  «match» : RouteMatch
  route : Route
  expiresAt : Option UtcTime
  deriving DecidableEq

structure RoutingRule.Valid (rule : RoutingRule) : Prop where
  condition : rule.match.Valid
  route : rule.route.Valid
  expiring : rule.match = .overrideActive → rule.expiresAt.isSome

structure RoutingPlan where
  virtualModelId : String
  configurationVersion : Nat
  configurationEtag : String
  publishedAt : UtcTime
  timezone : String
  default : Route
  rules : List RoutingRule
  deriving DecidableEq

structure RoutingPlan.Valid (plan : RoutingPlan) : Prop where
  default : plan.default.Valid
  rules : ∀ rule ∈ plan.rules, rule.Valid
  distinct : (plan.rules.map (·.id)).Nodup

def RoutingPlan.targets (plan : RoutingPlan) : List RouteTarget :=
  plan.default.targets ++ plan.rules.flatMap (·.route.targets)

/-! ## The snapshot -/

inductive Driver where
  | litellm
  | openaiCompatible
  | anthropic
  deriving DecidableEq, Repr

structure Connection where
  id : String
  name : String
  driver : Driver
  baseUrl : Option String
  credentialRef : Option String
  timeoutMs : Nat
  maxRetries : Nat
  apiVersion : Option String
  deriving DecidableEq, Repr

inductive AiuMode where
  | disabled
  | observe
  | softLimit
  | hardLimit
  | unknown
  deriving DecidableEq, Repr

inductive UnratedModelPolicy where
  | allowUnrated
  | blockUnrated
  | fallbackRequired
  | alertOnly
  deriving DecidableEq, Repr

structure Access where
  applicationEnabled : Bool
  blockedUserIds : List String
  deriving DecidableEq, Repr

/-- The content a snapshot is signed for. -/
structure UnsignedSnapshot where
  applicationId : String
  version : String
  expiresAt : UtcTime
  connections : List (String × Connection)
  routing : List (String × RoutingPlan)
  aiuEnabled : Bool
  aiuMode : AiuMode
  unratedModelPolicy : UnratedModelPolicy
  access : Access
  analyticsAllowedKeys : List String
  deriving DecidableEq

structure Snapshot extends UnsignedSnapshot where
  etag : String
  signature : String
  deriving DecidableEq

structure Snapshot.Valid (snapshot : Snapshot) : Prop where
  plans : ∀ entry ∈ snapshot.routing, entry.2.Valid
  named : ∀ entry ∈ snapshot.connections, entry.2.id = entry.1
  connected : ∀ entry ∈ snapshot.routing, ∀ target ∈ entry.2.targets,
    (snapshot.connections.lookup target.connectionId).isSome
  unique : (snapshot.routing.map (·.1)).Nodup ∧ (snapshot.connections.map (·.1)).Nodup
  versions : ∀ a ∈ snapshot.routing, ∀ b ∈ snapshot.routing, a.2.configurationVersion = b.2.configurationVersion
  active : snapshot.aiuEnabled = true ↔ snapshot.aiuMode ≠ .disabled
  blocked : snapshot.access.blockedUserIds.Nodup

theorem Snapshot.Valid.plan {snapshot : Snapshot} (h : snapshot.Valid) {virtualModel : String} {plan : RoutingPlan}
    (hplan : snapshot.routing.lookup virtualModel = some plan) : plan.Valid := by
  obtain ⟨before, after, hrouting, -⟩ := List.lookup_eq_some_iff.mp hplan
  exact h.plans (virtualModel, plan) (by simp [hrouting])

theorem Snapshot.Valid.connection {snapshot : Snapshot} (h : snapshot.Valid) {virtualModel : String}
    {plan : RoutingPlan} (hplan : snapshot.routing.lookup virtualModel = some plan) {target : RouteTarget}
    (hmem : target ∈ plan.targets) :
    ∃ connection, snapshot.connections.lookup target.connectionId = some connection := by
  obtain ⟨before, after, hrouting, -⟩ := List.lookup_eq_some_iff.mp hplan
  exact Option.isSome_iff_exists.mp (h.connected (virtualModel, plan) (by simp [hrouting]) target hmem)

/-! ## The request -/

/-- What a caller tells about its request (`RuntimeRouteContext`). -/
structure RouteContext where
  userId : Option String
  userProperties : Option (List (String × Json String Decimal))
  callSource : Option String
  selectionKey : Option String

/-- The local time of a timezone, `none` for a name that is no timezone. -/
structure LocalTime where
  weekday : Nat
  minute : Nat
  deriving DecidableEq, Repr

abbrev Zones := String → Option (Int → LocalTime)

/-- A route as a runtime returns it; the connector returns no id of the virtual model. -/
structure RouteSelection where
  virtualModel : String
  virtualModelId : Option String
  configurationVersion : Nat
  configurationEtag : String
  routeTag : String
  ruleId : Option String
  primary : RouteTarget
  fallbacks : List RouteTarget
  deriving DecidableEq

inductive RouteError where
  | routeNotFound (virtualModel : String)
  | timezoneInvalid
  | routeConflict (virtualModel : String)
  | routeEmpty
  deriving DecidableEq, Repr

end TokenPilot.Runtime
