/-
  TokenPilot.Runtime.Schema — the JSON of a snapshot and `runtimeSnapshotSchema`
  (`runtime-snapshot.ts`, `policy.ts`, `model-runtime.ts`).

  `toJson` is the object a record stands for, with an optional field left out when it is
  absent. A schema reads a record from a JSON value: an object must be strict (no key but
  its own), every field passes its own schema, then the checks across fields run. Two texts
  are trimmed on the way, the base URL of a connection and the value of a call source;
  nothing else is changed, defaulted or dropped.

  A number is read as an integer only in the safe range. `Object.prototype` answers for a
  key an object does not have, so the check of a target's connection also passes for the
  name of one of its members.
-/

import TokenPilot.Library.Codec
import TokenPilot.Runtime.Snapshot

namespace TokenPilot.Runtime

open Library

abbrev Value := Json String Decimal

/-! ## Values -/

def integer (n : Int) : Value := .num (.ofInt n)

def texts (l : List String) : Value := .arr (l.map .str)

/-- A field that is left out when there is no value. -/
def optionalField (key : String) (value : Option Value) : List (String × Value) :=
  match value with
  | some v => [(key, v)]
  | none => []

def orNull (value : Option String) : Value :=
  match value with
  | some s => .str s
  | none => .null

/-! ## Names of the enumerations -/

def Operator.text : Operator → String
  | .equals => "equals"
  | .notEquals => "not_equals"
  | .contains => "contains"
  | .startsWith => "starts_with"
  | .isSet => "is_set"
  | .isNotSet => "is_not_set"

def TaskType.text : TaskType → String
  | .chat => "chat"
  | .embedding => "embedding"
  | .image => "image"
  | .audio => "audio"

def Capability.text : Capability → String
  | .streaming => "streaming"
  | .tools => "tools"
  | .structuredOutput => "structured_output"
  | .imageInput => "image_input"
  | .audioInput => "audio_input"
  | .audioOutput => "audio_output"
  | .cacheMetering => "cache_metering"
  | .reasoning => "reasoning"

def SelectionMode.text : SelectionMode → String
  | .ordered => "ordered"
  | .weighted => "weighted"

def Driver.text : Driver → String
  | .litellm => "litellm"
  | .openaiCompatible => "openai_compatible"
  | .anthropic => "anthropic"

def AiuMode.text : AiuMode → String
  | .disabled => "disabled"
  | .observe => "observe"
  | .softLimit => "soft_limit"
  | .hardLimit => "hard_limit"
  | .unknown => "unknown"

def UnratedModelPolicy.text : UnratedModelPolicy → String
  | .allowUnrated => "allow_unrated"
  | .blockUnrated => "block_unrated"
  | .fallbackRequired => "fallback_required"
  | .alertOnly => "alert_only"

/-! ## Encoding -/

def Clock.text (clock : Clock) : String :=
  String.ofList (digitsOf 2 clock.hour.val ++ ':' :: digitsOf 2 clock.minute.val)

def PropertyValue.toJson : PropertyValue → Value
  | .text s => .str s
  | .number n => integer n
  | .flag b => .bool b

def UserPropertyMatch.toJson (condition : UserPropertyMatch) : Value :=
  .obj ([("key", .str condition.key), ("operator", .str condition.operator.text)] ++
    optionalField "value" (condition.value.map PropertyValue.toJson))

def Schedule.toJson (schedule : Schedule) : Value :=
  .obj [("days", .arr (schedule.days.map fun (day : Nat) => integer day)), ("from", .str schedule.start.text),
    ("to", .str schedule.stop.text)]

def RouteMatch.toJson : RouteMatch → Value
  | .overrideActive => .obj [("override_active", .bool true)]
  | .schedule times => .obj [("schedule", times.toJson)]
  | .user ids => .obj [("user", .obj [("ids", texts ids)])]
  | .userProperty condition => .obj [("user_property", condition.toJson)]
  | .callSource value => .obj [("call_source", .obj [("value", .str value)])]

def RouteTarget.toJson (target : RouteTarget) : Value :=
  .obj
    [ ("model_id", .str target.modelId), ("connection_id", .str target.connectionId),
      ("request_model", .str target.requestModel), ("provider", .str target.provider),
      ("task_type", .str target.taskType.text), ("capabilities", .arr (target.capabilities.map (.str ·.text))),
      ("route_tag", .str target.routeTag), ("fallback_order", integer target.fallbackOrder),
      ("weight", .num target.weight) ]

def Route.toJson (route : Route) : Value :=
  .obj [("route_tag", .str route.routeTag), ("selection_mode", .str route.selectionMode.text),
    ("targets", .arr (route.targets.map RouteTarget.toJson))]

def RoutingRule.toJson (rule : RoutingRule) : Value :=
  .obj ([("id", .str rule.id), ("priority", integer rule.priority), ("match", rule.match.toJson),
    ("route", rule.route.toJson)] ++ optionalField "expires_at" (rule.expiresAt.map (.str ·.text)))

def RoutingPlan.toJson (plan : RoutingPlan) : Value :=
  .obj
    [ ("virtual_model_id", .str plan.virtualModelId), ("configuration_version", integer plan.configurationVersion),
      ("configuration_etag", .str plan.configurationEtag), ("published_at", .str plan.publishedAt.text),
      ("timezone", .str plan.timezone), ("default", plan.default.toJson),
      ("rules", .arr (plan.rules.map RoutingRule.toJson)) ]

def Connection.toJson (connection : Connection) : Value :=
  .obj ([("id", .str connection.id), ("name", .str connection.name), ("driver", .str connection.driver.text),
    ("base_url", orNull connection.baseUrl), ("credential_ref", orNull connection.credentialRef),
    ("timeout_ms", integer connection.timeoutMs), ("max_retries", integer connection.maxRetries)] ++
    if connection.driver = .anthropic then [("api_version", orNull connection.apiVersion)] else [])

def UnsignedSnapshot.fields (snapshot : UnsignedSnapshot) : List (String × Value) :=
  [ ("schema_version", .str "2.0"), ("application_id", .str snapshot.applicationId), ("version", .str snapshot.version),
    ("expires_at", .str snapshot.expiresAt.text),
    ("connections", .obj (snapshot.connections.map fun entry => (entry.1, entry.2.toJson))),
    ("routing", .obj (snapshot.routing.map fun entry => (entry.1, entry.2.toJson))),
    ("aiu", .obj [("enabled", .bool snapshot.aiuEnabled), ("mode", .str snapshot.aiuMode.text),
      ("unrated_model_policy", .str snapshot.unratedModelPolicy.text)]),
    ("access", .obj [("application_enabled", .bool snapshot.access.applicationEnabled),
      ("blocked_user_ids", texts snapshot.access.blockedUserIds)]),
    ("dimensions", .obj [("analytics_allowed_keys", texts snapshot.analyticsAllowedKeys)]) ]

def UnsignedSnapshot.toJson (snapshot : UnsignedSnapshot) : Value := .obj snapshot.fields

def Snapshot.toJson (snapshot : Snapshot) : Value :=
  .obj (snapshot.fields ++ [("etag", .str snapshot.etag), ("signature", .str snapshot.signature)])

/-! ## Schemas of values -/

def textSchema (pattern : String → Bool) : Value → Option String
  | .str s => if pattern s then some s else none
  | _ => none

/-- A text that is trimmed before it is checked. -/
def trimmedSchema (pattern : String → Bool) : Value → Option String
  | .str s => if pattern (jsTrim s) then some (jsTrim s) else none
  | _ => none

def boolSchema : Value → Option Bool
  | .bool b => some b
  | _ => none

/-- An integer from `least` to `most`. -/
def integerSchema (least most : Int) : Value → Option Int
  | .num d =>
    let n := d.coefficient * 10 ^ d.exponent.toNat
    if 0 ≤ d.exponent ∧ least ≤ n ∧ n ≤ most then some n else none
  | _ => none

def maxSafeInteger : Int := 9007199254740991

def safeIntegerSchema : Value → Option Int := integerSchema (-maxSafeInteger) maxSafeInteger

def naturalSchema (least most : Nat) (v : Value) : Option Nat := (integerSchema least most v).map Int.toNat

def enumSchema {α : Type} (text : α → String) (values : List α) : Value → Option α
  | .str s => values.find? (text · = s)
  | _ => none

def nullable {α : Type} (schema : Value → Option α) : Value → Option (Option α)
  | .null => some none
  | v => (schema v).map some

def readAll {α β : Type} (schema : α → Option β) : List α → Option (List β)
  | [] => some []
  | v :: rest => do
    let a ← schema v
    let l ← readAll schema rest
    return a :: l

def arraySchema {α : Type} (schema : Value → Option α) : Value → Option (List α)
  | .arr items => readAll schema items
  | _ => none

def recordSchema {α : Type} (key : String → Bool) (schema : Value → Option α) :
    Value → Option (List (String × α))
  | .obj fields => readAll (fun f => if key f.1 then (schema f.2).map (Prod.mk f.1) else none) fields
  | _ => none

/-- `z.strictObject`: the fields of an object that has no other keys. -/
def strictObject (keys : List String) : Value → Option (String → Option Value)
  | .obj fields => if fields.all (keys.contains ·.1) then some fun key => fields.lookup key else none
  | _ => none

/-- A field that has to be there. -/
def required {α : Type} (field : String → Option Value) (key : String) (schema : Value → Option α) : Option α :=
  (field key).bind schema

/-- An optional field: absent, or read. -/
def optionally {α : Type} (schema : Value → Option α) : Option Value → Option (Option α)
  | none => some none
  | some v => (schema v).map some

def utcTimestampSchema : Value → Option UtcTime
  | .str s =>
    match readUtc s with
    | some (milliseconds, microseconds) =>
      if fits : microseconds < 1000 then some ⟨s, milliseconds, microseconds, fits⟩ else none
    | none => none
  | _ => none

/-- `/^(?:[01]\d|2[0-3]):[0-5]\d$/` -/
def clockTimeSchema : Value → Option Clock
  | .str s => do
    let (hour, t) ← readDigits 2 s.toList
    let (minute, t) ← readDigits 2 (← readChar ':' t)
    if h : hour < 24 ∧ minute < 60 ∧ t = [] then some ⟨⟨hour, h.1⟩, ⟨minute, h.2.1⟩⟩ else none
  | _ => none

/-! ## Conditions -/

def scheduleSchema (v : Value) : Option Schedule := do
  let field ← strictObject ["days", "from", "to"] v
  let days ← required field "days" (arraySchema (naturalSchema 1 7))
  let start ← required field "from" clockTimeSchema
  let stop ← required field "to" clockTimeSchema
  if 1 ≤ days.length ∧ days.length ≤ 7 ∧ days.Nodup then some ⟨days, start, stop⟩ else none

def propertyValueSchema : Value → Option PropertyValue
  | .str s => if jsLength s ≤ 2048 then some (.text s) else none
  | .bool b => some (.flag b)
  | v => (safeIntegerSchema v).map .number

def operators : List Operator := [.equals, .notEquals, .contains, .startsWith, .isSet, .isNotSet]

def userPropertyMatchSchema (v : Value) : Option UserPropertyMatch := do
  let field ← strictObject ["key", "operator", "value"] v
  let key ← required field "key" (textSchema propertyKeyPattern)
  let operator ← required field "operator" (enumSchema Operator.text operators)
  let value ← optionally propertyValueSchema (field "value")
  if operator = .isSet ∨ operator = .isNotSet ∨ value.isSome then some ⟨key, operator, value⟩ else none

/-- The value of an object whose only key is `key`. -/
def onlyField {α : Type} (key : String) (schema : Value → Option α) (v : Value) : Option α := do
  let field ← strictObject [key] v
  required field key schema

def trueSchema : Value → Option Unit
  | .bool true => some ()
  | _ => none

def userIdsSchema (v : Value) : Option (List String) :=
  (arraySchema (textSchema fun s => 1 ≤ jsLength s && jsLength s ≤ 256) v).filter (·.length ≤ 50000)

def callSourceSchema : Value → Option String := trimmedSchema fun s => 1 ≤ jsLength s && jsLength s ≤ 120

def runtimeRouteMatchSchema (v : Value) : Option RouteMatch :=
  (onlyField "override_active" trueSchema v).map (fun _ => .overrideActive)
    <|> (onlyField "schedule" scheduleSchema v).map .schedule
    <|> (onlyField "user" (onlyField "ids" userIdsSchema) v).map .user
    <|> (onlyField "user_property" userPropertyMatchSchema v).map .userProperty
    <|> (onlyField "call_source" (onlyField "value" callSourceSchema) v).map .callSource

/-! ## Routes and plans -/

def taskTypes : List TaskType := [.chat, .embedding, .image, .audio]

def capabilities : List Capability :=
  [.streaming, .tools, .structuredOutput, .imageInput, .audioInput, .audioOutput, .cacheMetering, .reasoning]

def modelCapabilitiesSchema (v : Value) : Option (List Capability) :=
  (arraySchema (enumSchema Capability.text capabilities) v).filter fun items => items.length ≤ 8 && decide items.Nodup

def routeTagSchema : Value → Option String := textSchema fun s => jsLength s ≤ 200 && routeTagPattern s

def virtualModelName (s : String) : Bool := jsLength s ≤ 120 && virtualModelPattern s

/-- An integer, or any other finite number, above zero and up to 1000. -/
def weightSchema : Value → Option Decimal
  | .num d => if 0 < d.toRat ∧ d.toRat ≤ 1000 then some d else none
  | _ => none

def runtimeRouteTargetSchema (v : Value) : Option RouteTarget := do
  let field ← strictObject ["model_id", "connection_id", "request_model", "provider", "task_type", "capabilities",
    "route_tag", "fallback_order", "weight"] v
  let modelId ← required field "model_id" (textSchema opaqueIdPattern)
  let connectionId ← required field "connection_id" (textSchema opaqueIdPattern)
  let requestModel ← required field "request_model" (textSchema (bounded 1 256))
  let provider ← required field "provider" (textSchema (bounded 1 120))
  let taskType ← required field "task_type" (enumSchema TaskType.text taskTypes)
  let capabilities ← required field "capabilities" modelCapabilitiesSchema
  let routeTag ← required field "route_tag" routeTagSchema
  let fallbackOrder ← required field "fallback_order" (naturalSchema 0 63)
  let weight ← required field "weight" weightSchema
  some { modelId, connectionId, requestModel, provider, taskType, capabilities, routeTag, fallbackOrder, weight }

def selectionModes : List SelectionMode := [.ordered, .weighted]

def runtimeRouteSchema (v : Value) : Option Route := do
  let field ← strictObject ["route_tag", "selection_mode", "targets"] v
  let routeTag ← required field "route_tag" routeTagSchema
  let selectionMode ← required field "selection_mode" (enumSchema SelectionMode.text selectionModes)
  let targets ← required field "targets" (arraySchema runtimeRouteTargetSchema)
  if 1 ≤ targets.length ∧ targets.length ≤ 64 ∧ (targets.map (·.modelId)).Nodup ∧
      (∀ target ∈ targets, target.routeTag = routeTag) ∧
      targets.map (·.fallbackOrder) = List.range targets.length then
    some { routeTag, selectionMode, targets }
  else none

def runtimeRoutingRuleSchema (v : Value) : Option RoutingRule := do
  let field ← strictObject ["id", "priority", "match", "route", "expires_at"] v
  let id ← required field "id" (textSchema (bounded 1 120))
  let priority ← required field "priority" safeIntegerSchema
  let condition ← required field "match" runtimeRouteMatchSchema
  let route ← required field "route" runtimeRouteSchema
  let expiresAt ← optionally utcTimestampSchema (field "expires_at")
  if condition = .overrideActive → expiresAt.isSome then
    some { id, priority, «match» := condition, route, expiresAt }
  else none

def runtimeRoutingPlanSchema (v : Value) : Option RoutingPlan := do
  let field ← strictObject ["virtual_model_id", "configuration_version", "configuration_etag", "published_at",
    "timezone", "default", "rules"] v
  let virtualModelId ← required field "virtual_model_id" (textSchema opaqueIdPattern)
  let configurationVersion ← required field "configuration_version" (naturalSchema 1 maxSafeInteger.toNat)
  let configurationEtag ← required field "configuration_etag" (textSchema sha256FingerprintPattern)
  let publishedAt ← required field "published_at" utcTimestampSchema
  let timezone ← required field "timezone" (textSchema (bounded 1 128))
  let default ← required field "default" runtimeRouteSchema
  let rules ← required field "rules" (arraySchema runtimeRoutingRuleSchema)
  if rules.length ≤ 512 ∧ (rules.map (·.id)).Nodup then
    some { virtualModelId, configurationVersion, configurationEtag, publishedAt, timezone, default, rules }
  else none

/-! ## Connections and the snapshot -/

def drivers : List Driver := [.litellm, .openaiCompatible, .anthropic]

section

variable (isHttpUrl : String → Bool)

def httpBaseUrlSchema : Value → Option String :=
  trimmedSchema fun s => 1 ≤ jsLength s && jsLength s ≤ 2048 && isHttpUrl s

def connectionKeys (driver : Driver) : List String :=
  ["id", "name", "credential_ref", "timeout_ms", "max_retries", "driver", "base_url"] ++
    if driver = .anthropic then ["api_version"] else []

/-- The discriminator of the union over the drivers. -/
def driverOf : Value → Option Driver
  | .obj fields => (fields.lookup "driver").bind (enumSchema Driver.text drivers)
  | _ => none

def apiVersionSchema (driver : Driver) (field : String → Option Value) : Option (Option String) :=
  if driver = .anthropic then required field "api_version" (nullable (textSchema (bounded 1 64))) else some none

/-- Only Anthropic may have no base URL, and has an API version. -/
def runtimeCallConnectionSchema (v : Value) : Option Connection := do
  let driver ← driverOf v
  let field ← strictObject (connectionKeys driver) v
  let id ← required field "id" (textSchema opaqueIdPattern)
  let name ← required field "name" (textSchema (bounded 1 120))
  let credentialRef ← required field "credential_ref" (nullable (textSchema credentialReference))
  let timeoutMs ← required field "timeout_ms" (naturalSchema 1 600000)
  let maxRetries ← required field "max_retries" (naturalSchema 0 10)
  let baseUrl ← required field "base_url" (nullable (httpBaseUrlSchema isHttpUrl))
  let apiVersion ← apiVersionSchema driver field
  if driver = .anthropic ∨ baseUrl.isSome then
    some { id, name, driver, baseUrl, credentialRef, timeoutMs, maxRetries, apiVersion }
  else none

def aiuModes : List AiuMode := [.disabled, .observe, .softLimit, .hardLimit, .unknown]

def unratedModelPolicies : List UnratedModelPolicy := [.allowUnrated, .blockUnrated, .fallbackRequired, .alertOnly]

def aiuSchema (v : Value) : Option (Bool × AiuMode × UnratedModelPolicy) := do
  let field ← strictObject ["enabled", "mode", "unrated_model_policy"] v
  let enabled ← required field "enabled" boolSchema
  let mode ← required field "mode" (enumSchema AiuMode.text aiuModes)
  let policy ← required field "unrated_model_policy" (enumSchema UnratedModelPolicy.text unratedModelPolicies)
  some (enabled, mode, policy)

def accessSchema (v : Value) : Option Access := do
  let field ← strictObject ["application_enabled", "blocked_user_ids"] v
  let applicationEnabled ← required field "application_enabled" boolSchema
  let blockedUserIds ← required field "blocked_user_ids" (arraySchema (textSchema (bounded 1 256)))
  if blockedUserIds.length ≤ 50000 ∧ blockedUserIds.Nodup then some { applicationEnabled, blockedUserIds } else none

def governedKeysSchema (v : Value) : Option (List String) :=
  (arraySchema (textSchema dimensionKeyPattern) v).filter fun keys => keys.length ≤ 256 && decide keys.Nodup

/-- The members of `Object.prototype` that an identifier can name. -/
def objectMembers : List String :=
  ["constructor", "hasOwnProperty", "isPrototypeOf", "propertyIsEnumerable", "toLocaleString", "toString", "valueOf"]

/-- The checks across the fields of a snapshot. -/
def UnsignedSnapshot.consistent (snapshot : UnsignedSnapshot) : Bool :=
  (snapshot.connections.all fun entry => entry.2.id = entry.1) &&
    (snapshot.routing.all fun entry => entry.2.targets.all fun target =>
      (snapshot.connections.lookup target.connectionId).isSome || objectMembers.contains target.connectionId) &&
    (snapshot.routing.all fun a => snapshot.routing.all fun b =>
      a.2.configurationVersion = b.2.configurationVersion) &&
    decide (snapshot.aiuEnabled = true ↔ snapshot.aiuMode ≠ .disabled)

def runtimeSnapshotSchema (v : Value) : Option Snapshot := do
  let field ← strictObject ["schema_version", "application_id", "version", "etag", "signature", "expires_at",
    "connections", "routing", "aiu", "access", "dimensions"] v
  let _ ← required field "schema_version" (textSchema (· = "2.0"))
  let applicationId ← required field "application_id" (textSchema uuidPattern)
  let version ← required field "version" (textSchema opaqueIdPattern)
  let etag ← required field "etag" (textSchema sha256FingerprintPattern)
  let signature ← required field "signature" (textSchema sha256FingerprintPattern)
  let expiresAt ← required field "expires_at" utcTimestampSchema
  let connections ← required field "connections"
    (recordSchema opaqueIdPattern (runtimeCallConnectionSchema isHttpUrl))
  let routing ← required field "routing" (recordSchema virtualModelName runtimeRoutingPlanSchema)
  let (aiuEnabled, aiuMode, unratedModelPolicy) ← required field "aiu" aiuSchema
  let access ← required field "access" accessSchema
  let analyticsAllowedKeys ← required field "dimensions" (onlyField "analytics_allowed_keys" governedKeysSchema)
  let snapshot : Snapshot :=
    { applicationId, version, etag, signature, expiresAt, connections, routing, aiuEnabled, aiuMode, unratedModelPolicy,
      access, analyticsAllowedKeys }
  if snapshot.consistent then some snapshot else none

end

end TokenPilot.Runtime
