/-
  TokenPilot.Runtime.ChatEvents — the usage event of an attempt: `eventFor` of
  `sdks/node/src/runtime/chat-common.ts`, `usage_event` of `chat_common.py`.

  The SDKs check neither an event nor what it is made of. What a runtime selected from a
  schema-valid snapshot and what `withAiContext` checked is always in order; `Reportable` and
  `AttemptFits` are what is left: ids of the caller that are opaque ids, whole numbers among the
  properties, dimensions of their schema, an identity that fits, a status and a usage that the
  contract knows, and an attempt index of at most 63 (`event_valid_iff`).
-/

import TokenPilot.Runtime.ReservationAdmission

namespace TokenPilot.Runtime

open Library

/-! ## What an event is made of -/

/-- `ResolvedAiRuntimeContext` with what only events read. -/
structure CallContext extends AiContext where
  applicationVersion : Option String
  parentRequestId : Option String
  sessionId : Option String
  conversationId : Option String
  traceId : String
  eventProperties : List (String × Value)
  analyticsDimensions : List (String × Value)

/-- `bounded` of `context.ts`: trimmed, and from one to `most` characters. -/
def Trimmed (most : Nat) (s : String) : Prop := jsTrim s = s ∧ bounded 1 most s = true

/-- A call context as `withAiContext` resolves one. The ids of the request and of the trace are
    generated; the dimensions are taken as they come. -/
structure CallContext.Resolved (context : CallContext) : Prop where
  base : context.toAiContext.Resolved
  requestId : opaqueIdPattern context.requestId = true
  traceId : opaqueIdPattern context.traceId = true
  applicationVersion : ∀ version ∈ context.applicationVersion, Trimmed 64 version
  parentRequestId : ∀ id ∈ context.parentRequestId, Trimmed 256 id
  sessionId : ∀ id ∈ context.sessionId, Trimmed 256 id
  conversationId : ∀ id ∈ context.conversationId, Trimmed 256 id
  sized : context.eventProperties.length ≤ 64
  eventProperties : ∀ property ∈ context.eventProperties, propertyKeyPattern property.1 = true ∧
    property.1 ∉ unsafePropertyKeys ∧ isContextProperty property.2 = true

/-- The identity of a client. -/
structure Reporter where
  sdkVersion : String
  instanceId : String

/-- What is generated for an attempt: two ULIDs, the time and the milliseconds it took. -/
structure Stamp where
  eventId : String
  eventTime : String
  attemptKey : String
  latencyMs : Nat
  eventId_ulid : ulidPattern eventId = true
  eventTime_utc : isUtcTimestamp (.str eventTime) = true
  attemptKey_ulid : attemptKey.toList.length = 26 ∧
    ∀ c ∈ attemptKey.toList, (isLower c || isUpper c || isDigit c) = true
  latencyMs_safe : (latencyMs : Int) ≤ maxSafeInteger

/-- The usage and the cost that an attempt has from its provider. -/
structure Reading where
  usage : Value
  sourceCost : Value

def ChatMode.sourceName : ChatMode → String
  | .nodeChat | .nodeStream => "tokenpilot-node"
  | .pythonChat => "tokenpilot-python"

def AttemptStatus.text : AttemptStatus → String
  | .success => "success"
  | .failure => "failure"
  | .timeout => "timeout"
  | .cancelled => "cancelled"

def oneRequest : Value := .obj [("request_count", .str "1")]

/-- A failure has no usage but what a stream has read of it. -/
def ChatMode.usage (mode : ChatMode) (reading : Reading) (status : AttemptStatus) : Value :=
  if mode = .nodeStream ∨ status = .success then reading.usage else oneRequest

/-- Only a success reports a cost. -/
def Reading.costOf (reading : Reading) (status : AttemptStatus) : Value :=
  if status = .success then reading.sourceCost else .null

def unlessEmpty (fields : List (String × Value)) : Option Value := if fields.isEmpty then none else some (.obj fields)

/-! ## The event -/

def eventUser (context : CallContext) : Value :=
  .obj [("user_id", .str context.userId), ("display_user", orNull context.displayUser)]

def eventSource (mode : ChatMode) (reporter : Reporter) : Value :=
  .obj [("type", .str "sdk"), ("name", .str mode.sourceName), ("version", .str reporter.sdkVersion),
    ("instance_id", .str reporter.instanceId)]

def eventRequest (context : CallContext) (stamp : Stamp) (attempt : ChatAttempt) : Value :=
  .obj [("request_id", .str context.requestId), ("attempt_id", .str ("att_" ++ stamp.attemptKey)),
    ("attempt_index", integer attempt.attemptIndex), ("is_final_attempt", .bool attempt.final),
    ("operation_id", .str context.operationId), ("parent_request_id", orNull context.parentRequestId),
    ("session_id", orNull context.sessionId), ("conversation_id", orNull context.conversationId),
    ("trace_id", .str context.traceId), ("reservation_id", orNull attempt.reservationId)]

def eventModel (route : RouteSelection) (attempt : ChatAttempt) : Value :=
  .obj [("virtual_model", .str route.virtualModel), ("model_id", .str attempt.target.modelId),
    ("connection_id", .str attempt.target.connectionId),
    ("connection_driver", .str attempt.connection.driver.text),
    ("request_model", .str attempt.target.requestModel), ("provider", .str attempt.target.provider)]

def eventRoute (route : RouteSelection) (attempt : ChatAttempt) : Value :=
  .obj [("configuration_version", .str (toString route.configurationVersion)), ("rule", orNull route.ruleId),
    ("reason", .str (if route.ruleId = none then "default" else "condition")), ("tags", texts [route.routeTag]),
    ("fallback_from", orNull (attempt.prior.map (·.modelId))),
    ("is_final_success_attempt", .bool (attempt.status = .success)),
    ("is_user_visible_operation", .bool attempt.final)]

def eventResult (stamp : Stamp) (attempt : ChatAttempt) : Value :=
  .obj [("status", .str attempt.status.text),
    ("http_status", match attempt.httpStatus with | some status => integer status | none => .null),
    ("latency_ms", integer stamp.latencyMs),
    ("error_class", if attempt.status = .success then .null else .str ("provider_" ++ attempt.status.text))]

def eventFor (mode : ChatMode) (reporter : Reporter) (context : CallContext) (route : RouteSelection) (stamp : Stamp)
    (reading : Reading) (attempt : ChatAttempt) : Value :=
  .obj ([("schema_version", .str "2.0"), ("event_id", .str stamp.eventId), ("event_time", .str stamp.eventTime)] ++
    optionalField "application_version" (context.applicationVersion.map .str) ++
    [("sdk_version", .str reporter.sdkVersion), ("config_version", .str (toString route.configurationVersion)),
      ("user", eventUser context)] ++
    optionalField "event_properties" (unlessEmpty context.eventProperties) ++
    optionalField "user_properties" (unlessEmpty context.userProperties) ++
    [("source", eventSource mode reporter), ("request", eventRequest context stamp attempt),
      ("model", eventModel route attempt), ("route", eventRoute route attempt),
      ("analytics_dimensions", .obj context.analyticsDimensions), ("result", eventResult stamp attempt),
      ("source_cost", reading.costOf attempt.status),
      ("privacy", .obj [("contains_prompt", .bool false), ("contains_response", .bool false)]),
      ("usage", mode.usage reading attempt.status)])

/-! ## Its parts -/

/-- What a runtime selects from a snapshot that its schema accepts. -/
structure RouteSelection.Published (route : RouteSelection) : Prop where
  virtualModel : virtualModelName route.virtualModel = true
  configurationVersion : route.configurationVersion ≤ maxSafeInteger.toNat
  routeTag : isRouteTag route.routeTag = true
  ruleId : ∀ id ∈ route.ruleId, bounded 1 120 id = true
  targets : ∀ target ∈ route.primary :: route.fallbacks, target.Accepted

theorem bounded_mono {s : String} {most more : Nat} (h : bounded 1 most s = true) (hle : most ≤ more) :
    bounded 1 more s = true := by
  simp only [bounded, Bool.and_eq_true, decide_eq_true_eq] at h ⊢
  omega

theorem bounded_of_opaque {s : String} (h : opaqueIdPattern s = true) : bounded 1 256 s = true := by
  unfold opaqueIdPattern headed at h
  unfold bounded
  split at h
  · cases h
  · rename_i hs
    rw [hs]
    simp at h ⊢
    omega

@[simp] theorem isNullable_orNull (pattern : String → Bool) (value : Option String) :
    isNullable (isText pattern) (orNull value) = value.all pattern := by
  cases value <;> rfl

@[simp] theorem isText_str (pattern : String → Bool) (s : String) : isText pattern (.str s) = pattern s := rfl

@[simp] theorem isNullable_str (pattern : String → Bool) (s : String) :
    isNullable (isText pattern) (.str s) = pattern s := rfl

@[simp] theorem isInteger_integer (least most n : Int) :
    isInteger least most (integer n) = true ↔ least ≤ n ∧ n ≤ most := integerSchema_accepts least most n

theorem repr_bounded {n : Nat} (h : n ≤ maxSafeInteger.toNat) : bounded 1 64 n.repr = true := by
  have hsmall : n < 10 ^ 64 := lt_of_le_of_lt h (by decide)
  have hlong : n.repr.length ≤ 64 := (Nat.length_repr_le_iff (by decide)).mpr hsmall
  have hfilled : 0 < n.repr.length := Nat.length_repr_pos
  simp only [bounded, String.length_toList, Bool.and_eq_true, decide_eq_true_eq]
  exact ⟨hfilled, hlong⟩

theorem attempt_id_opaque (stamp : Stamp) : opaqueIdPattern ("att_" ++ stamp.attemptKey) = true := by
  obtain ⟨hlength, hall⟩ := stamp.attemptKey_ulid
  have hrest : ∀ c ∈ stamp.attemptKey.toList,
      (isLower c || isUpper c || isDigit c || "._:@-".toList.contains c) = true := fun c hc => by
    rw [hall c hc, Bool.true_or]
  have hchars : ("att_" ++ stamp.attemptKey).toList = 'a' :: 't' :: 't' :: '_' :: stamp.attemptKey.toList := by
    rw [String.toList_append]
    rfl
  unfold opaqueIdPattern
  rw [hchars]
  simp only [headed, List.all_cons, List.length_cons, hlength, List.all_eq_true.mpr hrest]
  decide

theorem user_valid {context : CallContext} (hcontext : context.Resolved) : usageUserSchema (eventUser context) = true := by
  have hdisplay : context.displayUser.all (bounded 1 256) = true := by
    cases hdisplay : context.displayUser with
    | none => rfl
    | some user => exact (hcontext.base.displayUser user hdisplay).2
  simp [usageUserSchema, eventUser, isStrictObject, List.lookup_cons, hcontext.base.userId.2, hdisplay]

theorem source_valid_iff (mode : ChatMode) (reporter : Reporter) :
    usageSourceSchema (eventSource mode reporter) = true ↔
      bounded 1 64 reporter.sdkVersion = true ∧ bounded 1 256 reporter.instanceId = true := by
  have htype : isOneOf usageSourceTypes (.str "sdk") = true := by decide
  have hname : bounded 1 120 mode.sourceName = true := by cases mode <;> decide
  simp [usageSourceSchema, eventSource, isStrictObject, List.lookup_cons, htype, hname]

theorem request_valid_iff {context : CallContext} (hcontext : context.Resolved) (stamp : Stamp) (attempt : ChatAttempt) :
    usageRequestSchema (eventRequest context stamp attempt) = true ↔
      attempt.attemptIndex ≤ maxAttemptIndex ∧ opaqueIdPattern context.operationId = true ∧
        context.parentRequestId.all opaqueIdPattern = true ∧ context.sessionId.all opaqueIdPattern = true ∧
        context.conversationId.all opaqueIdPattern = true ∧ attempt.reservationId.all opaqueIdPattern = true := by
  have hindex : isInteger 0 maxAttemptIndex (integer attempt.attemptIndex) = true ↔
      attempt.attemptIndex ≤ maxAttemptIndex := by
    rw [isInteger_integer]
    omega
  simp [usageRequestSchema, eventRequest, isStrictObject, List.lookup_cons, isOpaqueId, isFlag, hindex, hcontext.requestId,
    hcontext.traceId, attempt_id_opaque, and_assoc]

theorem model_valid {route : RouteSelection} (hroute : route.Published) {attempt : ChatAttempt}
    (htarget : attempt.target.Accepted) : usageModelSchema (eventModel route attempt) = true := by
  have hdriver : isOneOf (drivers.map Driver.text) (.str attempt.connection.driver.text) = true := by
    cases attempt.connection.driver <;> decide
  simp [usageModelSchema, eventModel, isStrictObject, List.lookup_cons, nullableBounded, isNullable, isOpaqueId, hdriver,
    hroute.virtualModel, htarget.modelId, htarget.connectionId, htarget.requestModel,
    bounded_mono htarget.provider (by decide : 120 ≤ 256)]

theorem route_valid {route : RouteSelection} (hroute : route.Published) {attempt : ChatAttempt}
    (hprior : ∀ prior ∈ attempt.prior, prior.Accepted) :
    isNullable usageRouteSchema (eventRoute route attempt) = true := by
  have hversion := bounded_mono (repr_bounded hroute.configurationVersion) (by decide : 64 ≤ 256)
  have hrule : route.ruleId.all (bounded 1 256) = true := by
    cases hrule : route.ruleId with
    | none => rfl
    | some id => exact bounded_mono (hroute.ruleId id hrule) (by decide)
  have hreason : bounded 1 256 (if route.ruleId = none then "default" else "condition") = true := by
    split <;> decide
  have htags : isTextSet isRouteTag 16 (texts [route.routeTag]) = true := by
    simp [isTextSet, texts, hroute.routeTag, Connector.textOf]
  have hfallback : (attempt.prior.map (·.modelId)).all (bounded 1 256) = true := by
    cases hprior' : attempt.prior with
    | none => rfl
    | some prior => exact bounded_of_opaque (hprior prior hprior').modelId
  show usageRouteSchema (eventRoute route attempt) = true
  simp [usageRouteSchema, eventRoute, isStrictObject, List.lookup_cons, nullableBounded, isFlag, hversion, hrule, hreason,
    htags, hfallback]

/-- A status of HTTP, as the contract bounds it. -/
def isHttpStatus (status : Nat) : Bool := 100 ≤ status && status ≤ 599

theorem result_valid_iff (stamp : Stamp) (attempt : ChatAttempt) :
    usageResultSchema (eventResult stamp attempt) = true ↔ attempt.httpStatus.all isHttpStatus = true := by
  have hstatus : isOneOf resultStatuses (.str attempt.status.text) = true := by
    cases attempt.status <;> decide
  have hlatency : isNullable (isInteger 0 maxSafeInteger) (integer stamp.latencyMs) = true :=
    (isInteger_integer 0 maxSafeInteger stamp.latencyMs).mpr ⟨by omega, stamp.latencyMs_safe⟩
  have herror : nullableBounded
      (if attempt.status = .success then .null else .str ("provider_" ++ attempt.status.text)) = true := by
    cases attempt.status <;> decide
  have hhttp : isNullable (isInteger 100 599)
      (match attempt.httpStatus with | some status => integer status | none => .null) = true ↔
      attempt.httpStatus.all isHttpStatus = true := by
    cases attempt.httpStatus with
    | none => exact iff_of_true rfl rfl
    | some status =>
      refine (isInteger_integer 100 599 status).trans ?_
      simp only [Option.all_some, isHttpStatus, Bool.and_eq_true, decide_eq_true_eq]
      omega
  simp [usageResultSchema, eventResult, isStrictObject, List.lookup_cons, hstatus, hlatency, herror, hhttp]

/-! ## Properties -/

/-- A number is whole. -/
def isWhole : Value → Bool
  | .num d => 0 ≤ d.exponent
  | _ => true

/-- What `withAiContext` takes for a property is one of the contract where it is no fraction. -/
theorem property_valid_iff {v : Value} (h : isContextProperty v = true) : isPropertyValue v = true ↔ isWhole v = true := by
  cases v with
  | null => cases h
  | bool b => simp [isPropertyValue, isWhole, isFlag]
  | num d =>
    obtain ⟨hleast, hmost⟩ : -maxSafeInteger ≤ d.toRat ∧ d.toRat ≤ maxSafeInteger := by
      simpa [isContextProperty] using h
    have hwhole : 0 ≤ d.exponent → isInteger (-maxSafeInteger) maxSafeInteger (.num d) = true := by
      intro hexponent
      have hvalue : d.toRat = (d.coefficient * 10 ^ d.exponent.toNat : Int) := by
        unfold Decimal.toRat
        rw [← Int.toNat_of_nonneg hexponent, zpow_natCast]
        simp [max_eq_left hexponent]
      rw [hvalue] at hleast hmost
      have hrange : -maxSafeInteger ≤ d.coefficient * 10 ^ d.exponent.toNat ∧
          d.coefficient * 10 ^ d.exponent.toNat ≤ maxSafeInteger := ⟨by exact_mod_cast hleast, by exact_mod_cast hmost⟩
      simp [isInteger, integerSchema, hexponent, hrange]
    have hinteger : isInteger (-maxSafeInteger) maxSafeInteger (.num d) = true ↔ 0 ≤ d.exponent := by
      refine ⟨fun hread => ?_, hwhole⟩
      by_contra hexponent
      simp [isInteger, integerSchema, hexponent] at hread
    simp [isPropertyValue, isWhole, isText, isFlag, isTextSet, hinteger]
  | str s =>
    have hs : bounded 1 2048 s = true := h
    simp [isPropertyValue, isWhole, hs]
  | arr items =>
    have hitems : isTextSet (bounded 1 256) 32 (.arr items) = true := by
      simp only [isContextProperty, Bool.and_eq_true] at h
      simp [isTextSet, h.2, h.1.1, h.1.2]
    simp [isPropertyValue, isWhole, hitems]
  | obj fields => cases h

/-- Properties as a context keeps them. -/
theorem properties_valid_iff {fields : List (String × Value)} (hsized : fields.length ≤ 64)
    (hfields : ∀ property ∈ fields, propertyKeyPattern property.1 = true ∧ property.1 ∉ unsafePropertyKeys ∧
      isContextProperty property.2 = true) :
    typedPropertiesSchema (.obj fields) = true ↔ ∀ property ∈ fields, isWhole property.2 = true := by
  simp only [typedPropertiesSchema, isRecord, List.all_eq_true, Bool.and_eq_true, hsized, decide_true, and_true]
  refine forall₂_congr fun property hmem => ?_
  obtain ⟨hkey, -, hvalue⟩ := hfields property hmem
  rw [property_valid_iff hvalue]
  simp [hkey]

/-! ## The whole event -/

/-- What the contract of an event asks of a call beyond what the SDKs check. -/
structure Reportable (reporter : Reporter) (context : CallContext) : Prop where
  sdkVersion : bounded 1 64 reporter.sdkVersion = true
  instanceId : bounded 1 256 reporter.instanceId = true
  operationId : opaqueIdPattern context.operationId = true
  parentRequestId : context.parentRequestId.all opaqueIdPattern = true
  sessionId : context.sessionId.all opaqueIdPattern = true
  conversationId : context.conversationId.all opaqueIdPattern = true
  eventProperties : ∀ property ∈ context.eventProperties, isWhole property.2 = true
  userProperties : ∀ property ∈ context.userProperties, isWhole property.2 = true
  analyticsDimensions : analyticsDimensionsSchema (.obj context.analyticsDimensions) = true

/-- What it asks of one attempt. -/
structure AttemptFits (mode : ChatMode) (reading : Reading) (attempt : ChatAttempt) : Prop where
  httpStatus : attempt.httpStatus.all isHttpStatus = true
  usage : rawUsageSchema (mode.usage reading attempt.status) = true
  sourceCost : sourceCostSchema (reading.costOf attempt.status) = true

theorem lookup_optionalField (key other : String) (value : Option Value) :
    (optionalField key value).lookup other = if other = key then value else none := by
  cases value with
  | none => simp [optionalField]
  | some v =>
    by_cases h : other = key
    · simp [optionalField, h]
    · have hne : (other == key) = false := by simpa using h
      simp [optionalField, List.lookup_cons, h, hne]

theorem optionalField_all (key : String) (value : Option Value) (check : String × Value → Bool) :
    (optionalField key value).all check = value.all fun v => check (key, v) := by
  cases value <;> simp [optionalField]

theorem unlessEmpty_valid (fields : List (String × Value)) :
    (unlessEmpty fields).all typedPropertiesSchema = true ↔ typedPropertiesSchema (.obj fields) = true := by
  unfold unlessEmpty
  cases fields with
  | nil => exact iff_of_true rfl rfl
  | cons first rest => rfl

theorem event_valid_iff (mode : ChatMode) (reporter : Reporter) {context : CallContext} (hcontext : context.Resolved)
    {route : RouteSelection} (hroute : route.Published) (stamp : Stamp) (reading : Reading) {attempt : ChatAttempt}
    (htarget : attempt.target.Accepted) (hprior : ∀ prior ∈ attempt.prior, prior.Accepted) :
    usageEventSchema (eventFor mode reporter context route stamp reading attempt) = true ↔
      Reportable reporter context ∧ attempt.reservationId.all opaqueIdPattern = true ∧
        attempt.attemptIndex ≤ maxAttemptIndex ∧ AttemptFits mode reading attempt := by
  have hid : contractIdPattern stamp.eventId = true := by simp [contractIdPattern, stamp.eventId_ulid]
  have hversion := repr_bounded hroute.configurationVersion
  have happlication : (context.applicationVersion.map Json.str).all isVersion = true := by
    cases happlication : context.applicationVersion with
    | none => rfl
    | some version => exact (hcontext.applicationVersion version happlication).2
  have hprivacy : usagePrivacySchema (.obj [("contains_prompt", .bool false), ("contains_response", .bool false)]) = true := by
    decide
  have hsdk : isVersion (.str reporter.sdkVersion) = bounded 1 64 reporter.sdkVersion := rfl
  have hrequest := request_valid_iff hcontext stamp attempt
  have hresult := result_valid_iff stamp attempt
  have hevents := (unlessEmpty_valid context.eventProperties).trans
    (properties_valid_iff hcontext.sized hcontext.eventProperties)
  have husers := (unlessEmpty_valid context.userProperties).trans
    (properties_valid_iff hcontext.base.sized hcontext.base.userProperties)
  have hsource := source_valid_iff mode reporter
  unfold usageEventSchema eventFor isStrictObject
  simp only [List.all_append, optionalField_all, List.lookup_append, lookup_optionalField]
  simp [List.lookup_cons]
  rw [hsource, hrequest, hresult, hevents, husers, hsdk]
  constructor
  · rintro ⟨⟨-, -, -, ⟨hidentity, hinstance⟩, ⟨hindex, hoperation, hparent, hsession, hconversation, hreservation⟩, -, -,
      hdimensions, hhttp, hcost, -, husage⟩, -, -, -, hevent, huser⟩
    exact ⟨⟨hidentity, hinstance, hoperation, hparent, hsession, hconversation, hevent, huser, hdimensions⟩, hreservation,
      hindex, hhttp, husage, hcost⟩
  · rintro ⟨hcall, hreservation, hindex, hread⟩
    exact ⟨⟨hid, stamp.eventTime_utc, user_valid hcontext, ⟨hcall.sdkVersion, hcall.instanceId⟩,
      ⟨hindex, hcall.operationId, hcall.parentRequestId, hcall.sessionId, hcall.conversationId, hreservation⟩,
      model_valid hroute htarget, route_valid hroute hprior, hcall.analyticsDimensions, hread.httpStatus, hread.sourceCost,
      hprivacy, hread.usage⟩, happlication, hcall.sdkVersion, hversion, hcall.eventProperties, hcall.userProperties⟩

end TokenPilot.Runtime
