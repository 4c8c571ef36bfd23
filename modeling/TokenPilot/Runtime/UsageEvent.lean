/-
  TokenPilot.Runtime.UsageEvent — `usageEventSchema` (`usage-event.ts`, `usage-context.ts`,
  `primitives.ts` of the contracts).

  The schema changes nothing of what it accepts, so it is a decision about a JSON value. An
  object is strict; a field is required or may be left out. `safe()` of a number admits the
  safe integers only. Whether a text of the UTC pattern is a date is `Date.parse`'s to say
  where the contracts ask it, so it is a parameter there.
-/

import TokenPilot.Library.Numeral
import TokenPilot.Runtime.Client
import TokenPilot.Runtime.Schema

namespace TokenPilot.Runtime

open Library

/-! ## Values -/

def isText (pattern : String → Bool) : Value → Bool
  | .str s => pattern s
  | _ => false

def isNullable (check : Value → Bool) : Value → Bool
  | .null => true
  | v => check v

def isFlag : Value → Bool
  | .bool _ => true
  | _ => false

def isLiteral (flag : Bool) : Value → Bool
  | .bool b => b = flag
  | _ => false

def isInteger (least most : Int) (v : Value) : Bool := (integerSchema least most v).isSome

def isOneOf (names : List String) : Value → Bool := isText names.contains

/-- `z.strictObject` with the fields that have to be there and those that may be left out. -/
def isStrictObject (needed optional : List (String × (Value → Bool))) : Value → Bool
  | .obj fields =>
    (fields.all fun f => (needed ++ optional).any (·.1 = f.1)) &&
      (needed.all fun (key, check) => (fields.lookup key).any check) &&
      (optional.all fun (key, check) => (fields.lookup key).all check)
  | _ => false

/-- `z.record` -/
def isRecord (key : String → Bool) (check : Value → Bool) : Value → Bool
  | .obj fields => fields.all fun f => key f.1 && check f.2
  | _ => false

/-- An array of at most `most` different texts. -/
def isTextSet (pattern : String → Bool) (most : Nat) : Value → Bool
  | .arr items => items.all (isText pattern) && items.length ≤ most && decide (items.filterMap Connector.textOf).Nodup
  | _ => false

/-! ## Texts -/

/-- `ULID_PATTERN` -/
def ulidPattern (s : String) : Bool :=
  s.toList.length = 26 && s.toList.all fun c => isDigit c || isUpper c && !"ILOU".toList.contains c

/-- `UUID_V7_PATTERN` -/
def uuidV7Pattern (s : String) : Bool :=
  uuidShape s && (s.toList.drop 14).head?.any (· = '7') && (s.toList.drop 19).head?.any ("89abAB".toList.contains ·)

/-- `eventIdSchema`, `contractIdSchema` -/
def contractIdPattern (s : String) : Bool := ulidPattern s || uuidV7Pattern s

/-- `/^(?:0|[1-9][0-9]{0,whole})(?:\.[0-9]{1,scale})?$/u` -/
def decimalPattern (whole scale : Nat) (s : String) : Bool :=
  let integral := s.toList.takeWhile isDigit
  (integral = ['0'] || headed (fun c => isDigit c && c ≠ '0') isDigit whole integral) &&
    match s.toList.dropWhile isDigit with
    | [] => true
    | c :: fraction => c = '.' && 1 ≤ fraction.length && fraction.length ≤ scale && fraction.all isDigit

def currencyCodePattern (s : String) : Bool := s.toList.length = 3 && s.toList.all isUpper

/-- `SOURCE_PATH_PATTERN`, 1 to 256 characters -/
def sourcePathPattern (s : String) : Bool :=
  bounded 1 256 s && s.toList.all fun c => isLower c || isUpper c || isDigit c || "_.$-[]".toList.contains c

def decimal38_9 : Value → Bool := isText (decimalPattern 28 9)

def decimal38_18 : Value → Bool := isText (decimalPattern 19 18)

def isUtcTimestamp (v : Value) : Bool := (utcTimestampSchema v).isSome

/-! ## Dimensions and properties -/

def reservedDimensionKeys : List String :=
  ["user_id", "virtual_model", "model", "request_model", "provider", "route_reason", "operation_id"]

def isDimensionValue (v : Value) : Bool :=
  isText (bounded 0 256) v || isInteger (-maxSafeInteger) maxSafeInteger v || isFlag v

/-- The bytes of the JSON text in UTF-8. -/
def utf8Bytes (v : Value) : Nat := (String.ofList (Json.render Numeral.jsNumber v)).utf8ByteSize

def analyticsDimensionsSchema (v : Value) : Bool :=
  isRecord (fun key => dimensionKeyPattern key && !"cp_".toList.isPrefixOf key.toList && !reservedDimensionKeys.contains key)
      isDimensionValue v &&
    match v with
    | .obj fields => fields.length ≤ 32 && utf8Bytes v ≤ 8192
    | _ => false

def isPropertyValue (v : Value) : Bool :=
  isText (bounded 1 2048) v || isInteger (-maxSafeInteger) maxSafeInteger v || isFlag v || isTextSet (bounded 1 256) 32 v

def typedPropertiesSchema (v : Value) : Bool :=
  isRecord propertyKeyPattern isPropertyValue v &&
    match v with
    | .obj fields => fields.length ≤ 64
    | _ => false

/-! ## The parts of an event -/

def usageUserSchema : Value → Bool :=
  isStrictObject [("user_id", isText (bounded 1 256))] [("display_user", isNullable (isText (bounded 1 256)))]

def usageSourceTypes : List String := ["gateway", "sdk", "import", "reconciler", "unknown"]

def usageSourceSchema : Value → Bool :=
  isStrictObject
    [("type", isOneOf usageSourceTypes), ("name", isText (bounded 1 120)), ("version", isText (bounded 1 64)),
      ("instance_id", isText (bounded 1 256))] []

def isOpaqueId : Value → Bool := isText opaqueIdPattern

/-- The greatest index of an attempt. -/
def maxAttemptIndex : Nat := 63

def usageRequestSchema : Value → Bool :=
  isStrictObject
    [("request_id", isOpaqueId), ("attempt_id", isOpaqueId), ("attempt_index", isInteger 0 maxAttemptIndex),
      ("is_final_attempt", isFlag), ("operation_id", isNullable isOpaqueId),
      ("parent_request_id", isNullable isOpaqueId), ("session_id", isNullable isOpaqueId),
      ("conversation_id", isNullable isOpaqueId), ("trace_id", isNullable isOpaqueId)]
    [("reservation_id", isNullable isOpaqueId)]

def nullableBounded : Value → Bool := isNullable (isText (bounded 1 256))

def usageModelSchema : Value → Bool :=
  isStrictObject [("request_model", isText (bounded 1 256))]
    [("virtual_model", isNullable (isText virtualModelName)), ("model_id", isNullable isOpaqueId),
      ("connection_id", isNullable isOpaqueId), ("connection_driver", isNullable (isOneOf (drivers.map Driver.text))),
      ("provider", nullableBounded)]

def isRouteTag (s : String) : Bool := jsLength s ≤ 200 && routeTagPattern s

def usageRouteSchema : Value → Bool :=
  isStrictObject
    [("configuration_version", nullableBounded), ("rule", nullableBounded), ("reason", nullableBounded),
      ("tags", isTextSet isRouteTag 16), ("fallback_from", nullableBounded), ("is_final_success_attempt", isFlag)]
    [("is_user_visible_operation", isFlag)]

def resultStatuses : List String := ["success", "failure", "cancelled", "timeout", "unknown"]

def usageResultSchema : Value → Bool :=
  isStrictObject
    [("status", isOneOf resultStatuses), ("http_status", isNullable (isInteger 100 599)),
      ("latency_ms", isNullable (isInteger 0 maxSafeInteger)), ("error_class", nullableBounded)] []

def sourceCostSchema : Value → Bool :=
  isNullable (isStrictObject
    [("amount", decimal38_18), ("currency", isText currencyCodePattern), ("is_estimated", isFlag)] [])

def usagePrivacySchema : Value → Bool :=
  isStrictObject [("contains_prompt", isLiteral false), ("contains_response", isLiteral false)] []

/-! ## Usage -/

def rawCustomUnitSchema : Value → Bool :=
  isStrictObject
    [("unit_key", isText propertyKeyPattern), ("quantity", decimal38_9), ("unit", isText propertyKeyPattern),
      ("source_path", isText sourcePathPattern), ("is_estimated", isFlag)] []

/-- At most 32 units with different keys. -/
def customUnitsSchema : Value → Bool
  | .arr units =>
    units.all rawCustomUnitSchema && units.length ≤ 32 &&
      decide (units.filterMap fun unit => Connector.textOf (Connector.get unit "unit_key")).Nodup
  | _ => false

def usageBuckets : List String :=
  ["uncached_input_tokens", "cache_read_input_tokens", "cache_write_input_tokens", "output_tokens",
    "reasoning_output_tokens", "input_images", "output_images", "input_audio_seconds", "output_audio_seconds",
    "input_video_seconds", "output_video_seconds", "embedding_tokens", "request_count"]

/-- At least one bucket, a standard one or a custom unit. -/
def hasBucket (v : Value) : Bool :=
  match v with
  | .obj fields =>
    (fields.any fun f => usageBuckets.contains f.1) ||
      match fields.lookup "custom_units" with
      | some (.arr units) => !units.isEmpty
      | _ => false
  | _ => false

def rawUsageSchema (v : Value) : Bool :=
  isStrictObject [] ((usageBuckets.map fun bucket => (bucket, decimal38_9)) ++ [("custom_units", customUnitsSchema)]) v &&
    hasBucket v

/-! ## The event -/

def isVersion : Value → Bool := isText (bounded 1 64)

def usageEventSchema : Value → Bool :=
  isStrictObject
    [("schema_version", isText (· = "2.0")), ("event_id", isText contractIdPattern), ("event_time", isUtcTimestamp),
      ("user", usageUserSchema), ("source", usageSourceSchema), ("request", usageRequestSchema),
      ("model", usageModelSchema), ("route", isNullable usageRouteSchema),
      ("analytics_dimensions", analyticsDimensionsSchema), ("result", usageResultSchema),
      ("source_cost", sourceCostSchema), ("privacy", usagePrivacySchema), ("usage", rawUsageSchema)]
    [("application_version", isVersion), ("sdk_version", isVersion), ("connector_version", isVersion),
      ("config_version", isVersion), ("event_properties", typedPropertiesSchema),
      ("user_properties", typedPropertiesSchema)]

/-! ## What an accepted value holds -/

section Accepted

open Connector (get)

variable {needed optional : List (String × (Value → Bool))} {v : Value} {key : String} {check : Value → Bool}

theorem isStrictObject_needed (h : isStrictObject needed optional v = true) (hkey : (key, check) ∈ needed) :
    check (get v key) = true := by
  cases v with
  | obj fields =>
    simp only [isStrictObject, Bool.and_eq_true, List.all_eq_true] at h
    have hfield := h.1.2 (key, check) hkey
    show check ((fields.lookup key).getD .null) = true
    cases hlookup : fields.lookup key with
    | none =>
      rw [hlookup] at hfield
      cases hfield
    | some w =>
      rw [hlookup] at hfield
      exact hfield
  | _ => cases h

theorem isStrictObject_optional (h : isStrictObject needed optional v = true) (hkey : (key, check) ∈ optional) :
    get v key = .null ∨ check (get v key) = true := by
  cases v with
  | obj fields =>
    simp only [isStrictObject, Bool.and_eq_true, List.all_eq_true] at h
    have hfield := h.2 (key, check) hkey
    show (fields.lookup key).getD .null = .null ∨ check ((fields.lookup key).getD .null) = true
    cases hlookup : fields.lookup key with
    | none => exact .inl rfl
    | some w =>
      rw [hlookup] at hfield
      exact .inr (by simpa using hfield)
  | _ => cases h

theorem isText_elim {pattern : String → Bool} (h : isText pattern v = true) : ∃ s, v = .str s ∧ pattern s = true := by
  cases v with
  | str s => exact ⟨s, rfl, h⟩
  | _ => cases h

end Accepted

end TokenPilot.Runtime
