/-
  TokenPilot.Pipeline.Normalization — `normalizeUsageEvent` (apps/worker/src/pipeline/
  normalization.ts), `LiteLLMStandardLoggingAdapter` (packages/usage-normalizer) and the
  schema of what they give (`normalizedUsageSchema` of the contracts).

  Both parse the event, copy its envelope, write a line for each bucket and parse the result.
  A JSON value stands for the event; a field that is left out is `undefined`. What
  `toLowerCase` does to a name and which values decimal.js reads are parameters of the adapter.

  `normalized_lossless`: every valid event is normalized, its lines are one for each bucket
  with the bucket's quantity, the missing fields are the others, and the adapter agrees on what
  it supports. The line of a custom unit has its key and the unit `custom`: the name of the
  unit that the event gives is not carried.
-/

import TokenPilot.Pipeline.Rating

namespace TokenPilot.Normalization

open TokenPilot.Library
open TokenPilot.Pipeline (customUnits usageTypeValues)
open TokenPilot.Runtime (Value isText isNullable isFlag isOneOf isStrictObject isTextSet bounded decimal38_9
  propertyKeyPattern sourcePathPattern rawUsageSchema usageBuckets usageEventSchema)
open TokenPilot.Runtime.Connector (get textOf truthy)

/-! ## The schema of a normalized event -/

def usageUnitValues : List String := ["token", "image", "second", "request", "custom", "unknown"]

def usageConfidenceValues : List String := ["exact_provider_response", "gateway_reported", "sdk_reported", "estimated"]

def normalizationWarningValues : List String := ["model_unmapped", "unknown"]

def usageUnitsByType : List (String × String) :=
  [("uncached_input_token", "token"), ("cache_read_input_token", "token"), ("cache_write_input_token", "token"),
    ("output_token", "token"), ("reasoning_output_token", "token"), ("input_image", "image"), ("output_image", "image"),
    ("input_audio_second", "second"), ("output_audio_second", "second"), ("input_video_second", "second"),
    ("output_video_second", "second"), ("embedding_token", "token"), ("request", "request"), ("custom_unit", "custom"),
    ("unknown", "unknown")]

def usageUnitForType (usageType : String) : Option String := usageUnitsByType.lookup usageType

/-- The value of a field, none where it is `undefined`. -/
def member (v : Value) (key : String) : Option Value :=
  match v with
  | .obj fields => fields.lookup key
  | _ => none

/-- The refinement of a line: a custom unit has a key and the custom unit, any other line the unit of its type. -/
def unitFits (line : Value) : Bool :=
  if textOf (get line "usage_type") = some "custom_unit" then
    (member line "unit_key").isSome && textOf (get line "unit") = some "custom"
  else
    (member line "unit_key").isNone && textOf (get line "unit") = (textOf (get line "usage_type")).bind usageUnitForType

def usageLineSchema (line : Value) : Bool :=
  isStrictObject
    [("usage_type", isOneOf usageTypeValues), ("quantity", decimal38_9), ("unit", isOneOf usageUnitValues),
      ("source_path", isText sourcePathPattern), ("is_estimated", isFlag), ("confidence", isOneOf usageConfidenceValues)]
    [("unit_key", isText propertyKeyPattern)] line && unitFits line

def usageLineIdentity (line : Value) : String :=
  let usageType := (textOf (get line "usage_type")).getD ""
  if usageType = "custom_unit" then "custom_unit:" ++ (textOf (get line "unit_key")).getD "<missing>" else usageType

def usageLinesSchema : Value → Bool
  | .arr lines => lines.all usageLineSchema && 1 ≤ lines.length && lines.length ≤ 64 && decide (lines.map usageLineIdentity).Nodup
  | _ => false

def normalizationSchema : Value → Bool :=
  isStrictObject
    [("normalizer_name", isText (bounded 1 120)), ("normalizer_version", isText (bounded 1 64)),
      ("missing_usage_fields", isTextSet (bounded 1 128) 32), ("warnings", isTextSet normalizationWarningValues.contains 2)]
    []

/-- `eventEnvelopeShape`, the fields that have to be there -/
def envelopeNeeded : List (String × (Value → Bool)) :=
  [("schema_version", isText (· = "2.0")), ("event_id", isText Runtime.contractIdPattern),
    ("event_time", Runtime.isUtcTimestamp), ("user", Runtime.usageUserSchema), ("source", Runtime.usageSourceSchema),
    ("request", Runtime.usageRequestSchema), ("model", Runtime.usageModelSchema),
    ("route", isNullable Runtime.usageRouteSchema), ("analytics_dimensions", Runtime.analyticsDimensionsSchema),
    ("result", Runtime.usageResultSchema), ("source_cost", Runtime.sourceCostSchema),
    ("privacy", Runtime.usagePrivacySchema)]

def envelopeOptional : List (String × (Value → Bool)) :=
  [("application_version", Runtime.isVersion), ("sdk_version", Runtime.isVersion),
    ("connector_version", Runtime.isVersion), ("config_version", Runtime.isVersion),
    ("event_properties", Runtime.typedPropertiesSchema), ("user_properties", Runtime.typedPropertiesSchema)]

def normalizedUsageSchema : Value → Bool :=
  isStrictObject (envelopeNeeded ++ [("normalization", normalizationSchema), ("usage_lines", usageLinesSchema)])
    envelopeOptional

/-! ## Lines -/

structure UsageLine where
  usageType : String
  unitKey : Option Value
  quantity : Value
  unit : String
  sourcePath : Value
  isEstimated : Bool
  confidence : String

def UsageLine.json (line : UsageLine) : Value :=
  .obj ([("usage_type", .str line.usageType)] ++ (line.unitKey.map fun key => ("unit_key", key)).toList ++
    [("quantity", line.quantity), ("unit", .str line.unit), ("source_path", line.sourcePath),
      ("is_estimated", .bool line.isEstimated), ("confidence", .str line.confidence)])

/-- The field, the type and the unit of each standard bucket. -/
def standardUsage : List (String × String × String) :=
  [("uncached_input_tokens", "uncached_input_token", "token"), ("cache_read_input_tokens", "cache_read_input_token", "token"),
    ("cache_write_input_tokens", "cache_write_input_token", "token"), ("output_tokens", "output_token", "token"),
    ("reasoning_output_tokens", "reasoning_output_token", "token"), ("input_images", "input_image", "image"),
    ("output_images", "output_image", "image"), ("input_audio_seconds", "input_audio_second", "second"),
    ("output_audio_seconds", "output_audio_second", "second"), ("input_video_seconds", "input_video_second", "second"),
    ("output_video_seconds", "output_video_second", "second"), ("embedding_tokens", "embedding_token", "token"),
    ("request_count", "request", "request")]

def confidence (event : Value) : String :=
  match textOf (get (get event "source") "type") with
  | some "gateway" => "gateway_reported"
  | some "sdk" => "sdk_reported"
  | _ => "estimated"

def standardLine (sourceConfidence : String) (entry : String × String × String) (quantity : Value) : UsageLine where
  usageType := entry.2.1
  unitKey := none
  quantity := quantity
  unit := entry.2.2
  sourcePath := .str ("usage." ++ entry.1)
  isEstimated := sourceConfidence = "estimated"
  confidence := sourceConfidence

def customLine (sourceConfidence : String) (custom : Value) : UsageLine where
  usageType := "custom_unit"
  unitKey := some (get custom "unit_key")
  quantity := get custom "quantity"
  unit := "custom"
  sourcePath := get custom "source_path"
  isEstimated := truthy (get custom "is_estimated") || sourceConfidence = "estimated"
  confidence := if truthy (get custom "is_estimated") then "estimated" else sourceConfidence

/-- The value of a text, none for any other. -/
def textValue : Value → Option Value
  | .str s => some (.str s)
  | _ => none

/-- The lines of the worker: a standard field has one when its value is a text. -/
def usageLines (event : Value) : List UsageLine :=
  (standardUsage.filterMap fun entry =>
    (textValue (get (get event "usage") entry.1)).map (standardLine (confidence event) entry)) ++
  (customUnits (get event "usage")).map (customLine (confidence event))

/-! ## `normalizeUsageEvent` -/

def copied (event : Value) (key : String) : String × Value := (key, get event key)

/-- The field, where the event has it. -/
def copiedIfPresent (event : Value) (key : String) : List (String × Value) :=
  ((member event key).map fun v => (key, v)).toList

def optionalKeys : List String :=
  ["application_version", "sdk_version", "connector_version", "config_version", "event_properties", "user_properties"]

def missingFields (event : Value) : List String :=
  (standardUsage.map Prod.fst).filter fun field => (member (get event "usage") field).isNone

def firstKeys : List String := ["schema_version", "event_id", "event_time", "user"]

def lastKeys : List String :=
  ["source", "request", "model", "route", "analytics_dimensions", "result", "source_cost", "privacy"]

def normalization (event : Value) (normalizerName : String) : Value :=
  .obj [("normalizer_name", .str normalizerName), ("normalizer_version", .str "current"),
    ("missing_usage_fields", .arr ((missingFields event).map .str)), ("warnings", .arr [])]

def normalizedValue (event : Value) (normalizerName : String) (lines : List UsageLine) : Value :=
  .obj (firstKeys.map (copied event) ++ optionalKeys.flatMap (copiedIfPresent event) ++ lastKeys.map (copied event) ++
    [("normalization", normalization event normalizerName), ("usage_lines", .arr (lines.map UsageLine.json))])

/-- Which of the two schemas did not accept its value. -/
inductive ParseError where
  | usageEvent
  | normalizedUsage
  deriving DecidableEq, Repr

def parsed (schema : Value → Bool) (v : Value) (error : ParseError) : Except ParseError Value :=
  if schema v then .ok v else .error error

def normalizeUsageEvent (payload : Value) : Except ParseError Value := do
  let event ← parsed usageEventSchema payload .usageEvent
  parsed normalizedUsageSchema (normalizedValue event "usage-event" (usageLines event)) .normalizedUsage

/-! ## `LiteLLMStandardLoggingAdapter` -/

inductive NormalizationErrorCode where
  | invalidEvent
  | quantityOutOfRange
  | sourceCostOutOfRange
  | unsupportedEvent
  deriving DecidableEq, Repr

inductive AdapterError where
  | normalization (code : NormalizationErrorCode) (message : String)
  | parse (error : ParseError)
  deriving DecidableEq, Repr

section Adapter

variable (toLowerCase : String → String) (decimal : Value → Option ℚ)

/-- A number that `decimal` reads and that is at or over the bound. -/
def outOfRange (bound : ℚ) (v : Option Value) : Bool := (v.bind decimal).any fun x => 0 ≤ x && bound ≤ x

def hasOutOfRangeUsageQuantity (input : Value) : Bool :=
  (standardUsage.map Prod.fst).any fun field => outOfRange decimal (10 ^ 29) (member (get input "usage") field)

def hasOutOfRangeSourceCost (input : Value) : Bool := outOfRange decimal (10 ^ 20) (member (get input "source_cost") "amount")

/-- The lines of the adapter: a standard field has one when it is there. -/
def adapterLines (event : Value) : List UsageLine :=
  (standardUsage.filterMap fun entry =>
    (member (get event "usage") entry.1).map (standardLine (confidence event) entry)) ++
  (customUnits (get event "usage")).map (customLine (confidence event))

def supports (input : Value) : Bool :=
  usageEventSchema input && textOf (get (get input "source") "type") = some "gateway" &&
    Runtime.includesText (toLowerCase ((textOf (get (get input "source") "name")).getD "")) "litellm"

def adapterNormalize (input : Value) : Except AdapterError Value :=
  if usageEventSchema input then
    if supports toLowerCase input then
      (parsed normalizedUsageSchema (normalizedValue input "litellm-standard-logging" (adapterLines input))
        .normalizedUsage).mapError .parse
    else .error (.normalization .unsupportedEvent "The event is not a LiteLLM gateway usage event.")
  else if hasOutOfRangeSourceCost decimal input then
    .error (.normalization .sourceCostOutOfRange "source_cost cannot be represented as numeric(38,18).")
  else if hasOutOfRangeUsageQuantity decimal input then
    .error (.normalization .quantityOutOfRange "A usage quantity cannot be represented as numeric(38,9).")
  else .error (.normalization .invalidEvent "The raw event does not satisfy the canonical Usage Event contract.")

end Adapter

/-! ## Fields that are copied -/

section Copied

variable {event : Value} {keys : List String} {key : String}

theorem lookup_copied : (keys.map (copied event)).lookup key = if key ∈ keys then some (get event key) else none := by
  induction keys with
  | nil => rfl
  | cons first rest ih =>
    rw [List.map_cons, copied, List.lookup_cons]
    by_cases hkey : key = first
    · subst hkey
      simp
    · have hne : (key == first) = false := beq_eq_false_iff_ne.mpr hkey
      simp [hne, ih, hkey]

theorem lookup_copiedIfPresent :
    (keys.flatMap (copiedIfPresent event)).lookup key = if key ∈ keys then member event key else none := by
  induction keys with
  | nil => rfl
  | cons first rest ih =>
    rw [List.flatMap_cons, List.lookup_append, ih]
    by_cases hkey : key = first
    · subst hkey
      cases hmember : member event key with
      | none => simp [copiedIfPresent, hmember]
      | some v => simp [copiedIfPresent, hmember]
    · have hne : (key == first) = false := beq_eq_false_iff_ne.mpr hkey
      have hfirst : (copiedIfPresent event first).lookup key = none := by
        unfold copiedIfPresent
        cases member event first with
        | none => rfl
        | some v => simp [List.lookup_cons, hne]
      simp [hfirst, hkey]

theorem usageEventSchema_eq :
    usageEventSchema = isStrictObject (envelopeNeeded ++ [("usage", rawUsageSchema)]) envelopeOptional := rfl

theorem usage_valid (h : usageEventSchema event = true) : rawUsageSchema (get event "usage") = true :=
  Runtime.isStrictObject_needed h (by simp)

theorem member_optional {needed optional : List (String × (Value → Bool))} {check : Value → Bool}
    (h : isStrictObject needed optional event = true) (hkey : (key, check) ∈ optional) :
    (member event key).all check = true := by
  cases event with
  | obj fields =>
    simp only [isStrictObject, Bool.and_eq_true, List.all_eq_true] at h
    exact h.2 (key, check) hkey
  | _ => rfl

/-- A valid event is copied into a valid one when its lines and its missing fields are valid. -/
theorem normalizedValue_valid (h : usageEventSchema event = true) {name : String} {lines : List UsageLine}
    (hname : bounded 1 120 name = true) (hlines : usageLinesSchema (.arr (lines.map UsageLine.json)) = true)
    (hmissing : isTextSet (bounded 1 128) 32 (.arr ((missingFields event).map .str)) = true) :
    normalizedUsageSchema (normalizedValue event name lines) = true := by
  have hnormalization : normalizationSchema (normalization event name) = true := by
    have hversion : bounded 1 64 "current" = true := by decide
    have hwarnings : isTextSet normalizationWarningValues.contains 2 (.arr []) = true := rfl
    simp [normalizationSchema, normalization, isStrictObject, List.lookup_cons, isText, hname, hversion, hmissing, hwarnings]
  obtain ⟨fields, hfields⟩ : ∃ fields, normalizedValue event name lines = .obj fields := ⟨_, rfl⟩
  have hknown : ∀ f ∈ fields, f.1 ∈ firstKeys ++ optionalKeys ++ lastKeys ++ ["normalization", "usage_lines"] := by
    cases hfields
    intro f hf
    simp only [List.mem_append] at hf
    rcases hf with ((hf | hf) | hf) | hf
    · obtain ⟨key, hkey, rfl⟩ := List.mem_map.mp hf
      simp [copied, hkey]
    · obtain ⟨key, hkey, hpresent⟩ := List.mem_flatMap.mp hf
      obtain ⟨v, -, rfl⟩ := Option.map_eq_some_iff.mp (Option.mem_toList.mp hpresent)
      simp [hkey]
    · obtain ⟨key, hkey, rfl⟩ := List.mem_map.mp hf
      simp [copied, hkey]
    · have hkey := List.mem_map_of_mem (f := Prod.fst) hf
      exact List.mem_append_right _ hkey
  have hlookup (key : String) : fields.lookup key =
      (((if key ∈ firstKeys then some (get event key) else none).or
        (if key ∈ optionalKeys then member event key else none)).or
        (if key ∈ lastKeys then some (get event key) else none)).or
        ([("normalization", normalization event name), ("usage_lines", (.arr (lines.map UsageLine.json) : Value))].lookup key) := by
    cases hfields
    rw [List.lookup_append, List.lookup_append, List.lookup_append, lookup_copied, lookup_copiedIfPresent, lookup_copied]
  rw [hfields]
  unfold normalizedUsageSchema isStrictObject
  simp only [Bool.and_eq_true, List.all_eq_true]
  refine ⟨⟨?_, ?_⟩, ?_⟩
  · have hnames : ∀ key ∈ firstKeys ++ optionalKeys ++ lastKeys ++ ["normalization", "usage_lines"],
        (((envelopeNeeded ++ [("normalization", normalizationSchema), ("usage_lines", usageLinesSchema)]) ++
          envelopeOptional).any fun entry => entry.1 = key) = true := by decide
    exact fun f hf => hnames f.1 (hknown f hf)
  · rintro ⟨key, check⟩ hentry
    rcases List.mem_append.mp hentry with hentry | hentry
    · have hkeys : ∀ entry ∈ envelopeNeeded,
          entry.1 ∉ optionalKeys ∧ (entry.1 ∈ firstKeys ∨ entry.1 ∉ firstKeys ∧ entry.1 ∈ lastKeys) := by decide
      have hcheck : check (get event key) = true :=
        Runtime.isStrictObject_needed (usageEventSchema_eq ▸ h) (List.mem_append_left _ hentry)
      obtain ⟨hoptional, hfirst | ⟨hfirst, hlast⟩⟩ := hkeys _ hentry
      · simp [hlookup, hfirst, hcheck]
      · simp [hlookup, hoptional, hfirst, hlast, hcheck]
    · have hnot : ∀ closing ∈ ["normalization", "usage_lines"],
          closing ∉ firstKeys ∧ closing ∉ optionalKeys ∧ closing ∉ lastKeys := by decide
      rcases List.mem_pair.mp hentry with hentry | hentry
      · cases hentry
        obtain ⟨hfirst, hoptional, hlast⟩ := hnot "normalization" (by simp)
        simp [hlookup, hfirst, hoptional, hlast, hnormalization]
      · cases hentry
        obtain ⟨hfirst, hoptional, hlast⟩ := hnot "usage_lines" (by simp)
        simp [hlookup, hfirst, hoptional, hlast, List.lookup_cons, hlines]
  · rintro ⟨key, check⟩ hentry
    have hkeys : ∀ entry ∈ envelopeOptional, entry.1 ∈ optionalKeys ∧ entry.1 ∉ firstKeys ∧ entry.1 ∉ lastKeys ∧
        entry.1 ≠ "normalization" ∧ entry.1 ≠ "usage_lines" := by decide
    have hcheck := member_optional (usageEventSchema_eq ▸ h) hentry
    obtain ⟨hoptional, hfirst, hlast, hnormalizationKey, hlinesKey⟩ := hkeys _ hentry
    have hclosing : ([("normalization", normalization event name),
        ("usage_lines", (.arr (lines.map UsageLine.json) : Value))].lookup key) = none := by
      have hne : (key == "normalization") = false := beq_eq_false_iff_ne.mpr hnormalizationKey
      have hne' : (key == "usage_lines") = false := beq_eq_false_iff_ne.mpr hlinesKey
      simp [List.lookup_cons, hne, hne']
    simp [hlookup, hoptional, hfirst, hlast, hclosing, hcheck]

end Copied

/-! ## Lines that are accepted -/

section Line

variable (line : UsageLine)

@[simp] theorem json_usageType : textOf (get line.json "usage_type") = some line.usageType := rfl

@[simp] theorem json_unit : textOf (get line.json "unit") = some line.unit := by
  obtain ⟨usageType, unitKey, quantity, unit, sourcePath, isEstimated, confidence⟩ := line
  cases unitKey <;> rfl

@[simp] theorem json_unitKey : member line.json "unit_key" = line.unitKey := by
  obtain ⟨usageType, unitKey, quantity, unit, sourcePath, isEstimated, confidence⟩ := line
  cases unitKey <;> rfl

end Line

theorem confidence_known (event : Value) : confidence event ∈ ["gateway_reported", "sdk_reported", "estimated"] := by
  unfold confidence
  split <;> simp

/-- What holds of every row of the table. -/
theorem standardUsage_row : ∀ entry ∈ standardUsage,
    (isOneOf usageTypeValues (.str entry.2.1) = true ∧ isOneOf usageUnitValues (.str entry.2.2) = true ∧
      isText sourcePathPattern (.str ("usage." ++ entry.1)) = true) ∧
    (entry.2.1 ≠ "custom_unit" ∧ ':' ∉ entry.2.1.toList ∧ usageUnitForType entry.2.1 = some entry.2.2) ∧
    (standardUsage.find? fun other => other.1 = entry.1).map (fun other => other.2.1) = some entry.2.1 := by
  decide +kernel

theorem standardUsage_types : (standardUsage.map fun entry => entry.2.1).Nodup := by
  decide +kernel

theorem standardLine_valid {sourceConfidence : String} {entry : String × String × String} {quantity : Value}
    (hconfidence : sourceConfidence ∈ ["gateway_reported", "sdk_reported", "estimated"]) (hentry : entry ∈ standardUsage)
    (hquantity : decimal38_9 quantity = true) : usageLineSchema (standardLine sourceConfidence entry quantity).json = true := by
  have hsource : isOneOf usageConfidenceValues (.str sourceConfidence) = true := by
    have hall : ∀ s ∈ ["gateway_reported", "sdk_reported", "estimated"], isOneOf usageConfidenceValues (.str s) = true := by
      decide
    exact hall _ hconfidence
  obtain ⟨⟨htype, hunit, hpath⟩, ⟨hcustom, -, hfits⟩, -⟩ := standardUsage_row entry hentry
  have hobject : isStrictObject
      [("usage_type", isOneOf usageTypeValues), ("quantity", decimal38_9), ("unit", isOneOf usageUnitValues),
        ("source_path", isText sourcePathPattern), ("is_estimated", isFlag), ("confidence", isOneOf usageConfidenceValues)]
      [("unit_key", isText propertyKeyPattern)] (standardLine sourceConfidence entry quantity).json = true := by
    simp [isStrictObject, standardLine, UsageLine.json, List.lookup_cons, htype, hunit, hpath, hsource, hquantity, isFlag]
  have hrefined : unitFits (standardLine sourceConfidence entry quantity).json = true := by
    simp [unitFits, standardLine, hcustom, hfits]
  rw [usageLineSchema, hobject, hrefined]
  rfl

theorem customLine_valid {sourceConfidence : String} {custom : Value}
    (hconfidence : sourceConfidence ∈ ["gateway_reported", "sdk_reported", "estimated"])
    (hcustom : Runtime.rawCustomUnitSchema custom = true) :
    usageLineSchema (customLine sourceConfidence custom).json = true := by
  have hsource : isOneOf usageConfidenceValues (.str (customLine sourceConfidence custom).confidence) = true := by
    have hall : ∀ s ∈ ["gateway_reported", "sdk_reported", "estimated"], isOneOf usageConfidenceValues (.str s) = true := by
      decide
    unfold customLine
    dsimp only
    split
    · exact hall _ (by simp)
    · exact hall _ hconfidence
  have hkey : isText propertyKeyPattern (get custom "unit_key") = true := Runtime.isStrictObject_needed hcustom (by simp)
  have hquantity : decimal38_9 (get custom "quantity") = true := Runtime.isStrictObject_needed hcustom (by simp)
  have hpath : isText sourcePathPattern (get custom "source_path") = true := Runtime.isStrictObject_needed hcustom (by simp)
  have htype : isOneOf usageTypeValues (.str "custom_unit") = true := by decide
  have hunit : isOneOf usageUnitValues (.str "custom") = true := by decide
  have hobject : isStrictObject
      [("usage_type", isOneOf usageTypeValues), ("quantity", decimal38_9), ("unit", isOneOf usageUnitValues),
        ("source_path", isText sourcePathPattern), ("is_estimated", isFlag), ("confidence", isOneOf usageConfidenceValues)]
      [("unit_key", isText propertyKeyPattern)] (customLine sourceConfidence custom).json = true := by
    simp only [customLine] at hsource
    simp [isStrictObject, customLine, UsageLine.json, List.lookup_cons, htype, hunit, hpath, hsource, hquantity, hkey, isFlag]
  have hrefined : unitFits (customLine sourceConfidence custom).json = true := by
    simp [unitFits, customLine]
  rw [usageLineSchema, hobject, hrefined]
  rfl

/-! ## The lines of a valid event -/

def UsageLine.identity (line : UsageLine) : String :=
  if line.usageType = "custom_unit" then "custom_unit:" ++ ((line.unitKey.bind textOf).getD "<missing>") else line.usageType

theorem usageLineIdentity_json (line : UsageLine) : usageLineIdentity line.json = line.identity := by
  obtain ⟨usageType, unitKey, quantity, unit, sourcePath, isEstimated, confidence⟩ := line
  cases unitKey <;> rfl

theorem table_types : ∀ entry ∈ standardUsage, entry.2.1 ≠ "custom_unit" ∧ ':' ∉ entry.2.1.toList ∧
    usageUnitForType entry.2.1 = some entry.2.2 :=
  fun entry hentry => (standardUsage_row entry hentry).2.1

theorem table_fields : standardUsage.map Prod.fst = usageBuckets := rfl

theorem standardLine_identity {entry : String × String × String} (h : entry ∈ standardUsage) (source : String) (quantity : Value) :
    (standardLine source entry quantity).identity = entry.2.1 := if_neg (table_types entry h).1

section Events

variable {event : Value}

/-- A standard field that is there holds a text of a quantity. -/
theorem standard_quantity (h : usageEventSchema event = true) {field : String} (hfield : field ∈ usageBuckets) {v : Value}
    (hv : member (get event "usage") field = some v) : decimal38_9 v = true := by
  have husage := usage_valid h
  rw [rawUsageSchema, Bool.and_eq_true] at husage
  have hchecked := member_optional husage.1
    (List.mem_append_left _ (List.mem_map_of_mem (f := fun bucket => (bucket, decimal38_9)) hfield))
  rw [hv] at hchecked
  simpa using hchecked

theorem get_of_member {v w : Value} {key : String} (h : member v key = some w) : get v key = w := by
  cases v with
  | obj fields => exact congrArg (Option.getD · .null) h
  | _ => cases h

theorem textValue_member (h : usageEventSchema event = true) {field : String} (hfield : field ∈ usageBuckets) :
    textValue (get (get event "usage") field) = member (get event "usage") field := by
  cases hmember : member (get event "usage") field with
  | none =>
    have hnull : get (get event "usage") field = .null := by
      generalize get event "usage" = usage at hmember
      cases usage with
      | obj fields => exact congrArg (Option.getD · Json.null) hmember
      | _ => rfl
    rw [hnull]
    rfl
  | some v =>
    rw [get_of_member hmember]
    obtain ⟨s, rfl, -⟩ := Runtime.isText_elim (standard_quantity h hfield hmember)
    rfl

/-- The worker and the adapter write the same lines of a valid event. -/
theorem adapterLines_eq (h : usageEventSchema event = true) : adapterLines event = usageLines event := by
  unfold adapterLines usageLines
  congr 1
  apply List.filterMap_congr
  intro entry hentry
  rw [textValue_member h (table_fields ▸ List.mem_map_of_mem hentry)]

theorem customUnits_valid (h : usageEventSchema event = true) :
    (∀ custom ∈ customUnits (get event "usage"), Runtime.rawCustomUnitSchema custom = true) ∧
      (customUnits (get event "usage")).length ≤ 32 ∧
      ((customUnits (get event "usage")).filterMap fun custom => textOf (get custom "unit_key")).Nodup := by
  have husage := usage_valid h
  rw [rawUsageSchema, Bool.and_eq_true] at husage
  have hchecked := Runtime.isStrictObject_optional husage.1
    (List.mem_append_right _ (List.mem_singleton_self ("custom_units", Runtime.customUnitsSchema)))
  unfold customUnits
  rcases hchecked with hnull | hunits
  · rw [hnull]
    simp
  · cases hvalue : get (get event "usage") "custom_units" with
    | arr units =>
      rw [hvalue] at hunits
      simp only [Runtime.customUnitsSchema, Bool.and_eq_true, List.all_eq_true, decide_eq_true_eq] at hunits
      exact ⟨hunits.1.1, hunits.1.2, hunits.2⟩
    | _ => simp

theorem customUnit_key (h : usageEventSchema event = true) {custom : Value} (hcustom : custom ∈ customUnits (get event "usage")) :
    ∃ key, get custom "unit_key" = .str key := by
  have hkey : isText propertyKeyPattern (get custom "unit_key") = true :=
    Runtime.isStrictObject_needed ((customUnits_valid h).1 custom hcustom) (by simp)
  obtain ⟨key, hkey, -⟩ := Runtime.isText_elim hkey
  exact ⟨key, hkey⟩

theorem mem_standardLines {line : UsageLine} : line ∈ usageLines event ↔
    (∃ entry ∈ standardUsage, ∃ quantity, textValue (get (get event "usage") entry.1) = some quantity ∧
      standardLine (confidence event) entry quantity = line) ∨
    ∃ custom ∈ customUnits (get event "usage"), customLine (confidence event) custom = line := by
  simp [usageLines]

theorem usageLine_valid (h : usageEventSchema event = true) {line : UsageLine} (hline : line ∈ usageLines event) :
    usageLineSchema line.json = true := by
  rcases mem_standardLines.mp hline with ⟨entry, hentry, quantity, hquantity, rfl⟩ | ⟨custom, hcustom, rfl⟩
  · have hfield : entry.1 ∈ usageBuckets := table_fields ▸ List.mem_map_of_mem hentry
    rw [textValue_member h hfield] at hquantity
    exact standardLine_valid (confidence_known event) hentry (standard_quantity h hfield hquantity)
  · exact customLine_valid (confidence_known event) ((customUnits_valid h).1 custom hcustom)

theorem identities_nodup (h : usageEventSchema event = true) : ((usageLines event).map UsageLine.identity).Nodup := by
  have hstandard (table : List (String × String × String)) (htable : ∀ entry ∈ table, entry ∈ standardUsage) :
      ((table.filterMap fun entry => (textValue (get (get event "usage") entry.1)).map
        (standardLine (confidence event) entry)).map UsageLine.identity).Sublist (table.map fun entry => entry.2.1) := by
    induction table with
    | nil => simp
    | cons entry rest ih =>
      have hrest := ih fun other hother => htable other (by simp [hother])
      cases hquantity : textValue (get (get event "usage") entry.1) with
      | none =>
        rw [List.filterMap_cons_none (by rw [hquantity]; rfl), List.map_cons]
        exact hrest.cons _
      | some quantity =>
        rw [List.filterMap_cons_some (by rw [hquantity]; rfl), List.map_cons, List.map_cons,
          standardLine_identity (htable entry (by simp))]
        exact hrest.cons_cons _
  have hcustom : (customUnits (get event "usage")).map (fun custom => (customLine (confidence event) custom).identity) =
      ((customUnits (get event "usage")).filterMap fun custom => textOf (get custom "unit_key")).map ("custom_unit:" ++ ·) := by
    rw [List.map_filterMap, ← List.filterMap_eq_map]
    apply List.filterMap_congr
    intro custom hmem
    obtain ⟨key, hkey⟩ := customUnit_key h hmem
    simp [customLine, UsageLine.identity, hkey, textOf]
  unfold usageLines
  rw [List.map_append, List.map_map, List.nodup_append]
  refine ⟨(hstandard standardUsage fun _ => id).nodup standardUsage_types, ?_, ?_⟩
  · show ((customUnits (get event "usage")).map fun custom => (customLine (confidence event) custom).identity).Nodup
    rw [hcustom]
    refine List.Nodup.map ?_ (customUnits_valid h).2.2
    intro a b hab
    have hlist := congrArg String.toList hab
    rw [String.toList_append, String.toList_append] at hlist
    exact String.toList_injective (List.append_cancel_left hlist)
  · intro a ha b hb hab
    obtain ⟨entry, hentry, rfl⟩ := List.mem_map.mp ((hstandard standardUsage fun _ => id).mem ha)
    have hb' : b ∈ (customUnits (get event "usage")).map fun custom => (customLine (confidence event) custom).identity := hb
    rw [hcustom] at hb'
    obtain ⟨key, -, rfl⟩ := List.mem_map.mp hb'
    -- no type of the table has a colon
    refine (table_types entry hentry).2.1 ?_
    rw [hab, String.toList_append]
    exact List.mem_append_left _ (by decide)

theorem usageLines_length (h : usageEventSchema event = true) :
    1 ≤ (usageLines event).length ∧ (usageLines event).length ≤ 64 := by
  constructor
  · have husage := usage_valid h
    rw [rawUsageSchema, Bool.and_eq_true] at husage
    have hbucket := husage.2
    suffices hmem : ∃ line, line ∈ usageLines event by
      obtain ⟨line, hline⟩ := hmem
      exact List.length_pos_of_mem hline
    cases hvalue : get event "usage" with
    | obj fields =>
      rw [hvalue] at hbucket
      simp only [Runtime.hasBucket, Bool.or_eq_true, List.any_eq_true] at hbucket
      rcases hbucket with ⟨field, hmem, hfield⟩ | hcustom
      · have hstandard : field.1 ∈ usageBuckets := List.contains_iff_mem.mp hfield
        obtain ⟨v, hv⟩ : ∃ v, member (get event "usage") field.1 = some v := by
          rw [hvalue]
          cases hlookup : fields.lookup field.1 with
          | some v => exact ⟨v, hlookup⟩
          | none => exact absurd (List.lookup_eq_none_iff.mp hlookup field hmem) (by simp)
        obtain ⟨entry, hentry, hname⟩ := List.mem_map.mp (table_fields ▸ hstandard)
        refine ⟨standardLine (confidence event) entry v, mem_standardLines.mpr (.inl ⟨entry, hentry, v, ?_, rfl⟩)⟩
        rw [hname, textValue_member h hstandard, hv]
      · have hget : get (.obj fields) "custom_units" = (fields.lookup "custom_units").getD .null := rfl
        cases hlookup : fields.lookup "custom_units" with
        | none => simp [hlookup] at hcustom
        | some v =>
          rw [hlookup] at hcustom hget
          cases v with
          | arr units =>
            cases units with
            | nil => simp at hcustom
            | cons custom rest =>
              refine ⟨customLine (confidence event) custom, mem_standardLines.mpr (.inr ⟨custom, ?_, rfl⟩)⟩
              rw [hvalue, customUnits, hget]
              exact List.mem_cons_self
          | _ => simp at hcustom
    | _ =>
      rw [hvalue] at hbucket
      cases hbucket
  · have hstandard : (standardUsage.filterMap fun entry =>
        (textValue (get (get event "usage") entry.1)).map (standardLine (confidence event) entry)).length ≤ 13 :=
      List.length_filterMap_le _ _
    have hcustom := (customUnits_valid h).2.1
    unfold usageLines
    rw [List.length_append, List.length_map]
    omega

theorem usageLines_valid (h : usageEventSchema event = true) :
    usageLinesSchema (.arr ((usageLines event).map UsageLine.json)) = true := by
  have hlines : ((usageLines event).map UsageLine.json).all usageLineSchema = true := by
    rw [List.all_map, List.all_eq_true]
    exact fun line hline => usageLine_valid h hline
  have hidentities : (((usageLines event).map UsageLine.json).map usageLineIdentity).Nodup := by
    rw [List.map_map]
    have hidentity : usageLineIdentity ∘ UsageLine.json = UsageLine.identity := funext usageLineIdentity_json
    rw [hidentity]
    exact identities_nodup h
  obtain ⟨hpos, hbound⟩ := usageLines_length h
  simp only [usageLinesSchema, hlines, hidentities, List.length_map, hpos, hbound, decide_true, Bool.and_self]

theorem usageBuckets_laws : usageBuckets.Nodup ∧ ∀ field ∈ usageBuckets, bounded 1 128 field = true := by
  decide +kernel

theorem missingFields_valid (event : Value) :
    isTextSet (bounded 1 128) 32 (.arr ((missingFields event).map .str)) = true := by
  have hmem : ∀ field ∈ missingFields event, field ∈ usageBuckets :=
    fun field hfield => table_fields ▸ List.mem_of_mem_filter hfield
  have htexts : ((missingFields event).map (.str : String → Value)).all (isText (bounded 1 128)) = true := by
    rw [List.all_map, List.all_eq_true]
    exact fun field hfield => usageBuckets_laws.2 field (hmem field hfield)
  have hlength : ((missingFields event).map (.str : String → Value)).length ≤ 32 := by
    have hle : (missingFields event).length ≤ 13 := List.length_filter_le _ _
    rw [List.length_map]
    omega
  have hnodup : (((missingFields event).map .str).filterMap textOf).Nodup := by
    have hsame : ((missingFields event).map .str).filterMap textOf = missingFields event := by
      rw [List.filterMap_map]
      exact List.filterMap_some
    rw [hsame]
    exact List.Nodup.filter _ (table_fields ▸ usageBuckets_laws.1)
  simp only [isTextSet, htexts, hlength, hnodup, decide_true, Bool.and_self]

end Events

/-! ## Buckets -/

/-- A bucket of an event: a standard field, or a custom unit by its key. -/
inductive Bucket where
  | standard (field : String)
  | custom (unitKey : String)
  deriving DecidableEq, Repr

def Present (event : Value) : Bucket → Prop
  | .standard field => field ∈ usageBuckets ∧ (member (get event "usage") field).isSome = true
  | .custom key => ∃ custom ∈ customUnits (get event "usage"), get custom "unit_key" = .str key

/-- The line has the bucket's type, quantity and unit. -/
def Carries (event : Value) : Bucket → UsageLine → Prop
  | .standard field, line => member (get event "usage") field = some line.quantity ∧ line.unitKey = none ∧
      (field, line.usageType, line.unit) ∈ standardUsage ∧ usageUnitForType line.usageType = some line.unit
  | .custom key, line => (∃ custom ∈ customUnits (get event "usage"), get custom "unit_key" = .str key ∧
      get custom "quantity" = line.quantity) ∧
      line.unitKey = some (.str key) ∧ line.usageType = "custom_unit" ∧ line.unit = "custom"

/-- The lines of a normalized event are one for each bucket, and its missing fields are the others. -/
structure Lossless (event normalized : Value) : Prop where
  lines : get normalized "usage_lines" = .arr ((usageLines event).map UsageLine.json)
  distinct : ((usageLines event).map UsageLine.identity).Nodup
  bucket : ∀ bucket, Present event bucket → ∃! line, line ∈ usageLines event ∧ Carries event bucket line
  line : ∀ line ∈ usageLines event, ∃! bucket, Present event bucket ∧ Carries event bucket line
  missing : get (get normalized "normalization") "missing_usage_fields" = .arr ((missingFields event).map .str)
  complement : ∀ field, field ∈ missingFields event ↔ field ∈ usageBuckets ∧ ¬ Present event (.standard field)

def Bucket.identity : Bucket → String
  | .standard field => ((standardUsage.find? fun entry => entry.1 = field).map fun entry => entry.2.1).getD ""
  | .custom key => "custom_unit:" ++ key

section Buckets

variable {event : Value}

theorem Carries.identity {bucket : Bucket} {line : UsageLine} (h : Carries event bucket line) :
    line.identity = bucket.identity := by
  cases bucket with
  | standard field =>
    obtain ⟨-, -, hentry, -⟩ := h
    have htype : line.identity = line.usageType := if_neg (table_types _ hentry).1
    rw [htype, Bucket.identity, (standardUsage_row _ hentry).2.2]
    rfl
  | custom key =>
    obtain ⟨-, hkey, htype, -⟩ := h
    rw [UsageLine.identity, if_pos htype, hkey]
    rfl

theorem Carries.unique {bucket bucket' : Bucket} {line : UsageLine} (h : Carries event bucket line)
    (h' : Carries event bucket' line) : bucket = bucket' := by
  cases bucket with
  | standard field =>
    cases bucket' with
    | standard field' =>
      have hrow := List.inj_on_of_nodup_map standardUsage_types h.2.2.1 h'.2.2.1 rfl
      rw [show field = field' from congrArg Prod.fst hrow]
    | custom key => exact absurd h'.2.2.1 (table_types _ h.2.2.1).1
  | custom key =>
    cases bucket' with
    | standard field' => exact absurd h.2.2.1 (table_types _ h'.2.2.1).1
    | custom key' =>
      have hkey := h.2.1.symm.trans h'.2.1
      cases hkey
      rfl

theorem same_line (h : usageEventSchema event = true) {line line' : UsageLine} (hline : line ∈ usageLines event)
    (hline' : line' ∈ usageLines event) (hidentity : line.identity = line'.identity) : line = line' :=
  List.inj_on_of_nodup_map (identities_nodup h) hline hline' hidentity

theorem line_bucket (h : usageEventSchema event = true) {line : UsageLine} (hline : line ∈ usageLines event) :
    ∃ bucket, Present event bucket ∧ Carries event bucket line := by
  rcases mem_standardLines.mp hline with ⟨entry, hentry, quantity, hquantity, rfl⟩ | ⟨custom, hcustom, rfl⟩
  · have hfield : entry.1 ∈ usageBuckets := table_fields ▸ List.mem_map_of_mem hentry
    rw [textValue_member h hfield] at hquantity
    exact ⟨.standard entry.1, ⟨hfield, by rw [hquantity]; rfl⟩, hquantity, rfl, hentry, (table_types entry hentry).2.2⟩
  · obtain ⟨key, hkey⟩ := customUnit_key h hcustom
    exact ⟨.custom key, ⟨custom, hcustom, hkey⟩, ⟨custom, hcustom, hkey, rfl⟩, congrArg some hkey, rfl, rfl⟩

theorem bucket_line (h : usageEventSchema event = true) {bucket : Bucket} (hbucket : Present event bucket) :
    ∃ line ∈ usageLines event, Carries event bucket line := by
  cases bucket with
  | standard field =>
    obtain ⟨hfield, hpresent⟩ := hbucket
    obtain ⟨v, hv⟩ := Option.isSome_iff_exists.mp hpresent
    obtain ⟨entry, hentry, rfl⟩ := List.mem_map.mp (table_fields ▸ hfield)
    refine ⟨standardLine (confidence event) entry v, mem_standardLines.mpr (.inl ⟨entry, hentry, v, ?_, rfl⟩), hv, rfl,
      hentry, (table_types entry hentry).2.2⟩
    rw [textValue_member h hfield, hv]
  | custom key =>
    obtain ⟨custom, hcustom, hkey⟩ := hbucket
    exact ⟨customLine (confidence event) custom, mem_standardLines.mpr (.inr ⟨custom, hcustom, rfl⟩),
      ⟨custom, hcustom, hkey, rfl⟩, congrArg some hkey, rfl, rfl⟩

theorem get_closing (event : Value) (name : String) (lines : List UsageLine) :
    get (normalizedValue event name lines) "usage_lines" = .arr (lines.map UsageLine.json) ∧
      get (normalizedValue event name lines) "normalization" = normalization event name := by
  unfold normalizedValue Runtime.Connector.get
  simp only [List.lookup_append, lookup_copied, lookup_copiedIfPresent]
  exact ⟨rfl, rfl⟩

theorem normalizedValue_lossless (h : usageEventSchema event = true) (name : String) :
    Lossless event (normalizedValue event name (usageLines event)) where
  lines := (get_closing event name (usageLines event)).1
  distinct := identities_nodup h
  bucket bucket hbucket := by
    obtain ⟨line, hline, hcarries⟩ := bucket_line h hbucket
    refine ⟨line, ⟨hline, hcarries⟩, ?_⟩
    rintro other ⟨hother, hcarries'⟩
    exact same_line h hother hline (hcarries'.identity.trans hcarries.identity.symm)
  line line hline := by
    obtain ⟨bucket, hpresent, hcarries⟩ := line_bucket h hline
    exact ⟨bucket, ⟨hpresent, hcarries⟩, fun other hother => hother.2.unique hcarries⟩
  missing := by
    rw [(get_closing event name (usageLines event)).2]
    rfl
  complement field := by
    unfold missingFields Present
    rw [List.mem_filter, table_fields, ← Option.not_isSome]
    constructor
    · rintro ⟨hfield, habsent⟩
      exact ⟨hfield, fun hpresent => by simp [hpresent.2] at habsent⟩
    · rintro ⟨hfield, hnot⟩
      exact ⟨hfield, by simpa [hfield] using hnot⟩

/-- Every valid event is normalized without loss, and the adapter gives the same lines and missing fields. -/
theorem normalized_lossless (toLowerCase : String → String) (decimal : Value → Option ℚ)
    (h : usageEventSchema event = true) :
    ∃ normalized, normalizeUsageEvent event = .ok normalized ∧ Lossless event normalized ∧
      (supports toLowerCase event = true → ∃ adapted, adapterNormalize toLowerCase decimal event = .ok adapted ∧
        get adapted "usage_lines" = get normalized "usage_lines" ∧
        get (get adapted "normalization") "missing_usage_fields" =
          get (get normalized "normalization") "missing_usage_fields") := by
  have hvalid {name : String} (hname : bounded 1 120 name = true) :
      normalizedUsageSchema (normalizedValue event name (usageLines event)) = true :=
    normalizedValue_valid h hname (usageLines_valid h) (missingFields_valid event)
  have hnormalized := normalizedValue_lossless h "usage-event"
  refine ⟨_, ?_, hnormalized, ?_⟩
  · unfold normalizeUsageEvent
    rw [parsed, if_pos h]
    exact if_pos (hvalid (by decide))
  · intro hsupports
    have hadapted := normalizedValue_lossless h "litellm-standard-logging"
    refine ⟨normalizedValue event "litellm-standard-logging" (usageLines event), ?_, hadapted.lines.trans hnormalized.lines.symm,
      hadapted.missing.trans hnormalized.missing.symm⟩
    unfold adapterNormalize
    rw [if_pos h, if_pos hsupports, adapterLines_eq h, parsed, if_pos (hvalid (by decide))]
    rfl

/-- The ratings read these lines: their types, keys and quantities. -/
theorem ratedLines_of (event : Value) : Pipeline.usageLines event = (usageLines event).map fun line =>
    ⟨line.usageType, line.unitKey.bind textOf, (textOf line.quantity).getD ""⟩ := by
  have htext (v : Value) : textOf v = (textValue v).bind textOf := by cases v <;> rfl
  unfold Pipeline.usageLines usageLines
  dsimp only
  rw [List.map_append, List.map_map]
  congr 1
  · have htable : Pipeline.standardUsage = standardUsage.map fun entry => (entry.1, entry.2.1) := rfl
    rw [htable, List.filterMap_map, List.map_filterMap]
    apply List.filterMap_congr
    intro entry _
    show (textOf (get (get event "usage") entry.1)).map _ = _
    rw [htext]
    cases hvalue : get (get event "usage") entry.1 <;> rfl

/-! ## Fixed events -/

def integerValue (n : Int) : Value := .num (Decimal.ofInt n)

def sampleEvent (usage : Value) : Value :=
  .obj
    [ ("schema_version", .str "2.0"), ("event_id", .str "01J00000000000000000000001"),
      ("event_time", .str "2026-07-16T00:00:00.000Z"), ("user", .obj [("user_id", .str "user-1")]),
      ("source", .obj [("type", .str "gateway"), ("name", .str "litellm"), ("version", .str "1.0"),
        ("instance_id", .str "gateway-1")]),
      ("request", .obj [("request_id", .str "req_1"), ("attempt_id", .str "att_1"), ("attempt_index", integerValue 0),
        ("is_final_attempt", .bool true), ("operation_id", .null), ("parent_request_id", .null), ("session_id", .null),
        ("conversation_id", .null), ("trace_id", .null)]),
      ("model", .obj [("request_model", .str "fast")]), ("route", .null), ("analytics_dimensions", .obj []),
      ("result", .obj [("status", .str "success"), ("http_status", .null), ("latency_ms", .null), ("error_class", .null)]),
      ("source_cost", .null),
      ("privacy", .obj [("contains_prompt", .bool false), ("contains_response", .bool false)]), ("usage", usage) ]

def tokensAndPages : Value :=
  .obj [("output_tokens", .str "15"), ("custom_units", .arr [.obj [("unit_key", .str "pages"), ("quantity", .str "2"),
    ("unit", .str "page"), ("source_path", .str "usage.pages"), ("is_estimated", .bool false)]])]

theorem tokensAndPages_lossless : ∃ normalized, normalizeUsageEvent (sampleEvent tokensAndPages) = .ok normalized ∧
    Lossless (sampleEvent tokensAndPages) normalized ∧
    (supports id (sampleEvent tokensAndPages) = true → ∃ adapted,
      adapterNormalize id (fun _ => none) (sampleEvent tokensAndPages) = .ok adapted ∧
        get adapted "usage_lines" = get normalized "usage_lines" ∧
        get (get adapted "normalization") "missing_usage_fields" =
          get (get normalized "normalization") "missing_usage_fields") :=
  normalized_lossless id (fun _ => none) (by decide +kernel)

/-- The unit of two pages is not on their line. -/
theorem pages_renamed : usageEventSchema (sampleEvent tokensAndPages) = true ∧
    ¬ ∀ custom ∈ customUnits (get (sampleEvent tokensAndPages) "usage"), ∃ line ∈ usageLines (sampleEvent tokensAndPages),
      (line.unitKey.bind textOf) = textOf (get custom "unit_key") ∧ some line.unit = textOf (get custom "unit") := by
  refine ⟨by decide +kernel, ?_⟩
  intro hall
  obtain ⟨line, hline, -, hunit⟩ := hall _ (List.mem_singleton_self _)
  have hunits : ∀ unit ∈ (usageLines (sampleEvent tokensAndPages)).map UsageLine.unit, some unit ≠ some "page" := by
    decide +kernel
  exact hunits line.unit (List.mem_map_of_mem hline) hunit

end Buckets

end TokenPilot.Normalization
