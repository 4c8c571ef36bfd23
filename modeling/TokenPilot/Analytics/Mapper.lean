/-
  TokenPilot.Analytics.Mapper — from an outbox record to the rows of the analytics store
  (packages/clickhouse/src/sink/mapper.ts, property-mapper.ts, rating-mapper.ts, types.ts).

  A record gives rows of one table. A row keeps apart the column its table counts by
  (`event_id`, `usage_line_id`, `rating_event_id`, `user_record_id`) and its delivery id; the
  others are `columns`, in the order of the source. The delivery id names the record the row
  came from first: a replay delivers under the id of the record it repeats.
-/

import Mathlib.Data.List.Sort
import TokenPilot.Analytics.Payload

namespace TokenPilot.Analytics

open Library

/-! ## Records and rows -/

inductive PipelineEventType where
  | usageEventsRaw
  | usageLines
  | providerCostProvisional
  | providerCostOfficialDelta
  | providerCostAdjustment
  | providerCostUnpriced
  | aiuProvisional
  | aiuOfficialDelta
  | aiuDecision
  | applicationUserProfile
  deriving DecidableEq, Repr

def PipelineEventType.text : PipelineEventType → String
  | .usageEventsRaw => "usage_events_raw"
  | .usageLines => "usage_lines"
  | .providerCostProvisional => "provider_cost.provisional"
  | .providerCostOfficialDelta => "provider_cost.official_delta"
  | .providerCostAdjustment => "provider_cost.adjustment"
  | .providerCostUnpriced => "provider_cost.unpriced"
  | .aiuProvisional => "aiu.provisional"
  | .aiuOfficialDelta => "aiu.official_delta"
  | .aiuDecision => "aiu.decision"
  | .applicationUserProfile => "application_user.profile"

def pipelineEventTypes : List PipelineEventType :=
  [.usageEventsRaw, .usageLines, .providerCostProvisional, .providerCostOfficialDelta, .providerCostAdjustment,
    .providerCostUnpriced, .aiuProvisional, .aiuOfficialDelta, .aiuDecision, .applicationUserProfile]

structure ClickHouseOutboxRecord where
  id : Nat
  aggregateType : String
  aggregateId : String
  eventType : String
  payload : Payload
  idempotencyKey : String
  replayOfOutboxId : Option Nat
  createdAt : Int

structure ClickHouseSinkIdentity where
  environment : String
  instanceId : Option String

inductive SinkTable where
  | usageEventsRaw
  | usageLines
  | ratingEvents
  | applicationUserProfiles
  deriving DecidableEq, Repr

def sinkTables : List SinkTable := [.usageEventsRaw, .usageLines, .ratingEvents, .applicationUserProfiles]

def SinkTable.text : SinkTable → String
  | .usageEventsRaw => "usage_events_raw"
  | .usageLines => "usage_lines"
  | .ratingEvents => "rating_events"
  | .applicationUserProfiles => "application_user_profiles"

structure ClickHouseSinkRow where
  rowId : String
  sinkDeliveryId : String
  columns : Object

/-- `JSON.stringify(row)`, up to where the two identities stand in it. -/
def ClickHouseSinkRow.json (row : ClickHouseSinkRow) : String :=
  stringify (.obj (("id", .str row.rowId) :: ("sink_delivery_id", .str row.sinkDeliveryId) :: row.columns))

structure MappedClickHouseOutbox where
  outboxId : Nat
  eventType : PipelineEventType
  eventTime : Int
  table : SinkTable
  rows : List ClickHouseSinkRow

def MappedClickHouseOutbox.rowsOf (mapped : MappedClickHouseOutbox) (table : SinkTable) : List ClickHouseSinkRow :=
  if mapped.table = table then mapped.rows else []

/-- The record a delivery is counted under. -/
def ClickHouseOutboxRecord.source (record : ClickHouseOutboxRecord) : Nat := record.replayOfOutboxId.getD record.id

def deliveryText (source : Nat) (suffix : String) : String := s!"outbox:{source}:{suffix}"

def delivery (record : ClickHouseOutboxRecord) (suffix : String) : Except String String :=
  if record.source < 1 ∨ record.replayOfOutboxId.isSome ∧ record.id ≤ record.source then
    .error "Outbox replay source identity is invalid"
  else .ok (deliveryText record.source suffix)

/-! ## Properties -/

inductive PropertyType where
  | text
  | number
  | boolean
  | datetime
  | enum
  | textList
  deriving DecidableEq, Repr

def PropertyType.name : PropertyType → String
  | .text => "TEXT"
  | .number => "NUMBER"
  | .boolean => "BOOLEAN"
  | .datetime => "DATETIME"
  | .enum => "ENUM"
  | .textList => "TEXT_LIST"

def propertyTypeValues : List PropertyType := [.text, .number, .boolean, .datetime, .enum, .textList]

def propertyType (value : Option Payload) (key : String) : Except String PropertyType :=
  match value with
  | some (.str name) =>
    match propertyTypeValues.find? (·.name = name) with
    | some type => .ok type
    | none => .error s!"property type for {key} is missing or invalid"
  | _ => .error s!"property type for {key} is missing or invalid"

structure ScopeColumns where
  text : Object := []
  number : Object := []
  boolean : Object := []
  datetime : Object := []
  enum : Object := []
  textList : Object := []

/-- `o[key] = value`: the key `__proto__` sets no property. -/
def assign (o : Object) (key : String) (value : Payload) : Object :=
  if key = "__proto__" then o else o ++ [(key, value)]

def isText : Payload → Bool
  | .str _ => true
  | _ => false

/-- One pass of the loop of `scopeColumns`. -/
def scopeColumn (platform : Platform) (types : Object) (scope : String) (output : ScopeColumns)
    (entry : String × Payload) : Except String ScopeColumns := do
  let key := entry.1
  let type ← propertyType (types.field key) key
  match type, entry.2 with
  | .text, .str text => .ok { output with text := assign output.text key (.str text) }
  | .text, _ => .error s!"{scope}.{key} must be text"
  | .number, .num (.finite d) => .ok { output with number := assign output.number key (.num (.finite d)) }
  | .number, _ => .error s!"{scope}.{key} must be a finite number"
  | .boolean, .bool b => .ok { output with boolean := assign output.boolean key (bit b) }
  | .boolean, _ => .error s!"{scope}.{key} must be boolean"
  | .datetime, value => do
    let time ← dateTime platform (some value) s!"{scope}.{key}"
    return { output with datetime := assign output.datetime key (.str time) }
  | .enum, .str text => .ok { output with enum := assign output.enum key (.str text) }
  | .enum, _ => .error s!"{scope}.{key} must be an enum"
  | .textList, .arr items =>
    if items.all isText then .ok { output with textList := assign output.textList key (.arr items) }
    else .error s!"{scope}.{key} must be a text list"
  | .textList, _ => .error s!"{scope}.{key} must be a text list"

/-- The properties of an input that may be undefined. -/
def objectOrEmpty (value : Option Payload) (name : String) : Except String Object :=
  match value with
  | none => .ok []
  | some value => object (some value) name

def scopeColumns (platform : Platform) (valuesInput typesInput : Option Payload) (scope : String) :
    Except String ScopeColumns := do
  let values ← objectOrEmpty valuesInput s!"{scope} properties"
  let types ← objectOrEmpty typesInput s!"{scope} property types"
  (values.insertionSort fun a b => platform.localeOrder a.1 b.1).foldlM (scopeColumn platform types scope) {}

def columns (scope : String) (value : ScopeColumns) : Object :=
  [ (s!"{scope}_text_properties", .obj value.text), (s!"{scope}_number_properties", .obj value.number),
    (s!"{scope}_boolean_properties", .obj value.boolean), (s!"{scope}_datetime_properties", .obj value.datetime),
    (s!"{scope}_enum_properties", .obj value.enum), (s!"{scope}_text_list_properties", .obj value.textList) ]

/-- `value ?? {}` -/
def orEmpty : Option Payload → Payload
  | none | some .null => .obj []
  | some value => value

structure PropertyColumns where
  event : ScopeColumns
  user : ScopeColumns

def typedPropertyColumns (platform : Platform) (payload : Object) (eventProperties userProperties : Option Payload) :
    Except String PropertyColumns := do
  let propertyTypes ← object (some (orEmpty (payload.field "property_types"))) "property types"
  let event ← scopeColumns platform eventProperties (propertyTypes.field "event") "event property"
  let user ← scopeColumns platform userProperties (propertyTypes.field "user") "user property"
  return ⟨event, user⟩

def PropertyColumns.all (value : PropertyColumns) : Object := columns "event" value.event ++ columns "user" value.user

/-! ## Usage -/

def textOf : Payload → Option String
  | .str text => some text
  | _ => none

/-- The distinct texts in the order of their units. -/
def stringArray (value : Option Payload) (name : String) : Except String (List String) := do
  let values ← array value name
  match values.mapM textOf with
  | some texts => .ok (texts.dedup.insertionSort unitOrder)
  | none => .error s!"{name} must contain only strings"

/-- `optionalString(value, name) ?? ""` -/
def stringOrEmpty (value : Option Payload) (name : String) : Except String String := do
  let text ← optionalString value name
  return text.getD ""

/-- `numeric(value, name)` as a column. -/
def numericColumn (value : Option Payload) (name : String) : Except String Payload := do
  let number ← numeric value name
  return number.elim .null count

structure UsageBase where
  normalized : Object
  eventId : String
  eventTime : Int
  columns : Object

/-- A route that may be null. -/
def nullableObject (value : Option Payload) (name : String) : Except String (Option Object) :=
  match value with
  | some .null => .ok none
  | value => do
    let fields ← object value name
    return some fields

def routeText (route : Option Object) (key name : String) : Except String String :=
  match route with
  | none => .ok ""
  | some route => stringOrEmpty (route.field key) name

/-- `value ?? []` -/
def orEmptyList : Option Payload → Payload
  | none | some .null => .arr []
  | some value => value

/-- The model the resolution names, before the one the event names. -/
def resolvedModelId (resolution model : Object) : Except String String := do
  let resolved ← optionalString (resolution.field "modelId") "resolution.modelId"
  match resolved with
  | some id => .ok id
  | none => stringOrEmpty (model.field "model_id") "normalized.model.model_id"

def usageBase (platform : Platform) (record : ClickHouseOutboxRecord) (identity : ClickHouseSinkIdentity)
    (payload : Object) : Except String UsageBase := do
  let normalized ← object (payload.field "normalized") "normalized usage"
  let source ← object (normalized.field "source") "normalized source"
  let request ← object (normalized.field "request") "normalized request"
  let user ← object (normalized.field "user") "normalized user"
  let model ← object (normalized.field "model") "normalized model"
  let result ← object (normalized.field "result") "normalized result"
  let route ← nullableObject (normalized.field "route") "normalized route"
  let resolution ← object (some (orEmpty (payload.field "resolution"))) "model resolution"
  let timeText ← string (normalized.field "event_time") "normalized.event_time"
  let eventTime ← eventDate platform (some (.str timeText)) "normalized.event_time"
  let applicationId ← string (payload.field "application_id") "application_id"
  let instanceId ← string (source.field "instance_id") "normalized.source.instance_id"
  let time ← dateTime platform (some (.str timeText)) "normalized.event_time"
  let eventId ← string (normalized.field "event_id") "normalized.event_id"
  let requestId ← string (request.field "request_id") "normalized.request.request_id"
  let attemptId ← string (request.field "attempt_id") "normalized.request.attempt_id"
  let attemptIndex ← numeric (request.field "attempt_index") "normalized.request.attempt_index"
  let operationId ← stringOrEmpty (request.field "operation_id") "normalized.request.operation_id"
  let sessionId ← stringOrEmpty (request.field "session_id") "normalized.request.session_id"
  let conversationId ← stringOrEmpty (request.field "conversation_id") "normalized.request.conversation_id"
  let traceId ← stringOrEmpty (request.field "trace_id") "normalized.request.trace_id"
  let userId ← string (user.field "user_id") "normalized.user.user_id"
  let displayUser ← stringOrEmpty (user.field "display_user") "normalized.user.display_user"
  let userTags ← stringArray (some (orEmptyList (payload.field "user_tags"))) "user_tags"
  let applicationVersion ← stringOrEmpty (normalized.field "application_version") "normalized.application_version"
  let sdkVersion ← stringOrEmpty (normalized.field "sdk_version") "normalized.sdk_version"
  let connectorVersion ← stringOrEmpty (normalized.field "connector_version") "normalized.connector_version"
  let configVersion ← stringOrEmpty (normalized.field "config_version") "normalized.config_version"
  let virtualModel ← stringOrEmpty (model.field "virtual_model") "normalized.model.virtual_model"
  let modelId ← resolvedModelId resolution model
  let connectionId ← stringOrEmpty (model.field "connection_id") "normalized.model.connection_id"
  let connectionDriver ← stringOrEmpty (model.field "connection_driver") "normalized.model.connection_driver"
  let requestModel ← string (model.field "request_model") "normalized.model.request_model"
  let provider ← stringOrEmpty (model.field "provider") "normalized.model.provider"
  let status ← string (result.field "status") "normalized.result.status"
  let routeReason ← routeText route "reason" "route.reason"
  let dimensions ← dimensionMap (normalized.field "analytics_dimensions")
  let properties ← typedPropertyColumns platform payload (normalized.field "event_properties")
    (normalized.field "user_properties")
  return {
    normalized
    eventId
    eventTime
    columns :=
      [ ("application_id", .str applicationId), ("instance_id", .str instanceId),
        ("environment", .str identity.environment), ("event_time", .str time), ("event_id", .str eventId),
        ("request_id", .str requestId), ("attempt_id", .str attemptId),
        ("attempt_index", count (attemptIndex.getD 0)),
        ("is_final_attempt", bit (boolean (request.field "is_final_attempt") false)),
        ("operation_id", .str operationId), ("session_id", .str sessionId),
        ("conversation_id", .str conversationId), ("trace_id", .str traceId), ("user_id", .str userId),
        ("display_user", .str displayUser), ("user_tags", .arr (userTags.map .str)),
        ("application_version", .str applicationVersion), ("sdk_version", .str sdkVersion),
        ("connector_version", .str connectorVersion), ("config_version", .str configVersion),
        ("virtual_model", .str virtualModel), ("model_id", .str modelId), ("connection_id", .str connectionId),
        ("connection_driver", .str connectionDriver), ("request_model", .str requestModel),
        ("provider", .str provider), ("status", .str status), ("route_reason", .str routeReason),
        ("analytics_dimensions", .obj dimensions) ] ++ properties.all ++
      [("source_outbox_id", .str (toString record.id))] }

def mapRaw (platform : Platform) (record : ClickHouseOutboxRecord) (identity : ClickHouseSinkIdentity)
    (payload : Object) : Except String MappedClickHouseOutbox := do
  let base ← usageBase platform record identity payload
  let result ← object (base.normalized.field "result") "normalized result"
  let route ← nullableObject (base.normalized.field "route") "normalized route"
  let event ← object (payload.field "event") "raw usage event"
  let schemaVersion ← string (base.normalized.field "schema_version") "normalized.schema_version"
  let errorClass ← stringOrEmpty (result.field "error_class") "result.error_class"
  let httpStatus ← numericColumn (result.field "http_status") "result.http_status"
  let latency ← numericColumn (result.field "latency_ms") "result.latency_ms"
  let fallbackFrom ← routeText route "fallback_from" "route.fallback_from"
  let payloadHash ← string (payload.field "payload_hash") "payload_hash"
  let sinkDeliveryId ← delivery record "raw"
  return {
    outboxId := record.id
    eventType := .usageEventsRaw
    eventTime := base.eventTime
    table := .usageEventsRaw
    rows :=
      [{ rowId := base.eventId
         sinkDeliveryId
         columns := base.columns ++
          [ ("received_at", .str (clickHouseTime record.createdAt)), ("schema_version", .str schemaVersion),
            ("error_class", .str errorClass), ("http_status", httpStatus), ("latency_ms", latency),
            ("fallback_from", .str fallbackFrom),
            ("is_final_success_attempt",
              bit (route.elim false fun route => boolean (route.field "is_final_success_attempt") false)),
            ("is_user_visible_operation",
              bit (route.elim true fun route => boolean (route.field "is_user_visible_operation") true)),
            ("raw_payload", .str (stringify (redactClickHouseRawPayload (.obj event)))),
            ("payload_hash", .str payloadHash) ] }] }

def mapUsageLine (record : ClickHouseOutboxRecord) (base : UsageBase) (index : Nat) (value : Payload) :
    Except String ClickHouseSinkRow := do
  let line ← object (some value) s!"usage line {index}"
  let usageType ← string (line.field "usage_type") s!"usage line {index}.usage_type"
  let unitKey ← stringOrEmpty (line.field "unit_key") s!"usage line {index}.unit_key"
  let quantity ← string (line.field "quantity") s!"usage line {index}.quantity"
  let unit ← string (line.field "unit") s!"usage line {index}.unit"
  let confidence ← string (line.field "confidence") s!"usage line {index}.confidence"
  let sourcePath ← string (line.field "source_path") s!"usage line {index}.source_path"
  let sinkDeliveryId ← delivery record s!"usage:{index}"
  return {
    rowId := s!"{base.eventId}:{usageType}:" ++ (if unitKey = "" then "-" else unitKey)
    sinkDeliveryId
    columns := base.columns ++
      [ ("usage_type", .str usageType), ("quantity", .str quantity), ("unit", .str unit), ("unit_key", .str unitKey),
        ("is_estimated", bit (boolean (line.field "is_estimated") false)), ("confidence", .str confidence),
        ("source_path", .str sourcePath) ] }

/-- `values.map((value, index) => ...)` with a callback that can throw. -/
def mapIndexed (f : Nat → Payload → Except String ClickHouseSinkRow) :
    Nat → List Payload → Except String (List ClickHouseSinkRow)
  | _, [] => .ok []
  | index, value :: rest => do
    let row ← f index value
    let rows ← mapIndexed f (index + 1) rest
    return row :: rows

def mapUsageLines (platform : Platform) (record : ClickHouseOutboxRecord) (identity : ClickHouseSinkIdentity)
    (payload : Object) : Except String MappedClickHouseOutbox := do
  let base ← usageBase platform record identity payload
  let lines ← array (base.normalized.field "usage_lines") "normalized.usage_lines"
  let rows ← mapIndexed (mapUsageLine record base) 0 lines
  return ⟨record.id, .usageLines, base.eventTime, .usageLines, rows⟩

/-! ## Profiles -/

def mapApplicationUserProfile (platform : Platform) (record : ClickHouseOutboxRecord) (payload : Object) :
    Except String MappedClickHouseOutbox := do
  let sinkDeliveryId ← delivery record "user-profile"
  let updatedAt ← string (payload.field "profile_updated_at") "profile.profile_updated_at"
  let status ← string (payload.field "status") "profile.status"
  if status ≠ "active" ∧ status ≠ "blocked" then .error "profile.status must be active or blocked"
  else do
    let properties ← typedPropertyColumns platform payload none (some (orEmpty (payload.field "properties")))
    let eventTime ← eventDate platform (some (.str updatedAt)) "profile.profile_updated_at"
    let applicationId ← string (payload.field "application_id") "profile.application_id"
    let userId ← string (payload.field "user_id") "profile.user_id"
    let userRecordId ← string (payload.field "user_record_id") "profile.user_record_id"
    let displayUser ← stringOrEmpty (payload.field "display_user") "profile.display_user"
    let tags ← stringArray (payload.field "tags") "profile.tags"
    let firstSeenAt ← dateTime platform (payload.field "first_seen_at") "profile.first_seen_at"
    let lastSeenAt ← dateTime platform (payload.field "last_seen_at") "profile.last_seen_at"
    let profileUpdatedAt ← dateTime platform (some (.str updatedAt)) "profile.profile_updated_at"
    return {
      outboxId := record.id
      eventType := .applicationUserProfile
      eventTime
      table := .applicationUserProfiles
      rows :=
        [{ rowId := userRecordId
           sinkDeliveryId
           columns :=
            [ ("application_id", .str applicationId), ("user_id", .str userId), ("display_user", .str displayUser),
              ("tags", .arr (tags.map .str)), ("status", .str status), ("first_seen_at", .str firstSeenAt),
              ("last_seen_at", .str lastSeenAt), ("profile_updated_at", .str profileUpdatedAt) ] ++
            columns "user" properties.user ++
            [ ("properties_json", .str (stringify (redactClickHouseRawPayload (orEmpty (payload.field "properties"))))),
              ("profile_version", .str (toString record.source)), ("source_outbox_id", .str (toString record.id)) ] }] }

/-! ## Ratings -/

def ratingBase (platform : Platform) (record : ClickHouseOutboxRecord) (identity : ClickHouseSinkIdentity)
    (payload : Object) : Except String Object := do
  let applicationId ← string (payload.field "application_id") "rating.application_id"
  let instanceId ← optionalString (payload.field "instance_id") "rating.instance_id"
  let eventTime ← dateTime platform (payload.field "event_time") "rating.event_time"
  let eventId ← string (payload.field "event_id") "rating.event_id"
  let requestId ← stringOrEmpty (payload.field "request_id") "rating.request_id"
  let attemptId ← stringOrEmpty (payload.field "attempt_id") "rating.attempt_id"
  let attemptIndex ← numeric (payload.field "attempt_index") "rating.attempt_index"
  let operationId ← stringOrEmpty (payload.field "operation_id") "rating.operation_id"
  let userId ← stringOrEmpty (payload.field "user_id") "rating.user_id"
  let virtualModel ← stringOrEmpty (payload.field "virtual_model") "rating.virtual_model"
  let modelId ← stringOrEmpty (payload.field "model_id") "rating.model_id"
  let connectionId ← stringOrEmpty (payload.field "connection_id") "rating.connection_id"
  let connectionDriver ← stringOrEmpty (payload.field "connection_driver") "rating.connection_driver"
  let requestModel ← stringOrEmpty (payload.field "request_model") "rating.request_model"
  let provider ← stringOrEmpty (payload.field "provider") "rating.provider"
  let status ← string (payload.field "status") "rating.status"
  let attemptOutcome ← string (payload.field "attempt_outcome") "rating.attempt_outcome"
  let routeReason ← stringOrEmpty (payload.field "route_reason") "rating.route_reason"
  return [ ("application_id", .str applicationId),
    ("instance_id", .str (instanceId.getD (identity.instanceId.getD "control-plane"))),
    ("environment", .str identity.environment), ("event_time", .str eventTime), ("source_event_id", .str eventId),
    ("request_id", .str requestId), ("attempt_id", .str attemptId), ("attempt_index", count (attemptIndex.getD 0)),
    ("is_final_attempt", bit (boolean (payload.field "is_final_attempt") true)), ("operation_id", .str operationId),
    ("user_id", .str userId), ("virtual_model", .str virtualModel), ("model_id", .str modelId),
    ("connection_id", .str connectionId), ("connection_driver", .str connectionDriver),
    ("request_model", .str requestModel), ("provider", .str provider), ("status", .str status),
    ("attempt_outcome", .str attemptOutcome), ("route_reason", .str routeReason),
    ("authority_outbox_id", .str (toString record.source)), ("source_outbox_id", .str (toString record.id)) ]

/-- `(?:0|[1-9][0-9]*)(?:\.[0-9]+)?` -/
def unsignedDecimal (t : List Char) : Bool :=
  let whole := t.takeWhile Runtime.isDigit
  (whole = ['0'] || whole.head?.any (· ≠ '0')) &&
    match t.dropWhile Runtime.isDigit with
    | [] => true
    | '.' :: part => !part.isEmpty && part.all Runtime.isDigit
    | _ => false

/-- The text without a minus sign. -/
def magnitude (t : List Char) : List Char :=
  match t with
  | '-' :: rest => rest
  | _ => t

def positiveMagnitude (value : Option Payload) (name : String) : Except String String := do
  let text ← string value name
  if unsignedDecimal (magnitude text.toList) then .ok (String.ofList (magnitude text.toList))
  else .error s!"{name} must be a decimal string"

def nullablePositiveMagnitude (value : Option Payload) (name : String) : Except String (Option String) :=
  match value with
  | some .null => .ok none
  | value => do
    let text ← positiveMagnitude value name
    return some text

def terminalStages : List String := ["unpriced", "invalid_usage", "unrated", "disabled", "not_chargeable"]

def orNull (text : Option String) : Payload := text.elim .null .str

/-- A sign is the number 1 or -1. -/
def ratingSign (value : Option Payload) (what : String) : Except String Int :=
  match value with
  | some (.num (.finite d)) => if d = .ofInt 1 then .ok 1 else if d = .ofInt (-1) then .ok (-1) else .error s!"{what} has invalid sign"
  | _ => .error s!"{what} has invalid sign"

def providerStages : PipelineEventType → List String
  | .providerCostProvisional => ["provisional"]
  | .providerCostAdjustment => ["correction"]
  | .providerCostUnpriced => ["reversal", "unpriced", "invalid_usage"]
  | _ => ["official", "correction", "reversal", "unpriced", "invalid_usage"]

/-- Throws the message when the condition fails. -/
def require (condition : Bool) (message : String) : Except String Unit :=
  if condition then .ok () else .error message

def mapProviderDelta (record : ClickHouseOutboxRecord) (base : Object) (eventType : PipelineEventType) (index : Nat)
    (value : Payload) : Except String ClickHouseSinkRow := do
  let delta ← object (some value) s!"Provider Cost delta {index}"
  let sign ← ratingSign (delta.field "rating_sign") s!"Provider Cost delta {index}"
  let stage ← string (delta.field "rating_stage") s!"Provider Cost delta {index}.rating_stage"
  require ((providerStages eventType).contains stage) s!"{eventType.text} cannot project rating stage {stage}"
  let amount ← nullablePositiveMagnitude (delta.field "amount") s!"Provider Cost delta {index}.amount"
  require (amount.isSome || terminalStages.contains stage)
    s!"{eventType.text} cannot project a null amount for stage {stage}"
  let currency ← optionalString (delta.field "currency") s!"Provider Cost delta {index}.currency"
  require (amount.isNone || currency.isSome) s!"{eventType.text} requires currency for a priced delta"
  let ratingEventId ← string (delta.field "rating_event_id") s!"Provider Cost delta {index}.rating_event_id"
  let priceVersionId ← optionalString (delta.field "price_version_id") s!"Provider Cost delta {index}.price_version_id"
  let calculationVersion ← string (delta.field "calculation_version") s!"Provider Cost delta {index}.calculation_version"
  let fingerprint ← sha256Fingerprint (delta.field "rating_fingerprint") s!"Provider Cost delta {index}.rating_fingerprint"
  let reason ← string (delta.field "reason") s!"Provider Cost delta {index}.reason"
  let sinkDeliveryId ← delivery record s!"provider-rating:{index}"
  return {
    rowId := ratingEventId
    sinkDeliveryId
    columns := base ++
      [ ("rating_kind", .str "provider_cost"), ("rating_stage", .str stage),
        ("rating_sign", .num (.finite (.ofInt sign))), ("usage_type", .null), ("currency", orNull currency),
        ("amount_decimal", orNull amount), ("aiu_micros", .null), ("price_version_id", orNull priceVersionId),
        ("aiu_rate_version_id", .null), ("calculation_version", .str calculationVersion),
        ("rating_fingerprint", .str fingerprint), ("reason", .str reason) ] }

def mapProviderRating (platform : Platform) (record : ClickHouseOutboxRecord) (identity : ClickHouseSinkIdentity)
    (payload : Object) (eventType : PipelineEventType) : Except String MappedClickHouseOutbox := do
  let base ← ratingBase platform record identity payload
  let deltas ← array (payload.field "deltas") "Provider Cost deltas"
  let eventTime ← eventDate platform (payload.field "event_time") "provider rating event_time"
  let rows ← mapIndexed (mapProviderDelta record base eventType) 0 deltas
  return ⟨record.id, eventType, eventTime, .ratingEvents, rows⟩

def aiuStages : PipelineEventType → List String
  | .aiuProvisional => ["provisional"]
  | .aiuDecision => "reversal" :: terminalStages
  | _ => ["official", "correction", "reversal"] ++ terminalStages

/-- One line of a delta; a delta without lines is one line with its total. -/
def mapAiuLine (record : ClickHouseOutboxRecord) (base : Object) (eventType : PipelineEventType) (deltaIndex : Nat)
    (delta : Object) (sign : Int) (stage : String) (lineIndex : Nat) (value : Payload) :
    Except String ClickHouseSinkRow := do
  let line ← object (some value) s!"AIU delta {deltaIndex} line"
  let aiuMicros ← nullablePositiveMagnitude (line.field "aiu_micros") "AIU aiu_micros"
  require (aiuMicros.isSome || terminalStages.contains stage)
    s!"{eventType.text} cannot project null AIU for stage {stage}"
  let ratingEventId ← string (delta.field "rating_event_id") "AIU rating_event_id"
  let usageType ← optionalString (line.field "usage_type") "AIU usage_type"
  let rateVersionId ← optionalString (delta.field "aiu_rate_version_id") "AIU rate version"
  let calculationVersion ← string (delta.field "calculation_version") "AIU calculation version"
  let fingerprint ← sha256Fingerprint (delta.field "rating_fingerprint") "AIU rating fingerprint"
  let reason ← string (delta.field "reason") "AIU delta reason"
  let sinkDeliveryId ← delivery record s!"aiu-rating:{deltaIndex}:{lineIndex}"
  return {
    rowId := s!"{ratingEventId}:{lineIndex}"
    sinkDeliveryId
    columns := base ++
      [ ("rating_kind", .str "aiu"), ("rating_stage", .str stage), ("rating_sign", .num (.finite (.ofInt sign))),
        ("usage_type", orNull usageType), ("currency", .null), ("amount_decimal", .null),
        ("aiu_micros", orNull aiuMicros), ("price_version_id", .null), ("aiu_rate_version_id", orNull rateVersionId),
        ("calculation_version", .str calculationVersion), ("rating_fingerprint", .str fingerprint),
        ("reason", .str reason) ] }

/-- The lines of a delta, and its total in place of none. An absent total stays absent. -/
def aiuMagnitudes (delta : Object) (lines : List Payload) : List Payload :=
  if lines.isEmpty then
    [.obj (("usage_type", .null) :: ((delta.field "total_aiu_micros").map fun total => ("aiu_micros", total)).toList)]
  else lines

def mapAiuDelta (record : ClickHouseOutboxRecord) (base : Object) (eventType : PipelineEventType) (deltaIndex : Nat)
    (value : Payload) : Except String (List ClickHouseSinkRow) := do
  let delta ← object (some value) s!"AIU delta {deltaIndex}"
  let sign ← ratingSign (delta.field "rating_sign") s!"AIU delta {deltaIndex}"
  let stage ← string (delta.field "rating_stage") s!"AIU delta {deltaIndex}.rating_stage"
  require ((aiuStages eventType).contains stage) s!"{eventType.text} cannot project rating stage {stage}"
  let lines ← array (delta.field "lines") s!"AIU delta {deltaIndex}.lines"
  let _ ← lines.mapM fun line => object (some line) s!"AIU delta {deltaIndex} line"
  mapIndexed (mapAiuLine record base eventType deltaIndex delta sign stage) 0 (aiuMagnitudes delta lines)

def mapAiuDeltas (record : ClickHouseOutboxRecord) (base : Object) (eventType : PipelineEventType) :
    Nat → List Payload → Except String (List ClickHouseSinkRow)
  | _, [] => .ok []
  | deltaIndex, value :: rest => do
    let rows ← mapAiuDelta record base eventType deltaIndex value
    let more ← mapAiuDeltas record base eventType (deltaIndex + 1) rest
    return rows ++ more

def mapAiuRating (platform : Platform) (record : ClickHouseOutboxRecord) (identity : ClickHouseSinkIdentity)
    (payload : Object) (eventType : PipelineEventType) : Except String MappedClickHouseOutbox := do
  let base ← ratingBase platform record identity payload
  let deltas ← array (payload.field "deltas") "AIU rating deltas"
  let rows ← mapAiuDeltas record base eventType 0 deltas
  let eventTime ← eventDate platform (payload.field "event_time") "AIU rating event_time"
  return ⟨record.id, eventType, eventTime, .ratingEvents, rows⟩

/-! ## Any record -/

def eventType (value : String) : Except String PipelineEventType :=
  match pipelineEventTypes.find? (·.text = value) with
  | some type => .ok type
  | none => .error s!"Unsupported ClickHouse outbox event type: {value}"

/-- Converts one durable outbox record into stable, replay-identifiable rows. -/
def mapClickHouseOutbox (platform : Platform) (record : ClickHouseOutboxRecord) (identity : ClickHouseSinkIdentity) :
    Except String MappedClickHouseOutbox := do
  let type ← eventType record.eventType
  let payload ← object (some record.payload) "outbox payload"
  match type with
  | .usageEventsRaw => mapRaw platform record identity payload
  | .usageLines => mapUsageLines platform record identity payload
  | .applicationUserProfile => mapApplicationUserProfile platform record payload
  | .providerCostProvisional | .providerCostOfficialDelta | .providerCostAdjustment | .providerCostUnpriced =>
    mapProviderRating platform record identity payload type
  | .aiuProvisional | .aiuOfficialDelta | .aiuDecision => mapAiuRating platform record identity payload type

end TokenPilot.Analytics
