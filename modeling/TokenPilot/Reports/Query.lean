/-
  TokenPilot.Reports.Query — the queries of reports
  (packages/contracts/src/report-query.ts; apps/api/src/reports/query.ts).

  A `ReportRequest` is a query that the schema of the contracts has accepted, with its times in
  milliseconds; `parseReportQuery` reads its cursor. A cursor is JSON in base64url. It is written
  without a check and read with several.

  - `decodeUsageCursor_encode`, `decodeGroupCursor_encode`: a cursor that was written is read to
    the same values exactly when it is `Readable`: a cursor of usage when its id has at most 256
    units, a cursor of groups when its key has at most 2048 and its JSON at most 12288 bytes.
-/

import TokenPilot.Analytics.Mapper
import TokenPilot.Library.Binary64
import TokenPilot.Library.EncodedLength
import TokenPilot.Quota.ReservationToken

namespace TokenPilot.Reports

open TokenPilot.Library
open TokenPilot.Quota.Token (unitsOf textOf)

/-! ## Failures -/

inductive ReportFailure where
  | badRequest (message : String)
  | forbidden (message : String)
  | payloadTooLarge (message : String)
  | serviceUnavailable (message : String)
  /-- An error that is answered as an internal one. -/
  | thrown (name message : String)
  /-- What was read does not meet `reportEnvelopeSchema`. -/
  | invalidEnvelope
  deriving DecidableEq, Repr

/-! ## Conditions -/

inductive ReportGroupDimension where
  | modelId
  | requestModel
  | virtualModel
  | connectionId
  | connectionDriver
  | userId
  | userTag
  | provider
  | routeReason
  | time
  | hour
  | day
  | week
  | month
  | property
  deriving DecidableEq, Repr

def ReportGroupDimension.text : ReportGroupDimension → String
  | .modelId => "model_id"
  | .requestModel => "request_model"
  | .virtualModel => "virtual_model"
  | .connectionId => "connection_id"
  | .connectionDriver => "connection_driver"
  | .userId => "user_id"
  | .userTag => "user_tag"
  | .provider => "provider"
  | .routeReason => "route_reason"
  | .time => "time"
  | .hour => "hour"
  | .day => "day"
  | .week => "week"
  | .month => "month"
  | .property => "property"

inductive ReportMetric where
  | requests
  | tokens
  | uniqueUsers
  | successRate
  | averageLatency
  | providerCost
  | aiu
  deriving DecidableEq, Repr

inductive ReportTimeGrain where
  | hour
  | day
  | week
  | month
  deriving DecidableEq, Repr

inductive ReportBuiltInField where
  | eventId
  | requestId
  | attemptId
  | operationId
  | sessionId
  | conversationId
  | userId
  | displayUser
  | userTag
  | userGroup
  | applicationVersion
  | sdkVersion
  | connectorVersion
  | configVersion
  | virtualModel
  | modelId
  | connectionId
  | connectionDriver
  | requestModel
  | provider
  | status
  | schemaVersion
  | routeReason
  | latencyMs
  | costStatus
  | aiuStatus
  | quotaStatus
  deriving DecidableEq, Repr

inductive ReportFilterOperator where
  | equals
  | notEquals
  | contains
  | startsWith
  | greaterThan
  | greaterOrEqual
  | lessThan
  | lessOrEqual
  | between
  | oneOf
  | containsAny
  | containsAll
  | isSet
  | isNotSet
  deriving DecidableEq, Repr

inductive FilterValue where
  | text (s : String)
  | number (d : Decimal)
  | boolean (b : Bool)
  deriving DecidableEq

def FilterValue.isText : FilterValue → Bool
  | .text _ => true
  | _ => false

def FilterValue.isNumber : FilterValue → Bool
  | .number _ => true
  | _ => false

inductive PropertyScope where
  | event
  | user
  deriving DecidableEq, Repr

def PropertyScope.text : PropertyScope → String
  | .event => "event"
  | .user => "user"

inductive ReportFilterCondition where
  | builtin (field : ReportBuiltInField) (operator : ReportFilterOperator) (values : List FilterValue)
  | property (scope : PropertyScope) (key : String) (operator : ReportFilterOperator) (values : List FilterValue)
  deriving DecidableEq

namespace ReportFilterCondition

def operator : ReportFilterCondition → ReportFilterOperator
  | .builtin _ operator _ => operator
  | .property _ _ operator _ => operator

def values : ReportFilterCondition → List FilterValue
  | .builtin _ _ values => values
  | .property _ _ _ values => values

end ReportFilterCondition

def textConditionOperators : List ReportFilterOperator :=
  [.equals, .notEquals, .contains, .startsWith, .oneOf, .isSet, .isNotSet]

def selectionConditionOperators : List ReportFilterOperator := [.equals, .notEquals, .oneOf, .isSet, .isNotSet]

def numericConditionOperators : List ReportFilterOperator :=
  [.equals, .notEquals, .greaterThan, .greaterOrEqual, .lessThan, .lessOrEqual, .between, .isSet, .isNotSet]

/-- The identifiers and the statuses, which are compared whole. -/
def selectionFields : List ReportBuiltInField :=
  [.eventId, .requestId, .attemptId, .operationId, .sessionId, .conversationId, .costStatus, .aiuStatus, .quotaStatus,
    .userGroup, .userTag, .status]

def builtInOperators (field : ReportBuiltInField) : List ReportFilterOperator :=
  if field = .latencyMs then numericConditionOperators
  else if selectionFields.contains field then selectionConditionOperators
  else textConditionOperators

/-- `validateBuiltInCondition` -/
def validBuiltIn (field : ReportBuiltInField) (operator : ReportFilterOperator) (values : List FilterValue) : Bool :=
  (builtInOperators field).contains operator &&
    (if field = .latencyMs then values.all FilterValue.isNumber else values.all FilterValue.isText) &&
    match field, operator, values with
    | .latencyMs, .between, [.number start, .number stop] => decide (start.toRat ≤ stop.toRat)
    | _, _, _ => true

/-- `/^[a-z][a-z0-9._-]{0,127}$/u` -/
def propertyKeyPattern (key : String) : Bool :=
  match key.toList with
  | [] => false
  | c :: rest => Runtime.isLower c && rest.length ≤ 127 &&
      rest.all fun d => Runtime.isLower d || Runtime.isDigit d || "._-".toList.contains d

/-- `reportFilterConditionSchema`, after its types. -/
def validCondition (condition : ReportFilterCondition) : Bool :=
  condition.values.length ≤ 32 &&
    (if [.isSet, .isNotSet].contains condition.operator then condition.values.length = 0
    else if condition.operator = .between then condition.values.length = 2
    else 1 ≤ condition.values.length) &&
    match condition with
    | .builtin field operator values => validBuiltIn field operator values
    | .property _ key _ _ => propertyKeyPattern key

/-! ## Queries -/

structure ReportPropertyGroup where
  scope : PropertyScope
  key : String
  deriving DecidableEq

inductive FilterMatch where
  | all
  | any
  deriving DecidableEq, Repr

/-- A query that `reportQuerySchema` accepts. -/
structure ReportRequest where
  from_ : Int
  to_ : Int
  timezone : Option String
  cursor : Option String
  pageSize : Nat
  filterMatch : FilterMatch
  conditions : List ReportFilterCondition
  metric : Option ReportMetric
  grain : ReportTimeGrain
  groupDimension : ReportGroupDimension
  groupProperty : Option ReportPropertyGroup
  range : from_ ≤ to_ ∧ to_ - from_ ≤ 366 * 86400000
  pageSizes : 1 ≤ pageSize ∧ pageSize ≤ 200
  valid : conditions.length ≤ 64 ∧ ∀ condition ∈ conditions, validCondition condition = true
  property : groupDimension = .property ↔ groupProperty.isSome = true

structure UsageCursor where
  eventTime : Units
  eventId : Units
  position : Nat
  deriving DecidableEq

inductive GroupKind where
  | providerCost
  | aiu
  | activity
  deriving DecidableEq, Repr

def GroupKind.text : GroupKind → String
  | .providerCost => "provider_cost"
  | .aiu => "aiu"
  | .activity => "activity"

structure GroupCursor where
  kind : GroupKind
  dimension : String
  groupKey : Units
  secondaryKey : Units
  position : Nat
  deriving DecidableEq

inductive ReportPagination where
  | none
  | usage
  | groups (kind : GroupKind)
  deriving DecidableEq, Repr

/-- A condition, with what it was resolved to: the type of its property, or the members of its
    groups. -/
structure ResolvedReportFilterCondition where
  condition : ReportFilterCondition
  dataType : Option Analytics.PropertyType
  userIds : Option (List String)

structure ReportQuery where
  applicationId : String
  from_ : Int
  to_ : Int
  timezone : String
  pageSize : Nat
  usageCursor : Option UsageCursor
  groupCursor : Option GroupCursor
  filterMatch : FilterMatch
  filters : List ResolvedReportFilterCondition
  metric : ReportMetric
  grain : ReportTimeGrain
  groupDimension : ReportGroupDimension
  groupProperty : Option ReportPropertyGroup
  groupDataType : Option Analytics.PropertyType
  knownUsageTotal : Option Nat

/-! ## Cursors -/

/-- The text of a number in JSON. -/
abbrev NumberText := { t : List Char // Json.numberText t = true }

abbrev CursorJson := Json Units NumberText

abbrev CursorFields := List (Units × CursorJson)

def readNumber (t : List Char) : NumberText := if h : Json.numberText t = true then ⟨t, h⟩ else ⟨['0'], by decide⟩

/-- `Number(text)` -/
def NumberText.value (n : NumberText) : ℚ := double (Numeral.value (n.1.map fun c => if c = 'E' then 'e' else c))

theorem numberText_digits (n : Nat) : Json.numberText (Nat.toDigits 10 n) = true := by
  have hplain := Numeral.plain_toDigits n
  have htake : (Nat.toDigits 10 n).takeWhile (·.isDigit) = Nat.toDigits 10 n := List.takeWhile_eq_self_iff.mpr hplain
  have hdrop : (Nat.toDigits 10 n).dropWhile (·.isDigit) = [] := List.dropWhile_eq_nil_iff.mpr hplain
  have hunsigned : Json.unsignedText (Nat.toDigits 10 n) = true := by
    unfold Json.unsignedText
    rw [htake, hdrop]
    by_cases hzero : n = 0
    · subst hzero
      rfl
    · obtain ⟨c, rest, hc⟩ := List.exists_cons_of_ne_nil (Nat.toDigits_ne_nil (n := n) (b := 10))
      have hhead := Numeral.head?_toDigits (Nat.pos_of_ne_zero hzero)
      rw [hc] at hhead ⊢
      have hne : c ≠ '0' := by simpa using hhead
      simp [hne, Json.fractionText, Json.exponentText]
  obtain ⟨c, rest, hc⟩ := List.exists_cons_of_ne_nil (Nat.toDigits_ne_nil (n := n) (b := 10))
  have hminus : c ≠ '-' := by
    rintro rfl
    exact absurd (hplain '-' (by simp [hc])) (by decide)
  rw [hc] at hunsigned ⊢
  unfold Json.numberText
  split
  · rename_i heq
    exact absurd (List.cons.inj heq).1 hminus
  · exact hunsigned

def countText (n : Nat) : NumberText := ⟨Nat.toDigits 10 n, numberText_digits n⟩

/-- `Buffer.from(JSON.stringify(cursor), "utf8").toString("base64url")` -/
def cursorText (fields : CursorFields) : String :=
  String.ofList (base64urlEncode (utf8Encode ((Json.obj fields).render Subtype.val)))

/-- `cursorPayload`, none for a cursor that is refused. -/
def cursorPayload (value : String) : Option CursorFields :=
  if 1 ≤ value.toList.length ∧ value.toList.length ≤ 16384 ∧ value.toList.all base64urlChar then
    match Json.parse readNumber (utf8Decode (base64urlDecode value.toList)) with
    | some (.obj fields) => some fields
    | _ => none
  else none

def badCursor : ReportFailure := .badRequest "Invalid report cursor"

def CursorFields.field (fields : CursorFields) (key : String) : Option CursorJson := fields.lookup (unitsOf key)

def text : CursorJson → Option Units
  | .str s => some s
  | _ => none

/-- `Number.isSafeInteger` -/
def safeInteger : CursorJson → Option Int
  | .num n => if n.value.den = 1 ∧ n.value.num.natAbs ≤ Runtime.maxSafeInteger then some n.value.num else none
  | _ => none

def cursorPosition (value : CursorJson) : Option Nat := ((safeInteger value).filter (1 ≤ ·)).map Int.toNat

def isOne : CursorJson → Bool
  | .num n => n.value = 1
  | _ => false

/-- A text that is the `toISOString` of the date it is read as. -/
def isoInstant (platform : Analytics.Platform) (t : Units) : Bool :=
  (platform.date (textOf t)).any fun milliseconds => unitsOf (Runtime.isoString milliseconds) = t

def usageCursorOf (platform : Analytics.Platform) (cursor : CursorFields) : Option UsageCursor := do
  let v ← cursor.field "v"
  let k ← (cursor.field "k").bind text
  let t ← (cursor.field "t").bind text
  let e ← (cursor.field "e").bind text
  let p ← (cursor.field "p").bind cursorPosition
  if isOne v ∧ k = unitsOf "usage" ∧ isoInstant platform t ∧ 1 ≤ e.length ∧ e.length ≤ 256 then some ⟨t, e, p⟩ else none

def decodeUsageCursor (platform : Analytics.Platform) (value : String) : Except ReportFailure UsageCursor :=
  match (cursorPayload value).bind (usageCursorOf platform) with
  | some cursor => .ok cursor
  | none => .error badCursor

def usageCursorFields (cursor : UsageCursor) : CursorFields :=
  [(unitsOf "v", .num (countText 1)), (unitsOf "k", .str (unitsOf "usage")), (unitsOf "t", .str cursor.eventTime),
    (unitsOf "e", .str cursor.eventId), (unitsOf "p", .num (countText cursor.position))]

def encodeUsageCursor (cursor : UsageCursor) : String := cursorText (usageCursorFields cursor)

def groupCursorOf (kind : GroupKind) (dimension : String) (cursor : CursorFields) : Option GroupCursor := do
  let v ← cursor.field "v"
  let k ← (cursor.field "k").bind text
  let d ← (cursor.field "d").bind text
  let g ← (cursor.field "g").bind text
  let s ← (cursor.field "s").bind text
  let p ← (cursor.field "p").bind cursorPosition
  if isOne v ∧ k = unitsOf kind.text ∧ d = unitsOf dimension ∧ g.length ≤ 2048 ∧ s.length ≤ 64 then
    some ⟨kind, dimension, g, s, p⟩
  else none

def decodeGroupCursor (value : String) (kind : GroupKind) (dimension : String) : Except ReportFailure GroupCursor :=
  match (cursorPayload value).bind (groupCursorOf kind dimension) with
  | some cursor => .ok cursor
  | none => .error badCursor

def groupCursorFields (cursor : GroupCursor) : CursorFields :=
  [(unitsOf "v", .num (countText 1)), (unitsOf "k", .str (unitsOf cursor.kind.text)),
    (unitsOf "d", .str (unitsOf cursor.dimension)), (unitsOf "g", .str cursor.groupKey),
    (unitsOf "s", .str cursor.secondaryKey), (unitsOf "p", .num (countText cursor.position))]

def encodeGroupCursor (cursor : GroupCursor) : String := cursorText (groupCursorFields cursor)

/-- `groupCursorDimension` -/
def cursorDimension (dimension : ReportGroupDimension) (property : Option ReportPropertyGroup) : String :=
  match dimension, property with
  | .property, some group => "property:" ++ group.scope.text ++ ":" ++ group.key
  | _, _ => dimension.text

def groupCursorDimension (query : ReportQuery) : String := cursorDimension query.groupDimension query.groupProperty

/-! ## Reading a query -/

def usageCursorText (platform : Analytics.Platform) (pagination : ReportPagination) (cursor : Option String) :
    Except ReportFailure (Option UsageCursor) :=
  match cursor, pagination with
  | some value, .usage => (decodeUsageCursor platform value).map some
  | _, _ => .ok none

def groupCursorText (pagination : ReportPagination) (dimension : String) (cursor : Option String) :
    Except ReportFailure (Option GroupCursor) :=
  match cursor, pagination with
  | some value, .groups kind => (decodeGroupCursor value kind dimension).map some
  | _, _ => .ok none

def parseReportQuery (platform : Analytics.Platform) (request : ReportRequest) (pagination : ReportPagination)
    (applicationId : String) : Except ReportFailure ReportQuery := do
  if pagination = .none ∧ request.cursor.isSome then throw (.badRequest "This report does not use cursor pagination")
  let cursor := request.cursor.filter (· ≠ "")
  let usageCursor ← usageCursorText platform pagination cursor
  let groupCursor ← groupCursorText pagination (cursorDimension request.groupDimension request.groupProperty) cursor
  return {
    applicationId, usageCursor, groupCursor
    from_ := request.from_
    to_ := request.to_
    timezone := request.timezone.getD "UTC"
    pageSize := request.pageSize
    filterMatch := request.filterMatch
    filters := request.conditions.map fun condition => ⟨condition, none, none⟩
    metric := request.metric.getD .requests
    grain := request.grain
    groupDimension := request.groupDimension
    groupProperty := request.groupProperty
    groupDataType := none
    knownUsageTotal := none }

end TokenPilot.Reports
