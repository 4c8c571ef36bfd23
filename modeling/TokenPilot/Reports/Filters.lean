/-
  TokenPilot.Reports.Filters — the conditions of a query
  (apps/api/src/reports/property-resolution.ts, clickhouse-query.ts).

  `resolveReportProperties` looks up what the conditions and the grouping name: a property must
  be active, searchable or groupable, and not sensitive. `clickHouseFilters` gives the predicate
  of the `WHERE` clause. Only latencies may be null; a comparison with null counts as false,
  since no condition is negated.
-/

import TokenPilot.Reports.Data
import TokenPilot.Runtime.Timestamps

namespace TokenPilot.Reports

open TokenPilot.Library
open TokenPilot.Analytics (PropertyType RatingKind)

/-! ## The database -/

structure PropertyDefinition where
  applicationId : String
  key : String
  displayName : String
  scope : PropertyScope
  dataType : PropertyType
  searchable : Bool
  groupable : Bool
  sensitive : Bool
  active : Bool

/-- An evaluation of a group, with the external ids of its members. -/
structure GroupEvaluation where
  definitionVersion : Nat
  members : List String

structure ApplicationUserGroup where
  applicationId : String
  id : String
  enabled : Bool
  definitionVersion : Nat
  /-- The latest one. -/
  evaluation : Option GroupEvaluation

structure ReportDatabase where
  definitions : List PropertyDefinition
  groups : List ApplicationUserGroup
  /-- The time zones of the applications. -/
  timezones : List (String × String)
  /-- `property_definitions_application_key_key` -/
  definitionKeys : definitions.Pairwise fun a b => ¬ (a.applicationId = b.applicationId ∧ a.key = b.key)

/-! ## Resolution -/

def operatorsByType : PropertyType → List ReportFilterOperator
  | .text => [.equals, .notEquals, .contains, .startsWith, .isSet, .isNotSet]
  | .number => numericConditionOperators
  | .boolean => [.equals, .isSet, .isNotSet]
  | .datetime => numericConditionOperators
  | .enum => [.equals, .notEquals, .oneOf, .isSet, .isNotSet]
  | .textList => [.containsAny, .containsAll, .isSet, .isNotSet]

def valuesMatch (type : PropertyType) (values : List FilterValue) : Bool :=
  match type with
  | .number => values.all FilterValue.isNumber
  | .boolean => values.all fun value => match value with
    | .boolean _ => true
    | _ => false
  | .datetime => values.all fun value => match value with
    | .text s => Runtime.isRealUtcDateTime s
    | _ => false
  | .text | .enum | .textList => values.all FilterValue.isText

def reversedRange (type : PropertyType) (operator : ReportFilterOperator) (values : List FilterValue) : Bool :=
  match type, operator, values with
  | .number, .between, [.number start, .number stop] => decide (stop.toRat < start.toRat)
  | .datetime, .between, [.text start, .text stop] =>
    match Runtime.compareUtcDateTimes start stop with
    | .ok order => decide (0 < order)
    | .error _ => false
  | _, _, _ => false

/-- The active definition of a key, of those that were asked for. -/
def indexedDefinition (database : ReportDatabase) (applicationId key : String) : Option PropertyDefinition :=
  database.definitions.find? fun definition =>
    definition.applicationId = applicationId && definition.active && definition.key = key

def selectedGroup (database : ReportDatabase) (applicationId : String) (value : FilterValue) :
    Except ReportFailure ApplicationUserGroup :=
  let found := match value with
    | .text id => database.groups.find? fun group => group.applicationId = applicationId && group.enabled && group.id = id
    | _ => none
  match found with
  | some group => .ok group
  | none => .error (.badRequest "A selected user group is not available")

def groupMembers (group : ApplicationUserGroup) : Except ReportFailure (List String) :=
  match group.evaluation with
  | some evaluation =>
    if evaluation.definitionVersion = group.definitionVersion then .ok evaluation.members
    else .error (.badRequest "Refresh the selected user group before using it")
  | none => .error (.badRequest "Refresh the selected user group before using it")

def resolveUserGroup (database : ReportDatabase) (applicationId : String) (operator : ReportFilterOperator)
    (values : List FilterValue) : Except ReportFailure (List String) := do
  if ¬ [.equals, .notEquals, .oneOf].contains operator then
    throw (.badRequest "User groups only support selection comparisons")
  let selected ← values.mapM (selectedGroup database applicationId)
  let members ← selected.mapM groupMembers
  return members.flatten.eraseDups

def resolveProperty (database : ReportDatabase) (applicationId : String) (scope : PropertyScope) (key : String)
    (operator : ReportFilterOperator) (values : List FilterValue) : Except ReportFailure PropertyType :=
  match indexedDefinition database applicationId key with
  | some definition => do
    if definition.scope ≠ scope ∨ ¬ definition.searchable ∨ definition.sensitive then
      throw (.badRequest ("Field " ++ key ++ " is not available for search"))
    if ¬ (operatorsByType definition.dataType).contains operator then
      throw (.badRequest ("The selected comparison is not valid for " ++ key))
    if ¬ valuesMatch definition.dataType values then
      throw (.badRequest ("The filter value does not match " ++ key))
    if reversedRange definition.dataType operator values then
      throw (.badRequest ("字段 " ++ key ++ " 的范围起点不能晚于终点"))
    return definition.dataType
  | none => .error (.badRequest ("Field " ++ key ++ " is not available for search"))

def resolveFilter (database : ReportDatabase) (applicationId : String) (filter : ResolvedReportFilterCondition) :
    Except ReportFailure ResolvedReportFilterCondition :=
  match filter.condition with
  | .builtin field operator values =>
    if field = .userGroup then do
      let userIds ← resolveUserGroup database applicationId operator values
      return { filter with userIds := some userIds }
    else .ok filter
  | .property scope key operator values => do
    let dataType ← resolveProperty database applicationId scope key operator values
    return { filter with dataType := some dataType }

def resolveGroup (database : ReportDatabase) (applicationId : String) (group : ReportPropertyGroup) :
    Except ReportFailure PropertyType :=
  match indexedDefinition database applicationId group.key with
  | some definition =>
    if definition.scope ≠ group.scope ∨ ¬ definition.groupable ∨ definition.dataType = .textList ∨ definition.sensitive then
      .error (.badRequest ("Field " ++ group.key ++ " is not available for grouping"))
    else .ok definition.dataType
  | none => .error (.badRequest ("Field " ++ group.key ++ " is not available for grouping"))

/-- A query without properties and groups is resolved to itself. -/
def resolveReportProperties (database : ReportDatabase) (query : ReportQuery) : Except ReportFailure ReportQuery := do
  let filters ← query.filters.mapM (resolveFilter database query.applicationId)
  match query.groupProperty with
  | none => return { query with filters }
  | some group =>
    let dataType ← resolveGroup database query.applicationId group
    return { query with filters, groupDataType := some dataType }

/-! ## Comparisons -/

/-- What a row gives to the conditions; ratings and aggregates have only the columns that are
    asked of them. -/
structure FilterSource where
  applicationId : String
  eventTime : DateTime64
  column : ReportBuiltInField → String
  eventId : String
  userTags : List String
  latencyMs : Option Nat
  quotaStatus : String
  event : PropertyMaps
  user : PropertyMaps

def FilterSource.maps (source : FilterSource) : PropertyScope → PropertyMaps
  | .event => source.event
  | .user => source.user

def valueText : FilterValue → String
  | .text s => s
  | .number d => String.ofList (Numeral.jsNumber d)
  | .boolean b => if b then "true" else "false"

def valueNumber : FilterValue → ℚ
  | .number d => d.toRat
  | .boolean b => if b then 1 else 0
  | .text _ => 0

section Comparison

variable (clickhouse : ClickHouse)

/-- `comparison` of a text -/
def compareText (expression : String) (operator : ReportFilterOperator) (values : List String) : Bool :=
  match operator with
  | .isSet => expression ≠ ""
  | .isNotSet => expression = ""
  | .notEquals => values.all fun value => expression ≠ value
  | .contains => values.any fun value => 0 < clickhouse.positionCaseInsensitiveUTF8 expression value
  | .startsWith => values.any fun value =>
      (clickhouse.lowerUTF8 value).toList.isPrefixOf (clickhouse.lowerUTF8 expression).toList
  | .equals | .oneOf => values.any fun value => expression = value
  | _ => false

/-- `comparison` of a number or a time -/
def compareNumber (expression : ℚ) (operator : ReportFilterOperator) (values : List ℚ) : Bool :=
  match operator with
  | .isSet => true
  | .isNotSet => false
  | .between => match values with
    | [start, stop] => start ≤ expression && expression ≤ stop
    | _ => false
  | .notEquals => values.all fun value => expression ≠ value
  | .equals => values.any fun value => expression = value
  | .greaterThan => values.any fun value => value < expression
  | .greaterOrEqual => values.any fun value => value ≤ expression
  | .lessThan => values.any fun value => expression < value
  | .lessOrEqual => values.any fun value => expression ≤ value
  | _ => false

def timeParameter (value : FilterValue) : Option Int := clickhouse.dateTimeParameter (valueText value)

/-- `propertyFilter` -/
def propertyFilter (maps : PropertyMaps) (type : PropertyType) (key : String) (operator : ReportFilterOperator)
    (values : List FilterValue) : Bool :=
  let exists_ := match type with
    | .text => mapContains maps.text key
    | .number => mapContains maps.number key
    | .boolean => mapContains maps.boolean key
    | .datetime => mapContains maps.datetime key
    | .enum => mapContains maps.enum key
    | .textList => mapContains maps.textList key
  match operator with
  | .isSet => exists_
  | .isNotSet => !exists_
  | _ =>
    exists_ && match type with
      | .text => compareText clickhouse (readMap "" maps.text key) operator (values.map valueText)
      | .number => compareNumber (readMap (.ofInt 0) maps.number key).toRat operator (values.map valueNumber)
      | .boolean => compareNumber (if readMap false maps.boolean key then 1 else 0) operator (values.map valueNumber)
      | .datetime =>
        compareNumber (readMap epoch maps.datetime key).1 operator ((values.filterMap (timeParameter clickhouse)).map (↑))
      | .enum => compareText clickhouse (readMap "" maps.enum key) operator (values.map valueText)
      | .textList =>
        let has (value : FilterValue) := (readMap [] maps.textList key).contains (valueText value)
        if operator = .containsAll then values.all has else values.any has

/-- `ratingStatusFilter` -/
def ratingStatusFilter (data : AnalyticsData) (query : ReportQuery) (kind : RatingKind) (operator : ReportFilterOperator)
    (values : List FilterValue) (eventId : String) : Bool :=
  let rated := data.ratings.filter fun rating =>
    query.from_ ≤ rating.eventTime.1 && rating.eventTime.1 < query.to_ && rating.applicationId = query.applicationId &&
      rating.ratingKind = kind
  let missing : Bool := operator = .isNotSet
  let statuses := groupBy (·.sourceEventId) rated |>.map fun group =>
    (group.1, (argMax RatingEventRow.status (fun r => (r.authorityOutboxId, r.ratingEventId)) group.2).getD "")
  let selected := statuses.filter fun status =>
    compareText clickhouse status.2 (if missing then .isSet else operator) (values.map valueText)
  (selected.any fun status => status.1 = eventId) != missing

def userTagFilter (tags : List String) (operator : ReportFilterOperator) (values : List FilterValue) : Bool :=
  match operator with
  | .isSet => !tags.isEmpty
  | .isNotSet => tags.isEmpty
  | .notEquals => values.all fun value => !tags.contains (valueText value)
  | _ => values.any fun value => tags.contains (valueText value)

/-- `compileCondition`, of a condition that was resolved. -/
def holdsCondition (data : AnalyticsData) (query : ReportQuery) (filter : ResolvedReportFilterCondition)
    (source : FilterSource) : Bool :=
  match filter.condition with
  | .property scope key operator values =>
    filter.dataType.any fun type => propertyFilter clickhouse (source.maps scope) type key operator values
  | .builtin field operator values =>
    match field with
    | .userGroup =>
      filter.userIds.any fun userIds =>
        if operator = .notEquals then !userIds.contains (source.column .userId) else userIds.contains (source.column .userId)
    | .costStatus => ratingStatusFilter clickhouse data query .providerCost operator values source.eventId
    | .aiuStatus => ratingStatusFilter clickhouse data query .aiu operator values source.eventId
    | .quotaStatus => compareText clickhouse source.quotaStatus operator (values.map valueText)
    | .userTag => userTagFilter source.userTags operator values
    | .latencyMs => source.latencyMs.any fun latency => compareNumber latency operator (values.map valueNumber)
    | field => compareText clickhouse (source.column field) operator (values.map valueText)

/-- What makes `compileCondition` or the query throw. -/
def checkCondition (filter : ResolvedReportFilterCondition) : Except ReportFailure Unit :=
  match filter.condition with
  | .property _ _ _ values =>
    match filter.dataType with
    | none => .error (thrownType "Property type was not resolved")
    | some type =>
      if type = .datetime ∧ ¬ values.all fun value => (timeParameter clickhouse value).isSome then
        .error (.serviceUnavailable "统计服务暂时不可用，请稍后重试")
      else .ok ()
  | .builtin field _ _ =>
    if field = .userGroup ∧ filter.userIds = none then .error (thrownType "User group members were not resolved") else .ok ()

def conditionKey : ReportFilterCondition → Option ReportBuiltInField × Option PropertyScope × String
  | .builtin field _ _ => (some field, none, "")
  | .property scope key _ _ => (none, some scope, key)

/-- `clickHouseFilters`: the conditions on one field are alternatives. -/
def matchesFilters (data : AnalyticsData) (query : ReportQuery) (source : FilterSource) : Bool :=
  let groups := groupBy (fun filter : ResolvedReportFilterCondition => conditionKey filter.condition) query.filters
  let holds (group : (Option ReportBuiltInField × Option PropertyScope × String) × List ResolvedReportFilterCondition) : Bool :=
    group.2.any fun filter => holdsCondition clickhouse data query filter source
  source.applicationId = query.applicationId && query.from_ ≤ source.eventTime.1 && source.eventTime.1 < query.to_ &&
    (query.filters.isEmpty || if query.filterMatch = .any then groups.any holds else groups.all holds)

end Comparison

/-! ## Rows -/

def noProperties : PropertyMaps := ⟨[], [], [], [], [], []⟩

def EventColumns.column (row : EventColumns) : ReportBuiltInField → String
  | .eventId => row.eventId
  | .requestId => row.requestId
  | .attemptId => row.attemptId
  | .operationId => row.operationId
  | .sessionId => row.sessionId
  | .conversationId => row.conversationId
  | .userId => row.userId
  | .displayUser => row.displayUser
  | .applicationVersion => row.applicationVersion
  | .sdkVersion => row.sdkVersion
  | .connectorVersion => row.connectorVersion
  | .configVersion => row.configVersion
  | .virtualModel => row.virtualModel
  | .modelId => row.modelId
  | .connectionId => row.connectionId
  | .connectionDriver => row.connectionDriver
  | .requestModel => row.requestModel
  | .provider => row.provider
  | .status => row.status
  | .schemaVersion => row.schemaVersion
  | .routeReason => row.routeReason
  | _ => ""

def UsageEventRow.source (row : UsageEventRow) : FilterSource where
  applicationId := row.applicationId
  eventTime := row.eventTime
  column := row.toEventColumns.column
  eventId := row.eventId
  userTags := row.userTags
  latencyMs := row.latencyMs
  quotaStatus := readMap "" row.analyticsDimensions "quota_status"
  event := row.eventProperties
  user := row.userProperties

/-- The fields by which ratings and aggregates can be filtered themselves. -/
def denormalizedFilterFields : List ReportBuiltInField :=
  [.modelId, .requestModel, .virtualModel, .connectionId, .connectionDriver, .provider, .routeReason]

def RatingEventRow.column (row : RatingEventRow) : ReportBuiltInField → String
  | .virtualModel => row.virtualModel
  | .modelId => row.modelId
  | .connectionId => row.connectionId
  | .connectionDriver => row.connectionDriver
  | .requestModel => row.requestModel
  | .provider => row.provider
  | .routeReason => row.routeReason
  | _ => ""

def RatingEventRow.source (row : RatingEventRow) : FilterSource where
  applicationId := row.applicationId
  eventTime := row.eventTime
  column := row.column
  eventId := ""
  userTags := []
  latencyMs := none
  quotaStatus := ""
  event := noProperties
  user := noProperties

def UsageAggregateRow.column (row : UsageAggregateRow) : ReportBuiltInField → String
  | .virtualModel => row.virtualModel
  | .modelId => row.modelId
  | .connectionId => row.connectionId
  | .connectionDriver => row.connectionDriver
  | .requestModel => row.requestModel
  | .provider => row.provider
  | .routeReason => row.routeReason
  | _ => ""

def UsageAggregateRow.source (row : UsageAggregateRow) : FilterSource where
  applicationId := row.applicationId
  eventTime := row.bucketStart
  column := row.column
  eventId := ""
  userTags := []
  latencyMs := none
  quotaStatus := ""
  event := noProperties
  user := noProperties

/-! ## Queries -/

section Selections

variable (clickhouse : ClickHouse) (data : AnalyticsData) (query : ReportQuery)

/-- The events of the `WHERE` clause. -/
def matchingEvents : List UsageEventRow := data.events.filter fun row => matchesFilters clickhouse data query row.source

/-- A matching event is of the query's application. -/
theorem matchingEvents_application {event : UsageEventRow} (h : event ∈ matchingEvents clickhouse data query) :
    event.applicationId = query.applicationId := by
  have hmatches := (List.mem_filter.mp h).2
  unfold matchesFilters at hmatches
  simp only [Bool.and_eq_true, decide_eq_true_eq] at hmatches
  exact hmatches.1.1.1

def matchingRatings : List RatingEventRow := data.ratings.filter fun row => matchesFilters clickhouse data query row.source

def matchingAggregates : List UsageAggregateRow :=
  data.aggregates.filter fun row => matchesFilters clickhouse data query row.source

/-- `ratingRange` -/
def inRatingRange (row : RatingEventRow) : Bool :=
  query.from_ ≤ row.eventTime.1 && row.eventTime.1 < query.to_ && row.applicationId = query.applicationId

/-- A query is run only when its conditions compile. -/
def execute {α : Type} (result : Except ReportFailure α) : Except ReportFailure α := do
  query.filters.forM (checkCondition clickhouse)
  result

end Selections

end TokenPilot.Reports
