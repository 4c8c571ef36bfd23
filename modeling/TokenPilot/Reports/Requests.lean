/-
  TokenPilot.Reports.Requests — the queries that the pages of a report are asked with
  (`parseReportQuery` and `resolveReportProperties` at a cursor).

  A page is asked for by the request of the first page with a cursor. Its query is that of the
  first page with what the cursor is read to (`reportQuery_at`): neither the conditions nor the
  grouping of a query depend on where it stands.
-/

import TokenPilot.Reports.Output

namespace TokenPilot.Reports

open TokenPilot.Library

/-! ## The queries of the pages -/

def ReportRequest.at (request : ReportRequest) (cursor : Option String) : ReportRequest := { request with cursor }

def ReportQuery.at (query : ReportQuery) (usageCursor : Option UsageCursor) (groupCursor : Option GroupCursor) : ReportQuery :=
  { query with usageCursor, groupCursor }

theorem withApplicationTimezone_at (service : ReportService) (applicationId : String) (request : ReportRequest)
    (cursor : Option String) :
    withApplicationTimezone service applicationId (request.at cursor) =
      (withApplicationTimezone service applicationId request).map fun localized => localized.at cursor := by
  obtain ⟨_, _, timezone, _, _, _, _, _, _, _, _, _, _, _, _⟩ := request
  cases timezone with
  | some timezone => rfl
  | none =>
    unfold withApplicationTimezone ReportRequest.at
    simp only
    cases service.database.timezones.lookup applicationId <;> rfl

theorem resolveReportProperties_at (database : ReportDatabase) (query : ReportQuery) (usageCursor : Option UsageCursor)
    (groupCursor : Option GroupCursor) :
    resolveReportProperties database (query.at usageCursor groupCursor) =
      (resolveReportProperties database query).map fun resolved => resolved.at usageCursor groupCursor := by
  unfold resolveReportProperties ReportQuery.at
  cases query.filters.mapM (resolveFilter database query.applicationId) with
  | error failure => rfl
  | ok filters =>
    simp only [bind, Except.bind]
    cases query.groupProperty with
    | none => rfl
    | some group =>
      simp only
      cases resolveGroup database query.applicationId group <;> rfl

theorem parseReportQuery_at (platform : Analytics.Platform) (request : ReportRequest) {pagination : ReportPagination}
    (hpaged : pagination ≠ .none) (applicationId : String) : ∃ query,
      query.pageSize = request.pageSize ∧ query.knownUsageTotal = none ∧
      (query.groupDimension = .property ↔ query.groupProperty.isSome = true) ∧ ∀ cursor : Option String,
        parseReportQuery platform (request.at cursor) pagination applicationId = do
          let usageCursor ← usageCursorText platform pagination (cursor.filter (· ≠ ""))
          let groupCursor ← groupCursorText pagination (groupCursorDimension query) (cursor.filter (· ≠ ""))
          return query.at usageCursor groupCursor := by
  refine ⟨{
    applicationId
    usageCursor := none
    groupCursor := none
    from_ := request.from_
    to_ := request.to_
    timezone := request.timezone.getD "UTC"
    pageSize := request.pageSize
    filterMatch := request.filterMatch
    filters := request.conditions.map fun condition => ⟨condition, none, none⟩
    metric := request.metric.getD .requests
    grain := request.grain
    groupDimension := request.groupDimension
    groupProperty := request.groupProperty
    groupDataType := none
    knownUsageTotal := none }, rfl, rfl, request.property, fun cursor => ?_⟩
  unfold parseReportQuery
  rw [if_neg fun h => hpaged h.1]
  rfl

theorem withApplicationTimezone_ok {service : ReportService} {applicationId : String} {request localized : ReportRequest}
    (h : withApplicationTimezone service applicationId request = .ok localized) :
    ∃ timezone, localized = { request with timezone } := by
  obtain ⟨_, _, timezone, _, _, _, _, _, _, _, _, _, _, _, _⟩ := request
  unfold withApplicationTimezone at h
  cases timezone with
  | some timezone =>
    cases h
    exact ⟨some timezone, rfl⟩
  | none =>
    simp only at h
    split at h
    · cases h
      exact ⟨_, rfl⟩
    · cases h

/-- A query is resolved in its filters and the type of its group. -/
theorem resolveReportProperties_ok {database : ReportDatabase} {query resolved : ReportQuery}
    (h : resolveReportProperties database query = .ok resolved) : ∃ filters groupDataType,
      query.filters.mapM (resolveFilter database query.applicationId) = .ok filters ∧
      (match query.groupProperty with
        | none => groupDataType = query.groupDataType
        | some group => ∃ type, resolveGroup database query.applicationId group = .ok type ∧ groupDataType = some type) ∧
      resolved = { query with filters, groupDataType } := by
  unfold resolveReportProperties at h
  cases hfilters : query.filters.mapM (resolveFilter database query.applicationId) with
  | error failure =>
    rw [hfilters] at h
    cases h
  | ok filters =>
    rw [hfilters] at h
    simp only [bind, Except.bind] at h
    cases hgroup : query.groupProperty with
    | none =>
      rw [hgroup] at h
      cases h
      exact ⟨filters, _, rfl, rfl, rfl⟩
    | some group =>
      rw [hgroup] at h
      simp only at h
      cases htype : resolveGroup database query.applicationId group with
      | error failure =>
        rw [htype] at h
        cases h
      | ok type =>
        rw [htype] at h
        cases h
        exact ⟨filters, some type, rfl, ⟨type, htype, rfl⟩, rfl⟩

/-- The query of a cursor is that of the first page, with what the cursor is read to. -/
theorem reportQuery_at {service : ReportService} {kind : ReportKind} {request : ReportRequest} {query : ReportQuery}
    (h : reportQuery service kind (request.at none) = .ok query) (hkind : kind.pagination ≠ .none) :
    query.pageSize = request.pageSize ∧ query.knownUsageTotal = none ∧ checkGroup query = .ok () ∧ query.at none none = query ∧
      ∀ cursor : Option String, reportQuery service kind (request.at cursor) = do
        let usageCursor ← usageCursorText service.platform kind.pagination (cursor.filter (· ≠ ""))
        let groupCursor ← groupCursorText kind.pagination (groupCursorDimension query) (cursor.filter (· ≠ ""))
        return query.at usageCursor groupCursor := by
  unfold reportQuery at h ⊢
  cases happlication : applicationContext service with
  | error failure =>
    rw [happlication] at h
    cases h
  | ok applicationId =>
    rw [happlication] at h
    simp only [bind, Except.bind, withApplicationTimezone_at] at h ⊢
    cases hlocalized : withApplicationTimezone service applicationId request with
    | error failure =>
      rw [hlocalized] at h
      cases h
    | ok localized =>
      rw [hlocalized] at h
      obtain ⟨parsed, hsize, htotal, hproperty, hparsed⟩ := parseReportQuery_at service.platform
        { localized with metric := defaultMetric kind localized.metric } hkind applicationId
      have hnone : resolveReportProperties service.database (parsed.at none none) = .ok query := by
        have hfirst := hparsed none
        simp only [Option.filter_none, usageCursorText, groupCursorText, bind, Except.bind, pure, Except.pure] at hfirst
        change (parseReportQuery service.platform (ReportRequest.at
          { localized with metric := defaultMetric kind localized.metric } none) kind.pagination applicationId).bind
            (resolveReportProperties service.database) = .ok query at h
        rw [hfirst] at h
        exact h
      rw [resolveReportProperties_at] at hnone
      cases hresolved : resolveReportProperties service.database parsed with
      | error failure =>
        rw [hresolved] at hnone
        cases hnone
      | ok resolved =>
        rw [hresolved] at hnone
        cases hnone
        obtain ⟨filters, groupDataType, -, hgroup, rfl⟩ := resolveReportProperties_ok hresolved
        have hchecked : checkGroup (ReportQuery.at { parsed with filters, groupDataType } none none) = .ok () := by
          unfold checkGroup ReportQuery.at
          simp only
          apply if_neg
          rintro ⟨hdimension, hmissing⟩
          obtain ⟨group, hsome⟩ := Option.isSome_iff_exists.mp (hproperty.mp hdimension)
          rw [hsome] at hgroup hmissing
          obtain ⟨type, -, htype⟩ := hgroup
          rw [htype] at hmissing
          rcases hmissing with hnone | hnone <;> cases hnone
        obtain ⟨timezone, rfl⟩ := withApplicationTimezone_ok hlocalized
        refine ⟨hsize, htotal, hchecked, rfl, fun cursor => ?_⟩
        change (parseReportQuery service.platform (ReportRequest.at
          { request with timezone, metric := defaultMetric kind request.metric } cursor) kind.pagination applicationId).bind
            (resolveReportProperties service.database) = _
        rw [hparsed cursor]
        change _ = (usageCursorText service.platform kind.pagination (cursor.filter (· ≠ ""))).bind fun usageCursor =>
          (groupCursorText kind.pagination (groupCursorDimension parsed) (cursor.filter (· ≠ ""))).bind fun groupCursor =>
            .ok (ReportQuery.at { parsed with filters, groupDataType } usageCursor groupCursor)
        cases usageCursorText service.platform kind.pagination (cursor.filter (· ≠ "")) with
        | error failure => rfl
        | ok usageCursor =>
          cases groupCursorText kind.pagination (groupCursorDimension parsed) (cursor.filter (· ≠ "")) with
          | error failure => rfl
          | ok groupCursor =>
            change resolveReportProperties service.database (parsed.at usageCursor groupCursor) = _
            rw [resolveReportProperties_at, hresolved]
            rfl

/-! ## A service and its events -/

/-- The functions of ClickHouse that a query in UTC without conditions calls. -/
def plainClickHouse : ClickHouse where
  positionCaseInsensitiveUTF8 _ _ := 0
  lowerUTF8 text := text
  intervalText _ _ time := timeText time
  trendText _ time := timeText time
  dateTimeParameter _ := none
  floatText number := valueText (.number number)
  percentText part whole := toString (part * 100 / whole)
  averageText values := toString (values.sum / values.length)

/-- The service of an application with one property. -/
def serviceOf (definition : PropertyDefinition) : ReportService where
  platform := ⟨fun _ => none, fun _ _ => false⟩
  clickhouse := plainClickHouse
  database := ⟨[definition], [], [(definition.applicationId, "UTC")], List.pairwise_singleton _ _⟩
  order _ _ := true
  applicationId := some definition.applicationId
  ready := .ok ()
  now := 0

/-- A day, one row on a page. -/
def requestOf (metric : Option ReportMetric) (group : Option ReportPropertyGroup) : ReportRequest where
  from_ := 0
  to_ := 86400000
  timezone := some "UTC"
  cursor := none
  pageSize := 1
  filterMatch := .all
  conditions := []
  metric
  grain := .day
  groupDimension := if group.isSome then .property else .modelId
  groupProperty := group
  range := by decide
  pageSizes := by decide
  valid := by decide
  property := by cases group <;> simp

def eventOf (id : String) (eventProperties : PropertyMaps) : UsageEventRow where
  applicationId := "app"
  eventId := id
  requestId := id
  attemptId := id
  attemptIndex := 0
  isFinalAttempt := true
  operationId := ""
  eventTime := epoch
  receivedAt := epoch
  insertedAt := epoch
  schemaVersion := "2"
  applicationVersion := ""
  sdkVersion := ""
  connectorVersion := ""
  configVersion := ""
  userId := "user"
  displayUser := ""
  userTags := []
  sessionId := ""
  conversationId := ""
  traceId := ""
  virtualModel := ""
  modelId := ""
  connectionId := ""
  connectionDriver := ""
  requestModel := "model"
  provider := ""
  status := "success"
  routeReason := ""
  fallbackFrom := ""
  latencyMs := none
  analyticsDimensions := []
  eventProperties
  userProperties := noProperties

end TokenPilot.Reports
