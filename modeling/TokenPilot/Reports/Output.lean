/-
  TokenPilot.Reports.Output — what leaves the service
  (apps/api/src/reports/usage-output.ts, reports.service.ts).

  A page of usage is masked: the values of sensitive properties are `[hidden]`. An export has
  columns for the properties that are not sensitive, and reads its pages until there is no
  cursor. The other reports are given as they were read.
-/

import TokenPilot.Reports.Summaries

namespace TokenPilot.Reports

open TokenPilot.Library
open TokenPilot.Analytics (Payload)

/-! ## The policy -/

structure UsagePropertyDefinition where
  key : String
  displayName : String
  scope : PropertyScope
  sensitive : Bool
  deriving DecidableEq

structure UsageOutputPolicy where
  definitions : List UsagePropertyDefinition
  sensitiveEventKeys : List String
  sensitiveUserKeys : List String

def sensitiveKeys (definitions : List UsagePropertyDefinition) (scope : PropertyScope) : List String :=
  (definitions.filter fun definition => definition.scope = scope && definition.sensitive).map UsagePropertyDefinition.key

/-- The definitions of an application, also of properties that are not active; `order` is that
    of their scopes, names and keys in the database. -/
def loadUsageOutputPolicy (order : UsagePropertyDefinition → UsagePropertyDefinition → Bool) (database : ReportDatabase)
    (applicationId : String) : UsageOutputPolicy :=
  let rows := database.definitions.filter fun definition => definition.applicationId = applicationId
  let definitions := (rows.map fun row => (⟨row.key, row.displayName, row.scope, row.sensitive⟩ : UsagePropertyDefinition)
    ).insertionSort fun a b => order a b
  ⟨definitions, sensitiveKeys definitions .event, sensitiveKeys definitions .user⟩

/-! ## Masks -/

def hiddenValue : Payload := .str "[hidden]"

def maskProperties (properties : ItemProperties) (sensitiveKeys : List String) : ItemProperties :=
  properties.map fun f => (f.1, if sensitiveKeys.contains f.1 then hiddenValue else f.2)

def maskUsageItem (policy : UsageOutputPolicy) (item : UsageReportItem) : UsageReportItem :=
  { item with
    eventProperties := maskProperties item.eventProperties policy.sensitiveEventKeys
    userProperties := maskProperties item.userProperties policy.sensitiveUserKeys }

def maskUsagePage (policy : UsageOutputPolicy) (page : UsagePageEnvelope) : UsagePageEnvelope :=
  { page with items := page.items.map (maskUsageItem policy) }

/-! ## CSV -/

/-- `String(value)` -/
def payloadText : Payload → String
  | .null => "null"
  | .bool b => if b then "true" else "false"
  | .num n => n.text
  | .str s => s
  | value => Analytics.stringify value

def csvValue : Option Payload → String
  | none | some .null => ""
  | some (.arr items) => "; ".intercalate (items.map payloadText)
  | some value => payloadText value

/-- `/^[\s]*[=+\-@]/u` or `/^[\t\r]/u` -/
def formulaPattern (t : List Char) : Bool :=
  ((t.dropWhile Runtime.jsSpace).head?.any ("=+-@".toList.contains ·)) || t.head?.any ("\t\r".toList.contains ·)

def csvCell (value : Option Payload) : String :=
  let text := (csvValue value).toList
  let safe := if formulaPattern text then '\'' :: text else text
  String.ofList ('"' :: safe.flatMap (fun c => if c = '"' then ['"', '"'] else [c]) ++ ['"'])

structure CsvColumn where
  header : String
  value : UsageReportItem → Option Payload

def textCell (s : String) : Option Payload := some (.str s)

def nullableCell (s : Option String) : Option Payload := s.map .str

def builtInColumns : List CsvColumn :=
  [⟨"时间", fun item => textCell item.eventTime⟩,
    ⟨"接收时间", fun item => nullableCell item.receivedAt⟩,
    ⟨"用户 ID", fun item => textCell item.userId⟩,
    ⟨"用户名", fun item => nullableCell item.displayUser⟩,
    ⟨"请求 ID", fun item => textCell item.requestId⟩,
    ⟨"事件 ID", fun item => textCell item.eventId⟩,
    ⟨"尝试 ID", fun item => textCell item.attemptId⟩,
    ⟨"操作 ID", fun item => nullableCell item.operationId⟩,
    ⟨"会话 ID", fun item => nullableCell item.sessionId⟩,
    ⟨"对话 ID", fun item => nullableCell item.conversationId⟩,
    ⟨"链路 ID", fun item => nullableCell item.traceId⟩,
    ⟨"虚拟模型", fun item => nullableCell item.virtualModel⟩,
    ⟨"模型 ID", fun item => nullableCell item.modelId⟩,
    ⟨"模型", fun item => textCell item.requestModel⟩,
    ⟨"模型服务", fun item => nullableCell item.provider⟩,
    ⟨"结果", fun item => textCell item.status⟩,
    ⟨"调用原因", fun item => nullableCell item.routeReason⟩,
    ⟨"降级来源", fun item => nullableCell item.fallbackFrom⟩,
    ⟨"耗时（毫秒）", fun item => item.latencyMs.map Analytics.count⟩,
    ⟨"输入 Token", fun item => textCell item.inputTokens⟩,
    ⟨"缓存输入 Token", fun item => textCell item.cachedInputTokens⟩,
    ⟨"输出 Token", fun item => textCell item.outputTokens⟩,
    ⟨"推理输出 Token", fun item => textCell item.reasoningOutputTokens⟩,
    ⟨"Token 合计", fun item => textCell item.totalTokens⟩,
    ⟨"成本状态", fun item => nullableCell item.providerCostStatus⟩,
    ⟨"模型花费", fun item => nullableCell item.providerCostAmount⟩,
    ⟨"币种", fun item => nullableCell item.providerCostCurrency⟩,
    ⟨"AIU 状态", fun item => nullableCell item.aiuStatus⟩,
    ⟨"AIU 微单位", fun item => nullableCell item.aiuMicros⟩,
    ⟨"是否计入 AIU", fun item => item.aiuChargeable.map .bool⟩,
    ⟨"额度结果", fun item => nullableCell item.quotaStatus⟩,
    ⟨"数据格式版本", fun item => textCell item.schemaVersion⟩,
    ⟨"应用版本", fun item => nullableCell item.applicationVersion⟩,
    ⟨"SDK 版本", fun item => nullableCell item.sdkVersion⟩,
    ⟨"接入版本", fun item => nullableCell item.connectorVersion⟩,
    ⟨"配置版本", fun item => nullableCell item.configVersion⟩]

def UsageReportItem.properties (item : UsageReportItem) : PropertyScope → ItemProperties
  | .event => item.eventProperties
  | .user => item.userProperties

def propertyColumn (definition : UsagePropertyDefinition) : CsvColumn where
  header := (if definition.scope = .event then "事件字段" else "用户字段") ++ "：" ++ definition.displayName
  value item := (item.properties definition.scope).lookup definition.key

def csvColumns (policy : UsageOutputPolicy) : List CsvColumn :=
  builtInColumns ++ (policy.definitions.filter fun definition => !definition.sensitive).map propertyColumn

def usageCsvHeader (policy : UsageOutputPolicy) : String :=
  "\uFEFF" ++ ",".intercalate ((csvColumns policy).map fun column => csvCell (textCell column.header)) ++ "\n"

def usageItemsToCsvRows (items : List UsageReportItem) (policy : UsageOutputPolicy) : String :=
  if items.isEmpty then ""
  else "\n".intercalate (items.map fun item =>
    ",".intercalate ((csvColumns policy).map fun column => csvCell (column.value item))) ++ "\n"

/-! ## The service -/

inductive ReportKind where
  | overview
  | usage
  | activity
  | providerCost
  | aiu
  | cache
  | fallback
  | dimensions
  | pipelineHealth
  deriving DecidableEq, Repr

inductive ReportData where
  | overview (data : OverviewReportData)
  | usage (page : UsagePageEnvelope)
  | activity (data : ActivityReportData)
  | providerCost (data : ProviderCostReportData)
  | aiu (data : AiuReportData)
  | cache (rows : List (String × Nat))
  | fallback (rows : List ((String × String × String) × Nat))
  | dimensions (rows : List ((String × String) × Nat))
  | pipelineHealth (data : PipelineHealthReportData)

structure ReportRange where
  from_ : String
  to_ : String
  timezone : String

structure ReportEnvelope where
  watermark : Option String
  lagSeconds : Option Nat
  range : ReportRange
  data : ReportData

/-- What a request is answered with: the application of its context, the clock of ClickHouse,
    and whether the services it depends on are ready. -/
structure ReportService where
  platform : Analytics.Platform
  clickhouse : ClickHouse
  database : ReportDatabase
  order : UsagePropertyDefinition → UsagePropertyDefinition → Bool
  applicationId : Option String
  ready : Except ReportFailure Unit
  now : Int

def ReportKind.pagination : ReportKind → ReportPagination
  | .usage => .usage
  | .activity => .groups .activity
  | .providerCost => .groups .providerCost
  | .aiu => .groups .aiu
  | _ => .none

def activityMetrics : List ReportMetric := [.requests, .tokens, .uniqueUsers, .successRate, .averageLatency]

def checkMetric (kind : ReportKind) (metric : ReportMetric) : Except ReportFailure Unit :=
  match kind with
  | .activity => if activityMetrics.contains metric then .ok () else .error (.badRequest "这个指标不适用于调用分析")
  | .providerCost => if metric = .providerCost then .ok () else .error (.badRequest "模型花费页面只支持模型花费指标")
  | .aiu => if metric = .aiu then .ok () else .error (.badRequest "AIU 页面只支持 AIU 用量指标")
  | _ => .ok ()

def defaultMetric (kind : ReportKind) (metric : Option ReportMetric) : Option ReportMetric :=
  match metric, kind with
  | none, .providerCost => some .providerCost
  | none, .aiu => some .aiu
  | metric, _ => metric

def withApplicationTimezone (service : ReportService) (applicationId : String) (request : ReportRequest) :
    Except ReportFailure ReportRequest :=
  match request.timezone with
  | some _ => .ok request
  | none =>
    match service.database.timezones.lookup applicationId with
    | some timezone => .ok { request with timezone := some timezone }
    | none => .error (.forbidden "Application not found")

def applicationContext (service : ReportService) : Except ReportFailure String :=
  match service.applicationId with
  | some applicationId => .ok applicationId
  | none => .error (.forbidden "An application context is required")

/-- The query of a report, resolved. -/
def reportQuery (service : ReportService) (kind : ReportKind) (request : ReportRequest) : Except ReportFailure ReportQuery := do
  let applicationId ← applicationContext service
  let localized ← withApplicationTimezone service applicationId request
  let parsed ← parseReportQuery service.platform { localized with metric := defaultMetric kind localized.metric }
    kind.pagination applicationId
  resolveReportProperties service.database parsed

/-- `analyticsData` -/
def analyticsData (service : ReportService) (data : AnalyticsData) (kind : ReportKind) (query : ReportQuery) :
    Except ReportFailure ReportData :=
  match kind with
  | .overview => (queryAnalyticsOverview service.platform service.clickhouse data query).map .overview
  | .usage => (queryAnalyticsUsage service.platform service.clickhouse data query).map .usage
  | .activity => (queryAnalyticsActivity service.clickhouse data query).map .activity
  | .providerCost => (queryAnalyticsProviderCost service.clickhouse data query).map .providerCost
  | .aiu => (queryAnalyticsAiu service.clickhouse data query).map .aiu
  | .cache => (cacheReport service.clickhouse data query).map .cache
  | .fallback => (fallbackReport service.clickhouse data query).map .fallback
  | .dimensions => (dimensionsReport service.clickhouse data query).map .dimensions
  | .pipelineHealth => (queryAnalyticsPipelineHealth service.platform service.clickhouse data query).map .pipelineHealth

def maskData (policy : UsageOutputPolicy) : ReportData → ReportData
  | .usage page => .usage (maskUsagePage policy page)
  | data => data

/-- `reportEnvelopeSchema` -/
def validEnvelope (envelope : ReportEnvelope) : Bool :=
  (envelope.watermark.all Runtime.isRealUtcDateTime) && (envelope.lagSeconds.all fun n => decide (n ≤ 9007199254740991)) &&
    Runtime.isRealUtcDateTime envelope.range.from_ && Runtime.isRealUtcDateTime envelope.range.to_ &&
    Runtime.bounded 1 128 envelope.range.timezone &&
    match Runtime.compareUtcDateTimes envelope.range.from_ envelope.range.to_ with
    | .ok order => decide (order < 0)
    | .error _ => false

def report (service : ReportService) (data : AnalyticsData) (kind : ReportKind) (request : ReportRequest) :
    Except ReportFailure ReportEnvelope := do
  let query ← reportQuery service kind request
  checkMetric kind query.metric
  service.ready
  let rawData ← analyticsData service data kind query
  let evidence ← queryWatermark service.platform service.clickhouse data query service.now
  let policy := loadUsageOutputPolicy service.order service.database query.applicationId
  let envelope : ReportEnvelope :=
    { watermark := evidence.watermark
      lagSeconds := evidence.lagSeconds
      range := ⟨Runtime.isoString query.from_, Runtime.isoString query.to_, query.timezone⟩
      data := maskData policy rawData }
  if validEnvelope envelope then return envelope else throw .invalidEnvelope

/-! ## Exports -/

def maxExportRows : Nat := 100000

def tooManyRows : ReportFailure := .payloadTooLarge "筛选结果超过 100,000 条，请缩小时间范围或增加筛选条件"

/-- What was written of an export, and what it broke off with. -/
structure ExportStream where
  chunks : List String
  failure : Option ReportFailure

section Export

variable (service : ReportService) (data : AnalyticsData) (query : ReportQuery) (policy : UsageOutputPolicy)

/-- The page after a cursor of an export. -/
def exportPage (total : Nat) (cursor : String) : Except ReportFailure UsagePageEnvelope := do
  let usageCursor ← decodeUsageCursor service.platform cursor
  queryAnalyticsUsage service.platform service.clickhouse data
    { query with usageCursor := some usageCursor, knownUsageTotal := some total }

/-- The pages of an export; no more than the rows of one are read after the first, since a page
    with a cursor has a row. -/
def exportRows (total : Nat) : Nat → Nat → Option String → UsagePageEnvelope → ExportStream
  | 0, _, _, _ => ⟨[], some tooManyRows⟩
  | pages + 1, exportedRows, cursor, page =>
    let exported := exportedRows + page.items.length
    if maxExportRows < exported then ⟨[], some tooManyRows⟩
    else
      let rows := usageItemsToCsvRows (page.items.map (maskUsageItem policy)) policy
      match page.nextCursor with
      | none => ⟨[rows], none⟩
      | some next =>
        if some next = cursor then ⟨[rows], some (.serviceUnavailable "导出暂时无法继续，请稍后重试")⟩
        else
          match exportPage service data query total next with
          | .error failure => ⟨[rows], some failure⟩
          | .ok following =>
            let stream := exportRows total pages exported (some next) following
            ⟨rows :: stream.chunks, stream.failure⟩

end Export

def exportUsage (service : ReportService) (data : AnalyticsData) (request : ReportRequest) :
    Except ReportFailure ExportStream := do
  if request.cursor.isSome then throw (.badRequest "导出会从第一条匹配记录开始，不接受分页位置")
  let applicationId ← applicationContext service
  let localized ← withApplicationTimezone service applicationId request
  let parsed ← parseReportQuery service.platform localized .usage applicationId
  let resolved ← resolveReportProperties service.database parsed
  let query := { resolved with pageSize := 200, usageCursor := none }
  service.ready
  let policy := loadUsageOutputPolicy service.order service.database applicationId
  let firstPage ← queryAnalyticsUsage service.platform service.clickhouse data query
  if maxExportRows < firstPage.total then throw tooManyRows
  let stream := exportRows service data query policy firstPage.total (maxExportRows + 2) 0 none firstPage
  return ⟨usageCsvHeader policy :: stream.chunks, stream.failure⟩

end TokenPilot.Reports
