/-
  TokenPilot.Reports.Privacy — sensitive values never reach what the service answers.

  Of data that agree (Reports.Agreement) a query selects rows that agree. The reports that are
  grouped or summed up are made of columns and of groups by visible properties, so they are
  equal; the pages of usage are equal once they are masked, and with them each part of an export.

  Main result: `sensitive_values_hidden`. Every report and every export of such data is the same,
  or fails in the same way.
-/

import TokenPilot.Reports.Agreement

namespace TokenPilot.Reports

open TokenPilot.Library
open TokenPilot.Analytics (Payload)

/-! ## The mask -/

theorem mem_sensitiveKeys {order : UsagePropertyDefinition → UsagePropertyDefinition → Bool} {database : ReportDatabase}
    {applicationId : String} {scope : PropertyScope} {key : String} :
    key ∈ sensitiveKeys (loadUsageOutputPolicy order database applicationId).definitions scope ↔
      key ∈ hiddenKeys database applicationId scope := by
  rw [mem_hiddenKeys]
  unfold sensitiveKeys loadUsageOutputPolicy
  simp only [List.mem_map, List.mem_filter, List.mem_insertionSort, Bool.and_eq_true, decide_eq_true_eq]
  constructor
  · rintro ⟨_, ⟨⟨definition, ⟨hdefinition, happlication⟩, rfl⟩, hscope, hsensitive⟩, rfl⟩
    exact ⟨definition, hdefinition, happlication, hscope, hsensitive, rfl⟩
  · rintro ⟨definition, hdefinition, happlication, hscope, hsensitive, rfl⟩
    exact ⟨_, ⟨⟨definition, ⟨hdefinition, happlication⟩, rfl⟩, hscope, hsensitive⟩, rfl⟩

theorem AgreeMap.map {α : Type} {hidden : List String} {map map' : List (String × α)} (h : AgreeMap hidden map map')
    (value : α → Payload) : AgreeMap hidden (map.map fun f => (f.1, value f.2)) (map'.map fun f => (f.1, value f.2)) := by
  unfold AgreeMap
  rw [List.forall₂_map_left_iff, List.forall₂_map_right_iff]
  exact h.imp fun f f' hf => ⟨hf.1, fun hvisible => congrArg value (hf.2 hvisible)⟩

theorem AgreeMap.assignField {hidden : List String} {target target' : ItemProperties} (h : AgreeMap hidden target target')
    {key : String} {value value' : Payload} (hvalue : key ∉ hidden → value = value') :
    AgreeMap hidden (assignField target key value) (assignField target' key value') := by
  have hany : (target.any fun f => f.1 = key) = target'.any fun f => f.1 = key := by
    induction h with
    | nil => rfl
    | cons hf _ ih => rw [List.any_cons, List.any_cons, ih, hf.1]
  unfold Reports.assignField
  by_cases hproto : key = "__proto__"
  · rw [if_pos hproto, if_pos hproto]
    exact h
  · rw [if_neg hproto, if_neg hproto, hany]
    split
    · unfold AgreeMap
      rw [List.forall₂_map_left_iff, List.forall₂_map_right_iff]
      refine h.imp fun f f' hf => ?_
      by_cases hkey : f.1 = key
      · rw [if_pos hkey, if_pos (hf.1.symm.trans hkey)]
        exact ⟨rfl, hvalue⟩
      · rw [if_neg hkey, if_neg fun hkey' => hkey (hf.1.trans hkey')]
        exact hf
    · exact List.rel_append h (.cons ⟨rfl, hvalue⟩ .nil)

theorem AgreeMap.assignAll {hidden : List String} {target target' source source' : ItemProperties}
    (h : AgreeMap hidden target target') (hsource : AgreeMap hidden source source') :
    AgreeMap hidden (assignAll target source) (assignAll target' source') := by
  unfold Reports.assignAll
  induction hsource generalizing target target' with
  | nil => exact h
  | @cons f f' _ _ hf _ ih =>
    rw [List.foldl_cons, List.foldl_cons, ← hf.1]
    exact ih (h.assignField hf.2)

theorem itemProperties_agree {hidden : List String} {maps maps' : PropertyMaps} (h : maps.Agree hidden maps') :
    AgreeMap hidden (itemProperties maps) (itemProperties maps') := by
  unfold itemProperties
  exact (((((AgreeMap.assignAll .nil (h.text.map .str)).assignAll (h.number.map fun d => .num (.finite d))).assignAll
    (h.boolean.map .bool)).assignAll (h.datetime.map fun t => .str (timeText t))).assignAll (h.enum.map .str)).assignAll
      (h.textList.map fun values => .arr (values.map .str))

/-- What is masked is equal. -/
theorem maskProperties_agree {hidden keys : List String} (hkeys : ∀ key, key ∈ keys ↔ key ∈ hidden)
    {properties properties' : ItemProperties} (h : AgreeMap hidden properties properties') :
    maskProperties properties keys = maskProperties properties' keys := by
  unfold maskProperties
  induction h with
  | nil => rfl
  | @cons f f' _ _ hf _ ih =>
    rw [List.map_cons, List.map_cons, ih]
    congr 1
    by_cases hkey : f.1 ∈ keys
    · rw [if_pos (List.contains_iff_mem.mpr hkey), if_pos (List.contains_iff_mem.mpr (hf.1 ▸ hkey)), hf.1]
    · have hvisible : f.1 ∉ hidden := fun h => hkey ((hkeys _).mpr h)
      rw [hf.2 hvisible, hf.1]

/-! ## Items -/

section Items

variable {service : ReportService} {applicationId : String}

/-- The policy of an application. -/
abbrev ReportService.policy (service : ReportService) (applicationId : String) : UsageOutputPolicy :=
  loadUsageOutputPolicy service.order service.database applicationId

/-- Rows of events that agree, with the same ratings and lines. -/
structure UsageRow.Agree (database : ReportDatabase) (row row' : UsageRow) : Prop where
  event : row.event.Agree database row'.event
  ratings : row.ratings = row'.ratings
  lines : row.lines = row'.lines

theorem map_bind_congr {ε α β γ : Type} {x : Except ε α} {f f' : α → Except ε β} {g : β → γ}
    (h : ∀ a, (f a).map g = (f' a).map g) : (x >>= f).map g = (x >>= f').map g := by
  cases x with
  | error e => rfl
  | ok a => exact h a

/-- Results that are equal under a map are errors alike, or equal under the map. -/
theorem map_eq_map {ε α β : Type} {g : α → β} {x y : Except ε α} (h : x.map g = y.map g) :
    (∃ e, x = .error e ∧ y = .error e) ∨ ∃ a b, x = .ok a ∧ y = .ok b ∧ g a = g b := by
  cases x with
  | error e =>
    cases y with
    | error e' =>
      cases h
      exact .inl ⟨e, rfl, rfl⟩
    | ok b => cases h
  | ok a =>
    cases y with
    | error e => cases h
    | ok b => exact .inr ⟨a, b, rfl, rfl, Except.ok.inj h⟩

/-- An item is refused by its columns, and masked its properties do not differ. -/
theorem usageReportItem_agree (platform : Analytics.Platform) {row row' : UsageRow} (h : row.Agree service.database row')
    (happlication : row.event.applicationId = applicationId) :
    (usageReportItem platform row).map (maskUsageItem (service.policy applicationId)) =
      (usageReportItem platform row').map (maskUsageItem (service.policy applicationId)) := by
  have hevent := itemProperties_agree (h.event.maps .event)
  have huser := itemProperties_agree (h.event.maps .user)
  rw [happlication] at hevent huser
  have hevent' := @maskProperties_agree _ (service.policy applicationId).sensitiveEventKeys
    (fun _ => mem_sensitiveKeys) _ _ hevent
  have huser' := @maskProperties_agree _ (service.policy applicationId).sensitiveUserKeys
    (fun _ => mem_sensitiveKeys) _ _ huser
  obtain ⟨⟨columns, event, user⟩, ratings, lines⟩ := row
  obtain ⟨⟨columns', event', user'⟩, ratings', lines'⟩ := row'
  obtain rfl : columns = columns' := h.event.columns
  obtain rfl : ratings = ratings' := h.ratings
  obtain rfl : lines = lines' := h.lines
  simp only [UsageEventRow.maps] at hevent' huser'
  unfold usageReportItem
  simp only [reportInstant_text]
  refine map_bind_congr fun eventTime => ?_
  refine map_bind_congr fun eventId => ?_
  refine map_bind_congr fun requestId => ?_
  refine map_bind_congr fun attemptId => ?_
  refine map_bind_congr fun schemaVersion => ?_
  refine map_bind_congr fun status => ?_
  refine map_bind_congr fun userId => ?_
  refine map_bind_congr fun requestModel => ?_
  refine map_bind_congr fun latencyMs => ?_
  unfold maskUsageItem
  simp only [pure, Except.pure, Except.map, hevent', huser']

theorem usageItems_agree (platform : Analytics.Platform) {rows rows' : List UsageRow}
    (h : List.Forall₂ (UsageRow.Agree service.database) rows rows')
    (happlication : ∀ row ∈ rows, row.event.applicationId = applicationId) :
    (rows.mapM (usageReportItem platform)).map (List.map (maskUsageItem (service.policy applicationId))) =
      (rows'.mapM (usageReportItem platform)).map (List.map (maskUsageItem (service.policy applicationId))) := by
  induction h with
  | nil => rfl
  | @cons row row' rows rows' hrow _ ih =>
    have hitem := usageReportItem_agree platform hrow (happlication row (by simp))
    have hitems := ih fun other hother => happlication other (by simp [hother])
    rw [List.mapM_cons, List.mapM_cons]
    rcases map_eq_map hitem with ⟨failure, hfirst, hfirst'⟩ | ⟨item, item', hfirst, hfirst', hmasked⟩
    · rw [hfirst, hfirst']
      rfl
    · rcases map_eq_map hitems with ⟨failure, hrest, hrest'⟩ | ⟨items, items', hrest, hrest', hmaskeds⟩
      · rw [hfirst, hfirst', hrest, hrest']
        rfl
      · rw [hfirst, hfirst', hrest, hrest']
        simp only [bind, Except.bind, pure, Except.pure, Except.map, List.map_cons, hmasked, hmaskeds]

/-- A cursor names what the mask leaves. -/
theorem nextUsageCursor_masked (policy : UsageOutputPolicy) (query : ReportQuery) (items : List UsageReportItem) (total : Nat) :
    nextUsageCursor query (items.map (maskUsageItem policy)) total = nextUsageCursor query items total := by
  unfold nextUsageCursor
  rw [List.getLast?_map, List.length_map]
  cases items.getLast? <;> rfl

end Items

/-! ## Pages -/

theorem forall₂_orderedInsert {α : Type} {R : α → α → Prop} {le : α → α → Prop} [DecidableRel le]
    (hle : ∀ a a' b b', R a a' → R b b' → (le a b ↔ le a' b')) {a a' : α} (ha : R a a') {l l' : List α}
    (h : List.Forall₂ R l l') : List.Forall₂ R (l.orderedInsert le a) (l'.orderedInsert le a') := by
  induction h with
  | nil => exact .cons ha .nil
  | @cons b b' l l' hb hl ih =>
    rw [List.orderedInsert_cons, List.orderedInsert_cons]
    by_cases hab : le a b
    · rw [if_pos hab, if_pos ((hle a a' b b' ha hb).mp hab)]
      exact .cons ha (.cons hb hl)
    · rw [if_neg hab, if_neg fun hab' => hab ((hle a a' b b' ha hb).mpr hab')]
      exact .cons hb ih

theorem forall₂_insertionSort {α : Type} {R : α → α → Prop} {le : α → α → Prop} [DecidableRel le]
    (hle : ∀ a a' b b', R a a' → R b b' → (le a b ↔ le a' b')) {l l' : List α} (h : List.Forall₂ R l l') :
    List.Forall₂ R (l.insertionSort le) (l'.insertionSort le) := by
  induction h with
  | nil => exact .nil
  | cons ha _ ih => exact forall₂_orderedInsert hle ha ih

section Pages

variable {service : ReportService} {data data' : AnalyticsData} {query : ReportQuery}

theorem UsageEventRow.Agree.place {database : ReportDatabase} {row row' : UsageEventRow} (h : row.Agree database row') :
    row.place = row'.place := by
  obtain ⟨columns, event, user⟩ := row
  obtain ⟨columns', event', user'⟩ := row'
  obtain rfl : columns = columns' := h.columns
  rfl

theorem pageEvents_agree (clickhouse : ClickHouse) {database : ReportDatabase} (h : data.Agree database data')
    (hvisible : Visible database query) (cursor : Option (Int × String)) :
    List.Forall₂ (UsageEventRow.Agree database) (pageEvents clickhouse data query cursor)
      (pageEvents clickhouse data' query cursor) := by
  have hrows : List.Forall₂ (UsageEventRow.Agree database) (newestFirst (matchingEvents clickhouse data query))
      (newestFirst (matchingEvents clickhouse data' query)) := by
    refine forall₂_insertionSort (fun _ _ _ _ ha hb => ?_) (matchingEvents_agree clickhouse h hvisible)
    rw [ha.place, hb.place]
  unfold pageEvents
  refine List.forall₂_take _ ?_
  cases cursor with
  | none => exact hrows
  | some place => exact List.rel_filter (fun row row' hrow => by simp only [hrow.place]) hrows

/-- The joins of a page go by the columns of its events. -/
theorem usageRows_agree {database : ReportDatabase} (h : data.Agree database data') {page page' : List UsageEventRow}
    (hpage : List.Forall₂ (UsageEventRow.Agree database) page page') :
    List.Forall₂ (UsageRow.Agree database) (usageRows data query page) (usageRows data' query page') := by
  have hany (time : DateTime64) (id : String) :
      (page.any fun e => e.eventTime = time ∧ e.eventId = id) = page'.any fun e => e.eventTime = time ∧ e.eventId = id := by
    induction hpage with
    | nil => rfl
    | cons hrow _ ih => rw [List.any_cons, List.any_cons, ih, hrow.columns]
  unfold usageRows
  rw [h.ratings, h.lines, List.forall₂_map_left_iff, List.forall₂_map_right_iff]
  refine hpage.imp fun row row' hrow => ⟨hrow, ?_, ?_⟩
  · simp only [hany, hrow.columns]
  · simp only [hany, hrow.columns]

theorem queryAnalyticsUsage_agree (h : data.Agree service.database data') (hvisible : Visible service.database query) :
    (queryAnalyticsUsage service.platform service.clickhouse data query).map (maskUsagePage (service.policy query.applicationId)) =
      (queryAnalyticsUsage service.platform service.clickhouse data' query).map
        (maskUsagePage (service.policy query.applicationId)) := by
  unfold queryAnalyticsUsage execute
  refine map_bind_congr fun _ => ?_
  refine map_bind_congr fun cursor => ?_
  have hpage := pageEvents_agree service.clickhouse h hvisible cursor
  have happlication : ∀ row ∈ usageRows data query (pageEvents service.clickhouse data query cursor),
      row.event.applicationId = query.applicationId := by
    intro row hrow
    obtain ⟨event, hevent, rfl⟩ := List.mem_map.mp hrow
    refine matchingEvents_application service.clickhouse data query ?_
    unfold pageEvents at hevent
    have hsorted := List.mem_of_mem_take hevent
    have hmem : event ∈ newestFirst (matchingEvents service.clickhouse data query) := by
      cases cursor with
      | none => exact hsorted
      | some place => exact List.mem_of_mem_filter hsorted
    exact (List.perm_insertionSort _ _).mem_iff.mp hmem
  have hitems := usageItems_agree service.platform (@usageRows_agree _ _ query _ h _ _ hpage) happlication
  have htotal : usageTotal service.clickhouse data query = usageTotal service.clickhouse data' query := by
    unfold usageTotal
    rw [matchingEvents_length service.clickhouse h hvisible]
  rw [htotal]
  rcases map_eq_map hitems with ⟨failure, hread, hread'⟩ | ⟨items, items', hread, hread', hmasked⟩
  · rw [hread, hread']
  · rw [hread, hread']
    have hnext (total : Nat) : nextUsageCursor query items total = nextUsageCursor query items' total := by
      rw [← nextUsageCursor_masked (service.policy query.applicationId), hmasked, nextUsageCursor_masked]
    cases reportCount (usageTotal service.clickhouse data' query) with
    | error failure => rfl
    | ok total => simp only [bind, Except.bind, pure, Except.pure, Except.map, maskUsagePage, hmasked, hnext]

end Pages

/-! ## The other reports -/

section Reports

variable (platform : Analytics.Platform) (clickhouse : ClickHouse) {database : ReportDatabase} {data data' : AnalyticsData}
  {query : ReportQuery}

theorem ratingsOf_agree (h : data.Agree database data') (ids : List String) :
    ratingsOf data query ids = ratingsOf data' query ids := by
  unfold ratingsOf
  rw [h.ratings]

theorem aggregateCosts_agree (h : data.Agree database data') :
    aggregateCosts clickhouse data query = aggregateCosts clickhouse data' query := by
  unfold aggregateCosts
  rw [matchingAggregates_agree clickhouse h]

theorem overviewRatings_agree (h : data.Agree database data') (hvisible : Visible database query) :
    overviewRatings clickhouse data query = overviewRatings clickhouse data' query := by
  unfold overviewRatings matchingIds
  rw [matchingRatings_agree clickhouse h, matchingColumns_agree clickhouse h hvisible, ratingsOf_agree h]

theorem queryAnalyticsOverview_agree (h : data.Agree database data') (hvisible : Visible database query) :
    queryAnalyticsOverview platform clickhouse data query = queryAnalyticsOverview platform clickhouse data' query := by
  have hcosts : overviewCosts clickhouse data query = overviewCosts clickhouse data' query := by
    unfold overviewCosts
    rw [aggregateCosts_agree clickhouse h, overviewRatings_agree clickhouse h hvisible]
  have hmicros : overviewMicros clickhouse data query = overviewMicros clickhouse data' query := by
    unfold overviewMicros
    rw [matchingAggregates_agree clickhouse h, overviewRatings_agree clickhouse h hvisible]
  have htokens : overviewTokens clickhouse data query = overviewTokens clickhouse data' query := by
    unfold overviewTokens matchingIds
    rw [h.lines, matchingColumns_agree clickhouse h hvisible]
  have htrend : requestTrend clickhouse data query = requestTrend clickhouse data' query := by
    unfold requestTrend
    rw [matchingColumns_agree clickhouse h hvisible]
  unfold queryAnalyticsOverview
  rw [hcosts, hmicros, htokens, htrend, overviewRatings_agree clickhouse h hvisible, matchingColumns_agree clickhouse h hvisible]

theorem queryWatermark_agree (h : data.Agree database data') (hvisible : Visible database query) (now : Int) :
    queryWatermark platform clickhouse data query now = queryWatermark platform clickhouse data' query now := by
  unfold queryWatermark
  rw [matchingColumns_agree clickhouse h hvisible]

theorem joinedCosts_agree (h : data.Agree database data') (events : List ScopedEvent) :
    joinedCosts data events = joinedCosts data' events := by
  unfold joinedCosts
  rw [h.ratings]

theorem costLines_agree (h : data.Agree database data') (hvisible : Visible database query) :
    costLines clickhouse data query = costLines clickhouse data' query := by
  unfold costLines
  rw [aggregateCosts_agree clickhouse h, costEvents_agree clickhouse h hvisible, joinedCosts_agree h]

theorem queryAnalyticsProviderCost_agree (h : data.Agree database data') (hvisible : Visible database query) :
    queryAnalyticsProviderCost clickhouse data query = queryAnalyticsProviderCost clickhouse data' query := by
  have hgroups : providerGroups clickhouse data query = providerGroups clickhouse data' query := by
    unfold providerGroups
    rw [costLines_agree clickhouse h hvisible]
  have hpage : providerPage clickhouse data query = providerPage clickhouse data' query := by
    unfold providerPage
    rw [hgroups]
  have hunpriced : unpricedEvents clickhouse data query = unpricedEvents clickhouse data' query := by
    unfold unpricedEvents
    rw [matchingEvents_length clickhouse h hvisible, matchingRatings_agree clickhouse h, costEvents_agree clickhouse h hvisible]
    simp only [ratingsOf_agree h]
  unfold queryAnalyticsProviderCost
  rw [hgroups, hpage, hunpriced, costLines_agree clickhouse h hvisible, costEvents_agree clickhouse h hvisible,
    joinedCosts_agree h]

theorem queryAnalyticsAiu_agree (h : data.Agree database data') (hvisible : Visible database query) :
    queryAnalyticsAiu clickhouse data query = queryAnalyticsAiu clickhouse data' query := by
  have hlines : microLines clickhouse data query = microLines clickhouse data' query := by
    unfold microLines
    rw [matchingAggregates_agree clickhouse h, costEvents_agree clickhouse h hvisible]
    simp only [ratingsOf_agree h]
  have hgroups : aiuGroups clickhouse data query = aiuGroups clickhouse data' query := by
    unfold aiuGroups
    rw [hlines]
  have hpage : aiuPage clickhouse data query = aiuPage clickhouse data' query := by
    unfold aiuPage
    rw [hgroups]
  have hrated : ratedEvents clickhouse data query = ratedEvents clickhouse data' query := by
    unfold ratedEvents
    rw [matchingRatings_agree clickhouse h, costEvents_agree clickhouse h hvisible, ratingsOf_agree h]
  have htotal : totalMicros clickhouse data query = totalMicros clickhouse data' query := by
    unfold totalMicros
    rw [matchingAggregates_agree clickhouse h, costEvents_agree clickhouse h hvisible, ratingsOf_agree h]
  have hcolumns : (matchingEvents clickhouse data query).map UsageEventRow.toEventColumns =
      (matchingEvents clickhouse data' query).map UsageEventRow.toEventColumns :=
    matchingColumns_agree clickhouse h hvisible
  unfold queryAnalyticsAiu
  rw [hgroups, hpage, hrated, htotal, hcolumns]

theorem metricValue_agree (h : data.Agree database data') (events : List ScopedEvent) :
    metricValue clickhouse data query events = metricValue clickhouse data' query events := by
  have htokens : eventTokens data query = eventTokens data' query := by
    funext event
    unfold eventTokens
    rw [h.lines]
  unfold metricValue
  rw [htokens]

theorem metricPoints_agree (h : data.Agree database data') (events : List ScopedEvent) :
    metricPoints clickhouse data query events = metricPoints clickhouse data' query events := by
  unfold metricPoints
  simp only [metricValue_agree clickhouse h]

theorem queryAnalyticsActivity_agree (h : data.Agree database data') (hvisible : Visible database query) :
    queryAnalyticsActivity clickhouse data query = queryAnalyticsActivity clickhouse data' query := by
  have htrend : trendEvents clickhouse data query = trendEvents clickhouse data' query := by
    have hcolumns (data : AnalyticsData) : trendEvents clickhouse data query = (matchingColumns clickhouse data query).map
        fun columns => ⟨columns, clickhouse.intervalText (grainInterval query.grain) query.timezone columns.eventTime⟩ := by
      unfold trendEvents matchingColumns
      rw [List.map_map]
      rfl
    rw [hcolumns, hcolumns, matchingColumns_agree clickhouse h hvisible]
  have hpage : activityPage clickhouse data query = activityPage clickhouse data' query := by
    unfold activityPage
    rw [costEvents_agree clickhouse h hvisible, metricPoints_agree clickhouse h]
  unfold queryAnalyticsActivity
  rw [hpage, htrend, costEvents_agree clickhouse h hvisible, metricPoints_agree clickhouse h]
  dsimp only
  rw [metricValue_agree clickhouse h]

end Reports

/-! ## The service -/

section Service

variable {service : ReportService} {data data' : AnalyticsData} {query : ReportQuery}

/-- What a report reads is equal under the mask, or fails alike. -/
theorem analyticsData_agree (h : data.Agree service.database data') (hvisible : Visible service.database query)
    (kind : ReportKind) :
    (analyticsData service data kind query).map (maskData (service.policy query.applicationId)) =
      (analyticsData service data' kind query).map (maskData (service.policy query.applicationId)) := by
  have hcolumns := matchingColumns_agree service.clickhouse h hvisible
  cases kind with
  | overview => simp only [analyticsData, queryAnalyticsOverview_agree service.platform service.clickhouse h hvisible]
  | usage =>
    have husage := queryAnalyticsUsage_agree h hvisible
    simp only [analyticsData]
    rcases map_eq_map husage with ⟨failure, hread, hread'⟩ | ⟨page, page', hread, hread', hmasked⟩
    · rw [hread, hread']
    · rw [hread, hread']
      simp only [Except.map, maskData, hmasked]
  | activity => simp only [analyticsData, queryAnalyticsActivity_agree service.clickhouse h hvisible]
  | providerCost => simp only [analyticsData, queryAnalyticsProviderCost_agree service.clickhouse h hvisible]
  | aiu => simp only [analyticsData, queryAnalyticsAiu_agree service.clickhouse h hvisible]
  | cache => simp only [analyticsData, cacheReport, hcolumns]
  | fallback => simp only [analyticsData, fallbackReport, hcolumns]
  | dimensions => simp only [analyticsData, dimensionsReport, hcolumns]
  | pipelineHealth => simp only [analyticsData, queryAnalyticsPipelineHealth, hcolumns]

theorem reportQuery_visible {kind : ReportKind} {request : ReportRequest}
    (h : reportQuery service kind request = .ok query) : Visible service.database query := by
  unfold reportQuery at h
  obtain ⟨applicationId, -, h⟩ := bind_ok h
  obtain ⟨localized, -, h⟩ := bind_ok h
  obtain ⟨parsed, -, h⟩ := bind_ok h
  exact (resolved_visible h).1

theorem report_agree (h : data.Agree service.database data') (kind : ReportKind) (request : ReportRequest) :
    report service data kind request = report service data' kind request := by
  unfold report
  cases hquery : reportQuery service kind request with
  | error failure => rfl
  | ok query =>
    have hvisible := reportQuery_visible hquery
    have hwatermark := queryWatermark_agree service.platform service.clickhouse h hvisible service.now
    simp only [bind, Except.bind]
    rw [hwatermark]
    rcases map_eq_map (analyticsData_agree h hvisible kind) with
      ⟨failure, hread, hread'⟩ | ⟨rawData, rawData', hread, hread', hmasked⟩
    · rw [hread, hread']
    · rw [hread, hread']
      simp only [hmasked]

/-! ## Exports -/

theorem exportPage_agree (h : data.Agree service.database data') (hvisible : Visible service.database query) (total : Nat)
    (cursor : String) :
    (exportPage service data query total cursor).map (maskUsagePage (service.policy query.applicationId)) =
      (exportPage service data' query total cursor).map (maskUsagePage (service.policy query.applicationId)) := by
  unfold exportPage
  refine map_bind_congr fun usageCursor => ?_
  exact @queryAnalyticsUsage_agree _ _ _ { query with usageCursor := some usageCursor, knownUsageTotal := some total } h
    ⟨hvisible.filters, hvisible.group⟩

/-- The rows that are written are those of masked pages; by induction on the pages. -/
theorem exportRows_agree (h : data.Agree service.database data') (hvisible : Visible service.database query) (total pages : Nat)
    (exportedRows : Nat) (cursor : Option String) {page page' : UsagePageEnvelope}
    (hpage : maskUsagePage (service.policy query.applicationId) page = maskUsagePage (service.policy query.applicationId) page') :
    exportRows service data query (service.policy query.applicationId) total pages exportedRows cursor page =
      exportRows service data' query (service.policy query.applicationId) total pages exportedRows cursor page' := by
  induction pages generalizing exportedRows cursor page page' with
  | zero => rfl
  | succ pages ih =>
    have hmasked : page.items.map (maskUsageItem (service.policy query.applicationId)) =
        page'.items.map (maskUsageItem (service.policy query.applicationId)) := congrArg UsagePageEnvelope.items hpage
    have hlength : page.items.length = page'.items.length := by
      have := congrArg List.length hmasked
      rwa [List.length_map, List.length_map] at this
    have hnext : page.nextCursor = page'.nextCursor := by
      have := congrArg UsagePageEnvelope.nextCursor hpage
      exact this
    simp only [exportRows, hlength, hmasked, hnext]
    split
    · rfl
    · cases page'.nextCursor with
      | none => rfl
      | some next =>
        simp only
        split
        · rfl
        · rcases map_eq_map (exportPage_agree h hvisible total next) with
            ⟨failure, hread, hread'⟩ | ⟨following, following', hread, hread', hfollowing⟩
          · rw [hread, hread']
          · rw [hread, hread']
            simp only [ih _ _ hfollowing]

theorem bind_ok_congr {ε α β : Type} {x : Except ε α} {f f' : α → Except ε β} (h : ∀ a, x = .ok a → f a = f' a) :
    (x >>= f) = (x >>= f') := by
  cases x with
  | error e => rfl
  | ok a => exact h a rfl

theorem parseReportQuery_application {platform : Analytics.Platform} {request : ReportRequest} {pagination : ReportPagination}
    {applicationId : String} (h : parseReportQuery platform request pagination applicationId = .ok query) :
    query.applicationId = applicationId := by
  unfold parseReportQuery at h
  dsimp only at h
  split at h
  · cases h
  · obtain ⟨_, -, h⟩ := bind_ok h
    obtain ⟨_, -, h⟩ := bind_ok h
    cases h
    rfl

theorem exportUsage_agree (h : data.Agree service.database data') (request : ReportRequest) :
    exportUsage service data request = exportUsage service data' request := by
  unfold exportUsage
  generalize maxExportRows + 2 = pages
  dsimp only
  by_cases hcursor : request.cursor.isSome = true
  · rw [if_pos hcursor, if_pos hcursor]
    exact bind_ok_congr fun _ hthrown => nomatch hthrown
  · rw [if_neg hcursor, if_neg hcursor]
    refine bind_ok_congr fun applicationId _ => ?_
    refine bind_ok_congr fun localized _ => ?_
    refine bind_ok_congr fun parsed hparsed => ?_
    refine bind_ok_congr fun resolved hresolved => ?_
    obtain ⟨hvisible, happlication⟩ := resolved_visible hresolved
    obtain rfl : resolved.applicationId = applicationId := happlication.trans (parseReportQuery_application hparsed)
    refine bind_ok_congr fun _ _ => ?_
    have hfirst : Visible service.database { resolved with pageSize := 200, usageCursor := none } :=
      ⟨hvisible.filters, hvisible.group⟩
    rcases map_eq_map (queryAnalyticsUsage_agree h hfirst) with
      ⟨failure, hread, hread'⟩ | ⟨page, page', hread, hread', hmasked⟩
    · rw [hread, hread']
      exact bind_ok_congr fun _ hfailed => nomatch hfailed
    · rw [hread, hread']
      have htotal : page.total = page'.total := by
        have := congrArg UsagePageEnvelope.total hmasked
        exact this
      have hrows : exportRows service data { resolved with pageSize := 200, usageCursor := none }
          (service.policy resolved.applicationId) page'.total pages 0 none page =
          exportRows service data' { resolved with pageSize := 200, usageCursor := none }
            (service.policy resolved.applicationId) page'.total pages 0 none page' :=
        exportRows_agree h hfirst page'.total pages 0 none hmasked
      simp only [bind, Except.bind, htotal, hrows]

end Service

/-- Of data that differ in the values of sensitive properties only, every report and every export
    is the same. -/
theorem sensitive_values_hidden (service : ReportService) {data data' : AnalyticsData} (h : data.Agree service.database data')
    (request : ReportRequest) :
    (∀ kind, report service data kind request = report service data' kind request) ∧
      exportUsage service data request = exportUsage service data' request :=
  ⟨fun kind => report_agree h kind request, exportUsage_agree h request⟩

def phoneDefinition : PropertyDefinition where
  applicationId := "app"
  key := "phone"
  displayName := "Phone"
  scope := .user
  dataType := .text
  searchable := true
  groupable := true
  sensitive := true
  active := true

/-- An event of a user with a phone number. -/
def phoneData (phone : String) : AnalyticsData where
  events := [{ eventOf "first" noProperties with userProperties := { noProperties with text := [("phone", phone)] } }]
  lines := []
  ratings := []
  aggregates := []
  eventIds := List.pairwise_singleton _ _

theorem phoneData_agree (phone phone' : String) : (phoneData phone).Agree (serviceOf phoneDefinition).database (phoneData phone') where
  events := by
    refine .cons ⟨rfl, fun scope => ?_⟩ .nil
    cases scope with
    | event => exact ⟨.nil, .nil, .nil, .nil, .nil, .nil⟩
    | user =>
      have hhidden : "phone" ∈ hiddenKeys (serviceOf phoneDefinition).database "app" .user :=
        mem_hiddenKeys.mpr ⟨phoneDefinition, List.mem_singleton_self _, rfl, rfl, rfl, rfl⟩
      exact ⟨.cons ⟨rfl, fun hvisible => absurd hhidden hvisible⟩ .nil, .nil, .nil, .nil, .nil, .nil⟩
  lines := rfl
  ratings := rfl
  aggregates := rfl

theorem phones_hidden :
    (∀ kind, report (serviceOf phoneDefinition) (phoneData "1") kind (requestOf none none) =
        report (serviceOf phoneDefinition) (phoneData "2") kind (requestOf none none)) ∧
      exportUsage (serviceOf phoneDefinition) (phoneData "1") (requestOf none none) =
        exportUsage (serviceOf phoneDefinition) (phoneData "2") (requestOf none none) :=
  sensitive_values_hidden (serviceOf phoneDefinition) (phoneData_agree "1" "2") (requestOf none none)

end TokenPilot.Reports
