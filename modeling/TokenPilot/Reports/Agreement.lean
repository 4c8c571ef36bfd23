/-
  TokenPilot.Reports.Agreement — data that differ in the values of sensitive properties only.

  Two data sets agree when their events do one by one: the columns are equal, the maps have the
  same keys, and the values of keys that are not sensitive are equal. A resolved query names no
  sensitive property (`resolved_visible`), so events that agree meet the same conditions and are
  in the same groups (`matchingEvents_agree`, `eventGroups_agree`), and what is made of the
  columns of events is the same.
-/

import Mathlib.Data.List.Forall2
import TokenPilot.Library.Machine
import TokenPilot.Reports.Requests

namespace TokenPilot.Reports

open TokenPilot.Library
open TokenPilot.Analytics (RatingKind)

/-! ## Sensitive properties -/

/-- The keys of the sensitive properties of an application in a scope. -/
def hiddenKeys (database : ReportDatabase) (applicationId : String) (scope : PropertyScope) : List String :=
  (database.definitions.filter fun definition =>
    definition.applicationId = applicationId && definition.scope = scope && definition.sensitive).map PropertyDefinition.key

theorem mem_hiddenKeys {database : ReportDatabase} {applicationId : String} {scope : PropertyScope} {key : String} :
    key ∈ hiddenKeys database applicationId scope ↔ ∃ definition ∈ database.definitions,
      definition.applicationId = applicationId ∧ definition.scope = scope ∧ definition.sensitive = true ∧
        definition.key = key := by
  unfold hiddenKeys
  simp only [List.mem_map, List.mem_filter, Bool.and_eq_true, decide_eq_true_eq, and_assoc]

/-- A key has one definition. -/
theorem indexedDefinition_unique {database : ReportDatabase} {applicationId key : String} {definition other : PropertyDefinition}
    (h : indexedDefinition database applicationId key = some definition) (hother : other ∈ database.definitions)
    (happlication : other.applicationId = applicationId) (hkey : other.key = key) : other = definition := by
  unfold indexedDefinition at h
  have hmem := List.mem_of_find?_eq_some h
  have hfound := List.find?_some h
  simp only [Bool.and_eq_true, decide_eq_true_eq] at hfound
  have hsymm : Std.Symm fun a b : PropertyDefinition => ¬ (a.applicationId = b.applicationId ∧ a.key = b.key) :=
    ⟨fun a b hab hba => hab ⟨hba.1.symm, hba.2.symm⟩⟩
  by_contra hne
  exact database.definitionKeys.forall hother hmem hne
    ⟨happlication.trans hfound.1.1.symm, hkey.trans hfound.2.symm⟩

/-- The active property of a key is not sensitive if its definition is not. -/
theorem not_hidden {database : ReportDatabase} {applicationId key : String} {definition : PropertyDefinition}
    (h : indexedDefinition database applicationId key = some definition) (hvisible : definition.sensitive = false)
    (scope : PropertyScope) : key ∉ hiddenKeys database applicationId scope := by
  rw [mem_hiddenKeys]
  rintro ⟨other, hother, happlication, -, hsensitive, hkey⟩
  rw [indexedDefinition_unique h hother happlication hkey, hvisible] at hsensitive
  cases hsensitive

/-! ## Queries -/

/-- The conditions and the grouping of a query name no sensitive property. -/
structure Visible (database : ReportDatabase) (query : ReportQuery) : Prop where
  filters : ∀ filter ∈ query.filters, ∀ scope key operator values,
    filter.condition = .property scope key operator values → key ∉ hiddenKeys database query.applicationId scope
  group : ∀ group, query.groupProperty = some group → group.key ∉ hiddenKeys database query.applicationId group.scope

theorem resolveProperty_visible {database : ReportDatabase} {applicationId key : String} {scope : PropertyScope}
    {operator : ReportFilterOperator} {values : List FilterValue} {type : Analytics.PropertyType}
    (h : resolveProperty database applicationId scope key operator values = .ok type) :
    key ∉ hiddenKeys database applicationId scope := by
  unfold resolveProperty at h
  cases hdefinition : indexedDefinition database applicationId key with
  | none =>
    rw [hdefinition] at h
    cases h
  | some definition =>
    simp only [hdefinition] at h
    by_cases hrefused : definition.scope ≠ scope ∨ ¬ definition.searchable ∨ definition.sensitive
    · rw [if_pos hrefused] at h
      cases h
    · refine not_hidden hdefinition ?_ scope
      by_contra hsensitive
      exact hrefused (.inr (.inr (by simpa using hsensitive)))

theorem resolveGroup_visible {database : ReportDatabase} {applicationId : String} {group : ReportPropertyGroup}
    {type : Analytics.PropertyType} (h : resolveGroup database applicationId group = .ok type) :
    group.key ∉ hiddenKeys database applicationId group.scope := by
  unfold resolveGroup at h
  cases hdefinition : indexedDefinition database applicationId group.key with
  | none =>
    rw [hdefinition] at h
    cases h
  | some definition =>
    simp only [hdefinition] at h
    by_cases hrefused : definition.scope ≠ group.scope ∨ ¬ definition.groupable ∨ definition.dataType = .textList ∨
        definition.sensitive
    · rw [if_pos hrefused] at h
      cases h
    · refine not_hidden hdefinition ?_ group.scope
      by_contra hsensitive
      exact hrefused (.inr (.inr (.inr (by simpa using hsensitive))))

/-- A filter keeps its condition, and that of a property is of one that is not sensitive. -/
theorem resolveFilter_visible {database : ReportDatabase} {applicationId : String}
    {filter resolved : ResolvedReportFilterCondition} (h : resolveFilter database applicationId filter = .ok resolved) :
    ∀ scope key operator values, resolved.condition = .property scope key operator values →
      key ∉ hiddenKeys database applicationId scope := by
  intro scope key operator values hcondition
  unfold resolveFilter at h
  obtain ⟨condition, dataType, userIds⟩ := filter
  cases condition with
  | builtin field operator' values' =>
    simp only at h
    by_cases hgroup : field = .userGroup
    · rw [if_pos hgroup] at h
      obtain ⟨userIds, -, h⟩ := bind_ok h
      cases h
      cases hcondition
    · rw [if_neg hgroup] at h
      cases h
      cases hcondition
  | property scope' key' operator' values' =>
    simp only at h
    obtain ⟨type, htype, h⟩ := bind_ok h
    cases h
    cases hcondition
    exact resolveProperty_visible htype

theorem resolved_visible {database : ReportDatabase} {query resolved : ReportQuery}
    (h : resolveReportProperties database query = .ok resolved) :
    Visible database resolved ∧ resolved.applicationId = query.applicationId := by
  obtain ⟨filters, groupDataType, hfilters, hgroup, rfl⟩ := resolveReportProperties_ok h
  refine ⟨⟨fun filter hfilter => ?_, fun group hsome => ?_⟩, rfl⟩
  · obtain ⟨unresolved, -, hresolved⟩ := mapM_mem hfilters hfilter
    exact resolveFilter_visible hresolved
  · change query.groupProperty = some group at hsome
    rw [hsome] at hgroup
    obtain ⟨type, htype, -⟩ := hgroup
    exact resolveGroup_visible htype

/-! ## Events that agree -/

/-- Maps with the same keys, whose values are equal but for the hidden keys. -/
def AgreeMap {α : Type} (hidden : List String) (map map' : List (String × α)) : Prop :=
  List.Forall₂ (fun f f' => f.1 = f'.1 ∧ (f.1 ∉ hidden → f.2 = f'.2)) map map'

theorem AgreeMap.lookup {α : Type} {hidden : List String} {map map' : List (String × α)} (h : AgreeMap hidden map map')
    {key : String} (hkey : key ∉ hidden) : map.lookup key = map'.lookup key := by
  induction h with
  | nil => rfl
  | @cons f f' map map' hf _ ih =>
    obtain ⟨name, value⟩ := f
    obtain ⟨name', value'⟩ := f'
    obtain ⟨rfl, hvalue⟩ : name = name' ∧ (name ∉ hidden → value = value') := hf
    rw [List.lookup_cons, List.lookup_cons, ih]
    by_cases heq : key = name
    · subst heq
      rw [hvalue hkey]
    · rw [beq_false_of_ne heq]

structure PropertyMaps.Agree (hidden : List String) (maps maps' : PropertyMaps) : Prop where
  text : AgreeMap hidden maps.text maps'.text
  number : AgreeMap hidden maps.number maps'.number
  boolean : AgreeMap hidden maps.boolean maps'.boolean
  datetime : AgreeMap hidden maps.datetime maps'.datetime
  enum : AgreeMap hidden maps.enum maps'.enum
  textList : AgreeMap hidden maps.textList maps'.textList

/-- The properties of an event, by their scope. -/
def UsageEventRow.maps (row : UsageEventRow) : PropertyScope → PropertyMaps
  | .event => row.eventProperties
  | .user => row.userProperties

/-- Events that differ in the values of sensitive properties only. -/
structure UsageEventRow.Agree (database : ReportDatabase) (row row' : UsageEventRow) : Prop where
  columns : row.toEventColumns = row'.toEventColumns
  maps : ∀ scope, (row.maps scope).Agree (hiddenKeys database row.applicationId scope) (row'.maps scope)

/-- Data that differ in the values of sensitive properties only. -/
structure AnalyticsData.Agree (database : ReportDatabase) (data data' : AnalyticsData) : Prop where
  events : List.Forall₂ (UsageEventRow.Agree database) data.events data'.events
  lines : data.lines = data'.lines
  ratings : data.ratings = data'.ratings
  aggregates : data.aggregates = data'.aggregates

/-! ## Conditions -/

section Conditions

variable (clickhouse : ClickHouse)

theorem propertyFilter_agree {hidden : List String} {maps maps' : PropertyMaps} (h : maps.Agree hidden maps') {key : String}
    (hkey : key ∉ hidden) (type : Analytics.PropertyType) (operator : ReportFilterOperator) (values : List FilterValue) :
    propertyFilter clickhouse maps type key operator values = propertyFilter clickhouse maps' type key operator values := by
  unfold propertyFilter mapContains readMap
  rw [h.text.lookup hkey, h.number.lookup hkey, h.boolean.lookup hkey, h.datetime.lookup hkey, h.enum.lookup hkey,
    h.textList.lookup hkey]

variable {data data' : AnalyticsData}

/-- The status of an event is that of its ratings. -/
theorem ratingStatusFilter_data (h : data.ratings = data'.ratings) (query : ReportQuery) (kind : RatingKind)
    (operator : ReportFilterOperator) (values : List FilterValue) (eventId : String) :
    ratingStatusFilter clickhouse data query kind operator values eventId =
      ratingStatusFilter clickhouse data' query kind operator values eventId := by
  unfold ratingStatusFilter
  rw [h]

theorem holdsCondition_data (h : data.ratings = data'.ratings) (query : ReportQuery) (filter : ResolvedReportFilterCondition)
    (source : FilterSource) :
    holdsCondition clickhouse data query filter source = holdsCondition clickhouse data' query filter source := by
  simp only [holdsCondition, ratingStatusFilter_data clickhouse h]

theorem source_maps (row : UsageEventRow) (scope : PropertyScope) : row.source.maps scope = row.maps scope := by
  cases scope <;> rfl

/-- Events that agree meet a condition on what is not hidden alike. -/
theorem holdsCondition_agree (hratings : data.ratings = data'.ratings) {database : ReportDatabase} {row row' : UsageEventRow}
    (h : row.Agree database row') (query : ReportQuery) (filter : ResolvedReportFilterCondition)
    (hvisible : ∀ scope key operator values, filter.condition = .property scope key operator values →
      key ∉ hiddenKeys database row.applicationId scope) :
    holdsCondition clickhouse data query filter row.source = holdsCondition clickhouse data' query filter row'.source := by
  rw [holdsCondition_data clickhouse hratings]
  obtain ⟨condition, dataType, userIds⟩ := filter
  cases condition with
  | builtin field operator values =>
    obtain ⟨columns, event, user⟩ := row
    obtain ⟨columns', event', user'⟩ := row'
    obtain rfl : columns = columns' := h.columns
    cases field <;> rfl
  | property scope key operator values =>
    have hkey := hvisible scope key operator values rfl
    simp only [holdsCondition, source_maps, propertyFilter_agree clickhouse (h.maps scope) hkey]

theorem any_mem_congr {α : Type} {f g : α → Bool} {l : List α} (h : ∀ x ∈ l, f x = g x) : l.any f = l.any g := by
  rw [Bool.eq_iff_iff, List.any_eq_true, List.any_eq_true]
  constructor
  · rintro ⟨x, hx, hf⟩
    exact ⟨x, hx, (h x hx).symm.trans hf⟩
  · rintro ⟨x, hx, hg⟩
    exact ⟨x, hx, (h x hx).trans hg⟩

theorem all_mem_congr {α : Type} {f g : α → Bool} {l : List α} (h : ∀ x ∈ l, f x = g x) : l.all f = l.all g := by
  rw [List.all_eq_not_any_not, List.all_eq_not_any_not, any_mem_congr fun x hx => by rw [h x hx]]

/-- The predicate of a query is made of its conditions. -/
theorem matchesFilters_congr (query : ReportQuery) {source source' : FilterSource}
    (happlication : source.applicationId = source'.applicationId) (htime : source.eventTime = source'.eventTime)
    (h : source.applicationId = query.applicationId → ∀ filter ∈ query.filters,
      holdsCondition clickhouse data query filter source = holdsCondition clickhouse data' query filter source') :
    matchesFilters clickhouse data query source = matchesFilters clickhouse data' query source' := by
  unfold matchesFilters
  by_cases hsame : source.applicationId = query.applicationId
  · have hgroups (group) (hgroup : group ∈ groupBy (fun filter : ResolvedReportFilterCondition =>
        conditionKey filter.condition) query.filters) :
        (group.2.any fun filter => holdsCondition clickhouse data query filter source) =
          group.2.any fun filter => holdsCondition clickhouse data' query filter source' :=
      any_mem_congr fun filter hfilter => h hsame filter (groupBy_mem hgroup hfilter)
    simp only [happlication, htime, any_mem_congr hgroups, all_mem_congr hgroups]
  · have hother : ¬ source'.applicationId = query.applicationId := happlication ▸ hsame
    simp only [hsame, hother, decide_false, Bool.false_and]

end Conditions

/-! ## What a query selects -/

section Selections

variable (clickhouse : ClickHouse) {database : ReportDatabase} {data data' : AnalyticsData} {query : ReportQuery}

theorem matchingRatings_agree (h : data.Agree database data') : matchingRatings clickhouse data query = matchingRatings clickhouse data' query := by
  unfold matchingRatings
  rw [h.ratings]
  refine List.filter_congr fun row _ => matchesFilters_congr clickhouse query rfl rfl fun _ filter _ => ?_
  exact holdsCondition_data clickhouse h.ratings query filter row.source

theorem matchingAggregates_agree (h : data.Agree database data') : matchingAggregates clickhouse data query = matchingAggregates clickhouse data' query := by
  unfold matchingAggregates
  rw [h.aggregates]
  refine List.filter_congr fun row _ => matchesFilters_congr clickhouse query rfl rfl fun _ filter _ => ?_
  exact holdsCondition_data clickhouse h.ratings query filter row.source

theorem matchingEvents_agree (h : data.Agree database data') (hvisible : Visible database query) :
    List.Forall₂ (UsageEventRow.Agree database) (matchingEvents clickhouse data query) (matchingEvents clickhouse data' query) := by
  unfold matchingEvents
  refine List.rel_filter (fun row row' hrow => ?_) h.events
  have happlication : row.applicationId = row'.applicationId := congrArg EventColumns.applicationId hrow.columns
  have htime : row.eventTime = row'.eventTime := congrArg EventColumns.eventTime hrow.columns
  have hmatches := @matchesFilters_congr clickhouse data data' query row.source row'.source happlication htime fun hsame filter hfilter =>
      holdsCondition_agree clickhouse h.ratings hrow query filter fun scope key operator values hcondition => by
        have hkey := hvisible.filters filter hfilter scope key operator values hcondition
        rwa [← hsame] at hkey
  exact iff_of_eq (congrArg (· = true) hmatches)

/-- What is made of columns is the same. -/
theorem matchingColumns_agree (h : data.Agree database data') (hvisible : Visible database query) :
    matchingColumns clickhouse data query = matchingColumns clickhouse data' query := by
  have hevents := matchingEvents_agree clickhouse h hvisible
  unfold matchingColumns
  generalize matchingEvents clickhouse data query = rows at hevents ⊢
  generalize matchingEvents clickhouse data' query = rows' at hevents ⊢
  induction hevents with
  | nil => rfl
  | cons hrow _ ih => rw [List.map_cons, List.map_cons, hrow.columns, ih]

theorem propertyGroup_agree {hidden : List String} {maps maps' : PropertyMaps} (h : maps.Agree hidden maps') {key : String}
    (hkey : key ∉ hidden) (type : Analytics.PropertyType) :
    propertyGroup clickhouse maps type key = propertyGroup clickhouse maps' type key := by
  unfold propertyGroup readMap
  rw [h.text.lookup hkey, h.number.lookup hkey, h.boolean.lookup hkey, h.datetime.lookup hkey, h.enum.lookup hkey,
    h.textList.lookup hkey]

/-- Events that agree are in the same groups. -/
theorem eventGroups_agree {row row' : UsageEventRow} (h : row.Agree database row') (hvisible : Visible database query)
    (happlication : row.applicationId = query.applicationId) :
    eventGroups clickhouse query row = eventGroups clickhouse query row' := by
  have hgroup (group : ReportPropertyGroup) (type : Analytics.PropertyType) (hsome : query.groupProperty = some group) :
      propertyGroup clickhouse (row.source.maps group.scope) type group.key =
        propertyGroup clickhouse (row'.source.maps group.scope) type group.key := by
    have hkey := hvisible.group group hsome
    rw [← happlication] at hkey
    rw [source_maps, source_maps, propertyGroup_agree clickhouse (h.maps group.scope) hkey]
  unfold eventGroups
  obtain ⟨columns, event, user⟩ := row
  obtain ⟨columns', event', user'⟩ := row'
  obtain rfl : columns = columns' := h.columns
  cases query.groupDimension with
  | property =>
    simp only
    split
    · rename_i group type hsome _
      rw [hgroup group type hsome]
    · rfl
  | _ => rfl

theorem costEvents_agree (h : data.Agree database data') (hvisible : Visible database query) :
    costEvents clickhouse data query = costEvents clickhouse data' query := by
  have hevents := matchingEvents_agree clickhouse h hvisible
  have happlication : ∀ row ∈ matchingEvents clickhouse data query, row.applicationId = query.applicationId := fun _ =>
    matchingEvents_application clickhouse data query
  unfold costEvents scopedEvents
  generalize matchingEvents clickhouse data query = rows at hevents happlication ⊢
  generalize matchingEvents clickhouse data' query = rows' at hevents ⊢
  revert happlication
  induction hevents with
  | nil => exact fun _ => rfl
  | @cons row row' rows rows' hrow _ ih =>
    intro happlication
    rw [List.flatMap_cons, List.flatMap_cons, ih fun other hother => happlication other (by simp [hother]),
      eventGroups_agree clickhouse hrow hvisible (happlication row (by simp)), hrow.columns]

theorem matchingEvents_length (h : data.Agree database data') (hvisible : Visible database query) :
    (matchingEvents clickhouse data query).length = (matchingEvents clickhouse data' query).length :=
  (matchingEvents_agree clickhouse h hvisible).length_eq

end Selections

end TokenPilot.Reports
