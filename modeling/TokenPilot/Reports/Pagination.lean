/-
  TokenPilot.Reports.Pagination — the pages of usage, of provider cost and of AIU.

  Following the cursors gives every event or group once and in order, and each cursor is read to
  what it was written from, exactly when what stands at the ends of the pages is what the decoder
  admits (`pages_enumerate_iff`). It admits any id of 256 UTF-16 units and any key of 2048. The
  contracts of ingestion count code points: a text property of 2048 of them may have twice as
  many units, and its group then ends the pages (`long_key_ends_pages`).
-/

import TokenPilot.Reports.GroupPages

namespace TokenPilot.Reports

open TokenPilot.Library
open TokenPilot.Quota.Token (unitsOf textOf)

/-! ## Reports with pages -/

inductive PagedReport where
  | usage
  | providerCost
  | aiu
  deriving DecidableEq, Repr

namespace PagedReport

def kind : PagedReport → ReportKind
  | .usage => .usage
  | .providerCost => .providerCost
  | .aiu => .aiu

/-- The pages give every row once and in order; each cursor is read and answered. -/
def Enumerated (report : PagedReport) (service : ReportService) (data : AnalyticsData) (request : ReportRequest)
    (query : ReportQuery) : Prop :=
  match report with
  | .usage => UsageEnumerated service data request query
  | .providerCost => ProviderEnumerated service data request query
  | .aiu => AiuEnumerated service data request query

/-- The rows can be presented and counted, and the decoder admits what stands at the ends of the
    pages. -/
def Readable (report : PagedReport) (service : ReportService) (data : AnalyticsData) (query : ReportQuery) : Prop :=
  match report with
  | .usage => UsageReadable service data query
  | .providerCost => ProviderReadable service data query
  | .aiu => AiuReadable service data query

end PagedReport

/-- For a query that is resolved and that ClickHouse can run. -/
theorem pages_enumerate_iff (report : PagedReport) {service : ReportService} (data : AnalyticsData) {request : ReportRequest}
    {query : ReportQuery} (hquery : reportQuery service report.kind (request.at none) = .ok query)
    (hruns : query.filters.forM (checkCondition service.clickhouse) = .ok ()) :
    report.Enumerated service data request query ↔ report.Readable service data query := by
  cases report with
  | usage => exact usageEnumerated_iff hquery hruns
  | providerCost => exact providerEnumerated_iff hquery hruns
  | aiu => exact aiuEnumerated_iff hquery hruns

/-! ## A long key -/

def noteDefinition : PropertyDefinition where
  applicationId := "app"
  key := "note"
  displayName := "Note"
  scope := .event
  dataType := .text
  searchable := true
  groupable := true
  sensitive := false
  active := true

def noteService : ReportService := serviceOf noteDefinition

def noteRequest : ReportRequest := requestOf (some .aiu) (some ⟨.event, "note"⟩)

def noteQuery : ReportQuery where
  applicationId := "app"
  from_ := 0
  to_ := 86400000
  timezone := "UTC"
  pageSize := 1
  usageCursor := none
  groupCursor := none
  filterMatch := .all
  filters := []
  metric := .aiu
  grain := .day
  groupDimension := .property
  groupProperty := some ⟨.event, "note"⟩
  groupDataType := some .text
  knownUsageTotal := none

theorem noteQuery_resolved : reportQuery noteService .aiu (noteRequest.at none) = .ok noteQuery := rfl

def noteEvent (id note : String) : UsageEventRow := eventOf id { noProperties with text := [("note", note)] }

/-- Two events with their notes. -/
def noteData (first second : String) : AnalyticsData where
  events := [noteEvent "first" first, noteEvent "second" second]
  lines := []
  ratings := []
  aggregates := []
  eventIds := by simp [noteEvent, eventOf]

theorem noteGroups {first second : String} (h : first < second) :
    aiuGroups noteService.clickhouse (noteData first second) noteQuery = [⟨first, "0"⟩, ⟨second, "0"⟩] := by
  have hmatching : matchingEvents noteService.clickhouse (noteData first second) noteQuery =
      [noteEvent "first" first, noteEvent "second" second] := rfl
  have hlines : microLines noteService.clickhouse (noteData first second) noteQuery = [(first, 0), (second, 0)] := by
    have haggregate : useMinuteAggregate noteQuery = false := rfl
    unfold microLines costEvents
    rw [haggregate, hmatching]
    rfl
  have hne : ¬ first = second := fun heq => lt_irrefl _ (heq ▸ h)
  have hne' : ¬ second = first := fun heq => lt_irrefl _ (heq ▸ h)
  have hle : first ≤ second := h.le
  unfold aiuGroups groupBy
  rw [hlines]
  simp [List.eraseDups_cons, sumOf, hne, hne', hle]
  rfl

/-- A first key of more than 2048 units gets a cursor that is refused. -/
theorem long_key_ends_pages {first second : String} (h : first < second) (hlong : 2048 < (unitsOf first).length) :
    ¬ AiuEnumerated noteService (noteData first second) noteRequest noteQuery := by
  intro henumerated
  have hreadable := (aiuEnumerated_iff noteQuery_resolved rfl).mp henumerated
  have hends := hreadable.ends [] ⟨first, "0"⟩ [⟨second, "0"⟩] (noteGroups h) (List.cons_ne_nil _ _) (Nat.one_dvd _)
  have hlength : (unitsOf first).length ≤ 2048 := hends.1
  omega

/-- 1025 code points, which are 2050 units. -/
def longNote : String := String.ofList (List.replicate 1025 '😀')

theorem units_replicate (n : Nat) (c : Char) :
    (unitsOf (String.ofList (List.replicate n c))).length = n * (utf16 c.toNat).length := by
  have hpoints : Text.points (String.ofList (List.replicate n c)) = (List.replicate n c).map Char.toNat :=
    congrArg (List.map Char.toNat) (String.toList_ofList ..)
  unfold unitsOf Text.units
  rw [List.length_map, hpoints]
  clear hpoints
  induction n with
  | zero => simp
  | succ n ih =>
    rw [List.replicate_succ, List.map_cons, List.flatMap_cons, List.length_append, ih, Nat.add_mul, Nat.one_mul, Nat.add_comm]

theorem longNote_lt : longNote < "😁" := by
  unfold longNote
  rw [String.lt_iff_toList_lt, String.toList_ofList, List.replicate_succ]
  exact List.Lex.rel (by decide)

theorem long_note_ends_pages :
    reportQuery noteService .aiu (noteRequest.at none) = .ok noteQuery ∧
      noteQuery.filters.forM (checkCondition noteService.clickhouse) = .ok () ∧
      ¬ PagedReport.aiu.Enumerated noteService (noteData longNote "😁") noteRequest noteQuery := by
  have hunits : (unitsOf longNote).length = 1025 * (utf16 '😀'.toNat).length := units_replicate 1025 '😀'
  have hpair : (utf16 '😀'.toNat).length = 2 := by decide
  rw [hpair] at hunits
  exact ⟨noteQuery_resolved, rfl, long_key_ends_pages longNote_lt (by omega)⟩

theorem short_keys_paged :
    reportQuery noteService .aiu (noteRequest.at none) = .ok noteQuery ∧
      (PagedReport.aiu.Enumerated noteService (noteData "a" "b") noteRequest noteQuery ↔
        PagedReport.aiu.Readable noteService (noteData "a" "b") noteQuery) :=
  ⟨noteQuery_resolved, pages_enumerate_iff .aiu (noteData "a" "b") noteQuery_resolved rfl⟩

end TokenPilot.Reports
