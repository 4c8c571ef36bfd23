/-
  TokenPilot.Reports.UsagePages — following the cursors of a report of usage.

  The pages are those of a `Reading` of the matching events, latest first, each presented with
  its own ratings and lines: the joins of a page go by ids, and an application has an id once.
  A cursor that was written is read to its event's time and id.

  - `usageEnumerated_iff`: the pages give every matching event once, in their order, exactly
    when each is complete, they can be counted, and no id at the end of a page but the last
    exceeds what the decoder admits.
-/

import TokenPilot.Library.Keyset
import TokenPilot.Library.Machine
import TokenPilot.Reports.Cursors
import TokenPilot.Reports.Requests

namespace TokenPilot.Reports

open TokenPilot.Library
open TokenPilot.Quota.Token (unitsOf textOf)
open TokenPilot.Runtime (isoString)

/-! ## Enumerations -/

/-- The pages of a request give `items`, and each cursor of a page is read to what it was written
    from and answered with a page. -/
structure Enumerates {β γ : Type} (request : Option String → Except ReportFailure (Page β String)) (encode : γ → String)
    (decode : String → Except ReportFailure γ) (items : List β) : Prop where
  pages : Follows request none items
  cursors : ∀ {c page next}, Asked request c → request c = .ok page → page.next = some next →
    ∃ cursor, next = encode cursor ∧ decode next = .ok cursor ∧ ∃ following, request (some next) = .ok following

theorem enumerates_of_follows {β γ : Type} {request : Option String → Except ReportFailure (Page β String)}
    {encode : γ → String} {decode : String → Except ReportFailure γ} {items : List β} (h : Follows request none items)
    (hcursor : ∀ {c page next}, Asked request c → request c = .ok page → page.next = some next →
      ∃ cursor, next = encode cursor ∧ ∀ following, request (some next) = .ok following → decode next = .ok cursor) :
    Enumerates request encode decode items := by
  refine ⟨h, fun hasked hpage hnext => ?_⟩
  obtain ⟨cursor, hencode, hdecode⟩ := hcursor hasked hpage hnext
  obtain ⟨rest, hrest⟩ := h.asked hasked
  obtain ⟨rest', hrest'⟩ := hrest.next hpage hnext
  obtain ⟨following, hfollowing⟩ := hrest'.page
  exact ⟨cursor, hencode, hdecode following hfollowing, following, hfollowing⟩

/-! ## Events -/

/-- An event with all that its item needs. -/
structure UsageEventRow.Complete (event : UsageEventRow) : Prop where
  eventId : event.eventId ≠ ""
  requestId : event.requestId ≠ ""
  attemptId : event.attemptId ≠ ""
  schemaVersion : event.schemaVersion ≠ ""
  status : event.status ≠ ""
  userId : event.userId ≠ ""
  requestModel : event.requestModel ≠ ""
  latency : ∀ latency, event.latencyMs = some latency → latency ≤ 9007199254740991

theorem required_ok {s t : String} (h : required s = .ok t) : s ≠ "" ∧ t = s := by
  unfold required at h
  by_cases hs : s = ""
  · rw [if_pos hs] at h
    cases h
  · rw [if_neg hs] at h
    cases h
    exact ⟨hs, rfl⟩

theorem required_of {s : String} (h : s ≠ "") : required s = .ok s := if_neg h

theorem reportLatency_ok {latency result : Option Nat} (h : reportLatency latency = .ok result) :
    ∀ n, latency = some n → n ≤ 9007199254740991 := by
  rintro n rfl
  unfold reportLatency reportCount at h
  by_cases hn : n ≤ 9007199254740991
  · exact hn
  · simp only [if_neg hn] at h
    cases h

theorem reportLatency_of {latency : Option Nat} (h : ∀ n, latency = some n → n ≤ 9007199254740991) :
    reportLatency latency = .ok latency := by
  cases latency with
  | none => rfl
  | some n =>
    simp only [reportLatency, reportCount, if_pos (h n rfl)]

theorem usageReportItem_ok {platform : Analytics.Platform} {row : UsageRow} {item : UsageReportItem}
    (h : usageReportItem platform row = .ok item) :
    row.event.Complete ∧ item.eventTime = isoString row.event.eventTime.1 ∧ item.eventId = row.event.eventId := by
  unfold usageReportItem at h
  simp only [reportInstant_text] at h
  obtain ⟨eventTime, htime, h⟩ := bind_ok h
  cases htime
  obtain ⟨eventId, heventId, h⟩ := bind_ok h
  obtain ⟨requestId, hrequestId, h⟩ := bind_ok h
  obtain ⟨attemptId, hattemptId, h⟩ := bind_ok h
  obtain ⟨schemaVersion, hschemaVersion, h⟩ := bind_ok h
  obtain ⟨status, hstatus, h⟩ := bind_ok h
  obtain ⟨userId, huserId, h⟩ := bind_ok h
  obtain ⟨requestModel, hrequestModel, h⟩ := bind_ok h
  obtain ⟨latencyMs, hlatency, h⟩ := bind_ok h
  cases h
  exact ⟨⟨(required_ok heventId).1, (required_ok hrequestId).1, (required_ok hattemptId).1, (required_ok hschemaVersion).1,
    (required_ok hstatus).1, (required_ok huserId).1, (required_ok hrequestModel).1, reportLatency_ok hlatency⟩, rfl,
    (required_ok heventId).2⟩

theorem usageReportItem_of (platform : Analytics.Platform) {row : UsageRow} (h : row.event.Complete) :
    ∃ item, usageReportItem platform row = .ok item := by
  unfold usageReportItem
  simp only [reportInstant_text, required_of h.eventId, required_of h.requestId, required_of h.attemptId,
    required_of h.schemaVersion, required_of h.status, required_of h.userId, required_of h.requestModel,
    reportLatency_of h.latency]
  exact ⟨_, rfl⟩

/-! ## The order of the events -/

theorem laterEvent_total : Std.Total laterEvent where
  total a b := by
    unfold laterEvent
    rcases Int.lt_trichotomy a.1 b.1 with h | h | h
    · exact .inr (.inl h)
    · rcases le_total a.2 b.2 with h' | h'
      · exact .inr (.inr ⟨h, h'⟩)
      · exact .inl (.inr ⟨h.symm, h'⟩)
    · exact .inl (.inl h)

theorem laterEvent_trans : IsTrans _ laterEvent where
  trans a b c := by
    rintro (hab | ⟨hab, hab'⟩) (hbc | ⟨hbc, hbc'⟩)
    · exact .inl (Int.lt_trans hbc hab)
    · exact .inl (hbc ▸ hab)
    · exact .inl (hab ▸ hbc)
    · exact .inr ⟨hbc.trans hab, le_trans hbc' hab'⟩

theorem beforeCursor_iff (cursor event : Int × String) :
    beforeCursor cursor event = true ↔ event.1 < cursor.1 ∨ event.1 = cursor.1 ∧ event.2 < cursor.2 := by
  unfold beforeCursor
  simp only [Bool.or_eq_true, Bool.and_eq_true, decide_eq_true_eq]

theorem beforeCursor_irrefl (place : Int × String) : beforeCursor place place = false := by
  rw [Bool.eq_false_iff, Ne, beforeCursor_iff]
  rintro (h | ⟨-, h⟩)
  · exact absurd h (Int.lt_irrefl _)
  · exact absurd h (lt_irrefl _)

theorem beforeCursor_asymm (a b : Int × String) (h : beforeCursor a b = true) : beforeCursor b a = false := by
  rw [beforeCursor_iff] at h
  rw [Bool.eq_false_iff, Ne, beforeCursor_iff]
  rintro (h' | ⟨h', hid'⟩) <;> rcases h with h | ⟨h, hid⟩
  · omega
  · omega
  · omega
  · exact lt_asymm hid hid'

section Order

variable (clickhouse : ClickHouse) (data : AnalyticsData) (query : ReportQuery)

theorem matchingEvents_pairwise : (matchingEvents clickhouse data query).Pairwise fun a b => a.eventId ≠ b.eventId := by
  have hdistinct := data.eventIds.sublist (List.filter_sublist (p := fun row => matchesFilters clickhouse data query row.source))
  refine hdistinct.imp_of_mem fun ha hb hne => hne ?_
  rw [matchingEvents_application clickhouse data query ha, matchingEvents_application clickhouse data query hb]

/-- An id is of one matching event. -/
theorem matchingEvents_inj {a b : UsageEventRow} (ha : a ∈ matchingEvents clickhouse data query)
    (hb : b ∈ matchingEvents clickhouse data query) (h : a.eventId = b.eventId) : a = b := by
  have hnodup : ((matchingEvents clickhouse data query).map fun event => event.eventId).Nodup :=
    List.pairwise_map.mpr (matchingEvents_pairwise clickhouse data query)
  exact List.inj_on_of_nodup_map hnodup ha hb h

/-- Each event stands before those after it. -/
theorem newestFirst_sorted : (newestFirst (matchingEvents clickhouse data query)).Pairwise fun a b =>
    beforeCursor a.place b.place = true := by
  have htotal : Std.Total fun a b : UsageEventRow => laterEvent a.place b.place :=
    ⟨fun a b => laterEvent_total.total a.place b.place⟩
  have htrans : IsTrans UsageEventRow fun a b => laterEvent a.place b.place :=
    ⟨fun a b c => laterEvent_trans.trans a.place b.place c.place⟩
  have hsorted : (newestFirst (matchingEvents clickhouse data query)).Pairwise fun a b => laterEvent a.place b.place :=
    List.pairwise_insertionSort _ _
  have hdistinct : (newestFirst (matchingEvents clickhouse data query)).Pairwise fun a b => a.eventId ≠ b.eventId :=
    (List.perm_insertionSort _ _).symm.pairwise (matchingEvents_pairwise clickhouse data query) fun h => h.symm
  refine (hsorted.and hdistinct).imp fun {a b} h => ?_
  rw [beforeCursor_iff]
  rcases h with ⟨hlater | ⟨htime, hid⟩, hne⟩
  · exact .inl hlater
  · exact .inr ⟨htime, lt_of_le_of_ne hid fun heq => hne heq.symm⟩

end Order

/-! ## The pages -/

section Pages

variable (service : ReportService) (data : AnalyticsData) (request : ReportRequest) (query : ReportQuery)

/-- A page of usage, asked for with a cursor. -/
def usagePage (cursor : Option String) : Except ReportFailure (Page UsageReportItem String) := do
  let query ← reportQuery service .usage (request.at cursor)
  let page ← queryAnalyticsUsage service.platform service.clickhouse data query
  return ⟨page.items, page.nextCursor⟩

/-- An event with its own ratings and lines. -/
def ownRow (event : UsageEventRow) : UsageRow where
  event
  ratings := data.ratings.filter fun rating => event.eventTime = rating.eventTime ∧ event.eventId = rating.sourceEventId
  lines := data.lines.filter fun line =>
    line.applicationId = query.applicationId ∧ event.eventTime = line.eventTime ∧ event.eventId = line.eventId

/-- The cursor after an event, which is the nth. -/
def eventCursor (event : UsageEventRow) (n : Nat) : UsageCursor := ⟨unitsOf (isoString event.eventTime.1), unitsOf event.eventId, n⟩

/-- The matching events in the order of the pages. -/
def usageEvents : List UsageEventRow := newestFirst (matchingEvents service.clickhouse data query)

def usageItem (event : UsageEventRow) : Except ReportFailure UsageReportItem :=
  usageReportItem service.platform (ownRow data query event)

def usageReading : Reading UsageEventRow UsageReportItem (Int × String) String ReportFailure where
  rows := usageEvents service data query
  size := query.pageSize
  key := UsageEventRow.place
  after := beforeCursor
  present := usageItem service data query
  encode place := encodeUsageCursor ⟨unitsOf (isoString place.1.1), unitsOf place.1.2, place.2⟩
  decode text := do
    let cursor ← decodeUsageCursor service.platform text
    let place ← cursorPlace cursor
    return (place, cursor.position)

/-- The joins of a page are those of its events, by their ids. -/
theorem usageRows_own {page : List UsageEventRow} (h : ∀ a ∈ page, ∀ b ∈ page, a.eventId = b.eventId → a = b) :
    usageRows data query page = page.map (ownRow data query) := by
  unfold usageRows
  refine List.map_congr_left fun event hevent => ?_
  have hany (time : DateTime64) (id : String) :
      ((page.any fun e => e.eventTime = time ∧ e.eventId = id) && id = event.eventId) =
        decide (event.eventTime = time ∧ event.eventId = id) := by
    rw [Bool.eq_iff_iff]
    simp only [Bool.and_eq_true, List.any_eq_true, decide_eq_true_eq]
    constructor
    · rintro ⟨⟨e, he, htime, hid⟩, heq⟩
      rw [← h e he event hevent (hid.trans heq)]
      exact ⟨htime, hid⟩
    · rintro ⟨htime, hid⟩
      exact ⟨⟨event, hevent, htime, hid⟩, hid.symm⟩
  unfold ownRow
  simp only [Bool.and_assoc, hany]
  simp only [Bool.decide_and]

variable {service data request query}

theorem usageReading_present : (usageReading service data query).present = usageItem service data query := by
  simp only [usageReading]

theorem usageReading_encode (event : UsageEventRow) (n : Nat) :
    (usageReading service data query).encode ((usageReading service data query).key event, n) =
      encodeUsageCursor (eventCursor event n) := by
  simp only [usageReading, eventCursor, UsageEventRow.place]

theorem mem_usageEvents {event : UsageEventRow} :
    event ∈ usageEvents service data query ↔ event ∈ matchingEvents service.clickhouse data query :=
  (List.perm_insertionSort _ _).mem_iff

theorem usageEvents_length : (usageEvents service data query).length = (matchingEvents service.clickhouse data query).length :=
  List.length_insertionSort _ _

theorem cursorPlace_eventCursor (event : UsageEventRow) (n : Nat) : cursorPlace (eventCursor event n) = .ok event.place := by
  obtain ⟨hyear, hyear'⟩ := year_bounds event.eventTime
  have hread : parseDateTime64BestEffort (textOf (eventCursor event n).eventTime) = some event.eventTime.1 := by
    unfold parseDateTime64BestEffort eventCursor
    rw [textOf_unitsOf]
    exact readIso_isoString (by omega) (by omega)
  have hid : textOf (eventCursor event n).eventId = event.eventId := textOf_unitsOf event.eventId
  unfold cursorPlace
  rw [hread, hid]
  rfl

/-- A cursor that was written is read to the place of its event. -/
theorem usageReading_decode (event : UsageEventRow) (n : Nat) :
    (usageReading service data query).decode (encodeUsageCursor (eventCursor event n)) =
      if (eventCursor event n).Readable service.platform then .ok (event.place, n) else .error badCursor := by
  unfold usageReading
  simp only [decodeUsageCursor_encode]
  by_cases hreadable : (eventCursor event n).Readable service.platform
  · rw [if_pos hreadable, if_pos hreadable]
    simp only [bind, Except.bind, cursorPlace_eventCursor]
    rfl
  · rw [if_neg hreadable, if_neg hreadable]
    rfl

theorem usageReading_lawful (hsize : 0 < query.pageSize) : (usageReading service data query).Lawful where
  size := hsize
  sorted := newestFirst_sorted service.clickhouse data query
  irrefl := beforeCursor_irrefl
  asymm := beforeCursor_asymm
  exact := by
    intro event _ n place hplace
    have hdecode : (usageReading service data query).decode (encodeUsageCursor (eventCursor event n)) = .ok place := hplace
    rw [usageReading_decode] at hdecode
    split at hdecode
    · exact (Except.ok.inj hdecode).symm
    · cases hdecode

/-- The place of an event, which is the nth. -/
def eventPlace (at_ : UsageEventRow × Nat) : Place (Int × String) := (at_.1.place, at_.2)

/-- The cursor after a page names its last event. -/
theorem nextUsageCursor_items {query : ReportQuery} {items : List UsageReportItem} {taken : List UsageEventRow}
    (h : items.map (fun item => (item.eventTime, item.eventId)) =
      taken.map fun event => (isoString event.eventTime.1, event.eventId)) (total : Nat) :
    nextUsageCursor query items total =
      let position := (query.usageCursor.map UsageCursor.position).getD 0 + taken.length
      taken.getLast?.bind fun last => if position < total then some (encodeUsageCursor (eventCursor last position)) else none := by
  have hlength : items.length = taken.length := by
    have := congrArg List.length h
    rwa [List.length_map, List.length_map] at this
  have hlast := congrArg List.getLast? h
  rw [List.getLast?_map, List.getLast?_map] at hlast
  unfold nextUsageCursor eventCursor
  rw [hlength]
  cases hitem : items.getLast? with
  | none =>
    rw [hitem] at hlast
    rw [Option.map_eq_none_iff.mp hlast.symm]
    rfl
  | some item =>
    rw [hitem] at hlast
    obtain ⟨event, hevent, heq⟩ := Option.map_eq_some_iff.mp hlast.symm
    obtain ⟨htime, hid⟩ := Prod.mk.inj heq
    rw [hevent]
    simp only [Option.bind_some, htime, hid]

/-- The page after an event is that of the reading. -/
theorem queryAnalyticsUsage_at (hruns : query.filters.forM (checkCondition service.clickhouse) = .ok ())
    (htotal : query.knownUsageTotal = none)
    (hcount : (matchingEvents service.clickhouse data query).length ≤ 9007199254740991) (at_ : Option (UsageEventRow × Nat)) :
    ((queryAnalyticsUsage service.platform service.clickhouse data
        (query.at (at_.map fun e => eventCursor e.1 e.2) none)).bind fun page =>
      .ok (⟨page.items, page.nextCursor⟩ : Page UsageReportItem String)) =
    ((usageReading service data query).taken (at_.map eventPlace)).mapM (usageItem service data query) >>= fun items =>
      .ok ⟨items, (usageReading service data query).cursor (at_.map eventPlace)
        ((usageReading service data query).taken (at_.map eventPlace))⟩ := by
  have hplace : (at_.map fun e => eventCursor e.1 e.2).mapM cursorPlace = .ok (at_.map fun e => e.1.place) := by
    cases at_ with
    | none => rfl
    | some e =>
      simp only [Option.map_some, Option.mapM_some, cursorPlace_eventCursor]
      rfl
  have hpage : pageEvents service.clickhouse data (query.at (at_.map fun e => eventCursor e.1 e.2) none)
      (at_.map fun e => e.1.place) = (usageReading service data query).taken (at_.map eventPlace) := by
    cases at_ <;> rfl
  have hcounted : reportCount (usageTotal service.clickhouse data (query.at (at_.map fun e => eventCursor e.1 e.2) none)) =
      .ok (usageEvents service data query).length := by
    rw [usageEvents_length]
    unfold usageTotal ReportQuery.at
    simp only [htotal]
    exact if_pos hcount
  have hevents : ∀ event ∈ (usageReading service data query).taken (at_.map eventPlace),
      event ∈ matchingEvents service.clickhouse data query := fun event hevent =>
    mem_usageEvents.mp (Reading.taken_mem hevent)
  generalize htaken : (usageReading service data query).taken (at_.map eventPlace) = taken at hpage hevents ⊢
  have hrows : usageRows data (query.at (at_.map fun e => eventCursor e.1 e.2) none) taken = taken.map (ownRow data query) :=
    usageRows_own data query fun a ha b hb => matchingEvents_inj service.clickhouse data query (hevents a ha) (hevents b hb)
  have hmapM : (usageRows data (query.at (at_.map fun e => eventCursor e.1 e.2) none) taken).mapM
      (usageReportItem service.platform) = taken.mapM (usageItem service data query) := by
    have hitem : usageReportItem service.platform ∘ ownRow data query = usageItem service data query := by
      funext event
      unfold usageItem
      exact Function.comp_apply
    rw [hrows, List.mapM_map, hitem]
  unfold queryAnalyticsUsage execute
  have hruns' : (query.at (at_.map fun e => eventCursor e.1 e.2) none).filters.forM (checkCondition service.clickhouse) = .ok () :=
    hruns
  have hcursor : (query.at (at_.map fun e => eventCursor e.1 e.2) none).usageCursor = at_.map fun e => eventCursor e.1 e.2 := rfl
  rw [hruns', hcursor, hplace]
  simp only [bind, Except.bind, hpage, hmapM, hcounted]
  cases hitems : taken.mapM (usageItem service data query) with
  | error failure => rfl
  | ok items =>
    have hmap : items.map (fun item => (item.eventTime, item.eventId)) =
        taken.map fun event => (isoString event.eventTime.1, event.eventId) :=
      mapM_map hitems fun event item hitem => by
        obtain ⟨-, htime, hid⟩ := usageReportItem_ok hitem
        rw [htime, hid]
        rfl
    have hnext := @nextUsageCursor_items (query.at (at_.map fun e => eventCursor e.1 e.2) none) _ _ hmap
      (usageEvents service data query).length
    simp only [hnext]
    unfold Reading.cursor
    cases at_ <;> rfl

/-- A request after an event, in its parts. -/
theorem usageReading_request (at_ : Option (UsageEventRow × Nat)) {c : Option String}
    (hc : (usageReading service data query).readCursor c = .ok (at_.map eventPlace)) :
    (usageReading service data query).request c =
      ((usageReading service data query).taken (at_.map eventPlace)).mapM (usageItem service data query) >>= fun items =>
        .ok ⟨items, (usageReading service data query).cursor (at_.map eventPlace)
          ((usageReading service data query).taken (at_.map eventPlace))⟩ := by
  unfold Reading.request
  rw [hc, usageReading_present]
  rfl

/-- The requests of a query are those of the reading. -/
theorem usagePage_agrees (hquery : reportQuery service .usage (request.at none) = .ok query)
    (hruns : query.filters.forM (checkCondition service.clickhouse) = .ok ())
    (hcount : (matchingEvents service.clickhouse data query).length ≤ 9007199254740991) :
    (usageReading service data query).Agrees (usagePage service data request) := by
  obtain ⟨-, htotal, -, -, hparsed⟩ := reportQuery_at hquery (by decide)
  intro c hc
  unfold usagePage
  rw [hparsed]
  cases c with
  | none =>
    rw [usageReading_request none rfl, ← queryAnalyticsUsage_at hruns htotal hcount none]
    rfl
  | some text =>
    obtain ⟨event, -, n, rfl⟩ := hc text rfl
    have htext : (some (encodeUsageCursor (eventCursor event n))).filter (· ≠ "") =
        some (encodeUsageCursor (eventCursor event n)) :=
      Option.filter_eq_some_iff.mpr ⟨rfl, decide_eq_true (encodeUsageCursor_ne _)⟩
    have hdecode := @usageReading_decode service data query event n
    have husage : usageCursorText service.platform .usage (some (encodeUsageCursor (eventCursor event n))) =
        if (eventCursor event n).Readable service.platform then .ok (some (eventCursor event n)) else .error badCursor := by
      unfold usageCursorText
      simp only [decodeUsageCursor_encode]
      split <;> rfl
    change (do
      let query ← (do
        let usageCursor ← usageCursorText service.platform .usage
          ((some (encodeUsageCursor (eventCursor event n))).filter (· ≠ ""))
        let groupCursor ← groupCursorText .usage (groupCursorDimension query)
          ((some (encodeUsageCursor (eventCursor event n))).filter (· ≠ ""))
        return query.at usageCursor groupCursor)
      let page ← queryAnalyticsUsage service.platform service.clickhouse data query
      return ⟨page.items, page.nextCursor⟩) =
        (usageReading service data query).request (some (encodeUsageCursor (eventCursor event n)))
    rw [htext, husage]
    by_cases hreadable : (eventCursor event n).Readable service.platform
    · rw [if_pos hreadable] at hdecode ⊢
      have hread : (usageReading service data query).readCursor (some (encodeUsageCursor (eventCursor event n))) =
          .ok ((some (event, n)).map eventPlace) := by
        simp only [Reading.readCursor, hdecode]
        rfl
      rw [usageReading_request (some (event, n)) hread, ← queryAnalyticsUsage_at hruns htotal hcount (some (event, n))]
      rfl
    · rw [if_neg hreadable] at hdecode ⊢
      have hread : (usageReading service data query).readCursor (some (encodeUsageCursor (eventCursor event n))) =
          .error badCursor := by
        simp only [Reading.readCursor, hdecode]
        rfl
      unfold Reading.request
      rw [hread]
      rfl

/-- What the pages of a query of usage need: complete events, a count of them that is a safe
    integer, and at the end of each page but the last an id that the decoder admits. -/
structure UsageReadable (service : ReportService) (data : AnalyticsData) (query : ReportQuery) : Prop where
  complete : ∀ event ∈ matchingEvents service.clickhouse data query, event.Complete
  countable : (matchingEvents service.clickhouse data query).length ≤ 9007199254740991
  ends : ∀ before event after, usageEvents service data query = before ++ event :: after → after ≠ [] →
    query.pageSize ∣ before.length + 1 → (unitsOf event.eventId).length ≤ 256

theorem isoInstant_isoString (platform : Analytics.Platform) (t : DateTime64) :
    isoInstant platform (unitsOf (isoString t.1)) = true := by
  obtain ⟨hyear, hyear'⟩ := year_bounds t
  have hdate : platform.date (textOf (unitsOf (isoString t.1))) = some t.1 := by
    unfold Analytics.Platform.date
    rw [textOf_unitsOf, readIso_isoString (by omega) (by omega), Option.some_or]
  unfold isoInstant
  rw [hdate, Option.any_some, decide_eq_true_eq]

theorem unitsOf_pos {s : String} (h : s ≠ "") : 1 ≤ (unitsOf s).length := by
  rw [Nat.one_le_iff_ne_zero, Ne, List.length_eq_zero_iff]
  intro hempty
  exact h (Quota.Token.unitsOf_injective (hempty.trans rfl))

theorem eventCursor_readable {platform : Analytics.Platform} {event : UsageEventRow} (h : event.eventId ≠ "") {n : Nat}
    (hn : n + 1 ≤ 9007199254740991) :
    (eventCursor event (n + 1)).Readable platform ↔ (unitsOf event.eventId).length ≤ 256 := by
  have hinstant := isoInstant_isoString platform event.eventTime
  have hid := unitsOf_pos h
  simp only [UsageCursor.Readable, eventCursor, hinstant, hid, true_and]
  omega

theorem usageReading_accepted (before : List UsageEventRow) (event : UsageEventRow) :
    (usageReading service data query).Accepted before event ↔ (eventCursor event (before.length + 1)).Readable service.platform := by
  have hdecode := @usageReading_decode service data query event (before.length + 1)
  unfold Reading.Accepted
  rw [usageReading_encode, hdecode]
  split
  · exact iff_of_true rfl ‹_›
  · exact iff_of_false (fun h => nomatch h) ‹_›

/-- A page is given only while the events can be counted. -/
theorem usagePage_countable (hquery : reportQuery service .usage (request.at none) = .ok query)
    {page : Page UsageReportItem String} (hpage : usagePage service data request none = .ok page) :
    (matchingEvents service.clickhouse data query).length ≤ 9007199254740991 := by
  obtain ⟨-, htotal, -, -, -⟩ := reportQuery_at hquery (by decide)
  unfold usagePage at hpage
  rw [hquery] at hpage
  obtain ⟨query', hquery', hpage⟩ := bind_ok hpage
  cases hquery'
  obtain ⟨envelope, hread, -⟩ := bind_ok hpage
  unfold queryAnalyticsUsage execute at hread
  obtain ⟨_, -, hread⟩ := bind_ok hread
  obtain ⟨_, -, hread⟩ := bind_ok hread
  obtain ⟨_, -, hread⟩ := bind_ok hread
  obtain ⟨total, hcount, -⟩ := bind_ok hread
  unfold reportCount usageTotal at hcount
  rw [htotal, Option.getD_none] at hcount
  by_contra hlarge
  rw [if_neg hlarge] at hcount
  cases hcount

/-- Every matching event is given once, in the order of the pages. -/
def UsageEnumerated (service : ReportService) (data : AnalyticsData) (request : ReportRequest) (query : ReportQuery) : Prop :=
  ∃ items, (usageEvents service data query).mapM (usageItem service data query) = .ok items ∧
    Enumerates (usagePage service data request) encodeUsageCursor (decodeUsageCursor service.platform) items

theorem usageItems_of (h : ∀ event ∈ matchingEvents service.clickhouse data query, event.Complete) :
    ∃ items, (usageEvents service data query).mapM (usageItem service data query) = .ok items := by
  cases hitems : (usageEvents service data query).mapM (usageItem service data query) with
  | ok items => exact ⟨items, rfl⟩
  | error failure =>
    obtain ⟨event, hevent, hitem⟩ := mapM_throws hitems
    obtain ⟨item, hitem'⟩ := @usageReportItem_of service.platform (ownRow data query event)
      (h event (mem_usageEvents.mp hevent))
    unfold usageItem at hitem
    rw [hitem'] at hitem
    cases hitem

theorem usageEnd_accepted (hcomplete : ∀ event ∈ matchingEvents service.clickhouse data query, event.Complete)
    (hcount : (matchingEvents service.clickhouse data query).length ≤ 9007199254740991) {before after : List UsageEventRow}
    {event : UsageEventRow} (hsplit : usageEvents service data query = before ++ event :: after) :
    (usageReading service data query).Accepted ([] ++ before) event ↔ (unitsOf event.eventId).length ≤ 256 := by
  have hevent : event ∈ matchingEvents service.clickhouse data query := by
    rw [← mem_usageEvents, hsplit]
    simp
  have hlength := congrArg List.length hsplit
  rw [usageEvents_length, List.length_append, List.length_cons] at hlength
  rw [List.nil_append, usageReading_accepted]
  exact eventCursor_readable (hcomplete event hevent).eventId (by omega)

theorem usageEnumerated_iff (hquery : reportQuery service .usage (request.at none) = .ok query)
    (hruns : query.filters.forM (checkCondition service.clickhouse) = .ok ()) :
    UsageEnumerated service data request query ↔ UsageReadable service data query := by
  have hsize : 0 < query.pageSize := by
    obtain ⟨hsize, -⟩ := reportQuery_at hquery (by decide)
    have := request.pageSizes
    omega
  have hlawful := @usageReading_lawful service data _ hsize
  constructor
  · rintro ⟨items, hitems, hpages, -⟩
    obtain ⟨page, hpage⟩ := hpages.page
    have hcount := usagePage_countable hquery hpage
    have hagrees := usagePage_agrees hquery hruns hcount
    obtain ⟨-, hends⟩ := (hlawful.follows_iff_of_agrees hagrees items).mp hpages
    have hcomplete : ∀ event ∈ matchingEvents service.clickhouse data query, event.Complete := by
      intro event hevent
      obtain ⟨item, -, hitem⟩ := mapM_result hitems (mem_usageEvents.mpr hevent)
      exact (usageReportItem_ok hitem).1
    refine ⟨hcomplete, hcount, fun before event after hsplit hafter hdvd => ?_⟩
    have haccepted := hends before event after hsplit hafter hdvd
    exact (usageEnd_accepted hcomplete hcount hsplit).mp haccepted
  · intro h
    obtain ⟨items, hitems⟩ := usageItems_of h.complete
    have hagrees := usagePage_agrees hquery hruns h.countable
    have hpages : Follows (usagePage service data request) none items := by
      refine (hlawful.follows_iff_of_agrees hagrees items).mpr ⟨?_, fun before event after hsplit hafter hdvd => ?_⟩
      · rw [usageReading_present]
        exact hitems
      · exact (usageEnd_accepted h.complete h.countable hsplit).mpr (h.ends before event after hsplit hafter hdvd)
    refine ⟨items, hitems, enumerates_of_follows hpages fun {c page next} hasked hpage hnext => ?_⟩
    rw [hagrees c (hagrees.asked hasked)] at hpage
    obtain ⟨event, hevent, n, hwritten⟩ := Reading.written_next hpage hnext next rfl
    rw [usageReading_encode] at hwritten
    subst hwritten
    refine ⟨eventCursor event n, rfl, fun following hfollowing => ?_⟩
    rw [hagrees _ (hagrees.asked (.next hasked ((hagrees c (hagrees.asked hasked)).trans hpage) hnext))] at hfollowing
    obtain ⟨place, hdecode⟩ := Reading.request_decodes hfollowing
    rw [usageReading_decode] at hdecode
    rw [decodeUsageCursor_encode]
    split at hdecode
    · rw [if_pos ‹_›]
    · cases hdecode

end Pages

end TokenPilot.Reports
