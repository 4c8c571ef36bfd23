/-
  TokenPilot.Reports.GroupPages — following the cursors of a report that is grouped.

  Provider costs and AIU are paged alike: a `GroupReport` has the groups in the order of their
  keys, and its pages are those of a `Reading` of them. A key is any text that events have; the
  decoder admits 2048 units of it.

  - `providerEnumerated_iff`, `aiuEnumerated_iff`: the pages give every group once, in their
    order, exactly when the groups can be presented and counted and the cursor at the end of
    each page but the last is one that the decoder admits.
-/

import TokenPilot.Reports.UsagePages

namespace TokenPilot.Reports

open TokenPilot.Library
open TokenPilot.Quota.Token (unitsOf textOf)

/-! ## Pages of groups -/

/-- The groups of a report, their keys, and which of two keys is behind the other. -/
structure GroupReport (ρ : Type) where
  kind : GroupKind
  key : ρ → String × String
  after : String × String → String × String → Bool
  present : ρ → Except ReportFailure ρ
  presents : ∀ group presented, present group = .ok presented → presented = group
  irrefl : ∀ key, after key key = false
  asymm : ∀ key other, after key other = true → after other key = false

section Pages

variable {ρ : Type} (report : GroupReport ρ) (query : ReportQuery) (groups : List ρ)

/-- The cursor of a place. -/
def placeCursor (place : Place (String × String)) : GroupCursor :=
  ⟨report.kind, groupCursorDimension query, unitsOf place.1.1, unitsOf place.1.2, place.2⟩

def groupReading : Reading ρ ρ (String × String) String ReportFailure where
  rows := groups
  size := query.pageSize
  key := report.key
  after := report.after
  present := report.present
  encode place := encodeGroupCursor (placeCursor report query place)
  decode text := (decodeGroupCursor text report.kind (groupCursorDimension query)).map fun cursor =>
    (groupPlace cursor, cursor.position)

variable {report query groups}

/-- A cursor that was written is read to its place. -/
theorem groupReading_decode (place : Place (String × String)) :
    (groupReading report query groups).decode (encodeGroupCursor (placeCursor report query place)) =
      if (placeCursor report query place).Readable then .ok place else .error badCursor := by
  have hplace : (groupPlace (placeCursor report query place), (placeCursor report query place).position) = place := by
    unfold groupPlace placeCursor
    simp only [textOf_unitsOf]
  have hdecode := decodeGroupCursor_encode (placeCursor report query place)
  have hkind : (placeCursor report query place).kind = report.kind := rfl
  have hdimension : (placeCursor report query place).dimension = groupCursorDimension query := rfl
  rw [hkind, hdimension] at hdecode
  simp only [groupReading, hdecode]
  split
  · simp only [Except.map, hplace]
  · rfl

theorem groupReading_lawful (hsize : 0 < query.pageSize)
    (hsorted : groups.Pairwise fun a b => report.after (report.key a) (report.key b) = true) :
    (groupReading report query groups).Lawful where
  size := hsize
  sorted := hsorted
  irrefl := report.irrefl
  asymm := report.asymm
  exact := by
    intro group _ n place hplace
    have hdecode : (groupReading report query groups).decode
        (encodeGroupCursor (placeCursor report query (report.key group, n))) = .ok place := hplace
    rw [groupReading_decode] at hdecode
    split at hdecode
    · exact (Except.ok.inj hdecode).symm
    · cases hdecode

theorem groupReading_accepted (before : List ρ) (group : ρ) :
    (groupReading report query groups).Accepted before group ↔
      (placeCursor report query (report.key group, before.length + 1)).Readable := by
  have hdecode := @groupReading_decode _ report query groups (report.key group, before.length + 1)
  unfold Reading.Accepted
  change (groupReading report query groups).decode
    (encodeGroupCursor (placeCursor report query (report.key group, before.length + 1))) = _ ↔ _
  rw [hdecode]
  split
  · exact iff_of_true rfl ‹_›
  · exact iff_of_false (fun h => nomatch h) ‹_›

/-! ## Requests -/

/-- A page of groups, asked for with a cursor; `answer` is the query of the report. -/
def groupPage (service : ReportService) (kind : ReportKind) (answer : ReportQuery → Except ReportFailure (Page ρ String))
    (request : ReportRequest) (cursor : Option String) : Except ReportFailure (Page ρ String) := do
  let query ← reportQuery service kind (request.at cursor)
  answer query

/-- The query of a report gives the groups after a place. -/
def Answers (report : GroupReport ρ) (query : ReportQuery) (groups : List ρ)
    (answer : ReportQuery → Except ReportFailure (Page ρ String)) : Prop :=
  ∀ at_ : Option (Place (String × String)), answer (query.at none (at_.map (placeCursor report query))) =
    ((groupReading report query groups).taken at_).mapM report.present >>= fun items =>
      .ok ⟨items, (groupReading report query groups).cursor at_ ((groupReading report query groups).taken at_)⟩

/-- The cursor after a page is that of the reading. -/
theorem nextGroupCursor_taken (at_ : Option (Place (String × String))) (taken : List ρ) :
    nextGroupCursor (query.at none (at_.map (placeCursor report query))) report.kind (taken.getLast?.map report.key)
      taken.length groups.length = (groupReading report query groups).cursor at_ taken := by
  unfold nextGroupCursor Reading.cursor
  cases at_ <;> cases taken.getLast? <;> rfl

variable {service : ReportService} {kind : ReportKind} {answer : ReportQuery → Except ReportFailure (Page ρ String)}
  {request : ReportRequest}

theorem groupReading_request (at_ : Option (Place (String × String))) {c : Option String}
    (hc : (groupReading report query groups).readCursor c = .ok at_) :
    (groupReading report query groups).request c =
      ((groupReading report query groups).taken at_).mapM report.present >>= fun items =>
        .ok ⟨items, (groupReading report query groups).cursor at_ ((groupReading report query groups).taken at_)⟩ := by
  unfold Reading.request
  rw [hc]
  rfl

/-- The requests of a query are those of the reading. -/
theorem groupPage_agrees (hquery : reportQuery service kind (request.at none) = .ok query)
    (hkind : kind.pagination = .groups report.kind) (hanswer : Answers report query groups answer) :
    (groupReading report query groups).Agrees (groupPage service kind answer request) := by
  have hpaged : kind.pagination ≠ .none := by
    rw [hkind]
    exact fun h => nomatch h
  obtain ⟨-, -, -, -, hparsed⟩ := reportQuery_at hquery hpaged
  intro c hc
  unfold groupPage
  rw [hparsed, hkind]
  cases c with
  | none =>
    rw [groupReading_request none rfl, ← hanswer none]
    rfl
  | some text =>
    obtain ⟨group, -, n, hwritten⟩ := hc text rfl
    have htext : text = encodeGroupCursor (placeCursor report query (report.key group, n)) := hwritten
    subst htext
    generalize report.key group = key
    have hfilter : (some (encodeGroupCursor (placeCursor report query (key, n)))).filter (· ≠ "") =
        some (encodeGroupCursor (placeCursor report query (key, n))) :=
      Option.filter_eq_some_iff.mpr ⟨rfl, decide_eq_true (encodeGroupCursor_ne _)⟩
    have hdecode := @groupReading_decode _ report query groups (key, n)
    have hgroup : groupCursorText (.groups report.kind) (groupCursorDimension query)
        (some (encodeGroupCursor (placeCursor report query (key, n)))) =
          if (placeCursor report query (key, n)).Readable then .ok (some (placeCursor report query (key, n)))
          else .error badCursor := by
      have hwhole := decodeGroupCursor_encode (placeCursor report query (key, n))
      change (decodeGroupCursor (encodeGroupCursor (placeCursor report query (key, n))) (placeCursor report query (key, n)).kind
        (placeCursor report query (key, n)).dimension).map some = _
      rw [hwhole]
      split <;> rfl
    rw [hfilter, hgroup]
    by_cases hreadable : (placeCursor report query (key, n)).Readable
    · rw [if_pos hreadable] at hdecode ⊢
      have hread : (groupReading report query groups).readCursor
          (some (encodeGroupCursor (placeCursor report query (key, n)))) = .ok (some (key, n)) := by
        simp only [Reading.readCursor, hdecode]
        rfl
      rw [groupReading_request (some (key, n)) hread, ← hanswer (some (key, n))]
      rfl
    · rw [if_neg hreadable] at hdecode ⊢
      have hread : (groupReading report query groups).readCursor
          (some (encodeGroupCursor (placeCursor report query (key, n)))) = .error badCursor := by
        simp only [Reading.readCursor, hdecode]
        rfl
      unfold Reading.request
      rw [hread]
      rfl

/-- The cursors at the ends of the pages but the last are ones that the decoder admits. -/
def EndsReadable (report : GroupReport ρ) (query : ReportQuery) (groups : List ρ) : Prop :=
  ∀ before group after, groups = before ++ group :: after → after ≠ [] → query.pageSize ∣ before.length + 1 →
    (placeCursor report query (report.key group, before.length + 1)).Readable

theorem present_groups : (groups.mapM report.present = .ok groups) ↔ ∀ group ∈ groups, report.present group = .ok group := by
  constructor
  · intro h group hgroup
    obtain ⟨presented, -, hpresented⟩ := mapM_result h hgroup
    rwa [report.presents group presented hpresented] at hpresented
  · intro h
    cases hgroups : groups.mapM report.present with
    | ok presented =>
      have hmap := mapM_map (k := id) (g := id) hgroups fun group presented hpresented => report.presents group presented hpresented
      rw [List.map_id, List.map_id] at hmap
      rw [hmap]
    | error failure =>
      obtain ⟨group, hgroup, hfailure⟩ := mapM_throws hgroups
      rw [h group hgroup] at hfailure
      cases hfailure

theorem groupEnumerates_iff (hquery : reportQuery service kind (request.at none) = .ok query)
    (hkind : kind.pagination = .groups report.kind) (hanswer : Answers report query groups answer)
    (hsorted : groups.Pairwise fun a b => report.after (report.key a) (report.key b) = true) :
    Enumerates (groupPage service kind answer request) encodeGroupCursor
        (fun text => decodeGroupCursor text report.kind (groupCursorDimension query)) groups ↔
      (∀ group ∈ groups, report.present group = .ok group) ∧ EndsReadable report query groups := by
  have hpaged : kind.pagination ≠ .none := by
    rw [hkind]
    exact fun h => nomatch h
  have hsize : 0 < query.pageSize := by
    obtain ⟨hsize, -⟩ := reportQuery_at hquery hpaged
    have := request.pageSizes
    omega
  have hlawful := groupReading_lawful hsize hsorted
  have hagrees := groupPage_agrees hquery hkind hanswer
  have hends : (groupReading report query groups).EndsAccepted [] groups ↔ EndsReadable report query groups := by
    unfold Reading.EndsAccepted EndsReadable
    simp only [List.nil_append, groupReading_accepted]
    rfl
  have hfollows := hlawful.follows_iff_of_agrees hagrees groups
  constructor
  · rintro ⟨hpages, -⟩
    obtain ⟨hpresented, haccepted⟩ := hfollows.mp hpages
    exact ⟨present_groups.mp hpresented, hends.mp haccepted⟩
  · rintro ⟨hpresented, hreadable⟩
    have hpages := hfollows.mpr ⟨present_groups.mpr hpresented, hends.mpr hreadable⟩
    refine enumerates_of_follows hpages fun {c page next} hasked hpage hnext => ?_
    rw [hagrees c (hagrees.asked hasked)] at hpage
    obtain ⟨group, hgroup, n, hwritten⟩ := Reading.written_next hpage hnext next rfl
    have htext : next = encodeGroupCursor (placeCursor report query (report.key group, n)) := hwritten
    subst htext
    refine ⟨placeCursor report query (report.key group, n), rfl, fun following hfollowing => ?_⟩
    rw [hagrees _ (hagrees.asked (.next hasked ((hagrees c (hagrees.asked hasked)).trans hpage) hnext))] at hfollowing
    obtain ⟨place, hdecode⟩ := Reading.request_decodes hfollowing
    rw [groupReading_decode] at hdecode
    have hwhole := decodeGroupCursor_encode (placeCursor report query (report.key group, n))
    change decodeGroupCursor (encodeGroupCursor (placeCursor report query (report.key group, n)))
      (placeCursor report query (report.key group, n)).kind (placeCursor report query (report.key group, n)).dimension = _
    rw [hwhole]
    split at hdecode
    · rw [if_pos ‹_›]
    · cases hdecode

end Pages

/-! ## Keys -/

/-- A sorted list of distinct keys is strictly sorted. -/
theorem sorted_strict {ρ κ : Type} {le : ρ → ρ → Prop} [DecidableRel le] [Std.Total le] [IsTrans ρ le] {key : ρ → κ}
    {lt : κ → κ → Prop} (hlt : ∀ a b, le a b → key a ≠ key b → lt (key a) (key b)) {rows : List ρ}
    (hkeys : (rows.map key).Nodup) : (rows.insertionSort le).Pairwise fun a b => lt (key a) (key b) := by
  have hsorted : (rows.insertionSort le).Pairwise le := List.pairwise_insertionSort _ _
  have hdistinct : (rows.insertionSort le).Pairwise fun a b => key a ≠ key b :=
    List.pairwise_map.mp (((List.perm_insertionSort le rows).map key).nodup_iff.mpr hkeys)
  exact (hsorted.and hdistinct).imp fun {a b} h => hlt a b h.1 h.2

/-! ## Provider cost -/

theorem afterProviderCursor_iff (cursor group : String × String) :
    afterProviderCursor cursor group = true ↔ cursor.1 < group.1 ∨ group.1 = cursor.1 ∧ cursor.2 < group.2 := by
  unfold afterProviderCursor
  simp only [Bool.or_eq_true, Bool.and_eq_true, decide_eq_true_eq]

def providerReport : GroupReport ProviderCostGroup where
  kind := .providerCost
  key := ProviderCostGroup.place
  after := afterProviderCursor
  present := costGroup
  presents group presented h := by
    unfold costGroup at h
    split at h
    · cases h
    · exact (Except.ok.inj h).symm
  irrefl key := by
    rw [Bool.eq_false_iff, Ne, afterProviderCursor_iff]
    rintro (h | ⟨-, h⟩)
    · exact lt_irrefl _ h
    · exact lt_irrefl _ h
  asymm key other h := by
    rw [afterProviderCursor_iff] at h
    rw [Bool.eq_false_iff, Ne, afterProviderCursor_iff]
    rintro (h' | ⟨h', hcurrency'⟩) <;> rcases h with h | ⟨h, hcurrency⟩
    · exact lt_asymm h h'
    · exact lt_irrefl _ (h ▸ h')
    · exact lt_irrefl _ (h' ▸ h)
    · exact lt_asymm hcurrency hcurrency'

section ProviderCost

variable (service : ReportService) (data : AnalyticsData)

def providerAnswer (query : ReportQuery) : Except ReportFailure (Page ProviderCostGroup String) := do
  let result ← queryAnalyticsProviderCost service.clickhouse data query
  return ⟨result.groups, result.nextCursor⟩

variable {service data} {request : ReportRequest} {query : ReportQuery}

theorem providerGroups_sorted : (providerGroups service.clickhouse data query).Pairwise fun a b =>
    afterProviderCursor a.place b.place = true := by
  have htotal : Std.Total fun a b : ProviderCostGroup => a.key < b.key ∨ a.key = b.key ∧ a.currency ≤ b.currency :=
    ⟨fun a b => by
      rcases lt_trichotomy a.key b.key with h | h | h
      · exact .inl (.inl h)
      · rcases le_total a.currency b.currency with h' | h'
        · exact .inl (.inr ⟨h, h'⟩)
        · exact .inr (.inr ⟨h.symm, h'⟩)
      · exact .inr (.inl h)⟩
  have htrans : IsTrans ProviderCostGroup fun a b => a.key < b.key ∨ a.key = b.key ∧ a.currency ≤ b.currency :=
    ⟨fun a b c => by
      rintro (hab | ⟨hab, hab'⟩) (hbc | ⟨hbc, hbc'⟩)
      · exact .inl (lt_trans hab hbc)
      · exact .inl (hbc ▸ hab)
      · exact .inl (hab ▸ hbc)
      · exact .inr ⟨hab.trans hbc, le_trans hab' hbc'⟩⟩
  unfold providerGroups
  refine @sorted_strict _ _ _ _ _ _ ProviderCostGroup.place (fun a b => afterProviderCursor a b = true) ?_ _ ?_
  · rintro a b hle hne
    rw [afterProviderCursor_iff]
    rcases hle with h | ⟨hkey, hcurrency⟩
    · exact .inl h
    · exact .inr ⟨hkey.symm, lt_of_le_of_ne hcurrency fun heq => hne (Prod.ext hkey heq)⟩
  · rw [List.map_map]
    exact groupBy_keys _ _

theorem providerPage_at (at_ : Option (Place (String × String))) :
    providerPage service.clickhouse data (query.at none (at_.map (placeCursor providerReport query))) =
      (groupReading providerReport query (providerGroups service.clickhouse data query)).taken at_ := by
  cases at_ with
  | none => rfl
  | some place =>
    have hplace : groupPlace (placeCursor providerReport query place) = place.1 := by
      unfold groupPlace placeCursor
      simp only [textOf_unitsOf]
    unfold providerPage Reading.taken ReportQuery.at
    simp only [Option.map_some, hplace]
    rfl

theorem reportCount_ok {n m : Nat} (h : reportCount n = .ok m) : n ≤ 9007199254740991 ∧ m = n := by
  unfold reportCount at h
  by_cases hn : n ≤ 9007199254740991
  · rw [if_pos hn] at h
    exact ⟨hn, (Except.ok.inj h).symm⟩
  · rw [if_neg hn] at h
    cases h

theorem reportCount_of {n : Nat} (h : n ≤ 9007199254740991) : reportCount n = .ok n := if_pos h

/-- The counts of a report of provider cost are safe integers. -/
structure ProviderCountable (service : ReportService) (data : AnalyticsData) (query : ReportQuery) : Prop where
  groups : (providerGroups service.clickhouse data query).length ≤ 9007199254740991
  unpriced : unpricedEvents service.clickhouse data query ≤ 9007199254740991

theorem providerAnswer_of (hchecked : checkGroup query = .ok ())
    (hruns : query.filters.forM (checkCondition service.clickhouse) = .ok ())
    (hcount : ProviderCountable service data query) :
    Answers providerReport query (providerGroups service.clickhouse data query) (providerAnswer service data) := by
  intro at_
  have hgroups : providerGroups service.clickhouse data (query.at none (at_.map (placeCursor providerReport query))) =
      providerGroups service.clickhouse data query := rfl
  have hunpriced : unpricedEvents service.clickhouse data (query.at none (at_.map (placeCursor providerReport query))) =
      unpricedEvents service.clickhouse data query := rfl
  have hchecked' : checkGroup (query.at none (at_.map (placeCursor providerReport query))) = .ok () := hchecked
  have hruns' : (query.at none (at_.map (placeCursor providerReport query))).filters.forM
      (checkCondition service.clickhouse) = .ok () := hruns
  unfold providerAnswer queryAnalyticsProviderCost execute
  rw [hchecked', hruns', hgroups, hunpriced, reportCount_of hcount.groups, reportCount_of hcount.unpriced, providerPage_at]
  generalize htaken : (groupReading providerReport query (providerGroups service.clickhouse data query)).taken at_ = taken
  have hnext := @nextGroupCursor_taken _ providerReport query (providerGroups service.clickhouse data query) at_ taken
  have hpresent : providerReport.present = costGroup := rfl
  rw [hpresent]
  cases hitems : taken.mapM costGroup with
  | error failure => rfl
  | ok presented =>
    have hmap := mapM_map (k := id) (g := id) hitems providerReport.presents
    rw [List.map_id, List.map_id] at hmap
    subst hmap
    rw [← hnext]
    rfl

theorem providerCountable_of (hquery : reportQuery service .providerCost (request.at none) = .ok query)
    {page : Page ProviderCostGroup String}
    (hpage : groupPage service .providerCost (providerAnswer service data) request none = .ok page) :
    ProviderCountable service data query := by
  unfold groupPage at hpage
  rw [hquery] at hpage
  obtain ⟨query', hquery', hpage⟩ := bind_ok hpage
  cases hquery'
  obtain ⟨result, hresult, -⟩ := bind_ok hpage
  unfold queryAnalyticsProviderCost execute at hresult
  obtain ⟨_, -, hresult⟩ := bind_ok hresult
  obtain ⟨_, -, hresult⟩ := bind_ok hresult
  obtain ⟨_, -, hresult⟩ := bind_ok hresult
  obtain ⟨totalGroups, hgroups, hresult⟩ := bind_ok hresult
  obtain ⟨unpriced, hunpriced, -⟩ := bind_ok hresult
  exact ⟨(reportCount_ok hgroups).1, (reportCount_ok hunpriced).1⟩

theorem decimalText_ne (places : Nat) (units : Int) : decimalText places units ≠ "" := by
  unfold decimalText
  intro hempty
  have hchars : (Reconciliation.clickHouseText places units).toList = [] := by
    rw [hempty]
    rfl
  by_cases hunits : 0 ≤ units
  · have hdecimal := (@Reconciliation.decimalText_clickHouse places _).mpr hunits
    rw [hchars] at hdecimal
    cases hdecimal
  · have hminus := @Reconciliation.clickHouseText_neg places _ (not_le.mp hunits)
    rw [hchars] at hminus
    cases hminus

/-- A group of provider cost is presented when its currency is not empty. -/
theorem costGroup_iff {group : ProviderCostGroup} (h : group ∈ providerGroups service.clickhouse data query) :
    costGroup group = .ok group ↔ group.currency ≠ "" := by
  unfold providerGroups at h
  rw [List.mem_insertionSort, List.mem_map] at h
  obtain ⟨⟨key, lines⟩, -, rfl⟩ := h
  have hamount := decimalText_ne 18 (sumOf CostLine.amount lines)
  unfold costGroup
  by_cases hcurrency : key.2 = ""
  · rw [if_pos (.inl hcurrency)]
    exact iff_of_false (fun h => nomatch h) fun hne => hne hcurrency
  · rw [if_neg (not_or.mpr ⟨hcurrency, hamount⟩)]
    exact iff_of_true rfl hcurrency

/-- Every group of provider cost is given once, in the order of the pages. -/
def ProviderEnumerated (service : ReportService) (data : AnalyticsData) (request : ReportRequest) (query : ReportQuery) : Prop :=
  Enumerates (groupPage service .providerCost (providerAnswer service data) request) encodeGroupCursor
    (fun text => decodeGroupCursor text .providerCost (groupCursorDimension query))
    (providerGroups service.clickhouse data query)

/-- What the pages of a query of provider cost need. -/
structure ProviderReadable (service : ReportService) (data : AnalyticsData) (query : ReportQuery) : Prop where
  countable : ProviderCountable service data query
  currencies : ∀ group ∈ providerGroups service.clickhouse data query, group.currency ≠ ""
  ends : EndsReadable providerReport query (providerGroups service.clickhouse data query)

theorem providerEnumerated_iff (hquery : reportQuery service .providerCost (request.at none) = .ok query)
    (hruns : query.filters.forM (checkCondition service.clickhouse) = .ok ()) :
    ProviderEnumerated service data request query ↔ ProviderReadable service data query := by
  obtain ⟨-, -, hchecked, -, -⟩ := reportQuery_at hquery (by decide)
  have hiff (hcount : ProviderCountable service data query) := @groupEnumerates_iff _ providerReport _ _ _ _ _ _ hquery rfl
    (providerAnswer_of hchecked hruns hcount) providerGroups_sorted
  constructor
  · intro h
    obtain ⟨page, hpage⟩ := h.pages.page
    have hcount := providerCountable_of hquery hpage
    obtain ⟨hpresented, hends⟩ := (hiff hcount).mp h
    exact ⟨hcount, fun group hgroup => (costGroup_iff hgroup).mp (hpresented group hgroup), hends⟩
  · intro h
    exact (hiff h.countable).mpr ⟨fun group hgroup => (costGroup_iff hgroup).mpr (h.currencies group hgroup), h.ends⟩

end ProviderCost

/-! ## AIU -/

def aiuReport : GroupReport AiuGroup where
  kind := .aiu
  key group := (group.key, "")
  after cursor group := cursor.1 < group.1
  present := aiuGroup
  presents group presented h := by
    unfold aiuGroup at h
    split at h
    · cases h
    · exact (Except.ok.inj h).symm
  irrefl key := decide_eq_false (lt_irrefl _)
  asymm key other h := decide_eq_false (lt_asymm (of_decide_eq_true h))

theorem integer_ne (n : Int) : toString n ≠ "" := by
  intro hempty
  have hchars := congrArg String.toList hempty
  rw [Int.toString_eq_repr, Int.repr_eq_if] at hchars
  split at hchars
  · rw [Nat.toList_repr] at hchars
    exact Nat.toDigits_ne_nil hchars
  · rw [String.toList_append] at hchars
    exact absurd hchars (by simp)

section Aiu

variable (service : ReportService) (data : AnalyticsData)

def aiuAnswer (query : ReportQuery) : Except ReportFailure (Page AiuGroup String) := do
  let result ← queryAnalyticsAiu service.clickhouse data query
  return ⟨result.groups, result.nextCursor⟩

variable {service data} {request : ReportRequest} {query : ReportQuery}

theorem aiuGroups_sorted : (aiuGroups service.clickhouse data query).Pairwise fun a b =>
    aiuReport.after (aiuReport.key a) (aiuReport.key b) = true := by
  have htotal : Std.Total fun a b : AiuGroup => a.key ≤ b.key := ⟨fun a b => le_total a.key b.key⟩
  have htrans : IsTrans AiuGroup fun a b => a.key ≤ b.key := ⟨fun a b c => le_trans⟩
  unfold aiuGroups
  refine (@sorted_strict _ _ _ _ _ _ AiuGroup.key (fun a b => a < b) ?_ _ ?_).imp fun {a b} h => decide_eq_true h
  · rintro a b hle hne
    exact lt_of_le_of_ne hle hne
  · rw [List.map_map]
    exact groupBy_keys _ _

theorem aiuPage_at (at_ : Option (Place (String × String))) :
    aiuPage service.clickhouse data (query.at none (at_.map (placeCursor aiuReport query))) =
      (groupReading aiuReport query (aiuGroups service.clickhouse data query)).taken at_ := by
  cases at_ with
  | none => rfl
  | some place =>
    have hplace : textOf (placeCursor aiuReport query place).groupKey = place.1.1 := by
      unfold placeCursor
      simp only [textOf_unitsOf]
    unfold aiuPage Reading.taken ReportQuery.at
    simp only [Option.map_some, hplace]
    rfl

/-- The counts of a report of AIU are safe integers. -/
structure AiuCountable (service : ReportService) (data : AnalyticsData) (query : ReportQuery) : Prop where
  events : (matchingEvents service.clickhouse data query).length ≤ 9007199254740991
  rated : ratedEvents service.clickhouse data query ≤ 9007199254740991
  groups : (aiuGroups service.clickhouse data query).length ≤ 9007199254740991

theorem aiuAnswer_of (hchecked : checkGroup query = .ok ())
    (hruns : query.filters.forM (checkCondition service.clickhouse) = .ok ())
    (hcount : AiuCountable service data query) :
    Answers aiuReport query (aiuGroups service.clickhouse data query) (aiuAnswer service data) := by
  intro at_
  have hevents : matchingEvents service.clickhouse data (query.at none (at_.map (placeCursor aiuReport query))) =
      matchingEvents service.clickhouse data query := rfl
  have hrated : ratedEvents service.clickhouse data (query.at none (at_.map (placeCursor aiuReport query))) =
      ratedEvents service.clickhouse data query := rfl
  have hgroups : aiuGroups service.clickhouse data (query.at none (at_.map (placeCursor aiuReport query))) =
      aiuGroups service.clickhouse data query := rfl
  have hchecked' : checkGroup (query.at none (at_.map (placeCursor aiuReport query))) = .ok () := hchecked
  have hruns' : (query.at none (at_.map (placeCursor aiuReport query))).filters.forM
      (checkCondition service.clickhouse) = .ok () := hruns
  have hcounted : reportCount ((matchingEvents service.clickhouse data query).map UsageEventRow.toEventColumns).length =
      .ok (matchingEvents service.clickhouse data query).length := by
    rw [List.length_map]
    exact reportCount_of hcount.events
  have hunmapped (f : EventColumns → Bool) :
      reportCount (((matchingEvents service.clickhouse data query).map UsageEventRow.toEventColumns).countP f) =
        .ok (((matchingEvents service.clickhouse data query).map UsageEventRow.toEventColumns).countP f) := by
    have hle := List.countP_le_length (p := f) (l := (matchingEvents service.clickhouse data query).map UsageEventRow.toEventColumns)
    rw [List.length_map] at hle
    exact reportCount_of (hle.trans hcount.events)
  unfold aiuAnswer queryAnalyticsAiu execute
  rw [hchecked', hruns', hevents, hrated, hgroups]
  dsimp only
  rw [hcounted, reportCount_of hcount.rated, reportCount_of hcount.groups, hunmapped, aiuPage_at]
  generalize htaken : (groupReading aiuReport query (aiuGroups service.clickhouse data query)).taken at_ = taken
  have hnext := @nextGroupCursor_taken _ aiuReport query (aiuGroups service.clickhouse data query) at_ taken
  have hpresent : aiuReport.present = aiuGroup := rfl
  rw [hpresent]
  cases hitems : taken.mapM aiuGroup with
  | error failure => rfl
  | ok presented =>
    have hmap := mapM_map (k := id) (g := id) hitems aiuReport.presents
    rw [List.map_id, List.map_id] at hmap
    subst hmap
    rw [← hnext]
    rfl

theorem aiuCountable_of (hquery : reportQuery service .aiu (request.at none) = .ok query) {page : Page AiuGroup String}
    (hpage : groupPage service .aiu (aiuAnswer service data) request none = .ok page) : AiuCountable service data query := by
  unfold groupPage at hpage
  rw [hquery] at hpage
  obtain ⟨query', hquery', hpage⟩ := bind_ok hpage
  cases hquery'
  obtain ⟨result, hresult, -⟩ := bind_ok hpage
  unfold queryAnalyticsAiu execute at hresult
  obtain ⟨_, -, hresult⟩ := bind_ok hresult
  obtain ⟨_, -, hresult⟩ := bind_ok hresult
  obtain ⟨eventCount, hevents, hresult⟩ := bind_ok hresult
  obtain ⟨rated, hrated, hresult⟩ := bind_ok hresult
  obtain ⟨_, -, hresult⟩ := bind_ok hresult
  obtain ⟨totalGroups, hgroups, -⟩ := bind_ok hresult
  refine ⟨?_, (reportCount_ok hrated).1, (reportCount_ok hgroups).1⟩
  have hcount := (reportCount_ok hevents).1
  rwa [List.length_map] at hcount

/-- A group of AIU is always presented. -/
theorem aiuGroup_ok {group : AiuGroup} (h : group ∈ aiuGroups service.clickhouse data query) : aiuGroup group = .ok group := by
  unfold aiuGroups at h
  rw [List.mem_insertionSort, List.mem_map] at h
  obtain ⟨⟨key, lines⟩, -, rfl⟩ := h
  exact if_neg (integer_ne _)

/-- Every group of AIU is given once, in the order of the pages. -/
def AiuEnumerated (service : ReportService) (data : AnalyticsData) (request : ReportRequest) (query : ReportQuery) : Prop :=
  Enumerates (groupPage service .aiu (aiuAnswer service data) request) encodeGroupCursor
    (fun text => decodeGroupCursor text .aiu (groupCursorDimension query)) (aiuGroups service.clickhouse data query)

/-- What the pages of a query of AIU need. -/
structure AiuReadable (service : ReportService) (data : AnalyticsData) (query : ReportQuery) : Prop where
  countable : AiuCountable service data query
  ends : EndsReadable aiuReport query (aiuGroups service.clickhouse data query)

theorem aiuEnumerated_iff (hquery : reportQuery service .aiu (request.at none) = .ok query)
    (hruns : query.filters.forM (checkCondition service.clickhouse) = .ok ()) :
    AiuEnumerated service data request query ↔ AiuReadable service data query := by
  obtain ⟨-, -, hchecked, -, -⟩ := reportQuery_at hquery (by decide)
  have hiff (hcount : AiuCountable service data query) := @groupEnumerates_iff _ aiuReport _ _ _ _ _ _ hquery rfl
    (aiuAnswer_of hchecked hruns hcount) aiuGroups_sorted
  constructor
  · intro h
    obtain ⟨page, hpage⟩ := h.pages.page
    have hcount := aiuCountable_of hquery hpage
    exact ⟨hcount, ((hiff hcount).mp h).2⟩
  · intro h
    exact (hiff h.countable).mpr ⟨fun group hgroup => aiuGroup_ok hgroup, h.ends⟩

end Aiu

end TokenPilot.Reports
