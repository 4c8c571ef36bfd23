/-
  TokenPilot.Analytics.DeliveryIds — what the identities of a mapped row depend on.

  `mapped_ids`: the delivery ids of a record are its source and distinct suffixes, so a
  delivery id occurs once in a record, and no two sources share one (`deliveryText_inj`).
  `mapped_keys`: two records of one source with the same type and payload give rows with the
  same delivery ids and the same row ids, whatever their own ids and times are. Together
  (`rowId_of_delivery`): under one delivery id there is one row id.
-/

import TokenPilot.Analytics.Mapper

namespace TokenPilot.Analytics

open Library

/-- The two identities of a row. -/
def ClickHouseSinkRow.key (row : ClickHouseSinkRow) : String × String := (row.sinkDeliveryId, row.rowId)

/-! ## Texts -/

/-- A number before a colon can be read back. -/
theorem number_colon_inj {m n : Nat} {s t : String} (h : toString m ++ ":" ++ s = toString n ++ ":" ++ t) : m = n ∧ s = t := by
  have hlist : Nat.toDigits 10 m ++ ':' :: s.toList = Nat.toDigits 10 n ++ ':' :: t.toList := by
    have := congrArg String.toList h
    simpa [toList_toString] using this
  have hcolon : ∀ k : Nat, ':' ∉ Nat.toDigits 10 k := fun k => (Numeral.plain_toDigits k).not_mem (by decide)
  have hm : Nat.toDigits 10 m = Nat.toDigits 10 n := by
    have := congrArg (List.takeWhile (· ≠ ':')) hlist
    rwa [Numeral.takeWhile_ne _ (hcolon m), Numeral.takeWhile_ne _ (hcolon n)] at this
  constructor
  · apply toString_inj
    apply String.toList_inj.mp
    rw [toList_toString, toList_toString, hm]
  · rw [hm] at hlist
    exact String.toList_inj.mp (List.cons.inj (List.append_cancel_left hlist)).2

theorem deliveryText_inj {m n : Nat} {s t : String} (h : deliveryText m s = deliveryText n t) : m = n ∧ s = t := by
  apply number_colon_inj
  apply String.toList_inj.mp
  have := congrArg String.toList h
  simpa [deliveryText, toString] using this

/-! ## One record -/

theorem delivery_ok {record : ClickHouseOutboxRecord} {suffix id : String} (h : delivery record suffix = .ok id) :
    id = deliveryText record.source suffix := by
  unfold delivery at h
  split at h
  · cases h
  · cases h
    rfl

section Indexed

variable {f g : Nat → Payload → Except String ClickHouseSinkRow}

theorem mapIndexed_ids {text : Nat → String} (hf : ∀ i v row, f i v = .ok row → row.sinkDeliveryId = text i)
    {index : Nat} {values : List Payload} {rows : List ClickHouseSinkRow} (h : mapIndexed f index values = .ok rows) :
    rows.map (·.sinkDeliveryId) = (List.range' index values.length).map text := by
  induction values generalizing index rows with
  | nil => cases h; rfl
  | cons value rest ih =>
    obtain ⟨row, hrow, h⟩ := bind_ok h
    obtain ⟨more, hmore, h⟩ := bind_ok h
    cases h
    rw [List.map_cons, ih hmore, hf _ _ _ hrow, List.length_cons, List.range'_succ, List.map_cons]

theorem mapIndexed_keys (hfg : ∀ i v row row', f i v = .ok row → g i v = .ok row' → row.key = row'.key) {index : Nat}
    {values : List Payload} {rows rows' : List ClickHouseSinkRow} (h : mapIndexed f index values = .ok rows)
    (h' : mapIndexed g index values = .ok rows') : rows.map (·.key) = rows'.map (·.key) := by
  induction values generalizing index rows rows' with
  | nil => cases h; cases h'; rfl
  | cons value rest ih =>
    obtain ⟨row, hrow, h⟩ := bind_ok h
    obtain ⟨more, hmore, h⟩ := bind_ok h
    obtain ⟨row', hrow', h'⟩ := bind_ok h'
    obtain ⟨more', hmore', h'⟩ := bind_ok h'
    cases h
    cases h'
    rw [List.map_cons, List.map_cons, hfg _ _ _ _ hrow hrow', ih hmore hmore']

end Indexed

/-- The event a usage record is about. -/
def usageEventId (payload : Object) : Except String String := do
  let normalized ← object (payload.field "normalized") "normalized usage"
  string (normalized.field "event_id") "normalized.event_id"

variable {platform : Platform} {identity : ClickHouseSinkIdentity} {record record' : ClickHouseOutboxRecord}
variable {payload base base' delta : Object} {type : PipelineEventType}

theorem usageBase_ok {b : UsageBase} (h : usageBase platform record identity payload = .ok b) :
    object (payload.field "normalized") "normalized usage" = .ok b.normalized ∧ usageEventId payload = .ok b.eventId := by
  obtain ⟨normalized, hnormalized, h⟩ := bind_ok h
  iterate 12 obtain ⟨_, -, h⟩ := bind_ok h
  obtain ⟨eventId, heventId, h⟩ := bind_ok h
  iterate 24 obtain ⟨_, -, h⟩ := bind_ok h
  cases h
  exact ⟨hnormalized, bind_of hnormalized heventId⟩

theorem mapRaw_ok {m : MappedClickHouseOutbox} (h : mapRaw platform record identity payload = .ok m) :
    m.table = .usageEventsRaw ∧
      ∃ eventId, usageEventId payload = .ok eventId ∧ m.rows.map (·.key) = [(deliveryText record.source "raw", eventId)] := by
  obtain ⟨b, hb, h⟩ := bind_ok h
  iterate 9 obtain ⟨_, -, h⟩ := bind_ok h
  obtain ⟨id, hid, h⟩ := bind_ok h
  cases h
  refine ⟨rfl, b.eventId, (usageBase_ok hb).2, ?_⟩
  rw [← delivery_ok hid]
  rfl

/-- The row id of a usage line. -/
def usageLineId (eventId : String) (index : Nat) (value : Payload) : Except String String := do
  let line ← object (some value) s!"usage line {index}"
  let usageType ← string (line.field "usage_type") s!"usage line {index}.usage_type"
  let unitKey ← stringOrEmpty (line.field "unit_key") s!"usage line {index}.unit_key"
  return s!"{eventId}:{usageType}:" ++ (if unitKey = "" then "-" else unitKey)

theorem mapUsageLine_ok {b : UsageBase} {index : Nat} {value : Payload} {row : ClickHouseSinkRow}
    (h : mapUsageLine record b index value = .ok row) :
    row.sinkDeliveryId = deliveryText record.source s!"usage:{index}" ∧ usageLineId b.eventId index value = .ok row.rowId := by
  obtain ⟨line, hline, h⟩ := bind_ok h
  obtain ⟨usageType, htype, h⟩ := bind_ok h
  obtain ⟨unitKey, hunit, h⟩ := bind_ok h
  iterate 4 obtain ⟨_, -, h⟩ := bind_ok h
  obtain ⟨id, hid, h⟩ := bind_ok h
  cases h
  exact ⟨delivery_ok hid, bind_of hline (bind_of htype (bind_of hunit rfl))⟩

theorem mapUsageLines_ok {m : MappedClickHouseOutbox} (h : mapUsageLines platform record identity payload = .ok m) :
    m.table = .usageLines ∧ ∃ b lines, usageBase platform record identity payload = .ok b ∧
      array (b.normalized.field "usage_lines") "normalized.usage_lines" = .ok lines ∧
      mapIndexed (mapUsageLine record b) 0 lines = .ok m.rows := by
  obtain ⟨b, hb, h⟩ := bind_ok h
  obtain ⟨lines, hlines, h⟩ := bind_ok h
  obtain ⟨rows, hrows, h⟩ := bind_ok h
  cases h
  exact ⟨rfl, b, lines, hb, hlines, hrows⟩

theorem mapApplicationUserProfile_ok {m : MappedClickHouseOutbox}
    (h : mapApplicationUserProfile platform record payload = .ok m) :
    m.table = .applicationUserProfiles ∧ ∃ userRecordId,
      string (payload.field "user_record_id") "profile.user_record_id" = .ok userRecordId ∧
      m.rows.map (·.key) = [(deliveryText record.source "user-profile", userRecordId)] := by
  obtain ⟨id, hid, h⟩ := bind_ok h
  iterate 2 obtain ⟨_, -, h⟩ := bind_ok h
  split at h
  · cases h
  iterate 4 obtain ⟨_, -, h⟩ := bind_ok h
  obtain ⟨userRecordId, huser, h⟩ := bind_ok h
  iterate 5 obtain ⟨_, -, h⟩ := bind_ok h
  cases h
  refine ⟨rfl, userRecordId, huser, ?_⟩
  rw [← delivery_ok hid]
  rfl

/-- The row id of a delta of a provider's cost. -/
def providerDeltaId (index : Nat) (value : Payload) : Except String String := do
  let delta ← object (some value) s!"Provider Cost delta {index}"
  string (delta.field "rating_event_id") s!"Provider Cost delta {index}.rating_event_id"

theorem mapProviderDelta_ok {index : Nat} {value : Payload} {row : ClickHouseSinkRow}
    (h : mapProviderDelta record base type index value = .ok row) :
    row.sinkDeliveryId = deliveryText record.source s!"provider-rating:{index}" ∧
      providerDeltaId index value = .ok row.rowId := by
  obtain ⟨delta, hdelta, h⟩ := bind_ok h
  iterate 7 obtain ⟨_, -, h⟩ := bind_ok h
  obtain ⟨ratingEventId, hrating, h⟩ := bind_ok h
  iterate 4 obtain ⟨_, -, h⟩ := bind_ok h
  obtain ⟨id, hid, h⟩ := bind_ok h
  cases h
  exact ⟨delivery_ok hid, bind_of hdelta hrating⟩

theorem mapProviderRating_ok {m : MappedClickHouseOutbox}
    (h : mapProviderRating platform record identity payload type = .ok m) :
    m.table = .ratingEvents ∧ ∃ base deltas, array (payload.field "deltas") "Provider Cost deltas" = .ok deltas ∧
      mapIndexed (mapProviderDelta record base type) 0 deltas = .ok m.rows := by
  obtain ⟨base, -, h⟩ := bind_ok h
  obtain ⟨deltas, hdeltas, h⟩ := bind_ok h
  obtain ⟨_, -, h⟩ := bind_ok h
  obtain ⟨rows, hrows, h⟩ := bind_ok h
  cases h
  exact ⟨rfl, base, deltas, hdeltas, hrows⟩

/-- The row id of a line of a delta. -/
def aiuLineId (delta : Object) (lineIndex : Nat) : Except String String := do
  let ratingEventId ← string (delta.field "rating_event_id") "AIU rating_event_id"
  return s!"{ratingEventId}:{lineIndex}"

theorem mapAiuLine_ok {deltaIndex lineIndex : Nat} {sign : Int} {stage : String} {value : Payload}
    {row : ClickHouseSinkRow} (h : mapAiuLine record base type deltaIndex delta sign stage lineIndex value = .ok row) :
    row.sinkDeliveryId = deliveryText record.source s!"aiu-rating:{deltaIndex}:{lineIndex}" ∧
      aiuLineId delta lineIndex = .ok row.rowId := by
  iterate 3 obtain ⟨_, -, h⟩ := bind_ok h
  obtain ⟨ratingEventId, hrating, h⟩ := bind_ok h
  iterate 5 obtain ⟨_, -, h⟩ := bind_ok h
  obtain ⟨id, hid, h⟩ := bind_ok h
  cases h
  exact ⟨delivery_ok hid, bind_of hrating rfl⟩

theorem mapAiuDelta_ok {deltaIndex : Nat} {value : Payload} {rows : List ClickHouseSinkRow}
    (h : mapAiuDelta record base type deltaIndex value = .ok rows) :
    ∃ delta sign stage lines, object (some value) s!"AIU delta {deltaIndex}" = .ok delta ∧
      array (delta.field "lines") s!"AIU delta {deltaIndex}.lines" = .ok lines ∧
      mapIndexed (mapAiuLine record base type deltaIndex delta sign stage) 0 (aiuMagnitudes delta lines) = .ok rows := by
  obtain ⟨delta, hdelta, h⟩ := bind_ok h
  obtain ⟨sign, -, h⟩ := bind_ok h
  obtain ⟨stage, -, h⟩ := bind_ok h
  obtain ⟨_, -, h⟩ := bind_ok h
  obtain ⟨lines, hlines, h⟩ := bind_ok h
  obtain ⟨_, -, h⟩ := bind_ok h
  exact ⟨delta, sign, stage, lines, hdelta, hlines, h⟩

theorem mapAiuRating_ok {m : MappedClickHouseOutbox} (h : mapAiuRating platform record identity payload type = .ok m) :
    m.table = .ratingEvents ∧ ∃ base deltas, array (payload.field "deltas") "AIU rating deltas" = .ok deltas ∧
      mapAiuDeltas record base type 0 deltas = .ok m.rows := by
  obtain ⟨base, -, h⟩ := bind_ok h
  obtain ⟨deltas, hdeltas, h⟩ := bind_ok h
  obtain ⟨rows, hrows, h⟩ := bind_ok h
  obtain ⟨_, -, h⟩ := bind_ok h
  cases h
  exact ⟨rfl, base, deltas, hdeltas, hrows⟩

/-! ## Delivery ids of a record -/

/-- Delivery ids of one source, no two alike. -/
def DeliveryIds (source : Nat) (rows : List ClickHouseSinkRow) : Prop :=
  (rows.map (·.sinkDeliveryId)).Nodup ∧ ∀ row ∈ rows, ∃ suffix, row.sinkDeliveryId = deliveryText source suffix

theorem deliveryIds_one {source : Nat} {rows : List ClickHouseSinkRow} {suffix id : String}
    (h : rows.map (·.key) = [(deliveryText source suffix, id)]) : DeliveryIds source rows := by
  have hids : rows.map (·.sinkDeliveryId) = [deliveryText source suffix] := by
    have := congrArg (List.map Prod.fst) h
    simpa [Function.comp_def, ClickHouseSinkRow.key] using this
  refine ⟨hids ▸ List.nodup_singleton _, ?_⟩
  intro row hrow
  have hmem : row.sinkDeliveryId ∈ rows.map (·.sinkDeliveryId) := List.mem_map_of_mem hrow
  rw [hids, List.mem_singleton] at hmem
  exact ⟨suffix, hmem⟩

theorem deliveryIds_indexed {f : Nat → Payload → Except String ClickHouseSinkRow} {source : Nat} {suffix : Nat → String}
    (hsuffix : Function.Injective suffix)
    (hf : ∀ i v row, f i v = .ok row → row.sinkDeliveryId = deliveryText source (suffix i)) {index : Nat}
    {values : List Payload} {rows : List ClickHouseSinkRow} (h : mapIndexed f index values = .ok rows) :
    DeliveryIds source rows ∧ ∀ row ∈ rows, ∃ i, row.sinkDeliveryId = deliveryText source (suffix i) := by
  have hids := mapIndexed_ids hf h
  have hrows : ∀ row ∈ rows, ∃ i, row.sinkDeliveryId = deliveryText source (suffix i) := by
    intro row hrow
    have hmem : row.sinkDeliveryId ∈ rows.map (·.sinkDeliveryId) := List.mem_map_of_mem hrow
    rw [hids] at hmem
    obtain ⟨i, -, hi⟩ := List.mem_map.mp hmem
    exact ⟨i, hi.symm⟩
  refine ⟨⟨?_, ?_⟩, hrows⟩
  · rw [hids]
    apply List.Nodup.map _ List.nodup_range'
    intro i j hij
    exact hsuffix (deliveryText_inj hij).2
  · intro row hrow
    obtain ⟨i, hi⟩ := hrows row hrow
    exact ⟨suffix i, hi⟩

theorem usage_suffix_injective : Function.Injective fun index : Nat => s!"usage:{index}" := by
  intro i j h
  apply toString_inj
  apply String.toList_inj.mp
  have := congrArg String.toList h
  simpa [toString] using this

theorem provider_suffix_injective : Function.Injective fun index : Nat => s!"provider-rating:{index}" := by
  intro i j h
  apply toString_inj
  apply String.toList_inj.mp
  have := congrArg String.toList h
  simpa [toString] using this

theorem aiu_suffix_inj {d l m n : Nat} (h : s!"aiu-rating:{d}:{l}" = s!"aiu-rating:{m}:{n}") : d = m ∧ l = n := by
  have hnumbers : d = m ∧ toString l = toString n := by
    apply number_colon_inj
    apply String.toList_inj.mp
    have := congrArg String.toList h
    simpa [toString] using this
  exact ⟨hnumbers.1, toString_inj hnumbers.2⟩

theorem mapAiuDelta_ids {deltaIndex : Nat} {value : Payload} {rows : List ClickHouseSinkRow}
    (h : mapAiuDelta record base type deltaIndex value = .ok rows) :
    DeliveryIds record.source rows ∧
      ∀ row ∈ rows, ∃ l : Nat, row.sinkDeliveryId = deliveryText record.source s!"aiu-rating:{deltaIndex}:{l}" := by
  obtain ⟨delta, sign, stage, lines, -, -, h⟩ := mapAiuDelta_ok h
  exact deliveryIds_indexed (fun l l' heq => (aiu_suffix_inj heq).2) (fun _ _ _ hrow => (mapAiuLine_ok hrow).1) h

theorem mapAiuDeltas_ids {deltaIndex : Nat} {values : List Payload} {rows : List ClickHouseSinkRow}
    (h : mapAiuDeltas record base type deltaIndex values = .ok rows) :
    DeliveryIds record.source rows ∧
      ∀ row ∈ rows, ∃ d l : Nat, deltaIndex ≤ d ∧ row.sinkDeliveryId = deliveryText record.source s!"aiu-rating:{d}:{l}" := by
  induction values generalizing deltaIndex rows with
  | nil =>
    cases h
    exact ⟨⟨.nil, by simp⟩, by simp⟩
  | cons value rest ih =>
    obtain ⟨first, hfirst, h⟩ := bind_ok h
    obtain ⟨more, hmore, h⟩ := bind_ok h
    cases h
    obtain ⟨⟨hnodup, hsource⟩, hfirst⟩ := mapAiuDelta_ids hfirst
    obtain ⟨⟨hnodup', hsource'⟩, hmore⟩ := ih hmore
    refine ⟨⟨?_, ?_⟩, ?_⟩
    · rw [List.map_append]
      apply hnodup.append hnodup'
      intro id hid hid'
      obtain ⟨row, hrow, rfl⟩ := List.mem_map.mp hid
      obtain ⟨row', hrow', heq⟩ := List.mem_map.mp hid'
      obtain ⟨l, hl⟩ := hfirst row hrow
      obtain ⟨d, l', hd, hl'⟩ := hmore row' hrow'
      have := (aiu_suffix_inj (deliveryText_inj (hl.symm.trans (heq.symm.trans hl'))).2).1
      omega
    · intro row hrow
      rcases List.mem_append.mp hrow with hrow | hrow
      · exact hsource row hrow
      · exact hsource' row hrow
    · intro row hrow
      rcases List.mem_append.mp hrow with hrow | hrow
      · obtain ⟨l, hl⟩ := hfirst row hrow
        exact ⟨deltaIndex, l, le_rfl, hl⟩
      · obtain ⟨d, l, hd, hl⟩ := hmore row hrow
        exact ⟨d, l, by omega, hl⟩

theorem mapAiuDeltas_keys {deltaIndex : Nat} {values : List Payload} {rows rows' : List ClickHouseSinkRow}
    (hsource : record.source = record'.source) (h : mapAiuDeltas record base type deltaIndex values = .ok rows)
    (h' : mapAiuDeltas record' base' type deltaIndex values = .ok rows') : rows.map (·.key) = rows'.map (·.key) := by
  induction values generalizing deltaIndex rows rows' with
  | nil => cases h; cases h'; rfl
  | cons value rest ih =>
    obtain ⟨first, hfirst, h⟩ := bind_ok h
    obtain ⟨more, hmore, h⟩ := bind_ok h
    obtain ⟨first', hfirst', h'⟩ := bind_ok h'
    obtain ⟨more', hmore', h'⟩ := bind_ok h'
    cases h
    cases h'
    obtain ⟨delta, sign, stage, lines, hdelta, hlines, hrows⟩ := mapAiuDelta_ok hfirst
    obtain ⟨delta', sign', stage', lines', hdelta', hlines', hrows'⟩ := mapAiuDelta_ok hfirst'
    cases hdelta.symm.trans hdelta'
    cases hlines.symm.trans hlines'
    rw [List.map_append, List.map_append, ih hmore hmore', mapIndexed_keys ?_ hrows hrows']
    intro l line row row' hrow hrow'
    have hl := mapAiuLine_ok hrow
    have hl' := mapAiuLine_ok hrow'
    have hid : row.rowId = row'.rowId := Except.ok.inj (hl.2.symm.trans hl'.2)
    rw [ClickHouseSinkRow.key, ClickHouseSinkRow.key, hl.1, hl'.1, hsource, hid]

/-! ## Any record -/

/-- What `mapClickHouseOutbox` calls, by the type of the record. -/
theorem mapClickHouseOutbox_ok {m : MappedClickHouseOutbox} (h : mapClickHouseOutbox platform record identity = .ok m) :
    ∃ type payload, eventType record.eventType = .ok type ∧ object (some record.payload) "outbox payload" = .ok payload ∧
      ((type = .usageEventsRaw ∧ mapRaw platform record identity payload = .ok m) ∨
        (type = .usageLines ∧ mapUsageLines platform record identity payload = .ok m) ∨
        (type = .applicationUserProfile ∧ mapApplicationUserProfile platform record payload = .ok m) ∨
        (type ∈ [.providerCostProvisional, .providerCostOfficialDelta, .providerCostAdjustment, .providerCostUnpriced] ∧
          mapProviderRating platform record identity payload type = .ok m) ∨
        (type ∈ [.aiuProvisional, .aiuOfficialDelta, .aiuDecision] ∧
          mapAiuRating platform record identity payload type = .ok m)) := by
  obtain ⟨type, htype, h⟩ := bind_ok h
  obtain ⟨payload, hpayload, h⟩ := bind_ok h
  refine ⟨type, payload, htype, hpayload, ?_⟩
  cases type <;> simp_all

theorem mapped_ids {m : MappedClickHouseOutbox} (h : mapClickHouseOutbox platform record identity = .ok m) :
    DeliveryIds record.source m.rows := by
  obtain ⟨type, payload, -, -, ⟨-, h⟩ | ⟨-, h⟩ | ⟨-, h⟩ | ⟨-, h⟩ | ⟨-, h⟩⟩ := mapClickHouseOutbox_ok h
  · obtain ⟨-, eventId, -, hrows⟩ := mapRaw_ok h
    exact deliveryIds_one hrows
  · obtain ⟨-, b, lines, -, -, hrows⟩ := mapUsageLines_ok h
    exact (deliveryIds_indexed usage_suffix_injective (fun _ _ _ hrow => (mapUsageLine_ok hrow).1) hrows).1
  · obtain ⟨-, userRecordId, -, hrows⟩ := mapApplicationUserProfile_ok h
    exact deliveryIds_one hrows
  · obtain ⟨-, base, deltas, -, hrows⟩ := mapProviderRating_ok h
    exact (deliveryIds_indexed provider_suffix_injective (fun _ _ _ hrow => (mapProviderDelta_ok hrow).1) hrows).1
  · obtain ⟨-, base, deltas, -, hrows⟩ := mapAiuRating_ok h
    exact (mapAiuDeltas_ids hrows).1

theorem mapped_keys {m m' : MappedClickHouseOutbox} (h : mapClickHouseOutbox platform record identity = .ok m)
    (h' : mapClickHouseOutbox platform record' identity = .ok m') (htype : record.eventType = record'.eventType)
    (hpayload : record.payload = record'.payload) (hsource : record.source = record'.source) :
    m.table = m'.table ∧ m.rows.map (·.key) = m'.rows.map (·.key) := by
  obtain ⟨type, payload, htyped, hread, h⟩ := mapClickHouseOutbox_ok h
  obtain ⟨type', payload', htyped', hread', h'⟩ := mapClickHouseOutbox_ok h'
  rw [htype] at htyped
  rw [hpayload] at hread
  cases htyped.symm.trans htyped'
  cases hread.symm.trans hread'
  rcases h with ⟨rfl, h⟩ | ⟨rfl, h⟩ | ⟨rfl, h⟩ | ⟨hkind, h⟩ | ⟨hkind, h⟩
  · replace h' : mapRaw platform record' identity payload = .ok m' := by simpa using h'
    obtain ⟨htable, eventId, heventId, hrows⟩ := mapRaw_ok h
    obtain ⟨htable', eventId', heventId', hrows'⟩ := mapRaw_ok h'
    cases heventId.symm.trans heventId'
    rw [htable, htable', hrows, hrows', hsource]
    exact ⟨rfl, rfl⟩
  · replace h' : mapUsageLines platform record' identity payload = .ok m' := by simpa using h'
    obtain ⟨htable, b, lines, hb, hlines, hrows⟩ := mapUsageLines_ok h
    obtain ⟨htable', b', lines', hb', hlines', hrows'⟩ := mapUsageLines_ok h'
    have hnormalized : b.normalized = b'.normalized :=
      Except.ok.inj ((usageBase_ok hb).1.symm.trans (usageBase_ok hb').1)
    have heventId : b.eventId = b'.eventId := Except.ok.inj ((usageBase_ok hb).2.symm.trans (usageBase_ok hb').2)
    rw [hnormalized] at hlines
    cases hlines.symm.trans hlines'
    refine ⟨htable.trans htable'.symm, mapIndexed_keys ?_ hrows hrows'⟩
    intro i value row row' hrow hrow'
    have hl := mapUsageLine_ok hrow
    have hl' := mapUsageLine_ok hrow'
    rw [heventId] at hl
    have hid : row.rowId = row'.rowId := Except.ok.inj (hl.2.symm.trans hl'.2)
    rw [ClickHouseSinkRow.key, ClickHouseSinkRow.key, hl.1, hl'.1, hsource, hid]
  · replace h' : mapApplicationUserProfile platform record' payload = .ok m' := by simpa using h'
    obtain ⟨htable, userRecordId, huser, hrows⟩ := mapApplicationUserProfile_ok h
    obtain ⟨htable', userRecordId', huser', hrows'⟩ := mapApplicationUserProfile_ok h'
    cases huser.symm.trans huser'
    rw [htable, htable', hrows, hrows', hsource]
    exact ⟨rfl, rfl⟩
  · replace h' : mapProviderRating platform record' identity payload type = .ok m' := by
      simp only [List.mem_cons, List.not_mem_nil, or_false] at hkind
      rcases hkind with rfl | rfl | rfl | rfl <;> simpa using h'
    obtain ⟨htable, base, deltas, hdeltas, hrows⟩ := mapProviderRating_ok h
    obtain ⟨htable', base', deltas', hdeltas', hrows'⟩ := mapProviderRating_ok h'
    cases hdeltas.symm.trans hdeltas'
    refine ⟨htable.trans htable'.symm, mapIndexed_keys ?_ hrows hrows'⟩
    intro i value row row' hrow hrow'
    have hl := mapProviderDelta_ok hrow
    have hl' := mapProviderDelta_ok hrow'
    have hid : row.rowId = row'.rowId := Except.ok.inj (hl.2.symm.trans hl'.2)
    rw [ClickHouseSinkRow.key, ClickHouseSinkRow.key, hl.1, hl'.1, hsource, hid]
  · replace h' : mapAiuRating platform record' identity payload type = .ok m' := by
      simp only [List.mem_cons, List.not_mem_nil, or_false] at hkind
      rcases hkind with rfl | rfl | rfl <;> simpa using h'
    obtain ⟨htable, base, deltas, hdeltas, hrows⟩ := mapAiuRating_ok h
    obtain ⟨htable', base', deltas', hdeltas', hrows'⟩ := mapAiuRating_ok h'
    cases hdeltas.symm.trans hdeltas'
    exact ⟨htable.trans htable'.symm, mapAiuDeltas_keys hsource hrows hrows'⟩

/-- Under one delivery id the rows of two records, if these agree when they have one source,
    have one row id. -/
theorem rowId_of_delivery {m m' : MappedClickHouseOutbox} (h : mapClickHouseOutbox platform record identity = .ok m)
    (h' : mapClickHouseOutbox platform record' identity = .ok m')
    (hagree : record.source = record'.source → record.eventType = record'.eventType ∧ record.payload = record'.payload)
    {row row' : ClickHouseSinkRow} (hrow : row ∈ m.rows) (hrow' : row' ∈ m'.rows)
    (hid : row.sinkDeliveryId = row'.sinkDeliveryId) : row.rowId = row'.rowId := by
  obtain ⟨suffix, hsuffix⟩ := (mapped_ids h).2 row hrow
  obtain ⟨suffix', hsuffix'⟩ := (mapped_ids h').2 row' hrow'
  have hsource : record.source = record'.source := (deliveryText_inj (hsuffix.symm.trans (hid.trans hsuffix'))).1
  obtain ⟨htype, hpayload⟩ := hagree hsource
  have hkeys := (mapped_keys h h' htype hpayload hsource).2
  have hmem : row'.key ∈ m.rows.map (·.key) := hkeys ▸ List.mem_map_of_mem hrow'
  obtain ⟨twin, htwin, hkey⟩ := List.mem_map.mp hmem
  have hsame : twin = row := by
    apply List.inj_on_of_nodup_map (mapped_ids h).1 htwin hrow
    exact (congrArg Prod.fst hkey).trans hid.symm
  rw [← hsame]
  exact congrArg Prod.snd hkey

end TokenPilot.Analytics
