/-
  TokenPilot.Analytics.OutboxLaws — what the operations of the outbox do.

  One lemma for each: a batch of leases has rising ids (`leased_sorted`), `prepare` keeps a
  batch as it is and maps every record of it (`prepare_ok`), one row stays for each delivery
  id of a table (`byDeliveryId_ok`), an acknowledgement marks every row of the batch and
  leaves the others (`markDelivered_ok`). `advance_cases` says what a move of a worker can be,
  and `entries` of the outbox only grow (`next_entries`).
-/

import TokenPilot.Analytics.DeliveryIds
import TokenPilot.Analytics.Outbox

namespace TokenPilot.Analytics

open Library

/-! ## The table -/

def OutboxTable.entries (t : OutboxTable) : List OutboxEntry := t.rows.map (·.entry)

@[simp] theorem OutboxTable.entries_update (t : OutboxTable) (f : OutboxRow → OutboxProgress) :
    (t.update f).entries = t.entries := by
  simp [entries, update, Function.comp_def]

theorem OutboxTable.insert_ok {t t' : OutboxTable} {row : OutboxRow} (h : t.insert row = some t') :
    t'.rows = t.rows ++ [row] := by
  unfold insert at h
  split at h
  · cases h
    rfl
  · cases h

theorem OutboxTable.ids_nodup (t : OutboxTable) : (t.entries.map (·.id)).Nodup := by
  rw [List.Nodup, List.pairwise_map]
  refine t.distinct.imp ?_
  intro a b hab heq
  simp [OutboxEntry.clashes, heq] at hab

/-- The primary key. -/
theorem OutboxTable.entry_eq (t : OutboxTable) {a b : OutboxEntry} (ha : a ∈ t.entries) (hb : b ∈ t.entries)
    (h : a.id = b.id) : a = b :=
  List.inj_on_of_nodup_map t.ids_nodup ha hb h

theorem OutboxTable.row_eq (t : OutboxTable) {a b : OutboxRow} (ha : a ∈ t.rows) (hb : b ∈ t.rows)
    (h : a.entry.id = b.entry.id) : a = b := by
  have hnodup : (t.rows.map fun row => row.entry.id).Nodup := by
    have := t.ids_nodup
    rwa [entries, List.map_map] at this
  exact List.inj_on_of_nodup_map hnodup ha hb h

theorem OutboxTable.mem_update {t : OutboxTable} {f : OutboxRow → OutboxProgress} {row : OutboxRow}
    (h : row ∈ (t.update f).rows) : ∃ old ∈ t.rows, row = ⟨old.entry, f old⟩ := by
  obtain ⟨old, hold, rfl⟩ := List.mem_map.mp h
  exact ⟨old, hold, rfl⟩

theorem OutboxTable.updateOwned_ok {t t' : OutboxTable} {lease : OutboxLease} {now : Int}
    {f : OutboxProgress → OutboxProgress} (h : t.updateOwned lease now f = some t') :
    t' = t.update fun row => if lease.owns now row then f row.progress else row.progress := by
  unfold updateOwned at h
  split at h
  · cases h
    rfl
  · cases h

/-- What an update by an owner leaves in a row. -/
theorem OutboxTable.mem_updateOwned {t t' : OutboxTable} {lease : OutboxLease} {now : Int}
    {f : OutboxProgress → OutboxProgress} (h : t.updateOwned lease now f = some t') {row : OutboxRow} (hrow : row ∈ t'.rows) :
    (row ∈ t.rows ∧ lease.owns now row = false) ∨
      ∃ old ∈ t.rows, lease.owns now old = true ∧ row = ⟨old.entry, f old.progress⟩ := by
  rw [updateOwned_ok h] at hrow
  obtain ⟨old, hold, rfl⟩ := mem_update hrow
  by_cases howns : lease.owns now old = true
  · exact .inr ⟨old, hold, howns, by rw [if_pos howns]⟩
  · refine .inl ?_
    rw [if_neg howns]
    exact ⟨hold, by simpa using howns⟩

theorem OutboxLease.owns_id {lease : OutboxLease} {now : Int} {row : OutboxRow} (h : lease.owns now row = true) :
    row.entry.id = lease.entry.id ∧ row.progress.status = .leased := by
  simp only [OutboxLease.owns, Bool.and_eq_true, beq_iff_eq] at h
  exact ⟨h.1.1.1, h.1.1.2⟩

/-! ## Leases -/

section Leasing

variable {t : OutboxTable} {token : String} {limit : Nat} {locked : List Nat} {now duration : Int}

theorem mem_leased {lease : OutboxLease} (h : lease ∈ (leaseOutbox t token limit locked now duration).1) :
    ∃ row ∈ t.rows, row.entry.id ∈ t.candidates limit locked now ∧ lease = row.lease token := by
  have h : lease ∈ (t.rows.filter fun row => (t.candidates limit locked now).contains row.entry.id).map (·.lease token) :=
    (List.perm_insertionSort ..).mem_iff.mp h
  obtain ⟨row, hrow, rfl⟩ := List.mem_map.mp h
  obtain ⟨hrow, hchosen⟩ := List.mem_filter.mp hrow
  exact ⟨row, hrow, by simpa using hchosen, rfl⟩

theorem leased_sorted : (leaseOutbox t token limit locked now duration).1.Pairwise fun a b => a.entry.id < b.entry.id := by
  have hle : (leaseOutbox t token limit locked now duration).1.Pairwise fun a b => a.entry.id ≤ b.entry.id :=
    List.pairwise_insertionSort _ _
  have hne : (leaseOutbox t token limit locked now duration).1.Pairwise fun a b => a.entry.id ≠ b.entry.id := by
    have hids : (leaseOutbox t token limit locked now duration).1.map (fun lease => lease.entry.id) |>.Nodup := by
      refine ((List.perm_insertionSort _ _).map _).nodup_iff.mpr ?_
      rw [List.map_map]
      refine List.Nodup.sublist (List.filter_sublist.map _) ?_
      have := t.ids_nodup
      rwa [OutboxTable.entries, List.map_map] at this
    exact List.pairwise_map.mp hids
  exact hle.imp₂ (fun a b hle hne => by omega) hne

end Leasing

/-! ## Mapping a batch -/

theorem addRecord_new {byId : List ClickHouseOutboxRecord} {record : ClickHouseOutboxRecord}
    (h : ∀ r ∈ byId, r.id ≠ record.id) : addRecord byId record = .ok (byId ++ [record]) := by
  unfold addRecord put
  rw [if_neg, if_neg]
  · simpa using h
  · simp only [List.any_eq_true, Bool.and_eq_true, decide_eq_true_eq, not_exists, not_and]
    intro r hr hid
    exact absurd hid (h r hr)

theorem addRecords_new {byId records : List ClickHouseOutboxRecord}
    (h : (byId ++ records).Pairwise fun a b => a.id < b.id) : records.foldlM addRecord byId = .ok (byId ++ records) := by
  induction records generalizing byId with
  | nil => rw [List.append_nil]; rfl
  | cons record rest ih =>
    have hnew : ∀ r ∈ byId, r.id ≠ record.id := by
      intro r hr
      exact Nat.ne_of_lt ((List.pairwise_append.mp h).2.2 r hr record (List.mem_cons_self ..))
    rw [List.foldlM_cons, addRecord_new hnew]
    have happended : ((byId ++ [record]) ++ rest).Pairwise fun a b => a.id < b.id := by simpa using h
    have hrest := ih happended
    rw [List.append_assoc] at hrest
    exact hrest

theorem uniqueSorted_of_sorted {records : List ClickHouseOutboxRecord} (h : records.Pairwise fun a b => a.id < b.id) :
    uniqueSorted records = .ok records := by
  unfold uniqueSorted
  rw [addRecords_new (by simpa using h)]
  show Except.ok (records.insertionSort _) = _
  rw [List.Pairwise.insertionSort_eq (h.imp fun h => Nat.le_of_lt h)]

section Mapping

variable (settings : OutboxSettings)

/-- What the mapper makes of a record. -/
def OutboxSettings.map (record : ClickHouseOutboxRecord) : Except String MappedClickHouseOutbox :=
  mapClickHouseOutbox settings.platform record settings.identity

variable {settings} {leases : List OutboxLease} {delivery : Delivery}
variable {tables : List (SinkTable × List ClickHouseSinkRow)}

theorem records_sorted (h : leases.Pairwise fun a b => a.entry.id < b.entry.id) :
    (leases.map (·.entry.toClickHouseOutboxRecord)).Pairwise fun a b => a.id < b.id :=
  List.pairwise_map.mpr h

theorem prepare_ok (hsorted : leases.Pairwise fun a b => a.entry.id < b.entry.id)
    (h : prepare settings leases = .ok (delivery, tables)) :
    delivery.leases = leases ∧ delivery.outboxIds = leases.map (·.entry.id) ∧
      some delivery.maxOutboxId = (leases.map (·.entry.id)).getLast? ∧
      ∃ mapped, (leases.mapM fun lease => settings.map lease.entry.toClickHouseOutboxRecord) = .ok mapped ∧
        tables = grouped mapped := by
  unfold prepare at h
  rw [uniqueSorted_of_sorted (records_sorted hsorted)] at h
  simp only at h
  split at h
  · cases h
  rename_i last hlast
  split at h
  · cases h
  rename_i mapped hmapped
  cases h
  refine ⟨rfl, by simp [Function.comp_def], ?_, mapped, ?_, rfl⟩
  · simp only [List.getLast?_map, Option.map_eq_some_iff] at hlast ⊢
    obtain ⟨lease, hlease, rfl⟩ := hlast
    rw [hlease]
    rfl
  · rwa [List.mapM_map] at hmapped

end Mapping

/-! ## Rows by table and by delivery id -/

theorem mem_grouped {mapped : List MappedClickHouseOutbox} {table : SinkTable} {rows : List ClickHouseSinkRow}
    (h : (table, rows) ∈ grouped mapped) : rows = mapped.flatMap (·.rowsOf table) := by
  obtain ⟨h, -⟩ := List.mem_filter.mp h
  obtain ⟨t, -, heq⟩ := List.mem_map.mp h
  cases heq
  rfl

theorem mem_rowsOf {m : MappedClickHouseOutbox} {table : SinkTable} {row : ClickHouseSinkRow} :
    row ∈ m.rowsOf table ↔ m.table = table ∧ row ∈ m.rows := by
  unfold MappedClickHouseOutbox.rowsOf
  split <;> simp_all

/-- Every row of a batch is in the group of its table. -/
theorem grouped_covers {mapped : List MappedClickHouseOutbox} {m : MappedClickHouseOutbox} (hm : m ∈ mapped)
    {row : ClickHouseSinkRow} (hrow : row ∈ m.rows) :
    (m.table, mapped.flatMap (·.rowsOf m.table)) ∈ grouped mapped ∧ row ∈ mapped.flatMap (·.rowsOf m.table) := by
  have hmem : row ∈ mapped.flatMap (·.rowsOf m.table) := List.mem_flatMap.mpr ⟨m, hm, mem_rowsOf.mpr ⟨rfl, hrow⟩⟩
  refine ⟨List.mem_filter.mpr ⟨List.mem_map.mpr ⟨m.table, ?_, rfl⟩, ?_⟩, hmem⟩
  · cases m.table <;> decide
  · have hne : mapped.flatMap (·.rowsOf m.table) ≠ [] := List.ne_nil_of_mem hmem
    simpa using hne

section Put

variable {α κ : Type} [DecidableEq κ] {key : α → κ} {values : List α} {x y : α}

theorem put_nodup (h : (values.map key).Nodup) : ((put key values x).map key).Nodup := by
  unfold put
  split
  · have hkeys : (values.map fun y => if key y = key x then x else y).map key = values.map key := by
      rw [List.map_map]
      apply List.map_congr_left
      intro y _
      show key (if key y = key x then x else y) = key y
      split
      · rename_i heq
        exact heq.symm
      · rfl
    rw [hkeys]
    exact h
  · rename_i hnew
    rw [List.map_append]
    apply h.append (List.nodup_singleton _)
    intro k hk hk'
    obtain ⟨y, hy, rfl⟩ := List.mem_map.mp hk
    apply hnew
    rw [List.any_eq_true]
    exact ⟨y, hy, by simpa using hk'⟩

theorem mem_put (h : y ∈ put key values x) : y = x ∨ y ∈ values := by
  unfold put at h
  split at h
  · obtain ⟨z, hz, rfl⟩ := List.mem_map.mp h
    split
    · exact .inl rfl
    · exact .inr hz
  · rcases List.mem_append.mp h with h | h
    · exact .inr h
    · exact .inl (List.mem_singleton.mp h)

theorem put_covers (h : y = x ∨ y ∈ values) : ∃ z ∈ put key values x, key z = key y := by
  unfold put
  split
  · rename_i hthere
    obtain ⟨old, hold, hkey⟩ := List.any_eq_true.mp hthere
    rcases h with rfl | h
    · refine ⟨y, List.mem_map.mpr ⟨old, hold, ?_⟩, rfl⟩
      exact if_pos (by simpa using hkey)
    · refine ⟨_, List.mem_map.mpr ⟨y, h, rfl⟩, ?_⟩
      split
      · rename_i heq
        exact heq.symm
      · rfl
  · rcases h with rfl | h
    · exact ⟨y, List.mem_append_right _ (List.mem_singleton.mpr rfl), rfl⟩
    · exact ⟨y, List.mem_append_left _ h, rfl⟩

end Put

/-- One row for each delivery id of the rows. -/
structure Representatives (rows distinct : List ClickHouseSinkRow) : Prop where
  nodup : (distinct.map (·.sinkDeliveryId)).Nodup
  mem : ∀ row ∈ distinct, row ∈ rows
  covers : ∀ row ∈ rows, ∃ d ∈ distinct, d.sinkDeliveryId = row.sinkDeliveryId

theorem addRow_ok {table : SinkTable} {acc acc' : List ClickHouseSinkRow} {row : ClickHouseSinkRow}
    (h : addRow table acc row = .ok acc') : acc' = put (·.sinkDeliveryId) acc row := by
  unfold addRow at h
  split at h
  · cases h
  split at h
  · cases h
  · cases h
    rfl

theorem addRows_ok {table : SinkTable} {before rows acc distinct : List ClickHouseSinkRow}
    (hacc : Representatives before acc) (h : rows.foldlM (addRow table) acc = .ok distinct) :
    Representatives (before ++ rows) distinct := by
  induction rows generalizing before acc with
  | nil =>
    cases h
    rwa [List.append_nil]
  | cons row rest ih =>
    rw [List.foldlM_cons] at h
    obtain ⟨acc', hrow, h⟩ := bind_ok h
    have hacc' : Representatives (before ++ [row]) acc' := by
      rw [addRow_ok hrow]
      constructor
      · exact put_nodup hacc.nodup
      · intro r hr
        rcases mem_put hr with rfl | hr
        · simp
        · exact List.mem_append_left _ (hacc.mem r hr)
      · intro r hr
        rcases List.mem_append.mp hr with hr | hr
        · obtain ⟨d, hd, hid⟩ := hacc.covers r hr
          obtain ⟨z, hz, hzid⟩ : ∃ z ∈ put (·.sinkDeliveryId) acc row, z.sinkDeliveryId = d.sinkDeliveryId :=
            put_covers (.inr hd)
          exact ⟨z, hz, hzid.trans hid⟩
        · exact put_covers (.inl (List.mem_singleton.mp hr))
    have := ih hacc' h
    rwa [List.append_assoc] at this

theorem byDeliveryId_ok {table : SinkTable} {rows distinct : List ClickHouseSinkRow}
    (h : byDeliveryId table rows = .ok distinct) : Representatives rows distinct := by
  have hnil : Representatives [] [] := ⟨.nil, by simp, by simp⟩
  exact addRows_ok hnil h

/-! ## Acknowledgement -/

theorem sendAll_ok {now : Int} {leases : List OutboxLease} {t t' : OutboxTable}
    (h : leases.foldlM (fun t lease => t.updateOwned lease now (.sent now)) t = some t') :
    t'.entries = t.entries ∧ ∀ row ∈ t'.rows, row ∈ t.rows ∨
      ∃ lease ∈ leases, row.entry.id = lease.entry.id ∧ row.progress.status = .sent := by
  induction leases generalizing t with
  | nil =>
    cases h
    exact ⟨rfl, fun row hrow => .inl hrow⟩
  | cons lease rest ih =>
    rw [List.foldlM_cons] at h
    obtain ⟨middle, hmiddle, h⟩ := Option.bind_eq_some_iff.mp h
    obtain ⟨hentries, hrows⟩ := ih h
    refine ⟨?_, ?_⟩
    · rw [hentries, OutboxTable.updateOwned_ok hmiddle, OutboxTable.entries_update]
    · intro row hrow
      rcases hrows row hrow with hrow | ⟨l, hl, hid, hsent⟩
      · rcases OutboxTable.mem_updateOwned hmiddle hrow with ⟨hrow, -⟩ | ⟨old, -, howns, rfl⟩
        · exact .inl hrow
        · exact .inr ⟨lease, List.mem_cons_self, (OutboxLease.owns_id howns).1, rfl⟩
      · exact .inr ⟨l, List.mem_cons_of_mem _ hl, hid, hsent⟩

theorem markDelivered_ok {s s' : OutboxState} {delivery : Delivery} (h : markDelivered s delivery = some s') :
    s'.clickhouse = s.clickhouse ∧ s'.deadLetters = s.deadLetters ∧ s'.outbox.entries = s.outbox.entries ∧
      ∀ row ∈ s'.outbox.rows, row ∈ s.outbox.rows ∨
        ∃ lease ∈ delivery.leases, row.entry.id = lease.entry.id ∧ row.progress.status = .sent := by
  unfold markDelivered at h
  simp only at h
  split at h
  · cases h
  · obtain ⟨outbox, hsent, h⟩ := Option.bind_eq_some_iff.mp h
    cases h
    exact ⟨rfl, rfl, sendAll_ok hsent⟩

theorem retry_ok {settings : OutboxSettings} {s s' : OutboxState} {lease : OutboxLease} {failure : OutboxFailure}
    (h : retry settings s lease failure = some s') :
    ∃ time outbox, s.outbox.updateOwned lease s.now (.retryAt time failure.text) = some outbox ∧
      s' = { s with outbox } := by
  obtain ⟨outbox, houtbox, h⟩ := Option.bind_eq_some_iff.mp h
  cases h
  exact ⟨_, outbox, houtbox, rfl⟩

theorem deadLetter_ok {s s' : OutboxState} {lease : OutboxLease} {failure : OutboxFailure}
    (h : deadLetter s lease failure = some s') :
    ∃ outbox, s.outbox.updateOwned lease s.now (.buried failure.text) = some outbox ∧
      s' = { s with
        outbox
        deadLetters := s.deadLetters ++ [⟨lease.entry.applicationId, lease.entry.id, failure.code, failure.errorClass,
          failure.message, lease.attemptCount⟩] } := by
  obtain ⟨outbox, houtbox, h⟩ := Option.bind_eq_some_iff.mp h
  cases h
  exact ⟨outbox, houtbox, rfl⟩

/-! ## Moves -/

/-- Neither the outbox nor a table nor the dead letters change. -/
structure OutboxState.Same (s s' : OutboxState) : Prop where
  now : s'.now = s.now
  outbox : s'.outbox = s.outbox
  tables : s'.clickhouse.tables = s.clickhouse.tables
  deadLetters : s'.deadLetters = s.deadLetters

theorem OutboxState.Same.refl (s : OutboxState) : s.Same s := ⟨rfl, rfl, rfl, rfl⟩

/-- What a worker delivers, as long as it does. -/
def Phase.delivery : Phase → Option Delivery
  | .querying delivery _ | .inserting delivery _ _ _ | .acknowledging delivery => some delivery
  | _ => none

/-- The state after a chunk of rows has been inserted. -/
def OutboxState.inserted (settings : OutboxSettings) (s : OutboxState) (table : SinkTable)
    (rows : List ClickHouseSinkRow) : OutboxState :=
  { s with clickhouse := s.clickhouse.insertRows table (rows.take settings.insertBatchSize) }

inductive Moves (settings : OutboxSettings) (s : OutboxState) : Phase → OutboxState → Phase → Prop
  | watermark {d : Delivery} {s' : OutboxState} (same : s.Same s') : Moves settings s (.querying d []) s' (.acknowledging d)
  | fail {phase : Phase} {d : Delivery} {s' : OutboxState} {errorClass message : String} (same : s.Same s')
      (delivering : phase.delivery = some d) :
      Moves settings s phase s' (.handling (failureFrom (.other errorClass message)) d.leases)
  | conflict {d : Delivery} {table : SinkTable} {rows : List ClickHouseSinkRow}
      {tables : List (SinkTable × List ClickHouseSinkRow)} {message : String}
      (refused : byDeliveryId table rows = .error message) :
      Moves settings s (.querying d ((table, rows) :: tables)) s (.handling (failureFrom (.typeError message)) d.leases)
  | present {d : Delivery} {table : SinkTable} {rows distinct : List ClickHouseSinkRow}
      {tables : List (SinkTable × List ClickHouseSinkRow)} (read : byDeliveryId table rows = .ok distinct)
      (there : missing s.clickhouse table distinct = []) :
      Moves settings s (.querying d ((table, rows) :: tables)) s (.querying d tables)
  | absent {d : Delivery} {table : SinkTable} {rows distinct : List ClickHouseSinkRow}
      {tables : List (SinkTable × List ClickHouseSinkRow)} (read : byDeliveryId table rows = .ok distinct) :
      Moves settings s (.querying d ((table, rows) :: tables)) s
        (.inserting d table (missing s.clickhouse table distinct) tables)
  | insertLast {d : Delivery} {table : SinkTable} {rows : List ClickHouseSinkRow}
      {tables : List (SinkTable × List ClickHouseSinkRow)} (last : rows.drop settings.insertBatchSize = []) :
      Moves settings s (.inserting d table rows tables) (s.inserted settings table rows) (.querying d tables)
  | insertMore {d : Delivery} {table : SinkTable} {rows : List ClickHouseSinkRow}
      {tables : List (SinkTable × List ClickHouseSinkRow)} (more : rows.drop settings.insertBatchSize ≠ []) :
      Moves settings s (.inserting d table rows tables) (s.inserted settings table rows)
        (.inserting d table (rows.drop settings.insertBatchSize) tables)
  | insertUnanswered {d : Delivery} {table : SinkTable} {rows : List ClickHouseSinkRow}
      {tables : List (SinkTable × List ClickHouseSinkRow)} {errorClass message : String} :
      Moves settings s (.inserting d table rows tables) (s.inserted settings table rows)
        (.handling (failureFrom (.other errorClass message)) d.leases)
  | acknowledge {d : Delivery} {s' : OutboxState} (marked : markDelivered s d = some s') :
      Moves settings s (.acknowledging d) s' .finished
  | stop {phase : Phase} : Moves settings s phase s .finished
  | retry {failure : OutboxFailure} {lease : OutboxLease} {rest : List OutboxLease} {s' : OutboxState}
      (updated : retry settings s lease failure = some s') :
      Moves settings s (.handling failure (lease :: rest)) s' (.syncing failure false failure rest)
  | bury {failure : OutboxFailure} {lease : OutboxLease} {rest : List OutboxLease} {s' : OutboxState}
      (updated : deadLetter s lease failure.terminal = some s') :
      Moves settings s (.handling failure (lease :: rest)) s' (.syncing failure.terminal true failure rest)
  | sync {recorded failure : OutboxFailure} {terminal : Bool} {rest : List OutboxLease} {s' : OutboxState}
      (same : s.Same s') : Moves settings s (.syncing recorded terminal failure rest) s' (.handling failure rest)

theorem advance_moves (settings : OutboxSettings) (s : OutboxState) (answer : Answer) (phase : Phase) :
    Moves settings s phase (advance settings s answer phase).1 (advance settings s answer phase).2 := by
  cases phase with
  | querying d tables =>
    cases tables with
    | nil =>
      simp only [advance, writeWatermark]
      split
      · exact .fail (.refl s) rfl
      cases answer with
      | done => exact .watermark ⟨rfl, rfl, rfl, rfl⟩
      | failed errorClass message applied =>
        cases applied with
        | true => exact .fail ⟨rfl, rfl, rfl, rfl⟩ rfl
        | false => exact .fail (.refl s) rfl
    | cons group tables =>
      obtain ⟨table, rows⟩ := group
      simp only [advance, askTable]
      split
      · exact .conflict ‹_›
      cases answer with
      | done =>
        simp only
        split
        · exact .present ‹_› (List.isEmpty_iff.mp ‹_›)
        · exact .absent ‹_›
      | failed errorClass message applied => exact .fail (.refl s) rfl
  | inserting d table rows tables =>
    simp only [advance, insertChunk]
    cases answer with
    | done =>
      simp only
      split
      · exact .insertLast (List.isEmpty_iff.mp ‹_›)
      · exact .insertMore fun hnil => ‹¬ _› (List.isEmpty_iff.mpr hnil)
    | failed errorClass message applied =>
      cases applied with
      | true => exact .insertUnanswered
      | false => exact .fail (.refl s) rfl
  | acknowledging d =>
    simp only [advance]
    cases hmarked : markDelivered s d with
    | none => exact .stop
    | some s' => exact .acknowledge hmarked
  | handling failure leases =>
    cases leases with
    | nil => exact .stop
    | cons lease rest =>
      simp only [advance, handleLease]
      split
      · split
        · exact .retry ‹_›
        · exact .stop
      · split
        · exact .bury ‹_›
        · exact .stop
  | syncing recorded terminal failure rest => exact .sync ⟨rfl, rfl, rfl, rfl⟩
  | finished => exact .stop

/-! ## Replays -/

/-- A row that repeats a record. -/
def OutboxRow.Repeats (row : OutboxRow) (source : OutboxEntry) : Prop :=
  row.progress.status = .pending ∧ row.entry.eventType = source.eventType ∧ row.entry.payload = source.payload ∧
    row.entry.replayOfOutboxId = some source.source ∧ source.id < row.entry.id

theorem insertReplay_ok {now : Int} {run : ReplayRun} {t t' : OutboxTable} {source : OutboxEntry × Nat}
    (h : insertReplay now run t source = some t') : t' = t ∨ ∃ row, t'.rows = t.rows ++ [row] ∧ row.Repeats source.1 := by
  unfold insertReplay at h
  split at h
  · cases h
  rename_i hlater
  split at h
  · cases h
    exact .inl rfl
  · exact .inr ⟨_, OutboxTable.insert_ok h, rfl, rfl, rfl, rfl, Nat.lt_of_not_le hlater⟩

theorem insertReplays_ok {now : Int} {run : ReplayRun} {sources : List (OutboxEntry × Nat)} {t t' : OutboxTable}
    (h : sources.foldlM (insertReplay now run) t = some t') :
    ∃ new, t'.rows = t.rows ++ new ∧ ∀ row ∈ new, ∃ source ∈ sources, row.Repeats source.1 := by
  induction sources generalizing t with
  | nil =>
    cases h
    exact ⟨[], by simp, by simp⟩
  | cons source rest ih =>
    rw [List.foldlM_cons] at h
    obtain ⟨middle, hmiddle, h⟩ := Option.bind_eq_some_iff.mp h
    obtain ⟨new, hrows, hnew⟩ := ih h
    rcases insertReplay_ok hmiddle with rfl | ⟨row, hrow, hrepeats⟩
    · refine ⟨new, hrows, fun row hrow => ?_⟩
      obtain ⟨source, hsource, hrepeats⟩ := hnew row hrow
      exact ⟨source, List.mem_cons_of_mem _ hsource, hrepeats⟩
    · refine ⟨row :: new, by rw [hrows, hrow]; simp, fun r hr => ?_⟩
      rcases List.mem_cons.mp hr with rfl | hr
      · exact ⟨source, List.mem_cons_self, hrepeats⟩
      · obtain ⟨source, hsource, hrepeats⟩ := hnew r hr
        exact ⟨source, List.mem_cons_of_mem _ hsource, hrepeats⟩

theorem resetOutbox_ok {t t' : OutboxTable} {run : ReplayRun} {now : Int} (h : resetOutbox t run now = some t') :
    ∃ new, t'.rows = t.rows ++ new ∧ ∀ row ∈ new, ∃ source ∈ t.entries, row.Repeats source := by
  unfold resetOutbox at h
  simp only at h
  split at h
  · obtain ⟨new, hrows, hnew⟩ := insertReplays_ok h
    refine ⟨new, hrows, fun row hrow => ?_⟩
    obtain ⟨⟨source, id⟩, hsource, hrepeats⟩ := hnew row hrow
    have hmem : source ∈ (t.rows.filter run.selects).map (·.entry) := (List.of_mem_zip hsource).1
    obtain ⟨old, hold, rfl⟩ := List.mem_map.mp hmem
    exact ⟨old.entry, List.mem_map_of_mem (List.mem_of_mem_filter hold), hrepeats⟩
  · cases h

end TokenPilot.Analytics
