/-
  TokenPilot.Analytics.ExactlyOnce — what the tables of the analytics store hold after any
  run of the outbox.

  A worker asks which delivery ids a table has and inserts the missing rows in a later move.
  `Unchecked` collects what it has asked for and not inserted yet. A delivery id is at most
  once in a table together with everything unchecked (`Once`), and every move keeps that
  except a question for an id which another worker has asked for and not inserted yet.
  `Exclusive` is the condition that no such question is asked.

  That a sent record has all of its rows holds in every run (`Consistent`): a row of a record
  in delivery is still to be asked for, still to be inserted or there; and a delivery id which
  the store has carries the row id the record would give it, since replays repeat the type and
  the payload of the record whose ids they deliver under.
-/

import TokenPilot.Analytics.OutboxLaws

namespace TokenPilot.Analytics

open Library

/-! ## At most once -/

/-- The delivery ids of a table that a worker has asked for and not inserted yet. -/
def Phase.unchecked (table : SinkTable) : Phase → List String
  | .inserting _ t rows _ => if t = table then rows.map (·.sinkDeliveryId) else []
  | _ => []

def deliveryIds (s : OutboxState) (table : SinkTable) : List String := (s.clickhouse.tables table).map (·.sinkDeliveryId)

/-- No delivery id is in a table, or on the way to it, twice. -/
def Once (s : OutboxState) : Prop :=
  ∀ table, (deliveryIds s table ++ s.workers.flatMap (·.unchecked table)).Nodup

/-- Nobody asks for a delivery id that another worker has asked for and not inserted yet. -/
def Exclusive (s : OutboxState) : OutboxStep → Bool
  | .advance worker _ =>
    match s.workers[worker]? with
    | some (.querying _ ((table, rows) :: _)) =>
      (s.workers.eraseIdx worker).all fun other =>
        (other.unchecked table).all fun id => rows.all fun row => row.sinkDeliveryId ≠ id
    | _ => true
  | _ => true

/-- One worker in a list of workers. -/
theorem workers_split {workers : List Phase} {w : Nat} {phase : Phase} (h : workers[w]? = some phase) :
    ∃ before after, workers = before ++ phase :: after ∧ (∀ phase', workers.set w phase' = before ++ phase' :: after) ∧
      workers.eraseIdx w = before ++ after := by
  obtain ⟨hw, hget⟩ := List.getElem?_eq_some_iff.mp h
  refine ⟨workers.take w, workers.drop (w + 1), ?_, ?_, List.eraseIdx_eq_take_drop_succ ..⟩
  · rw [← hget, List.cons_getElem_drop_succ, List.take_append_drop]
  · intro phase'
    rw [List.set_eq_take_append_cons_drop, if_pos hw]

/-- One worker changes, and neither its own ids nor those of the table become more. -/
theorem nodup_replace {T T' P P' A B : List String} (h : (T ++ (A ++ (P ++ B))).Nodup)
    (hsub : (T' ++ P').Sublist (T ++ P)) : (T' ++ (A ++ (P' ++ B))).Nodup := by
  have hperm : ∀ T P : List String, (T ++ (A ++ (P ++ B))).Perm ((T ++ P) ++ (A ++ B)) := by
    intro T P
    rw [List.append_assoc T P]
    apply List.Perm.append_left
    rw [← List.append_assoc, ← List.append_assoc]
    exact List.perm_append_comm.append_right B
  rw [(hperm T P).nodup_iff] at h
  rw [(hperm T' P').nodup_iff]
  exact h.sublist (hsub.append_right _)

/-- One worker gets ids that are new. -/
theorem nodup_add {T P A B : List String} (h : (T ++ (A ++ B)).Nodup) (hnodup : P.Nodup) (htable : ∀ id ∈ P, id ∉ T)
    (hothers : ∀ id ∈ P, id ∉ A ++ B) : (T ++ (A ++ (P ++ B))).Nodup := by
  have hperm : (T ++ (A ++ (P ++ B))).Perm (P ++ (T ++ (A ++ B))) := by
    refine List.Perm.trans (List.Perm.append_left T ?_) (List.perm_append_comm_assoc ..)
    exact List.perm_append_comm_assoc ..
  rw [hperm.nodup_iff]
  apply hnodup.append h
  intro id hid hold
  rcases List.mem_append.mp hold with hold | hold
  · exact htable id hid hold
  · exact hothers id hid hold

theorem deliveryIds_inserted (settings : OutboxSettings) (s : OutboxState) (table t : SinkTable)
    (rows : List ClickHouseSinkRow) :
    deliveryIds (s.inserted settings t rows) table =
      deliveryIds s table ++ if t = table then (rows.take settings.insertBatchSize).map (·.sinkDeliveryId) else [] := by
  simp only [deliveryIds, OutboxState.inserted, ClickHouse.insertRows]
  by_cases h : table = t
  · subst h
    simp
  · rw [if_neg h, if_neg (Ne.symm h), List.append_nil]

/-- What a move leaves in the tables and unchecked; a question apart, nothing is added. -/
theorem moves_ids {settings : OutboxSettings} {s s' : OutboxState} {phase phase' : Phase} (table : SinkTable)
    (h : Moves settings s phase s' phase') :
    (deliveryIds s' table ++ phase'.unchecked table).Sublist (deliveryIds s table ++ phase.unchecked table) ∨
      ∃ d rows tables distinct, phase = .querying d ((table, rows) :: tables) ∧ s' = s ∧
        byDeliveryId table rows = .ok distinct ∧
        phase' = .inserting d table (missing s.clickhouse table distinct) tables := by
  have hsame : ∀ {s' : OutboxState}, s.Same s' → deliveryIds s' table = deliveryIds s table := by
    intro s' h
    rw [deliveryIds, deliveryIds, h.tables]
  have hdrop : ∀ {s' : OutboxState} {phase : Phase}, deliveryIds s' table = deliveryIds s table →
      (deliveryIds s' table ++ []).Sublist (deliveryIds s table ++ phase.unchecked table) := by
    intro s' phase h
    rw [h]
    exact (List.nil_sublist _).append_left _
  cases h with
  | watermark same => exact .inl (hdrop (hsame same))
  | fail same _ => exact .inl (hdrop (hsame same))
  | conflict _ => exact .inl (hdrop rfl)
  | present _ _ => exact .inl (hdrop rfl)
  | @absent d t rows distinct tables read =>
    by_cases ht : t = table
    · subst ht
      exact .inr ⟨d, rows, tables, distinct, rfl, rfl, read, rfl⟩
    · refine .inl ?_
      rw [Phase.unchecked, if_neg ht]
      exact hdrop rfl
  | @insertLast d t rows tables last =>
    refine .inl ?_
    simp only [deliveryIds_inserted, Phase.unchecked, List.append_nil]
    split
    · exact ((List.take_sublist _ _).map _).append_left _
    · exact List.Sublist.refl _
  | @insertMore d t rows tables _ =>
    refine .inl ?_
    rw [deliveryIds_inserted, Phase.unchecked, Phase.unchecked]
    split
    · rw [List.append_assoc, ← List.map_append, List.take_append_drop]
    · rw [List.append_nil]
  | @insertUnanswered d t rows tables _ _ =>
    refine .inl ?_
    simp only [deliveryIds_inserted, Phase.unchecked, List.append_nil]
    split
    · exact ((List.take_sublist _ _).map _).append_left _
    · exact List.Sublist.refl _
  | acknowledge marked =>
    refine .inl (hdrop ?_)
    rw [deliveryIds, deliveryIds, (markDelivered_ok marked).1]
  | stop => exact .inl (hdrop rfl)
  | retry updated =>
    obtain ⟨_, _, -, rfl⟩ := retry_ok updated
    exact .inl (hdrop rfl)
  | bury updated =>
    obtain ⟨_, -, rfl⟩ := deadLetter_ok updated
    exact .inl (hdrop rfl)
  | sync same => exact .inl (hdrop (hsame same))

/-- A question for ids that no other worker holds. -/
theorem once_ask {s : OutboxState} {table : SinkTable} {rows distinct : List ClickHouseSinkRow} {A B : List String}
    (h : (deliveryIds s table ++ (A ++ B)).Nodup) (hread : byDeliveryId table rows = .ok distinct)
    (hothers : ∀ id ∈ A ++ B, ∀ row ∈ rows, row.sinkDeliveryId ≠ id) :
    (deliveryIds s table ++ (A ++ ((missing s.clickhouse table distinct).map (·.sinkDeliveryId) ++ B))).Nodup := by
  have hdistinct := byDeliveryId_ok hread
  apply nodup_add h
  · exact hdistinct.nodup.sublist (List.filter_sublist.map _)
  · intro id hid hstored
    obtain ⟨row, hrow, rfl⟩ := List.mem_map.mp hid
    obtain ⟨stored, hstored, heq⟩ := List.mem_map.mp hstored
    have habsent := (List.mem_filter.mp hrow).2
    simp only [Bool.not_eq_true', List.any_eq_false, decide_eq_true_eq] at habsent
    exact habsent stored hstored heq
  · intro id hid hother
    obtain ⟨row, hrow, rfl⟩ := List.mem_map.mp hid
    exact hothers _ hother row (hdistinct.mem row (List.mem_of_mem_filter hrow)) rfl

theorem once_advance {settings : OutboxSettings} {s s' : OutboxState} {w : Nat} {answer : Answer} {phase phase' : Phase}
    (hs : Once s) (hw : s.workers[w]? = some phase) (hok : Exclusive s (.advance w answer) = true)
    (hmove : Moves settings s phase s' phase') : Once { s' with workers := s.workers.set w phase' } := by
  intro table
  obtain ⟨before, after, hworkers, hset, herase⟩ := workers_split hw
  have hs := hs table
  rw [hworkers, List.flatMap_append, List.flatMap_cons] at hs
  show (deliveryIds s' table ++ (s.workers.set w phase').flatMap (·.unchecked table)).Nodup
  rw [hset, List.flatMap_append, List.flatMap_cons]
  rcases moves_ids table hmove with hsub | ⟨d, rows, tables, distinct, rfl, rfl, hread, rfl⟩
  · exact nodup_replace hs hsub
  · simp only [Exclusive, hw, herase, List.all_eq_true] at hok
    simp only [Phase.unchecked, List.nil_append] at hs
    simp only [Phase.unchecked, if_pos]
    apply once_ask hs hread
    intro id hid row hrow
    have hmem : ∃ other ∈ before ++ after, id ∈ other.unchecked table := by
      rw [← List.mem_flatMap, List.flatMap_append]
      exact hid
    obtain ⟨other, hother, hid⟩ := hmem
    simpa using hok other hother id hid row hrow

theorem firstPhase_unchecked (settings : OutboxSettings) (leases : List OutboxLease) (table : SinkTable) :
    (firstPhase settings leases).unchecked table = [] := by
  unfold firstPhase
  split
  · rfl
  split <;> rfl

theorem once_next {settings : OutboxSettings} {s s' : OutboxState} {step : OutboxStep} (hs : Once s)
    (hok : Exclusive s step = true) (h : s.next settings step = some s') : Once s' := by
  cases step with
  | wait microseconds => cases h; exact hs
  | register applicationId eventId =>
    simp only [OutboxState.next] at h
    split at h
    · cases h
    · cases h; exact hs
  | produce applicationId id message =>
    simp only [OutboxState.next] at h
    split at h
    · cases h
    · obtain ⟨outbox, -, h⟩ := Option.bind_eq_some_iff.mp h
      cases h
      exact hs
  | replay run =>
    obtain ⟨outbox, -, h⟩ := Option.bind_eq_some_iff.mp h
    cases h
    exact hs
  | lease token locked =>
    cases h
    intro table
    have hs := hs table
    simpa [deliveryIds, firstPhase_unchecked] using hs
  | advance w answer =>
    obtain ⟨phase, hw, h⟩ := Option.bind_eq_some_iff.mp h
    cases h
    exact once_advance hs hw hok (advance_moves settings s answer phase)
  | crash w =>
    simp only [OutboxState.next] at h
    split at h
    · rename_i hlt
      cases h
      obtain ⟨phase, hw⟩ : ∃ phase, s.workers[w]? = some phase := ⟨_, List.getElem?_eq_getElem hlt⟩
      intro table
      obtain ⟨before, after, hworkers, hset, -⟩ := workers_split hw
      have hs := hs table
      rw [hworkers, List.flatMap_append, List.flatMap_cons] at hs
      show (deliveryIds s table ++ (s.workers.set w .finished).flatMap (·.unchecked table)).Nodup
      rw [hset, List.flatMap_append, List.flatMap_cons]
      exact nodup_replace hs ((List.nil_sublist _).append_left _)
    · cases h

/-! ## Sent and there -/

/-- A row that the mapper gives for a record of the outbox. -/
def Justified (settings : OutboxSettings) (entries : List OutboxEntry) (table : SinkTable) (row : ClickHouseSinkRow) :
    Prop :=
  ∃ entry ∈ entries, ∃ m, settings.map entry.toClickHouseOutboxRecord = .ok m ∧ m.table = table ∧ row ∈ m.rows

/-- A row with the identities of this one. -/
def Stored (s : OutboxState) (table : SinkTable) (row : ClickHouseSinkRow) : Prop :=
  ∃ stored ∈ s.clickhouse.tables table, stored.key = row.key

/-- The record is mapped, and each of its rows has the property. -/
def Mapped (settings : OutboxSettings) (entry : OutboxEntry) (P : SinkTable → ClickHouseSinkRow → Prop) : Prop :=
  ∃ m, settings.map entry.toClickHouseOutboxRecord = .ok m ∧ ∀ row ∈ m.rows, P m.table row

/-- All rows of the record are in the store. -/
def Projected (settings : OutboxSettings) (s : OutboxState) (entry : OutboxEntry) : Prop :=
  Mapped settings entry (Stored s)

/-- The tables a worker has still to take. -/
def Phase.tables : Phase → List (SinkTable × List ClickHouseSinkRow)
  | .querying _ tables | .inserting _ _ _ tables => tables
  | _ => []

/-- The rows of a table that a worker has still to insert. -/
def Phase.absent (table : SinkTable) : Phase → List ClickHouseSinkRow
  | .inserting _ t rows _ => if t = table then rows else []
  | _ => []

/-- Where a row of a record in delivery can be. -/
def Reached (s : OutboxState) (phase : Phase) (table : SinkTable) (row : ClickHouseSinkRow) : Prop :=
  (∃ rows, (table, rows) ∈ phase.tables ∧ row ∈ rows) ∨ (∃ r ∈ phase.absent table, r.key = row.key) ∨ Stored s table row

/-- A worker in delivery has leases of records of the outbox, and loses none of their rows. -/
structure Phase.Sound (settings : OutboxSettings) (s : OutboxState) (phase : Phase) : Prop where
  leases : ∀ d, phase.delivery = some d → ∀ lease ∈ d.leases, lease.entry ∈ s.outbox.entries
  tables : ∀ table rows, (table, rows) ∈ phase.tables → ∀ row ∈ rows, Justified settings s.outbox.entries table row
  absent : ∀ table, ∀ row ∈ phase.absent table, Justified settings s.outbox.entries table row
  reached : ∀ d, phase.delivery = some d → ∀ lease ∈ d.leases, Mapped settings lease.entry (Reached s phase)

/-- A replay repeats a record that is no replay. -/
def Replays (entries : List OutboxEntry) : Prop :=
  ∀ entry ∈ entries, ∀ source, entry.replayOfOutboxId = some source →
    ∃ origin ∈ entries, origin.id = source ∧ origin.replayOfOutboxId = none ∧ origin.eventType = entry.eventType ∧
      origin.payload = entry.payload

structure Consistent (settings : OutboxSettings) (s : OutboxState) : Prop where
  replays : Replays s.outbox.entries
  stored : ∀ table, ∀ row ∈ s.clickhouse.tables table, Justified settings s.outbox.entries table row
  workers : ∀ phase ∈ s.workers, phase.Sound settings s
  sent : ∀ row ∈ s.outbox.rows, row.progress.status = .sent → Projected settings s row.entry

section Monotone

variable {settings : OutboxSettings} {s s' : OutboxState}

theorem Justified.mono {entries entries' : List OutboxEntry} {table : SinkTable} {row : ClickHouseSinkRow}
    (h : Justified settings entries table row) (hsub : ∀ e ∈ entries, e ∈ entries') :
    Justified settings entries' table row := by
  obtain ⟨entry, hentry, m, hm⟩ := h
  exact ⟨entry, hsub entry hentry, m, hm⟩

theorem Stored.mono {table : SinkTable} {row : ClickHouseSinkRow} (h : Stored s table row)
    (hsub : ∀ table, ∀ r ∈ s.clickhouse.tables table, r ∈ s'.clickhouse.tables table) : Stored s' table row := by
  obtain ⟨stored, hstored, hkey⟩ := h
  exact ⟨stored, hsub table stored hstored, hkey⟩

theorem Mapped.imp {entry : OutboxEntry} {P Q : SinkTable → ClickHouseSinkRow → Prop} (h : Mapped settings entry P)
    (hPQ : ∀ m, settings.map entry.toClickHouseOutboxRecord = .ok m → ∀ row ∈ m.rows, P m.table row → Q m.table row) :
    Mapped settings entry Q := by
  obtain ⟨m, hm, hP⟩ := h
  exact ⟨m, hm, fun row hrow => hPQ m hm row hrow (hP row hrow)⟩

/-- A worker that does not move. -/
theorem Phase.Sound.mono {phase : Phase} (h : phase.Sound settings s)
    (hentries : ∀ e ∈ s.outbox.entries, e ∈ s'.outbox.entries)
    (htables : ∀ table, ∀ r ∈ s.clickhouse.tables table, r ∈ s'.clickhouse.tables table) : phase.Sound settings s' where
  leases d hd lease hlease := hentries _ (h.leases d hd lease hlease)
  tables table rows hrows row hrow := (h.tables table rows hrows row hrow).mono hentries
  absent table row hrow := (h.absent table row hrow).mono hentries
  reached d hd lease hlease := (h.reached d hd lease hlease).imp fun _ _ _ _ hreached =>
    hreached.imp_right (Or.imp_right (·.mono htables))

end Monotone

section Keys

variable {settings : OutboxSettings} {t : OutboxTable}

/-- The record a record repeats, or itself. -/
theorem origin_of (h : Replays t.entries) {entry : OutboxEntry} (hentry : entry ∈ t.entries) :
    ∃ origin ∈ t.entries, origin.id = entry.source ∧ origin.eventType = entry.eventType ∧ origin.payload = entry.payload := by
  cases hreplay : entry.replayOfOutboxId with
  | none => exact ⟨entry, hentry, by simp [ClickHouseOutboxRecord.source, hreplay], rfl, rfl⟩
  | some source =>
    obtain ⟨origin, horigin, hid, -, htype, hpayload⟩ := h entry hentry source hreplay
    exact ⟨origin, horigin, by simpa [ClickHouseOutboxRecord.source, hreplay] using hid, htype, hpayload⟩

theorem agree_of_source (h : Replays t.entries) {a b : OutboxEntry} (ha : a ∈ t.entries) (hb : b ∈ t.entries)
    (hsource : a.source = b.source) : a.eventType = b.eventType ∧ a.payload = b.payload := by
  obtain ⟨origin, horigin, hid, htype, hpayload⟩ := origin_of h ha
  obtain ⟨origin', horigin', hid', htype', hpayload'⟩ := origin_of h hb
  have heq : origin = origin' := t.entry_eq horigin horigin' (hid.trans (hsource.trans hid'.symm))
  subst heq
  exact ⟨htype.symm.trans htype', hpayload.symm.trans hpayload'⟩

/-- A delivery id determines the row id. -/
theorem key_eq_of_delivery (h : Replays t.entries) {table : SinkTable} {row row' : ClickHouseSinkRow}
    (hrow : Justified settings t.entries table row) (hrow' : Justified settings t.entries table row')
    (hid : row.sinkDeliveryId = row'.sinkDeliveryId) : row.key = row'.key := by
  obtain ⟨entry, hentry, m, hm, -, hmem⟩ := hrow
  obtain ⟨entry', hentry', m', hm', -, hmem'⟩ := hrow'
  have hrowId := rowId_of_delivery hm hm' (agree_of_source h hentry hentry') hmem hmem' hid
  rw [ClickHouseSinkRow.key, ClickHouseSinkRow.key, hid, hrowId]

end Keys

section Preservation

variable {settings : OutboxSettings} {s s' : OutboxState} {phase phase' : Phase}

theorem moves_entries (h : Moves settings s phase s' phase') : s'.outbox.entries = s.outbox.entries := by
  cases h with
  | watermark same => rw [same.outbox]
  | fail same _ => rw [same.outbox]
  | sync same => rw [same.outbox]
  | acknowledge marked => exact (markDelivered_ok marked).2.2.1
  | retry updated =>
    obtain ⟨_, outbox, houtbox, rfl⟩ := retry_ok updated
    rw [OutboxTable.updateOwned_ok houtbox, OutboxTable.entries_update]
  | bury updated =>
    obtain ⟨outbox, houtbox, rfl⟩ := deadLetter_ok updated
    rw [OutboxTable.updateOwned_ok houtbox, OutboxTable.entries_update]
  | _ => rfl

/-- The rows of a table after a move are those before it and rows the worker had to insert. -/
theorem moves_tables (h : Moves settings s phase s' phase') (table : SinkTable) :
    ∃ new, s'.clickhouse.tables table = s.clickhouse.tables table ++ new ∧ ∀ row ∈ new, row ∈ phase.absent table := by
  have hinserted : ∀ (d : Delivery) (t : SinkTable) (rows : List ClickHouseSinkRow)
      (tables : List (SinkTable × List ClickHouseSinkRow)),
      ∃ new, (s.inserted settings t rows).clickhouse.tables table = s.clickhouse.tables table ++ new ∧
        ∀ row ∈ new, row ∈ (Phase.inserting d t rows tables).absent table := by
    intro d t rows tables
    by_cases ht : t = table
    · subst ht
      refine ⟨rows.take settings.insertBatchSize, by simp [OutboxState.inserted, ClickHouse.insertRows], ?_⟩
      intro row hrow
      simpa [Phase.absent] using List.mem_of_mem_take hrow
    · refine ⟨[], ?_, by simp⟩
      simp [OutboxState.inserted, ClickHouse.insertRows, Ne.symm ht]
  have hnone : ∀ {s' : OutboxState}, s'.clickhouse.tables = s.clickhouse.tables →
      ∃ new, s'.clickhouse.tables table = s.clickhouse.tables table ++ new ∧ ∀ row ∈ new, row ∈ phase.absent table := by
    intro s' heq
    exact ⟨[], by rw [heq, List.append_nil], by simp⟩
  cases h with
  | watermark same => exact hnone same.tables
  | fail same _ => exact hnone same.tables
  | sync same => exact hnone same.tables
  | insertLast _ => exact hinserted _ _ _ _
  | insertMore _ => exact hinserted _ _ _ _
  | insertUnanswered => exact hinserted _ _ _ _
  | acknowledge marked => exact hnone (by rw [(markDelivered_ok marked).1])
  | retry updated =>
    obtain ⟨_, _, -, rfl⟩ := retry_ok updated
    exact hnone rfl
  | bury updated =>
    obtain ⟨_, -, rfl⟩ := deadLetter_ok updated
    exact hnone rfl
  | _ => exact hnone rfl

/-- A worker that delivers nothing. -/
theorem Phase.Sound.idle (hd : phase.delivery = none) (ht : phase.tables = []) (ha : ∀ table, phase.absent table = []) :
    phase.Sound settings s where
  leases d h := by rw [hd] at h; cases h
  tables table rows h := by rw [ht] at h; cases h
  absent table row h := by rw [ha] at h; cases h
  reached d h := by rw [hd] at h; cases h

/-- A row asked for is there or among the missing ones. -/
theorem reached_of_asked (hs : Consistent settings s) {table : SinkTable} {rows distinct : List ClickHouseSinkRow}
    (hread : byDeliveryId table rows = .ok distinct)
    (hrows : ∀ row ∈ rows, Justified settings s.outbox.entries table row) {row : ClickHouseSinkRow} (hrow : row ∈ rows) :
    (∃ r ∈ missing s.clickhouse table distinct, r.key = row.key) ∨ Stored s table row := by
  have hdistinct := byDeliveryId_ok hread
  obtain ⟨r, hr, hid⟩ := hdistinct.covers row hrow
  have hjustified := hrows row hrow
  by_cases hthere : (s.clickhouse.tables table).any (·.sinkDeliveryId = r.sinkDeliveryId)
  · obtain ⟨stored, hstored, heq⟩ := List.any_eq_true.mp hthere
    have heq : stored.sinkDeliveryId = row.sinkDeliveryId := (of_decide_eq_true heq).trans hid
    exact .inr ⟨stored, hstored, key_eq_of_delivery hs.replays (hs.stored table stored hstored) hjustified heq⟩
  · refine .inl ⟨r, List.mem_filter.mpr ⟨hr, by simpa using hthere⟩, ?_⟩
    exact key_eq_of_delivery hs.replays (hrows r (hdistinct.mem r hr)) hjustified hid

theorem stored_inserted {table : SinkTable} {rows : List ClickHouseSinkRow} {r row : ClickHouseSinkRow}
    (hr : r ∈ rows.take settings.insertBatchSize) (hkey : r.key = row.key) :
    Stored (s.inserted settings table rows) table row :=
  ⟨r, by simp [OutboxState.inserted, ClickHouse.insertRows, hr], hkey⟩

theorem stored_grows (h : Moves settings s phase s' phase') {table : SinkTable} {row : ClickHouseSinkRow}
    (hrow : Stored s table row) : Stored s' table row := by
  obtain ⟨stored, hstored, hkey⟩ := hrow
  obtain ⟨new, heq, -⟩ := moves_tables h table
  exact ⟨stored, heq ▸ List.mem_append_left new hstored, hkey⟩

theorem sound_moves (hs : Consistent settings s) (hphase : phase.Sound settings s)
    (h : Moves settings s phase s' phase') : phase'.Sound settings s' := by
  have hentries := moves_entries h
  have hgrows : ∀ {table row}, Stored s table row → Stored s' table row := stored_grows h
  cases h with
  | watermark same =>
    refine ⟨fun d hd lease hlease => ?_, by simp [Phase.tables], by simp [Phase.absent], fun d hd lease hlease => ?_⟩
    · rw [hentries]
      exact hphase.leases d hd lease hlease
    · refine (hphase.reached d hd lease hlease).imp fun m hm row hrow hreached => ?_
      rcases hreached with ⟨rows, hrows, -⟩ | ⟨r, hr, -⟩ | hstored
      · cases hrows
      · cases hr
      · exact .inr (.inr (hgrows hstored))
  | @present d table rows distinct tables read there =>
    refine ⟨hphase.leases, fun t rows' hrows' => hphase.tables t rows' (List.mem_cons_of_mem _ hrows'),
      by simp [Phase.absent], fun d' hd lease hlease => ?_⟩
    refine (hphase.reached d' hd lease hlease).imp fun m hm row hrow hreached => ?_
    rcases hreached with ⟨rows', hrows', hmem⟩ | ⟨r, hr, -⟩ | hstored
    · rcases List.mem_cons.mp hrows' with heq | hrows'
      · cases heq
        rcases reached_of_asked hs read (hphase.tables _ _ List.mem_cons_self) hmem with ⟨r, hr, -⟩ | hstored
        · rw [there] at hr
          cases hr
        · exact .inr (.inr hstored)
      · exact .inl ⟨rows', hrows', hmem⟩
    · cases hr
    · exact .inr (.inr hstored)
  | @absent d table rows distinct tables read =>
    have hrows := hphase.tables table rows List.mem_cons_self
    refine ⟨hphase.leases, fun t rows' hrows' => hphase.tables t rows' (List.mem_cons_of_mem _ hrows'), ?_,
      fun d' hd lease hlease => ?_⟩
    · intro t row hrow
      simp only [Phase.absent] at hrow
      split at hrow
      · rename_i heq
        subst heq
        exact hrows row ((byDeliveryId_ok read).mem row (List.mem_of_mem_filter hrow))
      · cases hrow
    · refine (hphase.reached d' hd lease hlease).imp fun m hm row hrow hreached => ?_
      rcases hreached with ⟨rows', hrows', hmem⟩ | ⟨r, hr, -⟩ | hstored
      · rcases List.mem_cons.mp hrows' with heq | hrows'
        · cases heq
          refine .inr ((reached_of_asked hs read hrows hmem).imp_left ?_)
          rintro ⟨r, hr, hkey⟩
          exact ⟨r, by simpa [Phase.absent] using hr, hkey⟩
        · exact .inl ⟨rows', hrows', hmem⟩
      · cases hr
      · exact .inr (.inr hstored)
  | @insertLast d table rows tables last =>
    refine ⟨hphase.leases, hphase.tables, by simp [Phase.absent], fun d' hd lease hlease => ?_⟩
    refine (hphase.reached d' hd lease hlease).imp fun m hm row hrow hreached => ?_
    rcases hreached with hlater | ⟨r, hr, hkey⟩ | hstored
    · exact .inl hlater
    · simp only [Phase.absent] at hr
      split at hr
      · rename_i heq
        subst heq
        have htake : rows.take settings.insertBatchSize = rows := by
          have := List.take_append_drop settings.insertBatchSize rows
          rwa [last, List.append_nil] at this
        exact .inr (.inr (stored_inserted (htake.symm ▸ hr) hkey))
      · cases hr
    · exact .inr (.inr (hgrows hstored))
  | @insertMore d table rows tables _ =>
    refine ⟨hphase.leases, hphase.tables, ?_, fun d' hd lease hlease => ?_⟩
    · intro t row hrow
      apply hphase.absent t row
      simp only [Phase.absent] at hrow ⊢
      split at hrow
      · rename_i heq
        rw [if_pos heq]
        exact List.mem_of_mem_drop hrow
      · cases hrow
    · refine (hphase.reached d' hd lease hlease).imp fun m hm row hrow hreached => ?_
      rcases hreached with hlater | ⟨r, hr, hkey⟩ | hstored
      · exact .inl hlater
      · simp only [Phase.absent] at hr
        split at hr
        · rename_i heq
          subst heq
          rw [← List.take_append_drop settings.insertBatchSize rows] at hr
          rcases List.mem_append.mp hr with hr | hr
          · exact .inr (.inr (stored_inserted hr hkey))
          · exact .inr (.inl ⟨r, by simpa [Phase.absent] using hr, hkey⟩)
        · cases hr
      · exact .inr (.inr (hgrows hstored))
  | fail _ _ => exact .idle rfl rfl fun _ => rfl
  | conflict _ => exact .idle rfl rfl fun _ => rfl
  | insertUnanswered => exact .idle rfl rfl fun _ => rfl
  | acknowledge _ => exact .idle rfl rfl fun _ => rfl
  | stop => exact .idle rfl rfl fun _ => rfl
  | retry _ => exact .idle rfl rfl fun _ => rfl
  | bury _ => exact .idle rfl rfl fun _ => rfl
  | sync _ => exact .idle rfl rfl fun _ => rfl

/-- A row becomes sent in an acknowledgement only. -/
theorem moves_sent (h : Moves settings s phase s' phase') {row : OutboxRow} (hrow : row ∈ s'.outbox.rows)
    (hsent : row.progress.status = .sent) :
    row ∈ s.outbox.rows ∨ ∃ d, phase = .acknowledging d ∧ ∃ lease ∈ d.leases, row.entry.id = lease.entry.id := by
  cases h with
  | watermark same => exact .inl (same.outbox ▸ hrow)
  | fail same _ => exact .inl (same.outbox ▸ hrow)
  | sync same => exact .inl (same.outbox ▸ hrow)
  | @acknowledge d _ marked =>
    rcases (markDelivered_ok marked).2.2.2 row hrow with hrow | ⟨lease, hlease, hid, -⟩
    · exact .inl hrow
    · exact .inr ⟨d, rfl, lease, hlease, hid⟩
  | retry updated =>
    obtain ⟨_, outbox, houtbox, rfl⟩ := retry_ok updated
    rcases OutboxTable.mem_updateOwned houtbox hrow with ⟨hrow, -⟩ | ⟨_, -, -, rfl⟩
    · exact .inl hrow
    · cases hsent
  | bury updated =>
    obtain ⟨outbox, houtbox, rfl⟩ := deadLetter_ok updated
    rcases OutboxTable.mem_updateOwned houtbox hrow with ⟨hrow, -⟩ | ⟨_, -, -, rfl⟩
    · exact .inl hrow
    · cases hsent
  | _ => exact .inl hrow

theorem consistent_advance {w : Nat} (hs : Consistent settings s) (hw : s.workers[w]? = some phase)
    (h : Moves settings s phase s' phase') : Consistent settings { s' with workers := s.workers.set w phase' } := by
  have hentries := moves_entries h
  have hphase := hs.workers phase (List.mem_of_getElem? hw)
  have hrows : ∀ table, ∀ r ∈ s.clickhouse.tables table, r ∈ s'.clickhouse.tables table := by
    intro table r hr
    obtain ⟨new, heq, -⟩ := moves_tables h table
    exact heq ▸ List.mem_append_left new hr
  refine ⟨?_, ?_, ?_, ?_⟩
  · show Replays s'.outbox.entries
    rw [hentries]
    exact hs.replays
  · intro table row hrow
    show Justified settings s'.outbox.entries table row
    rw [hentries]
    obtain ⟨new, heq, hnew⟩ := moves_tables h table
    rw [heq] at hrow
    rcases List.mem_append.mp hrow with hrow | hrow
    · exact hs.stored table row hrow
    · exact hphase.absent table row (hnew row hrow)
  · intro other hother
    rcases List.mem_or_eq_of_mem_set hother with hother | rfl
    · exact (hs.workers other hother).mono (fun e he => hentries.symm ▸ he) hrows
    · exact (sound_moves hs hphase h).mono (fun e he => he) fun table r hr => hr
  · intro row hrow hsent
    rcases moves_sent h hrow hsent with hold | ⟨d, rfl, lease, hlease, hid⟩
    · exact (hs.sent row hold hsent).imp fun m hm r hr hstored => hstored.mono hrows
    · have hentry : row.entry = lease.entry := by
        apply s.outbox.entry_eq _ (hphase.leases d rfl lease hlease) hid
        rw [← hentries]
        exact List.mem_map_of_mem hrow
      show Projected settings _ row.entry
      rw [hentry]
      refine (hphase.reached d rfl lease hlease).imp fun m hm r hr hreached => ?_
      rcases hreached with ⟨rows, hrows', -⟩ | ⟨r', hr', -⟩ | hstored
      · cases hrows'
      · cases hr'
      · exact hstored.mono hrows

/-- New rows, pending, that are no replays or repeat records of the table. -/
theorem consistent_insert {outbox : OutboxTable} {new : List OutboxRow} (hs : Consistent settings s)
    (hrows : outbox.rows = s.outbox.rows ++ new)
    (hnew : ∀ row ∈ new, row.progress.status = .pending ∧
      (row.entry.replayOfOutboxId = none ∨ ∃ source ∈ s.outbox.entries, row.Repeats source)) :
    Consistent settings { s with outbox } := by
  have hentries : outbox.entries = s.outbox.entries ++ new.map (·.entry) := by
    rw [OutboxTable.entries, hrows, List.map_append]
    rfl
  have hsub : ∀ e ∈ s.outbox.entries, e ∈ outbox.entries := fun e he => hentries ▸ List.mem_append_left _ he
  refine ⟨?_, fun table row hrow => (hs.stored table row hrow).mono hsub,
    fun phase hphase => (hs.workers phase hphase).mono hsub fun table r hr => hr, ?_⟩
  · intro entry hentry source hreplay
    have hold : ∀ entry ∈ s.outbox.entries, ∀ source, entry.replayOfOutboxId = some source →
        ∃ origin ∈ outbox.entries, origin.id = source ∧ origin.replayOfOutboxId = none ∧
          origin.eventType = entry.eventType ∧ origin.payload = entry.payload := by
      intro entry hentry source hreplay
      obtain ⟨origin, horigin, h⟩ := hs.replays entry hentry source hreplay
      exact ⟨origin, hsub origin horigin, h⟩
    change entry ∈ outbox.entries at hentry
    rw [hentries] at hentry
    rcases List.mem_append.mp hentry with hentry | hentry
    · exact hold entry hentry source hreplay
    obtain ⟨row, hrow, rfl⟩ := List.mem_map.mp hentry
    obtain ⟨-, hnone | ⟨e, he, -, htype, hpayload, hreplays, -⟩⟩ := hnew row hrow
    · rw [hnone] at hreplay
      cases hreplay
    · cases hreplays.symm.trans hreplay
      cases hsource : e.replayOfOutboxId with
      | none =>
        refine ⟨e, hsub e he, ?_, hsource, htype.symm, hpayload.symm⟩
        simp [ClickHouseOutboxRecord.source, hsource]
      | some source =>
        obtain ⟨origin, horigin, hid, hnone, htype', hpayload'⟩ := hold e he source hsource
        refine ⟨origin, horigin, ?_, hnone, htype'.trans htype.symm, hpayload'.trans hpayload.symm⟩
        simpa [ClickHouseOutboxRecord.source, hsource] using hid
  · intro row hrow hsent
    change row ∈ outbox.rows at hrow
    rw [hrows] at hrow
    rcases List.mem_append.mp hrow with hrow | hrow
    · exact hs.sent row hrow hsent
    · rw [(hnew row hrow).1] at hsent
      cases hsent

theorem firstPhase_sound {leases : List OutboxLease} (hsorted : leases.Pairwise fun a b => a.entry.id < b.entry.id)
    (hleases : ∀ lease ∈ leases, lease.entry ∈ s.outbox.entries) : (firstPhase settings leases).Sound settings s := by
  unfold firstPhase
  split
  · exact .idle rfl rfl fun _ => rfl
  split
  · exact .idle rfl rfl fun _ => rfl
  · rename_i d tables hprepared
    obtain ⟨hsame, -, -, mapped, hmapped, rfl⟩ := prepare_ok hsorted hprepared
    refine ⟨?_, ?_, by simp [Phase.absent], ?_⟩
    · intro d' hd lease hlease
      cases hd
      rw [hsame] at hlease
      exact hleases lease hlease
    · intro table rows hrows row hrow
      rw [mem_grouped hrows] at hrow
      obtain ⟨m, hm, hrow⟩ := List.mem_flatMap.mp hrow
      obtain ⟨htable, hrow⟩ := mem_rowsOf.mp hrow
      obtain ⟨lease, hlease, hmap⟩ := mapM_mem hmapped hm
      exact ⟨lease.entry, hleases lease hlease, m, hmap, htable, hrow⟩
    · intro d' hd lease hlease
      cases hd
      rw [hsame] at hlease
      obtain ⟨m, hm, hmap⟩ := mapM_result hmapped hlease
      exact ⟨m, hmap, fun row hrow => .inl ⟨_, grouped_covers hm hrow⟩⟩

theorem consistent_lease {token : String} {locked : List Nat} (hs : Consistent settings s) :
    Consistent settings { s with
      outbox := (s.leased settings token locked).2
      workers := s.workers ++ [firstPhase settings (s.leased settings token locked).1] } := by
  have hentries : (s.leased settings token locked).2.entries = s.outbox.entries := OutboxTable.entries_update ..
  have hsub : ∀ e ∈ s.outbox.entries, e ∈ (s.leased settings token locked).2.entries := fun e he => hentries.symm ▸ he
  refine ⟨?_, fun table row hrow => (hs.stored table row hrow).mono hsub, ?_, ?_⟩
  · show Replays (s.leased settings token locked).2.entries
    rw [hentries]
    exact hs.replays
  · intro phase hphase
    rcases List.mem_append.mp hphase with hphase | hphase
    · exact (hs.workers phase hphase).mono hsub fun table r hr => hr
    · rw [List.mem_singleton.mp hphase]
      apply firstPhase_sound leased_sorted
      intro lease hlease
      obtain ⟨row, hrow, -, rfl⟩ := mem_leased hlease
      exact hsub _ (List.mem_map_of_mem hrow)
  · intro row hrow hsent
    obtain ⟨old, hold, rfl⟩ := OutboxTable.mem_update hrow
    simp only at hsent
    split at hsent
    · cases hsent
    · exact hs.sent old hold hsent

theorem consistent_next {step : OutboxStep} (hs : Consistent settings s) (h : s.next settings step = some s') :
    Consistent settings s' := by
  cases step with
  | wait microseconds =>
    cases h
    exact ⟨hs.replays, hs.stored, fun phase hphase => (hs.workers phase hphase).mono (fun _ he => he) fun _ _ hr => hr, hs.sent⟩
  | register applicationId eventId =>
    simp only [OutboxState.next] at h
    split at h
    · cases h
    · cases h
      exact ⟨hs.replays, hs.stored, fun phase hphase => (hs.workers phase hphase).mono (fun _ he => he) fun _ _ hr => hr,
        hs.sent⟩
  | produce applicationId id message =>
    simp only [OutboxState.next] at h
    split at h
    · cases h
    · obtain ⟨outbox, hinsert, h⟩ := Option.bind_eq_some_iff.mp h
      cases h
      apply consistent_insert hs (OutboxTable.insert_ok hinsert)
      intro row hrow
      rw [List.mem_singleton.mp hrow]
      exact ⟨rfl, .inl rfl⟩
  | replay run =>
    obtain ⟨outbox, hreset, h⟩ := Option.bind_eq_some_iff.mp h
    cases h
    obtain ⟨new, hrows, hnew⟩ := resetOutbox_ok hreset
    apply consistent_insert hs hrows
    intro row hrow
    obtain ⟨source, hsource, hrepeats⟩ := hnew row hrow
    exact ⟨hrepeats.1, .inr ⟨source, hsource, hrepeats⟩⟩
  | lease token locked =>
    cases h
    exact consistent_lease hs
  | advance w answer =>
    obtain ⟨phase, hw, h⟩ := Option.bind_eq_some_iff.mp h
    cases h
    exact consistent_advance hs hw (advance_moves settings s answer phase)
  | crash w =>
    simp only [OutboxState.next] at h
    split at h
    · rename_i hlt
      cases h
      exact consistent_advance hs (List.getElem?_eq_getElem hlt) .stop
    · cases h

end Preservation

/-! ## Every run -/

/-- Each identity is at most once in a table, and a sent record has all of its rows. -/
structure ExactlyOnce (settings : OutboxSettings) (s : OutboxState) : Prop where
  once : ∀ table deliveryId rowId, (s.clickhouse.tables table).countP (fun row => row.key = (deliveryId, rowId)) ≤ 1
  present : ∀ row ∈ s.outbox.rows, row.progress.status = .sent → Projected settings s row.entry

theorem exec_ok {settings : OutboxSettings} {s s' : OutboxState} {step : OutboxStep} {o : Unit}
    (h : (outboxMachine settings).exec s step = .ok (o, s')) : s.next settings step = some s' := by
  simp only [outboxMachine] at h
  split at h
  · cases h
    assumption
  · cases h

theorem consistent_empty (settings : OutboxSettings) (now : Int) : Consistent settings (emptyOutbox now) where
  replays := by simp [Replays, emptyOutbox, OutboxTable.entries]
  stored := by simp [emptyOutbox]
  workers := by simp [emptyOutbox]
  sent := by simp [emptyOutbox]

theorem consistent_run (settings : OutboxSettings) (now : Int) (steps : List OutboxStep) :
    Consistent settings ((outboxMachine settings).run (emptyOutbox now) steps) := by
  refine Machine.run_invariant ?_ steps _ (consistent_empty settings now)
  intro s step o s' hs h
  exact consistent_next hs (exec_ok h)

theorem once_run {settings : OutboxSettings} {now : Int} {steps : List OutboxStep}
    (h : (outboxMachine settings).Guarded (fun s step => Exclusive s step = true) (emptyOutbox now) steps) :
    Once ((outboxMachine settings).run (emptyOutbox now) steps) := by
  refine Machine.guarded_invariant ?_ steps _ ?_ h
  · intro s step o s' hs hok h
    exact once_next hs hok (exec_ok h)
  · intro table
    exact .nil

theorem countP_key_le_one {rows : List ClickHouseSinkRow} (h : (rows.map (·.sinkDeliveryId)).Nodup)
    (deliveryId rowId : String) : rows.countP (fun row => row.key = (deliveryId, rowId)) ≤ 1 := by
  have hcount : rows.countP (fun row => row.key = (deliveryId, rowId)) ≤
      (rows.map (·.sinkDeliveryId)).count deliveryId := by
    rw [List.count_eq_countP, List.countP_map]
    apply List.countP_mono_left
    intro row _ hkey
    have hkey : row.key = (deliveryId, rowId) := of_decide_eq_true hkey
    exact beq_iff_eq.mpr (congrArg Prod.fst hkey)
  exact hcount.trans (List.nodup_iff_count_le_one.mp h deliveryId)

/-- Every run in which nobody asks for what another worker is about to insert projects each
    record exactly once. -/
theorem projected_exactly_once (settings : OutboxSettings) (now : Int) (steps : List OutboxStep)
    (h : (outboxMachine settings).Guarded (fun s step => Exclusive s step = true) (emptyOutbox now) steps) :
    ExactlyOnce settings ((outboxMachine settings).run (emptyOutbox now) steps) where
  once table deliveryId rowId := by
    have honce := once_run h table
    exact countP_key_le_one (honce.sublist (List.sublist_append_left ..)) deliveryId rowId
  present := (consistent_run settings now steps).sent

/-! ## A worker that stalls -/

/-- A platform that reads ISO date-times only and orders texts by their units. -/
def samplePlatform : Platform := ⟨fun _ => none, fun a b => decide (unitOrder a b)⟩

def sampleSettings : OutboxSettings where
  platform := samplePlatform
  identity := ⟨"test", none⟩
  pipelineName := "dual_store"
  batchSize := 100
  maxAttempts := 12
  retryBaseDelayMs := 1000
  leaseDurationMs := 60000
  insertBatchSize := 1000
  batchSize_valid := by decide
  maxAttempts_valid := by decide
  leaseDuration_valid := by decide
  insertBatchSize_valid := by decide

def sampleApplication : String := "00000000-0000-4000-8000-000000000001"

def sampleEvent : String := "123e4567-e89b-42d3-a456-426614174000"

def sampleNormalized : Payload := .obj
  [ ("schema_version", .str "2.0"), ("event_id", .str sampleEvent), ("event_time", .str "2026-07-16T00:00:00.000Z"),
    ("user", .obj [("user_id", .str "user-1"), ("display_user", .str "Ada")]),
    ("event_properties", .obj [("next_action", .str "summarize"), ("voice_enabled", .bool true)]),
    ("user_properties", .obj [("member_level", .str "VVIP"), ("interests", .arr [.str "AI", .str "voice"])]),
    ("source", .obj [("type", .str "gateway"), ("name", .str "gateway"), ("instance_id", .str "gw-1")]),
    ("request", .obj [("request_id", .str "request-1"), ("attempt_id", .str "attempt-1"), ("session_id", .null)]),
    ("model", .obj [("virtual_model", .str "assistant"), ("request_model", .str "provider/model")]),
    ("route", .null), ("analytics_dimensions", .obj [("region", .str "cn")]),
    ("result", .obj [("status", .str "success"), ("http_status", count 200), ("latency_ms", count 42)]),
    ("usage_lines", .arr []) ]

def sampleRaw : Payload := .obj
  [ ("application_id", .str sampleApplication), ("event", .obj [("usage", .obj [("request_count", .str "1")])]),
    ("normalized", sampleNormalized), ("resolution", .obj [("modelId", .str "base-model-1")]), ("user_tags", .arr []),
    ("property_types", .obj
      [ ("event", .obj [("next_action", .str "TEXT"), ("voice_enabled", .str "BOOLEAN")]),
        ("user", .obj [("member_level", .str "ENUM"), ("interests", .str "TEXT_LIST")]) ]),
    ("payload_hash", .str "aaaaaaaaaaaaaaaaaaaaaaaaaaaaaaaaaaaaaaaaaaaaaaaaaaaaaaaaaaaaaaaa") ]

def produceRaw : OutboxStep :=
  .produce sampleApplication 1 ⟨"usage_event", sampleEvent, "usage_events_raw", sampleRaw, "clickhouse-raw:123e4567"⟩

/-- A minute after the time of the event. -/
def sampleStart : OutboxState := emptyOutbox 1784160060000000

/-- The first worker asks and crashes. The second leases the record again, asks, inserts, and
    stalls before it acknowledges. The third leases it once more, asks while the second is still
    running, finds the row and acknowledges, and so does the second, too late. -/
def takenOverRun : List OutboxStep :=
  [ produceRaw, .lease "a" [], .advance 0 .done, .crash 0, .wait 61000000, .lease "b" [], .advance 1 .done,
    .advance 1 .done, .wait 61000000, .lease "c" [], .advance 2 .done, .advance 2 .done, .advance 2 .done,
    .advance 1 .done, .advance 1 .done ]

theorem raw_projected_once :
    (outboxMachine sampleSettings).Guarded (fun s step => Exclusive s step = true) sampleStart takenOverRun ∧
      (((outboxMachine sampleSettings).run sampleStart takenOverRun).outbox.rows.map (·.progress.status)) = [.sent] ∧
      (deliveryIds ((outboxMachine sampleSettings).run sampleStart takenOverRun) .usageEventsRaw) = ["outbox:1:raw"] ∧
      ExactlyOnce sampleSettings ((outboxMachine sampleSettings).run sampleStart takenOverRun) :=
  ⟨by decide +kernel, by decide +kernel, by decide +kernel,
    projected_exactly_once sampleSettings _ takenOverRun (by decide +kernel)⟩

/-- The first worker asks, stalls for longer than its lease, and inserts after a second one has
    leased the record again, asked, inserted and acknowledged. -/
def stalledRun : List OutboxStep :=
  [ produceRaw, .lease "a" [], .advance 0 .done, .wait 61000000, .lease "b" [], .advance 1 .done, .advance 1 .done,
    .advance 1 .done, .advance 1 .done, .advance 0 .done ]

theorem raw_projected_twice :
    ¬ ExactlyOnce sampleSettings ((outboxMachine sampleSettings).run sampleStart stalledRun) := by
  intro h
  have htwice : (((outboxMachine sampleSettings).run sampleStart stalledRun).clickhouse.tables .usageEventsRaw).countP
      (fun row => row.key = ("outbox:1:raw", sampleEvent)) = 2 := by decide +kernel
  have honce := h.once .usageEventsRaw "outbox:1:raw" sampleEvent
  omega

end TokenPilot.Analytics
