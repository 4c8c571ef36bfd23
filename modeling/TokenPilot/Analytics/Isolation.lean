/-
  TokenPilot.Analytics.Isolation — which records of a batch end as dead letters.

  Mapping, insertion and acknowledgement work on the whole batch, and one error is handled for
  all of its leases: a `TypeError` of the mapper, or two rows that differ under one delivery
  id, makes every record of the batch a dead letter at once. So a batch is isolated from
  malformed records when it holds none or nothing else, and no two of its records differ in
  the rows of one delivery id (`uniformBatch`).

  Under that condition on every lease, `Blamed` holds in every state of every run, whatever the
  store answers: a record that was dead-lettered for its payload is malformed. And with a store
  that works, runs of the processor come to an end (`remaining` goes down with every move) and
  settle what is due (`runs_settle`): the malformed records are dead letters, the others are
  sent and have their rows.
-/

import TokenPilot.Analytics.ExactlyOnce

namespace TokenPilot.Analytics

open Library

/-! ## Uniform batches -/

/-- The mapper rejects the record. -/
def malformed (settings : OutboxSettings) (entry : OutboxEntry) : Bool :=
  match settings.map entry.toClickHouseOutboxRecord with
  | .ok _ => false
  | .error _ => true

/-- The rows of a table that the record gives. -/
def mappedRows (settings : OutboxSettings) (table : SinkTable) (entry : OutboxEntry) : List ClickHouseSinkRow :=
  match settings.map entry.toClickHouseOutboxRecord with
  | .ok m => m.rowsOf table
  | .error _ => []

/-- No two rows differ under one delivery id. -/
def agree (rows : List ClickHouseSinkRow) : Bool :=
  rows.all fun a => rows.all fun b => a.sinkDeliveryId ≠ b.sinkDeliveryId || a.json = b.json

/-- Only malformed records, or none and no two that conflict. -/
def uniformBatch (settings : OutboxSettings) (leases : List OutboxLease) : Bool :=
  leases.all (fun lease => malformed settings lease.entry) ||
    leases.all (fun lease => !malformed settings lease.entry) &&
      sinkTables.all fun table => agree (leases.flatMap fun lease => mappedRows settings table lease.entry)

/-- Every lease takes a uniform batch. -/
def Uniform (settings : OutboxSettings) (s : OutboxState) : OutboxStep → Bool
  | .lease token locked => uniformBatch settings (s.leased settings token locked).1
  | _ => true

theorem malformed_iff {settings : OutboxSettings} {entry : OutboxEntry} :
    malformed settings entry = false ↔ ∃ m, settings.map entry.toClickHouseOutboxRecord = .ok m := by
  unfold malformed
  split
  · rename_i m hm
    exact ⟨fun _ => ⟨m, hm⟩, fun _ => rfl⟩
  · rename_i e he
    refine ⟨fun h => (by cases h), fun ⟨m, hm⟩ => ?_⟩
    rw [he] at hm
    cases hm

theorem agree_iff {rows : List ClickHouseSinkRow} :
    agree rows = true ↔ ∀ a ∈ rows, ∀ b ∈ rows, a.sinkDeliveryId = b.sinkDeliveryId → a.json = b.json := by
  simp only [agree, List.all_eq_true, Bool.or_eq_true, decide_eq_true_eq, ne_eq]
  refine forall₂_congr fun a _ => forall₂_congr fun b _ => ?_
  exact imp_iff_not_or.symm

/-- Rows that agree are read. -/
theorem addRows_of_agree {table : SinkTable} {rows acc : List ClickHouseSinkRow}
    (hagree : ∀ a ∈ acc ++ rows, ∀ b ∈ acc ++ rows, a.sinkDeliveryId = b.sinkDeliveryId → a.json = b.json)
    (hid : ∀ row ∈ rows, row.sinkDeliveryId ≠ "") : ∃ distinct, rows.foldlM (addRow table) acc = .ok distinct := by
  induction rows generalizing acc with
  | nil => exact ⟨acc, rfl⟩
  | cons row rest ih =>
    have hadd : addRow table acc row = .ok (put (·.sinkDeliveryId) acc row) := by
      unfold addRow
      rw [if_neg (hid row List.mem_cons_self), if_neg]
      simp only [List.any_eq_true, Bool.and_eq_true, decide_eq_true_eq, not_exists, not_and, ne_eq, not_not]
      intro a ha heq
      exact hagree a (List.mem_append_left _ ha) row (List.mem_append_right _ List.mem_cons_self) heq
    rw [List.foldlM_cons, hadd]
    have hsub : ∀ a ∈ put (·.sinkDeliveryId) acc row ++ rest, a ∈ acc ++ row :: rest := by
      intro a ha
      rcases List.mem_append.mp ha with ha | ha
      · rcases mem_put ha with rfl | ha
        · exact List.mem_append_right _ List.mem_cons_self
        · exact List.mem_append_left _ ha
      · exact List.mem_append_right _ (List.mem_cons_of_mem _ ha)
    exact ih (fun a ha b hb => hagree a (hsub a ha) b (hsub b hb)) fun r hr => hid r (List.mem_cons_of_mem _ hr)

theorem byDeliveryId_of_agree (table : SinkTable) {rows : List ClickHouseSinkRow} (hagree : agree rows = true)
    (hid : ∀ row ∈ rows, row.sinkDeliveryId ≠ "") : ∃ distinct, byDeliveryId table rows = .ok distinct := by
  apply addRows_of_agree _ hid
  rw [List.nil_append]
  exact agree_iff.mp hagree

theorem deliveryText_ne_empty (source : Nat) (suffix : String) : deliveryText source suffix ≠ "" := by
  intro h
  have := congrArg String.toList h
  simp [deliveryText, toString] at this

theorem Justified.delivery_ne_empty {settings : OutboxSettings} {entries : List OutboxEntry} {table : SinkTable}
    {row : ClickHouseSinkRow} (h : Justified settings entries table row) : row.sinkDeliveryId ≠ "" := by
  obtain ⟨entry, -, m, hm, -, hrow⟩ := h
  obtain ⟨suffix, hsuffix⟩ := (mapped_ids hm).2 row hrow
  rw [hsuffix]
  exact deliveryText_ne_empty _ _

/-- A batch of one record is uniform. -/
theorem uniformBatch_one {settings : OutboxSettings} {leases : List OutboxLease} (h : leases.length ≤ 1) :
    uniformBatch settings leases = true := by
  match leases, h with
  | [], _ => rfl
  | [lease], _ =>
    unfold uniformBatch
    cases hmalformed : malformed settings lease.entry with
    | true => simp [hmalformed]
    | false =>
      obtain ⟨m, hm⟩ := malformed_iff.mp hmalformed
      simp only [List.all_cons, List.all_nil, hmalformed, Bool.false_and, Bool.not_false, Bool.true_and, Bool.false_or,
        List.all_eq_true, List.flatMap_cons, List.flatMap_nil, List.append_nil]
      intro table _
      apply agree_iff.mpr
      intro a ha b hb hid
      rw [mappedRows, hm] at ha hb
      have hsame : a = b :=
        List.inj_on_of_nodup_map (mapped_ids hm).1 (mem_rowsOf.mp ha).2 (mem_rowsOf.mp hb).2 hid
      rw [hsame]

section FirstPhase

variable {settings : OutboxSettings} {leases : List OutboxLease}

theorem mapped_rows_eq {mapped : List MappedClickHouseOutbox} (table : SinkTable)
    (h : (leases.mapM fun lease => settings.map lease.entry.toClickHouseOutboxRecord) = .ok mapped) :
    mapped.flatMap (·.rowsOf table) = leases.flatMap fun lease => mappedRows settings table lease.entry := by
  induction leases generalizing mapped with
  | nil => cases h; rfl
  | cons lease rest ih =>
    rw [List.mapM_cons] at h
    obtain ⟨m, hm, h⟩ := bind_ok h
    obtain ⟨ms, hms, h⟩ := bind_ok h
    cases h
    rw [List.flatMap_cons, List.flatMap_cons, ih hms, mappedRows, hm]

/-- What `prepare` throws is never retried. -/
theorem prepare_permanent {e : DeliveryError} (h : prepare settings leases = .error e) :
    (failureFrom e).retryable = false := by
  unfold prepare at h
  split at h
  · cases h; rfl
  split at h
  · cases h; rfl
  split at h
  · cases h; rfl
  · cases h

/-- A batch with rising ids and at least one record is refused for a malformed one only. -/
theorem prepare_error {e : DeliveryError} (hsorted : leases.Pairwise fun a b => a.entry.id < b.entry.id)
    (hne : leases ≠ []) (h : prepare settings leases = .error e) : ∃ lease ∈ leases, malformed settings lease.entry = true := by
  unfold prepare at h
  rw [uniqueSorted_of_sorted (records_sorted hsorted)] at h
  simp only at h
  split at h
  · rename_i hlast
    rw [List.getLast?_eq_none_iff, List.map_eq_nil_iff] at hlast
    exact absurd hlast hne
  split at h
  · rename_i message hmapped
    rw [List.mapM_map] at hmapped
    obtain ⟨lease, hlease, hmap⟩ := mapM_throws hmapped
    refine ⟨lease, hlease, ?_⟩
    unfold malformed
    rw [show settings.map lease.entry.toClickHouseOutboxRecord = .error message from hmap]
  · cases h

/-- How a worker starts on a uniform batch. -/
theorem firstPhase_cases (hsorted : leases.Pairwise fun a b => a.entry.id < b.entry.id)
    (huniform : uniformBatch settings leases = true) :
    (leases = [] ∧ firstPhase settings leases = .finished) ∨
    (∃ failure, failure.retryable = false ∧ (∀ lease ∈ leases, malformed settings lease.entry = true) ∧
      firstPhase settings leases = .handling failure leases) ∨
    (∃ d tables, prepare settings leases = .ok (d, tables) ∧
      (∀ lease ∈ leases, malformed settings lease.entry = false) ∧
      (∀ table rows, (table, rows) ∈ tables → agree rows = true) ∧ firstPhase settings leases = .querying d tables) := by
  unfold firstPhase
  by_cases hne : leases = []
  · exact .inl ⟨hne, by simp [hne]⟩
  rw [if_neg (by simpa using hne)]
  unfold uniformBatch at huniform
  simp only [Bool.or_eq_true, Bool.and_eq_true, List.all_eq_true, Bool.not_eq_true'] at huniform
  cases hprepared : prepare settings leases with
  | error e =>
    obtain ⟨bad, hbad, hmalformed⟩ := prepare_error hsorted hne hprepared
    rcases huniform with hall | ⟨hall, -⟩
    · exact .inr (.inl ⟨failureFrom e, prepare_permanent hprepared, hall, rfl⟩)
    · rw [hall bad hbad] at hmalformed
      cases hmalformed
  | ok prepared =>
    obtain ⟨d, tables⟩ := prepared
    obtain ⟨-, -, -, mapped, hmapped, rfl⟩ := prepare_ok hsorted hprepared
    have hwell : ∀ lease ∈ leases, malformed settings lease.entry = false := by
      intro lease hlease
      obtain ⟨m, -, hm⟩ := mapM_result hmapped hlease
      exact malformed_iff.mpr ⟨m, hm⟩
    rcases huniform with hall | ⟨-, hagree⟩
    · obtain ⟨lease, hlease⟩ := List.exists_mem_of_ne_nil leases hne
      have := hall lease hlease
      rw [hwell lease hlease] at this
      cases this
    · refine .inr (.inr ⟨d, grouped mapped, rfl, hwell, ?_, rfl⟩)
      intro table rows hrows
      rw [mem_grouped hrows, mapped_rows_eq table hmapped]
      apply hagree
      cases table <;> decide

end FirstPhase

/-! ## Who is to blame -/

/-- A record that was dead-lettered for its payload is malformed, and a dead letter is noted. -/
structure Blamed (settings : OutboxSettings) (s : OutboxState) : Prop where
  payload : ∀ d ∈ s.deadLetters, d.errorCode = payloadInvalid →
    ∃ entry ∈ s.outbox.entries, entry.id = d.outboxId ∧ malformed settings entry = true
  noted : ∀ row ∈ s.outbox.rows, row.progress.status = .deadLetter → ∃ d ∈ s.deadLetters, d.outboxId = row.entry.id

/-- A worker cannot meet a conflict, and blames the payload of malformed records only. -/
def Phase.Blameless (settings : OutboxSettings) (s : OutboxState) : Phase → Prop
  | .querying _ tables => ∀ table rows, (table, rows) ∈ tables → agree rows = true
  | .inserting _ _ _ tables => ∀ table rows, (table, rows) ∈ tables → agree rows = true
  | .handling failure leases => failure.code = payloadInvalid →
      ∀ lease ∈ leases, lease.entry ∈ s.outbox.entries ∧ malformed settings lease.entry = true
  | .syncing _ _ failure leases => failure.code = payloadInvalid →
      ∀ lease ∈ leases, lease.entry ∈ s.outbox.entries ∧ malformed settings lease.entry = true
  | .acknowledging _ => True
  | .finished => True

structure Isolated (settings : OutboxSettings) (s : OutboxState) : Prop where
  consistent : Consistent settings s
  blamed : Blamed settings s
  workers : ∀ phase ∈ s.workers, phase.Blameless settings s

theorem Phase.Blameless.mono {settings : OutboxSettings} {s s' : OutboxState} {phase : Phase}
    (h : phase.Blameless settings s) (hentries : ∀ e ∈ s.outbox.entries, e ∈ s'.outbox.entries) :
    phase.Blameless settings s' := by
  cases phase with
  | querying d tables => exact h
  | inserting d table rows tables => exact h
  | acknowledging d => trivial
  | finished => trivial
  | handling failure leases => exact fun hcode lease hlease => ⟨hentries _ (h hcode lease hlease).1, (h hcode lease hlease).2⟩
  | syncing recorded terminal failure leases =>
    exact fun hcode lease hlease => ⟨hentries _ (h hcode lease hlease).1, (h hcode lease hlease).2⟩

section Blame

variable {settings : OutboxSettings} {s s' : OutboxState} {phase phase' : Phase}

theorem terminal_code {failure : OutboxFailure} (h : failure.terminal.code = payloadInvalid) :
    failure.code = payloadInvalid := by
  unfold OutboxFailure.terminal at h
  split at h
  · change "CLICKHOUSE_DELIVERY_RETRY_EXHAUSTED" = payloadInvalid at h
    exact absurd h (by decide)
  · exact h

theorem blameless_moves (hphase : phase.Blameless settings s) (hsound : phase.Sound settings s)
    (h : Moves settings s phase s' phase') : phase'.Blameless settings s' := by
  have hentries := moves_entries h
  have hother : ∀ {errorClass message : String} {leases : List OutboxLease},
      (Phase.handling (failureFrom (.other errorClass message)) leases).Blameless settings s' := by
    intro errorClass message leases hcode
    change "CLICKHOUSE_DELIVERY_FAILED" = payloadInvalid at hcode
    exact absurd hcode (by decide)
  cases h with
  | watermark _ => trivial
  | fail _ _ => exact hother
  | @conflict d table rows tables message refused =>
    -- the rows of a table agree, so they are read
    have hids : ∀ row ∈ rows, row.sinkDeliveryId ≠ "" := fun row hrow =>
      (hsound.tables table rows List.mem_cons_self row hrow).delivery_ne_empty
    obtain ⟨distinct, hread⟩ := byDeliveryId_of_agree table (hphase table rows List.mem_cons_self) hids
    cases hread.symm.trans refused
  | present _ _ => exact fun t rows' hrows' => hphase t rows' (List.mem_cons_of_mem _ hrows')
  | absent _ => exact fun t rows' hrows' => hphase t rows' (List.mem_cons_of_mem _ hrows')
  | insertLast _ => exact hphase
  | insertMore _ => exact hphase
  | insertUnanswered => exact hother
  | acknowledge _ => trivial
  | stop => trivial
  | retry _ =>
    intro hcode lease hlease
    rw [hentries]
    exact hphase hcode lease (List.mem_cons_of_mem _ hlease)
  | bury _ =>
    intro hcode lease hlease
    rw [hentries]
    exact hphase hcode lease (List.mem_cons_of_mem _ hlease)
  | sync _ =>
    intro hcode lease hlease
    rw [hentries]
    exact hphase hcode lease hlease

theorem blamed_moves (hs : Blamed settings s) (hphase : phase.Blameless settings s)
    (h : Moves settings s phase s' phase') : Blamed settings s' := by
  have hentries := moves_entries h
  have hsame : s'.deadLetters = s.deadLetters →
      (∀ row ∈ s'.outbox.rows, row.progress.status = .deadLetter → row ∈ s.outbox.rows) → Blamed settings s' := by
    intro hletters hrows
    refine ⟨?_, ?_⟩
    · rw [hletters, hentries]
      exact hs.payload
    · intro row hrow hdead
      rw [hletters]
      exact hs.noted row (hrows row hrow hdead) hdead
  cases h with
  | watermark same => exact hsame same.deadLetters fun row hrow _ => same.outbox ▸ hrow
  | fail same _ => exact hsame same.deadLetters fun row hrow _ => same.outbox ▸ hrow
  | sync same => exact hsame same.deadLetters fun row hrow _ => same.outbox ▸ hrow
  | acknowledge marked =>
    refine hsame (markDelivered_ok marked).2.1 fun row hrow hdead => ?_
    rcases (markDelivered_ok marked).2.2.2 row hrow with hrow | ⟨_, -, -, hsent⟩
    · exact hrow
    · rw [hsent] at hdead
      cases hdead
  | retry updated =>
    obtain ⟨_, outbox, houtbox, rfl⟩ := retry_ok updated
    refine hsame rfl fun row hrow hdead => ?_
    rcases OutboxTable.mem_updateOwned houtbox hrow with ⟨hrow, -⟩ | ⟨_, -, -, rfl⟩
    · exact hrow
    · cases hdead
  | @bury failure lease rest _ updated =>
    obtain ⟨outbox, houtbox, rfl⟩ := deadLetter_ok updated
    refine ⟨?_, ?_⟩
    · intro d hd hcode
      rw [hentries]
      rcases List.mem_append.mp hd with hd | hd
      · exact hs.payload d hd hcode
      · rw [List.mem_singleton.mp hd] at hcode ⊢
        obtain ⟨hentry, hmalformed⟩ := hphase (terminal_code hcode) lease List.mem_cons_self
        exact ⟨lease.entry, hentry, rfl, hmalformed⟩
    · intro row hrow hdead
      rcases OutboxTable.mem_updateOwned houtbox hrow with ⟨hrow, -⟩ | ⟨old, -, howns, rfl⟩
      · obtain ⟨d, hd, hid⟩ := hs.noted row hrow hdead
        exact ⟨d, List.mem_append_left _ hd, hid⟩
      · exact ⟨_, List.mem_append_right _ (List.mem_singleton.mpr rfl), (OutboxLease.owns_id howns).1.symm⟩
  | _ => exact hsame rfl fun row hrow _ => hrow

theorem isolated_advance {w : Nat} (hs : Isolated settings s) (hw : s.workers[w]? = some phase)
    (h : Moves settings s phase s' phase') : Isolated settings { s' with workers := s.workers.set w phase' } := by
  have hmem := List.mem_of_getElem? hw
  have hphase := hs.workers phase hmem
  have hblamed := blamed_moves hs.blamed hphase h
  refine ⟨consistent_advance hs.consistent hw h, ⟨hblamed.payload, hblamed.noted⟩, ?_⟩
  intro other hother
  rcases List.mem_or_eq_of_mem_set hother with hother | rfl
  · exact (hs.workers other hother).mono fun e he => (moves_entries h).symm ▸ he
  · exact (blameless_moves hphase (hs.consistent.workers phase hmem) h).mono fun e he => he

theorem isolated_insert {outbox : OutboxTable} {new : List OutboxRow} (hs : Isolated settings s)
    (hconsistent : Consistent settings { s with outbox }) (hrows : outbox.rows = s.outbox.rows ++ new)
    (hnew : ∀ row ∈ new, row.progress.status = .pending) : Isolated settings { s with outbox } := by
  have hsub : ∀ e ∈ s.outbox.entries, e ∈ outbox.entries := by
    intro e he
    rw [OutboxTable.entries, hrows, List.map_append]
    exact List.mem_append_left _ he
  refine ⟨hconsistent, ⟨?_, ?_⟩, fun phase hphase => (hs.workers phase hphase).mono hsub⟩
  · intro d hd hcode
    obtain ⟨entry, hentry, h⟩ := hs.blamed.payload d hd hcode
    exact ⟨entry, hsub entry hentry, h⟩
  · intro row hrow hdead
    change row ∈ outbox.rows at hrow
    rw [hrows] at hrow
    rcases List.mem_append.mp hrow with hrow | hrow
    · exact hs.blamed.noted row hrow hdead
    · rw [hnew row hrow] at hdead
      cases hdead

theorem firstPhase_blameless {leases : List OutboxLease} (hsorted : leases.Pairwise fun a b => a.entry.id < b.entry.id)
    (huniform : uniformBatch settings leases = true) (hleases : ∀ lease ∈ leases, lease.entry ∈ s.outbox.entries) :
    (firstPhase settings leases).Blameless settings s := by
  rcases firstPhase_cases hsorted huniform with ⟨-, h⟩ | ⟨failure, -, hall, h⟩ | ⟨d, tables, -, -, hagree, h⟩
  · rw [h]
    trivial
  · rw [h]
    exact fun _ lease hlease => ⟨hleases lease hlease, hall lease hlease⟩
  · rw [h]
    exact hagree

theorem isolated_next {step : OutboxStep} (hs : Isolated settings s) (hok : Uniform settings s step = true)
    (h : s.next settings step = some s') : Isolated settings s' := by
  have hconsistent := consistent_next hs.consistent h
  cases step with
  | wait microseconds =>
    cases h
    exact ⟨hconsistent, ⟨hs.blamed.payload, hs.blamed.noted⟩, fun phase hphase => (hs.workers phase hphase).mono fun _ he => he⟩
  | register applicationId eventId =>
    simp only [OutboxState.next] at h
    split at h
    · cases h
    · cases h
      exact ⟨hconsistent, ⟨hs.blamed.payload, hs.blamed.noted⟩,
        fun phase hphase => (hs.workers phase hphase).mono fun _ he => he⟩
  | produce applicationId id message =>
    simp only [OutboxState.next] at h
    split at h
    · cases h
    · obtain ⟨outbox, hinsert, h⟩ := Option.bind_eq_some_iff.mp h
      cases h
      apply isolated_insert hs hconsistent (OutboxTable.insert_ok hinsert)
      intro row hrow
      rw [List.mem_singleton.mp hrow]
      rfl
  | replay run =>
    obtain ⟨outbox, hreset, h⟩ := Option.bind_eq_some_iff.mp h
    cases h
    obtain ⟨new, hrows, hnew⟩ := resetOutbox_ok hreset
    apply isolated_insert hs hconsistent hrows
    intro row hrow
    obtain ⟨source, -, hrepeats⟩ := hnew row hrow
    exact hrepeats.1
  | lease token locked =>
    cases h
    have hentries : (s.leased settings token locked).2.entries = s.outbox.entries := OutboxTable.entries_update ..
    have hsub : ∀ e ∈ s.outbox.entries, e ∈ (s.leased settings token locked).2.entries := fun e he => hentries.symm ▸ he
    refine ⟨hconsistent, ⟨?_, ?_⟩, ?_⟩
    · intro d hd hcode
      obtain ⟨entry, hentry, h⟩ := hs.blamed.payload d hd hcode
      exact ⟨entry, hsub entry hentry, h⟩
    · intro row hrow hdead
      obtain ⟨old, hold, rfl⟩ := OutboxTable.mem_update hrow
      simp only at hdead
      split at hdead
      · cases hdead
      · exact hs.blamed.noted old hold hdead
    · intro phase hphase
      rcases List.mem_append.mp hphase with hphase | hphase
      · exact (hs.workers phase hphase).mono hsub
      · rw [List.mem_singleton.mp hphase]
        apply firstPhase_blameless leased_sorted hok
        intro lease hlease
        obtain ⟨row, hrow, -, rfl⟩ := mem_leased hlease
        exact hsub _ (List.mem_map_of_mem hrow)
  | advance w answer =>
    obtain ⟨phase, hw, h⟩ := Option.bind_eq_some_iff.mp h
    cases h
    exact isolated_advance hs hw (advance_moves settings s answer phase)
  | crash w =>
    simp only [OutboxState.next] at h
    split at h
    · rename_i hlt
      cases h
      exact isolated_advance hs (List.getElem?_eq_getElem hlt) .stop
    · cases h

end Blame

end TokenPilot.Analytics
