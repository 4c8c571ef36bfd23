/-
  TokenPilot.Analytics.Acknowledgement — what `markDelivered` commits
  (apps/worker/src/pipeline/prisma-outbox-store.ts, clickhouse-outbox-processor.ts).

  An acknowledgement marks every row of the batch or none (`markDelivered_marks`): the updates
  of the rows ask for the owner of a live lease, and the first that changes no row ends the
  transaction. A row is sent by its own lease only, after all rows of its batch and the
  watermark of the batch are in the analytics store (`Acknowledging`). The last outbox id of
  the sync state is a maximum (`advanceSync_last`), so a batch of older ids that is delivered
  late does not take it back. Raw markers are written before official ones, at one time.
-/

import TokenPilot.Analytics.Drain

namespace TokenPilot.Analytics

open Library

/-! ## The rows -/

theorem OutboxTable.update_congr {t : OutboxTable} {f g : OutboxRow → OutboxProgress} (h : ∀ row ∈ t.rows, f row = g row) :
    t.update f = t.update g := by
  have hrows : (t.update f).rows = (t.update g).rows := List.map_congr_left fun row hrow => by rw [h row hrow]
  revert hrows
  cases t.update f
  cases t.update g
  rintro rfl
  rfl

theorem OutboxTable.update_update (t : OutboxTable) (f g : OutboxRow → OutboxProgress) :
    (t.update f).update g = t.update fun row => g ⟨row.entry, f row⟩ := by
  have hrows : ((t.update f).update g).rows = (t.update fun row => g ⟨row.entry, f row⟩).rows := by
    simp only [OutboxTable.update, List.map_map]
    rfl
  revert hrows
  cases (t.update f).update g
  cases t.update fun row => g ⟨row.entry, f row⟩
  rintro rfl
  rfl

/-- An update by an owner changes the row of the lease. -/
theorem updateOwned_row {t t' : OutboxTable} {lease : OutboxLease} {now : Int} {f : OutboxProgress → OutboxProgress}
    (h : t.updateOwned lease now f = some t') :
    Owned t now lease ∧ t' = t.update fun row => if row.entry.id = lease.entry.id then f row.progress else row.progress := by
  have howned : Owned t now lease := by
    unfold OutboxTable.updateOwned at h
    split at h
    · rename_i hany
      exact List.any_eq_true.mp hany
    · cases h
  refine ⟨howned, ?_⟩
  obtain ⟨owner, howner, howns⟩ := howned
  rw [OutboxTable.updateOwned_ok h]
  apply OutboxTable.update_congr
  intro row hrow
  by_cases hid : row.entry.id = lease.entry.id
  · have hsame : row = owner := t.row_eq hrow howner (hid.trans (OutboxLease.owns_id howns).1.symm)
    rw [if_pos hid, if_pos (hsame ▸ howns)]
  · rw [if_neg hid, if_neg fun h => hid (OutboxLease.owns_id h).1]

def markSent (ids : List Nat) (now : Int) (row : OutboxRow) : OutboxProgress :=
  if row.entry.id ∈ ids then row.progress.sent now else row.progress

theorem sendAll_rows {now : Int} {leases : List OutboxLease} {t t' : OutboxTable}
    (h : leases.foldlM (fun t lease => t.updateOwned lease now (.sent now)) t = some t') :
    t' = t.update (markSent (leases.map (·.entry.id)) now) := by
  induction leases generalizing t with
  | nil =>
    cases h
    have hrows : (t'.update (markSent [] now)).rows = t'.rows := by simp [OutboxTable.update, markSent]
    revert hrows
    show (t'.update (markSent [] now)).rows = t'.rows → t' = t'.update (markSent [] now)
    cases t'.update (markSent [] now)
    cases t'
    rintro rfl
    rfl
  | cons lease rest ih =>
    rw [List.foldlM_cons] at h
    obtain ⟨middle, hmiddle, h⟩ := Option.bind_eq_some_iff.mp h
    rw [ih h, (updateOwned_row hmiddle).2, OutboxTable.update_update]
    apply OutboxTable.update_congr
    intro row _
    simp only [markSent, List.map_cons, List.mem_cons]
    by_cases hid : row.entry.id = lease.entry.id
    · -- a row that is marked twice is as after the first time
      simp only [hid, true_or, if_true]
      split <;> rfl
    · simp only [hid, false_or, if_false]

theorem owned_before {now : Int} {first : OutboxLease} {lease : OutboxLease} {t t' : OutboxTable}
    (h : t.updateOwned first now (.sent now) = some t') (howned : Owned t' now lease) : Owned t now lease := by
  obtain ⟨row, hrow, howns⟩ := howned
  rcases OutboxTable.mem_updateOwned h hrow with ⟨hrow, -⟩ | ⟨old, -, -, rfl⟩
  · exact ⟨row, hrow, howns⟩
  · have := (OutboxLease.owns_id howns).2
    cases this

/-- All of the batch is owned in the state the transaction begins in. -/
theorem sendAll_owned {now : Int} {leases : List OutboxLease} {t t' : OutboxTable}
    (h : leases.foldlM (fun t lease => t.updateOwned lease now (.sent now)) t = some t') :
    ∀ lease ∈ leases, Owned t now lease := by
  induction leases generalizing t with
  | nil => simp
  | cons first rest ih =>
    rw [List.foldlM_cons] at h
    obtain ⟨middle, hmiddle, h⟩ := Option.bind_eq_some_iff.mp h
    intro lease hlease
    rcases List.mem_cons.mp hlease with rfl | hlease
    · exact (updateOwned_row hmiddle).1
    · exact owned_before hmiddle (ih h lease hlease)

/-! ## The sync state -/

def OutboxState.lastOutboxId (s : OutboxState) : Option Nat := s.sync.bind (·.lastOutboxId)

theorem advanceSync_last (sync : Option SyncState) (d : Delivery) (now : Int) :
    (advanceSync sync d now).lastOutboxId = some (max d.maxOutboxId ((sync.bind (·.lastOutboxId)).getD 0)) := by
  cases sync with
  | none => simp [advanceSync]
  | some old =>
    cases hlast : old.lastOutboxId with
    | none => simp [advanceSync, hlast]
    | some last =>
      by_cases hle : last ≤ d.maxOutboxId
      · simp only [advanceSync, hlast, Option.all_some, hle, decide_true, if_true, Option.bind_some, Option.getD_some]
        congr 1
        omega
      · simp only [advanceSync, hlast, Option.all_some, hle, decide_false, Bool.false_eq_true, if_false,
          Option.bind_some, Option.getD_some]
        congr 1
        omega

/-! ## Markers of the registry -/

/-- The row is the usage event of the mark. -/
def OutboxEntry.isRawOf (entry : OutboxEntry) (mark : RegistrySync) : Prop :=
  entry.eventType = PipelineEventType.usageEventsRaw.text ∧ mark.eventId = entry.aggregateId ∧
    mark.applicationId = entry.applicationId

/-- The row is of the official rating of the event of the mark. -/
def OutboxEntry.isOfficialOf (entry : OutboxEntry) (mark : RegistrySync) : Prop :=
  (pipelineEventTypes.any fun type => type.official && decide (type.text = entry.eventType)) = true ∧
    some mark.eventId = entry.payloadEventId ∧ mark.applicationId = entry.applicationId

def RegistrySync.sameEvent (a b : RegistrySync) : Prop := a.applicationId = b.applicationId ∧ a.eventId = b.eventId

/-- What a batch leaves of a mark. -/
def RegistrySync.marked (leases : List OutboxLease) (now : Int) (mark : RegistrySync) : RegistrySync :=
  leases.foldl (fun mark lease => mark.markOfficial now lease.entry)
    (leases.foldl (fun mark lease => mark.markRaw now lease.entry) mark)

theorem foldl_map {α β : Type} (f : β → α → α) (xs : List β) (l : List α) :
    xs.foldl (fun l x => l.map (f x)) l = l.map fun a => xs.foldl (fun a x => f x a) a := by
  induction xs generalizing l with
  | nil => simp
  | cons x xs ih => rw [List.foldl_cons, ih, List.map_map]; rfl

theorem markRegistry_eq (registry : List RegistrySync) (leases : List OutboxLease) (now : Int) :
    markRegistry registry leases now = registry.map (.marked leases now) := by
  have hraw : leases.foldl (fun marks lease => marks.map (.markRaw now lease.entry)) registry =
      registry.map fun mark => leases.foldl (fun mark lease => mark.markRaw now lease.entry) mark :=
    foldl_map (fun lease mark => RegistrySync.markRaw now lease.entry mark) leases registry
  have hofficial (marks : List RegistrySync) : leases.foldl (fun marks lease => marks.map (.markOfficial now lease.entry))
      marks = marks.map fun mark => leases.foldl (fun mark lease => mark.markOfficial now lease.entry) mark :=
    foldl_map (fun lease mark => RegistrySync.markOfficial now lease.entry mark) leases marks
  rw [markRegistry, hraw, hofficial, List.map_map]
  rfl

section Marks

variable {now : Int} {leases : List OutboxLease}

variable (now leases) in
theorem markRaws_keeps (mark : RegistrySync) :
    let marked := leases.foldl (fun mark lease => mark.markRaw now lease.entry) mark
    marked.sameEvent mark ∧ marked.officialSyncedAt = mark.officialSyncedAt := by
  induction leases generalizing mark with
  | nil => exact ⟨⟨rfl, rfl⟩, rfl⟩
  | cons lease rest ih =>
    obtain ⟨⟨happlication, hevent⟩, hofficial⟩ := ih (mark.markRaw now lease.entry)
    have hfirst : (mark.markRaw now lease.entry).sameEvent mark ∧
        (mark.markRaw now lease.entry).officialSyncedAt = mark.officialSyncedAt := by
      unfold RegistrySync.markRaw
      split <;> exact ⟨⟨rfl, rfl⟩, rfl⟩
    exact ⟨⟨happlication.trans hfirst.1.1, hevent.trans hfirst.1.2⟩, hofficial.trans hfirst.2⟩

theorem markRaws_some {mark : RegistrySync} {time : Int} (h : mark.rawSyncedAt = some time) :
    (leases.foldl (fun mark lease => mark.markRaw now lease.entry) mark).rawSyncedAt = some time := by
  induction leases generalizing mark with
  | nil => exact h
  | cons lease rest ih =>
    apply ih
    show (mark.markRaw now lease.entry).rawSyncedAt = some time
    unfold RegistrySync.markRaw
    split
    · show some (mark.rawSyncedAt.getD now) = some time
      rw [h]
      rfl
    · exact h

variable (now leases) in
theorem markRaws_none {mark : RegistrySync} (h : mark.rawSyncedAt = none) :
    (leases.foldl (fun mark lease => mark.markRaw now lease.entry) mark).rawSyncedAt = some now ∨
      (leases.foldl (fun mark lease => mark.markRaw now lease.entry) mark).rawSyncedAt = none ∧
        ∀ lease ∈ leases, ¬lease.entry.isRawOf mark := by
  induction leases generalizing mark with
  | nil => exact .inr ⟨h, by simp⟩
  | cons lease rest ih =>
    by_cases hraw : lease.entry.isRawOf mark
    · have hmarked : mark.markRaw now lease.entry = { mark with rawSyncedAt := some (mark.rawSyncedAt.getD now) } :=
        if_pos hraw
      rw [List.foldl_cons, hmarked, h]
      exact .inl (markRaws_some rfl)
    · have hskip : mark.markRaw now lease.entry = mark := if_neg hraw
      rw [List.foldl_cons, hskip]
      rcases ih h with hnow | ⟨hnone, hrest⟩
      · exact .inl hnow
      · exact .inr ⟨hnone, by simpa using ⟨hraw, hrest⟩⟩

variable (now leases) in
theorem markOfficials_keeps (mark : RegistrySync) :
    let marked := leases.foldl (fun mark lease => mark.markOfficial now lease.entry) mark
    marked.sameEvent mark ∧ marked.rawSyncedAt = mark.rawSyncedAt := by
  induction leases generalizing mark with
  | nil => exact ⟨⟨rfl, rfl⟩, rfl⟩
  | cons lease rest ih =>
    obtain ⟨⟨happlication, hevent⟩, hraw⟩ := ih (mark.markOfficial now lease.entry)
    have hfirst : (mark.markOfficial now lease.entry).sameEvent mark ∧
        (mark.markOfficial now lease.entry).rawSyncedAt = mark.rawSyncedAt := by
      unfold RegistrySync.markOfficial
      split <;> exact ⟨⟨rfl, rfl⟩, rfl⟩
    exact ⟨⟨happlication.trans hfirst.1.1, hevent.trans hfirst.1.2⟩, hraw.trans hfirst.2⟩

/-- An official marker that a batch sets is of the time of the batch and of one of its rows. -/
theorem markOfficials_some {mark : RegistrySync} {time : Int}
    (h : (leases.foldl (fun mark lease => mark.markOfficial now lease.entry) mark).officialSyncedAt = some time) :
    mark.officialSyncedAt = some time ∨ time = now ∧ ∃ lease ∈ leases, lease.entry.isOfficialOf mark := by
  induction leases generalizing mark with
  | nil => exact .inl h
  | cons lease rest ih =>
    rw [List.foldl_cons] at h
    by_cases hof : lease.entry.isOfficialOf mark
    · have hmarked : mark.markOfficial now lease.entry =
          { mark with officialSyncedAt := some (mark.officialSyncedAt.getD now) } := if_pos hof
      rw [hmarked] at h
      rcases ih h with hsame | ⟨htime, other, hother, hofficial⟩
      · cases hbefore : mark.officialSyncedAt with
        | none =>
          simp only [hbefore, Option.getD_none, Option.some.injEq] at hsame
          exact .inr ⟨hsame.symm, lease, List.mem_cons_self, hof⟩
        | some before =>
          simp only [hbefore, Option.getD_some, Option.some.injEq] at hsame
          exact .inl (congrArg some hsame)
      · exact .inr ⟨htime, other, List.mem_cons_of_mem _ hother, hofficial⟩
    · have hskip : mark.markOfficial now lease.entry = mark := if_neg hof
      rw [hskip] at h
      rcases ih h with hsame | ⟨htime, other, hother, hofficial⟩
      · exact .inl hsame
      · exact .inr ⟨htime, other, List.mem_cons_of_mem _ hother, hofficial⟩

variable (now leases) in
theorem marked_raw (mark : RegistrySync) : (mark.marked leases now).sameEvent mark ∧
    (mark.marked leases now).rawSyncedAt =
      (leases.foldl (fun mark lease => mark.markRaw now lease.entry) mark).rawSyncedAt := by
  obtain ⟨⟨happlication, hevent⟩, hraw⟩ :=
    markOfficials_keeps now leases (leases.foldl (fun mark lease => mark.markRaw now lease.entry) mark)
  obtain ⟨⟨happlication', hevent'⟩, -⟩ := markRaws_keeps now leases mark
  exact ⟨⟨happlication.trans happlication', hevent.trans hevent'⟩, hraw⟩

variable (now leases) in
/-- The raw marker of a batch: it stays, or is of now, and is there if the batch has the event. -/
theorem marked_raw_cases (mark : RegistrySync) :
    (mark.marked leases now).rawSyncedAt = mark.rawSyncedAt ∧
        ((∃ lease ∈ leases, lease.entry.isRawOf mark) → mark.rawSyncedAt ≠ none) ∨
      (mark.marked leases now).rawSyncedAt = some now := by
  rw [(marked_raw now leases mark).2]
  cases hraw : mark.rawSyncedAt with
  | some time => exact .inl ⟨markRaws_some hraw, fun _ => by simp⟩
  | none =>
    rcases markRaws_none now leases hraw with hnow | ⟨hnone, hno⟩
    · exact .inr hnow
    · refine .inl ⟨hnone, ?_⟩
      rintro ⟨lease, hlease, hof⟩
      exact absurd hof (hno lease hlease)

theorem marked_official {mark : RegistrySync} {time : Int} (h : (mark.marked leases now).officialSyncedAt = some time) :
    mark.officialSyncedAt = some time ∨ time = now ∧ ∃ lease ∈ leases, lease.entry.isOfficialOf mark := by
  obtain ⟨⟨happlication, hevent⟩, hofficial⟩ := markRaws_keeps now leases mark
  rcases markOfficials_some h with hsame | ⟨htime, lease, hlease, hof⟩
  · exact .inl (hofficial.symm.trans hsame)
  · refine .inr ⟨htime, lease, hlease, hof.1, ?_, ?_⟩
    · rw [← hevent]
      exact hof.2.1
    · rw [← happlication]
      exact hof.2.2

end Marks

/-! ## An acknowledgement -/

/-- The batch is marked as a whole, and the last outbox id is not taken back. -/
structure Marked (s : OutboxState) (d : Delivery) (s' : OutboxState) : Prop where
  nonempty : d.leases ≠ []
  ids : d.outboxIds = d.leases.map (·.entry.id)
  last : d.outboxIds.getLast? = some d.maxOutboxId
  owned : ∀ lease ∈ d.leases, Owned s.outbox s.now lease
  rows : s'.outbox = s.outbox.update (markSent d.outboxIds s.now)
  registry : s'.registry = s.registry.map (.marked d.leases s.now)
  watermark : s'.lastOutboxId = some (max d.maxOutboxId (s.lastOutboxId.getD 0))

theorem markDelivered_marks {s s' : OutboxState} {d : Delivery} (h : markDelivered s d = some s') : Marked s d s' := by
  unfold markDelivered at h
  simp only at h
  split at h
  · cases h
  rename_i haccepted
  simp only [not_or, not_not] at haccepted
  obtain ⟨hne, hids, hlast⟩ := haccepted
  obtain ⟨outbox, hsent, h⟩ := Option.bind_eq_some_iff.mp h
  cases h
  refine ⟨by simpa using hne, hids, by rw [hids, hlast], sendAll_owned hsent, ?_, markRegistry_eq .., ?_⟩
  · rw [hids]
    exact sendAll_rows hsent
  · exact advanceSync_last s.sync d s.now

theorem markSyncFailure_last (s : OutboxState) (failure : OutboxFailure) (terminal : Bool) :
    (markSyncFailure s failure terminal).lastOutboxId = s.lastOutboxId := by
  cases hsync : s.sync <;> simp [markSyncFailure, OutboxState.lastOutboxId, hsync]

/-- The clock, the registry and the last outbox id are as they were. -/
def OutboxState.Unmarked (s s' : OutboxState) : Prop :=
  s'.now = s.now ∧ s'.registry = s.registry ∧ s'.lastOutboxId = s.lastOutboxId

section Moves

variable {settings : OutboxSettings} {s : OutboxState} {answer : Answer} {phase : Phase}

variable (settings answer) in
/-- A move acknowledges a batch, or marks nothing. -/
theorem advance_marks (hphase : ∀ d, phase = .acknowledging d → markDelivered s d = none) :
    s.Unmarked (advance settings s answer phase).1 := by
  cases phase with
  | querying d tables =>
    cases tables with
    | nil =>
      simp only [advance, writeWatermark]
      split
      · exact ⟨rfl, rfl, rfl⟩
      cases answer with
      | done => exact ⟨rfl, rfl, rfl⟩
      | failed errorClass message applied => cases applied <;> exact ⟨rfl, rfl, rfl⟩
    | cons group tables => exact ⟨rfl, rfl, rfl⟩
  | inserting d table rows tables =>
    cases answer with
    | done => exact ⟨rfl, rfl, rfl⟩
    | failed errorClass message applied => cases applied <;> exact ⟨rfl, rfl, rfl⟩
  | acknowledging d =>
    simp only [advance, hphase d rfl, Option.getD_none]
    exact ⟨rfl, rfl, rfl⟩
  | handling failure leases =>
    cases leases with
    | nil => exact ⟨rfl, rfl, rfl⟩
    | cons lease rest =>
      simp only [advance, handleLease]
      split
      · split
        · obtain ⟨_, outbox, -, rfl⟩ := retry_ok ‹_›
          exact ⟨rfl, rfl, rfl⟩
        · exact ⟨rfl, rfl, rfl⟩
      · split
        · obtain ⟨outbox, -, rfl⟩ := deadLetter_ok ‹_›
          exact ⟨rfl, rfl, rfl⟩
        · exact ⟨rfl, rfl, rfl⟩
  | syncing recorded terminal failure rest => exact ⟨rfl, rfl, markSyncFailure_last s recorded terminal⟩
  | finished => exact ⟨rfl, rfl, rfl⟩

/-- The watermark of the batch is in the analytics store. -/
def Watermarked (s : OutboxState) (d : Delivery) : Prop :=
  ∃ watermark ∈ s.clickhouse.watermarks, watermark.outboxId = d.maxOutboxId

theorem Watermarked.mono {s s' : OutboxState} {d : Delivery} (h : Watermarked s d)
    (hsub : s.clickhouse.watermarks ⊆ s'.clickhouse.watermarks) : Watermarked s' d := by
  obtain ⟨watermark, hmem, hid⟩ := h
  exact ⟨watermark, hsub hmem, hid⟩

theorem moves_watermarks (settings : OutboxSettings) (s : OutboxState) (answer : Answer) (phase : Phase) :
    s.clickhouse.watermarks ⊆ (advance settings s answer phase).1.clickhouse.watermarks ∧
      ∀ d, (advance settings s answer phase).2 = .acknowledging d → Watermarked (advance settings s answer phase).1 d := by
  cases phase with
  | querying d tables =>
    cases tables with
    | nil =>
      simp only [advance, writeWatermark]
      split
      · exact ⟨List.Subset.refl _, by simp⟩
      cases answer with
      | done =>
        refine ⟨List.subset_append_left .., ?_⟩
        rintro d' ⟨⟩
        exact ⟨_, List.mem_append_right _ (List.mem_singleton.mpr rfl), rfl⟩
      | failed errorClass message applied =>
        cases applied with
        | true => exact ⟨List.subset_append_left .., by simp⟩
        | false => exact ⟨List.Subset.refl _, by simp⟩
    | cons group tables =>
      refine ⟨List.Subset.refl _, fun d' h => ?_⟩
      simp only [advance, askTable] at h
      split at h
      · cases h
      · cases answer with
        | done =>
          simp only at h
          split at h <;> cases h
        | failed errorClass message applied => cases h
  | inserting d table rows tables =>
    cases answer with
    | done =>
      refine ⟨List.Subset.refl _, fun d' h => ?_⟩
      simp only [advance, insertChunk] at h
      split at h <;> cases h
    | failed errorClass message applied => cases applied <;> exact ⟨List.Subset.refl _, by simp [advance, insertChunk]⟩
  | acknowledging d =>
    simp only [advance]
    cases hmarked : markDelivered s d with
    | none => exact ⟨List.Subset.refl _, by simp⟩
    | some s' =>
      have hsame := (markDelivered_ok hmarked).1
      simp only [Option.getD_some, hsame]
      exact ⟨List.Subset.refl _, by simp⟩
  | handling failure leases =>
    cases leases with
    | nil => exact ⟨List.Subset.refl _, by simp [advance]⟩
    | cons lease rest =>
      simp only [advance, handleLease]
      split
      · split
        · obtain ⟨_, outbox, -, rfl⟩ := retry_ok ‹_›
          exact ⟨List.Subset.refl _, by simp⟩
        · exact ⟨List.Subset.refl _, by simp⟩
      · split
        · obtain ⟨outbox, -, rfl⟩ := deadLetter_ok ‹_›
          exact ⟨List.Subset.refl _, by simp⟩
        · exact ⟨List.Subset.refl _, by simp⟩
  | syncing recorded terminal failure rest => exact ⟨List.Subset.refl _, by simp [advance]⟩
  | finished => exact ⟨List.Subset.refl _, by simp [advance]⟩

end Moves

/-! ## Every run -/

/-- Who acknowledges has written the watermark; no raw marker is of a later time. -/
structure Recorded (s : OutboxState) : Prop where
  watermarks : ∀ d, Phase.acknowledging d ∈ s.workers → Watermarked s d
  marks : ∀ mark ∈ s.registry, ∀ time, mark.rawSyncedAt = some time → time ≤ s.now

section Recorded

variable {settings : OutboxSettings} {s s' : OutboxState}

theorem marks_step (leases : List OutboxLease) {marks : List RegistrySync} {now : Int}
    (h : ∀ mark ∈ marks, ∀ time, mark.rawSyncedAt = some time → time ≤ now) :
    ∀ mark ∈ marks.map (RegistrySync.marked leases now), ∀ time, mark.rawSyncedAt = some time → time ≤ now := by
  intro mark hmark time htime
  obtain ⟨old, hold, rfl⟩ := List.mem_map.mp hmark
  rcases marked_raw_cases now leases old with ⟨hsame, -⟩ | hnow
  · exact h old hold time (hsame.symm.trans htime)
  · rw [hnow] at htime
    cases htime
    exact le_refl now

theorem recorded_advance {w : Nat} {answer : Answer} {phase : Phase} (hs : Recorded s) :
    Recorded { (advance settings s answer phase).1 with workers := s.workers.set w (advance settings s answer phase).2 } := by
  obtain ⟨hgrows, hwritten⟩ := moves_watermarks settings s answer phase
  constructor
  · intro d hd
    rcases List.mem_or_eq_of_mem_set hd with hd | hd
    · exact (hs.watermarks d hd).mono hgrows
    · exact hwritten d hd.symm
  · by_cases hacknowledged : ∃ d s', phase = .acknowledging d ∧ markDelivered s d = some s'
    · obtain ⟨d, s', rfl, hmarked⟩ := hacknowledged
      have hnow : s'.now = s.now := by
        unfold markDelivered at hmarked
        simp only at hmarked
        split at hmarked
        · cases hmarked
        · obtain ⟨outbox, -, hmarked⟩ := Option.bind_eq_some_iff.mp hmarked
          cases hmarked
          rfl
      simp only [advance, hmarked, Option.getD_some, (markDelivered_marks hmarked).registry, hnow]
      exact marks_step _ hs.marks
    · have hunmarked : s.Unmarked (advance settings s answer phase).1 := by
        apply advance_marks
        intro d hd
        cases hmarked : markDelivered s d with
        | none => rfl
        | some s' => exact absurd ⟨d, s', hd, hmarked⟩ hacknowledged
      obtain ⟨hnow, hregistry, -⟩ := hunmarked
      show ∀ mark ∈ (advance settings s answer phase).1.registry, _
      rw [hregistry]
      intro mark hmark time htime
      exact (hs.marks mark hmark time htime).trans hnow.ge

theorem recorded_next {step : OutboxStep} (hs : Recorded s) (h : s.next settings step = some s') : Recorded s' := by
  cases step with
  | wait microseconds =>
    cases h
    refine ⟨hs.watermarks, fun mark hmark time htime => ?_⟩
    have := hs.marks mark hmark time htime
    show time ≤ s.now + microseconds
    omega
  | register applicationId eventId =>
    simp only [OutboxState.next] at h
    split at h
    · cases h
    cases h
    refine ⟨hs.watermarks, fun mark hmark time htime => ?_⟩
    rcases List.mem_append.mp hmark with hmark | hmark
    · exact hs.marks mark hmark time htime
    · rw [List.mem_singleton.mp hmark] at htime
      cases htime
  | produce applicationId id message =>
    simp only [OutboxState.next] at h
    split at h
    · cases h
    obtain ⟨outbox, -, h⟩ := Option.bind_eq_some_iff.mp h
    cases h
    exact ⟨hs.watermarks, hs.marks⟩
  | replay run =>
    obtain ⟨outbox, -, h⟩ := Option.bind_eq_some_iff.mp h
    cases h
    exact ⟨hs.watermarks, hs.marks⟩
  | lease token locked =>
    cases h
    refine ⟨fun d hd => ?_, hs.marks⟩
    rcases List.mem_append.mp hd with hd | hd
    · exact hs.watermarks d hd
    · have hfirst := List.mem_singleton.mp hd
      unfold firstPhase at hfirst
      split at hfirst
      · cases hfirst
      · split at hfirst <;> cases hfirst
  | advance w answer =>
    obtain ⟨phase, -, h⟩ := Option.bind_eq_some_iff.mp h
    cases h
    exact recorded_advance hs
  | crash w =>
    simp only [OutboxState.next] at h
    split at h
    · cases h
      refine ⟨fun d hd => ?_, hs.marks⟩
      rcases List.mem_or_eq_of_mem_set hd with hd | hd
      · exact hs.watermarks d hd
      · cases hd
    · cases h

theorem recorded_run (settings : OutboxSettings) (now : Int) (steps : List OutboxStep) :
    Recorded ((outboxMachine settings).run (emptyOutbox now) steps) := by
  refine Machine.run_invariant ?_ steps _ ⟨by simp [emptyOutbox], by simp [emptyOutbox]⟩
  intro s step o s' hs h
  exact recorded_next hs (exec_ok h)

end Recorded

section Protocol

variable (settings : OutboxSettings) (s : OutboxState)

/-- The step is a worker's acknowledgement of the batch. -/
def Acknowledging (step : OutboxStep) (d : Delivery) : Prop :=
  ∃ worker answer, step = .advance worker answer ∧ s.workers[worker]? = some (.acknowledging d)

/-- Every row of the batch and its watermark are in the analytics store. -/
structure Delivered (d : Delivery) : Prop where
  rows : ∀ lease ∈ d.leases, lease.entry ∈ s.outbox.entries ∧ Projected settings s lease.entry
  watermark : Watermarked s d

/-- A batch sets the official marker of an event not before its raw one. -/
def MarkedInOrder (d : Delivery) (mark : RegistrySync) : Prop :=
  mark.officialSyncedAt = some s.now ∧ (∀ time, mark.rawSyncedAt = some time → time ≤ s.now) ∧
    ((∃ lease ∈ d.leases, lease.entry.isRawOf mark) → mark.rawSyncedAt ≠ none)

structure DeliveryStep (step : OutboxStep) (s' : OutboxState) : Prop where
  sent : ∀ row ∈ s'.outbox.rows, row.progress.status = .sent → row ∈ s.outbox.rows ∨
    ∃ d, Acknowledging s step d ∧ Marked s d s' ∧ Delivered settings s d ∧
      ∃ lease ∈ d.leases, ∃ old ∈ s.outbox.rows, lease.owns s.now old = true ∧ old.entry = row.entry
  acknowledged : ∀ d, Acknowledging s step d → Marked s d s' ∨ s' = { s with workers := s'.workers }
  watermark : ∀ last, s.lastOutboxId = some last → ∃ last', s'.lastOutboxId = some last' ∧ last ≤ last'
  official : ∀ mark ∈ s'.registry, ∀ time, mark.officialSyncedAt = some time →
    (∃ old ∈ s.registry, mark.sameEvent old ∧ old.officialSyncedAt = some time) ∨
      ∃ d, Acknowledging s step d ∧ Marked s d s' ∧ MarkedInOrder s d mark

variable {settings s} {s' : OutboxState} {step : OutboxStep}

/-- A step that acknowledges nothing and adds no sent row. -/
theorem DeliveryStep.other (hstep : ∀ d, ¬Acknowledging s step d)
    (hrows : ∀ row ∈ s'.outbox.rows, row.progress.status = .sent → row ∈ s.outbox.rows)
    (hsync : s'.sync = s.sync) (hregistry : ∀ mark ∈ s'.registry, mark ∈ s.registry ∨ mark.officialSyncedAt = none) :
    DeliveryStep settings s step s' where
  sent row hrow hsent := .inl (hrows row hrow hsent)
  acknowledged d hd := absurd hd (hstep d)
  watermark last hlast := ⟨last, by rw [← hlast, OutboxState.lastOutboxId, hsync]; rfl, le_refl last⟩
  official mark hmark time htime := by
    rcases hregistry mark hmark with hold | hnone
    · exact .inl ⟨mark, hold, ⟨rfl, rfl⟩, htime⟩
    · rw [hnone] at htime
      cases htime

theorem Marked.inOrder {d : Delivery} (h : Marked s d s') (hs : Recorded s) {mark : RegistrySync} (hmark : mark ∈ s'.registry)
    {time : Int} (htime : mark.officialSyncedAt = some time) :
    (∃ old ∈ s.registry, mark.sameEvent old ∧ old.officialSyncedAt = some time) ∨ MarkedInOrder s d mark := by
  have hle := marks_step d.leases hs.marks
  rw [← h.registry] at hle
  have hnew : mark ∈ s'.registry := hmark
  rw [h.registry] at hmark
  obtain ⟨old, hold, rfl⟩ := List.mem_map.mp hmark
  have hsame := (marked_raw s.now d.leases old).1
  rcases marked_official htime with hbefore | ⟨hnow, -⟩
  · exact .inl ⟨old, hold, hsame, hbefore⟩
  · refine .inr ⟨hnow ▸ htime, hle _ hnew, ?_⟩
    rintro ⟨lease, hlease, htype, hevent, happlication⟩
    have hraw : lease.entry.isRawOf old :=
      ⟨htype, hsame.2.symm.trans hevent, hsame.1.symm.trans happlication⟩
    rcases marked_raw_cases s.now d.leases old with ⟨hkept, hthere⟩ | hset
    · rw [hkept]
      exact hthere ⟨lease, hlease, hraw⟩
    · simp [hset]

theorem Consistent.delivered {w : Nat} {d : Delivery} (hs : Consistent settings s) (hr : Recorded s)
    (hw : s.workers[w]? = some (.acknowledging d)) : Delivered settings s d where
  rows lease hlease := by
    have hsound := hs.workers _ (List.mem_of_getElem? hw)
    refine ⟨hsound.leases d rfl lease hlease, (hsound.reached d rfl lease hlease).imp fun m hm row hrow hreached => ?_⟩
    rcases hreached with ⟨rows, hrows, -⟩ | ⟨r, hr, -⟩ | hstored
    · cases hrows
    · cases hr
    · exact hstored
  watermark := hr.watermarks d (List.mem_of_getElem? hw)

/-- Rows that an acknowledgement sends. -/
theorem Marked.sent {d : Delivery} (h : Marked s d s') {row : OutboxRow} (hrow : row ∈ s'.outbox.rows) :
    row ∈ s.outbox.rows ∨ ∃ lease ∈ d.leases, ∃ old ∈ s.outbox.rows, lease.owns s.now old = true ∧ old.entry = row.entry := by
  rw [h.rows] at hrow
  obtain ⟨old, hold, rfl⟩ := OutboxTable.mem_update hrow
  by_cases hid : old.entry.id ∈ d.outboxIds
  · refine .inr ?_
    rw [h.ids] at hid
    obtain ⟨lease, hlease, hid⟩ := List.mem_map.mp hid
    obtain ⟨owner, howner, howns⟩ := h.owned lease hlease
    refine ⟨lease, hlease, owner, howner, howns, ?_⟩
    rw [s.outbox.row_eq howner hold ((OutboxLease.owns_id howns).1.trans hid)]
  · refine .inl ?_
    rw [markSent, if_neg hid]
    exact hold

theorem deliveryStep_advance {w : Nat} {answer : Answer} {phase : Phase} (hs : Consistent settings s) (hr : Recorded s)
    (hw : s.workers[w]? = some phase) :
    DeliveryStep settings s (.advance w answer)
      { (advance settings s answer phase).1 with workers := s.workers.set w (advance settings s answer phase).2 } := by
  have honly : ∀ d, Acknowledging s (.advance w answer) d → phase = .acknowledging d := by
    rintro d ⟨worker, answer', heq, hd⟩
    cases heq
    exact Option.some.inj (hw.symm.trans hd)
  by_cases hacknowledged : ∃ d s', phase = .acknowledging d ∧ markDelivered s d = some s'
  · obtain ⟨d, s', rfl, hmarked⟩ := hacknowledged
    have hall := markDelivered_marks hmarked
    have hthis : Acknowledging s (.advance w answer) d := ⟨w, answer, rfl, hw⟩
    simp only [advance, hmarked, Option.getD_some]
    have hmarks : Marked s d { s' with workers := s.workers.set w .finished } :=
      ⟨hall.nonempty, hall.ids, hall.last, hall.owned, hall.rows, hall.registry, hall.watermark⟩
    refine ⟨fun row hrow _ => ?_, fun d' hd' => ?_, fun last hlast => ?_, fun mark hmark time htime => ?_⟩
    · rcases hmarks.sent hrow with hold | hsent
      · exact .inl hold
      · exact .inr ⟨d, hthis, hmarks, hs.delivered hr hw, hsent⟩
    · cases honly d' hd'
      exact .inl hmarks
    · refine ⟨_, hmarks.watermark, ?_⟩
      rw [hlast, Option.getD_some]
      omega
    · rcases hmarks.inOrder hr hmark htime with hold | horder
      · exact .inl hold
      · exact .inr ⟨d, hthis, hmarks, horder⟩
  · have hnone : ∀ d, phase = .acknowledging d → markDelivered s d = none := by
      intro d hd
      cases hmarked : markDelivered s d with
      | none => rfl
      | some s' => exact absurd ⟨d, s', hd, hmarked⟩ hacknowledged
    obtain ⟨-, hregistry, hlast⟩ := advance_marks settings answer hnone
    refine ⟨fun row hrow hsent => .inl ?_, fun d hd => .inr ?_, fun last h => ⟨last, hlast.trans h, le_refl last⟩,
      fun mark hmark time htime => .inl ⟨mark, hregistry ▸ hmark, ⟨rfl, rfl⟩, htime⟩⟩
    · rcases moves_sent (advance_moves settings s answer phase) hrow hsent with hold | ⟨d, rfl, -⟩
      · exact hold
      · simpa [advance, hnone d rfl] using hrow
    · cases honly d hd
      simp [advance, hnone d rfl]

theorem deliveryStep_next (hs : Consistent settings s) (hr : Recorded s) (h : s.next settings step = some s') :
    DeliveryStep settings s step s' := by
  cases step with
  | wait microseconds =>
    cases h
    exact .other (by rintro d ⟨_, _, ⟨⟩, _⟩) (fun row hrow _ => hrow) rfl fun mark hmark => .inl hmark
  | register applicationId eventId =>
    simp only [OutboxState.next] at h
    split at h
    · cases h
    cases h
    refine .other (by rintro d ⟨_, _, ⟨⟩, _⟩) (fun row hrow _ => hrow) rfl fun mark hmark => ?_
    rcases List.mem_append.mp hmark with hmark | hmark
    · exact .inl hmark
    · exact .inr (by rw [List.mem_singleton.mp hmark])
  | produce applicationId id message =>
    simp only [OutboxState.next] at h
    split at h
    · cases h
    obtain ⟨outbox, hinsert, h⟩ := Option.bind_eq_some_iff.mp h
    cases h
    refine .other (by rintro d ⟨_, _, ⟨⟩, _⟩) (fun row hrow hsent => ?_) rfl fun mark hmark => .inl hmark
    have hrow : row ∈ outbox.rows := hrow
    rw [OutboxTable.insert_ok hinsert] at hrow
    rcases List.mem_append.mp hrow with hrow | hrow
    · exact hrow
    · rw [List.mem_singleton.mp hrow] at hsent
      cases hsent
  | replay run =>
    obtain ⟨outbox, hreset, h⟩ := Option.bind_eq_some_iff.mp h
    cases h
    obtain ⟨new, hrows, hnew⟩ := resetOutbox_ok hreset
    refine .other (by rintro d ⟨_, _, ⟨⟩, _⟩) (fun row hrow hsent => ?_) rfl fun mark hmark => .inl hmark
    have hrow : row ∈ outbox.rows := hrow
    rw [hrows] at hrow
    rcases List.mem_append.mp hrow with hrow | hrow
    · exact hrow
    · obtain ⟨source, -, hpending, -⟩ := hnew row hrow
      rw [hpending] at hsent
      cases hsent
  | lease token locked =>
    cases h
    refine .other (by rintro d ⟨_, _, ⟨⟩, _⟩) (fun row hrow hsent => ?_) rfl fun mark hmark => .inl hmark
    obtain ⟨old, hold, rfl⟩ := OutboxTable.mem_update hrow
    by_cases hchosen : (s.outbox.candidates settings.batchSize locked s.now).contains old.entry.id = true
    · simp only [hchosen, if_true] at hsent
      cases hsent
    · rw [if_neg hchosen]
      exact hold
  | advance w answer =>
    obtain ⟨phase, hw, h⟩ := Option.bind_eq_some_iff.mp h
    cases h
    exact deliveryStep_advance hs hr hw
  | crash w =>
    simp only [OutboxState.next] at h
    split at h
    · cases h
      exact .other (by rintro d ⟨_, _, ⟨⟩, _⟩) (fun row hrow _ => hrow) rfl fun mark hmark => .inl hmark
    · cases h

end Protocol

/-- An acknowledgement marks all of its batch or throws, and every step of every run sends a
    row only so, keeps the watermark from going back and the markers in their order. -/
theorem delivery_protocol (settings : OutboxSettings) :
    (∀ s d, (∃ s', markDelivered s d = some s' ∧ Marked s d s') ∨ markDelivered s d = none) ∧
      ∀ (now : Int) (steps : List OutboxStep) (step : OutboxStep),
        DeliveryStep settings ((outboxMachine settings).run (emptyOutbox now) steps) step
          ((outboxMachine settings).run (emptyOutbox now) (steps ++ [step])) := by
  constructor
  · intro s d
    cases hmarked : markDelivered s d with
    | none => exact .inr rfl
    | some s' => exact .inl ⟨s', rfl, markDelivered_marks hmarked⟩
  · intro now steps step
    have hs := consistent_run settings now steps
    have hr := recorded_run settings now steps
    rw [Machine.run_append, Machine.run_cons, Machine.run_nil]
    rcases (outboxMachine settings).step_cases ((outboxMachine settings).run (emptyOutbox now) steps) step with ⟨o, h⟩ | h
    · exact deliveryStep_next hs hr (exec_ok h)
    · rw [h]
      exact ⟨fun row hrow _ => .inl hrow, fun d _ => .inr rfl, fun last hlast => ⟨last, hlast, le_refl last⟩,
        fun mark hmark time htime => .inl ⟨mark, hmark, ⟨rfl, rfl⟩, htime⟩⟩

end TokenPilot.Analytics
