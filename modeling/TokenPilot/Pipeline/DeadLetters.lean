/-
  TokenPilot.Pipeline.DeadLetters — the dead letters of the inbox, however the workers, the
  replay of a dead letter and the reset of a reconciliation interleave.

  `Agrees`: the row of an open dead letter is dead, a dead row has one open dead letter, and no
  row has two that are open or queued. A worker's calls keep it (`agrees_session`), and so do an
  acquisition and a replay; a reset that selects a dead row does not, since it leaves the dead
  letter open. `Mirrors`: the lease of a session that owns its row has the intent of the row.
  A replay keeps the intent of the row it replays, so the worker that leases it next goes by
  what an earlier reconciliation left there, unless it left nothing.

  `dead_letters_agree` is about the runs in which no reset selects a dead row and no replay is
  of a row with an intent; `stale_intent` is a run in which both happen.
-/

import TokenPilot.Pipeline.Resume

namespace TokenPilot.Pipeline

open TokenPilot.Library TokenPilot.Quota

/-- The letter waits for an administrator or for the end of its replay. -/
def DeadLetterEvent.isActive (d : DeadLetterEvent) : Bool := d.status == .open || d.status == .replayQueued

namespace Database

def openLetters (db : Database) (inboxId : Uuid) : Nat :=
  db.deadLetters.countP fun d => d.inboxId == inboxId && d.status == .open

def activeLetters (db : Database) (inboxId : Uuid) : Nat :=
  db.deadLetters.countP fun d => d.inboxId == inboxId && d.isActive

end Database

/-- The dead letters and the inbox agree. -/
structure Agrees (db : Database) : Prop where
  opened : ∀ d ∈ db.deadLetters, d.status = .open → ∃ row ∈ db.inbox.rows, row.id = d.inboxId ∧ row.status = .deadLetter
  dead : ∀ row ∈ db.inbox.rows, row.status = .deadLetter → db.openLetters row.id = 1
  active : ∀ inboxId, db.activeLetters inboxId ≤ 1

/-! ## Rows and letters of one transaction -/

section Letters

variable {db db' : Database} {id : Uuid}

/-- A row that is not dead has no open letter. -/
theorem Agrees.openLetters_zero (h : Agrees db) {row : IngestionInbox} (hrow : row ∈ db.inbox.rows)
    (hstatus : row.status ≠ .deadLetter) : db.openLetters row.id = 0 := by
  apply List.countP_eq_zero.mpr
  intro d hd hopen
  simp only [Bool.and_eq_true, beq_iff_eq] at hopen
  obtain ⟨other, hother, hid, hdead⟩ := h.opened d hd hopen.2
  have hsame : other = row := row_eq_of_id hother hrow (hid.trans hopen.1)
  rw [hsame] at hdead
  exact hstatus hdead

/-- A change of rows that are not dead and do not become dead. -/
theorem Agrees.of_rows (h : Agrees db) {g : IngestionInbox → IngestionInbox} (hletters : db'.deadLetters = db.deadLetters)
    (hrows : db'.inbox.rows = db.inbox.rows.map g) (hid : ∀ row, (g row).id = row.id)
    (hstatus : ∀ row ∈ db.inbox.rows, (g row).status = .deadLetter ↔ row.status = .deadLetter) : Agrees db' where
  opened := by
    intro d hd hopen
    rw [hletters] at hd
    obtain ⟨row, hrow, heq, hdead⟩ := h.opened d hd hopen
    refine ⟨g row, ?_, (hid row).trans heq, (hstatus row hrow).mpr hdead⟩
    rw [hrows]
    exact List.mem_map_of_mem hrow
  dead := by
    intro row hrow hdead
    rw [hrows] at hrow
    obtain ⟨old, hold, rfl⟩ := List.mem_map.mp hrow
    rw [hid, Database.openLetters, hletters]
    exact h.dead old hold ((hstatus old hold).mp hdead)
  active := by
    intro inboxId
    rw [Database.activeLetters, hletters]
    exact h.active inboxId

/-- The letters once those that wait for the row's replay are resolved. -/
theorem resolveDeadLetters_open (db : Database) (resolved id : Uuid) :
    (resolveDeadLetters db resolved).openLetters id = db.openLetters id := by
  unfold Database.openLetters resolveDeadLetters
  rw [List.countP_map]
  apply List.countP_congr
  intro d _
  rw [Function.comp_apply]
  split
  · rename_i hqueued
    simp [hqueued.2]
  · rfl

theorem resolveDeadLetters_active (db : Database) (resolved id : Uuid) :
    (resolveDeadLetters db resolved).activeLetters id ≤ db.activeLetters id := by
  unfold Database.activeLetters resolveDeadLetters
  rw [List.countP_map]
  apply List.countP_mono_left
  intro d _ hactive
  rw [Function.comp_apply] at hactive
  split at hactive
  · simp [DeadLetterEvent.isActive] at hactive
  · exact hactive

/-- Of the row itself only the open ones are left. -/
theorem resolveDeadLetters_own (db : Database) (id : Uuid) :
    (resolveDeadLetters db id).activeLetters id = db.openLetters id := by
  unfold Database.activeLetters Database.openLetters resolveDeadLetters
  rw [List.countP_map]
  apply List.countP_congr
  intro d _
  rw [Function.comp_apply]
  split
  · rename_i hqueued
    simp [DeadLetterEvent.isActive, hqueued.2]
  · rename_i hother
    by_cases hid : d.inboxId = id
    · have hqueued : d.status ≠ .replayQueued := fun h => hother ⟨hid, h⟩
      simp [DeadLetterEvent.isActive, hid, hqueued]
    · simp [hid]

theorem mem_resolveDeadLetters {d : DeadLetterEvent} (h : d ∈ (resolveDeadLetters db id).deadLetters)
    (hopen : d.status = .open) : d ∈ db.deadLetters := by
  obtain ⟨old, hold, rfl⟩ := List.mem_map.mp h
  split at hopen
  · cases hopen
  · rename_i hkept
    rw [if_neg hkept]
    exact hold

theorem Agrees.resolve (h : Agrees db) (resolved : Uuid) : Agrees (resolveDeadLetters db resolved) where
  opened d hd hopen := h.opened d (mem_resolveDeadLetters hd hopen) hopen
  dead row hrow hdead := (resolveDeadLetters_open db resolved row.id).trans (h.dead row hrow hdead)
  active inboxId := (resolveDeadLetters_active db resolved inboxId).trans (h.active inboxId)

end Letters

/-! ## The calls of a worker -/

section Sessions

variable {db db' : Database} {lease lease' : InboxLease} {now duration : Int}

theorem setProcessingStage_letters {stage : PipelineStageName} (h : setProcessingStage db lease stage = .ok db') :
    db'.deadLetters = db.deadLetters := by
  obtain ⟨⟨registry, n⟩, -, h⟩ := bind_ok h
  cases h
  rfl

theorem updateLeased_letters {f : IngestionInbox → IngestionInbox} {hf : ∀ a b, Row.clash (f a) b = Row.clash a b}
    (h : updateLeased db lease now f hf = .ok db') : db'.deadLetters = db.deadLetters := by
  obtain ⟨⟨inbox, n⟩, -, h⟩ := bind_ok h
  obtain ⟨_, -, h⟩ := bind_ok h
  cases h
  rfl

theorem advance_letters {stage : PipelineStageName} (h : advance db lease stage now duration = .ok (lease', db')) :
    db'.deadLetters = db.deadLetters := by
  unfold advance at h
  split at h
  · cases h
  split at h
  · cases h
  obtain ⟨⟨inbox, n⟩, -, h⟩ := bind_ok h
  obtain ⟨db₁, hset, h⟩ := bind_ok h
  obtain ⟨next, -, h⟩ := bind_ok h
  cases h
  have hletters := setProcessingStage_letters hset
  exact hletters

theorem complete_letters (h : complete db lease now = .ok db') :
    db'.deadLetters = (resolveDeadLetters db lease.id).deadLetters := by
  obtain ⟨db₁, h₁, h⟩ := bind_ok h
  obtain ⟨db₂, h₂, h⟩ := bind_ok h
  cases h
  unfold resolveDeadLetters
  rw [setProcessingStage_letters h₂, updateLeased_letters h₁]

theorem deadLetter_letters {failure : Failure} (h : deadLetter db lease now failure = .ok db') :
    db'.deadLetters = (resolveDeadLetters db lease.id).deadLetters ++
      [⟨lease.applicationId, lease.eventId, lease.id, lease.stage, failure, lease.attemptCount, .open⟩] := by
  obtain ⟨db₁, h₁, h⟩ := bind_ok h
  rw [setProcessingStage_letters h, updateLeased_letters h₁]

/-- The row a lease owns is not dead, and no row becomes dead. -/
theorem Agrees.of_rewrites {f : IngestionInbox → IngestionInbox} (h : Agrees db) (hf : Rewrites lease now f db db')
    (hletters : db'.deadLetters = db.deadLetters)
    (hstatus : ∀ row, row.status = .leased → (f row).status ≠ .deadLetter) : Agrees db' := by
  refine h.of_rows hletters hf.rows (rewrite_id hf.keeps) fun row _ => ?_
  unfold Table.rewrite
  split
  · rename_i hown
    have hleased := (owns_iff.mp hown).2.1
    simp [hstatus row hleased, hleased]
  · rfl

theorem Agrees.advance {stage : PipelineStageName} (h : Agrees db)
    (hok : advance db lease stage now duration = .ok (lease', db')) : Agrees db' :=
  h.of_rewrites (advance_rewrites hok) (advance_letters hok) fun row hrow => by simp [IngestionInbox.advanced, hrow]

theorem Agrees.commitOfficial {context : PipelineSettlementContext} {values : CommitValues} {clock : CommitClock}
    {metrics : PipelineOfficialMetrics} (h : Agrees db)
    (hok : commitOfficial db lease context values clock duration = .ok ((lease', metrics), db')) : Agrees db' := by
  obtain ⟨_, -, hok⟩ := bind_ok hok
  obtain ⟨⟨result, db₁⟩, hcommit, hok⟩ := bind_ok hok
  obtain ⟨⟨current, db₂⟩, hadvance, hok⟩ := bind_ok hok
  obtain ⟨base, -, hok⟩ := bind_ok hok
  obtain ⟨db₃, houtboxes, hok⟩ := bind_ok hok
  obtain ⟨⟨next, db₄⟩, hadvance', hok⟩ := bind_ok hok
  cases hok
  obtain ⟨-, ratings, quota, rfl⟩ := commit_ok hcommit
  obtain ⟨outbox, rfl⟩ := createOutboxes_inbox houtboxes
  have hrated : Agrees { db with ratings, quota } := ⟨h.opened, h.dead, h.active⟩
  have hofficial := hrated.advance hadvance
  have hcreated : Agrees { db₂ with outbox } := ⟨hofficial.opened, hofficial.dead, hofficial.active⟩
  exact hcreated.advance hadvance'

theorem Agrees.complete (h : Agrees db) (hok : complete db lease now = .ok db') : Agrees db' := by
  have hf := complete_rewrites hok
  have hresolved : Rewrites lease now _ (resolveDeadLetters db lease.id) db' := ⟨hf.keeps, hf.owned, hf.rows⟩
  exact (h.resolve lease.id).of_rewrites hresolved (complete_letters hok) fun _ _ => by simp

/-- The row becomes dead with a letter of its own. -/
theorem Agrees.deadLetter {failure : Failure} (h : Agrees db) (hok : deadLetter db lease now failure = .ok db') :
    Agrees db' := by
  have hf := deadLetter_rewrites hok
  have hletters := deadLetter_letters hok
  have hresolved := h.resolve lease.id
  obtain ⟨owned, howned, hown⟩ := hf.owned
  obtain ⟨hid, hleased, -⟩ := owns_iff.mp hown
  have hzero : db.openLetters lease.id = 0 := by
    rw [← hid]
    exact h.openLetters_zero howned (by simp [hleased])
  have hmine : ∀ row ∈ db.inbox.rows, lease.owns now row = true ↔ row.id = lease.id := by
    intro row hrow
    constructor
    · intro hrowOwn
      exact (owns_iff.mp hrowOwn).1
    · intro hrowId
      rw [row_eq_of_id hrow howned (hrowId.trans hid.symm)]
      exact hown
  constructor
  · intro d hd hopen
    rw [hletters] at hd
    rcases List.mem_append.mp hd with hd | hd
    · obtain ⟨row, hrow, heq, hdead⟩ := hresolved.opened d hd hopen
      refine ⟨Table.rewrite (lease.owns now) _ row, ?_, (rewrite_id hf.keeps row).trans heq, ?_⟩
      · rw [hf.rows]
        exact List.mem_map_of_mem hrow
      · unfold Table.rewrite
        split
        · rfl
        · exact hdead
    · rw [List.mem_singleton.mp hd]
      refine ⟨Table.rewrite (lease.owns now) _ owned, ?_, (rewrite_id hf.keeps owned).trans hid, ?_⟩
      · rw [hf.rows]
        exact List.mem_map_of_mem howned
      · rw [Table.rewrite, if_pos hown]
  · intro row hrow hdead
    rw [hf.rows] at hrow
    obtain ⟨old, hold, rfl⟩ := List.mem_map.mp hrow
    rw [rewrite_id hf.keeps, Database.openLetters, hletters, List.countP_append]
    have hcount := resolveDeadLetters_open db lease.id old.id
    unfold Database.openLetters at hcount
    rw [hcount]
    by_cases hmineOld : old.id = lease.id
    · have hnone := hzero
      unfold Database.openLetters at hnone
      rw [hmineOld, hnone]
      simp
    · rw [Table.rewrite, if_neg (fun hownOld => hmineOld ((hmine old hold).mp hownOld))] at hdead
      have hone := h.dead old hold hdead
      unfold Database.openLetters at hone
      rw [hone]
      simp [Ne.symm hmineOld]
  · intro inboxId
    rw [Database.activeLetters, hletters, List.countP_append]
    by_cases hmineId : inboxId = lease.id
    · have hnone := resolveDeadLetters_own db lease.id
      rw [hzero] at hnone
      unfold Database.activeLetters at hnone
      rw [hmineId, hnone]
      simp [DeadLetterEvent.isActive]
    · have hle := hresolved.active inboxId
      unfold Database.activeLetters at hle
      simpa [Ne.symm hmineId] using hle

/-- A call of a session keeps the agreement. -/
theorem agrees_session {settings : ProcessorSettings} {s : Cluster} {σ σ' : Session} {call : Call} (h : Agrees s.db)
    (hout : Outcome settings s σ call σ' db') : Agrees db' := by
  cases hout with
  | unchanged => exact h
  | advanced _ _ _ hadvance => exact h.advance hadvance
  | committed _ _ _ _ hcommit => exact h.commitOfficial hcommit
  | completed _ _ hcomplete => exact h.complete hcomplete
  | retried _ hretry =>
    exact h.of_rewrites (retry_rewrites hretry) (updateLeased_letters hretry) fun _ _ => by simp
  | deadLettered _ hdead => exact h.deadLetter hdead

end Sessions

/-! ## Acquisitions and resets -/

section Resets

variable {db db' : Database} {position : Nat} {now : Timestamp}

theorem Agrees.leaseInbox (h : Agrees db) (token : String) (limit : Nat) (locked : List Uuid) (now duration : Int) :
    Agrees (leaseInbox db token limit locked now duration).2 := by
  obtain ⟨selects, inbox, hdb, hrows, hselected, -⟩ := leaseInbox_cases db token limit locked now duration
  rw [hdb]
  refine h.of_rows rfl hrows (fun row => ?_) fun row hrow => ?_
  · unfold Table.rewrite
    split <;> rfl
  · unfold Table.rewrite
    split
    · rename_i hsel
      have hstatus : row.status ≠ .deadLetter := by
        intro hdead
        have hleasable := (hselected row hrow hsel).1
        simp [IngestionInbox.leasable, hdead] at hleasable
      simp [IngestionInbox.leasedTo, hstatus]
    · rfl

/-- The replay of the letter at the position goes through: it is open, and this is its row. -/
structure Replays (db : Database) (position : Nat) (row : IngestionInbox) : Prop where
  letter : ∃ dead, db.deadLetters[position]? = some dead ∧ dead.status = .open ∧ row.id = dead.inboxId ∧
    row.applicationId = dead.applicationId
  inbox : row ∈ db.inbox.rows
  payload : row.payload.isSome = true

/-- What a replay does: nothing, or its letter is queued and its row waits again with the intent
    it had. -/
theorem replayDeadLetter_cases (h : replayDeadLetter db position now = .ok db') :
    db' = db ∨ ∃ row dead, Replays db position row ∧ db.deadLetters[position]? = some dead ∧ dead.status = .open ∧
      row.id = dead.inboxId ∧ db'.deadLetters = db.deadLetters.set position { dead with status := .replayQueued } ∧
      db'.inbox.rows =
        db.inbox.rows.map (Table.rewrite (fun r => r.id == row.id) fun r => r.resetTo now r.replayIntentJson) := by
  unfold replayDeadLetter at h
  split at h
  · cases h
  rename_i dead hdead
  dsimp only at h
  split at h
  · cases h
    exact .inl rfl
  split at h
  · cases h
  rename_i hopen
  split at h
  · cases h
  rename_i row hfind
  split at h
  · cases h
  rename_i hpayload
  obtain ⟨⟨inbox, n⟩, hu, h⟩ := bind_ok h
  obtain ⟨⟨registry, m⟩, -, h⟩ := bind_ok h
  cases h
  obtain ⟨-, hrows, -⟩ := Table.updateMany_ok (statement_ok hu)
  obtain ⟨hrow, howner⟩ := Table.find?_mem hfind
  simp only [Bool.and_eq_true, beq_iff_eq] at howner
  have hstatus : dead.status = .open := by simpa using hopen
  have hstored : row.payload.isSome = true := by
    cases hp : row.payload with
    | none => simp [hp] at hpayload
    | some payload => rfl
  exact .inr ⟨row, dead, ⟨⟨dead, hdead, hstatus, howner.1, howner.2⟩, hrow, hstored⟩, hdead, hstatus, howner.1, rfl, hrows⟩

/-- A letter that is queued counts as before among the active ones, and no more as open. -/
theorem countP_queued {letters : List DeadLetterEvent} {dead : DeadLetterEvent} (hdead : letters[position]? = some dead)
    (hopen : dead.status = .open) (id : Uuid) :
    let after := letters.set position { dead with status := .replayQueued }
    (after.countP fun d => d.inboxId == id && d.isActive) = (letters.countP fun d => d.inboxId == id && d.isActive) ∧
      (dead.inboxId ≠ id → (after.countP fun d => d.inboxId == id && d.status == .open) =
        letters.countP fun d => d.inboxId == id && d.status == .open) := by
  obtain ⟨hlt, hget⟩ := List.getElem?_eq_some_iff.mp hdead
  intro after
  constructor
  · rw [List.countP_set hlt, hget]
    by_cases hid : dead.inboxId = id
    · have hpos : 0 < letters.countP fun d => d.inboxId == id && d.isActive :=
        List.countP_pos_iff.mpr ⟨dead, hget ▸ List.getElem_mem hlt, by simp [hid, DeadLetterEvent.isActive, hopen]⟩
      simp only [hid, DeadLetterEvent.isActive, hopen] at hpos ⊢
      simp
      omega
    · simp [hid]
  · intro hid
    rw [List.countP_set hlt, hget]
    simp [hid]

theorem Agrees.replay (h : Agrees db) (hok : replayDeadLetter db position now = .ok db') : Agrees db' := by
  rcases replayDeadLetter_cases hok with rfl | ⟨row, dead, hreplays, hdead, hopen, hid, hletters, hrows⟩
  · exact h
  have hmem : dead ∈ db.deadLetters := List.mem_of_getElem? hdead
  -- of the two rows of the letter's id, one is dead
  have hrowDead : row.status = .deadLetter := by
    obtain ⟨other, hother, heq, hstatus⟩ := h.opened dead hmem hopen
    rw [row_eq_of_id hreplays.inbox hother (hid.trans heq.symm)]
    exact hstatus
  have hone : db.openLetters row.id = 1 := h.dead row hreplays.inbox hrowDead
  have hrewrite : ∀ r : IngestionInbox,
      (Table.rewrite (fun r => r.id == row.id) (fun r => r.resetTo now r.replayIntentJson) r).id = r.id := by
    intro r
    unfold Table.rewrite
    split <;> rfl
  have hzero : db'.openLetters row.id = 0 := by
    obtain ⟨hlt, hget⟩ := List.getElem?_eq_some_iff.mp hdead
    unfold Database.openLetters at hone ⊢
    rw [hletters, List.countP_set hlt, hget, hone]
    simp [hid, hopen]
  constructor
  · intro d hd hdopen
    by_cases hmine : d.inboxId = row.id
    · exact absurd (List.countP_eq_zero.mp hzero d hd) (by simp [hmine, hdopen])
    · have hold : d ∈ db.deadLetters := by
        rw [hletters] at hd
        rcases List.mem_or_eq_of_mem_set hd with hd | rfl
        · exact hd
        · cases hdopen
      obtain ⟨other, hother, heq, hstatus⟩ := h.opened d hold hdopen
      refine ⟨other, ?_, heq, hstatus⟩
      rw [hrows]
      refine List.mem_map.mpr ⟨other, hother, ?_⟩
      rw [Table.rewrite, if_neg]
      simpa [heq] using hmine
  · intro other hother hstatus
    rw [hrows] at hother
    obtain ⟨old, hold, rfl⟩ := List.mem_map.mp hother
    by_cases hmine : old.id = row.id
    · rw [Table.rewrite, if_pos (by simpa using hmine)] at hstatus
      cases hstatus
    · rw [hrewrite]
      rw [Table.rewrite, if_neg (by simpa using hmine)] at hstatus
      have hcount := (countP_queued hdead hopen old.id).2 (by rw [← hid]; exact fun heq => hmine heq.symm)
      unfold Database.openLetters
      rw [hletters, hcount]
      exact h.dead old hold hstatus
  · intro inboxId
    unfold Database.activeLetters
    rw [hletters, (countP_queued hdead hopen inboxId).1]
    exact h.active inboxId

theorem resetInbox_cases {applicationId : Uuid} {runId replayType : String} {inRange : List String}
    (h : resetInbox db applicationId runId replayType inRange now = .ok db') :
    db'.deadLetters = db.deadLetters ∧ db'.inbox.rows = db.inbox.rows.map
      (Table.rewrite (resetSelects db applicationId inRange) (·.resetTo now (reconciliationIntent runId replayType))) := by
  obtain ⟨⟨inbox, n⟩, hu, h⟩ := bind_ok h
  cases h
  obtain ⟨-, hrows, -⟩ := Table.updateMany_ok (statement_ok hu)
  exact ⟨rfl, hrows⟩

/-- A reset that selects no dead row. -/
theorem Agrees.reset {applicationId : Uuid} {runId replayType : String} {inRange : List String} (h : Agrees db)
    (hdead : ∀ row ∈ db.inbox.rows, resetSelects db applicationId inRange row = true → row.status ≠ .deadLetter)
    (hok : resetInbox db applicationId runId replayType inRange now = .ok db') : Agrees db' := by
  obtain ⟨hletters, hrows⟩ := resetInbox_cases hok
  refine h.of_rows hletters hrows (fun row => ?_) fun row hrow => ?_
  · unfold Table.rewrite
    split <;> rfl
  · unfold Table.rewrite
    split
    · rename_i hsel
      simp [IngestionInbox.resetTo, hdead row hrow hsel]
    · rfl

end Resets

/-! ## The intent of a lease -/

/-- A session that owns its row has the row's intent. -/
def Mirrors (s : Cluster) : Prop :=
  ∀ σ ∈ s.sessions, ∀ row ∈ s.db.inbox.rows, row.id = σ.lease.id → row.leaseOwner = some σ.lease.leaseOwner →
    row.status = .leased → parsePipelineReplayIntent row.id row.replayIntentJson = .ok σ.lease.replayIntent

def JsonValue.isNull : JsonValue → Bool
  | .null => true
  | _ => false

/-- The reset selects the row. -/
def resetsRow (id : Uuid) (s : Cluster) : Call → Bool
  | .resetInbox applicationId _ _ inRange _ =>
    s.db.inbox.rows.any fun row => row.id == id && resetSelects s.db applicationId inRange row
  | _ => false

section Mirrors

variable {settings : ProcessorSettings} {s s' : Cluster} {call : Call}

/-- The lease of an advance has the intent of the row it leaves. -/
theorem advance_mirrors {db db' : Database} {lease lease' : InboxLease} {stage : PipelineStageName} {now duration : Int}
    (h : advance db lease stage now duration = .ok (lease', db')) {row : IngestionInbox} (hrow : row ∈ db'.inbox.rows)
    (hid : row.id = lease.id) : parsePipelineReplayIntent row.id row.replayIntentJson = .ok lease'.replayIntent := by
  have hf := advance_rewrites h
  obtain ⟨old, hold, hown, registry, -, hmap⟩ := advance_mapLease h
  rw [hf.rows] at hrow
  obtain ⟨x, hx, rfl⟩ := List.mem_map.mp hrow
  rw [rewrite_id hf.keeps] at hid
  have hsame : x = old := row_eq_of_id hx hold (hid.trans (owns_iff.mp hown).1.symm)
  rw [hsame, Table.rewrite, if_pos hown]
  exact (mapLease_ok hmap).2.1

theorem commitOfficial_mirrors {db db' : Database} {lease lease' : InboxLease} {context : PipelineSettlementContext}
    {values : CommitValues} {clock : CommitClock} {metrics : PipelineOfficialMetrics} {duration : Int}
    (h : commitOfficial db lease context values clock duration = .ok ((lease', metrics), db')) {row : IngestionInbox}
    (hrow : row ∈ db'.inbox.rows) (hid : row.id = lease.id) :
    parsePipelineReplayIntent row.id row.replayIntentJson = .ok lease'.replayIntent := by
  obtain ⟨_, -, h⟩ := bind_ok h
  obtain ⟨⟨result, db₁⟩, -, h⟩ := bind_ok h
  obtain ⟨⟨current, db₂⟩, hadvance, h⟩ := bind_ok h
  obtain ⟨base, -, h⟩ := bind_ok h
  obtain ⟨db₃, -, h⟩ := bind_ok h
  obtain ⟨⟨next, db₄⟩, hadvance', h⟩ := bind_ok h
  cases h
  exact advance_mirrors hadvance' hrow (hid.trans (advance_lease hadvance).1.symm)

/-- A session whose lease is as it was, after a call that kept the intent of its row. -/
theorem Mirrors.own {σ : Session} {db' : Database} {f : IngestionInbox → IngestionInbox} (h : Mirrors s)
    (hσ : σ ∈ s.sessions) (hf : Rewrites σ.lease s.clock f s.db db')
    (hintent : ∀ row, (f row).replayIntentJson = row.replayIntentJson) {row : IngestionInbox}
    (hrow : row ∈ db'.inbox.rows) (hid : row.id = σ.lease.id) :
    parsePipelineReplayIntent row.id row.replayIntentJson = .ok σ.lease.replayIntent := by
  obtain ⟨old, hold, hown, rfl⟩ := hf.row hrow hid
  obtain ⟨hoid, hleased, howner, -⟩ := owns_iff.mp hown
  rw [hf.keeps.id, hintent]
  exact h σ hσ old hold hoid howner hleased

/-- The session that made a call, if it still owns its row. -/
theorem Mirrors.session {σ σ' : Session} {db' : Database} (h : Mirrors s) (hσ : σ ∈ s.sessions)
    (hout : Outcome settings s σ call σ' db') {row : IngestionInbox} (hrow : row ∈ db'.inbox.rows)
    (hid : row.id = σ'.lease.id) (howner : row.leaseOwner = some σ'.lease.leaseOwner) (hleased : row.status = .leased) :
    parsePipelineReplayIntent row.id row.replayIntentJson = .ok σ'.lease.replayIntent := by
  -- a row that the call ended is leased no more
  have hended : ∀ {f : IngestionInbox → IngestionInbox}, Rewrites σ.lease s.clock f s.db db' →
      (∀ row, (f row).status ≠ .leased) → row.id = σ.lease.id → False := by
    intro f hf hstatus hid
    obtain ⟨old, -, -, rfl⟩ := hf.row hrow hid
    exact hstatus old hleased
  cases hout with
  | unchanged => exact h σ hσ row hrow hid howner hleased
  | @advanced _ stage lost lease' _ _ _ _ hadvance =>
    cases lost with
    | some e => exact h.own hσ (advance_rewrites hadvance) (fun _ => rfl) hrow hid
    | none => exact advance_mirrors hadvance hrow (hid.trans (advance_lease hadvance).1)
  | @committed _ values lost context lease' metrics _ elapsed elapsed' _ _ _ _ hcommit =>
    obtain ⟨⟨f, hf, hfrow⟩, hlease, -⟩ := commitOfficial_rewrites hcommit
    cases lost with
    | some e => exact h.own hσ hf (fun old => (hfrow old).2) hrow hid
    | none => exact commitOfficial_mirrors hcommit hrow (hid.trans hlease)
  | completed _ _ hcomplete => exact (hended (complete_rewrites hcomplete) (fun _ => by simp) hid).elim
  | retried _ hretry => exact (hended (retry_rewrites hretry) (fun _ => by simp) hid).elim
  | deadLettered _ hdead => exact (hended (deadLetter_rewrites hdead) (fun _ => by simp) hid).elim

theorem Mirrors.leaseInbox (h : Mirrors s) (ht : Tracks s) {token : String} {limit : Nat} {locked : List Uuid}
    {leases : List InboxLease} (hfresh : token ∉ s.tokens)
    (hleases : leases = [] ∨
      (leaseInbox s.db token limit locked s.clock settings.leaseDuration).1 = .ok leases) :
    Mirrors { s with
      db := (Pipeline.leaseInbox s.db token limit locked s.clock settings.leaseDuration).2
      tokens := token :: s.tokens
      sessions := s.sessions ++ leases.map (⟨·, .running⟩) } := by
  obtain ⟨selects, inbox, hdb, hrows, -, hreturned⟩ :=
    leaseInbox_cases s.db token limit locked s.clock settings.leaseDuration
  intro σ hσ row hrow hid howner hleased
  have hrow : row ∈ (Pipeline.leaseInbox s.db token limit locked s.clock settings.leaseDuration).2.inbox.rows := hrow
  rw [hdb, hrows] at hrow
  obtain ⟨x, hx, rfl⟩ := List.mem_map.mp hrow
  have hxid : x.id = σ.lease.id := by
    rw [← hid]
    unfold Table.rewrite
    split <;> rfl
  rcases List.mem_append.mp hσ with hσ | hσ
  · by_cases hsel : selects x = true
    · -- the row has the new token, which is not that of an earlier session
      rw [Table.rewrite, if_pos hsel] at howner
      obtain ⟨token', htoken', howner'⟩ := ht.drawn σ hσ
      have hnew : leaseOwnerOf token x.id = leaseOwnerOf token' σ.lease.id := by
        rw [← howner']
        exact Option.some.inj howner
      rw [hxid] at hnew
      exact absurd (leaseOwnerOf_inj hnew ▸ htoken') hfresh
    · rw [Table.rewrite, if_neg hsel] at howner hleased ⊢
      exact h σ hσ x hx hxid howner hleased
  · obtain ⟨lease, hlease, rfl⟩ := List.mem_map.mp hσ
    rcases hleases with rfl | hleases
    · cases hlease
    obtain ⟨old, hold, hsel, hmap⟩ := (hreturned leases hleases).2 lease hlease
    have hsame : x = old := row_eq_of_id hx hold (hxid.trans (mapLease_fields hmap).1)
    rw [hsame, Table.rewrite, if_pos hsel]
    exact (mapLease_ok hmap).2.1

theorem mirrors_step {u : Unit} (h : Mirrors s) (ht : Tracks s) (hcall : execCall settings s call = .ok (u, s')) :
    Mirrors s' := by
  cases hi : call.session with
  | some i =>
    obtain ⟨σ, σ', hσ, hout, -, hsessions⟩ := execCall_session hi hcall
    intro τ hτ row hrow hid howner hleased
    rw [hsessions] at hτ
    rcases mem_set hτ with rfl | ⟨j, hne, hj⟩
    · exact h.session (List.mem_of_getElem? hσ) hout hrow hid howner hleased
    · have hrow := hout.frame (ht.key_ne hσ hj hne) hrow hid howner
      exact h τ (List.mem_of_getElem? hj) row hrow hid howner hleased
  | none =>
    rcases execCall_other hi hcall with ⟨clock, rfl⟩ | ⟨token, limit, locked, leases, -, hfresh, rfl, hleases⟩ |
      ⟨-, db', rfl, ⟨selects, now, intent, hrows⟩, -⟩
    · exact h
    · exact h.leaseInbox ht hfresh hleases
    · intro σ hσ row hrow hid howner hleased
      have hrow : row ∈ db'.inbox.rows := hrow
      rw [hrows] at hrow
      obtain ⟨x, hx, rfl⟩ := List.mem_map.mp hrow
      by_cases hsel : selects x = true
      · rw [Table.rewrite, if_pos hsel] at howner
        cases howner
      · rw [Table.rewrite, if_neg hsel] at hid howner hleased ⊢
        exact h σ hσ x hx hid howner hleased

/-- Each row after a call is what the call made of one before. -/
theorem rewrites_intent {lease : InboxLease} {now : Int} {db db' : Database} {f : IngestionInbox → IngestionInbox}
    (hf : Rewrites lease now f db db')
    (hintent : ∀ row, (f row).replayIntentJson = row.replayIntentJson ∨ (f row).replayIntentJson = .null)
    {row : IngestionInbox} (hrow : row ∈ db'.inbox.rows) : ∃ old ∈ db.inbox.rows, old.id = row.id ∧
      (row.replayIntentJson = old.replayIntentJson ∨ row.replayIntentJson = .null) := by
  rw [hf.rows] at hrow
  obtain ⟨x, hx, rfl⟩ := List.mem_map.mp hrow
  refine ⟨x, hx, (rewrite_id hf.keeps x).symm, ?_⟩
  unfold Table.rewrite
  split
  · exact hintent x
  · exact .inl rfl

/-- A row's intent changes by a reset that selects the row, or goes. -/
theorem intent_step {u : Unit} (hcall : execCall settings s call = .ok (u, s')) {row : IngestionInbox}
    (hrow : row ∈ s'.db.inbox.rows) (hreset : resetsRow row.id s call = false) : ∃ old ∈ s.db.inbox.rows,
      old.id = row.id ∧ (row.replayIntentJson = old.replayIntentJson ∨ row.replayIntentJson = .null) := by
  cases hi : call.session with
  | some i =>
    obtain ⟨σ, σ', -, hout, -, -⟩ := execCall_session hi hcall
    obtain ⟨db', hdb⟩ : ∃ db', s'.db = db' := ⟨_, rfl⟩
    rw [hdb] at hout hrow
    cases hout with
    | unchanged => exact ⟨row, hrow, rfl, .inl rfl⟩
    | advanced _ _ _ hadvance => exact rewrites_intent (advance_rewrites hadvance) (fun _ => .inl rfl) hrow
    | committed _ _ _ _ hcommit =>
      obtain ⟨⟨f, hf, hfrow⟩, -⟩ := commitOfficial_rewrites hcommit
      exact rewrites_intent hf (fun old => .inl (hfrow old).2) hrow
    | completed _ _ hcomplete => exact rewrites_intent (complete_rewrites hcomplete) (fun _ => .inr rfl) hrow
    | retried _ hretry => exact rewrites_intent (retry_rewrites hretry) (fun _ => .inl rfl) hrow
    | deadLettered _ hdead => exact rewrites_intent (deadLetter_rewrites hdead) (fun _ => .inl rfl) hrow
  | none =>
    cases call with
    | tick elapsed =>
      cases hcall
      exact ⟨row, hrow, rfl, .inl rfl⟩
    | leaseInbox token limit locked =>
      simp only [execCall] at hcall
      split at hcall
      · cases hcall
      cases hcall
      obtain ⟨selects, inbox, hdb, hrows, -⟩ :=
        leaseInbox_cases s.db token limit locked s.clock settings.leaseDuration
      have hrow : row ∈ (leaseInbox s.db token limit locked s.clock settings.leaseDuration).2.inbox.rows := hrow
      rw [hdb, hrows] at hrow
      obtain ⟨x, hx, rfl⟩ := List.mem_map.mp hrow
      refine ⟨x, hx, ?_, .inl ?_⟩
      · unfold Table.rewrite
        split <;> rfl
      · unfold Table.rewrite
        split <;> rfl
    | replayDeadLetter position now =>
      cases hcall
      cases hreplay : replayDeadLetter s.db position now with
      | error e => exact ⟨row, by simpa [hreplay, orRolledBack] using hrow, rfl, .inl rfl⟩
      | ok db' =>
        have hrow : row ∈ db'.inbox.rows := by simpa [hreplay, orRolledBack] using hrow
        rcases replayDeadLetter_cases hreplay with rfl | ⟨replayed, dead, -, -, -, -, -, hrows⟩
        · exact ⟨row, hrow, rfl, .inl rfl⟩
        · rw [hrows] at hrow
          obtain ⟨x, hx, rfl⟩ := List.mem_map.mp hrow
          refine ⟨x, hx, ?_, .inl ?_⟩
          · unfold Table.rewrite
            split <;> rfl
          · unfold Table.rewrite
            split <;> rfl
    | resetInbox applicationId runId replayType inRange now =>
      cases hcall
      cases hok : resetInbox s.db applicationId runId replayType inRange now with
      | error e => exact ⟨row, by simpa [hok, orRolledBack] using hrow, rfl, .inl rfl⟩
      | ok db' =>
        have hrow : row ∈ db'.inbox.rows := by simpa [hok, orRolledBack] using hrow
        rw [(resetInbox_cases hok).2] at hrow
        obtain ⟨x, hx, rfl⟩ := List.mem_map.mp hrow
        have hxid : (Table.rewrite (resetSelects s.db applicationId inRange)
            (·.resetTo now (reconciliationIntent runId replayType)) x).id = x.id := by
          unfold Table.rewrite
          split <;> rfl
        rw [hxid] at hreset ⊢
        have hsel : ¬resetSelects s.db applicationId inRange x = true := by
          intro hsel
          have hselected : resetsRow x.id s (.resetInbox applicationId runId replayType inRange now) = true :=
            List.any_eq_true.mpr ⟨x, hx, by simp [hsel]⟩
          rw [hselected] at hreset
          cases hreset
        refine ⟨x, hx, rfl, .inl ?_⟩
        rw [Table.rewrite, if_neg hsel]
    | checkpoint | commitOfficial | complete | throws | retry | deadLetter => cases hi

/-- The row carries no intent. -/
def Plain (id : Uuid) (s : Cluster) : Prop := ∀ row ∈ s.db.inbox.rows, row.id = id → row.replayIntentJson = .null

/-- A row that carries no intent carries none until a reset selects it. -/
theorem plain_run {id : Uuid} {calls : List Call} (h : Plain id s)
    (hcalls : (workers settings).Guarded (fun s call => resetsRow id s call = false) s calls) :
    Plain id ((workers settings).run s calls) := by
  refine Machine.guarded_invariant (m := workers settings) (P := Plain id) ?_ calls s h hcalls
  intro s call u s' hs hok hcall row hrow hid
  obtain ⟨old, hold, holdId, hintent⟩ := intent_step hcall hrow (hid ▸ hok)
  rcases hintent with hintent | hintent
  · exact hintent.trans (hs old hold (holdId.trans hid))
  · exact hintent

end Mirrors

/-! ## Runs -/

/-- A reset selects no dead row, and a replay is of a row that carries no intent. -/
def tidy (s : Cluster) : Call → Bool
  | .replayDeadLetter position _ =>
    s.db.deadLetters[position]?.all fun dead =>
      dead.status != .open || s.db.inbox.rows.all fun row => row.id != dead.inboxId || row.replayIntentJson.isNull
  | .resetInbox applicationId _ _ inRange _ =>
    s.db.inbox.rows.all fun row => !resetSelects s.db applicationId inRange row || row.status != .deadLetter
  | _ => true

section Runs

variable {settings : ProcessorSettings} {s s' : Cluster} {call : Call}

theorem agrees_step {u : Unit} (h : Agrees s.db) (htidy : tidy s call = true)
    (hcall : execCall settings s call = .ok (u, s')) : Agrees s'.db := by
  cases hi : call.session with
  | some i =>
    obtain ⟨σ, σ', -, hout, -, -⟩ := execCall_session hi hcall
    exact agrees_session h hout
  | none =>
    cases call with
    | tick elapsed =>
      cases hcall
      exact h
    | leaseInbox token limit locked =>
      simp only [execCall] at hcall
      split at hcall
      · cases hcall
      cases hcall
      exact h.leaseInbox token limit locked s.clock settings.leaseDuration
    | replayDeadLetter position now =>
      cases hcall
      exact orRolledBack_id (P := Agrees) h fun db' hok => h.replay hok
    | resetInbox applicationId runId replayType inRange now =>
      cases hcall
      refine orRolledBack_id (P := Agrees) h fun db' hok => h.reset (fun row hrow hsel => ?_) hok
      have hrow := List.all_eq_true.mp htidy row hrow
      simpa [hsel] using hrow
    | checkpoint | commitOfficial | complete | throws | retry | deadLetter => cases hi

theorem agrees_run {calls : List Call} (h : Agrees s.db)
    (hcalls : (workers settings).Guarded (fun s call => tidy s call = true) s calls) :
    Agrees ((workers settings).run s calls).db :=
  Machine.guarded_invariant (m := workers settings) (P := fun s => Agrees s.db)
    (fun _ _ _ _ hs hok hcall => agrees_step hs hok hcall) calls s h hcalls

theorem mirrors_run (h : s.sessions = []) (calls : List Call) : Mirrors ((workers settings).run s calls) := by
  have hboth : Tracks s ∧ Mirrors s := by
    refine ⟨?_, ?_⟩
    · constructor <;> simp [h]
    · intro σ hσ
      rw [h] at hσ
      cases hσ
  have hrun := Machine.run_invariant (m := workers settings) (P := fun s => Tracks s ∧ Mirrors s)
    (fun _ _ _ _ hs hcall => ⟨tracks_step hs.1 hcall, mirrors_step hs.2 hs.1 hcall⟩) calls s hboth
  exact hrun.2

/-- A replay of a row that carries no intent. -/
theorem plain_replay {position : Nat} {now : Timestamp} {row : IngestionInbox} (h : Replays s.db position row)
    (htidy : tidy s (.replayDeadLetter position now) = true) :
    Plain row.id ((workers settings).step s (.replayDeadLetter position now)) := by
  obtain ⟨dead, hdead, hopen, hid, -⟩ := h.letter
  have hbefore : Plain row.id s := by
    intro other hother hotherId
    simp only [tidy, hdead, Option.all_some, hopen, bne_self_eq_false, Bool.false_or] at htidy
    have hnull := List.all_eq_true.mp htidy other hother
    simp only [hotherId, hid, bne_self_eq_false, Bool.false_or] at hnull
    cases hintent : other.replayIntentJson <;> simp [hintent, JsonValue.isNull] at hnull ⊢
  have hkept : (workers settings).Guarded (fun s call => resetsRow row.id s call = false) s [.replayDeadLetter position now] :=
    ⟨rfl, trivial⟩
  exact plain_run hbefore hkept

end Runs

/-- In a run whose resets select no dead row and whose replays are of rows without an intent,
    the dead letters and the inbox agree, and a worker processes a row that was replayed by no
    intent, until a reset selects it again. -/
theorem dead_letters_agree (settings : ProcessorSettings) (s : Cluster) (calls : List Call) (hsessions : s.sessions = [])
    (hs : Agrees s.db) (h : (workers settings).Guarded (fun s call => tidy s call = true) s calls) :
    Agrees ((workers settings).run s calls).db ∧
      ∀ before position now after row, calls = before ++ .replayDeadLetter position now :: after →
        Replays ((workers settings).run s before).db position row →
        (workers settings).Guarded (fun s call => resetsRow row.id s call = false)
          ((workers settings).run s (before ++ [.replayDeadLetter position now])) after →
        ∀ σ ∈ ((workers settings).run s calls).sessions, ∀ owned ∈ ((workers settings).run s calls).db.inbox.rows,
          owned.id = row.id → σ.lease.owns ((workers settings).run s calls).clock owned = true →
          σ.lease.replayIntent = none := by
  refine ⟨agrees_run hs h, fun before position now after row hcalls hreplays hkept σ hσ owned howned hid hown => ?_⟩
  rw [hcalls, Machine.guarded_append] at h
  have hreplayed : Plain row.id ((workers settings).step ((workers settings).run s before) (.replayDeadLetter position now)) :=
    plain_replay hreplays h.2.1
  rw [← run_snoc] at hreplayed
  have hplain := plain_run hreplayed hkept
  rw [← Machine.run_append, List.append_assoc, List.singleton_append, ← hcalls] at hplain
  obtain ⟨hoid, hleased, howner, -⟩ := owns_iff.mp hown
  have hmirrors := mirrors_run hsessions calls σ hσ owned howned hoid howner hleased
  rw [hplain owned howned hid] at hmirrors
  exact (Except.ok.inj hmirrors).symm

/-! ## Dead letters of the small application -/

namespace Sample

def failing : ProcessorSettings := processor (pipelineRuntimeFlags everythingOn)

/-- An attempt of the session that ends in a dead letter. -/
def attempt (session : Nat) (token : String) : List Call :=
  [.leaseInbox token 10 [], .throws session (.badRequest "Unknown model"), .deadLetter session]

def reconciled : Call :=
  .resetInbox 0 "7b1c0f6e-52a4-4d4f-9a55-0d6a1f3c2b10" "rerun_aiu_observe" [Quota.Sample.unreservedEvent] 0

/-- The event fails, is replayed by an administrator and leased again. -/
def replayed : List Call := attempt 0 "a:1" ++ [.replayDeadLetter 0 0, .leaseInbox "b:2" 10 []]

/-- A reconciliation resets the event before it fails. -/
def stale : List Call := reconciled :: replayed

/-- A reconciliation resets the dead event, which then fails again. -/
def phantom : List Call := attempt 0 "a:1" ++ [reconciled] ++ attempt 1 "b:2"

end Sample

open Sample in
theorem replayed_plain :
    Agrees ((workers failing).run waiting replayed).db ∧
      ∀ σ ∈ ((workers failing).run waiting replayed).sessions,
        ∀ owned ∈ ((workers failing).run waiting replayed).db.inbox.rows, owned.id = 90 →
          σ.lease.owns ((workers failing).run waiting replayed).clock owned = true → σ.lease.replayIntent = none := by
  have hstart : Agrees waiting.db := ⟨by decide, by decide, fun _ => Nat.zero_le 1⟩
  have hall := dead_letters_agree failing waiting replayed rfl hstart (by decide +kernel)
  refine ⟨hall.1, fun σ hσ owned howned hid hown => ?_⟩
  have hrows : ((workers failing).run waiting (attempt 0 "a:1")).db.inbox.rows.map
      (fun row => (row.id, row.applicationId, row.payload.isSome)) = [(90, 0, true)] := by
    decide +kernel
  obtain ⟨row, hrow, heq⟩ := List.mem_map.mp (hrows ▸ List.mem_singleton_self _)
  obtain ⟨hrowId, happlication, hpayload⟩ : row.id = 90 ∧ row.applicationId = 0 ∧ row.payload.isSome = true := by
    simpa using heq
  have hletters : ((workers failing).run waiting (attempt 0 "a:1")).db.deadLetters.map
      (fun d => (d.inboxId, d.applicationId, d.status)) = [(90, 0, .open)] := by
    decide +kernel
  have hletter := congrArg (·[0]?) hletters
  simp only [List.getElem?_map, List.getElem?_cons_zero, Option.map_eq_some_iff, Prod.mk.injEq] at hletter
  obtain ⟨dead, hdead, hinbox, hdeadApplication, hopen⟩ := hletter
  have hreplays : Replays ((workers failing).run waiting (attempt 0 "a:1")).db 0 row :=
    ⟨⟨dead, hdead, hopen, hrowId.trans hinbox.symm, happlication.trans hdeadApplication.symm⟩, hrow, hpayload⟩
  exact hall.2 (attempt 0 "a:1") 0 0 [.leaseInbox "b:2" 10 []] row rfl hreplays ⟨rfl, trivial⟩ σ hσ owned howned
    (hid.trans hrowId.symm) hown

open Sample in
/-- After a reset of a dead row an open letter is of a row that is not dead, then two are of one
    row; and a row that is replayed is leased with the intent of the reconciliation before. -/
theorem stale_intent :
    ((((workers failing).run waiting (attempt 0 "a:1" ++ [reconciled])).db.deadLetters.map fun d => (d.inboxId, d.status)) =
        [(90, .open)] ∧
      (((workers failing).run waiting (attempt 0 "a:1" ++ [reconciled])).db.inbox.rows.map fun row => (row.id, row.status)) =
        [(90, .pending)]) ∧
    ((workers failing).run waiting phantom).db.openLetters 90 = 2 ∧
    (((workers failing).run waiting stale).sessions.map fun σ => (σ.lease.id, σ.lease.replayIntent.isSome)) =
      [(90, true), (90, true)] := by
  decide +kernel

end TokenPilot.Pipeline
