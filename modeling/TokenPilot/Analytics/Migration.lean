/-
  TokenPilot.Analytics.Migration — installing the ClickHouse baseline
  (`clickhouse/src/migration/runner.ts`, `lock.ts`).

  Runs of `applyClickHouseMigrations` stand at statements (`Stage`), and each statement is one
  step: the server answers it, or it fails, with or without its effect; between any two a run may
  crash. The lock is a table that a run creates, which fails where it exists, and only the run
  that created it drops it. A statement of a migration creates its object, and perhaps others
  (`inner`: the tables behind a view).

  `Inv` carries the proof: the lock is there while a run holds it, at most one holds it, and
  while a run installs, none has come through. `executed` lists the versions that were sent.

  The texts of the server are parameters. Left out: identifiers of queries, the time a
  migration took, and the check of the database's name.
-/

import TokenPilot.Analytics.Baseline

namespace TokenPilot.Analytics

open TokenPilot.Library

/-! ## Statements that change a database -/

namespace ClickHouseDatabase

/-- A name that is taken is left alone. -/
def create (db : ClickHouseDatabase) (object : SchemaObject) : ClickHouseDatabase :=
  if h : db.has object.name then db
  else
    { db with
      objects := db.objects ++ [object]
      names_nodup := by
        rw [List.map_append, List.nodup_append]
        refine ⟨db.names_nodup, by simp, ?_⟩
        rintro a ha b hb rfl
        rw [List.map_singleton, List.mem_singleton] at hb
        exact h (hb ▸ ha) }

def createAll (db : ClickHouseDatabase) (objects : List SchemaObject) : ClickHouseDatabase := objects.foldl create db

def drop (db : ClickHouseDatabase) (name : String) : ClickHouseDatabase where
  objects := db.objects.filter (·.name ≠ name)
  names_nodup := db.names_nodup.sublist ((List.filter_sublist).map _)
  history := db.history

def createHistory (db : ClickHouseDatabase) : ClickHouseDatabase :=
  { db.create ⟨migrationsTable, "MergeTree"⟩ with history := some [] }

def insertHistory (db : ClickHouseDatabase) (row : HistoryRow) : ClickHouseDatabase :=
  { db with history := db.history.map (· ++ [row]) }

end ClickHouseDatabase

/-! ## Runs -/

structure ClickHouseMigrationUpResult where
  appliedVersions : List Nat
  status : ClickHouseMigrationStatusReport
  deriving DecidableEq, Repr

/-- The statement a run sends next. `applied` is there once the installation started. -/
inductive Stage where
  | health
  | acquireMigrationLock
  | readSchemaObjects (applied : Option (List Nat))
  | readAppliedMigrations (applied : Option (List Nat)) (expected objects : List SchemaObject)
  | ensureMigrationsTable
  | execute (applied : List Nat) (migration : ClickHouseMigration) (rest : List ClickHouseMigration)
  | insert (applied : List Nat) (migration : ClickHouseMigration) (rest : List ClickHouseMigration)
  | releaseMigrationLock (result : Except String ClickHouseMigrationUpResult)
  | returned (result : Except String ClickHouseMigrationUpResult)
  | crashed
  deriving DecidableEq

structure MigrationRun where
  migrations : List ClickHouseMigration
  stage : Stage
  deriving DecidableEq

structure World where
  db : ClickHouseDatabase
  runs : List MigrationRun
  executed : List Nat

/-- `now` is the clock of the server; `inner` is what a statement creates beside its object. -/
inductive Act where
  | start (migrations : List ClickHouseMigration)
  | proceed (run : Nat) (reply : Reply) (now : Nat) (inner : List SchemaObject)
  | crash (run : Nat)

def ClickHouseMigrationState.text : ClickHouseMigrationState → String
  | .pending => "pending"
  | .applied => "applied"
  | .checksumMismatch => "checksum_mismatch"
  | .duplicateRecord => "duplicate_record"
  | .orphaned => "orphaned"

def freshDatabaseRequired (database : String) (report : ClickHouseMigrationStatusReport) : String :=
  let list (key : String) (entries : List String) := if entries = [] then [] else [key ++ "=" ++ String.intercalate "," entries]
  let details :=
    list "history" ((report.migrations.filter (·.state ≠ .applied)).map fun migration =>
      toString migration.version ++ ":" ++ migration.state.text) ++
    list "missing" report.missingObjects ++ list "unexpected" report.unexpectedObjects ++
    list "conflicting" (report.conflictingObjects.map fun object =>
      object.name ++ ":" ++ object.actualEngine ++ "->" ++ object.expectedEngine) ++
    (if report.migrationTableExists && !report.migrationTableReadable then ["history_table=unreadable"] else [])
  "ClickHouse database '" ++ database ++ "' contains a partial, conflicting, or old schema (" ++
    (if details = [] then "unknown conflict" else String.intercalate "; " details) ++
    "); delete and recreate the database, then install the current baseline"

def lockHeld : String :=
  "Another ClickHouse migration runner holds the schema lock; after a crashed runner is stopped, " ++
    "an operator must verify and drop the lock table"

/-- The error a run is left with: after the start of an installation it says what to do. -/
def primaryError (database : String) (installationStarted : Bool) (message : String) : String :=
  if installationStarted ∧ ¬"delete and recreate".toList <:+: message.toList then
    message ++ ". The current baseline installation is incomplete; delete and recreate ClickHouse database '" ++
      database ++ "' before retrying"
  else message

def migrationFailed (message : String) : String := "ClickHouse migration failed: " ++ message

/-- The loop over the migrations, and the status after it. -/
def installFrom (applied : List Nat) : List ClickHouseMigration → Stage
  | [] => .readSchemaObjects (some applied)
  | migration :: rest => .execute applied migration rest

section Runner

variable (database : String) (tableExists : String → String)

/-- One statement of a run: the database after it, where the run then stands, and the version
    that was sent. -/
def proceed (db : ClickHouseDatabase) (migrations : List ClickHouseMigration) (stage : Stage) (reply : Reply) (now : Nat)
    (inner : List SchemaObject) : ClickHouseDatabase × Stage × List Nat :=
  let release (started : Bool) (message : String) := Stage.releaseMigrationLock (.error (primaryError database started message))
  match stage with
  | .health =>
    match reply with
    | .done => (db, .acquireMigrationLock, [])
    | .failed message _ => (db, .returned (.error ("ClickHouse health check failed: " ++ message)), [])
  | .acquireMigrationLock =>
    if db.has migrationLockTable then (db, .returned (.error lockHeld), [])
    else
      let created := if reply.takesEffect then db.create ⟨migrationLockTable, "Memory"⟩ else db
      match reply with
      | .done => (created, .readSchemaObjects none, [])
      | .failed message _ =>
        (created, .returned (.error ("Unable to acquire the ClickHouse migration lock: " ++ message)), [])
  | .readSchemaObjects applied =>
    match getClickHouseBaselineObjects migrations with
    | .error message => (db, release applied.isSome message, [])
    | .ok expected =>
      match reply with
      | .done => (db, .readAppliedMigrations applied expected db.objects, [])
      | .failed message _ => (db, release applied.isSome (migrationFailed message), [])
  | .readAppliedMigrations applied expected objects =>
    let rows := if reply = .done then db.history else none
    let report := migrationStatus migrations expected objects rows
    match report.installationState, applied with
    | .installed, _ => (db, .releaseMigrationLock (.ok ⟨applied.getD [], report⟩), [])
    | .empty, none => (db, .ensureMigrationsTable, [])
    | _, _ => (db, release applied.isSome (freshDatabaseRequired database report), [])
  | .ensureMigrationsTable =>
    if db.has migrationsTable then (db, release true (migrationFailed (tableExists migrationsTable)), [])
    else
      let created := if reply.takesEffect then db.createHistory else db
      match reply with
      | .done => (created, installFrom [] migrations, [])
      | .failed message _ => (created, release true (migrationFailed message), [])
  | .execute applied migration rest =>
    let sent := [migration.version]
    match baselineObject migration with
    | .error message => (db, release true (migrationFailed message), sent)
    | .ok (create, object) =>
      if db.has object.name ∧ create.ifNotExists = false then
        (db, release true (migrationFailed (tableExists object.name)), sent)
      else
        let created := if reply.takesEffect then db.createAll (object :: inner) else db
        match reply with
        | .done => (created, .insert applied migration rest, sent)
        | .failed message _ => (created, release true (migrationFailed message), sent)
  | .insert applied migration rest =>
    let row : HistoryRow := ⟨migration.version, migration.name, migration.checksum, now⟩
    let inserted := if reply.takesEffect then db.insertHistory row else db
    match reply with
    | .done => (inserted, installFrom (applied ++ [migration.version]) rest, [])
    | .failed message _ => (inserted, release true (migrationFailed message), [])
  | .releaseMigrationLock result =>
    let dropped := if reply.takesEffect then db.drop migrationLockTable else db
    match reply, result with
    | .done, result => (dropped, .returned result, [])
    | .failed message _, .error first =>
      (dropped, .returned (.error (first ++ "; additionally failed to release the ClickHouse migration lock: " ++ message)), [])
    | .failed message _, .ok _ =>
      (dropped, .returned (.error ("ClickHouse migration completed but failed to release the ClickHouse migration lock: " ++
        message)), [])
  | .returned result => (db, .returned result, [])
  | .crashed => (db, .crashed, [])

def act (w : World) : Act → Except String (Unit × World)
  | .start migrations => .ok ((), { w with runs := w.runs ++ [⟨migrations, .health⟩] })
  | .proceed i reply now inner =>
    match w.runs[i]? with
    | none => .error "no such run"
    | some run =>
      let (db, stage, sent) := proceed database tableExists w.db run.migrations run.stage reply now inner
      .ok ((), ⟨db, w.runs.set i { run with stage }, w.executed ++ sent⟩)
  | .crash i =>
    match w.runs[i]? with
    | none => .error "no such run"
    | some run => .ok ((), { w with runs := w.runs.set i { run with stage := .crashed } })

def runner : Machine World Act Unit String := ⟨act database tableExists⟩

end Runner

def World.of (db : ClickHouseDatabase) : World := ⟨db, [], []⟩

/-! ## What changes a database -/

section Databases

variable {db db' db'' : ClickHouseDatabase} {object : SchemaObject} {name : String}

/-- The same but for the lock. -/
structure External (db db' : ClickHouseDatabase) : Prop where
  objects : ∀ object : SchemaObject, object.name ≠ migrationLockTable → (object ∈ db.objects ↔ object ∈ db'.objects)
  history : db.history = db'.history

theorem External.rfl' : External db db := ⟨fun _ _ => Iff.rfl, rfl⟩

theorem External.symm (h : External db db') : External db' db :=
  ⟨fun object hname => (h.objects object hname).symm, h.history.symm⟩

theorem External.has (h : External db db') (hname : name ≠ migrationLockTable) (hhas : db.has name) : db'.has name := by
  obtain ⟨object, hobject, rfl⟩ := List.mem_map.mp hhas
  exact List.mem_map_of_mem ((h.objects object hname).mp hobject)

theorem External.trans (h : External db db') (h' : External db' db'') : External db db'' :=
  ⟨fun object hname => (h.objects object hname).trans (h'.objects object hname), h.history.trans h'.history⟩

theorem External.empty (h : External db db') (hempty : EmptyDatabase db') : EmptyDatabase db := by
  intro object hobject
  by_contra hname
  exact hname (hempty object ((h.objects object hname).mp hobject))

theorem External.installed {migrations : List ClickHouseMigration} (h : External db db')
    (hinstalled : InstalledDatabase db' migrations) : InstalledDatabase db migrations := by
  obtain ⟨expected, hexpected, hobjects⟩ := hinstalled.objects
  refine ⟨hinstalled.sequence, ⟨expected, hexpected, fun object hexternal => ?_⟩, ?_, ?_⟩
  · have hname : object.name ≠ migrationLockTable := by
      intro hlock
      rw [hlock] at hexternal
      exact absurd hexternal (by decide)
    exact (h.objects object hname).trans (hobjects object hexternal)
  · exact (h.objects _ (by decide)).mpr hinstalled.table
  · rw [h.history]
    exact hinstalled.history

theorem create_objects (hname : ¬db.has object.name) : (db.create object).objects = db.objects ++ [object] := by
  unfold ClickHouseDatabase.create
  rw [dif_neg hname]

theorem create_history : (db.create object).history = db.history := by
  unfold ClickHouseDatabase.create
  split <;> rfl

theorem create_has : (db.create object).has object.name := by
  by_cases hname : db.has object.name
  · unfold ClickHouseDatabase.create
    rwa [dif_pos hname]
  · unfold ClickHouseDatabase.has
    rw [create_objects hname, List.map_append]
    exact List.mem_append_right _ List.mem_cons_self

theorem has_create (h : db.has name) : (db.create object).has name := by
  by_cases hname : db.has object.name
  · unfold ClickHouseDatabase.create
    rwa [dif_pos hname]
  · unfold ClickHouseDatabase.has
    rw [create_objects hname, List.map_append]
    exact List.mem_append_left _ h

theorem has_createAll {objects : List SchemaObject} (h : db.has name) : (db.createAll objects).has name := by
  induction objects generalizing db with
  | nil => exact h
  | cons object rest ih => exact ih (has_create h)

theorem create_lock (hname : ¬db.has migrationLockTable) : External db (db.create ⟨migrationLockTable, "Memory"⟩) := by
  refine ⟨fun object hobject => ?_, create_history.symm⟩
  rw [create_objects hname, List.mem_append, List.mem_singleton]
  refine ⟨Or.inl, ?_⟩
  rintro (h | rfl)
  · exact h
  · exact absurd rfl hobject

theorem drop_lock : External db (db.drop migrationLockTable) := by
  refine ⟨fun object hobject => ?_, rfl⟩
  rw [ClickHouseDatabase.drop, List.mem_filter]
  exact ⟨fun h => ⟨h, decide_eq_true hobject⟩, And.left⟩

theorem EmptyDatabase.not_history (h : EmptyDatabase db) : ¬db.has migrationsTable := by
  intro htable
  obtain ⟨object, hobject, hname⟩ := List.mem_map.mp htable
  rw [h object hobject] at hname
  exact absurd hname (by decide)

end Databases

/-! ## Where a run stands -/

namespace Stage

def holding : Stage → Bool
  | .readSchemaObjects _ | .readAppliedMigrations _ _ _ | .ensureMigrationsTable | .execute _ _ _ | .insert _ _ _
  | .releaseMigrationLock _ => true
  | _ => false

/-- From the creation of the history table to the status after the loop. -/
def installing : Stage → Bool
  | .readSchemaObjects (some _) | .readAppliedMigrations (some _) _ _ | .ensureMigrationsTable | .execute _ _ _
  | .insert _ _ _ => true
  | _ => false

def succeeded : Stage → Bool
  | .releaseMigrationLock (.ok _) | .returned (.ok _) => true
  | _ => false

theorem holding_of_installing {stage : Stage} (h : stage.installing = true) : stage.holding = true := by
  cases stage <;> first | rfl | cases h

end Stage

/-- What holds of a database, and of what was sent to it, where a run stands. -/
def StageOk (db : ClickHouseDatabase) (executed : List Nat) (migrations : List ClickHouseMigration) : Stage → Prop
  | .readAppliedMigrations _ expected objects =>
    getClickHouseBaselineObjects migrations = .ok expected ∧ objects = db.objects
  | .ensureMigrationsTable => executed = [] ∧ (migrations.map (·.version)).Nodup
  | .execute applied migration rest =>
    executed = applied ∧ db.has migrationsTable ∧ (applied ++ (migration :: rest).map (·.version)).Nodup
  | .insert applied migration rest =>
    executed = applied ++ [migration.version] ∧ db.has migrationsTable ∧
      (applied ++ (migration :: rest).map (·.version)).Nodup
  | .releaseMigrationLock (.ok _) | .returned (.ok _) => InstalledDatabase db migrations
  | _ => True

/-- One statement of a run as a relation. -/
inductive RunMoves (db : ClickHouseDatabase) (migrations : List ClickHouseMigration) :
    Stage → ClickHouseDatabase → Stage → List Nat → Prop
  | healthy : RunMoves db migrations .health db .acquireMigrationLock []
  | refused {stage : Stage} {message : String} : stage.holding = false →
      RunMoves db migrations stage db (.returned (.error message)) []
  | ended {stage : Stage} : stage.holding = false → RunMoves db migrations stage db stage []
  | crashed {stage : Stage} : RunMoves db migrations stage db .crashed []
  | acquired : ¬db.has migrationLockTable →
      RunMoves db migrations .acquireMigrationLock (db.create ⟨migrationLockTable, "Memory"⟩) (.readSchemaObjects none) []
  | unanswered {message : String} : ¬db.has migrationLockTable →
      RunMoves db migrations .acquireMigrationLock (db.create ⟨migrationLockTable, "Memory"⟩) (.returned (.error message)) []
  | read {applied : Option (List Nat)} {expected : List SchemaObject} :
      getClickHouseBaselineObjects migrations = .ok expected →
      RunMoves db migrations (.readSchemaObjects applied) db (.readAppliedMigrations applied expected db.objects) []
  | gaveUp {stage : Stage} {message : String} : stage.holding = true →
      RunMoves db migrations stage db (.releaseMigrationLock (.error message)) []
  | installed {applied : Option (List Nat)} {expected objects : List SchemaObject} {result : ClickHouseMigrationUpResult} :
      (migrationStatus migrations expected objects db.history).installationState = .installed →
      RunMoves db migrations (.readAppliedMigrations applied expected objects) db (.releaseMigrationLock (.ok result)) []
  | empty {expected objects : List SchemaObject} {rows : Option (List HistoryRow)} :
      (migrationStatus migrations expected objects rows).installationState = .empty →
      RunMoves db migrations (.readAppliedMigrations none expected objects) db .ensureMigrationsTable []
  | ensured : ¬db.has migrationsTable →
      RunMoves db migrations .ensureMigrationsTable db.createHistory (installFrom [] migrations) []
  | ensureFailed {message : String} : ¬db.has migrationsTable →
      RunMoves db migrations .ensureMigrationsTable db.createHistory (.releaseMigrationLock (.error message)) []
  | executed {applied : List Nat} {migration : ClickHouseMigration} {rest : List ClickHouseMigration}
      (objects : List SchemaObject) :
      RunMoves db migrations (.execute applied migration rest) (db.createAll objects) (.insert applied migration rest)
        [migration.version]
  | executeFailed {applied : List Nat} {migration : ClickHouseMigration} {rest : List ClickHouseMigration}
      (objects : List SchemaObject) {message : String} :
      RunMoves db migrations (.execute applied migration rest) (db.createAll objects) (.releaseMigrationLock (.error message))
        [migration.version]
  | inserted {applied : List Nat} {migration : ClickHouseMigration} {rest : List ClickHouseMigration} (row : HistoryRow) :
      RunMoves db migrations (.insert applied migration rest) (db.insertHistory row)
        (installFrom (applied ++ [migration.version]) rest) []
  | insertFailed {applied : List Nat} {migration : ClickHouseMigration} {rest : List ClickHouseMigration}
      (row : HistoryRow) {message : String} :
      RunMoves db migrations (.insert applied migration rest) (db.insertHistory row) (.releaseMigrationLock (.error message)) []
  | released {result : Except String ClickHouseMigrationUpResult} :
      RunMoves db migrations (.releaseMigrationLock result) (db.drop migrationLockTable) (.returned result) []
  | releaseFailed {result : Except String ClickHouseMigrationUpResult} {message : String} {dropped : ClickHouseDatabase} :
      External db dropped →
      RunMoves db migrations (.releaseMigrationLock result) dropped (.returned (.error message)) []

theorem proceed_moves {database : String} {tableExists : String → String} {db db' : ClickHouseDatabase}
    {migrations : List ClickHouseMigration} {stage stage' : Stage} {reply : Reply} {now : Nat} {inner : List SchemaObject}
    {sent : List Nat} (h : proceed database tableExists db migrations stage reply now inner = (db', stage', sent)) :
    RunMoves db migrations stage db' stage' sent := by
  unfold proceed at h
  cases stage with
  | health =>
    cases reply with
    | done => cases h; exact .healthy
    | failed message effect => cases h; exact .refused rfl
  | acquireMigrationLock =>
    simp only at h
    by_cases hlock : db.has migrationLockTable
    · rw [if_pos hlock] at h
      cases h
      exact .refused rfl
    · rw [if_neg hlock] at h
      cases reply with
      | done => cases h; exact .acquired hlock
      | failed message effect =>
        cases effect with
        | true => cases h; exact .unanswered hlock
        | false => cases h; exact .refused rfl
  | readSchemaObjects applied =>
    simp only at h
    cases hexpected : getClickHouseBaselineObjects migrations with
    | error message =>
      rw [hexpected] at h
      cases h
      exact .gaveUp rfl
    | ok expected =>
      rw [hexpected] at h
      cases reply with
      | done => cases h; exact .read hexpected
      | failed message effect => cases h; exact .gaveUp rfl
  | readAppliedMigrations applied expected objects =>
    simp only at h
    split at h
    · rename_i hstate
      cases h
      cases reply with
      | done => exact .installed hstate
      | failed message effect => exact absurd hstate status_unreadable
    · rename_i hstate
      cases h
      exact .empty hstate
    · cases h
      exact .gaveUp rfl
  | ensureMigrationsTable =>
    simp only at h
    by_cases htable : db.has migrationsTable
    · rw [if_pos htable] at h
      cases h
      exact .gaveUp rfl
    · rw [if_neg htable] at h
      cases reply with
      | done => cases h; exact .ensured htable
      | failed message effect =>
        cases effect with
        | true => cases h; exact .ensureFailed htable
        | false => cases h; exact .gaveUp rfl
  | execute applied migration rest =>
    simp only at h
    cases hobject : baselineObject migration with
    | error message =>
      rw [hobject] at h
      cases h
      exact .executeFailed []
    | ok created =>
      rw [hobject] at h
      simp only at h
      by_cases hname : db.has created.2.name ∧ created.1.ifNotExists = false
      · rw [if_pos hname] at h
        cases h
        exact .executeFailed []
      · rw [if_neg hname] at h
        cases reply with
        | done => cases h; exact .executed _
        | failed message effect =>
          cases effect with
          | true => cases h; exact .executeFailed _
          | false => cases h; exact .executeFailed []
  | insert applied migration rest =>
    cases reply with
    | done => cases h; exact .inserted _
    | failed message effect =>
      cases effect with
      | true => cases h; exact .insertFailed _
      | false => cases h; exact .gaveUp rfl
  | releaseMigrationLock result =>
    cases reply with
    | done => cases h; exact .released
    | failed message effect =>
      cases effect <;> cases result <;> cases h
      · exact .releaseFailed .rfl'
      · exact .releaseFailed .rfl'
      · exact .releaseFailed drop_lock
      · exact .releaseFailed drop_lock
  | returned result => cases h; exact .ended rfl
  | crashed => cases h; exact .ended rfl

/-! ## One statement -/

section Statement

variable {db db' : ClickHouseDatabase} {migrations : List ClickHouseMigration} {stage stage' : Stage} {sent executed : List Nat}

theorem installFrom_holding (applied : List Nat) (rest : List ClickHouseMigration) :
    (installFrom applied rest).holding = true ∧ (installFrom applied rest).installing = true ∧
      (installFrom applied rest).succeeded = false := by
  cases rest <;> exact ⟨rfl, rfl, rfl⟩

/-- A run holds the lock after a statement only if it held it before, or there was none. -/
theorem RunMoves.acquires (h : RunMoves db migrations stage db' stage' sent) (hholding : stage'.holding = true) :
    stage.holding = true ∨ ¬db.has migrationLockTable := by
  cases h with
  | healthy | refused | crashed | unanswered | released | releaseFailed => cases hholding
  | ended hstage => exact absurd (hholding.symm.trans hstage) (by decide)
  | acquired hlock => exact .inr hlock
  | gaveUp hstage => exact .inl hstage
  | read | installed | empty | ensured | ensureFailed | executed | executeFailed | inserted | insertFailed => exact .inl rfl

theorem has_createHistory {name : String} (h : db.has name) : db.createHistory.has name := has_create h

/-- And then the lock is there. -/
theorem RunMoves.locks (h : RunMoves db migrations stage db' stage' sent)
    (hlocked : stage.holding = true → db.has migrationLockTable) (hholding : stage'.holding = true) :
    db'.has migrationLockTable := by
  cases h with
  | healthy | refused | crashed | unanswered | released | releaseFailed => cases hholding
  | ended => exact hlocked hholding
  | acquired hlock => exact create_has
  | gaveUp hstage => exact hlocked hstage
  | read | installed | empty => exact hlocked rfl
  | ensured | ensureFailed => exact has_createHistory (hlocked rfl)
  | executed | executeFailed => exact has_createAll (hlocked rfl)
  | inserted | insertFailed => exact hlocked rfl

/-- A run without the lock changes nothing, unless it creates the lock. -/
theorem RunMoves.outside (h : RunMoves db migrations stage db' stage' sent) (hholding : stage.holding = false) :
    sent = [] ∧ (db' = db ∨ (¬db.has migrationLockTable ∧ External db db')) := by
  cases h with
  | healthy | refused | ended | crashed => exact ⟨rfl, .inl rfl⟩
  | acquired hlock | unanswered hlock => exact ⟨rfl, .inr ⟨hlock, create_lock hlock⟩⟩
  | gaveUp hstage => exact absurd (hstage.symm.trans hholding) (by decide)
  | read | installed | empty | ensured | ensureFailed | executed | executeFailed | inserted | insertFailed | released
  | releaseFailed => cases hholding

/-- Only a run that installs sends migrations or changes more than the lock. -/
theorem RunMoves.changes (h : RunMoves db migrations stage db' stage' sent) (hinstalling : stage.installing = false) :
    sent = [] ∧ External db db' := by
  cases h with
  | healthy | refused | ended | crashed | read | gaveUp | installed | empty => exact ⟨rfl, .rfl'⟩
  | acquired hlock | unanswered hlock => exact ⟨rfl, create_lock hlock⟩
  | ensured | ensureFailed | executed | executeFailed | inserted | insertFailed => cases hinstalling
  | released => exact ⟨rfl, drop_lock⟩
  | releaseFailed hdropped => exact ⟨rfl, hdropped⟩

/-- An installation goes on, or starts in an empty database. -/
theorem RunMoves.installs (h : RunMoves db migrations stage db' stage' sent)
    (hok : StageOk db executed migrations stage) (hinstalling : stage'.installing = true) :
    stage.installing = true ∨ EmptyDatabase db := by
  cases h with
  | healthy | refused | crashed | unanswered | acquired | gaveUp | installed | ensureFailed | executeFailed | insertFailed
  | released | releaseFailed => cases hinstalling
  | ended => exact .inl hinstalling
  | @read applied =>
    cases applied with
    | none => cases hinstalling
    | some applied => exact .inl rfl
  | empty hstate =>
    obtain ⟨-, hobjects⟩ := hok
    subst hobjects
    exact .inr (status_empty hstate)
  | ensured | executed | inserted => exact .inl rfl

/-- A run that comes through held the lock before. -/
theorem RunMoves.succeeds (h : RunMoves db migrations stage db' stage' sent) (hsucceeded : stage'.succeeded = true) :
    stage'.installing = false ∧ (stage.succeeded = true ∨ stage.holding = true) := by
  cases h with
  | healthy | refused | crashed | unanswered | acquired | read | gaveUp | empty | ensureFailed | executed | executeFailed
  | insertFailed | releaseFailed => cases hsucceeded
  | ended =>
    refine ⟨?_, .inl hsucceeded⟩
    cases stage <;> first | rfl | cases hsucceeded
  | installed => exact ⟨rfl, .inr rfl⟩
  | ensured | inserted => exact absurd (hsucceeded.symm.trans (installFrom_holding _ _).2.2) (by decide)
  | released => exact ⟨rfl, .inr rfl⟩

theorem StageOk.external {executed' : List Nat} (hdb : External db db') (hholding : stage.holding = false)
    (h : StageOk db executed migrations stage) : StageOk db' executed' migrations stage := by
  cases stage with
  | health | acquireMigrationLock | crashed => trivial
  | returned result =>
    cases result with
    | error => trivial
    | ok => exact hdb.symm.installed h
  | readSchemaObjects | readAppliedMigrations | ensureMigrationsTable | execute | insert | releaseMigrationLock =>
    cases hholding

theorem StageOk.idle (hholding : stage.holding = false) (hsucceeded : stage.succeeded = false) :
    StageOk db executed migrations stage := by
  cases stage with
  | health | acquireMigrationLock | crashed => trivial
  | returned result =>
    cases result with
    | error => trivial
    | ok => cases hsucceeded
  | readSchemaObjects | readAppliedMigrations | ensureMigrationsTable | execute | insert | releaseMigrationLock =>
    cases hholding

theorem StageOk.installed (h : StageOk db executed migrations stage) (hsucceeded : stage.succeeded = true) :
    InstalledDatabase db migrations := by
  cases stage with
  | releaseMigrationLock result | returned result =>
    cases result with
    | error => cases hsucceeded
    | ok => exact h
  | health | acquireMigrationLock | crashed | readSchemaObjects | readAppliedMigrations | ensureMigrationsTable | execute
  | insert => cases hsucceeded

theorem baselineObjects_nodup {expected : List SchemaObject} (h : getClickHouseBaselineObjects migrations = .ok expected) :
    (migrations.map (·.version)).Nodup := by
  rw [(assertSequence_ok (baselineObjects_sequence h)).2]
  exact List.nodup_range'

theorem stageOk_installFrom {applied : List Nat} {rest : List ClickHouseMigration} (hexecuted : executed = applied)
    (htable : db.has migrationsTable) (hnodup : (applied ++ rest.map (·.version)).Nodup) :
    StageOk db executed migrations (installFrom applied rest) := by
  cases rest with
  | nil => trivial
  | cons migration rest => exact ⟨hexecuted, htable, hnodup⟩

/-- Where the run then stands holds what it stands for. -/
theorem RunMoves.stageOk (h : RunMoves db migrations stage db' stage' sent) (hok : StageOk db executed migrations stage)
    (htable : executed ≠ [] → db.has migrationsTable) : StageOk db' (executed ++ sent) migrations stage' := by
  cases h with
  | healthy | refused | crashed | unanswered | acquired | gaveUp | ensureFailed | executeFailed | insertFailed | releaseFailed =>
    trivial
  | ended => rwa [List.append_nil]
  | read hexpected => exact ⟨hexpected, rfl⟩
  | installed hstate =>
    obtain ⟨hexpected, hobjects⟩ := hok
    subst hobjects
    exact status_installed hexpected hstate
  | empty hstate =>
    obtain ⟨hexpected, hobjects⟩ := hok
    subst hobjects
    refine ⟨?_, baselineObjects_nodup hexpected⟩
    by_contra hsent
    rw [List.append_nil] at hsent
    exact (status_empty hstate).not_history (htable hsent)
  | ensured =>
    obtain ⟨hexecuted, hnodup⟩ := hok
    rw [List.append_nil]
    exact stageOk_installFrom hexecuted create_has hnodup
  | executed =>
    obtain ⟨hexecuted, hhistory, hnodup⟩ := hok
    exact ⟨by rw [hexecuted], has_createAll hhistory, hnodup⟩
  | inserted =>
    obtain ⟨hexecuted, hhistory, hnodup⟩ := hok
    rw [List.append_nil]
    refine stageOk_installFrom hexecuted hhistory ?_
    rwa [List.append_assoc, List.singleton_append]
  | @released result =>
    cases result with
    | error => trivial
    | ok => exact drop_lock.symm.installed hok

/-- What is sent was not sent before, and the history table is there. -/
theorem RunMoves.sends (h : RunMoves db migrations stage db' stage' sent) (hok : StageOk db executed migrations stage)
    (htable : executed ≠ [] → db.has migrationsTable) (honce : executed.Nodup) :
    (executed ++ sent).Nodup ∧ (executed ++ sent ≠ [] → db'.has migrationsTable) := by
  cases h with
  | executed | executeFailed =>
    obtain ⟨rfl, hhistory, hnodup⟩ := hok
    refine ⟨?_, fun _ => has_createAll hhistory⟩
    rw [List.map_cons, ← List.singleton_append, ← List.append_assoc] at hnodup
    exact (List.nodup_append.mp hnodup).1
  | healthy | refused | ended | crashed | read | gaveUp | installed | empty =>
    rw [List.append_nil]
    exact ⟨honce, htable⟩
  | acquired | unanswered =>
    rw [List.append_nil]
    exact ⟨honce, fun hsent => has_create (htable hsent)⟩
  | ensured | ensureFailed =>
    rw [List.append_nil]
    exact ⟨honce, fun _ => create_has⟩
  | inserted | insertFailed =>
    rw [List.append_nil]
    exact ⟨honce, htable⟩
  | released =>
    rw [List.append_nil]
    exact ⟨honce, fun hsent => drop_lock.has (by decide) (htable hsent)⟩
  | releaseFailed hdropped =>
    rw [List.append_nil]
    exact ⟨honce, fun hsent => hdropped.has (by decide) (htable hsent)⟩

end Statement

/-! ## The invariant -/

structure Inv (initial : ClickHouseDatabase) (w : World) : Prop where
  locked : ∀ {i : Nat} {run : MigrationRun}, w.runs[i]? = some run → run.stage.holding = true → w.db.has migrationLockTable
  alone : ∀ {i j : Nat} {run run' : MigrationRun}, w.runs[i]? = some run → w.runs[j]? = some run' → run.stage.holding = true →
    run'.stage.holding = true → i = j
  stage : ∀ {i : Nat} {run : MigrationRun}, w.runs[i]? = some run → StageOk w.db w.executed run.migrations run.stage
  fresh : ∀ {i : Nat} {run : MigrationRun}, w.runs[i]? = some run → run.stage.installing = true → EmptyDatabase initial
  unfinished : ∀ {i j : Nat} {run run' : MigrationRun}, w.runs[i]? = some run → w.runs[j]? = some run' → run.stage.installing = true →
    run'.stage.succeeded = false
  once : w.executed.Nodup
  table : w.executed ≠ [] → w.db.has migrationsTable
  untouched : ¬EmptyDatabase initial → w.executed = [] ∧ External initial w.db

section Invariant

variable {initial : ClickHouseDatabase} {w : World}

theorem inv_of : Inv initial (.of initial) where
  locked h := by cases h
  alone h := by cases h
  stage h := by cases h
  fresh h := by cases h
  unfinished h := by cases h
  once := List.nodup_nil
  table h := absurd rfl h
  untouched _ := ⟨rfl, .rfl'⟩

/-- A statement of a run, or its crash, beside the other runs. -/
theorem inv_moves {i : Nat} {run : MigrationRun} {db' : ClickHouseDatabase} {stage' : Stage} {sent : List Nat}
    (hinv : Inv initial w) (hrun : w.runs[i]? = some run) (hmoves : RunMoves w.db run.migrations run.stage db' stage' sent) :
    Inv initial ⟨db', w.runs.set i { run with stage := stage' }, w.executed ++ sent⟩ := by
  have hother : ∀ {j : Nat} {other : MigrationRun}, j ≠ i → w.runs[j]? = some other → run.stage.holding = true →
      other.stage.holding = false := by
    intro j other hne hget hholding
    by_contra hnot
    exact hne (hinv.alone hrun hget hholding (by simpa using hnot)).symm
  obtain ⟨honce, htable⟩ := hmoves.sends (hinv.stage hrun) hinv.table hinv.once
  refine ⟨?_, ?_, ?_, ?_, ?_, honce, htable, ?_⟩
  · -- the lock
    intro j other hget hholding
    rcases getElem?_set_cases hget with ⟨-, rfl⟩ | ⟨hne, hgot⟩
    · exact hmoves.locks (hinv.locked hrun) hholding
    · have hlock := hinv.locked hgot hholding
      cases hmine : run.stage.holding with
      | true => exact absurd (hholding.symm.trans (hother hne hgot hmine)) (by decide)
      | false =>
        rcases (hmoves.outside hmine).2 with rfl | ⟨hfree, -⟩
        · exact hlock
        · exact absurd hlock hfree
  · -- one holder
    have hnone : ∀ {j : Nat} {other : MigrationRun}, j ≠ i → w.runs[j]? = some other → other.stage.holding = true →
        stage'.holding = true → False := by
      intro j other hne hget hholding hmine
      rcases hmoves.acquires hmine with hheld | hfree
      · exact absurd (hholding.symm.trans (hother hne hget hheld)) (by decide)
      · exact hfree (hinv.locked hget hholding)
    intro j k first second hfirst hsecond hholding hholding'
    rcases getElem?_set_cases hfirst with ⟨rfl, rfl⟩ | ⟨hj, hone⟩
    · rcases getElem?_set_cases hsecond with ⟨rfl, -⟩ | ⟨hk, htwo⟩
      · rfl
      · exact (hnone hk htwo hholding' hholding).elim
    · rcases getElem?_set_cases hsecond with ⟨rfl, rfl⟩ | ⟨-, htwo⟩
      · exact (hnone hj hone hholding hholding').elim
      · exact hinv.alone hone htwo hholding hholding'
  · -- what holds where a run stands
    intro j other hget
    rcases getElem?_set_cases hget with ⟨-, rfl⟩ | ⟨hne, hgot⟩
    · exact hmoves.stageOk (hinv.stage hrun) hinv.table
    · cases hmine : run.stage.holding with
      | true =>
        have hfree := hother hne hgot hmine
        cases hinstalling : run.stage.installing with
        | true => exact StageOk.idle hfree (hinv.unfinished hrun hgot hinstalling)
        | false => exact (hinv.stage hgot).external (hmoves.changes hinstalling).2 hfree
      | false =>
        obtain ⟨rfl, hdb⟩ := hmoves.outside hmine
        rcases hdb with rfl | ⟨hfree, hdb⟩
        · rw [List.append_nil]
          exact hinv.stage hgot
        · refine (hinv.stage hgot).external hdb ?_
          by_contra hholding
          exact hfree (hinv.locked hgot (by simpa using hholding))
  · -- an installation starts in an empty database
    intro j other hget hinstalling
    rcases getElem?_set_cases hget with ⟨-, rfl⟩ | ⟨-, hgot⟩
    · rcases hmoves.installs (hinv.stage hrun) hinstalling with hmine | hempty
      · exact hinv.fresh hrun hmine
      · by_contra hinitial
        exact hinitial ((hinv.untouched hinitial).2.empty hempty)
    · exact hinv.fresh hgot hinstalling
  · -- no run has come through beside an installation
    intro j k first second hfirst hsecond hinstalling
    rw [Bool.eq_false_iff]
    intro hsucceeded
    rcases getElem?_set_cases hfirst with ⟨rfl, rfl⟩ | ⟨hj, hone⟩
    · rcases getElem?_set_cases hsecond with ⟨-, rfl⟩ | ⟨hk, htwo⟩
      · exact absurd (hinstalling.symm.trans (hmoves.succeeds hsucceeded).1) (by decide)
      · rcases hmoves.installs (hinv.stage hrun) hinstalling with hmine | hempty
        · exact absurd (hsucceeded.symm.trans (hinv.unfinished hrun htwo hmine)) (by decide)
        · exact ((hinv.stage htwo).installed hsucceeded).not_empty hempty
    · rcases getElem?_set_cases hsecond with ⟨rfl, rfl⟩ | ⟨hk, htwo⟩
      · rcases (hmoves.succeeds hsucceeded).2 with hmine | hmine
        · exact absurd (hmine.symm.trans (hinv.unfinished hone hrun hinstalling)) (by decide)
        · exact absurd ((Stage.holding_of_installing hinstalling).symm.trans (hother hj hone hmine)) (by decide)
      · exact absurd (hsucceeded.symm.trans (hinv.unfinished hone htwo hinstalling)) (by decide)
  · -- a database that was not empty
    intro hinitial
    obtain ⟨hnone, hsame⟩ := hinv.untouched hinitial
    have hinstalling : run.stage.installing = false := by
      by_contra hmine
      exact hinitial (hinv.fresh hrun (by simpa using hmine))
    obtain ⟨rfl, hdb⟩ := hmoves.changes hinstalling
    exact ⟨by rw [hnone]; rfl, hsame.trans hdb⟩

theorem inv_start (migrations : List ClickHouseMigration) (hinv : Inv initial w) :
    Inv initial { w with runs := w.runs ++ [⟨migrations, .health⟩] } := by
  refine ⟨?_, ?_, ?_, ?_, ?_, hinv.once, hinv.table, hinv.untouched⟩
  · intro j other hget hholding
    rcases getElem?_snoc_cases hget with hget | rfl
    · exact hinv.locked hget hholding
    · cases hholding
  · intro j k first second hfirst hsecond hholding hholding'
    rcases getElem?_snoc_cases hfirst with hfirst | rfl
    · rcases getElem?_snoc_cases hsecond with hsecond | rfl
      · exact hinv.alone hfirst hsecond hholding hholding'
      · cases hholding'
    · cases hholding
  · intro j other hget
    rcases getElem?_snoc_cases hget with hget | rfl
    · exact hinv.stage hget
    · trivial
  · intro j other hget hinstalling
    rcases getElem?_snoc_cases hget with hget | rfl
    · exact hinv.fresh hget hinstalling
    · cases hinstalling
  · intro j k first second hfirst hsecond hinstalling
    rcases getElem?_snoc_cases hfirst with hfirst | rfl
    · rcases getElem?_snoc_cases hsecond with hsecond | rfl
      · exact hinv.unfinished hfirst hsecond hinstalling
      · rfl
    · cases hinstalling

variable {database : String} {tableExists : String → String}

theorem inv_act {a : Act} {o : Unit} {w' : World} (hinv : Inv initial w) (h : act database tableExists w a = .ok (o, w')) :
    Inv initial w' := by
  cases a with
  | start migrations =>
    cases h
    exact inv_start migrations hinv
  | proceed i reply now inner =>
    cases hrun : w.runs[i]? with
    | none => simp [act, hrun] at h
    | some run =>
      simp only [act, hrun] at h
      generalize hnext : proceed database tableExists w.db run.migrations run.stage reply now inner = next at h
      obtain ⟨db', stage', sent⟩ := next
      cases h
      exact inv_moves hinv hrun (proceed_moves hnext)
  | crash i =>
    cases hrun : w.runs[i]? with
    | none => simp [act, hrun] at h
    | some run =>
      simp only [act, hrun] at h
      cases h
      have hcrashed := inv_moves hinv hrun (@RunMoves.crashed _ _ run.stage)
      rwa [List.append_nil] at hcrashed

theorem inv_run (acts : List Act) : Inv initial ((runner database tableExists).run (.of initial) acts) := by
  refine Machine.run_invariant (P := Inv initial) ?_ acts _ inv_of
  intro w a o w' hinv h
  have hact : act database tableExists w a = .ok (o, w') := h
  exact inv_act hinv hact

end Invariant

/-- In every order of statements and crashes of any runs on a database: no version is sent twice;
    a run comes back only from an installed database, and it stays installed; and where something
    stood at the start, nothing is sent, and no run comes back unless that was the baseline. -/
theorem installation (database : String) (tableExists : String → String) (initial : ClickHouseDatabase)
    (acts : List Act) :
    let w := (runner database tableExists).run (.of initial) acts
    w.executed.Nodup ∧
      (∀ (i : Nat) (run : MigrationRun) (result : ClickHouseMigrationUpResult), w.runs[i]? = some run →
        run.stage = .returned (.ok result) → InstalledDatabase w.db run.migrations) ∧
      (¬EmptyDatabase initial → w.executed = [] ∧
        ∀ (i : Nat) (run : MigrationRun) (result : ClickHouseMigrationUpResult), w.runs[i]? = some run →
          run.stage = .returned (.ok result) → InstalledDatabase initial run.migrations) := by
  intro w
  have hinv : Inv initial w := inv_run acts
  have hinstalled : ∀ (i : Nat) (run : MigrationRun) (result : ClickHouseMigrationUpResult), w.runs[i]? = some run →
      run.stage = .returned (.ok result) → InstalledDatabase w.db run.migrations := by
    intro i run result hrun hstage
    exact (hinv.stage hrun).installed (by rw [hstage]; rfl)
  refine ⟨hinv.once, hinstalled, fun hinitial => ?_⟩
  obtain ⟨hnone, hsame⟩ := hinv.untouched hinitial
  exact ⟨hnone, fun i run result hrun hstage => hsame.installed (hinstalled i run result hrun hstage)⟩

def emptyDatabase : ClickHouseDatabase := ⟨[], List.nodup_nil, none⟩

def viewMigrations : List ClickHouseMigration := [⟨1, "usage", "0001_usage.sql", "c1", "CREATE VIEW usage AS SELECT 1"⟩]

/-- The second run finds the lock; the first installs the view. -/
def twoRuns : List Act :=
  [.start viewMigrations, .start viewMigrations, .proceed 0 .done 0 [], .proceed 0 .done 0 [], .proceed 1 .done 0 [],
    .proceed 1 .done 0 []] ++ List.replicate 8 (.proceed 0 .done 7 [])

theorem two_runs_install : InstalledDatabase ((runner "usage" id).run (.of emptyDatabase) twoRuns).db viewMigrations :=
  (installation "usage" id emptyDatabase twoRuns).2.1 0
    ⟨viewMigrations, .returned (.ok ⟨[1], ⟨true, true, .installed, [], [], [],
      [⟨1, "usage", "c1", some "c1", some 7, 1, .applied⟩]⟩⟩)⟩ _ (by decide +kernel) rfl

end TokenPilot.Analytics
