/-
  TokenPilot.Analytics.Baseline — the migrations of the ClickHouse baseline and the state of a
  database (`clickhouse/src/migration/discovery.ts`, `history.ts`).

  A migration is one statement that creates one object; the versions count from one
  (`assertClickHouseMigrationSequence`). A database is the objects `system.tables` lists, under
  distinct names, and the rows of the history table. `getClickHouseMigrationStatus` compares the
  two and calls the database installed, empty or neither: `status_installed` and `status_empty`
  say what it then holds.

  The digest is a parameter. Left out: paths, execution times, and in the report what only its
  text uses.
-/

import Mathlib.Data.List.Infix
import Mathlib.Data.List.Lex
import Mathlib.Data.List.Sort
import TokenPilot.Library.Machine
import TokenPilot.Runtime.Texts

namespace TokenPilot.Analytics

open TokenPilot.Library
open TokenPilot.Runtime (isDigit isLower isUpper jsSpace jsTrim)

/-! ## Migrations -/

structure ClickHouseMigration where
  version : Nat
  name : String
  fileName : String
  checksum : String
  sql : String
  deriving DecidableEq, Repr

/-- An object of `system.tables`, or one the baseline creates. -/
structure SchemaObject where
  name : String
  engine : String
  deriving DecidableEq, Repr

def migrationsTable : String := "clickhouse_schema_migrations"

def migrationLockTable : String := "__clickhouse_schema_migration_lock"

/-- The first version that is not its place, and what stands there. -/
def assertSequenceFrom : Nat → List ClickHouseMigration → Except String Unit
  | _, [] => .ok ()
  | index, migration :: rest =>
    if migration.version = index + 1 then assertSequenceFrom (index + 1) rest
    else if 0 < index ∧ migration.version = index then
      .error s!"Duplicate ClickHouse migration version {migration.version}"
    else .error s!"Missing ClickHouse migration version {index + 1}; discovered {migration.version}"

def assertClickHouseMigrationSequence (migrations : List ClickHouseMigration) : Except String Unit :=
  if migrations = [] then .error "ClickHouse current baseline contains no SQL statements"
  else assertSequenceFrom 0 migrations

/-! ## Statements -/

def lineTerminator (c : Char) : Bool := c = '\n' || c = '\r' || c = '\u2028' || c = '\u2029'

/-- The text without the lines that are comments. -/
def withoutComments (sql : List Char) : List Char :=
  let lines := sql.splitOnP lineTerminator
  ['\n'].intercalate (lines.filter fun line => !"--".toList.isPrefixOf (line.dropWhile jsSpace))

def executableStatement (sql fileName : String) : Except String String :=
  let text := (jsTrim (String.ofList (withoutComments sql.toList))).toList
  let statement := if text.getLast? = some ';' then (jsTrim (String.ofList text.dropLast)).toList else text
  if statement = [] ∨ ';' ∈ statement then
    .error ("ClickHouse baseline file must contain exactly one SQL statement: " ++ fileName)
  else .ok (String.ofList statement)

/-- `\s+` -/
def spaces : List Char → Option (List Char)
  | [] => none
  | c :: rest => if jsSpace c then some (rest.dropWhile jsSpace) else none

/-- The two letters that fold to an ASCII one are `ſ` and the Kelvin sign. -/
def foldCase (c : Char) : Char := if c = 'ſ' then 's' else if c = '\u212A' then 'k' else c.toLower

/-- A word in either case. -/
def keyword (word : String) (t : List Char) : Option (List Char) :=
  if (t.take word.length).map foldCase = word.toList then some (t.drop word.length) else none

/-- `\w` -/
def wordChar (c : Char) : Bool := isLower c || isUpper c || isDigit c || c = '_'

/-- `([a-z][a-z0-9_]*)(?=\s|\()` in either case. -/
def objectName (t : List Char) : Option String :=
  let name := t.takeWhile (wordChar ∘ foldCase)
  let rest := t.dropWhile (wordChar ∘ foldCase)
  if (name.head?.any (isLower ∘ foldCase)) && (rest.head?.any fun c => jsSpace c || c = '(') then
    some (String.ofList name)
  else none

inductive ObjectKind where
  | table
  | materializedView
  | view
  deriving DecidableEq, Repr

/-- What a statement creates; `ifNotExists` when it then leaves an object of the name alone. -/
structure CreateStatement where
  kind : ObjectKind
  ifNotExists : Bool
  name : String
  deriving DecidableEq, Repr

def createKind (t : List Char) : Option (ObjectKind × List Char) :=
  let table := (keyword "table" t).map fun rest => (ObjectKind.table, rest)
  let materializedView := (((keyword "materialized" t).bind spaces).bind (keyword "view")).map fun rest =>
    (ObjectKind.materializedView, rest)
  let view := (keyword "view" t).map fun rest => (ObjectKind.view, rest)
  (table.or materializedView).or view

/-- `/^CREATE\s+(TABLE|MATERIALIZED\s+VIEW|VIEW)\s+(?:IF\s+NOT\s+EXISTS\s+)?(name)/iu` -/
def createStatement (statement : String) : Option CreateStatement := do
  let (kind, t) ← createKind (← spaces (← keyword "create" statement.toList))
  let t ← spaces t
  let guarded := ((((keyword "if" t).bind spaces).bind fun t => (keyword "not" t).bind spaces).bind fun t =>
    (keyword "exists" t).bind spaces).bind objectName
  (guarded.map (⟨kind, true, ·⟩)).or ((objectName t).map (⟨kind, false, ·⟩))

/-- `/\bENGINE\s*=\s*([A-Za-z][A-Za-z0-9]*)\b/u`, after a character of a word or not. -/
def tableEngine (afterWord : Bool) : List Char → Option String
  | [] => none
  | c :: t =>
    let found :=
      if !afterWord && "ENGINE".toList.isPrefixOf (c :: t) then
        match (t.drop 5).dropWhile jsSpace with
        | '=' :: rest =>
          let value := rest.dropWhile jsSpace
          let engine := value.takeWhile fun c => isLower c || isUpper c || isDigit c
          if (engine.head?.any fun c => !isDigit c) && !((value.drop engine.length).head?.any wordChar) then
            some (String.ofList engine)
          else none
        | _ => none
      else none
    found.or (tableEngine (wordChar c) t)

/-- The object that a migration creates. -/
def baselineObject (migration : ClickHouseMigration) : Except String (CreateStatement × SchemaObject) := do
  let statement ← executableStatement migration.sql migration.fileName
  match createStatement statement with
  | none => .error ("ClickHouse baseline file must create one unqualified table or view: " ++ migration.fileName)
  | some create =>
    match create.kind with
    | .view => .ok (create, ⟨create.name, "View"⟩)
    | .materializedView => .ok (create, ⟨create.name, "MaterializedView"⟩)
    | .table =>
      match tableEngine false statement.toList with
      | none => .error ("ClickHouse baseline table must declare a literal engine: " ++ migration.fileName)
      | some engine => .ok (create, ⟨create.name, engine⟩)

/-- The objects in order; `names` are those created before. -/
def baselineObjectsFrom (names : List String) : List ClickHouseMigration → Except String (List SchemaObject)
  | [] => .ok []
  | migration :: rest => do
    let (create, object) ← baselineObject migration
    if create.name ∈ names then
      .error ("ClickHouse current baseline creates object more than once: " ++ create.name)
    else return object :: (← baselineObjectsFrom (create.name :: names) rest)

def getClickHouseBaselineObjects (migrations : List ClickHouseMigration) : Except String (List SchemaObject) := do
  assertClickHouseMigrationSequence migrations
  baselineObjectsFrom [] migrations

/-! ## Databases -/

structure HistoryRow where
  version : Nat
  name : String
  checksum : String
  appliedAt : Nat
  deriving DecidableEq, Repr

/-- `history` is what the history table holds, and `none` where its columns cannot be read. -/
structure ClickHouseDatabase where
  objects : List SchemaObject
  names_nodup : (objects.map (·.name)).Nodup
  history : Option (List HistoryRow)
  deriving DecidableEq

def ClickHouseDatabase.has (db : ClickHouseDatabase) (name : String) : Prop := name ∈ db.objects.map (·.name)

instance (db : ClickHouseDatabase) (name : String) : Decidable (db.has name) :=
  inferInstanceAs (Decidable (name ∈ db.objects.map (·.name)))

/-- The row the history query gives for a version. -/
structure AppliedMigration where
  version : Nat
  name : String
  checksum : String
  appliedAt : Nat
  applicationCount : Nat
  deriving DecidableEq, Repr

/-- `argMax(_, applied_at)` and `count()` of the rows of one version. -/
def latestRow (first : HistoryRow) (rows : List HistoryRow) : HistoryRow :=
  rows.foldl (fun latest row => if latest.appliedAt < row.appliedAt then row else latest) first

/-- `GROUP BY version ORDER BY version` -/
def readAppliedMigrations (rows : List HistoryRow) : List AppliedMigration :=
  ((rows.map (·.version)).eraseDups.insertionSort (· ≤ ·)).filterMap fun version =>
    match rows.filter (·.version = version) with
    | [] => none
    | first :: rest =>
      let latest := latestRow first rest
      some ⟨version, latest.name, latest.checksum, latest.appliedAt, (first :: rest).length⟩

inductive ClickHouseMigrationState where
  | pending
  | applied
  | checksumMismatch
  | duplicateRecord
  | orphaned
  deriving DecidableEq, Repr

structure ClickHouseMigrationStatus where
  version : Nat
  name : String
  checksum : String
  appliedChecksum : Option String
  appliedAt : Option Nat
  applicationCount : Nat
  state : ClickHouseMigrationState
  deriving DecidableEq, Repr

inductive InstallationState where
  | empty
  | installed
  | partialOrConflicting
  deriving DecidableEq, Repr

structure ObjectConflict where
  name : String
  expectedEngine : String
  actualEngine : String
  deriving DecidableEq, Repr

structure ClickHouseMigrationStatusReport where
  migrationTableExists : Bool
  migrationTableReadable : Bool
  installationState : InstallationState
  missingObjects : List String
  unexpectedObjects : List String
  conflictingObjects : List ObjectConflict
  migrations : List ClickHouseMigrationStatus
  deriving DecidableEq, Repr

def localStatus (applied : List AppliedMigration) (migration : ClickHouseMigration) : ClickHouseMigrationStatus :=
  let record := applied.find? (·.version = migration.version)
  { version := migration.version
    name := migration.name
    checksum := migration.checksum
    appliedChecksum := record.map (·.checksum)
    appliedAt := record.map (·.appliedAt)
    applicationCount := (record.map (·.applicationCount)).getD 0
    state :=
      match record with
      | none => .pending
      | some record =>
        if record.applicationCount ≠ 1 then .duplicateRecord
        else if record.name ≠ migration.name ∨ record.checksum ≠ migration.checksum then .checksumMismatch
        else .applied }

def orphanStatus (record : AppliedMigration) : ClickHouseMigrationStatus where
  version := record.version
  name := record.name
  checksum := record.checksum
  appliedChecksum := some record.checksum
  appliedAt := some record.appliedAt
  applicationCount := record.applicationCount
  state := .orphaned

def migrationStatuses (localMigrations : List ClickHouseMigration) (applied : List AppliedMigration) :
    List ClickHouseMigrationStatus :=
  (localMigrations.map (localStatus applied) ++
    (applied.filter fun record => record.version ∉ localMigrations.map (·.version)).map orphanStatus).insertionSort
    fun a b => a.version ≤ b.version

def engineOf (objects : List SchemaObject) (name : String) : Option String :=
  (objects.find? (·.name = name)).map (·.engine)

def internalTable (name : String) : Bool := name = migrationsTable || name = migrationLockTable

def sortNames (names : List String) : List String := names.insertionSort fun a b => Text.units a ≤ Text.units b

/-- The objects of the baseline that stand under another engine, and the history table if it does. -/
def conflicts (expected objects : List SchemaObject) : List ObjectConflict :=
  let history := if (engineOf objects migrationsTable).isSome then [SchemaObject.mk migrationsTable "MergeTree"] else []
  (expected ++ history).filterMap fun object =>
    match engineOf objects object.name with
    | some engine => if engine ≠ object.engine then some ⟨object.name, object.engine, engine⟩ else none
    | none => none

/-- `getClickHouseMigrationStatus`, of what it has read: the objects, then the rows of the
    history table, if that could be read. -/
def migrationStatus (localMigrations : List ClickHouseMigration) (expected objects : List SchemaObject)
    (rows : Option (List HistoryRow)) : ClickHouseMigrationStatusReport :=
  let migrationTableExists := (engineOf objects migrationsTable).isSome
  let readable := if engineOf objects migrationsTable = some "MergeTree" then rows else none
  let statuses := migrationStatuses localMigrations ((readable.map readAppliedMigrations).getD [])
  let missing := (expected.filter fun object => (engineOf objects object.name).isNone).map (·.name)
  let unexpected := (objects.filter fun object =>
    !internalTable object.name && (engineOf expected object.name).isNone).map (·.name)
  let conflicting := conflicts expected objects
  let empty := !migrationTableExists && (objects.filter fun object => !internalTable object.name).isEmpty
  let installed := migrationTableExists && readable.isSome && statuses.length = localMigrations.length &&
    statuses.all (·.state = .applied) && missing.isEmpty && unexpected.isEmpty && conflicting.isEmpty
  { migrationTableExists
    migrationTableReadable := readable.isSome
    installationState := if installed then .installed else if empty then .empty else .partialOrConflicting
    missingObjects := sortNames missing
    unexpectedObjects := sortNames unexpected
    conflictingObjects := conflicting
    migrations := statuses }

/-! ## What a database holds -/

/-- Nothing but, at most, the lock. -/
def EmptyDatabase (db : ClickHouseDatabase) : Prop := ∀ object ∈ db.objects, object.name = migrationLockTable

def HistoryRow.key (row : HistoryRow) : Nat × String × String := (row.version, row.name, row.checksum)

def ClickHouseMigration.key (migration : ClickHouseMigration) : Nat × String × String :=
  (migration.version, migration.name, migration.checksum)

/-- Beside the tables of the runner exactly the objects of the baseline, and in the order of the
    versions one row of the history for each. -/
structure InstalledDatabase (db : ClickHouseDatabase) (migrations : List ClickHouseMigration) : Prop where
  sequence : migrations.map (·.version) = List.range' 1 migrations.length
  objects : ∃ expected, getClickHouseBaselineObjects migrations = .ok expected ∧
    ∀ object : SchemaObject, internalTable object.name = false → (object ∈ db.objects ↔ object ∈ expected)
  table : ⟨migrationsTable, "MergeTree"⟩ ∈ db.objects
  history : ∃ rows, db.history = some rows ∧
    (rows.insertionSort fun a b => a.version ≤ b.version).map HistoryRow.key = migrations.map ClickHouseMigration.key

theorem InstalledDatabase.not_empty {db : ClickHouseDatabase} {migrations : List ClickHouseMigration}
    (h : InstalledDatabase db migrations) : ¬EmptyDatabase db := by
  intro hempty
  exact absurd (hempty _ h.table) (by decide)

theorem assertSequenceFrom_ok {index : Nat} {migrations : List ClickHouseMigration}
    (h : assertSequenceFrom index migrations = .ok ()) :
    migrations.map (·.version) = List.range' (index + 1) migrations.length := by
  induction migrations generalizing index with
  | nil => rfl
  | cons migration rest ih =>
    unfold assertSequenceFrom at h
    by_cases hversion : migration.version = index + 1
    · rw [if_pos hversion] at h
      rw [List.map_cons, ih h, hversion, List.length_cons, List.range'_succ]
    · rw [if_neg hversion] at h
      split at h <;> cases h

theorem assertSequence_ok {migrations : List ClickHouseMigration}
    (h : assertClickHouseMigrationSequence migrations = .ok ()) :
    migrations ≠ [] ∧ migrations.map (·.version) = List.range' 1 migrations.length := by
  unfold assertClickHouseMigrationSequence at h
  by_cases hnil : migrations = []
  · rw [if_pos hnil] at h
    cases h
  · rw [if_neg hnil] at h
    exact ⟨hnil, assertSequenceFrom_ok h⟩

theorem baselineObjects_sequence {migrations : List ClickHouseMigration} {expected : List SchemaObject}
    (h : getClickHouseBaselineObjects migrations = .ok expected) :
    assertClickHouseMigrationSequence migrations = .ok () := by
  obtain ⟨u, hsequence, -⟩ := bind_ok h
  exact hsequence

/-! ## Objects -/

section Objects

variable {objects : List SchemaObject} {name engine : String}

theorem engineOf_mem (h : engineOf objects name = some engine) : ⟨name, engine⟩ ∈ objects := by
  obtain ⟨object, hfind, rfl⟩ := Option.map_eq_some_iff.mp h
  have hname : object.name = name := by simpa using List.find?_some hfind
  rw [← hname]
  exact List.mem_of_find?_eq_some hfind

theorem engineOf_of_mem {object : SchemaObject} (hnodup : (objects.map (·.name)).Nodup) (h : object ∈ objects) :
    engineOf objects object.name = some object.engine := by
  induction objects with
  | nil => cases h
  | cons first rest ih =>
    rw [List.map_cons, List.nodup_cons] at hnodup
    by_cases hname : first.name = object.name
    · rcases List.mem_cons.mp h with rfl | hrest
      · simp [engineOf]
      · exact absurd (hname ▸ List.mem_map_of_mem hrest) hnodup.1
    · have hrest : object ∈ rest := by
        rcases List.mem_cons.mp h with rfl | hrest
        · exact absurd rfl hname
        · exact hrest
      rw [← ih hnodup.2 hrest, engineOf, engineOf, List.find?_cons_of_neg (by simpa using hname)]

end Objects

/-! ## The history -/

section History

variable {rows : List HistoryRow} {record : AppliedMigration}

theorem mem_readApplied (h : record ∈ readAppliedMigrations rows) :
    ∃ first rest, rows.filter (·.version = record.version) = first :: rest ∧
      record.applicationCount = (first :: rest).length ∧ record.name = (latestRow first rest).name ∧
      record.checksum = (latestRow first rest).checksum := by
  obtain ⟨version, -, hgroup⟩ := List.mem_filterMap.mp h
  cases hrows : rows.filter (·.version = version) with
  | nil =>
    rw [hrows] at hgroup
    cases hgroup
  | cons first rest =>
    rw [hrows] at hgroup
    cases hgroup
    exact ⟨first, rest, hrows, rfl, rfl, rfl⟩

theorem readApplied_covers {row : HistoryRow} (h : row ∈ rows) :
    ∃ record ∈ readAppliedMigrations rows, record.version = row.version := by
  have hversion : row.version ∈ (rows.map (·.version)).eraseDups.insertionSort (· ≤ ·) := by
    rw [List.mem_insertionSort, List.mem_eraseDups]
    exact List.mem_map_of_mem h
  cases hrows : rows.filter (·.version = row.version) with
  | nil =>
    have hmem : row ∈ rows.filter (·.version = row.version) := List.mem_filter.mpr ⟨h, decide_eq_true rfl⟩
    rw [hrows] at hmem
    cases hmem
  | cons first rest =>
    refine ⟨⟨row.version, (latestRow first rest).name, (latestRow first rest).checksum, (latestRow first rest).appliedAt,
      (first :: rest).length⟩, List.mem_filterMap.mpr ⟨row.version, hversion, ?_⟩, rfl⟩
    rw [hrows]

/-- A version that was applied once has one row, and the record is that row. -/
theorem applied_once (h : record ∈ readAppliedMigrations rows) (hcount : record.applicationCount = 1) :
    ∃ row, rows.filter (·.version = record.version) = [row] ∧ record.name = row.name ∧ record.checksum = row.checksum := by
  obtain ⟨first, rest, hrows, hlength, hname, hchecksum⟩ := mem_readApplied h
  have hrest : rest = [] := by
    rw [hcount, List.length_cons] at hlength
    exact List.eq_nil_of_length_eq_zero (by omega)
  subst hrest
  exact ⟨first, hrows, hname, hchecksum⟩

theorem localStatus_applied {applied : List AppliedMigration} {migration : ClickHouseMigration}
    (h : (localStatus applied migration).state = .applied) :
    ∃ record ∈ applied, record.version = migration.version ∧ record.applicationCount = 1 ∧
      record.name = migration.name ∧ record.checksum = migration.checksum := by
  unfold localStatus at h
  simp only at h
  cases hfind : applied.find? (·.version = migration.version) with
  | none =>
    rw [hfind] at h
    cases h
  | some record =>
    rw [hfind] at h
    simp only at h
    by_cases hcount : record.applicationCount ≠ 1
    · rw [if_pos hcount] at h
      cases h
    · rw [if_neg hcount] at h
      by_cases hkey : record.name ≠ migration.name ∨ record.checksum ≠ migration.checksum
      · rw [if_pos hkey] at h
        cases h
      · obtain ⟨hname, hchecksum⟩ := not_or.mp hkey
        exact ⟨record, List.mem_of_find?_eq_some hfind, by simpa using List.find?_some hfind, not_not.mp hcount,
          not_not.mp hname, not_not.mp hchecksum⟩

/-- Two lists that agree in one respect, which settles another, agree in that one too. -/
theorem map_eq_of_map_eq {α β γ δ : Type} {l : List α} {l' : List β} {f : α → γ} {g : β → γ} {p : α → δ} {q : β → δ}
    (h : l.map f = l'.map g) (hkey : ∀ a ∈ l, ∀ b ∈ l', f a = g b → p a = q b) : l.map p = l'.map q := by
  induction l generalizing l' with
  | nil =>
    cases l' with
    | nil => rfl
    | cons b l' => cases h
  | cons a l ih =>
    cases l' with
    | nil => cases h
    | cons b l' =>
      obtain ⟨hhead, htail⟩ := List.cons.inj h
      rw [List.map_cons, List.map_cons, hkey a (by simp) b (by simp) hhead,
        ih htail fun x hx y hy => hkey x (by simp [hx]) y (by simp [hy])]

variable {migrations : List ClickHouseMigration}

/-- A history in which every status is applied, and none is beside those of the migrations, has
    one row for each of them. -/
theorem history_exact (hsequence : migrations.map (·.version) = List.range' 1 migrations.length)
    (hlength : (migrationStatuses migrations (readAppliedMigrations rows)).length = migrations.length)
    (hall : (migrationStatuses migrations (readAppliedMigrations rows)).all (·.state = .applied) = true) :
    (rows.insertionSort fun a b => a.version ≤ b.version).map HistoryRow.key = migrations.map ClickHouseMigration.key := by
  have hnone : (readAppliedMigrations rows).filter (fun record => record.version ∉ migrations.map (·.version)) = [] := by
    rw [migrationStatuses, List.length_insertionSort, List.length_append, List.length_map, List.length_map] at hlength
    exact List.eq_nil_of_length_eq_zero (by omega)
  have hlocal : ∀ row ∈ rows, row.version ∈ migrations.map (·.version) := by
    intro row hrow
    obtain ⟨record, hrecord, hversion⟩ := readApplied_covers hrow
    by_contra hnot
    have hmem : record ∈ (readAppliedMigrations rows).filter (fun record => record.version ∉ migrations.map (·.version)) :=
      List.mem_filter.mpr ⟨hrecord, decide_eq_true (hversion ▸ hnot)⟩
    rw [hnone] at hmem
    cases hmem
  have hone : ∀ migration ∈ migrations, ∃ row, rows.filter (·.version = migration.version) = [row] ∧
      row.key = migration.key := by
    intro migration hmigration
    have happlied : (localStatus (readAppliedMigrations rows) migration).state = .applied := by
      have hmem : localStatus (readAppliedMigrations rows) migration ∈ migrationStatuses migrations (readAppliedMigrations rows) := by
        rw [migrationStatuses, List.mem_insertionSort]
        exact List.mem_append_left _ (List.mem_map_of_mem hmigration)
      simpa using List.all_eq_true.mp hall _ hmem
    obtain ⟨record, hrecord, hversion, hcount, hname, hchecksum⟩ := localStatus_applied happlied
    obtain ⟨row, hrow, hrowName, hrowChecksum⟩ := applied_once hrecord hcount
    have hrowVersion : row.version = record.version := by
      have hmem : row ∈ rows.filter (·.version = record.version) := by rw [hrow]; simp
      simpa using (List.mem_filter.mp hmem).2
    refine ⟨row, hversion ▸ hrow, ?_⟩
    rw [HistoryRow.key, ClickHouseMigration.key, hrowVersion, hversion, ← hrowName, hname, ← hrowChecksum, hchecksum]
  have hnodup : (rows.map (·.version)).Nodup := by
    rw [List.nodup_iff_count_le_one]
    intro version
    by_cases hmem : version ∈ rows.map (·.version)
    · obtain ⟨row, hrow, rfl⟩ := List.mem_map.mp hmem
      obtain ⟨migration, hmigration, hversion⟩ := List.mem_map.mp (hlocal row hrow)
      obtain ⟨single, hsingle, -⟩ := hone migration hmigration
      rw [List.count_eq_length_filter, List.filter_map, List.length_map]
      have hfilter : rows.filter ((fun x => x == row.version) ∘ fun r => r.version) = [single] := by
        rw [← hsingle, hversion]
        exact List.filter_congr fun r _ => beq_eq_decide r.version row.version
      rw [hfilter]
      rfl
    · rw [List.count_eq_zero.mpr hmem]
      exact Nat.zero_le 1
  have hperm : (rows.insertionSort fun a b => a.version ≤ b.version).Perm rows := List.perm_insertionSort _ _
  have hversions : (rows.insertionSort fun a b => a.version ≤ b.version).map (·.version) = migrations.map (·.version) := by
    have htotal : Std.Total fun a b : HistoryRow => a.version ≤ b.version := ⟨fun a b => Nat.le_total a.version b.version⟩
    have htrans : IsTrans HistoryRow fun a b => a.version ≤ b.version := ⟨fun _ _ _ => Nat.le_trans⟩
    have hsorted : ((rows.insertionSort fun a b => a.version ≤ b.version).map (·.version)).Pairwise (· ≤ ·) :=
      List.pairwise_map.mpr (List.pairwise_insertionSort _ _)
    have hsortedLocal : (migrations.map (·.version)).Pairwise (· ≤ ·) := by
      rw [hsequence]
      exact (List.pairwise_lt_range' 1).imp Nat.le_of_lt
    have hsame : (rows.map (·.version)).Perm (migrations.map (·.version)) := by
      refine (List.perm_ext_iff_of_nodup hnodup ?_).mpr fun version => ⟨?_, ?_⟩
      · rw [hsequence]
        exact List.nodup_range'
      · intro hmem
        obtain ⟨row, hrow, rfl⟩ := List.mem_map.mp hmem
        exact hlocal row hrow
      · intro hmem
        obtain ⟨migration, hmigration, rfl⟩ := List.mem_map.mp hmem
        obtain ⟨row, hrow, -⟩ := hone migration hmigration
        have hrowMem : row ∈ rows.filter (·.version = migration.version) := by rw [hrow]; simp
        obtain ⟨hrows, hversion⟩ := List.mem_filter.mp hrowMem
        exact List.mem_map.mpr ⟨row, hrows, by simpa using hversion⟩
    exact ((hperm.map (·.version)).trans hsame).eq_of_pairwise' hsorted hsortedLocal
  refine map_eq_of_map_eq hversions fun row hrow migration hmigration hversion => ?_
  obtain ⟨single, hsingle, hkey⟩ := hone migration hmigration
  have hmem : row ∈ rows.filter (·.version = migration.version) :=
    List.mem_filter.mpr ⟨hperm.mem_iff.mp hrow, by simpa using hversion⟩
  rw [hsingle, List.mem_singleton] at hmem
  rw [hmem, hkey]

end History

/-! ## What a status says -/

section Status

variable {db : ClickHouseDatabase} {migrations : List ClickHouseMigration} {expected : List SchemaObject}

theorem conflicts_nil {objects : List SchemaObject} (h : conflicts expected objects = []) {object : SchemaObject}
    (hobject : object ∈ expected) {engine : String} (hengine : engineOf objects object.name = some engine) :
    engine = object.engine := by
  by_contra hne
  have hmem : ObjectConflict.mk object.name object.engine engine ∈ conflicts expected objects := by
    refine List.mem_filterMap.mpr ⟨object, List.mem_append_left _ hobject, ?_⟩
    simp only [hengine, if_pos hne]
  rw [h] at hmem
  cases hmem

theorem state_empty {installed empty : Bool} (h : (if installed then InstallationState.installed else if empty then .empty
    else .partialOrConflicting) = .empty) : empty = true := by
  cases installed with
  | true => cases h
  | false =>
    cases empty with
    | true => rfl
    | false => cases h

theorem state_installed {installed empty : Bool} (h : (if installed then InstallationState.installed
    else if empty then .empty else .partialOrConflicting) = .installed) : installed = true := by
  cases installed with
  | true => rfl
  | false => cases empty <;> cases h

theorem status_empty {rows : Option (List HistoryRow)}
    (h : (migrationStatus migrations expected db.objects rows).installationState = .empty) : EmptyDatabase db := by
  have hempty := state_empty h
  rw [Bool.and_eq_true, Bool.not_eq_true', List.isEmpty_iff, List.filter_eq_nil_iff] at hempty
  obtain ⟨htable, hinternal⟩ := hempty
  intro object hobject
  have hname : internalTable object.name = true := by simpa using hinternal object hobject
  rcases Bool.or_eq_true_iff.mp hname with hhistory | hlock
  · have hsome := engineOf_of_mem db.names_nodup hobject
    rw [of_decide_eq_true hhistory] at hsome
    rw [hsome] at htable
    cases htable
  · exact of_decide_eq_true hlock

theorem status_unreadable {objects : List SchemaObject} :
    (migrationStatus migrations expected objects none).installationState ≠ .installed := by
  intro h
  have hinstalled := state_installed h
  simp only [Bool.and_eq_true] at hinstalled
  have hreadable := hinstalled.1.1.1.1.1.2
  split at hreadable <;> cases hreadable

theorem status_installed (hexpected : getClickHouseBaselineObjects migrations = .ok expected)
    (h : (migrationStatus migrations expected db.objects db.history).installationState = .installed) :
    InstalledDatabase db migrations := by
  have hsequence := (assertSequence_ok (baselineObjects_sequence hexpected)).2
  have hinstalled := state_installed h
  simp only [Bool.and_eq_true, decide_eq_true_eq, List.isEmpty_iff] at hinstalled
  obtain ⟨⟨⟨⟨⟨⟨-, hreadable⟩, hlength⟩, hall⟩, hmissing⟩, hunexpected⟩, hconflicts⟩ := hinstalled
  have hengine : engineOf db.objects migrationsTable = some "MergeTree" := by
    by_contra hne
    rw [if_neg hne] at hreadable
    cases hreadable
  rw [if_pos hengine] at hreadable hlength hall
  obtain ⟨rows, hrows⟩ := Option.isSome_iff_exists.mp hreadable
  rw [hrows, Option.map_some, Option.getD_some] at hlength hall
  refine ⟨hsequence, ⟨expected, hexpected, fun object hexternal => ⟨fun hobject => ?_, fun hobject => ?_⟩⟩,
    engineOf_mem hengine, rows, hrows, history_exact hsequence hlength hall⟩
  · -- an object that is there is expected, under the same engine
    have hsome : (engineOf expected object.name).isNone = false := by
      by_contra hnone
      have hmem : object ∈ db.objects.filter fun object =>
          !internalTable object.name && (engineOf expected object.name).isNone :=
        List.mem_filter.mpr ⟨hobject, by simpa [hexternal] using hnone⟩
      rw [List.map_eq_nil_iff.mp hunexpected] at hmem
      cases hmem
    obtain ⟨engine, hfound⟩ := Option.isSome_iff_exists.mp (by rw [← Option.not_isNone, hsome]; rfl)
    have hmem := engineOf_mem hfound
    have hactual := engineOf_of_mem db.names_nodup hobject
    have hsame : object.engine = engine := conflicts_nil hconflicts hmem hactual
    rwa [← hsame] at hmem
  · -- one that is expected is there, under the same engine
    have hsome : (engineOf db.objects object.name).isNone = false := by
      by_contra hnone
      have hmem : object ∈ expected.filter fun object => (engineOf db.objects object.name).isNone :=
        List.mem_filter.mpr ⟨hobject, by simpa using hnone⟩
      rw [List.map_eq_nil_iff.mp hmissing] at hmem
      cases hmem
    obtain ⟨engine, hfound⟩ := Option.isSome_iff_exists.mp (by rw [← Option.not_isNone, hsome]; rfl)
    have hsame : engine = object.engine := conflicts_nil hconflicts hobject hfound
    have hmem := engineOf_mem hfound
    rwa [hsame] at hmem

end Status

end TokenPilot.Analytics
