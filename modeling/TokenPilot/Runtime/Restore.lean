/-
  TokenPilot.Runtime.Restore — a restore on the version table.

  `restoreVersion` reads the saved version, the latest version and the enabled models, builds the
  new snapshot (`restore`) and runs the transaction that retires the published row and creates
  the new one. A publication takes a target when its model and the model's connection are
  enabled (`activeTargets`); a restore looks at the model only. So it reproduces the saved
  routing, and its targets are available exactly when the connections are
  (`restored_available_iff`).
-/

import Mathlib.Data.List.Dedup
import TokenPilot.Runtime.AccessChanges

namespace TokenPilot.Runtime

open Library

/-- The models of an application, each with its connection. -/
structure ModelTable where
  rows : List ModelRow
  unique : (rows.map (·.id)).Nodup

def ModelTable.enabledIds (models : ModelTable) : List String := (models.rows.filter (·.enabled)).map (·.id)

/-- What `activeTargets` asks of a target's model. -/
def ModelTable.Available (models : ModelTable) (modelId : String) : Prop :=
  ∃ model ∈ models.rows, model.id = modelId ∧ model.enabled = true ∧ model.connection.enabled = true

inductive RestoreFailure where
  | refused (error : RestoreError)
  | uniqueViolation
  deriving DecidableEq, Repr

section

variable (digest : Digest) (isHttpUrl : String → Bool)

/-- What a restore reads of the tables. -/
def restoreReads (rows : List VersionRow) (models : ModelTable) (input : RestoreInput) : RestoreInput :=
  { input with
    source := (rows.find? (·.version = input.sourceVersion)).map VersionRow.stored
    latest := some (latestVersion rows)
    enabledModels := models.enabledIds }

/-- `restore`, with the version table it leaves. -/
def restoreVersion (rows : List VersionRow) (models : ModelTable) (input : RestoreInput) :
    Except RestoreFailure Snapshot × List VersionRow :=
  match restore digest isHttpUrl (restoreReads rows models input) with
  | .error error => (.error (.refused error), rows)
  | .ok snapshot =>
    if rows.any fun row => row.version = latestVersion rows + 1 || row.snapshot.etag = snapshot.etag then
      (.error .uniqueViolation, rows)
    else
      (.ok snapshot, rows.map (VersionRow.retire ((publishedRows rows).map (·.version))) ++
        [⟨latestVersion rows + 1, .published, snapshot, .restore⟩])

/-- The new snapshot has the routing and the connections of the saved one, and verifies. -/
structure Reproduces (saved snapshot : Snapshot) : Prop where
  routing : unversionedRouting snapshot.routing = unversionedRouting saved.routing
  connections : snapshot.connections = saved.connections
  verifies : verifyRuntimeSnapshot digest isHttpUrl snapshot.toJson = .ok snapshot

end

def AllAvailable (models : ModelTable) (snapshot : Snapshot) : Prop :=
  ∀ entry ∈ snapshot.routing, ∀ target ∈ entry.2.targets, models.Available target.modelId

variable {digest : Digest} {isHttpUrl : String → Bool}

theorem mem_routedModels {routing : List (String × RoutingPlan)} {model : String} :
    model ∈ routedModels routing ↔ ∃ entry ∈ routing, ∃ target ∈ entry.2.targets, target.modelId = model := by
  unfold routedModels
  rw [List.mem_dedup, List.mem_flatMap]
  simp only [List.mem_map]

/-- The targets do not depend on the version. -/
theorem routedModels_unversioned (routing : List (String × RoutingPlan)) :
    routedModels (unversionedRouting routing) = routedModels routing := by
  unfold routedModels unversionedRouting
  rw [List.flatMap_map]
  rfl

theorem allAvailable_iff (models : ModelTable) (snapshot : Snapshot) :
    AllAvailable models snapshot ↔ ∀ model ∈ routedModels snapshot.routing, models.Available model := by
  constructor
  · intro h model hmodel
    obtain ⟨entry, hentry, target, htarget, rfl⟩ := mem_routedModels.mp hmodel
    exact h entry hentry target htarget
  · intro h entry hentry target htarget
    exact h target.modelId (mem_routedModels.mpr ⟨entry, hentry, target, htarget, rfl⟩)

/-- Of models that are all enabled, what is left of availability is the connection. -/
theorem available_iff {models : ModelTable} {ids : List String} (h : ∀ id ∈ ids, id ∈ models.enabledIds) :
    (∀ id ∈ ids, models.Available id) ↔ ∀ model ∈ models.rows, model.id ∈ ids → model.connection.enabled = true := by
  constructor
  · intro hall model hmodel hid
    obtain ⟨other, hother, heq, -, hconnection⟩ := hall model.id hid
    have hsame : other = model := List.inj_on_of_nodup_map models.unique hother hmodel heq
    exact hsame ▸ hconnection
  · intro hall id hid
    obtain ⟨model, hmodel, rfl⟩ := List.mem_map.mp (h id hid)
    obtain ⟨hmem, henabled⟩ := List.mem_filter.mp hmodel
    exact ⟨model, hmem, rfl, henabled, hall model hmem hid⟩

theorem restoreVersion_ok {rows rows' : List VersionRow} {models : ModelTable} {input : RestoreInput}
    {snapshot : Snapshot} (h : restoreVersion digest isHttpUrl rows models input = (.ok snapshot, rows')) :
    restore digest isHttpUrl (restoreReads rows models input) = .ok snapshot := by
  unfold restoreVersion at h
  split at h
  · cases h
  · rename_i signed hsigned
    split at h
    · cases h
    · cases h
      exact hsigned

theorem restoreVersion_of {rows : List VersionRow} {models : ModelTable} {input : RestoreInput} {snapshot : Snapshot}
    (h : restore digest isHttpUrl (restoreReads rows models input) = .ok snapshot)
    (hfresh : (rows.any fun row => row.version = latestVersion rows + 1 || row.snapshot.etag = snapshot.etag) = false) :
    restoreVersion digest isHttpUrl rows models input =
      (.ok snapshot, rows.map (VersionRow.retire ((publishedRows rows).map (·.version))) ++
        [⟨latestVersion rows + 1, .published, snapshot, .restore⟩]) := by
  unfold restoreVersion
  rw [h]
  dsimp only
  rw [if_neg (by rw [hfresh]; simp)]

theorem restoreVersion_error {rows rows' : List VersionRow} {models : ModelTable} {input : RestoreInput}
    {failure : RestoreFailure} (h : restoreVersion digest isHttpUrl rows models input = (.error failure, rows')) :
    rows' = rows := by
  unfold restoreVersion at h
  split at h
  · cases h
    rfl
  · split at h
    · cases h
      rfl
    · cases h

/-- The saved snapshot a successful restore started from. -/
theorem restore_source {rows : List VersionRow} {models : ModelTable} {input : RestoreInput} {snapshot : Snapshot}
    (h : restore digest isHttpUrl (restoreReads rows models input) = .ok snapshot) :
    ∃ row ∈ rows, row.version = input.sourceVersion ∧
      ∃ saved, verifyRuntimeSnapshot digest isHttpUrl row.stored.snapshotJson = .ok saved ∧
        Reproduces digest isHttpUrl saved snapshot ∧
        routedModels snapshot.routing = routedModels saved.routing ∧
        ∀ model ∈ routedModels saved.routing, model ∈ models.enabledIds := by
  obtain ⟨stored, enabled, saved, hstored, -, hsource, hmodels, hsigned⟩ := restore_ok h
  obtain ⟨row, hrow, rfl⟩ := Option.map_eq_some_iff.mp hstored
  have hnormal : (restoreBody digest (restoreReads rows models input) enabled saved).normal =
      restoreBody digest (restoreReads rows models input) enabled saved :=
    restoreBody_normal _ enabled (verifiedSource_normal hsource)
  have heq := signed_eq hnormal hsigned
  have hrouting : unversionedRouting snapshot.routing = unversionedRouting saved.routing := by
    rw [heq]
    exact republished_unversioned digest _ _ _ _
  have hverified : verifyRuntimeSnapshot digest isHttpUrl row.stored.snapshotJson = .ok saved := by
    unfold verifiedSource at hsource
    split at hsource
    · cases hsource
    · rename_i parsed hparsed
      split at hsource
      · cases hsource
      · cases hsource
        exact hparsed
  refine ⟨row, List.mem_of_find?_eq_some hrow, by simpa using List.find?_some hrow, saved, hverified, ?_, ?_, hmodels⟩
  · refine ⟨hrouting, ?_, sign_verifies hnormal hsigned _ rfl⟩
    rw [heq]
    rfl
  · rw [← routedModels_unversioned, hrouting, routedModels_unversioned]

/-- Over every version table, every table of models and every other input: a restore that fails
    leaves the versions alone, one that succeeds reproduces the saved version, and its targets are
    available exactly when every model of the saved routing has its connection enabled. -/
theorem restored_available_iff (digest : Digest) (isHttpUrl : String → Bool) (rows : List VersionRow)
    (models : ModelTable) (input : RestoreInput) :
    (∀ failure rows', restoreVersion digest isHttpUrl rows models input = (.error failure, rows') → rows' = rows) ∧
      ∀ snapshot rows', restoreVersion digest isHttpUrl rows models input = (.ok snapshot, rows') →
        ∃ row ∈ rows, row.version = input.sourceVersion ∧
          ∃ saved, verifyRuntimeSnapshot digest isHttpUrl row.stored.snapshotJson = .ok saved ∧
            Reproduces digest isHttpUrl saved snapshot ∧
            (AllAvailable models snapshot ↔
              ∀ model ∈ models.rows, model.id ∈ routedModels saved.routing → model.connection.enabled = true) := by
  refine ⟨fun failure rows' h => restoreVersion_error h, ?_⟩
  intro snapshot rows' h
  obtain ⟨row, hrow, hversion, saved, hsaved, hreproduces, hmodels, henabled⟩ := restore_source (restoreVersion_ok h)
  refine ⟨row, hrow, hversion, saved, hsaved, hreproduces, ?_⟩
  rw [allAvailable_iff, hmodels]
  exact available_iff henabled

/-! ## A restore onto a disabled connection -/

def restoreInput : RestoreInput where
  applicationId := assistantInput.application.id
  slug := assistantInput.application.slug
  sourceVersion := 1
  source := none
  latest := none
  application := some true
  settings := none
  properties := ["plan"]
  audience := { users := [], groups := [] }
  enabledModels := []
  now := 0

/-- The model of `assistantInput`, with its connection as it is now. -/
def modelsWith (connected : Bool) : ModelTable where
  rows := [{ smallModel with connection := { gatewayRow with enabled := connected } }]
  unique := by simp

/-- What the restore reads of the published version. -/
def sampleReads (first : Snapshot) : RestoreInput :=
  { restoreInput with
    source := some ⟨first.etag, first.signature, first.toJson⟩, latest := some 1, enabledModels := [smallModel.id] }

/-- The restore does not look at the connection. -/
theorem sample_restored (connected : Bool) : ∃ first snapshot rows,
    buildRuntimePublication versionsDigest gatewayUrl assistantInput = .ok first ∧
      restoreVersion versionsDigest gatewayUrl [⟨1, .published, first, .publish⟩] (modelsWith connected) restoreInput =
        (.ok snapshot, rows) := by
  obtain ⟨first, -, -, hbuilt, -⟩ := sample_versions
  have hetag : first.etag = "sha256:247c768e05de00a79471fb906b95ade09a3ee6b2004ed47ba3a20db7ed300c6f" := by
    have hfirst := first_version
    rw [hbuilt] at hfirst
    exact Option.some.inj hfirst
  have hfirst := Except.ok.inj (hbuilt.symm.trans (assistantInput_signed versionsDigest_hex))
  have hbody : restoreBody versionsDigest (sampleReads first) true first =
      assistantBody (assistantEtag versionsDigest 2) 2 [] := by
    rw [hfirst]
    rfl
  have hsign : signRuntimeSnapshot versionsDigest gatewayUrl (restoreBody versionsDigest (sampleReads first) true first) =
      some (stamped versionsDigest (assistantBody (assistantEtag versionsDigest 2) 2 [])) := by
    rw [hbody]
    exact assistant_signed versionsDigest_hex (versionsDigest_hex _) ⟨by decide, by decide⟩ (version_facts).versions.1 first_access
  have hnew : (stamped versionsDigest (assistantBody (assistantEtag versionsDigest 2) 2 [])).etag =
      "sha256:" ++ "14cff70797e37bcd09d18537fcd6419fe91efe793d0850606a56f955cc66f136" :=
    version_etag (version_facts).restored
  have hrouted : routedModels first.routing = [smallModel.id] := by
    rw [hfirst]
    rfl
  generalize stamped versionsDigest (assistantBody (assistantEtag versionsDigest 2) 2 []) = snapshot at hsign hnew
  have hrestore : restore versionsDigest gatewayUrl (sampleReads first) = .ok snapshot := by
    refine restore_of (of_decide_eq_true rfl) rfl rfl (verifiedSource_published hbuilt) ?_ hsign
    intro model hmodel
    rw [hrouted] at hmodel
    exact hmodel
  have hreads : restoreReads [⟨1, .published, first, .publish⟩] (modelsWith connected) restoreInput = sampleReads first := rfl
  have hfresh : ([⟨1, .published, first, .publish⟩] : List VersionRow).any
      (fun row => row.version = latestVersion [⟨1, .published, first, .publish⟩] + 1 || row.snapshot.etag = snapshot.etag) =
        false := by
    rw [show latestVersion [⟨1, .published, first, .publish⟩] = 1 from rfl]
    simp [hetag, hnew]
  exact ⟨first, snapshot, _, hbuilt, restoreVersion_of (hreads ▸ hrestore) hfresh⟩

theorem restored_unavailable :
    ¬ ∀ (digest : Digest) (isHttpUrl : String → Bool) (rows : List VersionRow) (models : ModelTable)
      (input : RestoreInput),
      (∀ failure rows', restoreVersion digest isHttpUrl rows models input = (.error failure, rows') → rows' = rows) ∧
        ∀ snapshot rows', restoreVersion digest isHttpUrl rows models input = (.ok snapshot, rows') →
          ∃ row ∈ rows, row.version = input.sourceVersion ∧
            ∃ saved, verifyRuntimeSnapshot digest isHttpUrl row.stored.snapshotJson = .ok saved ∧
              Reproduces digest isHttpUrl saved snapshot ∧ AllAvailable models snapshot := by
  intro hall
  obtain ⟨first, snapshot, rows, hbuilt, hrestored⟩ := sample_restored false
  obtain ⟨row, hrow, -, saved, hsaved, hreproduces, havailable⟩ := (hall _ _ _ _ _).2 _ _ hrestored
  cases List.mem_singleton.mp hrow
  -- what was saved is the published snapshot, which has a target
  obtain ⟨routing, hrouting, -, -, hsigned⟩ := buildRuntimePublication_ok hbuilt
  have hfirst : saved = first := by
    have hverified := sign_verifies (publicationBody_normal hrouting) hsigned first.toJson rfl
    exact Except.ok.inj (hsaved.symm.trans hverified)
  have hmem : assistantRow ∈ assistantInput.virtualModels := by simp [assistantInput]
  obtain ⟨plan, hplan, -⟩ := published_lookup hbuilt hmem
  obtain ⟨before, after, hsplit, -⟩ := List.lookup_eq_some_iff.mp hplan
  obtain ⟨target, targets, htargets⟩ := List.exists_cons_of_ne_nil (published_plan_valid hbuilt hplan).default.filled
  have hrouted : target.modelId ∈ routedModels snapshot.routing := by
    rw [← routedModels_unversioned, hreproduces.routing, routedModels_unversioned, hfirst, mem_routedModels]
    refine ⟨(assistantRow.name, plan), by simp [hsplit], target, ?_, rfl⟩
    simp [RoutingPlan.targets, htargets]
  obtain ⟨model, hmodel, -, -, hconnection⟩ := (allAvailable_iff _ _).mp havailable _ hrouted
  rw [List.mem_singleton.mp hmodel] at hconnection
  cases hconnection

theorem restored_available : ∃ first snapshot rows,
    restoreVersion versionsDigest gatewayUrl [⟨1, .published, first, .publish⟩] (modelsWith true) restoreInput =
      (.ok snapshot, rows) ∧ AllAvailable (modelsWith true) snapshot := by
  obtain ⟨first, snapshot, rows, -, hrestored⟩ := sample_restored true
  obtain ⟨row, -, -, saved, -, -, havailable⟩ := (restored_available_iff _ _ _ _ _).2 _ _ hrestored
  refine ⟨first, snapshot, rows, hrestored, havailable.mpr ?_⟩
  intro model hmodel _
  rw [List.mem_singleton.mp hmodel]

end TokenPilot.Runtime
