/-
  TokenPilot.Runtime.Republication — new versions from a stored one:
  `runtime-configuration-restore.service.ts` and `runtime-access-snapshot.service.ts`.

  Both verify the stored snapshot, check that it belongs to the application and to its row,
  give every plan the new version, publication time and fingerprint, and sign. A restore takes
  the source's connections and routing, and settings, properties and access of today; it needs
  every model of the routing to be enabled. An access publication takes everything but access
  from the source.

  What they read of the database is a record; the transaction that stores the result is in
  `Runtime.Versions`.
-/

import TokenPilot.Runtime.PublicationLaws

namespace TokenPilot.Runtime

open Library

/-- A row of the version table, as far as a republication reads it. -/
structure StoredSnapshot where
  etag : String
  signature : String
  snapshotJson : Value

section

variable (digest : Digest) (isHttpUrl : String → Bool)

/-- A plan under a new version. -/
def republishedPlan (applicationId : String) (version : Nat) (now : Int) (plan : RoutingPlan) : RoutingPlan :=
  { plan with
    configurationVersion := version
    configurationEtag := configurationEtag digest applicationId version plan.virtualModelId plan.default plan.rules
    publishedAt := .ofMilliseconds now }

def republishedRouting (applicationId : String) (version : Nat) (now : Int) (routing : List (String × RoutingPlan)) :
    List (String × RoutingPlan) :=
  routing.map fun entry => (entry.1, republishedPlan digest applicationId version now entry.2)

/-- A plan without what a new version changes. -/
def RoutingPlan.unversioned (plan : RoutingPlan) : RoutingPlan :=
  { plan with configurationVersion := 0, configurationEtag := "", publishedAt := .ofMilliseconds 0 }

def unversionedRouting (routing : List (String × RoutingPlan)) : List (String × RoutingPlan) :=
  routing.map fun entry => (entry.1, entry.2.unversioned)

theorem republished_unversioned (applicationId : String) (version : Nat) (now : Int)
    (routing : List (String × RoutingPlan)) :
    unversionedRouting (republishedRouting digest applicationId version now routing) = unversionedRouting routing := by
  unfold unversionedRouting republishedRouting
  rw [List.map_map]
  rfl

/-- The stored snapshot, when it verifies and belongs to its row and application. -/
def verifiedSource (applicationId : String) (row : StoredSnapshot) : Option (Except Unit Snapshot) :=
  match verifyRuntimeSnapshot digest isHttpUrl row.snapshotJson with
  | .error _ => none
  | .ok source =>
    if source.applicationId ≠ applicationId ∨ source.etag ≠ row.etag ∨ source.signature ≠ row.signature then
      some (.error ())
    else some (.ok source)

/-! ## Restore -/

inductive RestoreError where
  | versionInvalid
  | versionNotFound
  | applicationNotFound
  | integrityFailed
  | foreignConfiguration
  | modelUnavailable
  | snapshot
  deriving DecidableEq, Repr

/-- What a restore reads: the rows of its queries and the clock. -/
structure RestoreInput where
  applicationId : String
  slug : String
  sourceVersion : Int
  source : Option StoredSnapshot
  latest : Option Nat
  application : Option Bool
  settings : Option RuntimeSettings
  properties : List String
  audience : RouteAudience
  enabledModels : List String
  now : Int

/-- The models of every target of every route. -/
def routedModels (routing : List (String × RoutingPlan)) : List String :=
  (routing.flatMap fun entry => entry.2.targets.map (·.modelId)).dedup

def restoreBody (input : RestoreInput) (enabled : Bool) (source : Snapshot) : UnsignedSnapshot where
  applicationId := input.applicationId
  version := runtimeVersion input.slug (input.latest.getD 0 + 1)
  expiresAt := snapshotExpiry input.now
  connections := source.connections
  routing := republishedRouting digest input.applicationId (input.latest.getD 0 + 1) input.now source.routing
  aiuEnabled := aiuEnabled input.settings
  aiuMode := aiuMode input.settings
  unratedModelPolicy := .allowUnrated
  access := { applicationEnabled := enabled, blockedUserIds := blockedUserIds input.audience }
  analyticsAllowedKeys := input.properties

def restore (input : RestoreInput) : Except RestoreError Snapshot :=
  if input.sourceVersion < 1 ∨ maxSafeInteger < input.sourceVersion then .error .versionInvalid
  else
    match input.source, input.application with
    | none, _ => .error .versionNotFound
    | some _, none => .error .applicationNotFound
    | some row, some enabled =>
      match verifiedSource digest isHttpUrl input.applicationId row with
      | none => .error .integrityFailed
      | some (.error ()) => .error .foreignConfiguration
      | some (.ok source) =>
        if (routedModels source.routing).all (input.enabledModels.contains ·) then
          match signRuntimeSnapshot digest isHttpUrl (restoreBody digest input enabled source) with
          | some snapshot => .ok snapshot
          | none => .error .snapshot
        else .error .modelUnavailable

/-! ## Access publication -/

inductive AccessError where
  | integrityFailed
  | bindingInvalid
  | applicationUnavailable
  | tooManyBlockedUsers
  | snapshot
  deriving DecidableEq, Repr

structure AccessInput where
  applicationId : String
  current : Option StoredSnapshot
  application : Option (String × Bool)
  latest : Option Nat
  blockedUsers : List String
  now : Int

def accessBody (input : AccessInput) (slug : String) (enabled : Bool) (source : Snapshot) : UnsignedSnapshot where
  applicationId := input.applicationId
  version := runtimeVersion slug (input.latest.getD 0 + 1)
  expiresAt := snapshotExpiry input.now
  connections := source.connections
  routing := republishedRouting digest input.applicationId (input.latest.getD 0 + 1) input.now source.routing
  aiuEnabled := source.aiuEnabled
  aiuMode := source.aiuMode
  unratedModelPolicy := source.unratedModelPolicy
  access := { applicationEnabled := enabled, blockedUserIds := input.blockedUsers }
  analyticsAllowedKeys := source.analyticsAllowedKeys

/-- `publishWithin`, `none` without a published configuration. -/
def publishWithin (input : AccessInput) : Except AccessError (Option Snapshot) :=
  match input.current with
  | none => .ok none
  | some row =>
    match verifiedSource digest isHttpUrl input.applicationId row with
    | none => .error .integrityFailed
    | some (.error ()) => .error .bindingInvalid
    | some (.ok source) =>
      match input.application with
      | none => .error .applicationUnavailable
      | some (slug, enabled) =>
        if 50000 < input.blockedUsers.length then .error .tooManyBlockedUsers
        else
          match signRuntimeSnapshot digest isHttpUrl (accessBody digest input slug enabled source) with
          | some snapshot => .ok (some snapshot)
          | none => .error .snapshot

end

/-! ## What is signed is normal -/

section

variable {digest : Digest} {isHttpUrl : String → Bool}

theorem verifiedSource_normal {applicationId : String} {row : StoredSnapshot} {source : Snapshot}
    (h : verifiedSource digest isHttpUrl applicationId row = some (.ok source)) : source.normal = source := by
  unfold verifiedSource at h
  split at h
  · cases h
  · rename_i parsed hparsed
    split at h
    · cases h
    · cases h
      exact verified_normal hparsed

/-- A normal snapshot is read back as itself. -/
theorem verifiedSource_eq {applicationId : String} {row : StoredSnapshot} {snapshot source : Snapshot}
    (hnormal : snapshot.normal = snapshot) (hrow : row.snapshotJson = snapshot.toJson)
    (h : verifiedSource digest isHttpUrl applicationId row = some (.ok source)) : source = snapshot := by
  unfold verifiedSource at h
  split at h
  · cases h
  · rename_i parsed hverified
    split at h
    · cases h
    · cases h
      rw [hrow] at hverified
      unfold verifyRuntimeSnapshot at hverified
      split at hverified
      · cases hverified
      · rename_i read hread
        split at hverified
        · cases hverified
        · split at hverified
          · cases hverified
          · cases hverified
            exact (runtimeSnapshotSchema_lawful isHttpUrl).faithful hnormal hread

theorem republishedRouting_normal (applicationId : String) (version : Nat) (now : Int) {source : Snapshot}
    (h : source.normal = source) :
    (republishedRouting digest applicationId version now source.routing).map (fun entry => (entry.1, entry.2.normal)) =
      republishedRouting digest applicationId version now source.routing := by
  have hrouting : source.routing.map (fun entry => (entry.1, entry.2.normal)) = source.routing :=
    congrArg (fun s : Snapshot => s.routing) h
  unfold republishedRouting
  rw [List.map_map]
  apply List.map_congr_left
  intro entry hentry
  have hplan : entry.2.normal = entry.2 := by
    have hentries := List.map_inj_left.mp (hrouting.trans (List.map_id _).symm)
    exact congrArg Prod.snd (hentries entry hentry)
  have hrules : entry.2.rules.map RoutingRule.normal = entry.2.rules := congrArg RoutingPlan.rules hplan
  simp only [Function.comp, RoutingPlan.normal, republishedPlan, ofMilliseconds_normal, hrules]

theorem connections_normal {source : Snapshot} (h : source.normal = source) :
    source.connections.map (fun entry => (entry.1, entry.2.normal)) = source.connections :=
  congrArg (fun s : Snapshot => s.connections) h

theorem restoreBody_normal (input : RestoreInput) (enabled : Bool) {source : Snapshot} (h : source.normal = source) :
    (restoreBody digest input enabled source).normal = restoreBody digest input enabled source := by
  have hexpiry : (snapshotExpiry input.now).normal = snapshotExpiry input.now := ofMilliseconds_normal _
  unfold UnsignedSnapshot.normal restoreBody
  dsimp only
  rw [connections_normal h, republishedRouting_normal _ _ _ h, hexpiry]

theorem accessBody_normal (input : AccessInput) (slug : String) (enabled : Bool) {source : Snapshot}
    (h : source.normal = source) :
    (accessBody digest input slug enabled source).normal = accessBody digest input slug enabled source := by
  have hexpiry : (snapshotExpiry input.now).normal = snapshotExpiry input.now := ofMilliseconds_normal _
  unfold UnsignedSnapshot.normal accessBody
  dsimp only
  rw [connections_normal h, republishedRouting_normal _ _ _ h, hexpiry]

/-- What a successful restore read and signed. -/
theorem restore_ok {input : RestoreInput} {snapshot : Snapshot} (h : restore digest isHttpUrl input = .ok snapshot) :
    ∃ row enabled source, input.source = some row ∧ input.application = some enabled ∧
      verifiedSource digest isHttpUrl input.applicationId row = some (.ok source) ∧
      (∀ model ∈ routedModels source.routing, model ∈ input.enabledModels) ∧
      signRuntimeSnapshot digest isHttpUrl (restoreBody digest input enabled source) = some snapshot := by
  unfold restore at h
  split at h
  · cases h
  · split at h
    · cases h
    · cases h
    · rename_i row enabled hrow henabled
      split at h
      · cases h
      · cases h
      · rename_i source hsource
        split at h
        · rename_i hmodels
          split at h
          · rename_i signed hsigned
            cases h
            refine ⟨row, enabled, source, hrow, henabled, hsource, ?_, hsigned⟩
            simpa using hmodels
          · cases h
        · cases h

/-- A restore of a saved version whose models are there signs its body. -/
theorem restore_of {input : RestoreInput} {row : StoredSnapshot} {enabled : Bool} {source snapshot : Snapshot}
    (hversion : 1 ≤ input.sourceVersion ∧ input.sourceVersion ≤ maxSafeInteger) (hrow : input.source = some row)
    (happlication : input.application = some enabled)
    (hsource : verifiedSource digest isHttpUrl input.applicationId row = some (.ok source))
    (hmodels : ∀ model ∈ routedModels source.routing, model ∈ input.enabledModels)
    (hsigned : signRuntimeSnapshot digest isHttpUrl (restoreBody digest input enabled source) = some snapshot) :
    restore digest isHttpUrl input = .ok snapshot := by
  have hall : (routedModels source.routing).all (input.enabledModels.contains ·) = true := by
    rw [List.all_eq_true]
    intro model hmodel
    exact List.contains_iff_mem.mpr (hmodels model hmodel)
  unfold restore
  rw [if_neg (by omega), hrow, happlication]
  dsimp only
  rw [hsource]
  dsimp only
  rw [if_pos hall, hsigned]

theorem publishWithin_ok {input : AccessInput} {snapshot : Snapshot}
    (h : publishWithin digest isHttpUrl input = .ok (some snapshot)) :
    ∃ row slug enabled source, input.current = some row ∧ input.application = some (slug, enabled) ∧
      verifiedSource digest isHttpUrl input.applicationId row = some (.ok source) ∧
      input.blockedUsers.length ≤ 50000 ∧
      signRuntimeSnapshot digest isHttpUrl (accessBody digest input slug enabled source) = some snapshot := by
  unfold publishWithin at h
  split at h
  · cases h
  · rename_i row hrow
    split at h
    · cases h
    · cases h
    · rename_i source hsource
      split at h
      · cases h
      · rename_i slug enabled happlication
        split at h
        · cases h
        · rename_i hfew
          split at h
          · rename_i signed hsigned
            cases h
            exact ⟨row, slug, enabled, source, hrow, happlication, hsource, Nat.not_lt.mp hfew, hsigned⟩
          · cases h

/-- The published version is published again, with the blocked users. -/
theorem publishWithin_of {input : AccessInput} {row : StoredSnapshot} {slug : String} {enabled : Bool}
    {source snapshot : Snapshot} (hrow : input.current = some row) (happlication : input.application = some (slug, enabled))
    (hsource : verifiedSource digest isHttpUrl input.applicationId row = some (.ok source))
    (hblocked : input.blockedUsers.length ≤ 50000)
    (hsigned : signRuntimeSnapshot digest isHttpUrl (accessBody digest input slug enabled source) = some snapshot) :
    publishWithin digest isHttpUrl input = .ok (some snapshot) := by
  unfold publishWithin
  rw [hrow]
  dsimp only
  rw [hsource]
  dsimp only
  rw [happlication]
  dsimp only
  rw [if_neg (by omega), hsigned]

end

end TokenPilot.Runtime
