/-
  TokenPilot.Runtime.Identity — the canonical form identifies a snapshot.

  On JSON values the canonical form forgets the order of keys and nothing else. On the
  snapshots that the three writers sign, the fingerprint taken before parsing is the one taken
  after it, so what they store verifies from its JSON text, as itself.
-/

import TokenPilot.Runtime.Acceptance
import TokenPilot.Runtime.Republication

namespace TokenPilot.Runtime

open Library

/-- Strings are those of JavaScript, with unpaired surrogates. The writers' results are
    accepted from every value that has their JSON text. -/
theorem canonical_identifies (digest : Digest) (isHttpUrl : String → Bool) :
    (∀ a b : Json Units Decimal, a.Distinct → b.Distinct → (canonical a = canonical b ↔ Json.KeyOrder a b)) ∧
      (∀ input snapshot, buildRuntimePublication digest isHttpUrl input = .ok snapshot →
        Reverified digest isHttpUrl snapshot) ∧
      (∀ input snapshot, restore digest isHttpUrl input = .ok snapshot → Reverified digest isHttpUrl snapshot) ∧
      ∀ input snapshot, publishWithin digest isHttpUrl input = .ok (some snapshot) →
        Reverified digest isHttpUrl snapshot := by
  refine ⟨fun a b ha _ => canonical_iff ha b, ?_, ?_, ?_⟩
  · intro input snapshot h
    obtain ⟨routing, hrouting, -, -, hsigned⟩ := buildRuntimePublication_ok h
    exact sign_verifies (publicationBody_normal hrouting) hsigned
  · intro input snapshot h
    obtain ⟨row, enabled, source, -, -, hsource, -, hsigned⟩ := restore_ok h
    exact sign_verifies (restoreBody_normal input enabled (verifiedSource_normal hsource)) hsigned
  · intro input snapshot h
    obtain ⟨row, slug, enabled, source, -, -, hsource, -, hsigned⟩ := publishWithin_ok h
    exact sign_verifies (accessBody_normal input slug enabled (verifiedSource_normal hsource)) hsigned

/-- A publication is the stamped body of its routing. -/
theorem published_stamped {digest : Digest} {isHttpUrl : String → Bool} {input : PublicationInput} {snapshot : Snapshot}
    (h : buildRuntimePublication digest isHttpUrl input = .ok snapshot) :
    ∃ routing, buildRouting digest input input.virtualModels = .ok (routing, []) ∧
      snapshot = stamped digest (publicationBody isHttpUrl input routing) := by
  obtain ⟨routing, hrouting, -, -, hsigned⟩ := buildRuntimePublication_ok h
  exact ⟨routing, hrouting, signed_eq (publicationBody_normal hrouting) hsigned⟩

/-- What a publication stores is its own source. -/
theorem verifiedSource_published {digest : Digest} {isHttpUrl : String → Bool} {input : PublicationInput}
    {snapshot : Snapshot} (h : buildRuntimePublication digest isHttpUrl input = .ok snapshot) :
    verifiedSource digest isHttpUrl input.application.id ⟨snapshot.etag, snapshot.signature, snapshot.toJson⟩ =
      some (.ok snapshot) := by
  have hverified := (canonical_identifies digest isHttpUrl).2.1 input snapshot h snapshot.toJson rfl
  obtain ⟨routing, -, rfl⟩ := published_stamped h
  unfold verifiedSource
  rw [hverified]
  dsimp only
  exact if_neg (by simp [stamped, publicationBody])

/-! ## A publication -/

def gatewayRow : ConnectionRow where
  id := "5f3b6c1a-8d2e-4b7f-9a10-1c2d3e4f5061"
  name := "gateway"
  driver := .litellm
  baseUrl := some "https://gateway.example"
  credentialRef := some "env:GATEWAY_KEY"
  publicConfigJson := .obj []
  enabled := true

def smallModel : ModelRow where
  id := "0b7f2c1e-5a3d-4c8e-9f10-2d3c4b5a6978"
  name := "small"
  requestModel := "small"
  provider := "provider"
  taskType := .chat
  capabilitiesJson := .arr [.str "streaming"]
  enabled := true
  connection := gatewayRow

def assistantRow : VirtualModelRow where
  id := "3a1e4d52-7c6b-4f80-8e91-a2b3c4d5e6f7"
  name := "assistant"
  displayName := "Assistant"
  taskType := .chat
  timezone := "UTC"
  defaultModelId := some smallModel.id
  targets := [{ id := "d0c1b2a3-9485-4776-8695-0123456789ab", model := smallModel, weight := .ofInt 1, enabled := true }]
  rules := []
  ranked := .nil
  models_unique := by decide
  targets_unique := by decide
  rules_unique := by decide

def assistantInput : PublicationInput where
  application := { id := "7b0d9f6e-3c7a-4f0e-9d55-0a3f3d0c2b11", slug := "demo", enabled := true }
  settings := none
  properties := ["plan"]
  connections := [gatewayRow]
  virtualModels := [assistantRow]
  audience := { users := [], groups := [] }
  version := 1
  now := 0
  names_unique := by decide
  connections_unique := by decide

def gatewayUrl (s : String) : Bool := s = "https://gateway.example"

/-- The plan of `assistantRow`, under its fingerprint. -/
def assistantPlan (etag : String) (version : Nat) : RoutingPlan where
  virtualModelId := "3a1e4d52-7c6b-4f80-8e91-a2b3c4d5e6f7"
  configurationVersion := version
  configurationEtag := etag
  publishedAt := .ofMilliseconds 0
  timezone := "UTC"
  default :=
    { routeTag := "cp:virtual:assistant:default"
      selectionMode := .ordered
      targets :=
        [ { modelId := "0b7f2c1e-5a3d-4c8e-9f10-2d3c4b5a6978", connectionId := "5f3b6c1a-8d2e-4b7f-9a10-1c2d3e4f5061"
            requestModel := "small", provider := "provider", taskType := .chat, capabilities := [.streaming]
            routeTag := "cp:virtual:assistant:default", fallbackOrder := 0, weight := .ofInt 1 } ] }
  rules := []

def gatewayConnection : Connection where
  id := "5f3b6c1a-8d2e-4b7f-9a10-1c2d3e4f5061"
  name := "gateway"
  driver := .litellm
  baseUrl := some "https://gateway.example"
  credentialRef := some "env:GATEWAY_KEY"
  timeoutMs := 60000
  maxRetries := 2
  apiVersion := none

/-- What a version of `assistantInput` signs. -/
def assistantBody (etag : String) (version : Nat) (blocked : List String) : UnsignedSnapshot where
  applicationId := "7b0d9f6e-3c7a-4f0e-9d55-0a3f3d0c2b11"
  version := runtimeVersion "demo" version
  expiresAt := snapshotExpiry 0
  connections := [("5f3b6c1a-8d2e-4b7f-9a10-1c2d3e4f5061", gatewayConnection)]
  routing := [("assistant", assistantPlan etag version)]
  aiuEnabled := false
  aiuMode := .disabled
  unratedModelPolicy := .allowUnrated
  access := { applicationEnabled := true, blockedUserIds := blocked }
  analyticsAllowedKeys := ["plan"]

def assistantEtag (digest : Digest) (version : Nat) : String :=
  configurationEtag digest "7b0d9f6e-3c7a-4f0e-9d55-0a3f3d0c2b11" version "3a1e4d52-7c6b-4f80-8e91-a2b3c4d5e6f7"
    (assistantPlan "" version).default []

theorem assistant_routing (digest : Digest) (audience : RouteAudience) (version : Nat) :
    buildRouting digest { assistantInput with audience, version } assistantInput.virtualModels =
      .ok ([("assistant", assistantPlan (assistantEtag digest version) version)], []) := rfl

/-- The texts that a version of `assistantInput` hashes: its configuration and itself. -/
def configurationText (version : Nat) : List Char :=
  canonical (.obj
    [ ("application_id", .str "7b0d9f6e-3c7a-4f0e-9d55-0a3f3d0c2b11"), ("version", integer version),
      ("virtual_model_id", .str "3a1e4d52-7c6b-4f80-8e91-a2b3c4d5e6f7"),
      ("default", (assistantPlan "" version).default.toJson), ("rules", .arr []) ])

/-- The hex digests of the three texts that the publication of `assistantInput` hashes. -/
def assistantDigest : Digest := fun text =>
  if text.length = 506 then "08e869ed479b39be687e118cd883e2bb9d44336b4249e80b327b64ac951e7f19"
  else if text.length = 138 then "c99d16c17e7f466a338cfab9244278d5b130b05439196c6170c2055659f39a18"
  else "247c768e05de00a79471fb906b95ade09a3ee6b2004ed47ba3a20db7ed300c6f"

/-- What is evaluated of `assistantInput`: its texts, its connection, and what its first version hashes. -/
structure AssistantFacts : Prop where
  application : uuidPattern "7b0d9f6e-3c7a-4f0e-9d55-0a3f3d0c2b11" = true
  connection : opaqueIdPattern "5f3b6c1a-8d2e-4b7f-9a10-1c2d3e4f5061" = true
  virtualModel : opaqueIdPattern "3a1e4d52-7c6b-4f80-8e91-a2b3c4d5e6f7" = true
  model : opaqueIdPattern "0b7f2c1e-5a3d-4c8e-9f10-2d3c4b5a6978" = true
  name : virtualModelName "assistant" = true
  timezone : bounded 1 128 "UTC" = true
  requestModel : bounded 1 256 "small" = true
  provider : bounded 1 120 "provider" = true
  key : dimensionKeyPattern "plan" = true
  tag : jsLength "cp:virtual:assistant:default" ≤ 200 ∧ routeTagPattern "cp:virtual:assistant:default" = true
  read : runtimeConnection gatewayUrl gatewayRow = some gatewayConnection
  gateway : (runtimeCallConnectionSchema gatewayUrl gatewayConnection.toJson).isSome = true
  normal : gatewayConnection.normal = gatewayConnection
  published : Accepts utcTimestampSchema (.str (isoString 0))
  expiry : Accepts utcTimestampSchema (.str (snapshotExpiry 0).text)
  version : opaqueIdPattern (runtimeVersion "demo" 1) = true
  digits : isHexDigest "08e869ed479b39be687e118cd883e2bb9d44336b4249e80b327b64ac951e7f19" = true ∧
    isHexDigest "c99d16c17e7f466a338cfab9244278d5b130b05439196c6170c2055659f39a18" = true ∧
    isHexDigest "247c768e05de00a79471fb906b95ade09a3ee6b2004ed47ba3a20db7ed300c6f" = true
  configuration : (configurationText 1).length = 506
  body : 506 < (canonical (assistantBody
    ("sha256:" ++ "08e869ed479b39be687e118cd883e2bb9d44336b4249e80b327b64ac951e7f19") 1 []).toJson).length

theorem assistant_facts : AssistantFacts where
  application := by decide +kernel
  connection := by decide +kernel
  virtualModel := by decide +kernel
  model := by decide +kernel
  name := by decide +kernel
  timezone := by decide +kernel
  requestModel := by decide +kernel
  provider := by decide +kernel
  key := by decide +kernel
  tag := by decide +kernel
  read := by decide +kernel
  gateway := by decide +kernel
  normal := by decide +kernel
  published := by
    unfold Accepts
    decide +kernel
  expiry := by
    unfold Accepts
    decide +kernel
  version := by decide +kernel
  digits := by decide +kernel
  configuration := by
    rw [configurationText, ← canonical_chars]
    decide +kernel
  body := by
    rw [← canonical_chars]
    decide +kernel

theorem gateway_built : buildConnections gatewayUrl [gatewayRow] =
    ([("5f3b6c1a-8d2e-4b7f-9a10-1c2d3e4f5061", gatewayConnection)], []) := by
  unfold buildConnections
  rw [(assistant_facts).read]
  rfl

theorem assistant_body (audience : RouteAudience) (version : Nat) (etag : String) :
    publicationBody gatewayUrl { assistantInput with audience, version } [("assistant", assistantPlan etag version)] =
      assistantBody etag version (blockedUserIds audience) := by
  unfold publicationBody
  rw [show (buildConnections gatewayUrl assistantInput.connections).1 = _ from congrArg Prod.fst gateway_built]
  rfl

theorem assistantPlan_accepted {etag : String} {version : Nat} (hetag : sha256FingerprintPattern etag = true)
    (hversion : 1 ≤ version ∧ version ≤ maxSafeInteger.toNat) : (assistantPlan etag version).Accepted := by
  have hfacts := assistant_facts
  have htarget : ∀ target ∈ (assistantPlan etag version).default.targets, target.Accepted := by
    intro target htarget
    rw [List.mem_singleton.mp htarget]
    exact ⟨hfacts.model, hfacts.connection, hfacts.requestModel, hfacts.provider, ⟨by simp, by simp⟩, hfacts.tag, Nat.zero_le _,
      by norm_num⟩
  have hdefault : (assistantPlan etag version).default.Accepted :=
    ⟨hfacts.tag, ⟨le_rfl, of_decide_eq_true rfl⟩, by simp [assistantPlan], by simp [assistantPlan], rfl, htarget⟩
  exact ⟨hfacts.virtualModel, hversion, hetag, hfacts.published, hfacts.timezone, hdefault, fun rule hrule => absurd hrule List.not_mem_nil,
    Nat.zero_le _, .nil⟩

theorem assistantBody_normal (etag : String) (version : Nat) (blocked : List String) :
    (assistantBody etag version blocked).normal = assistantBody etag version blocked := by
  have hexpiry : (snapshotExpiry 0).normal = snapshotExpiry 0 := ofMilliseconds_normal _
  have hpublished : (UtcTime.ofMilliseconds 0).normal = .ofMilliseconds 0 := ofMilliseconds_normal _
  simp only [UnsignedSnapshot.normal, assistantBody, RoutingPlan.normal, assistantPlan, List.map_cons, List.map_nil,
    (assistant_facts).normal, hexpiry, hpublished]

/-- A version is signed whatever its fingerprints are. -/
theorem assistant_signed {digest : Digest} (hdigest : HexDigest digest) {etag : String} {version : Nat}
    {blocked : List String} (hetag : sha256FingerprintPattern etag = true)
    (hversion : 1 ≤ version ∧ version ≤ maxSafeInteger.toNat) (htext : opaqueIdPattern (runtimeVersion "demo" version) = true)
    (hblocked : ({ applicationEnabled := true, blockedUserIds := blocked } : Access).Accepted) :
    signRuntimeSnapshot digest gatewayUrl (assistantBody etag version blocked) =
      some (stamped digest (assistantBody etag version blocked)) := by
  have hfacts := assistant_facts
  have haccepted : (stamped digest (assistantBody etag version blocked)).Accepted gatewayUrl := by
    refine ⟨hfacts.application, htext, hdigest _, hdigest _, hfacts.expiry, ?_, ?_, hblocked, ?_, ?_⟩
    · intro entry hentry
      rw [List.mem_singleton.mp hentry]
      exact ⟨hfacts.connection, hfacts.gateway⟩
    · intro entry hentry
      rw [List.mem_singleton.mp hentry]
      exact ⟨hfacts.name, assistantPlan_accepted hetag hversion⟩
    · refine ⟨fun key hmem => ?_, of_decide_eq_true rfl, by simp [stamped, assistantBody]⟩
      rw [List.mem_singleton.mp hmem]
      exact hfacts.key
    · simp [Snapshot.normal, stamped, UnsignedSnapshot.normal, assistantBody, UnsignedSnapshot.consistent, Connection.normal,
        gatewayConnection, RoutingPlan.normal, assistantPlan, RoutingPlan.targets]
  obtain ⟨snapshot, hsigned⟩ := Option.isSome_iff_exists.mp ((runtimeSnapshotSchema_accepts gatewayUrl _).mpr haccepted)
  rw [signRuntimeSnapshot, hsigned, signed_eq (assistantBody_normal etag version blocked) hsigned]

/-- The published version, with the fingerprint of its configuration. -/
theorem assistant_published {digest : Digest} (hdigest : HexDigest digest) {audience : RouteAudience} {version : Nat}
    (hversion : 1 ≤ version ∧ version ≤ maxSafeInteger.toNat) (htext : opaqueIdPattern (runtimeVersion "demo" version) = true)
    (hblocked : ({ applicationEnabled := true, blockedUserIds := blockedUserIds audience } : Access).Accepted) :
    buildRuntimePublication digest gatewayUrl { assistantInput with audience, version } =
      .ok (stamped digest (assistantBody (assistantEtag digest version) version (blockedUserIds audience))) := by
  refine buildRuntimePublication_of (assistant_routing digest audience version) ?_ (congrArg Prod.snd gateway_built) ?_
  · exact List.cons_ne_nil _ _
  · rw [assistant_body]
    exact assistant_signed hdigest (hdigest _) hversion htext hblocked

theorem assistantEtag_eq (digest : Digest) (version : Nat) :
    assistantEtag digest version = "sha256:" ++ digest (configurationText version) := rfl

theorem assistantDigest_hex : HexDigest assistantDigest := by
  have hall := (assistant_facts).digits
  intro text
  apply fingerprint_of
  unfold assistantDigest
  split_ifs
  · exact hall.1
  · exact hall.2.1
  · exact hall.2.2

theorem first_access : ({ applicationEnabled := true, blockedUserIds := [] } : Access).Accepted :=
  ⟨nofun, Nat.zero_le _, .nil⟩

theorem assistantInput_signed {digest : Digest} (hdigest : HexDigest digest) :
    buildRuntimePublication digest gatewayUrl assistantInput =
      .ok (stamped digest (assistantBody (assistantEtag digest 1) 1 [])) :=
  @assistant_published digest hdigest { users := [], groups := [] } 1 ⟨le_rfl, by decide⟩ (assistant_facts).version
    first_access

theorem assistantInput_etag : (buildRuntimePublication assistantDigest gatewayUrl assistantInput).toOption.map (·.etag) =
    some "sha256:247c768e05de00a79471fb906b95ade09a3ee6b2004ed47ba3a20db7ed300c6f" := by
  have hetag : assistantEtag assistantDigest 1 = "sha256:" ++ "08e869ed479b39be687e118cd883e2bb9d44336b4249e80b327b64ac951e7f19" := by
    rw [assistantEtag_eq, assistantDigest, if_pos (assistant_facts).configuration]
  have hbody : 506 < (canonical (assistantBody (assistantEtag assistantDigest 1) 1 []).toJson).length := by
    rw [hetag]
    exact (assistant_facts).body
  rw [assistantInput_signed assistantDigest_hex]
  show some ("sha256:" ++ assistantDigest (canonical (assistantBody (assistantEtag assistantDigest 1) 1 []).toJson)) = _
  rw [assistantDigest, if_neg (by omega), if_neg (by omega)]
  rfl

theorem assistantInput_published :
    (buildRuntimePublication assistantDigest gatewayUrl assistantInput).isOk = true := by
  rw [assistantInput_signed assistantDigest_hex]
  rfl

theorem assistant_identified :
    (canonical (σ := Units) (.obj [([98], .null), ([97], .bool true)]) =
        canonical (σ := Units) (.obj [([97], .bool true), ([98], .null)])) ∧
      ∃ snapshot, buildRuntimePublication assistantDigest gatewayUrl assistantInput = .ok snapshot ∧
        Reverified assistantDigest gatewayUrl snapshot := by
  have hall := canonical_identifies assistantDigest gatewayUrl
  refine ⟨(hall.1 _ _ (by simp [Json.Distinct, Json.DistinctFields]) (by simp [Json.Distinct, Json.DistinctFields])).mpr
    (.fields (List.Perm.swap _ _ _)), ?_⟩
  cases hpublished : buildRuntimePublication assistantDigest gatewayUrl assistantInput with
  | error failure =>
    have hok := assistantInput_published
    rw [hpublished] at hok
    cases hok
  | ok snapshot => exact ⟨snapshot, rfl, hall.2.1 _ _ hpublished⟩

end TokenPilot.Runtime
