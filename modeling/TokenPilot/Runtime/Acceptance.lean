/-
  TokenPilot.Runtime.Acceptance — what `runtimeSnapshotSchema` asks of a record.

  For each record of a snapshot, its own limits: patterns and lengths of texts, ranges of
  numbers, sizes of arrays. The schema reads the JSON of a record exactly when they hold
  (`runtimeSnapshotSchema_accepts`).
-/

import TokenPilot.Runtime.SchemaLaws

namespace TokenPilot.Runtime

open Library

/-- The schema reads the value. -/
def Accepts {α : Type} (schema : Value → Option α) (v : Value) : Prop := (schema v).isSome = true

/-! ## Values -/

theorem textSchema_accepts (pattern : String → Bool) (s : String) :
    (textSchema pattern (.str s)).isSome = true ↔ pattern s = true := by
  simp only [textSchema]
  split <;> simp_all

theorem integerSchema_accepts (least most n : Int) :
    (integerSchema least most (integer n)).isSome = true ↔ least ≤ n ∧ n ≤ most := by
  rw [integerSchema_integer]
  split <;> simp_all

theorem naturalSchema_accepts (least most n : Nat) :
    (naturalSchema least most (integer n)).isSome = true ↔ least ≤ n ∧ n ≤ most := by
  rw [naturalSchema, Option.isSome_map, integerSchema_accepts]
  omega

theorem readAll_accepts {α β : Type} {schema : α → Option β} {l : List α} :
    (readAll schema l).isSome = true ↔ ∀ a ∈ l, (schema a).isSome = true := by
  induction l with
  | nil => simp [readAll]
  | cons a rest ih =>
    rw [readAll, List.forall_mem_cons, ← ih]
    cases schema a with
    | none => simp
    | some b => cases readAll schema rest <;> simp

theorem arraySchema_accepts {α : Type} {encode : α → Value} {schema : Value → Option α} (l : List α) :
    (arraySchema schema (.arr (l.map encode))).isSome = true ↔ ∀ a ∈ l, Accepts schema (encode a) := by
  rw [arraySchema, readAll_accepts, List.forall_mem_map]
  rfl

theorem recordSchema_accepts {α : Type} {key : String → Bool} {encode : α → Value} {schema : Value → Option α}
    (l : List (String × α)) :
    (recordSchema key schema (.obj (l.map fun entry => (entry.1, encode entry.2)))).isSome = true ↔
      ∀ entry ∈ l, key entry.1 = true ∧ Accepts schema (encode entry.2) := by
  rw [recordSchema, readAll_accepts, List.forall_mem_map]
  apply forall₂_congr
  intro entry _
  cases hkey : key entry.1 <;> simp [Accepts]

theorem enumSchema_text {α : Type} {text : α → String} {values : List α} (htext : Function.Injective text) {a : α}
    (h : a ∈ values) : enumSchema text values (.str (text a)) = some a := by
  have hsome : (enumSchema text values (.str (text a))).isSome = true :=
    List.find?_isSome.mpr ⟨a, h, decide_eq_true rfl⟩
  obtain ⟨b, hb⟩ := Option.isSome_iff_exists.mp hsome
  have hsame : b = a := (enumSchema_lawful values htext).normalises a b hb
  rw [hb, hsame]

theorem filter_accepts {α : Type} {o : Option α} {a : α} (check : α → Bool) (h : ∀ b, o = some b → b = a) :
    (o.filter check).isSome = true ↔ o.isSome = true ∧ check a = true := by
  cases o with
  | none => simp
  | some b =>
    rw [h b rfl, Option.filter_some]
    cases check a <;> simp

theorem ite_accepts {α : Type} (c : Prop) [Decidable c] (a : α) :
    (if c then some a else none : Option α).isSome = true ↔ c := by split <;> simp_all

/-! ## Routes -/

structure RouteTarget.Accepted (target : RouteTarget) : Prop where
  modelId : opaqueIdPattern target.modelId = true
  connectionId : opaqueIdPattern target.connectionId = true
  requestModel : bounded 1 256 target.requestModel = true
  provider : bounded 1 120 target.provider = true
  capabilities : target.capabilities.length ≤ 8 ∧ target.capabilities.Nodup
  routeTag : jsLength target.routeTag ≤ 200 ∧ routeTagPattern target.routeTag = true
  fallbackOrder : target.fallbackOrder ≤ 63
  weight : 0 < target.weight.toRat ∧ target.weight.toRat ≤ 1000

theorem mem_taskTypes (taskType : TaskType) : taskType ∈ taskTypes := by cases taskType <;> decide

theorem mem_capabilities (capability : Capability) : capability ∈ capabilities := by cases capability <;> decide

theorem mem_selectionModes (mode : SelectionMode) : mode ∈ selectionModes := by cases mode <;> decide

theorem modelCapabilitiesSchema_accepts (items : List Capability) :
    (modelCapabilitiesSchema (.arr (items.map (.str ·.text)))).isSome = true ↔ items.length ≤ 8 ∧ items.Nodup := by
  have hread : ∀ b, arraySchema (enumSchema Capability.text capabilities) (.arr (items.map (.str ·.text))) = some b →
      b = items := fun b h =>
    ((arraySchema_lawful (enumSchema_lawful capabilities Capability.text_injective)).normalises _ _ h).trans
      (List.map_id items)
  rw [modelCapabilitiesSchema, filter_accepts _ hread, arraySchema_accepts]
  simp [Accepts, enumSchema_text Capability.text_injective (mem_capabilities _)]

theorem routeTagSchema_accepts (s : String) :
    (routeTagSchema (.str s)).isSome = true ↔ jsLength s ≤ 200 ∧ routeTagPattern s = true := by
  rw [routeTagSchema, textSchema_accepts]
  simp

theorem weightSchema_accepts (d : Decimal) :
    (weightSchema (.num d)).isSome = true ↔ 0 < d.toRat ∧ d.toRat ≤ 1000 := ite_accepts _ _

theorem runtimeRouteTargetSchema_accepts (target : RouteTarget) :
    Accepts runtimeRouteTargetSchema target.toJson ↔ target.Accepted := by
  have htag : Lawful Json.str routeTagSchema id := textSchema_lawful _
  unfold Accepts
  rw [runtimeRouteTargetSchema_toJson]
  simp only [Option.bind_eq_bind]
  rw [(textSchema_lawful _).isSome_bind, (textSchema_lawful _).isSome_bind, (textSchema_lawful _).isSome_bind,
    (textSchema_lawful _).isSome_bind, enumSchema_text TaskType.text_injective (mem_taskTypes _), Option.bind_some,
    modelCapabilitiesSchema_lawful.isSome_bind, htag.isSome_bind, (naturalSchema_lawful _ _).isSome_bind,
    weightSchema_lawful.isSome_bind, textSchema_accepts, textSchema_accepts, textSchema_accepts, textSchema_accepts,
    modelCapabilitiesSchema_accepts, routeTagSchema_accepts, naturalSchema_accepts, weightSchema_accepts]
  constructor
  · rintro ⟨hmodel, hconnection, hrequest, hprovider, hcapabilities, htag, hfallback, hweight, -⟩
    exact ⟨hmodel, hconnection, hrequest, hprovider, hcapabilities, htag, hfallback.2, hweight⟩
  · intro h
    exact ⟨h.modelId, h.connectionId, h.requestModel, h.provider, h.capabilities, h.routeTag, ⟨Nat.zero_le _, h.fallbackOrder⟩,
      h.weight, rfl⟩

structure Route.Accepted (route : Route) : Prop where
  routeTag : jsLength route.routeTag ≤ 200 ∧ routeTagPattern route.routeTag = true
  sized : 1 ≤ route.targets.length ∧ route.targets.length ≤ 64
  distinct : (route.targets.map (·.modelId)).Nodup
  tagged : ∀ target ∈ route.targets, target.routeTag = route.routeTag
  contiguous : route.targets.map (·.fallbackOrder) = List.range route.targets.length
  targets : ∀ target ∈ route.targets, target.Accepted

theorem runtimeRouteSchema_accepts (route : Route) : Accepts runtimeRouteSchema route.toJson ↔ route.Accepted := by
  have htag : Lawful Json.str routeTagSchema id := textSchema_lawful _
  unfold Accepts
  rw [runtimeRouteSchema_toJson]
  simp only [Option.bind_eq_bind]
  rw [htag.isSome_bind, enumSchema_text SelectionMode.text_injective (mem_selectionModes _), Option.bind_some,
    targets_lawful.isSome_bind, routeTagSchema_accepts, arraySchema_accepts, ite_accepts]
  simp only [runtimeRouteTargetSchema_accepts, id]
  constructor
  · rintro ⟨htag, htargets, hfilled, hsize, hdistinct, htagged, hcontiguous⟩
    exact ⟨htag, ⟨hfilled, hsize⟩, hdistinct, htagged, hcontiguous, htargets⟩
  · intro h
    exact ⟨h.routeTag, h.targets, h.sized.1, h.sized.2, h.distinct, h.tagged, h.contiguous⟩

/-! ## Rules and plans -/

structure RoutingRule.Accepted (rule : RoutingRule) : Prop where
  id : bounded 1 120 rule.id = true
  priority : -maxSafeInteger ≤ rule.priority ∧ rule.priority ≤ maxSafeInteger
  condition : Accepts runtimeRouteMatchSchema rule.match.toJson
  route : rule.route.Accepted
  expiry : ∀ expiresAt, rule.expiresAt = some expiresAt → Accepts utcTimestampSchema (.str expiresAt.text)
  expiring : rule.match = .overrideActive → rule.expiresAt.isSome = true

theorem optionally_accepts {α : Type} (schema : Value → Option α) (value : Option Value) :
    (optionally schema value).isSome = true ↔ ∀ v, value = some v → Accepts schema v := by
  cases value <;> simp [optionally, Accepts]

theorem runtimeRoutingRuleSchema_accepts (rule : RoutingRule) :
    Accepts runtimeRoutingRuleSchema rule.toJson ↔ rule.Accepted := by
  have hpriority : Lawful integer safeIntegerSchema _ := integerSchema_lawful _ _
  unfold Accepts
  rw [runtimeRoutingRuleSchema_toJson]
  simp only [Option.bind_eq_bind]
  rw [(textSchema_lawful _).isSome_bind, hpriority.isSome_bind, runtimeRouteMatchSchema_lawful.isSome_bind,
    runtimeRouteSchema_lawful.isSome_bind, expiry_lawful.isSome_bind, textSchema_accepts, safeIntegerSchema,
    integerSchema_accepts, optionally_accepts, ite_accepts, RouteMatch.normal_overrideActive, Option.isSome_map]
  have hroute : (runtimeRouteSchema rule.route.toJson).isSome = true ↔ rule.route.Accepted :=
    runtimeRouteSchema_accepts rule.route
  rw [hroute]
  constructor
  · rintro ⟨hid, hpriority, hcondition, hroute, hexpiry, hexpiring⟩
    exact ⟨hid, hpriority, hcondition, hroute, fun expiresAt heq => hexpiry _ (by rw [heq]; rfl), hexpiring⟩
  · intro h
    refine ⟨h.id, h.priority, h.condition, h.route, fun v hv => ?_, h.expiring⟩
    obtain ⟨expiresAt, heq, rfl⟩ := Option.map_eq_some_iff.mp hv
    exact h.expiry expiresAt heq

structure RoutingPlan.Accepted (plan : RoutingPlan) : Prop where
  virtualModelId : opaqueIdPattern plan.virtualModelId = true
  configurationVersion : 1 ≤ plan.configurationVersion ∧ plan.configurationVersion ≤ maxSafeInteger.toNat
  configurationEtag : sha256FingerprintPattern plan.configurationEtag = true
  publishedAt : Accepts utcTimestampSchema (.str plan.publishedAt.text)
  timezone : bounded 1 128 plan.timezone = true
  default : plan.default.Accepted
  rules : ∀ rule ∈ plan.rules, rule.Accepted
  sized : plan.rules.length ≤ 512
  distinct : (plan.rules.map (·.id)).Nodup

theorem runtimeRoutingPlanSchema_accepts (plan : RoutingPlan) :
    Accepts runtimeRoutingPlanSchema plan.toJson ↔ plan.Accepted := by
  have hpublished : Lawful (fun time : UtcTime => Json.str time.text) utcTimestampSchema UtcTime.normal :=
    utcTimestampSchema_lawful
  unfold Accepts
  rw [runtimeRoutingPlanSchema_toJson]
  simp only [Option.bind_eq_bind]
  rw [(textSchema_lawful _).isSome_bind, (naturalSchema_lawful _ _).isSome_bind, (textSchema_lawful _).isSome_bind,
    hpublished.isSome_bind, (textSchema_lawful _).isSome_bind, runtimeRouteSchema_lawful.isSome_bind,
    rules_lawful.isSome_bind, textSchema_accepts, naturalSchema_accepts, textSchema_accepts, textSchema_accepts,
    arraySchema_accepts, ite_accepts, List.length_map, List.map_map]
  have hdefault : (runtimeRouteSchema plan.default.toJson).isSome = true ↔ plan.default.Accepted :=
    runtimeRouteSchema_accepts plan.default
  have hids : plan.rules.map ((·.id) ∘ RoutingRule.normal) = plan.rules.map (·.id) := rfl
  simp only [runtimeRoutingRuleSchema_accepts, hdefault, hids]
  constructor
  · rintro ⟨hid, hversion, hetag, hpublished, htimezone, hdefault, hrules, hsized, hdistinct⟩
    exact ⟨hid, hversion, hetag, hpublished, htimezone, hdefault, hrules, hsized, hdistinct⟩
  · intro h
    exact ⟨h.virtualModelId, h.configurationVersion, h.configurationEtag, h.publishedAt, h.timezone, h.default, h.rules,
      h.sized, h.distinct⟩

/-! ## The snapshot -/

structure Access.Accepted (access : Access) : Prop where
  blocked : ∀ user ∈ access.blockedUserIds, bounded 1 256 user = true
  sized : access.blockedUserIds.length ≤ 50000
  distinct : access.blockedUserIds.Nodup

theorem accessSchema_accepts (access : Access) : Accepts accessSchema (accessJson access) ↔ access.Accepted := by
  unfold Accepts
  rw [accessSchema_json]
  simp only [Option.bind_eq_bind]
  rw [boolSchema, Option.bind_some, blockedUserIds_lawful.isSome_bind, ite_accepts, texts, arraySchema_accepts]
  simp only [Accepts, textSchema_accepts, id]
  exact ⟨fun h => ⟨h.1, h.2.1, h.2.2⟩, fun h => ⟨h.blocked, h.sized, h.distinct⟩⟩

theorem governedKeysSchema_accepts (keys : List String) :
    (governedKeysSchema (texts keys)).isSome = true ↔
      (∀ key ∈ keys, dimensionKeyPattern key = true) ∧ keys.length ≤ 256 ∧ keys.Nodup := by
  have hread : ∀ b, arraySchema (textSchema dimensionKeyPattern) (texts keys) = some b → b = keys := fun b h =>
    ((arraySchema_lawful (textSchema_lawful dimensionKeyPattern)).normalises keys b h).trans (List.map_id keys)
  rw [governedKeysSchema, filter_accepts _ hread, texts, arraySchema_accepts]
  simp only [Accepts, textSchema_accepts, Bool.and_eq_true, decide_eq_true_eq]

section

variable (isHttpUrl : String → Bool)

structure Snapshot.Accepted (snapshot : Snapshot) : Prop where
  applicationId : uuidPattern snapshot.applicationId = true
  version : opaqueIdPattern snapshot.version = true
  etag : sha256FingerprintPattern snapshot.etag = true
  signature : sha256FingerprintPattern snapshot.signature = true
  expiresAt : Accepts utcTimestampSchema (.str snapshot.expiresAt.text)
  connections : ∀ entry ∈ snapshot.connections, opaqueIdPattern entry.1 = true ∧
    Accepts (runtimeCallConnectionSchema isHttpUrl) entry.2.toJson
  routing : ∀ entry ∈ snapshot.routing, virtualModelName entry.1 = true ∧ entry.2.Accepted
  access : snapshot.access.Accepted
  keys : (∀ key ∈ snapshot.analyticsAllowedKeys, dimensionKeyPattern key = true) ∧
    snapshot.analyticsAllowedKeys.length ≤ 256 ∧ snapshot.analyticsAllowedKeys.Nodup
  consistent : snapshot.normal.consistent = true

theorem runtimeSnapshotSchema_accepts (snapshot : Snapshot) :
    Accepts (runtimeSnapshotSchema isHttpUrl) snapshot.toJson ↔ snapshot.Accepted isHttpUrl := by
  have hexpires : Lawful (fun time : UtcTime => Json.str time.text) utcTimestampSchema UtcTime.normal :=
    utcTimestampSchema_lawful
  have hconnections := recordSchema_lawful opaqueIdPattern (runtimeCallConnectionSchema_lawful isHttpUrl)
  have hrouting := recordSchema_lawful virtualModelName runtimeRoutingPlanSchema_lawful
  have hkeys := onlyField_lawful "analytics_allowed_keys" governedKeysSchema_lawful
  unfold Accepts
  rw [runtimeSnapshotSchema_toJson]
  simp only [Option.bind_eq_bind]
  rw [(textSchema_lawful _).isSome_bind, (textSchema_lawful _).isSome_bind, (textSchema_lawful _).isSome_bind,
    (textSchema_lawful _).isSome_bind, hexpires.isSome_bind, hconnections.isSome_bind, hrouting.isSome_bind,
    accessSchema_lawful.isSome_bind, hkeys.isSome_bind, textSchema_accepts, textSchema_accepts, textSchema_accepts,
    textSchema_accepts, recordSchema_accepts, recordSchema_accepts, onlyField_obj, if_pos rfl, governedKeysSchema_accepts,
    ite_accepts]
  have haccess : (accessSchema (accessJson snapshot.access)).isSome = true ↔ snapshot.access.Accepted :=
    accessSchema_accepts snapshot.access
  simp only [runtimeRoutingPlanSchema_accepts, haccess]
  constructor
  · rintro ⟨hid, hversion, hetag, hsignature, hexpires, hconnections, hrouting, haccess, hkeys, hconsistent⟩
    exact ⟨hid, hversion, hetag, hsignature, hexpires, hconnections, hrouting, haccess, hkeys, hconsistent⟩
  · intro h
    exact ⟨h.applicationId, h.version, h.etag, h.signature, h.expiresAt, h.connections, h.routing, h.access, h.keys,
      h.consistent⟩

end

end TokenPilot.Runtime
