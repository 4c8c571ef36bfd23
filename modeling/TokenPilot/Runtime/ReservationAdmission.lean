/-
  TokenPilot.Runtime.ReservationAdmission — the reservation request of a chat call against its
  contract (`runtimeUserReservationRequestSchema`) and against `resolveCandidates` of the
  service (apps/api/src/runtime/user-reservation.service.ts).

  `request_admitted_iff` says what the contract asks of a request. The context of a call has
  passed `withAiContext` (`AiContext.Resolved`), and the targets are those of a route of a
  snapshot that its schema accepts, so the user, the keys of its properties, the name of the
  model and the uniqueness of the candidates are always in order. What remains is the client's
  to meet: the contract of a snapshot takes 64 targets with any opaque ids, the one of a request
  32 candidates with UUIDs; a context takes any operation id and counts the characters of a
  property in code points; an estimate is any text (`reservation_admitted_iff`).

  The service looks at the rows of its tables. Those that a snapshot was published from offer
  the targets of its routes (`published_offers`).
-/

import TokenPilot.Runtime.Acceptance
import TokenPilot.Runtime.Denial
import TokenPilot.Runtime.PublishedRoutes
import TokenPilot.Runtime.UsageEvent

namespace TokenPilot.Runtime

open Library

/-! ## The contract -/

/-- `/^(?:0|[1-9][0-9]*)$/u`, at most the greatest signed 64-bit integer -/
def aiuMicrosPattern (s : String) : Bool :=
  s.toList ≠ [] && s.toList.all isDigit && (s.toList.head? ≠ some '0' || s.toList.length = 1) &&
    s.toList.foldl (fun n c => 10 * n + (c.toNat - '0'.toNat)) 0 ≤ 9223372036854775807

/-- `runtimeUserPropertyValueSchema` -/
def isUserPropertyValue (v : Value) : Bool :=
  isText (fun s => jsLength s ≤ 2048) v || isInteger (-maxSafeInteger) maxSafeInteger v || isFlag v ||
    match v with
    | .arr items => items.all (isText fun s => jsLength s ≤ 256) && items.length ≤ 32
    | _ => false

def isCandidateList : Value → Bool
  | .arr items =>
    items.all (isText uuidPattern) && 1 ≤ items.length && items.length ≤ 32 &&
      decide (items.filterMap Connector.textOf).Nodup
  | _ => false

def runtimeUserReservationRequestSchema : Value → Bool :=
  isStrictObject
    [("user_id", isText (bounded 1 256)), ("operation_id", isOpaqueId), ("virtual_model", isText virtualModelName),
      ("estimated_aiu_micros", isText aiuMicrosPattern)]
    [("display_user", isText (bounded 1 256)), ("user_properties", isRecord propertyKeyPattern isUserPropertyValue),
      ("candidate_model_ids", isCandidateList)]

/-- The body of the request. -/
def ReservationRequest.toJson (request : ReservationRequest) : Value :=
  .obj ([("user_id", .str request.userId)] ++ (request.displayUser.map fun user => ("display_user", .str user)).toList ++
    (request.userProperties.map fun properties => ("user_properties", .obj properties)).toList ++
    [("operation_id", .str request.operationId), ("virtual_model", .str request.virtualModel),
      ("candidate_model_ids", texts request.candidateModelIds),
      ("estimated_aiu_micros", .str request.estimatedAiuMicros)])

theorem isCandidateList_texts (ids : List String) : isCandidateList (texts ids) = true ↔
    (∀ id ∈ ids, uuidPattern id = true) ∧ 1 ≤ ids.length ∧ ids.length ≤ 32 ∧ ids.Nodup := by
  have htexts : (ids.map Json.str : List Value).filterMap Connector.textOf = ids := by
    rw [List.filterMap_map]
    exact List.filterMap_some
  unfold isCandidateList texts
  dsimp only
  rw [htexts]
  simp [isText, List.all_map, and_assoc]

/-- What the contract asks of the request of a call. -/
theorem request_admitted_iff (context : AiContext) (input : ChatInput) (targets : List RouteTarget) :
    runtimeUserReservationRequestSchema (reservationRequest context input targets).toJson = true ↔
      (bounded 1 256 context.userId = true ∧ context.displayUser.all (bounded 1 256) = true ∧
        (∀ property ∈ context.userProperties, propertyKeyPattern property.1 = true ∧ isUserPropertyValue property.2 = true) ∧
        virtualModelName input.model = true) ∧
      (1 ≤ targets.length ∧ (targets.map (·.modelId)).Nodup) ∧
      opaqueIdPattern context.operationId = true ∧ aiuMicrosPattern (input.estimatedAiuMicros.getD "0") = true ∧
      targets.length ≤ 32 ∧ ∀ target ∈ targets, uuidPattern target.modelId = true := by
  have hlist : isCandidateList (texts (targets.map (·.modelId))) = true ↔
      (∀ target ∈ targets, uuidPattern target.modelId = true) ∧ 1 ≤ targets.length ∧ targets.length ≤ 32 ∧
        (targets.map (·.modelId)).Nodup := by
    rw [isCandidateList_texts]
    simp
  unfold runtimeUserReservationRequestSchema reservationRequest ReservationRequest.toJson isStrictObject
  -- the two fields that may be left out
  cases hdisplay : context.displayUser with
  | none =>
    cases hproperties : context.userProperties with
    | nil =>
      simp [List.lookup_cons, isText, isOpaqueId, hlist]
      constructor
      · rintro ⟨⟨huser, hoperation, hmodel, hestimate⟩, hids, hfilled, hsized, hnodup⟩
        exact ⟨⟨huser, hmodel⟩, ⟨hfilled, hnodup⟩, hoperation, hestimate, hsized, hids⟩
      · rintro ⟨⟨huser, hmodel⟩, ⟨hfilled, hnodup⟩, hoperation, hestimate, hsized, hids⟩
        exact ⟨⟨huser, hoperation, hmodel, hestimate⟩, hids, hfilled, hsized, hnodup⟩
    | cons property rest =>
      simp [List.lookup_cons, isText, isOpaqueId, isRecord, hlist]
      constructor
      · rintro ⟨⟨huser, hoperation, hmodel, hestimate⟩, hproperty, hids, hfilled, hsized, hnodup⟩
        exact ⟨⟨huser, hproperty, hmodel⟩, ⟨hfilled, hnodup⟩, hoperation, hestimate, hsized, hids⟩
      · rintro ⟨⟨huser, hproperty, hmodel⟩, ⟨hfilled, hnodup⟩, hoperation, hestimate, hsized, hids⟩
        exact ⟨⟨huser, hoperation, hmodel, hestimate⟩, hproperty, hids, hfilled, hsized, hnodup⟩
  | some display =>
    cases hproperties : context.userProperties with
    | nil =>
      simp [List.lookup_cons, isText, isOpaqueId, hlist]
      constructor
      · rintro ⟨⟨huser, hoperation, hmodel, hestimate⟩, hdisplayed, hids, hfilled, hsized, hnodup⟩
        exact ⟨⟨huser, hdisplayed, hmodel⟩, ⟨hfilled, hnodup⟩, hoperation, hestimate, hsized, hids⟩
      · rintro ⟨⟨huser, hdisplayed, hmodel⟩, ⟨hfilled, hnodup⟩, hoperation, hestimate, hsized, hids⟩
        exact ⟨⟨huser, hoperation, hmodel, hestimate⟩, hdisplayed, hids, hfilled, hsized, hnodup⟩
    | cons property rest =>
      simp [List.lookup_cons, isText, isOpaqueId, isRecord, hlist]
      constructor
      · rintro ⟨⟨huser, hoperation, hmodel, hestimate⟩, hdisplayed, hproperty, hids, hfilled, hsized, hnodup⟩
        exact ⟨⟨huser, hdisplayed, hproperty, hmodel⟩, ⟨hfilled, hnodup⟩, hoperation, hestimate, hsized, hids⟩
      · rintro ⟨⟨huser, hdisplayed, hproperty, hmodel⟩, ⟨hfilled, hnodup⟩, hoperation, hestimate, hsized, hids⟩
        exact ⟨⟨huser, hoperation, hmodel, hestimate⟩, hdisplayed, hproperty, hids, hfilled, hsized, hnodup⟩

/-! ## The context -/

def unsafePropertyKeys : List String := ["api_key", "authorization", "cookie", "messages", "prompt", "response"]

/-- What `properties` takes for the value of a property. -/
def isContextProperty : Value → Bool
  | .str s => bounded 1 2048 s
  | .num d => -maxSafeInteger ≤ d.toRat && d.toRat ≤ maxSafeInteger
  | .bool _ => true
  | .arr items =>
    items.length ≤ 32 && decide (items.filterMap Connector.textOf).Nodup && items.all (isText (bounded 1 256))
  | _ => false

/-- A context as `withAiContext` resolves one. -/
structure AiContext.Resolved (context : AiContext) : Prop where
  userId : jsTrim context.userId = context.userId ∧ bounded 1 256 context.userId = true
  displayUser : ∀ user, context.displayUser = some user → jsTrim user = user ∧ bounded 1 256 user = true
  operationId : jsTrim context.operationId = context.operationId ∧ bounded 1 256 context.operationId = true
  callSource : ∀ source, context.callSource = some source → jsTrim source = source ∧ bounded 1 120 source = true
  sized : context.userProperties.length ≤ 64
  userProperties : ∀ property ∈ context.userProperties, propertyKeyPattern property.1 = true ∧
    property.1 ∉ unsafePropertyKeys ∧ isContextProperty property.2 = true

/-! ## The service -/

inductive CandidateFailure where
  | virtualModelUnavailable
  | foreignCandidates
  deriving DecidableEq, Repr

/-- The models of the enabled targets, as far as they are enabled. -/
def availableModels (virtualModel : VirtualModelRow) : List String :=
  (virtualModel.targets.filter fun target => target.enabled && target.model.enabled).map (·.model.id)

/-- `rows` are the enabled virtual models of the application. -/
def resolveCandidates (rows : List VirtualModelRow) (request : ReservationRequest) :
    Except CandidateFailure (List String) :=
  match rows.find? (·.name = request.virtualModel) with
  | none => .error .virtualModelUnavailable
  | some virtualModel =>
    let requested := request.candidateModelIds
    if requested = [] || requested.any (!(availableModels virtualModel).contains ·) then .error .foreignCandidates
    else .ok (requested.dedup.insertionSort fun a b => Text.units a ≤ Text.units b)

/-- The rows have the virtual model, and it offers every target. -/
def Offers (rows : List VirtualModelRow) (name : String) (targets : List RouteTarget) : Prop :=
  ∃ virtualModel, rows.find? (·.name = name) = some virtualModel ∧
    ∀ target ∈ targets, target.modelId ∈ availableModels virtualModel

theorem resolveCandidates_iff {rows : List VirtualModelRow} {context : AiContext} {input : ChatInput}
    {targets : List RouteTarget} (hfilled : targets ≠ []) :
    (∃ candidates, resolveCandidates rows (reservationRequest context input targets) = .ok candidates) ↔
      Offers rows input.model targets := by
  unfold resolveCandidates Offers
  cases hfind : rows.find? (·.name = input.model) with
  | none =>
    have hnone : rows.find? (·.name = (reservationRequest context input targets).virtualModel) = none := hfind
    simp [hnone]
  | some virtualModel =>
    have hsome : rows.find? (·.name = (reservationRequest context input targets).virtualModel) = some virtualModel := hfind
    rw [hsome]
    dsimp only
    have hcandidates : (reservationRequest context input targets).candidateModelIds = targets.map (·.modelId) := rfl
    rw [hcandidates]
    split
    · rename_i hrefused
      have hforeign : ∃ target ∈ targets, target.modelId ∉ availableModels virtualModel := by
        simpa [hfilled] using hrefused
      obtain ⟨target, htarget, hmissing⟩ := hforeign
      refine iff_of_false (by simp) ?_
      rintro ⟨other, hother, hall⟩
      cases hother
      exact hmissing (hall target htarget)
    · rename_i haccepted
      have hall : ∀ target ∈ targets, target.modelId ∈ availableModels virtualModel := by
        simpa [hfilled] using haccepted
      exact iff_of_true ⟨_, rfl⟩ ⟨virtualModel, rfl, hall⟩

/-! ## Routes -/

section Routes

variable {zones : Zones} {snapshot : Snapshot} {virtualModel : String} {now : Int} {context : RouteContext}
  {selected : RouteSelection} {digest : Digest} {isHttpUrl : String → Bool}

/-- A selection is of a route of the plan, in some order. -/
theorem node_selected (h : Node.resolveRuntimeRoute zones snapshot virtualModel now context = .ok selected) :
    ∃ plan route key, snapshot.routing.lookup virtualModel = some plan ∧
      (route = plan.default ∨ ∃ rule ∈ plan.rules, route = rule.route) ∧
      selected.primary :: selected.fallbacks = orderedTargets Node.deterministicFraction route key := by
  cases hplan : snapshot.routing.lookup virtualModel with
  | none => simp [Node.resolveRuntimeRoute, hplan] at h
  | some plan =>
    cases hzone : zones plan.timezone with
    | none => simp [Node.resolveRuntimeRoute, hplan, hzone] at h
    | some localized =>
      rw [node_resolve hplan hzone, resolveWith] at h
      obtain ⟨⟨route, ruleId⟩, hchosen, h⟩ := bind_ok h
      refine ⟨plan, route, Node.selectionKey context, rfl, ?_, ((selection_eq h).2.2).symm⟩
      rcases choose_cases hchosen with ⟨-, hdefault, -⟩ | ⟨winner, hwinner, hroute, -⟩
      · exact .inl hdefault
      · exact .inr ⟨winner, List.mem_of_mem_filter hwinner, hroute⟩

theorem defaultFirst_subset {row : VirtualModelRow} {targets : List TargetRow} :
    ∀ target ∈ defaultFirst row targets, target ∈ targets := by
  intro target hmem
  unfold defaultFirst at hmem
  dsimp only at hmem
  split at hmem
  · rename_i first hfirst
    rcases List.mem_cons.mp hmem with rfl | hmem
    · exact List.mem_of_getElem? hfirst
    · exact List.mem_of_mem_eraseIdx hmem
  · exact hmem

/-- The targets of a route are models of its rows. -/
theorem routeTargets_rows {routeTag : String} {order : Nat} {rows : List TargetRow} {targets : List RouteTarget}
    (h : routeTargets routeTag order rows = .ok targets) :
    ∀ target ∈ targets, ∃ row ∈ rows, target.modelId = row.model.id := by
  intro target hmem
  obtain ⟨place, hplace, htarget⟩ := forall₂_mem_right (routeTargets_ok h) target hmem
  unfold routeTarget at htarget
  split at htarget
  · cases htarget
  · cases htarget
    exact ⟨place.1, List.fst_mem_of_mem_zipIdx hplace, rfl⟩

theorem PlannedAs.target_row {input : PublicationInput} {row : VirtualModelRow} {plan : RoutingPlan}
    (h : PlannedAs digest input row plan) : ∀ target ∈ plan.targets,
      ∃ published ∈ activeTargets row.publishedTargets, target.modelId = published.model.id := by
  intro target hmem
  rcases List.mem_append.mp hmem with hdefault | hrule
  · have hroute := h.default
    unfold defaultRoute at hroute
    obtain ⟨targets, htargets, hroute⟩ := bind_ok hroute
    rw [← Except.ok.inj hroute] at hdefault
    obtain ⟨published, hpublished, heq⟩ := routeTargets_rows htargets target hdefault
    exact ⟨published, defaultFirst_subset published hpublished, heq⟩
  · obtain ⟨rule, hrule, htarget⟩ := List.mem_flatMap.mp hrule
    obtain ⟨place, -, condition, selected, hcheck, hpublished⟩ :=
      forall₂_mem_right (buildRules_ok h.rules).1 rule hrule
    unfold publishedRule at hpublished
    obtain ⟨targets, htargets, hpublished⟩ := bind_ok hpublished
    rw [← Except.ok.inj hpublished] at htarget
    obtain ⟨published, hrow, heq⟩ := routeTargets_rows htargets target htarget
    refine ⟨published, ?_, heq⟩
    rcases List.mem_cons.mp hrow with rfl | hrow
    · -- a rule selects one of the active targets
      unfold checkRule at hcheck
      split at hcheck
      · cases hcheck
      · split at hcheck
        · cases hcheck
        · split at hcheck
          · cases hcheck
          · rename_i hfind
            split at hcheck
            · cases hcheck
              exact List.mem_of_find?_eq_some hfind
            · cases hcheck
    · exact List.mem_of_mem_filter hrow

/-- The rows of a publication offer the targets of the routes it publishes. -/
theorem published_offers {input : PublicationInput} {targets : List RouteTarget}
    (hpublished : buildRuntimePublication digest isHttpUrl input = .ok snapshot)
    (hselected : Node.resolveRuntimeRoute zones snapshot virtualModel now context = .ok selected)
    (hsubset : ∀ target ∈ targets, target ∈ selected.primary :: selected.fallbacks) :
    Offers input.virtualModels virtualModel targets := by
  obtain ⟨plan, route, key, hplan, hroute, hordered⟩ := node_selected hselected
  obtain ⟨row, hrow, hname, hplanned⟩ := published_plan hpublished hplan
  have hfind : input.virtualModels.find? (·.name = virtualModel) = some row := by
    obtain ⟨found, hfound⟩ := Option.isSome_iff_exists.mp
      (List.find?_isSome.mpr ⟨row, hrow, by simpa using hname⟩ : (input.virtualModels.find? (·.name = virtualModel)).isSome)
    have hsame : found.name = row.name := by
      have hfoundName := List.find?_some hfound
      rw [hname]
      simpa using hfoundName
    rw [hfound, List.inj_on_of_nodup_map input.names_unique (List.mem_of_find?_eq_some hfound) hrow hsame]
  refine ⟨row, hfind, fun target htarget => ?_⟩
  have hplace : target ∈ plan.targets := by
    have hmem := hsubset target htarget
    rw [hordered] at hmem
    have hin := orderedTargets_subset _ route key target hmem
    rcases hroute with rfl | ⟨rule, hrule, rfl⟩
    · exact List.mem_append_left _ hin
    · exact List.mem_append_right _ (List.mem_flatMap.mpr ⟨rule, hrule, hin⟩)
  obtain ⟨published, hactive, heq⟩ := hplanned.target_row target hplace
  rw [heq]
  refine List.mem_map.mpr ⟨published, ?_, rfl⟩
  obtain ⟨henabled, hmodel⟩ := List.mem_filter.mp hactive
  obtain ⟨hmem, htargetEnabled⟩ := List.mem_filter.mp henabled
  refine List.mem_filter.mpr ⟨hmem, ?_⟩
  simp only [Bool.and_eq_true] at hmodel ⊢
  exact ⟨htargetEnabled, hmodel.1⟩

end Routes

/-! ## The requests of a client -/

theorem candidates_sublist {keep : RouteTarget → Bool} {route : RouteSelection} {targets : List RouteTarget}
    (h : candidates keep route = .ok targets) : targets.Sublist (route.primary :: route.fallbacks) := by
  unfold candidates at h
  split at h
  · cases h
  · cases h
    exact List.filter_sublist

theorem candidates_ne_nil {keep : RouteTarget → Bool} {route : RouteSelection} {targets : List RouteTarget}
    (h : candidates keep route = .ok targets) : targets ≠ [] := by
  unfold candidates at h
  split at h
  · cases h
  · rename_i hne
    cases h
    exact hne

/-- What the contract of a request asks beyond what a context and a snapshot are checked for. -/
structure Admissible (context : AiContext) (input : ChatInput) (targets : List RouteTarget) : Prop where
  operationId : opaqueIdPattern context.operationId = true
  estimate : aiuMicrosPattern (input.estimatedAiuMicros.getD "0") = true
  properties : ∀ property ∈ context.userProperties, isUserPropertyValue property.2 = true
  sized : targets.length ≤ 32
  ids : ∀ target ∈ targets, uuidPattern target.modelId = true

/-- On every route of a schema-valid snapshot: the request of a call passes its contract and the
    service's check of its candidates if and only if it is admissible and the rows of the service
    offer its targets, which those do that the snapshot was published from. -/
theorem reservation_admitted_iff (isHttpUrl : String → Bool) (value : Value) (snapshot : Snapshot) (zones : Zones)
    (now : Int) (context : AiContext) (input : ChatInput) (streaming : Bool) (route : RouteSelection)
    (targets : List RouteTarget) (hschema : runtimeSnapshotSchema isHttpUrl value = some snapshot)
    (hcontext : context.Resolved)
    (hroute : Node.resolveRuntimeRoute zones snapshot input.model now context.routeContext = .ok route)
    (htargets : Node.chatTargets route input streaming = .ok targets) :
    (∀ rows, (runtimeUserReservationRequestSchema (reservationRequest context input targets).toJson = true ∧
        ∃ candidates, resolveCandidates rows (reservationRequest context input targets) = .ok candidates) ↔
      Admissible context input targets ∧ Offers rows input.model targets) ∧
      ∀ digest published, buildRuntimePublication digest isHttpUrl published = .ok snapshot →
        Offers published.virtualModels input.model targets := by
  obtain ⟨plan, published, key, hplan, hpublished, hordered⟩ := node_selected hroute
  obtain ⟨before, after, hrouting, -⟩ := List.lookup_eq_some_iff.mp hplan
  have hentry : (input.model, plan) ∈ snapshot.routing := by simp [hrouting]
  have hsubset := candidates_subset htargets
  -- the targets are some of one route's, in some order
  have hvalid : published.Valid := by
    have hplanned := runtimeSnapshotSchema_plans hschema (input.model, plan) hentry
    rcases hpublished with rfl | ⟨rule, hrule, rfl⟩
    · exact hplanned.default
    · exact (hplanned.rules rule hrule).route
  have hnodup : (targets.map (·.modelId)).Nodup := by
    have hall : ((route.primary :: route.fallbacks).map (·.modelId)).Nodup := by
      rw [hordered]
      exact ((orderedTargets_perm hvalid key).map _).nodup_iff.mpr hvalid.distinct
    exact hall.sublist ((candidates_sublist htargets).map _)
  have hfilled : targets ≠ [] := candidates_ne_nil htargets
  have hname : virtualModelName input.model = true := by
    have haccepted := (runtimeSnapshotSchema_accepts isHttpUrl snapshot).mp (by
      unfold Accepts
      rw [(runtimeSnapshotSchema_lawful isHttpUrl).stable _ _ hschema]
      rfl)
    exact (haccepted.routing (input.model, plan) hentry).1
  refine ⟨fun rows => ?_, fun digest published hbuilt => published_offers hbuilt hroute hsubset⟩
  rw [resolveCandidates_iff hfilled, request_admitted_iff]
  constructor
  · rintro ⟨⟨⟨-, -, hproperties, -⟩, -, hoperation, hestimate, hsized, hids⟩, hoffers⟩
    exact ⟨⟨hoperation, hestimate, fun property hmem => (hproperties property hmem).2, hsized, hids⟩, hoffers⟩
  · rintro ⟨h, hoffers⟩
    refine ⟨⟨⟨hcontext.userId.2, ?_, fun property hmem => ?_, hname⟩, ⟨?_, hnodup⟩, h.operationId, h.estimate, h.sized,
      h.ids⟩, hoffers⟩
    · cases hdisplay : context.displayUser with
      | none => rfl
      | some user => exact (hcontext.displayUser user hdisplay).2
    · exact ⟨(hcontext.userProperties property hmem).1, h.properties property hmem⟩
    · exact List.length_pos_of_ne_nil hfilled

/-! ## A route with 33 targets -/

def wideTargets : List RouteTarget := (List.range 33).map fun i =>
  { modelId := "0b7f2c1e-5a3d-4c8e-9f10-0000000000" ++ String.ofList [Nat.digitChar (i / 10), Nat.digitChar (i % 10)]
    connectionId := "connection", requestModel := "small", provider := "provider", taskType := .chat
    capabilities := [.streaming], routeTag := "cp:virtual:assistant:default", fallbackOrder := i, weight := .ofInt 1 }

def wideSnapshot : Snapshot :=
  { publishing "assistant" { onePlan with default := { onePlan.default with targets := wideTargets } } with
    aiuEnabled := true, aiuMode := .hardLimit }

/-- A plan on the one connection, with a hard limit. -/
def hardPublishing (plan : RoutingPlan) : Snapshot :=
  { publishing "assistant" plan with aiuEnabled := true, aiuMode := .hardLimit }

/-- The connection of `publishing`. -/
def sampleConnection : Connection where
  id := "connection"
  name := "connection"
  driver := .litellm
  baseUrl := some "https://gateway.example"
  credentialRef := none
  timeoutMs := 1000
  maxRetries := 0
  apiVersion := none

/-- What the schemas ask of the texts of `onePlan`, of what publishes it and of who calls it. -/
structure SampleFacts : Prop where
  application : uuidPattern "7b0d9f6e-3c7a-4f0e-9d55-0a3f3d0c2b11" = true
  version : opaqueIdPattern "1" = true
  etag : sha256FingerprintPattern "sha256:0000000000000000000000000000000000000000000000000000000000000000" = true
  name : virtualModelName "assistant" = true
  virtualModel : opaqueIdPattern "vm-1" = true
  timezone : bounded 1 128 "UTC" = true
  connection : opaqueIdPattern "connection" = true
  requestModel : bounded 1 256 "small" = true
  provider : bounded 1 120 "provider" = true
  tag : jsLength "cp:virtual:assistant:default" ≤ 200 ∧ routeTagPattern "cp:virtual:assistant:default" = true
  gateway : Accepts (runtimeCallConnectionSchema gatewayUrl) sampleConnection.toJson
  published : Accepts utcTimestampSchema (.str (isoString 0))
  model : opaqueIdPattern smallModel.id = true
  wide : ("b7f2c1e-5a3d-4c8e-9f10-0000000000".toList.all fun c =>
    isLower c || isUpper c || isDigit c || "._:@-".toList.contains c) = true
  user : jsTrim deniedContext.userId = deniedContext.userId ∧ bounded 1 256 deniedContext.userId = true
  operation : jsTrim deniedContext.operationId = deniedContext.operationId ∧ bounded 1 256 deniedContext.operationId = true

theorem sample_facts : SampleFacts where
  application := by decide +kernel
  version := by decide +kernel
  etag := by decide +kernel
  name := by decide +kernel
  virtualModel := by decide +kernel
  timezone := by decide +kernel
  connection := by decide +kernel
  requestModel := by decide +kernel
  provider := by decide +kernel
  tag := by decide +kernel
  gateway := by
    unfold Accepts
    decide +kernel
  published := by
    unfold Accepts
    decide +kernel
  model := by decide +kernel
  wide := by decide +kernel
  user := by decide +kernel
  operation := by decide +kernel

theorem hardPublishing_accepted {plan : RoutingPlan} (hplan : plan.Accepted)
    (hconnections : ∀ target ∈ plan.targets, target.connectionId = "connection") :
    (hardPublishing plan).Accepted gatewayUrl where
  applicationId := (sample_facts).application
  version := (sample_facts).version
  etag := (sample_facts).etag
  signature := (sample_facts).etag
  expiresAt := hplan.publishedAt
  connections := by
    intro entry hentry
    rw [List.mem_singleton.mp hentry]
    exact ⟨(sample_facts).connection, (sample_facts).gateway⟩
  routing := by
    intro entry hentry
    rw [List.mem_singleton.mp hentry]
    exact ⟨(sample_facts).name, hplan⟩
  access := ⟨nofun, Nat.zero_le _, .nil⟩
  keys := ⟨nofun, Nat.zero_le _, .nil⟩
  consistent := by
    have htargets : plan.normal.targets = plan.targets := by
      simp [RoutingPlan.targets, RoutingPlan.normal, List.flatMap_map, RoutingRule.normal]
    simp only [UnsignedSnapshot.consistent, Snapshot.normal, UnsignedSnapshot.normal, hardPublishing, publishing, List.map_cons,
      List.map_nil, List.all_cons, List.all_nil, Bool.and_true, Bool.and_eq_true, List.all_eq_true, htargets]
    refine ⟨⟨⟨rfl, fun target htarget => ?_⟩, by simp⟩, by decide⟩
    rw [hconnections target htarget]
    simp

/-- A target of `onePlan`, with its model and its place. -/
def sampleTarget (modelId : String) (place : Nat) : RouteTarget where
  modelId
  connectionId := "connection"
  requestModel := "small"
  provider := "provider"
  taskType := .chat
  capabilities := [.streaming]
  routeTag := "cp:virtual:assistant:default"
  fallbackOrder := place
  weight := .ofInt 1

/-- `onePlan` with the models `ids 0`, `ids 1`, and so on. -/
def samplePlan (ids : Nat → String) (count : Nat) : RoutingPlan :=
  { onePlan with default := { onePlan.default with targets := (List.range count).map fun i => sampleTarget (ids i) i } }

theorem samplePlan_accepted {ids : Nat → String} {count : Nat} (hcount : 1 ≤ count ∧ count ≤ 64)
    (hdistinct : ((List.range count).map ids).Nodup) (hids : ∀ i < count, opaqueIdPattern (ids i) = true) :
    (samplePlan ids count).Accepted := by
  have hfacts := sample_facts
  have htargets : (samplePlan ids count).default.targets.length = count := by simp [samplePlan]
  refine ⟨hfacts.virtualModel, ⟨le_rfl, ?_⟩, hfacts.etag, hfacts.published, hfacts.timezone, ⟨hfacts.tag, ?_, ?_, ?_, ?_, ?_⟩,
    fun rule hrule => absurd hrule List.not_mem_nil, Nat.zero_le _, .nil⟩
  · show 1 ≤ maxSafeInteger.toNat
    decide
  · rw [htargets]
    exact hcount
  · simpa [samplePlan, sampleTarget, Function.comp_def] using hdistinct
  · intro target htarget
    obtain ⟨i, -, rfl⟩ := List.mem_map.mp htarget
    rfl
  · rw [htargets]
    simp [samplePlan, sampleTarget, Function.comp_def]
  · intro target htarget
    obtain ⟨i, hi, rfl⟩ := List.mem_map.mp htarget
    have hi := List.mem_range.mp hi
    refine ⟨hids i hi, hfacts.connection, hfacts.requestModel, hfacts.provider, ⟨?_, ?_⟩, hfacts.tag, ?_, ?_⟩
    · simp [sampleTarget]
    · simp [sampleTarget]
    · show i ≤ 63
      omega
    · norm_num [sampleTarget]

theorem samplePlan_read {ids : Nat → String} {count : Nat} (hcount : 1 ≤ count ∧ count ≤ 64)
    (hdistinct : ((List.range count).map ids).Nodup) (hids : ∀ i < count, opaqueIdPattern (ids i) = true) :
    runtimeSnapshotSchema gatewayUrl (hardPublishing (samplePlan ids count)).toJson =
      some (hardPublishing (samplePlan ids count)).normal := by
  have hconnections : ∀ target ∈ (samplePlan ids count).targets, target.connectionId = "connection" := by
    intro target htarget
    simp only [RoutingPlan.targets, samplePlan, onePlan, List.flatMap_nil, List.append_nil] at htarget
    obtain ⟨i, -, rfl⟩ := List.mem_map.mp htarget
    rfl
  obtain ⟨read, hread⟩ := Option.isSome_iff_exists.mp ((runtimeSnapshotSchema_accepts gatewayUrl _).mpr
    (hardPublishing_accepted (samplePlan_accepted hcount hdistinct hids) hconnections))
  rw [hread, (runtimeSnapshotSchema_lawful gatewayUrl).normalises _ _ hread]

def wideId (i : Nat) : String :=
  "0b7f2c1e-5a3d-4c8e-9f10-0000000000" ++ String.ofList [Nat.digitChar (i / 10), Nat.digitChar (i % 10)]

theorem wideId_toList (i : Nat) : (wideId i).toList =
    '0' :: ("b7f2c1e-5a3d-4c8e-9f10-0000000000".toList ++ [Nat.digitChar (i / 10), Nat.digitChar (i % 10)]) := by
  unfold wideId
  rw [String.toList_append, String.toList_ofList]
  simp

theorem digitChar_isDigit : ∀ d < 10, isDigit (Nat.digitChar d) = true := by decide

theorem wide_accepted : ∀ i < 33, opaqueIdPattern (wideId i) = true := by
  intro i hi
  have hrest : ∀ c ∈ "b7f2c1e-5a3d-4c8e-9f10-0000000000".toList,
      (isLower c || isUpper c || isDigit c || "._:@-".toList.contains c) = true :=
    List.all_eq_true.mp (sample_facts).wide
  have hdigits : ∀ c ∈ [Nat.digitChar (i / 10), Nat.digitChar (i % 10)], isDigit c = true := by
    simp [digitChar_isDigit _ (show i / 10 < 10 by omega), digitChar_isDigit _ (show i % 10 < 10 by omega)]
  have hall : ("b7f2c1e-5a3d-4c8e-9f10-0000000000".toList ++ [Nat.digitChar (i / 10), Nat.digitChar (i % 10)]).all
      (fun c => isLower c || isUpper c || isDigit c || "._:@-".toList.contains c) = true := by
    rw [List.all_eq_true]
    intro c hc
    rcases List.mem_append.mp hc with hc | hc
    · exact hrest c hc
    · simp [hdigits c hc]
  unfold opaqueIdPattern
  rw [wideId_toList, headed, hall]
  simp
  decide

theorem digitChar_injective {d e : Nat} (hd : d < 10) (he : e < 10) (h : Nat.digitChar d = Nat.digitChar e) : d = e := by
  have hall : ∀ d < 10, ∀ e < 10, Nat.digitChar d = Nat.digitChar e → d = e := by decide
  exact hall d hd e he h

theorem wide_distinct : ((List.range 33).map wideId).Nodup := by
  refine List.Nodup.map_on ?_ List.nodup_range
  intro i hi j hj h
  have hi := List.mem_range.mp hi
  have hj := List.mem_range.mp hj
  have htexts := congrArg String.toList h
  rw [wideId_toList, wideId_toList] at htexts
  obtain ⟨htens, hones, -⟩ : Nat.digitChar (i / 10) = Nat.digitChar (j / 10) ∧
      Nat.digitChar (i % 10) = Nat.digitChar (j % 10) ∧ True := by simpa using htexts
  have hdiv := digitChar_injective (by omega) (by omega) htens
  have hmod := digitChar_injective (by omega) (by omega) hones
  omega

/-- A call on a sample plan goes to all of its targets, in their order. -/
theorem samplePlan_called (ids : Nat → String) {count : Nat} (hcount : 1 ≤ count) : ∃ route,
    Node.resolveRuntimeRoute utcZone (hardPublishing (samplePlan ids count)).normal deniedInput.model 0
        deniedContext.routeContext = .ok route ∧
      Node.chatTargets route deniedInput false = .ok (samplePlan ids count).default.targets := by
  have hplan : (hardPublishing (samplePlan ids count)).normal.routing.lookup deniedInput.model =
      some (samplePlan ids count).normal := by
    simp [hardPublishing, publishing, Snapshot.normal, UnsignedSnapshot.normal, deniedInput]
  have hzone : utcZone (samplePlan ids count).normal.timezone = some ((utcZone "UTC").get rfl) := rfl
  have hserved : (samplePlan ids count).default.targets.filter
      (fun target => target.taskType = .chat && serves deniedInput false target) = (samplePlan ids count).default.targets := by
    rw [List.filter_eq_self]
    intro target htarget
    obtain ⟨i, -, rfl⟩ := List.mem_map.mp htarget
    rfl
  obtain ⟨primary, fallbacks, htargets⟩ := List.exists_cons_of_ne_nil
    (show (samplePlan ids count).default.targets ≠ [] by simp [samplePlan]; omega)
  unfold Node.resolveRuntimeRoute
  rw [hplan]
  dsimp only
  rw [hzone]
  refine ⟨⟨deniedInput.model, some (samplePlan ids count).virtualModelId, (samplePlan ids count).configurationVersion,
    (samplePlan ids count).configurationEtag, (samplePlan ids count).default.routeTag, none, primary, fallbacks⟩, ?_, ?_⟩
  · show selection _ _ _ _ _ (samplePlan ids count).default.targets = _
    rw [htargets]
    rfl
  · unfold Node.chatTargets candidates
    dsimp only
    rw [← htargets, hserved, htargets]

theorem deniedContext_resolved : deniedContext.Resolved where
  userId := (sample_facts).user
  displayUser := nofun
  operationId := (sample_facts).operation
  callSource := nofun
  sized := by decide
  userProperties := by simp [deniedContext]

/-- A call on one target. -/
theorem narrow_route_admitted : ∃ read route targets,
    Node.resolveRuntimeRoute utcZone read deniedInput.model 0 deniedContext.routeContext = .ok route ∧
      Node.chatTargets route deniedInput false = .ok targets ∧
      ∀ rows, (runtimeUserReservationRequestSchema (reservationRequest deniedContext deniedInput targets).toJson = true ∧
          ∃ candidates, resolveCandidates rows (reservationRequest deniedContext deniedInput targets) = .ok candidates) ↔
        Admissible deniedContext deniedInput targets ∧ Offers rows deniedInput.model targets := by
  have hid : ∀ i < 1, opaqueIdPattern smallModel.id = true := fun _ _ => (sample_facts).model
  have hread := @samplePlan_read (fun _ => smallModel.id) 1 ⟨le_rfl, by decide⟩ (by simp) hid
  obtain ⟨route, hroute, htargets⟩ := samplePlan_called (fun _ => smallModel.id) le_rfl
  exact ⟨_, route, _, hroute, htargets, (reservation_admitted_iff gatewayUrl _ _ utcZone 0 deniedContext deniedInput false
    route _ hread deniedContext_resolved hroute htargets).1⟩

/-- A snapshot of the contract, of which a call makes a request that is none. -/
theorem wide_route_refused : ∃ read route targets,
    runtimeSnapshotSchema gatewayUrl wideSnapshot.toJson = some read ∧ read.aiuMode = .hardLimit ∧
      deniedContext.Resolved ∧
      Node.resolveRuntimeRoute utcZone read deniedInput.model 0 deniedContext.routeContext = .ok route ∧
      Node.chatTargets route deniedInput false = .ok targets ∧
      runtimeUserReservationRequestSchema (reservationRequest deniedContext deniedInput targets).toJson = false := by
  have hread := @samplePlan_read wideId 33 ⟨by decide, by decide⟩ wide_distinct wide_accepted
  obtain ⟨route, hroute, htargets⟩ := samplePlan_called wideId (show 1 ≤ 33 by decide)
  refine ⟨_, route, _, hread, rfl, deniedContext_resolved, hroute, htargets, ?_⟩
  rw [← Bool.not_eq_true, request_admitted_iff]
  rintro ⟨-, -, -, -, hsized, -⟩
  revert hsized
  simp [samplePlan]

end TokenPilot.Runtime
