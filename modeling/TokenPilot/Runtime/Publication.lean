/-
  TokenPilot.Runtime.Publication — `runtime-publication-builder.ts` and the conditions of
  `route-matches.ts`: from the configuration rows to a signed snapshot.

  The rows carry what the database keeps of them: a virtual model has each model and each
  target and rule id once, its rules are read by descending priority, and an application has
  each virtual model name and connection id once. `publishedTargets` and `publishedRules` are
  what the publication reads of a virtual model, the enabled ones.

  A publication collects issues and fails with all of them; it can also fail on a model whose
  capabilities cannot be read, or when the schema rejects the snapshot it signs.
-/

import TokenPilot.Runtime.Integrity

namespace TokenPilot.Runtime

open Library

/-! ## Rows -/

structure ConnectionRow where
  id : String
  name : String
  driver : Driver
  baseUrl : Option String
  credentialRef : Option String
  publicConfigJson : Value
  enabled : Bool

structure ModelRow where
  id : String
  name : String
  requestModel : String
  provider : String
  taskType : TaskType
  capabilitiesJson : Value
  enabled : Bool
  connection : ConnectionRow

structure TargetRow where
  id : String
  model : ModelRow
  weight : Decimal
  enabled : Bool

structure RuleRow where
  id : String
  name : String
  priority : Int
  matchJson : Value
  targetModel : ModelRow
  expiresAt : Option Int
  enabled : Bool

structure VirtualModelRow where
  id : String
  name : String
  displayName : String
  taskType : TaskType
  timezone : String
  defaultModelId : Option String
  targets : List TargetRow
  rules : List RuleRow
  ranked : rules.Pairwise fun a b => b.priority ≤ a.priority
  models_unique : (targets.map (·.model.id)).Nodup
  targets_unique : (targets.map (·.id)).Nodup
  rules_unique : (rules.map (·.id)).Nodup

def VirtualModelRow.publishedTargets (virtualModel : VirtualModelRow) : List TargetRow :=
  virtualModel.targets.filter (·.enabled)

def VirtualModelRow.publishedRules (virtualModel : VirtualModelRow) : List RuleRow :=
  virtualModel.rules.filter (·.enabled)

/-! ## Audience and conditions -/

inductive UserStatus where
  | active
  | blocked
  deriving DecidableEq, Repr

structure AudienceQuota where
  enabled : Bool
  hardLimit : Bool
  limitAiuMicros : Int
  consumedAiuMicros : Int
  reservedAiuMicros : Int
  deriving DecidableEq, Repr

structure RouteAudienceUser where
  externalId : String
  tags : List String
  status : UserStatus
  quota : Option AudienceQuota
  deriving DecidableEq, Repr

structure RouteAudience where
  users : List RouteAudienceUser
  groups : List (String × List String)

inductive AiuState where
  | available
  | low
  | exhausted
  | unlimited
  deriving DecidableEq, Repr

def AiuState.text : AiuState → String
  | .available => "available"
  | .low => "low"
  | .exhausted => "exhausted"
  | .unlimited => "unlimited"

def aiuStates : List AiuState := [.available, .low, .exhausted, .unlimited]

def aiuState (user : RouteAudienceUser) : AiuState :=
  match user.quota with
  | none => .unlimited
  | some quota =>
    if !quota.enabled || !quota.hardLimit then .unlimited
    else
      let remaining := quota.limitAiuMicros - quota.consumedAiuMicros - quota.reservedAiuMicros
      if remaining ≤ 0 then .exhausted
      else if 0 < quota.limitAiuMicros ∧ remaining * 5 ≤ quota.limitAiuMicros then .low
      else .available

/-- A condition as it is stored with a rule. -/
inductive StoredMatch where
  | runtime (condition : RouteMatch)
  | userGroup (groupId : String)
  | userTag (value : String)
  | aiuState (state : AiuState)

def StoredMatch.toJson : StoredMatch → Value
  | .runtime condition => condition.toJson
  | .userGroup groupId => .obj [("user_group", .obj [("group_id", .str groupId)])]
  | .userTag value => .obj [("user_tag", .obj [("value", .str value)])]
  | .aiuState state => .obj [("aiu_state", .obj [("value", .str state.text)])]

def virtualModelRouteMatchSchema (v : Value) : Option StoredMatch :=
  (runtimeRouteMatchSchema v).map .runtime
    <|> (onlyField "user_group" (onlyField "group_id" (textSchema uuidPattern)) v).map .userGroup
    <|> (onlyField "user_tag" (onlyField "value"
          (trimmedSchema fun s => 1 ≤ jsLength s && jsLength s ≤ 64)) v).map .userTag
    <|> (onlyField "aiu_state" (onlyField "value" (enumSchema AiuState.text aiuStates)) v).map .aiuState

inductive MatchError where
  | invalid
  | unevaluatedGroup
  | unsupported
  deriving DecidableEq, Repr

def resolveRuntimeMatch (value : Value) (audience : RouteAudience) : Except MatchError RouteMatch :=
  match virtualModelRouteMatchSchema value with
  | none => .error .invalid
  | some stored =>
    match runtimeRouteMatchSchema stored.toJson with
    | some direct => .ok direct
    | none =>
      match stored with
      | .userGroup groupId =>
        match audience.groups.lookup groupId with
        | none => .error .unevaluatedGroup
        | some ids => .ok (.user ids)
      | .userTag tag => .ok (.user ((audience.users.filter (·.tags.contains tag)).map (·.externalId)))
      | .aiuState state => .ok (.user ((audience.users.filter (aiuState · = state)).map (·.externalId)))
      | .runtime _ => .error .unsupported

/-! ## Issues -/

inductive IssueCode where
  | noEnabledVirtualModel
  | connectionConfigurationInvalid
  | virtualModelHasNoRoute
  | virtualModelDefaultUnavailable
  | virtualModelTaskMismatch
  | modelCapabilitiesInvalid
  | routePriorityDuplicate
  | routeConditionInvalid
  | userGroupSnapshotMissing
  | routeTargetUnavailable
  deriving DecidableEq, Repr

inductive IssueObject where
  | connection
  | virtualModel
  deriving DecidableEq, Repr

structure PublicationIssue where
  code : IssueCode
  message : String
  objectType : IssueObject
  objectId : String
  objectName : String
  deriving DecidableEq, Repr

inductive PublicationFailure where
  | issues (issues : List PublicationIssue)
  | capabilities (requestModel : String)
  | snapshot
  deriving DecidableEq, Repr

def VirtualModelRow.issue (virtualModel : VirtualModelRow) (code : IssueCode) (message : String) : PublicationIssue :=
  ⟨code, virtualModel.displayName ++ message, .virtualModel, virtualModel.id, virtualModel.displayName⟩

/-! ## Routes -/

def activeTargets (targets : List TargetRow) : List TargetRow :=
  targets.filter fun target => target.model.enabled && target.model.connection.enabled

def routeTarget (target : TargetRow) (routeTag : String) (order : Nat) : Except PublicationFailure RouteTarget :=
  match modelCapabilitiesSchema target.model.capabilitiesJson with
  | none => .error (.capabilities target.model.requestModel)
  | some capabilities =>
    .ok
      { modelId := target.model.id
        connectionId := target.model.connection.id
        requestModel := target.model.requestModel
        provider := target.model.provider
        taskType := target.model.taskType
        capabilities
        routeTag
        fallbackOrder := order
        weight := target.weight }

/-- The targets of a route, from the fallback order `order` on. -/
def routeTargets (routeTag : String) : Nat → List TargetRow → Except PublicationFailure (List RouteTarget)
  | _, [] => .ok []
  | order, target :: rest => do
    let first ← routeTarget target routeTag order
    let others ← routeTargets routeTag (order + 1) rest
    return first :: others

/-- `pushVirtualModelIssues` -/
def virtualModelIssues (virtualModel : VirtualModelRow) (targets : List TargetRow) : List PublicationIssue :=
  (if targets = [] then [virtualModel.issue .virtualModelHasNoRoute " has no available real model."] else []) ++
    (if targets.any (fun target => some target.model.id = virtualModel.defaultModelId) then []
      else [virtualModel.issue .virtualModelDefaultUnavailable " has no available preferred real model."]) ++
    (if targets.any (fun target => target.model.taskType ≠ virtualModel.taskType) then
      [virtualModel.issue .virtualModelTaskMismatch " contains real models with a different task type."] else []) ++
    (if targets.any (fun target => (modelCapabilitiesSchema target.model.capabilitiesJson).isNone) then
      [virtualModel.issue .modelCapabilitiesInvalid " contains real models with invalid capabilities."] else [])

/-- What a rule is published for: its condition and the target it selects. -/
def checkRule (virtualModel : VirtualModelRow) (targets : List TargetRow) (audience : RouteAudience) (rule : RuleRow) :
    Except PublicationIssue (RouteMatch × TargetRow) :=
  match virtualModelRouteMatchSchema rule.matchJson with
  | none =>
    .error (virtualModel.issue .routeConditionInvalid " contains a route condition that cannot be published.")
  | some stored =>
    match resolveRuntimeMatch stored.toJson audience with
    | .error _ =>
      .error (virtualModel.issue .userGroupSnapshotMissing
        " contains a user-group condition without a current member list.")
    | .ok runtimeMatch =>
      match targets.find? (·.model.id = rule.targetModel.id) with
      | none =>
        .error (virtualModel.issue .routeTargetUnavailable " contains a condition for an unavailable real model.")
      | some selected =>
        if rule.targetModel.enabled then .ok (runtimeMatch, selected)
        else .error (virtualModel.issue .routeTargetUnavailable " contains a condition for an unavailable real model.")

/-- One rule of a plan; the number of its route tag is its place among the rules. -/
def publishedRule (virtualModel : VirtualModelRow) (targets : List TargetRow) (index : Nat) (rule : RuleRow)
    (runtimeMatch : RouteMatch) (selected : TargetRow) : Except PublicationFailure RoutingRule := do
  let routeTag := "cp:virtual:" ++ virtualModel.name ++ ":rule" ++ toString (index + 1)
  let published ← routeTargets routeTag 0 (selected :: targets.filter (·.id ≠ selected.id))
  return {
    id := rule.id
    priority := rule.priority
    «match» := runtimeMatch
    route := { routeTag, selectionMode := .ordered, targets := published }
    expiresAt := rule.expiresAt.map UtcTime.ofMilliseconds }

/-- The rules from the place `index` on, with the priorities already seen. -/
def buildRules (virtualModel : VirtualModelRow) (targets : List TargetRow) (audience : RouteAudience) :
    Nat → List Int → List RuleRow → Except PublicationFailure (List RoutingRule × List PublicationIssue)
  | _, _, [] => .ok ([], [])
  | index, priorities, rule :: rest =>
    if rule.priority ∈ priorities then do
      let (rules, issues) ← buildRules virtualModel targets audience (index + 1) priorities rest
      return (rules, virtualModel.issue .routePriorityDuplicate
        " contains route conditions with the same priority." :: issues)
    else
      match checkRule virtualModel targets audience rule with
      | .error issue => do
        let (rules, issues) ← buildRules virtualModel targets audience (index + 1) (rule.priority :: priorities) rest
        return (rules, issue :: issues)
      | .ok (runtimeMatch, selected) => do
        let first ← publishedRule virtualModel targets index rule runtimeMatch selected
        let (rules, issues) ← buildRules virtualModel targets audience (index + 1) (rule.priority :: priorities) rest
        return (first :: rules, issues)

/-- The default model's target, then the others. -/
def defaultFirst (virtualModel : VirtualModelRow) (targets : List TargetRow) : List TargetRow :=
  let index := targets.findIdx fun target => some target.model.id = virtualModel.defaultModelId
  match targets[index]? with
  | some first => first :: targets.eraseIdx index
  | none => targets

def defaultRoute (virtualModel : VirtualModelRow) (targets : List TargetRow) : Except PublicationFailure Route := do
  let ordered := defaultFirst virtualModel targets
  let routeTag := "cp:virtual:" ++ virtualModel.name ++ ":default"
  let published ← routeTargets routeTag 0 ordered
  return {
    routeTag
    selectionMode := if ordered.any (fun target => target.weight ≠ .ofInt 1) then .weighted else .ordered
    targets := published }

/-! ## The publication -/

structure RuntimeApplication where
  id : String
  slug : String
  enabled : Bool

structure RuntimeSettings where
  featureAiu : Bool
  featureHardLimit : Bool

structure PublicationInput where
  application : RuntimeApplication
  settings : Option RuntimeSettings
  properties : List String
  connections : List ConnectionRow
  virtualModels : List VirtualModelRow
  audience : RouteAudience
  version : Nat
  now : Int
  names_unique : (virtualModels.map (·.name)).Nodup
  connections_unique : (connections.map (·.id)).Nodup

section

variable (digest : Digest) (isHttpUrl : String → Bool)

/-- `{ application_id, version, virtual_model_id, default, rules }` under its fingerprint. -/
def configurationEtag (applicationId : String) (version : Nat) (virtualModelId : String) (default : Route)
    (rules : List RoutingRule) : String :=
  runtimeFingerprint digest (.obj
    [ ("application_id", .str applicationId), ("version", integer version), ("virtual_model_id", .str virtualModelId),
      ("default", default.toJson), ("rules", .arr (rules.map RoutingRule.toJson)) ])

/-- The plan of a virtual model, `none` when it has an issue of its own, and its issues. -/
def virtualModelPlan (input : PublicationInput) (virtualModel : VirtualModelRow) :
    Except PublicationFailure (Option RoutingPlan × List PublicationIssue) :=
  let targets := activeTargets virtualModel.publishedTargets
  match virtualModelIssues virtualModel targets with
  | [] => do
    let default ← defaultRoute virtualModel targets
    let (rules, issues) ← buildRules virtualModel targets input.audience 0 [] virtualModel.publishedRules
    return (some
      { virtualModelId := virtualModel.id
        configurationVersion := input.version
        configurationEtag := configurationEtag digest input.application.id input.version virtualModel.id default rules
        publishedAt := .ofMilliseconds input.now
        timezone := virtualModel.timezone
        default
        rules }, issues)
  | issues => .ok (none, issues)

def buildRouting (input : PublicationInput) :
    List VirtualModelRow → Except PublicationFailure (List (String × RoutingPlan) × List PublicationIssue)
  | [] => .ok ([], [])
  | virtualModel :: rest => do
    let (plan, issues) ← virtualModelPlan digest input virtualModel
    let (plans, others) ← buildRouting input rest
    return ((plan.map (Prod.mk virtualModel.name)).toList ++ plans, issues ++ others)

/-- A number of the public configuration, or what stands for it when it has none. -/
def configNumber (config : List (String × Value)) (key : String) (default : Int) : Value :=
  match config.lookup key with
  | some (.num n) => .num n
  | _ => integer default

def publicConfig : Value → List (String × Value)
  | .obj fields => fields
  | _ => []

def configText (config : List (String × Value)) (key : String) : Value :=
  match config.lookup key with
  | some (.str s) => .str s
  | _ => .null

/-- `runtimeConnection`, `none` when the schema rejects the connection. -/
def runtimeConnection (row : ConnectionRow) : Option Connection :=
  let config := publicConfig row.publicConfigJson
  runtimeCallConnectionSchema isHttpUrl (.obj
    ([("id", .str row.id), ("name", .str row.name), ("driver", .str row.driver.text), ("base_url", orNull row.baseUrl),
      ("credential_ref", orNull row.credentialRef), ("timeout_ms", configNumber config "timeout_ms" 60000),
      ("max_retries", configNumber config "max_retries" 2)] ++
      if row.driver = .anthropic then [("api_version", configText config "api_version")] else []))

def buildConnections : List ConnectionRow → List (String × Connection) × List PublicationIssue
  | [] => ([], [])
  | row :: rest =>
    match runtimeConnection isHttpUrl row with
    | some connection => ((row.id, connection) :: (buildConnections rest).1, (buildConnections rest).2)
    | none => ((buildConnections rest).1, ⟨.connectionConfigurationInvalid,
        row.name ++ " has an invalid public connection configuration.", .connection, row.id, row.name⟩ ::
          (buildConnections rest).2)

def aiuEnabled (settings : Option RuntimeSettings) : Bool := settings.any (·.featureAiu)

def aiuMode (settings : Option RuntimeSettings) : AiuMode :=
  if settings.any (·.featureAiu) then
    if settings.any (·.featureHardLimit) then .hardLimit else .observe
  else .disabled

def blockedUserIds (audience : RouteAudience) : List String :=
  (audience.users.filter (·.status = .blocked)).map (·.externalId)

/-- Ten years after `now`. -/
def snapshotExpiry (now : Int) : UtcTime := .ofMilliseconds (now + 10 * 365 * 86400000)

def runtimeVersion (slug : String) (version : Nat) : String := "runtime-" ++ slug ++ "-" ++ toString version

/-- The value a publication without issues signs. -/
def publicationBody (input : PublicationInput) (routing : List (String × RoutingPlan)) : UnsignedSnapshot where
  applicationId := input.application.id
  version := runtimeVersion input.application.slug input.version
  expiresAt := snapshotExpiry input.now
  connections := (buildConnections isHttpUrl input.connections).1
  routing
  aiuEnabled := aiuEnabled input.settings
  aiuMode := aiuMode input.settings
  unratedModelPolicy := .allowUnrated
  access := { applicationEnabled := input.application.enabled, blockedUserIds := blockedUserIds input.audience }
  analyticsAllowedKeys := input.properties

def emptyIssues (input : PublicationInput) : List PublicationIssue :=
  if input.virtualModels = [] then
    [⟨.noEnabledVirtualModel, "Enable at least one virtual model before publishing.", .virtualModel,
      input.application.id, input.application.slug⟩]
  else []

def buildRuntimePublication (input : PublicationInput) : Except PublicationFailure Snapshot := do
  let (routing, routingIssues) ← buildRouting digest input input.virtualModels
  match emptyIssues input ++ (buildConnections isHttpUrl input.connections).2 ++ routingIssues with
  | [] =>
    match signRuntimeSnapshot digest isHttpUrl (publicationBody isHttpUrl input routing) with
    | some snapshot => .ok snapshot
    | none => .error .snapshot
  | issues => .error (.issues issues)

end

end TokenPilot.Runtime
