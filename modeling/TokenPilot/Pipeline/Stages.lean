/-
  TokenPilot.Pipeline.Stages — the stages of the usage pipeline and what turns them on:
  `PIPELINE_STAGES` (apps/worker/src/pipeline/types.ts), the replay intent of an inbox
  row (replay-intent.ts), the instance's feature flags
  (packages/shared/src/feature-flags.ts) and the flags the worker runs the pipeline
  with (apps/worker/src/data-plane-runtime.ts).

  `parsePipelineReplayIntent_some`: no replay intent asks for both ratings.
-/

import TokenPilot.Quota.Store

namespace TokenPilot.Pipeline

open TokenPilot.Quota

/-! ## Stages -/

inductive PipelineStageName where
  | received
  | normalized
  | modelResolved
  | providerCostRated
  | aiuRated
  | quotaSettled
  | officialCommitted
  | outboxCreated
  | completed
  | deadLetter
  deriving DecidableEq, Repr

/-- `PIPELINE_STAGES.indexOf(stage)`. -/
def stageRank : PipelineStageName → Nat
  | .received => 0
  | .normalized => 1
  | .modelResolved => 2
  | .providerCostRated => 3
  | .aiuRated => 4
  | .quotaSettled => 5
  | .officialCommitted => 6
  | .outboxCreated => 7
  | .completed => 8
  | .deadLetter => 9

/-! ## Replay intents -/

inductive ProviderCostReplay where
  | keepExisting
  | rerate
  deriving DecidableEq, Repr

inductive AiuReplay where
  | keepUnrated
  | backfill
  deriving DecidableEq, Repr

inductive QuotaReplay where
  | keepExisting
  deriving DecidableEq, Repr

/-- The authority is `reconciliation`; there is no other. A rating is `none` where the
    source's value is `undefined`. -/
structure PipelineReplayIntent where
  runId : String
  providerCost : Option ProviderCostReplay
  aiu : Option AiuReplay
  quota : QuotaReplay
  deriving DecidableEq, Repr

inductive JsonValue where
  | null
  | boolean (value : Bool)
  | number (literal : String)
  | string (value : String)
  | array (values : List JsonValue)
  | object (fields : List (String × JsonValue))

def JsonValue.asString : JsonValue → Option String
  | .string value => some value
  | _ => none

def exactKeys (fields : List (String × JsonValue)) (keys : List String) : Bool :=
  (fields.map (·.1)).isPerm keys

def isHexDigit (c : Char) : Bool :=
  c.isDigit || ('a' ≤ c && c ≤ 'f') || ('A' ≤ c && c ≤ 'F')

/-- `UUID_PATTERN`, position by position. -/
def isUuid (text : String) : Bool :=
  text.length == 36 && text.toList.zipIdx.all fun (c, i) =>
    if i == 8 || i == 13 || i == 18 || i == 23 then c == '-'
    else if i == 14 then '1' ≤ c && c ≤ '8'
    else if i == 19 then c == '8' || c == '9' || c == 'a' || c == 'b' || c == 'A' || c == 'B'
    else isHexDigit c

/-- The names every object inherits. -/
def objectPrototypeKeys : List String :=
  ["constructor", "__defineGetter__", "__defineSetter__", "hasOwnProperty", "__lookupGetter__", "__lookupSetter__",
    "isPrototypeOf", "propertyIsEnumerable", "toString", "valueOf", "__proto__", "toLocaleString"]

/-- `RECONCILIATION_REPLAY_ACTIONS[replayType]`: an inherited name is not `undefined`, and
    spreads to nothing. -/
def reconciliationReplayActions (replayType : String) : Option (Option ProviderCostReplay × Option AiuReplay) :=
  if replayType = "rerun_provider_cost" then some (some .rerate, some .keepUnrated)
  else if replayType = "rerun_aiu_observe" then some (some .keepExisting, some .backfill)
  else if objectPrototypeKeys.contains replayType then some (none, none)
  else none

def parsePipelineReplayIntent (id : Uuid) (replayIntentJson : JsonValue) :
    Except Failure (Option PipelineReplayIntent) :=
  match replayIntentJson with
  | .null => .ok none
  | .object fields =>
    let invalid := .error (.typeError s!"Inbox {id} has an invalid reconciliation replay intent")
    match (fields.lookup "authority").bind (·.asString), (fields.lookup "run_id").bind (·.asString),
        (fields.lookup "replay_type").bind (·.asString) with
    | some authority, some runId, some replayType =>
      if !exactKeys fields ["authority", "run_id", "replay_type"] || authority != "reconciliation" || !isUuid runId then
        invalid
      else
        match reconciliationReplayActions replayType with
        | none => .error (.typeError s!"Inbox {id} has an unsupported reconciliation replay intent")
        | some (providerCost, aiu) => .ok (some ⟨runId, providerCost, aiu, .keepExisting⟩)
    | _, _, _ => invalid
  | _ => .error (.typeError s!"Inbox {id} has an invalid replay intent")

/-- No replay reruns both ratings. -/
theorem parsePipelineReplayIntent_some {id : Uuid} {json : JsonValue} {intent : PipelineReplayIntent}
    (h : parsePipelineReplayIntent id json = .ok (some intent)) :
    ¬ (intent.providerCost = some .rerate ∧ intent.aiu = some .backfill) := by
  unfold parsePipelineReplayIntent at h
  split at h
  · cases h
  · dsimp only at h
    split at h
    · split at h
      · cases h
      split at h
      · cases h
      rename_i haction
      cases h
      unfold reconciliationReplayActions at haction
      split at haction
      · cases haction
        simp
      split at haction
      · cases haction
        simp
      split at haction
      · cases haction
        simp
      · cases haction
    · cases h
  · cases h

/-! ## Flags -/

structure InstanceFeatureFlags where
  usagePipeline : Bool
  modelCatalog : Bool
  aiu : Bool
  quota : Bool
  hardLimit : Bool
  reconciliation : Bool
  deriving DecidableEq, Repr

inductive AiuMode where
  | disabled
  | observe
  | softLimit
  | hardLimit
  deriving DecidableEq, Repr

structure InstanceFeatureRuntimePrerequisites where
  aiuEnabled : Bool
  aiuMode : AiuMode
  reconciliationHourlyEnabled : Bool
  reconciliationDailyEnabled : Bool
  deriving DecidableEq, Repr

def instanceFeatureConfigurationIssues (flags : InstanceFeatureFlags)
    (runtime : InstanceFeatureRuntimePrerequisites) : List String :=
  (if flags.quota && !flags.aiu then ["quota requires aiu"] else []) ++
  (if flags.hardLimit && (!flags.aiu || !flags.quota) then ["hard_limit requires aiu and quota"] else []) ++
  (if flags.aiu && (!runtime.aiuEnabled || runtime.aiuMode == .disabled) then
    ["aiu requires AIU_ENABLED=true and an active AIU_MODE"] else []) ++
  (if flags.hardLimit && runtime.aiuMode != .hardLimit then ["hard_limit requires AIU_MODE=hard_limit"] else []) ++
  (if flags.reconciliation && !runtime.reconciliationHourlyEnabled && !runtime.reconciliationDailyEnabled then
    ["reconciliation requires at least one enabled schedule"] else []) ++
  (if runtime.aiuEnabled == (runtime.aiuMode == .disabled) then ["AIU_ENABLED and AIU_MODE are inconsistent"] else [])

structure PipelineRuntimeFlags where
  usagePipeline : Bool
  modelResolution : Bool
  providerCost : Bool
  aiu : Bool
  quota : Bool
  deriving DecidableEq, Repr

/-- The flags the data plane starts the processor with. -/
def pipelineRuntimeFlags (flags : InstanceFeatureFlags) : PipelineRuntimeFlags where
  usagePipeline := true
  modelResolution := flags.modelCatalog
  providerCost := true
  aiu := flags.aiu
  quota := flags.quota

end TokenPilot.Pipeline
