/-
  TokenPilot.Runtime.Editing — the editing operations of `VirtualModelService`
  (apps/api/src/virtual-models/virtual-model.service.ts).

  Calls come with their input parsed. Row ids are given by the database; a call names the one it
  gets. Targets are read by ascending, rules by descending priority, each by their creation after
  that. The models of the application do not change here. A weight is stored as `numeric(9, 6)`,
  rounded to six places, and must be positive and fit.

  Left out: the description, the audit entries and what the calls return.
-/

import Mathlib.Data.List.Sort
import TokenPilot.Runtime.Restore

namespace TokenPilot.Runtime

open Library

/-! ## Rows -/

structure EditedTarget extends TargetRow where
  priority : Int

/-- A virtual model with its targets and rules in the order of their creation. -/
structure EditedModel where
  id : String
  name : String
  displayName : String
  taskType : TaskType
  enabled : Bool
  defaultModelId : Option String
  targets : List EditedTarget
  rules : List RuleRow
  models_unique : (targets.map (·.model.id)).Nodup
  targets_unique : (targets.map (·.id)).Nodup
  rules_unique : (rules.map (·.id)).Nodup

def EditedModel.orderedTargets (virtualModel : EditedModel) : List EditedTarget :=
  virtualModel.targets.insertionSort fun a b => a.priority ≤ b.priority

def EditedModel.orderedRules (virtualModel : EditedModel) : List RuleRow :=
  virtualModel.rules.insertionSort fun a b => b.priority ≤ a.priority

/-- The virtual model as the publication reads it. -/
def EditedModel.row (virtualModel : EditedModel) (timezone : String) : VirtualModelRow where
  id := virtualModel.id
  name := virtualModel.name
  displayName := virtualModel.displayName
  taskType := virtualModel.taskType
  timezone := timezone
  defaultModelId := virtualModel.defaultModelId
  targets := virtualModel.orderedTargets.map (·.toTargetRow)
  rules := virtualModel.orderedRules
  ranked := List.pairwise_insertionSort _ _
  models_unique := by
    rw [List.map_map]
    exact ((List.perm_insertionSort _ _).map _).nodup_iff.mpr virtualModel.models_unique
  targets_unique := by
    rw [List.map_map]
    exact ((List.perm_insertionSort _ _).map _).nodup_iff.mpr virtualModel.targets_unique
  rules_unique := ((List.perm_insertionSort _ _).map _).nodup_iff.mpr virtualModel.rules_unique

/-! ## Calls -/

inductive EditError where
  | badRequest (message : String)
  | notFound (message : String)
  | uniqueViolation
  | checkViolation
  deriving DecidableEq, Repr

structure ModelChanges where
  displayName : Option String := none
  taskType : Option TaskType := none
  defaultModelId : Option (Option String) := none
  enabled : Option Bool := none

structure NewRule where
  name : String
  targetModelId : String
  priority : Option Int
  «match» : StoredMatch
  expiresAt : Option Int

structure RuleChanges where
  name : Option String := none
  targetModelId : Option String := none
  priority : Option Int := none
  «match» : Option StoredMatch := none
  expiresAt : Option (Option Int) := none
  enabled : Option Bool := none

inductive EditCall where
  | create (id name : String) (displayName : Option String) (taskType : TaskType) (defaultModelId : Option String)
  | update (id : String) (changes : ModelChanges)
  | addTarget (id targetId modelId : String) (priority : Option Int) (weight : Option Decimal)
  | reorderTargets (id : String) (orderedTargetIds : List String)
  | updateTarget (id targetId : String) (weight : Decimal)
  | removeTarget (id targetId : String)
  | addRule (id ruleId : String) (rule : NewRule)
  | updateRule (id ruleId : String) (changes : RuleChanges)
  | removeRule (id ruleId : String)

/-! ## What the calls check -/

def assertModel (models : ModelTable) (id : String) (taskType : TaskType) : Except EditError ModelRow :=
  match models.rows.find? fun model => model.id = id && model.enabled && model.connection.enabled with
  | none => .error (.badRequest "Route model is not available")
  | some model =>
    if model.taskType ≠ taskType then .error (.badRequest "Route model uses a different task type") else .ok model

/-- The candidate a rule selects. -/
def assertCandidate (virtualModel : EditedModel) (modelId : String) : Except EditError EditedTarget :=
  match virtualModel.targets.find? fun target => target.model.id = modelId && target.enabled with
  | none => .error (.badRequest "A route condition must select an enabled candidate")
  | some target => .ok target

/-- The weight in six places, half rounded up; `none` when the column or its check refuses it. -/
def storedWeight (weight : Decimal) : Option Decimal :=
  let scaled := (weight.toRat * 1000000 + 1 / 2).floor
  if 0 < scaled ∧ scaled < 1000000000 then some (.ofScaled scaled (-6)) else none

def StoredMatch.isOverride : StoredMatch → Bool
  | .runtime .overrideActive => true
  | _ => false

/-- A temporary route has an expiry. -/
def temporaryExpires (condition : StoredMatch) (expiresAt : Option Int) : Bool :=
  !condition.isOverride || expiresAt.isSome

/-! ## Operations on one virtual model -/

theorem nodup_snoc {α β : Type} {k : α → β} {l : List α} {a : α} (h : (l.map k).Nodup) (ha : k a ∉ l.map k) :
    ((l ++ [a]).map k).Nodup := by
  rw [List.map_append, List.map_singleton, ← List.concat_eq_append]
  exact h.concat ha

theorem nodup_kept {α β : Type} {k : α → β} {f : α → α} {l : List α} (h : (l.map k).Nodup) (hf : ∀ a, k (f a) = k a) :
    ((l.map f).map k).Nodup := by
  have hmap : (l.map f).map k = l.map k := by
    rw [List.map_map]
    exact List.map_congr_left fun a _ => hf a
  rw [hmap]
  exact h

/-- A rule after its changes; `targetModel` is the model of its new candidate, if it gets one. -/
def RuleRow.changed (rule : RuleRow) (changes : RuleChanges) (targetModel : Option ModelRow) : RuleRow :=
  { rule with
    name := changes.name.getD rule.name
    targetModel := targetModel.getD rule.targetModel
    priority := changes.priority.getD rule.priority
    matchJson := (changes.match.map StoredMatch.toJson).getD rule.matchJson
    expiresAt := changes.expiresAt.getD rule.expiresAt
    enabled := changes.enabled.getD rule.enabled }

namespace EditedModel

def changed (virtualModel : EditedModel) (changes : ModelChanges) : EditedModel :=
  { virtualModel with
    displayName := changes.displayName.getD virtualModel.displayName
    taskType := changes.taskType.getD virtualModel.taskType
    defaultModelId := changes.defaultModelId.getD virtualModel.defaultModelId
    enabled := changes.enabled.getD virtualModel.enabled }

def update (models : ModelTable) (virtualModel : EditedModel) (changes : ModelChanges) : Except EditError EditedModel :=
  if changes.enabled = some true ∧ virtualModel.targets.isEmpty then
    .error (.badRequest "A virtual model needs at least one route before enabling")
  else if changes.taskType.isSome ∧
      virtualModel.targets.any (·.model.taskType ≠ changes.taskType.getD virtualModel.taskType) then
    .error (.badRequest "Remove models with a different task type before changing it")
  else
    match changes.defaultModelId with
    | some (some modelId) =>
      (assertModel models modelId (changes.taskType.getD virtualModel.taskType)).map fun _ => virtualModel.changed changes
    | _ => .ok (virtualModel.changed changes)

/-- A target more; the first one becomes the default when there is none. -/
def withTarget (virtualModel : EditedModel) (target : EditedTarget)
    (hmodel : target.model.id ∉ virtualModel.targets.map (·.model.id))
    (hid : target.id ∉ virtualModel.targets.map (·.id)) : EditedModel :=
  { virtualModel with
    targets := virtualModel.targets ++ [target]
    defaultModelId := virtualModel.defaultModelId <|> some target.model.id
    models_unique := nodup_snoc virtualModel.models_unique hmodel
    targets_unique := nodup_snoc virtualModel.targets_unique hid }

def addTarget (models : ModelTable) (virtualModel : EditedModel) (targetId modelId : String) (priority : Option Int)
    (weight : Option Decimal) : Except EditError EditedModel := do
  let model ← assertModel models modelId virtualModel.taskType
  match storedWeight (weight.getD (.ofInt 1)) with
  | none => .error .checkViolation
  | some stored =>
    let target : EditedTarget :=
      { id := targetId, model, weight := stored, enabled := true
        priority := priority.getD virtualModel.targets.length }
    if h : target.model.id ∉ virtualModel.targets.map (·.model.id) ∧ target.id ∉ virtualModel.targets.map (·.id) then
      .ok (virtualModel.withTarget target h.1 h.2)
    else .error .uniqueViolation

/-- Targets changed in place, with their ids and models. -/
def mapTargets (virtualModel : EditedModel) (f : EditedTarget → EditedTarget) (hmodel : ∀ target, (f target).model = target.model)
    (hid : ∀ target, (f target).id = target.id) : EditedModel :=
  { virtualModel with
    targets := virtualModel.targets.map f
    models_unique := nodup_kept virtualModel.models_unique fun target => congrArg ModelRow.id (hmodel target)
    targets_unique := nodup_kept virtualModel.targets_unique hid }

def reorderTargets (virtualModel : EditedModel) (orderedTargetIds : List String) : Except EditError EditedModel :=
  if orderedTargetIds.length ≠ virtualModel.targets.length ∨
      orderedTargetIds.any (fun id => !(virtualModel.targets.map (·.id)).contains id) then
    .error (.badRequest "Fallback order must contain every candidate exactly once")
  else
    .ok (virtualModel.mapTargets
      (fun target =>
        if target.id ∈ orderedTargetIds then { target with priority := orderedTargetIds.idxOf target.id } else target)
      (fun target => by split <;> rfl) (fun target => by split <;> rfl))

def updateTarget (virtualModel : EditedModel) (targetId : String) (weight : Decimal) : Except EditError EditedModel :=
  if virtualModel.targets.any (·.id = targetId) then
    match storedWeight weight with
    | none => .error .checkViolation
    | some stored =>
      .ok (virtualModel.mapTargets (fun target => if target.id = targetId then { target with weight := stored } else target)
        (fun target => by split <;> rfl) (fun target => by split <;> rfl))
  else .error (.notFound "Route target not found")

/-- The targets but one. Without its default model the virtual model takes the next target, or
    is disabled when there is none. -/
def withoutTarget (virtualModel : EditedModel) (target : EditedTarget) : EditedModel :=
  let next := virtualModel.orderedTargets.find? (·.id ≠ target.id)
  let lost := virtualModel.defaultModelId = some target.model.id
  { virtualModel with
    targets := virtualModel.targets.filter (·.id ≠ target.id)
    defaultModelId := if lost then next.map (·.model.id) else virtualModel.defaultModelId
    enabled := if lost ∧ next.isNone then false else virtualModel.enabled
    models_unique := virtualModel.models_unique.sublist (List.filter_sublist.map _)
    targets_unique := virtualModel.targets_unique.sublist (List.filter_sublist.map _) }

def removeTarget (virtualModel : EditedModel) (targetId : String) : Except EditError EditedModel :=
  match virtualModel.orderedTargets.find? (·.id = targetId) with
  | none => .error (.notFound "Route target not found")
  | some target => .ok (virtualModel.withoutTarget target)

def withRule (virtualModel : EditedModel) (rule : RuleRow) (hid : rule.id ∉ virtualModel.rules.map (·.id)) : EditedModel :=
  { virtualModel with
    rules := virtualModel.rules ++ [rule]
    rules_unique := nodup_snoc virtualModel.rules_unique hid }

/-- The default priority is a thousand less the number of rules. -/
def defaultPriority (virtualModel : EditedModel) : Int := 1000 - virtualModel.rules.length

def addRule (virtualModel : EditedModel) (ruleId : String) (new : NewRule) : Except EditError EditedModel := do
  if !temporaryExpires new.match new.expiresAt then .error (.badRequest "Invalid route condition")
  else
    let candidate ← assertCandidate virtualModel new.targetModelId
    let rule : RuleRow :=
      { id := ruleId, name := new.name, priority := new.priority.getD virtualModel.defaultPriority
        matchJson := new.match.toJson, targetModel := candidate.model, expiresAt := new.expiresAt, enabled := true }
    if h : rule.id ∉ virtualModel.rules.map (·.id) then .ok (virtualModel.withRule rule h) else .error .uniqueViolation

def mapRules (virtualModel : EditedModel) (f : RuleRow → RuleRow) (hid : ∀ rule, (f rule).id = rule.id) : EditedModel :=
  { virtualModel with
    rules := virtualModel.rules.map f
    rules_unique := nodup_kept virtualModel.rules_unique hid }

/-- The stored condition, which was parsed before it was stored. -/
def nextMatch (rule : RuleRow) (changes : RuleChanges) : Option StoredMatch :=
  changes.match <|> virtualModelRouteMatchSchema rule.matchJson

def replaceRule (virtualModel : EditedModel) (ruleId : String) (changes : RuleChanges) (targetModel : Option ModelRow) :
    EditedModel :=
  virtualModel.mapRules (fun rule => if rule.id = ruleId then rule.changed changes targetModel else rule)
    (fun rule => by split <;> rfl)

def updateRule (virtualModel : EditedModel) (ruleId : String) (changes : RuleChanges) : Except EditError EditedModel :=
  match virtualModel.orderedRules.find? (·.id = ruleId) with
  | none => .error (.notFound "Route condition not found")
  | some current => do
    let targetModel ← changes.targetModelId.mapM fun modelId => (·.model) <$> assertCandidate virtualModel modelId
    match nextMatch current changes with
    | none => .error (.badRequest "Invalid route condition changes")
    | some condition =>
      if temporaryExpires condition (changes.expiresAt.getD current.expiresAt) then
        .ok (virtualModel.replaceRule ruleId changes targetModel)
      else .error (.badRequest "A temporary route requires an expiry")

def removeRule (virtualModel : EditedModel) (ruleId : String) : Except EditError EditedModel :=
  if virtualModel.rules.any (·.id = ruleId) then
    .ok { virtualModel with
      rules := virtualModel.rules.filter (·.id ≠ ruleId)
      rules_unique := virtualModel.rules_unique.sublist (List.filter_sublist.map _) }
  else .error (.notFound "Route condition not found")

def created (id name : String) (displayName : Option String) (taskType : TaskType) (defaultModelId : Option String) :
    EditedModel where
  id := id
  name := name
  displayName := displayName.getD name
  taskType := taskType
  enabled := false
  defaultModelId := defaultModelId
  targets := []
  rules := []
  models_unique := .nil
  targets_unique := .nil
  rules_unique := .nil

end EditedModel

/-! ## The service -/

/-- The virtual models of the application. -/
abbrev Editor := List EditedModel

def Editor.edit (state : Editor) (id : String) (f : EditedModel → Except EditError EditedModel) :
    Except EditError (Unit × Editor) :=
  match state.find? (·.id = id) with
  | none => .error (.notFound "Virtual model not found")
  | some virtualModel => do
    let edited ← f virtualModel
    return ((), state.map fun other => if other.id = id then edited else other)

def Editor.create (models : ModelTable) (state : Editor) (id name : String) (displayName : Option String)
    (taskType : TaskType) (defaultModelId : Option String) : Except EditError (Unit × Editor) := do
  let _ ← defaultModelId.mapM fun modelId => assertModel models modelId taskType
  if state.any fun other => other.id = id || other.name = name then .error .uniqueViolation
  else .ok ((), state ++ [.created id name displayName taskType defaultModelId])

def Editor.exec (models : ModelTable) (state : Editor) : EditCall → Except EditError (Unit × Editor)
  | .create id name displayName taskType defaultModelId =>
    state.create models id name displayName taskType defaultModelId
  | .update id changes => state.edit id (·.update models changes)
  | .addTarget id targetId modelId priority weight => state.edit id (·.addTarget models targetId modelId priority weight)
  | .reorderTargets id orderedTargetIds => state.edit id (·.reorderTargets orderedTargetIds)
  | .updateTarget id targetId weight => state.edit id (·.updateTarget targetId weight)
  | .removeTarget id targetId => state.edit id (·.removeTarget targetId)
  | .addRule id ruleId rule => state.edit id (·.addRule ruleId rule)
  | .updateRule id ruleId changes => state.edit id (·.updateRule ruleId changes)
  | .removeRule id ruleId => state.edit id (·.removeRule ruleId)

def editMachine (models : ModelTable) : Machine Editor EditCall Unit EditError := ⟨Editor.exec models⟩

end TokenPilot.Runtime
