/-
  TokenPilot.Runtime.EditedRoutes — editing and publishing virtual models.

  Each operation checks its own slice of what a publication needs. Three of them leave a virtual
  model that does not publish: an update that enables it while its default model is no candidate,
  the removal of a target that a rule still names, and a rule whose default priority is that of
  another one, after an earlier rule was removed. `Careful` excludes these calls; under it every
  enabled virtual model stays publishable (`edited_publishable`).
-/

import TokenPilot.Runtime.Editing

namespace TokenPilot.Runtime

open Library

/-! ## Publishable -/

structure Publishable (virtualModel : EditedModel) : Prop where
  routed : virtualModel.targets ≠ []
  default : ∃ target ∈ virtualModel.targets, virtualModel.defaultModelId = some target.model.id
  rules : ∀ rule ∈ virtualModel.rules, rule.enabled = true →
    ∃ target ∈ virtualModel.targets, target.model.id = rule.targetModel.id
  priorities : ((virtualModel.rules.filter (·.enabled)).map (·.priority)).Nodup
  /-- `pushVirtualModelIssues` reports capabilities at most. -/
  clean : ∀ timezone, ∀ issue ∈ virtualModelIssues (virtualModel.row timezone)
    (activeTargets (virtualModel.row timezone).publishedTargets), issue.code = .modelCapabilitiesInvalid
  ruled : ∀ timezone audience rules issues,
    buildRules (virtualModel.row timezone) (activeTargets (virtualModel.row timezone).publishedTargets) audience 0 []
      (virtualModel.row timezone).publishedRules = .ok (rules, issues) →
    ∀ issue ∈ issues, issue.code ≠ .routePriorityDuplicate ∧ issue.code ≠ .routeTargetUnavailable

/-- The calls of the editor that leave priorities to their defaults. -/
def DefaultPriorities : EditCall → Prop
  | .addRule _ _ rule => rule.priority = none
  | .updateRule _ _ changes => changes.priority = none
  | _ => True

/-- None of the three calls that break a virtual model. -/
def Careful (state : Editor) : EditCall → Prop
  | .update id changes => ∀ virtualModel ∈ state, virtualModel.id = id →
    changes.enabled.getD virtualModel.enabled = true →
      ∃ target ∈ virtualModel.targets, changes.defaultModelId.getD virtualModel.defaultModelId = some target.model.id
  | .removeTarget id targetId => ∀ virtualModel ∈ state, virtualModel.id = id →
    ∀ target ∈ virtualModel.targets, target.id = targetId →
      ∀ rule ∈ virtualModel.rules, rule.targetModel.id ≠ target.model.id
  | .addRule id _ _ => ∀ virtualModel ∈ state, virtualModel.id = id →
    ∀ rule ∈ virtualModel.rules, rule.priority ≠ virtualModel.defaultPriority
  | _ => True

instance (state : Editor) (call : EditCall) : Decidable (Careful state call) := by
  cases call <;> unfold Careful <;> infer_instance

instance : DecidablePred DefaultPriorities := fun call => by
  cases call <;> unfold DefaultPriorities <;> infer_instance

/-! ## The invariant -/

structure EditedModel.Sound (virtualModel : EditedModel) : Prop where
  active : ∀ target ∈ virtualModel.targets,
    target.enabled = true ∧ target.model.enabled = true ∧ target.model.connection.enabled = true
  typed : ∀ target ∈ virtualModel.targets, target.model.taskType = virtualModel.taskType
  default : virtualModel.enabled = true →
    ∃ target ∈ virtualModel.targets, virtualModel.defaultModelId = some target.model.id
  rules : ∀ rule ∈ virtualModel.rules, ∃ target ∈ virtualModel.targets, target.model = rule.targetModel
  priorities : (virtualModel.rules.map (·.priority)).Nodup

theorem assertModel_ok {models : ModelTable} {id : String} {taskType : TaskType} {model : ModelRow}
    (h : assertModel models id taskType = .ok model) :
    model.taskType = taskType ∧ model.enabled = true ∧ model.connection.enabled = true := by
  unfold assertModel at h
  split at h
  · cases h
  · rename_i found hfound
    split at h
    · cases h
    · rename_i htype
      cases h
      have hchecked := List.find?_some hfound
      simp only [Bool.and_eq_true] at hchecked
      exact ⟨not_not.mp htype, hchecked.1.2, hchecked.2⟩

theorem assertCandidate_ok {virtualModel : EditedModel} {modelId : String} {target : EditedTarget}
    (h : assertCandidate virtualModel modelId = .ok target) : target ∈ virtualModel.targets := by
  unfold assertCandidate at h
  split at h
  · cases h
  · rename_i found hfound
    cases h
    exact List.mem_of_find?_eq_some hfound

namespace EditedModel

theorem created_sound (id name : String) (displayName : Option String) (taskType : TaskType)
    (defaultModelId : Option String) : (created id name displayName taskType defaultModelId).Sound :=
  ⟨by simp [created], by simp [created], by simp [created], by simp [created], by simp [created]⟩

theorem changed_sound {virtualModel : EditedModel} (h : virtualModel.Sound) {changes : ModelChanges}
    (htyped : ∀ target ∈ virtualModel.targets, target.model.taskType = changes.taskType.getD virtualModel.taskType)
    (hcareful : changes.enabled.getD virtualModel.enabled = true →
      ∃ target ∈ virtualModel.targets, changes.defaultModelId.getD virtualModel.defaultModelId = some target.model.id) :
    (virtualModel.changed changes).Sound :=
  ⟨h.active, htyped, hcareful, h.rules, h.priorities⟩

theorem update_sound {models : ModelTable} {virtualModel edited : EditedModel} {changes : ModelChanges}
    (h : virtualModel.Sound) (hupdate : virtualModel.update models changes = .ok edited)
    (hcareful : changes.enabled.getD virtualModel.enabled = true →
      ∃ target ∈ virtualModel.targets, changes.defaultModelId.getD virtualModel.defaultModelId = some target.model.id) :
    edited.Sound := by
  unfold update at hupdate
  split at hupdate
  · cases hupdate
  · split at hupdate
    · cases hupdate
    · rename_i hchecked
      have htyped : ∀ target ∈ virtualModel.targets,
          target.model.taskType = changes.taskType.getD virtualModel.taskType := by
        intro target htarget
        cases htype : changes.taskType with
        | none => exact h.typed target htarget
        | some taskType =>
          rw [htype] at hchecked
          simp only [Option.isSome_some, true_and, List.any_eq_true, not_exists, not_and] at hchecked
          simpa using hchecked target htarget
      have heq : edited = virtualModel.changed changes := by
        split at hupdate
        · cases hmodel : assertModel models _ (changes.taskType.getD virtualModel.taskType) with
          | error e =>
            rw [hmodel] at hupdate
            cases hupdate
          | ok model =>
            rw [hmodel] at hupdate
            cases hupdate
            rfl
        · cases hupdate
          rfl
      rw [heq]
      exact changed_sound h htyped hcareful

theorem addTarget_sound {models : ModelTable} {virtualModel edited : EditedModel} {targetId modelId : String}
    {priority : Option Int} {weight : Option Decimal} (h : virtualModel.Sound)
    (hadd : virtualModel.addTarget models targetId modelId priority weight = .ok edited) : edited.Sound := by
  unfold addTarget at hadd
  obtain ⟨model, hmodel, hadd⟩ := bind_ok hadd
  obtain ⟨htype, henabled, hconnection⟩ := assertModel_ok hmodel
  split at hadd
  · cases hadd
  · dsimp only at hadd
    split at hadd
    · cases hadd
      refine ⟨?_, ?_, ?_, ?_, h.priorities⟩
      · intro target htarget
        rcases List.mem_append.mp htarget with hold | hnew
        · exact h.active target hold
        · rw [List.mem_singleton.mp hnew]
          exact ⟨rfl, henabled, hconnection⟩
      · intro target htarget
        rcases List.mem_append.mp htarget with hold | hnew
        · exact h.typed target hold
        · rw [List.mem_singleton.mp hnew]
          exact htype
      · intro hon
        obtain ⟨target, htarget, hdefault⟩ := h.default hon
        exact ⟨target, List.mem_append_left _ htarget, by simp [withTarget, hdefault]⟩
      · intro rule hrule
        obtain ⟨target, htarget, hsame⟩ := h.rules rule hrule
        exact ⟨target, List.mem_append_left _ htarget, hsame⟩
    · cases hadd

theorem mapTargets_sound {virtualModel : EditedModel} (h : virtualModel.Sound) {f : EditedTarget → EditedTarget}
    (hmodel : ∀ target, (f target).model = target.model) (hid : ∀ target, (f target).id = target.id)
    (henabled : ∀ target, (f target).enabled = target.enabled) : (virtualModel.mapTargets f hmodel hid).Sound := by
  refine ⟨?_, ?_, ?_, ?_, h.priorities⟩
  · intro target htarget
    obtain ⟨old, hold, rfl⟩ := List.mem_map.mp htarget
    rw [hmodel, henabled]
    exact h.active old hold
  · intro target htarget
    obtain ⟨old, hold, rfl⟩ := List.mem_map.mp htarget
    rw [hmodel]
    exact h.typed old hold
  · intro hon
    obtain ⟨target, htarget, hdefault⟩ := h.default hon
    exact ⟨f target, List.mem_map_of_mem htarget, by rw [hmodel]; exact hdefault⟩
  · intro rule hrule
    obtain ⟨target, htarget, hsame⟩ := h.rules rule hrule
    exact ⟨f target, List.mem_map_of_mem htarget, by rw [hmodel]; exact hsame⟩

theorem reorderTargets_sound {virtualModel edited : EditedModel} {ids : List String} (h : virtualModel.Sound)
    (horder : virtualModel.reorderTargets ids = .ok edited) : edited.Sound := by
  unfold reorderTargets at horder
  split at horder
  · cases horder
  · cases horder
    exact mapTargets_sound h _ _ fun target => by split <;> rfl

theorem updateTarget_sound {virtualModel edited : EditedModel} {targetId : String} {weight : Decimal}
    (h : virtualModel.Sound) (hupdate : virtualModel.updateTarget targetId weight = .ok edited) : edited.Sound := by
  unfold updateTarget at hupdate
  split at hupdate
  · split at hupdate
    · cases hupdate
    · cases hupdate
      exact mapTargets_sound h _ _ fun target => by split <;> rfl
  · cases hupdate

theorem mem_orderedTargets {virtualModel : EditedModel} {target : EditedTarget} :
    target ∈ virtualModel.orderedTargets ↔ target ∈ virtualModel.targets :=
  (List.perm_insertionSort _ _).mem_iff

theorem mem_orderedRules {virtualModel : EditedModel} {rule : RuleRow} :
    rule ∈ virtualModel.orderedRules ↔ rule ∈ virtualModel.rules :=
  (List.perm_insertionSort _ _).mem_iff

/-- A target of another model is another target. -/
theorem other_target {virtualModel : EditedModel} {target other : EditedTarget} (htarget : target ∈ virtualModel.targets)
    (hother : other ∈ virtualModel.targets) (hne : other.model.id ≠ target.model.id) : other.id ≠ target.id := by
  intro heq
  have hsame : other = target := List.inj_on_of_nodup_map virtualModel.targets_unique hother htarget heq
  exact hne (by rw [hsame])

theorem withoutTarget_sound {virtualModel : EditedModel} (h : virtualModel.Sound) {target : EditedTarget}
    (htarget : target ∈ virtualModel.targets)
    (hcareful : ∀ rule ∈ virtualModel.rules, rule.targetModel.id ≠ target.model.id) :
    (virtualModel.withoutTarget target).Sound := by
  have hkept : ∀ other ∈ virtualModel.targets, other.model.id ≠ target.model.id →
      other ∈ (virtualModel.withoutTarget target).targets := by
    intro other hother hne
    exact List.mem_filter.mpr ⟨hother, by simpa using other_target htarget hother hne⟩
  refine ⟨?_, ?_, ?_, ?_, h.priorities⟩
  · intro other hother
    exact h.active other (List.mem_of_mem_filter hother)
  · intro other hother
    exact h.typed other (List.mem_of_mem_filter hother)
  · intro hon
    by_cases hlost : virtualModel.defaultModelId = some target.model.id
    · -- the next target takes over; without one the virtual model is off
      cases hnext : virtualModel.orderedTargets.find? (·.id ≠ target.id) with
      | none =>
        have hoff : (virtualModel.withoutTarget target).enabled = false := by
          simp only [withoutTarget, hlost, hnext]
          rfl
        rw [hoff] at hon
        cases hon
      | some next =>
        refine ⟨next, List.mem_filter.mpr ⟨mem_orderedTargets.mp (List.mem_of_find?_eq_some hnext), ?_⟩, ?_⟩
        · have hother := List.find?_some hnext
          exact hother
        · simp only [withoutTarget, hlost, hnext]
          rfl
    · obtain ⟨other, hother, hdefault⟩ := h.default (by simpa [withoutTarget, hlost] using hon)
      refine ⟨other, hkept other hother ?_, ?_⟩
      · intro heq
        exact hlost (by rw [hdefault, heq])
      · simpa [withoutTarget, hlost] using hdefault
  · intro rule hrule
    obtain ⟨other, hother, hsame⟩ := h.rules rule hrule
    refine ⟨other, hkept other hother ?_, hsame⟩
    rw [hsame]
    exact hcareful rule hrule

theorem removeTarget_sound {virtualModel edited : EditedModel} {targetId : String} (h : virtualModel.Sound)
    (hremove : virtualModel.removeTarget targetId = .ok edited)
    (hcareful : ∀ target ∈ virtualModel.targets, target.id = targetId →
      ∀ rule ∈ virtualModel.rules, rule.targetModel.id ≠ target.model.id) : edited.Sound := by
  unfold removeTarget at hremove
  split at hremove
  · cases hremove
  · rename_i target htarget
    cases hremove
    have hmem := mem_orderedTargets.mp (List.mem_of_find?_eq_some htarget)
    exact withoutTarget_sound h hmem (hcareful target hmem (by simpa using List.find?_some htarget))

theorem addRule_sound {virtualModel edited : EditedModel} {ruleId : String} {new : NewRule} (h : virtualModel.Sound)
    (hadd : virtualModel.addRule ruleId new = .ok edited) (hpriority : new.priority = none)
    (hcareful : ∀ rule ∈ virtualModel.rules, rule.priority ≠ virtualModel.defaultPriority) : edited.Sound := by
  unfold addRule at hadd
  split at hadd
  · cases hadd
  · obtain ⟨candidate, hcandidate, hadd⟩ := bind_ok hadd
    dsimp only at hadd
    split at hadd
    · cases hadd
      refine ⟨h.active, h.typed, h.default, ?_, ?_⟩
      · intro rule hrule
        rcases List.mem_append.mp hrule with hold | hnew
        · exact h.rules rule hold
        · rw [List.mem_singleton.mp hnew]
          exact ⟨candidate, assertCandidate_ok hcandidate, rfl⟩
      · apply nodup_snoc h.priorities
        dsimp only
        rw [hpriority]
        intro hmem
        obtain ⟨rule, hrule, heq⟩ := List.mem_map.mp hmem
        exact hcareful rule hrule heq
    · cases hadd

theorem updateRule_sound {virtualModel edited : EditedModel} {ruleId : String} {changes : RuleChanges}
    (h : virtualModel.Sound) (hupdate : virtualModel.updateRule ruleId changes = .ok edited)
    (hpriority : changes.priority = none) : edited.Sound := by
  unfold updateRule at hupdate
  split at hupdate
  · cases hupdate
  · obtain ⟨targetModel, htarget, hupdate⟩ := bind_ok hupdate
    have hcandidate : ∀ model, targetModel = some model → ∃ target ∈ virtualModel.targets, target.model = model := by
      intro model hmodel
      cases hid : changes.targetModelId with
      | none =>
        rw [hid] at htarget
        cases htarget
        cases hmodel
      | some modelId =>
        rw [hid] at htarget
        simp only [Option.mapM_some] at htarget
        cases hassert : assertCandidate virtualModel modelId with
        | error e =>
          rw [hassert] at htarget
          cases htarget
        | ok candidate =>
          rw [hassert] at htarget
          cases htarget
          cases hmodel
          exact ⟨candidate, assertCandidate_ok hassert, rfl⟩
    split at hupdate
    · cases hupdate
    · split at hupdate
      · cases hupdate
        refine ⟨h.active, h.typed, h.default, ?_, ?_⟩
        · intro rule hrule
          obtain ⟨old, hold, rfl⟩ := List.mem_map.mp hrule
          split
          · cases hmodel : targetModel with
            | none => exact h.rules old hold
            | some model => exact hcandidate model hmodel
          · exact h.rules old hold
        · have hsame : ((virtualModel.replaceRule ruleId changes targetModel).rules.map (·.priority)) =
              virtualModel.rules.map (·.priority) := by
            show (virtualModel.rules.map _).map _ = _
            rw [List.map_map]
            apply List.map_congr_left
            intro rule _
            simp only [Function.comp]
            split
            · simp [RuleRow.changed, hpriority]
            · rfl
          rw [hsame]
          exact h.priorities
      · cases hupdate

theorem removeRule_sound {virtualModel edited : EditedModel} {ruleId : String} (h : virtualModel.Sound)
    (hremove : virtualModel.removeRule ruleId = .ok edited) : edited.Sound := by
  unfold removeRule at hremove
  split at hremove
  · cases hremove
    exact ⟨h.active, h.typed, h.default, fun rule hrule => h.rules rule (List.mem_of_mem_filter hrule),
      h.priorities.sublist (List.filter_sublist.map _)⟩
  · cases hremove

end EditedModel

/-! ## Runs -/

/-- An edit replaces one virtual model by what its operation returned. -/
theorem edit_ok {state state' : Editor} {id : String} {f : EditedModel → Except EditError EditedModel} {o : Unit}
    (h : state.edit id f = .ok (o, state')) :
    ∃ virtualModel ∈ state, virtualModel.id = id ∧
      ∃ edited, f virtualModel = .ok edited ∧ ∀ other ∈ state', other ∈ state ∨ other = edited := by
  unfold Editor.edit at h
  split at h
  · cases h
  · rename_i virtualModel hfound
    obtain ⟨edited, hedited, h⟩ := bind_ok h
    cases h
    refine ⟨virtualModel, List.mem_of_find?_eq_some hfound, by simpa using List.find?_some hfound, edited, hedited, ?_⟩
    intro other hother
    obtain ⟨old, hold, rfl⟩ := List.mem_map.mp hother
    split
    · exact .inr rfl
    · exact .inl hold

theorem edit_sound {state state' : Editor} {id : String} {f : EditedModel → Except EditError EditedModel} {o : Unit}
    (hstate : ∀ virtualModel ∈ state, virtualModel.Sound) (h : state.edit id f = .ok (o, state'))
    (hf : ∀ virtualModel ∈ state, virtualModel.id = id → ∀ edited, f virtualModel = .ok edited → edited.Sound) :
    ∀ virtualModel ∈ state', virtualModel.Sound := by
  obtain ⟨virtualModel, hmem, hid, edited, hedited, hmembers⟩ := edit_ok h
  intro other hother
  rcases hmembers other hother with hold | rfl
  · exact hstate other hold
  · exact hf virtualModel hmem hid _ hedited

theorem create_sound {models : ModelTable} {state state' : Editor} {id name : String} {displayName : Option String}
    {taskType : TaskType} {defaultModelId : Option String} {o : Unit} (hstate : ∀ virtualModel ∈ state, virtualModel.Sound)
    (h : state.create models id name displayName taskType defaultModelId = .ok (o, state')) :
    ∀ virtualModel ∈ state', virtualModel.Sound := by
  unfold Editor.create at h
  obtain ⟨_, -, h⟩ := bind_ok h
  split at h
  · cases h
  · cases h
    intro other hother
    rcases List.mem_append.mp hother with hold | hnew
    · exact hstate other hold
    · rw [List.mem_singleton.mp hnew]
      exact EditedModel.created_sound id name displayName taskType defaultModelId

theorem exec_sound {models : ModelTable} (state : Editor) (call : EditCall) (o : Unit) (state' : Editor)
    (hstate : ∀ virtualModel ∈ state, virtualModel.Sound) (hcall : DefaultPriorities call ∧ Careful state call)
    (h : (editMachine models).exec state call = .ok (o, state')) : ∀ virtualModel ∈ state', virtualModel.Sound := by
  cases call with
  | create id name displayName taskType defaultModelId => exact create_sound hstate h
  | update id changes =>
    refine edit_sound hstate h fun virtualModel hmem hid edited hedited => ?_
    exact EditedModel.update_sound (hstate virtualModel hmem) hedited (hcall.2 virtualModel hmem hid)
  | addTarget id targetId modelId priority weight =>
    refine edit_sound hstate h fun virtualModel hmem hid edited hedited => ?_
    exact EditedModel.addTarget_sound (hstate virtualModel hmem) hedited
  | reorderTargets id orderedTargetIds =>
    refine edit_sound hstate h fun virtualModel hmem hid edited hedited => ?_
    exact EditedModel.reorderTargets_sound (hstate virtualModel hmem) hedited
  | updateTarget id targetId weight =>
    refine edit_sound hstate h fun virtualModel hmem hid edited hedited => ?_
    exact EditedModel.updateTarget_sound (hstate virtualModel hmem) hedited
  | removeTarget id targetId =>
    refine edit_sound hstate h fun virtualModel hmem hid edited hedited => ?_
    exact EditedModel.removeTarget_sound (hstate virtualModel hmem) hedited (hcall.2 virtualModel hmem hid)
  | addRule id ruleId rule =>
    refine edit_sound hstate h fun virtualModel hmem hid edited hedited => ?_
    exact EditedModel.addRule_sound (hstate virtualModel hmem) hedited hcall.1 (hcall.2 virtualModel hmem hid)
  | updateRule id ruleId changes =>
    refine edit_sound hstate h fun virtualModel hmem hid edited hedited => ?_
    exact EditedModel.updateRule_sound (hstate virtualModel hmem) hedited hcall.1
  | removeRule id ruleId =>
    refine edit_sound hstate h fun virtualModel hmem hid edited hedited => ?_
    exact EditedModel.removeRule_sound (hstate virtualModel hmem) hedited

/-! ## What a publication says of it -/

/-- Every target is published. -/
theorem published_active {virtualModel : EditedModel} (h : virtualModel.Sound) (timezone : String) :
    activeTargets (virtualModel.row timezone).publishedTargets = virtualModel.orderedTargets.map (·.toTargetRow) := by
  have hall : ∀ target ∈ virtualModel.orderedTargets.map (·.toTargetRow),
      target.enabled = true ∧ target.model.enabled = true ∧ target.model.connection.enabled = true := by
    intro target htarget
    obtain ⟨edited, hedited, rfl⟩ := List.mem_map.mp htarget
    exact h.active edited (EditedModel.mem_orderedTargets.mp hedited)
  have henabled : (virtualModel.row timezone).publishedTargets = virtualModel.orderedTargets.map (·.toTargetRow) :=
    List.filter_eq_self.mpr fun target htarget => (hall target htarget).1
  rw [henabled]
  refine List.filter_eq_self.mpr fun target htarget => ?_
  obtain ⟨-, hmodel, hconnection⟩ := hall target htarget
  rw [hmodel, hconnection]
  rfl

theorem checkRule_code {virtualModel : VirtualModelRow} {targets : List TargetRow} {audience : RouteAudience}
    {rule : RuleRow} {issue : PublicationIssue} (hmodel : rule.targetModel.enabled = true)
    (htarget : ∃ target ∈ targets, target.model.id = rule.targetModel.id)
    (h : checkRule virtualModel targets audience rule = .error issue) :
    issue.code ≠ .routePriorityDuplicate ∧ issue.code ≠ .routeTargetUnavailable := by
  unfold checkRule at h
  split at h
  · cases h
    exact ⟨by simp [VirtualModelRow.issue], by simp [VirtualModelRow.issue]⟩
  · split at h
    · cases h
      exact ⟨by simp [VirtualModelRow.issue], by simp [VirtualModelRow.issue]⟩
    · split at h
      · rename_i hnone
        obtain ⟨target, hmem, hid⟩ := htarget
        have hno := List.find?_eq_none.mp hnone target hmem
        simp [hid] at hno
      · rw [hmodel] at h
        cases h

theorem buildRules_codes {virtualModel : VirtualModelRow} {targets : List TargetRow} {audience : RouteAudience}
    {rows : List RuleRow} {index : Nat} {priorities : List Int} {rules : List RoutingRule}
    {issues : List PublicationIssue} (hmodels : ∀ rule ∈ rows, rule.targetModel.enabled = true)
    (htargets : ∀ rule ∈ rows, ∃ target ∈ targets, target.model.id = rule.targetModel.id)
    (hpriorities : (rows.map (·.priority)).Nodup) (hfresh : ∀ rule ∈ rows, rule.priority ∉ priorities)
    (h : buildRules virtualModel targets audience index priorities rows = .ok (rules, issues)) :
    ∀ issue ∈ issues, issue.code ≠ .routePriorityDuplicate ∧ issue.code ≠ .routeTargetUnavailable := by
  induction rows generalizing index priorities rules issues with
  | nil =>
    cases h
    simp
  | cons row rest ih =>
    rw [List.map_cons, List.nodup_cons] at hpriorities
    have hrest : ∀ rule ∈ rest, rule.priority ∉ row.priority :: priorities := by
      intro rule hrule hmem
      rcases List.mem_cons.mp hmem with heq | hmem
      · exact hpriorities.1 (heq ▸ List.mem_map_of_mem hrule)
      · exact hfresh rule (by simp [hrule]) hmem
    have hrec : ∀ {rules : List RoutingRule} {issues : List PublicationIssue},
        buildRules virtualModel targets audience (index + 1) (row.priority :: priorities) rest = .ok (rules, issues) →
        ∀ issue ∈ issues, issue.code ≠ .routePriorityDuplicate ∧ issue.code ≠ .routeTargetUnavailable :=
      fun h => ih (fun rule hrule => hmodels rule (by simp [hrule])) (fun rule hrule => htargets rule (by simp [hrule]))
        hpriorities.2 hrest h
    rw [buildRules, if_neg (hfresh row (by simp))] at h
    split at h
    · rename_i issue hissue
      obtain ⟨⟨others, more⟩, hothers, h⟩ := bind_ok h
      cases h
      intro reported hreported
      rcases List.mem_cons.mp hreported with rfl | hmore
      · exact checkRule_code (hmodels row (by simp)) (htargets row (by simp)) hissue
      · exact hrec hothers reported hmore
    · obtain ⟨first, -, h⟩ := bind_ok h
      obtain ⟨⟨others, more⟩, hothers, h⟩ := bind_ok h
      cases h
      exact hrec hothers

theorem EditedModel.Sound.publishable {virtualModel : EditedModel} (h : virtualModel.Sound)
    (hon : virtualModel.enabled = true) : Publishable virtualModel := by
  obtain ⟨first, hfirst, hdefault⟩ := h.default hon
  refine ⟨List.ne_nil_of_mem hfirst, ⟨first, hfirst, hdefault⟩, ?_, h.priorities.sublist (List.filter_sublist.map _), ?_, ?_⟩
  · intro rule hrule _
    obtain ⟨target, htarget, hsame⟩ := h.rules rule hrule
    exact ⟨target, htarget, by rw [hsame]⟩
  · intro timezone issue hissue
    rw [published_active h] at hissue
    have hmem : first.toTargetRow ∈ virtualModel.orderedTargets.map (·.toTargetRow) :=
      List.mem_map_of_mem (EditedModel.mem_orderedTargets.mpr hfirst)
    unfold virtualModelIssues at hissue
    rw [if_neg (List.ne_nil_of_mem hmem), if_pos, if_neg] at hissue
    · simp only [List.nil_append] at hissue
      split at hissue
      · rw [List.mem_singleton.mp hissue]
        rfl
      · cases hissue
    · rw [List.any_eq_true]
      rintro ⟨target, htarget, htype⟩
      obtain ⟨edited, hedited, rfl⟩ := List.mem_map.mp htarget
      have hsame := h.typed edited (EditedModel.mem_orderedTargets.mp hedited)
      simp [EditedModel.row, hsame] at htype
    · rw [List.any_eq_true]
      exact ⟨_, hmem, decide_eq_true hdefault.symm⟩
  · intro timezone audience rules issues hbuilt
    rw [published_active h] at hbuilt
    have hrule : ∀ rule ∈ (virtualModel.row timezone).publishedRules, rule ∈ virtualModel.rules := by
      intro rule hrule
      exact EditedModel.mem_orderedRules.mp (List.mem_of_mem_filter hrule)
    refine buildRules_codes ?_ ?_ ?_ (by simp) hbuilt
    · intro rule hmem
      obtain ⟨target, htarget, hsame⟩ := h.rules rule (hrule rule hmem)
      rw [← hsame]
      exact (h.active target htarget).2.1
    · intro rule hmem
      obtain ⟨target, htarget, hsame⟩ := h.rules rule (hrule rule hmem)
      exact ⟨target.toTargetRow, List.mem_map_of_mem (EditedModel.mem_orderedTargets.mpr htarget), by rw [hsame]⟩
    · have hall : (virtualModel.orderedRules.map (·.priority)).Nodup :=
        ((List.perm_insertionSort _ _).map _).nodup_iff.mpr h.priorities
      exact hall.sublist (List.filter_sublist.map _)

/-- Over every sequence of calls on any models, from no virtual models at all. -/
theorem edited_publishable (models : ModelTable) (calls : List EditCall)
    (hcalls : (editMachine models).Guarded (fun state call => DefaultPriorities call ∧ Careful state call) [] calls) :
    ∀ virtualModel ∈ (editMachine models).run [] calls, virtualModel.enabled = true → Publishable virtualModel := by
  have hsound : ∀ virtualModel ∈ (editMachine models).run [] calls, virtualModel.Sound :=
    Machine.guarded_invariant exec_sound calls [] (by simp) hcalls
  intro virtualModel hmem hon
  exact (hsound virtualModel hmem).publishable hon

/-! ## A rule that outlives its target -/

def largeModel : ModelRow :=
  { smallModel with id := "9d2e7a64-1f0b-4c35-8a7e-6b5c4d3e2f10", name := "large", requestModel := "large" }

def twoModels : ModelTable where
  rows := [smallModel, largeModel]
  unique := by decide

def assistantId : String := "3a1e4d52-7c6b-4f80-8e91-a2b3c4d5e6f7"
def largeTargetId : String := "e1f2a3b4-0c1d-4e2f-8a3b-4c5d6e7f8091"

/-- Two candidates, enabled, and a rule for the second. -/
def ruledCalls : List EditCall :=
  [.create assistantId "assistant" none .chat none,
    .addTarget assistantId "d0c1b2a3-9485-4776-8695-0123456789ab" smallModel.id none none,
    .addTarget assistantId largeTargetId largeModel.id none none,
    .update assistantId { enabled := some true },
    .addRule assistantId "c4b3a291-8f7e-4d6c-9b5a-493827160504"
      { name := "jobs", targetModelId := largeModel.id, priority := none
        «match» := .runtime (.callSource "jobs"), expiresAt := none }]

theorem target_removed_under_rule :
    ¬ ∀ (models : ModelTable) (calls : List EditCall), (∀ call ∈ calls, DefaultPriorities call) →
      ∀ virtualModel ∈ (editMachine models).run [] calls, virtualModel.enabled = true → Publishable virtualModel := by
  intro hall
  have hedited : ((editMachine twoModels).run [] (ruledCalls ++ [.removeTarget assistantId largeTargetId])).map
      (fun virtualModel => (virtualModel.enabled, virtualModel.targets.map (·.model.id),
        virtualModel.rules.map fun rule => (rule.enabled, rule.targetModel.id))) =
      [(true, [smallModel.id], [(true, largeModel.id)])] := by decide +kernel
  obtain ⟨virtualModel, hmodels, hvalues⟩ := List.map_eq_singleton_iff.mp hedited
  simp only [Prod.mk.injEq] at hvalues
  obtain ⟨hon, htargets, hrules⟩ := hvalues
  have hpublishable := hall twoModels (ruledCalls ++ [.removeTarget assistantId largeTargetId]) (by decide +kernel)
    virtualModel (by simp [hmodels]) hon
  obtain ⟨rule, hrule, hvalue⟩ := List.map_eq_singleton_iff.mp hrules
  obtain ⟨henabled, hlarge⟩ := Prod.mk.inj hvalue
  obtain ⟨target, htarget, hid⟩ := hpublishable.rules rule (by simp [hrule]) henabled
  have hmem : target.model.id ∈ virtualModel.targets.map (·.model.id) := List.mem_map_of_mem htarget
  rw [htargets, hid, hlarge] at hmem
  revert hmem
  decide

theorem ruled_publishable :
    ((editMachine twoModels).run [] ruledCalls).any (·.enabled) = true ∧
      ∀ virtualModel ∈ (editMachine twoModels).run [] ruledCalls, virtualModel.enabled = true → Publishable virtualModel :=
  ⟨by decide +kernel, edited_publishable twoModels ruledCalls (by decide +kernel)⟩

end TokenPilot.Runtime
