/-
  TokenPilot.Runtime.PublicationLaws — what a publication without issues consists of.

  `buildRuntimePublication_ok` takes a successful publication apart: every connection row is
  published as the schema read it, every virtual model has no issue and a plan of its own name,
  with its default route and one rule for each enabled rule row (`PublishedAs`), whose
  priorities are distinct; and the body of it was signed. Everything the body is made of is
  normal, so signing only stamps it (`publicationBody_normal`).
-/

import TokenPilot.Library.Machine
import TokenPilot.Runtime.Publication

namespace TokenPilot.Runtime

open Library

/-! ## Conditions -/

theorem ofMilliseconds_normal (milliseconds : Int) :
    (UtcTime.ofMilliseconds milliseconds).normal = UtcTime.ofMilliseconds milliseconds := by
  unfold UtcTime.normal
  cases hread : utcTimestampSchema (.str (UtcTime.ofMilliseconds milliseconds).text) with
  | none => rfl
  | some time =>
    simp only [utcTimestampSchema] at hread
    split at hread
    · rename_i ms micros htext
      obtain ⟨rfl, rfl⟩ := Prod.mk.inj (readUtc_isoString htext)
      rw [dif_pos (by decide)] at hread
      exact (Option.some.inj hread).symm
    · cases hread

theorem resolveRuntimeMatch_normal {value : Value} {audience : RouteAudience} {condition : RouteMatch}
    (h : resolveRuntimeMatch value audience = .ok condition) : condition.normal = condition := by
  unfold resolveRuntimeMatch at h
  split at h
  · cases h
  · split at h
    · rename_i direct hdirect
      cases h
      exact runtimeRouteMatchSchema_lawful.fixed hdirect
    · split at h
      · split at h
        · cases h
        · cases h
          rfl
      · cases h
        rfl
      · cases h
        rfl
      · cases h

/-! ## Routes -/

/-- The targets of a route are those of its rows, in order. -/
theorem routeTargets_ok {routeTag : String} {order : Nat} {rows : List TargetRow} {targets : List RouteTarget}
    (h : routeTargets routeTag order rows = .ok targets) :
    List.Forall₂ (fun p target => routeTarget p.1 routeTag p.2 = .ok target) (rows.zipIdx order) targets := by
  induction rows generalizing order targets with
  | nil =>
    cases h
    exact .nil
  | cons row rest ih =>
    rw [routeTargets] at h
    obtain ⟨first, hfirst, h⟩ := bind_ok h
    obtain ⟨others, hothers, h⟩ := bind_ok h
    cases h
    exact .cons hfirst (ih hothers)

/-- A rule row and the rule it is published as. -/
def PublishedAs (virtualModel : VirtualModelRow) (targets : List TargetRow) (audience : RouteAudience)
    (row : RuleRow × Nat) (rule : RoutingRule) : Prop :=
  ∃ condition selected, checkRule virtualModel targets audience row.1 = .ok (condition, selected) ∧
    publishedRule virtualModel targets row.2 row.1 condition selected = .ok rule

theorem buildRules_ok {virtualModel : VirtualModelRow} {targets : List TargetRow} {audience : RouteAudience}
    {index : Nat} {priorities : List Int} {rows : List RuleRow} {rules : List RoutingRule}
    (h : buildRules virtualModel targets audience index priorities rows = .ok (rules, [])) :
    List.Forall₂ (PublishedAs virtualModel targets audience) (rows.zipIdx index) rules ∧
      (rows.map (·.priority)).Nodup ∧ ∀ row ∈ rows, row.priority ∉ priorities := by
  induction rows generalizing index priorities rules with
  | nil =>
    cases h
    exact ⟨.nil, List.nodup_nil, by simp⟩
  | cons row rest ih =>
    rw [buildRules] at h
    split at h
    · obtain ⟨⟨others, issues⟩, -, h⟩ := bind_ok h
      cases h
    · rename_i hfresh
      split at h
      · obtain ⟨⟨others, issues⟩, -, h⟩ := bind_ok h
        cases h
      · rename_i condition selected hcheck
        obtain ⟨first, hfirst, h⟩ := bind_ok h
        obtain ⟨⟨others, issues⟩, hothers, h⟩ := bind_ok h
        cases h
        obtain ⟨hrules, hnodup, hseen⟩ := ih hothers
        refine ⟨.cons ⟨condition, selected, hcheck, hfirst⟩ hrules, ?_, ?_⟩
        · rw [List.map_cons, List.nodup_cons]
          refine ⟨fun hmem => ?_, hnodup⟩
          obtain ⟨other, hother, heq⟩ := List.mem_map.mp hmem
          exact hseen other hother (by simp [heq])
        · rw [List.forall_mem_cons]
          exact ⟨hfresh, fun other hother hmem => hseen other hother (by simp [hmem])⟩

theorem checkRule_normal {virtualModel : VirtualModelRow} {targets : List TargetRow} {audience : RouteAudience}
    {row : RuleRow} {condition : RouteMatch} {selected : TargetRow}
    (h : checkRule virtualModel targets audience row = .ok (condition, selected)) : condition.normal = condition := by
  unfold checkRule at h
  split at h
  · cases h
  · split at h
    · cases h
    · rename_i hresolve
      split at h
      · cases h
      · split at h
        · cases h
          exact resolveRuntimeMatch_normal hresolve
        · cases h

theorem PublishedAs.normal {virtualModel : VirtualModelRow} {targets : List TargetRow} {audience : RouteAudience}
    {row : RuleRow × Nat} {rule : RoutingRule} (h : PublishedAs virtualModel targets audience row rule) :
    rule.normal = rule := by
  obtain ⟨condition, selected, hcheck, hrule⟩ := h
  unfold publishedRule at hrule
  obtain ⟨published, -, hrule⟩ := bind_ok hrule
  cases hrule
  have hexpiry : (row.1.expiresAt.map UtcTime.ofMilliseconds).map UtcTime.normal =
      row.1.expiresAt.map UtcTime.ofMilliseconds := by
    cases row.1.expiresAt with
    | none => rfl
    | some expiry => rw [Option.map_some, Option.map_some, ofMilliseconds_normal]
  unfold RoutingRule.normal
  dsimp only
  rw [checkRule_normal hcheck, hexpiry]

/-! ## Plans -/

section

variable {digest : Digest} {isHttpUrl : String → Bool}

/-- A virtual model and the plan it is published with. -/
structure PlannedAs (digest : Digest) (input : PublicationInput) (virtualModel : VirtualModelRow)
    (plan : RoutingPlan) : Prop where
  clean : virtualModelIssues virtualModel (activeTargets virtualModel.publishedTargets) = []
  default : defaultRoute virtualModel (activeTargets virtualModel.publishedTargets) = .ok plan.default
  rules : buildRules virtualModel (activeTargets virtualModel.publishedTargets) input.audience 0 []
    virtualModel.publishedRules = .ok (plan.rules, [])
  rest : plan = { plan with
    virtualModelId := virtualModel.id
    configurationVersion := input.version
    configurationEtag :=
      configurationEtag digest input.application.id input.version virtualModel.id plan.default plan.rules
    publishedAt := .ofMilliseconds input.now
    timezone := virtualModel.timezone }

theorem virtualModelPlan_ok {input : PublicationInput} {virtualModel : VirtualModelRow} {plan : Option RoutingPlan}
    (h : virtualModelPlan digest input virtualModel = .ok (plan, [])) :
    ∃ planned, plan = some planned ∧ PlannedAs digest input virtualModel planned := by
  unfold virtualModelPlan at h
  dsimp only at h
  split at h
  · rename_i hclean
    obtain ⟨default, hdefault, h⟩ := bind_ok h
    obtain ⟨⟨rules, issues⟩, hrules, h⟩ := bind_ok h
    cases h
    exact ⟨_, rfl, hclean, hdefault, hrules, rfl⟩
  · rename_i hdirty
    exact absurd (Prod.mk.inj (Except.ok.inj h)).2 hdirty

theorem buildRouting_ok {input : PublicationInput} {virtualModels : List VirtualModelRow}
    {routing : List (String × RoutingPlan)} (h : buildRouting digest input virtualModels = .ok (routing, [])) :
    List.Forall₂ (fun virtualModel entry => entry.1 = virtualModel.name ∧ PlannedAs digest input virtualModel entry.2)
      virtualModels routing := by
  induction virtualModels generalizing routing with
  | nil =>
    cases h
    exact .nil
  | cons virtualModel rest ih =>
    rw [buildRouting] at h
    obtain ⟨⟨plan, issues⟩, hplan, h⟩ := bind_ok h
    obtain ⟨⟨plans, others⟩, hplans, h⟩ := bind_ok h
    simp only [pure, Except.pure, Except.ok.injEq, Prod.mk.injEq, List.append_eq_nil_iff] at h
    obtain ⟨rfl, rfl, rfl⟩ := h
    obtain ⟨planned, rfl, hplanned⟩ := virtualModelPlan_ok hplan
    exact .cons ⟨rfl, hplanned⟩ (ih hplans)

theorem PlannedAs.normal {input : PublicationInput} {virtualModel : VirtualModelRow} {plan : RoutingPlan}
    (h : PlannedAs digest input virtualModel plan) : plan.normal = plan := by
  have hrules : plan.rules.map RoutingRule.normal = plan.rules := by
    obtain ⟨hpublished, -, -⟩ := buildRules_ok h.rules
    generalize plan.rules = rules at hpublished
    generalize virtualModel.publishedRules.zipIdx = rows at hpublished
    induction hpublished with
    | nil => rfl
    | cons hfirst _ ih => rw [List.map_cons, hfirst.normal, ih]
  have hpublished : plan.publishedAt.normal = plan.publishedAt := by
    rw [h.rest]
    exact ofMilliseconds_normal _
  unfold RoutingPlan.normal
  rw [hrules, hpublished]

theorem buildConnections_normal (rows : List ConnectionRow) :
    (buildConnections isHttpUrl rows).1.map (fun entry => (entry.1, entry.2.normal)) =
      (buildConnections isHttpUrl rows).1 := by
  induction rows with
  | nil => rfl
  | cons row rest ih =>
    rw [buildConnections]
    split
    · rename_i connection hconnection
      have hnormal : connection.normal = connection :=
        (runtimeCallConnectionSchema_lawful isHttpUrl).fixed hconnection
      rw [List.map_cons, ih, hnormal]
    · exact ih

/-- What a successful publication signed. -/
theorem buildRuntimePublication_ok {input : PublicationInput} {snapshot : Snapshot}
    (h : buildRuntimePublication digest isHttpUrl input = .ok snapshot) :
    ∃ routing, buildRouting digest input input.virtualModels = .ok (routing, []) ∧ input.virtualModels ≠ [] ∧
      (buildConnections isHttpUrl input.connections).2 = [] ∧
      signRuntimeSnapshot digest isHttpUrl (publicationBody isHttpUrl input routing) = some snapshot := by
  unfold buildRuntimePublication at h
  obtain ⟨⟨routing, issues⟩, hrouting, h⟩ := bind_ok h
  dsimp only at h
  split at h
  · rename_i hissues
    obtain ⟨⟨hempty, hconnections⟩, rfl⟩ : (emptyIssues input = [] ∧
        (buildConnections isHttpUrl input.connections).2 = []) ∧ issues = [] := by
      simpa only [List.append_eq_nil_iff] using hissues
    split at h
    · rename_i signed hsigned
      cases h
      refine ⟨routing, hrouting, fun hnone => ?_, hconnections, hsigned⟩
      unfold emptyIssues at hempty
      rw [if_pos hnone] at hempty
      cases hempty
    · cases h
  · cases h

theorem buildRuntimePublication_of {input : PublicationInput} {routing : List (String × RoutingPlan)} {snapshot : Snapshot}
    (hrouting : buildRouting digest input input.virtualModels = .ok (routing, [])) (hmodels : input.virtualModels ≠ [])
    (hconnections : (buildConnections isHttpUrl input.connections).2 = [])
    (hsigned : signRuntimeSnapshot digest isHttpUrl (publicationBody isHttpUrl input routing) = some snapshot) :
    buildRuntimePublication digest isHttpUrl input = .ok snapshot := by
  have hissues : emptyIssues input ++ (buildConnections isHttpUrl input.connections).2 ++ [] = [] := by
    rw [hconnections, emptyIssues, if_neg hmodels]
    rfl
  refine bind_of hrouting ?_
  dsimp only
  rw [hissues]
  dsimp only
  rw [hsigned]

theorem publicationBody_normal {input : PublicationInput} {routing : List (String × RoutingPlan)}
    (h : buildRouting digest input input.virtualModels = .ok (routing, [])) :
    (publicationBody isHttpUrl input routing).normal = publicationBody isHttpUrl input routing := by
  have hrouting : routing.map (fun entry => (entry.1, entry.2.normal)) = routing := by
    have hplanned := buildRouting_ok h
    generalize input.virtualModels = virtualModels at hplanned
    clear h
    induction hplanned with
    | nil => rfl
    | cons hfirst _ ih => rw [List.map_cons, hfirst.2.normal, ih]
  have hexpiry : (snapshotExpiry input.now).normal = snapshotExpiry input.now := ofMilliseconds_normal _
  unfold UnsignedSnapshot.normal publicationBody
  dsimp only
  rw [hrouting, buildConnections_normal, hexpiry]

theorem forall₂_mem_right {α β : Type} {R : α → β → Prop} {l : List α} {l' : List β} (h : List.Forall₂ R l l') :
    ∀ b ∈ l', ∃ a ∈ l, R a b := by
  induction h with
  | nil => simp
  | cons hfirst _ ih =>
    intro b hb
    rcases List.mem_cons.mp hb with rfl | hb
    · exact ⟨_, by simp, hfirst⟩
    · obtain ⟨a, ha, hr⟩ := ih b hb
      exact ⟨a, by simp [ha], hr⟩

/-- Entries made in order under distinct keys are found under them. -/
theorem forall₂_lookup {α β : Type} {R : α → β → Prop} {key : α → String} {l : List α} {entries : List (String × β)}
    (h : List.Forall₂ (fun a entry => entry.1 = key a ∧ R a entry.2) l entries) (hkeys : (l.map key).Nodup) :
    ∀ a ∈ l, ∃ b, entries.lookup (key a) = some b ∧ R a b := by
  induction h with
  | nil => simp
  | @cons first entry rest entries hfirst _ ih =>
    intro a ha
    rw [List.map_cons, List.nodup_cons] at hkeys
    obtain ⟨k, b⟩ := entry
    obtain ⟨rfl : k = key first, hb⟩ := hfirst
    rcases List.mem_cons.mp ha with rfl | ha
    · exact ⟨b, List.lookup_cons_self, hb⟩
    · have hne : key a ≠ key first := by
        intro heq
        exact hkeys.1 (heq ▸ List.mem_map_of_mem ha)
      obtain ⟨found, hlookup, hr⟩ := ih hkeys.2 a ha
      refine ⟨found, ?_, hr⟩
      rw [← hlookup, List.lookup_cons, beq_eq_false_iff_ne.mpr hne]

/-- The routing of a published snapshot is the one that was built. -/
theorem published_routing {input : PublicationInput} {snapshot : Snapshot}
    (h : buildRuntimePublication digest isHttpUrl input = .ok snapshot) :
    buildRouting digest input input.virtualModels = .ok (snapshot.routing, []) := by
  obtain ⟨routing, hrouting, -, -, hsigned⟩ := buildRuntimePublication_ok h
  rw [signed_eq (publicationBody_normal hrouting) hsigned]
  exact hrouting

theorem published_plan {input : PublicationInput} {snapshot : Snapshot} {name : String} {plan : RoutingPlan}
    (h : buildRuntimePublication digest isHttpUrl input = .ok snapshot)
    (hplan : snapshot.routing.lookup name = some plan) :
    ∃ virtualModel ∈ input.virtualModels, virtualModel.name = name ∧ PlannedAs digest input virtualModel plan := by
  obtain ⟨before, after, hrouting, -⟩ := List.lookup_eq_some_iff.mp hplan
  obtain ⟨virtualModel, hmem, hname, hplanned⟩ :=
    forall₂_mem_right (buildRouting_ok (published_routing h)) (name, plan) (by simp [hrouting])
  exact ⟨virtualModel, hmem, hname.symm, hplanned⟩

theorem published_lookup {input : PublicationInput} {snapshot : Snapshot} {virtualModel : VirtualModelRow}
    (h : buildRuntimePublication digest isHttpUrl input = .ok snapshot) (hmem : virtualModel ∈ input.virtualModels) :
    ∃ plan, snapshot.routing.lookup virtualModel.name = some plan ∧ PlannedAs digest input virtualModel plan :=
  forall₂_lookup (buildRouting_ok (published_routing h)) input.names_unique virtualModel hmem

theorem published_plan_valid {input : PublicationInput} {snapshot : Snapshot} {name : String} {plan : RoutingPlan}
    (h : buildRuntimePublication digest isHttpUrl input = .ok snapshot)
    (hplan : snapshot.routing.lookup name = some plan) : plan.Valid := by
  obtain ⟨routing, -, -, -, hsigned⟩ := buildRuntimePublication_ok h
  obtain ⟨before, after, hrouting, -⟩ := List.lookup_eq_some_iff.mp hplan
  exact runtimeSnapshotSchema_plans hsigned (name, plan) (by simp [hrouting])

theorem PublishedAs.row {virtualModel : VirtualModelRow} {targets : List TargetRow} {audience : RouteAudience}
    {row : RuleRow × Nat} {rule : RoutingRule} (h : PublishedAs virtualModel targets audience row rule) :
    rule.id = row.1.id ∧ rule.priority = row.1.priority ∧
      rule.expiresAt = row.1.expiresAt.map UtcTime.ofMilliseconds := by
  obtain ⟨condition, selected, -, hrule⟩ := h
  unfold publishedRule at hrule
  obtain ⟨published, -, hrule⟩ := bind_ok hrule
  cases hrule
  exact ⟨rfl, rfl, rfl⟩

theorem PlannedAs.priorities {input : PublicationInput} {virtualModel : VirtualModelRow} {plan : RoutingPlan}
    (h : PlannedAs digest input virtualModel plan) : (plan.rules.map (·.priority)).Nodup := by
  obtain ⟨hpublished, hnodup, -⟩ := buildRules_ok h.rules
  have hsame : plan.rules.map (·.priority) = virtualModel.publishedRules.map (·.priority) := by
    generalize plan.rules = rules at hpublished
    generalize hstart : (0 : Nat) = start at hpublished
    clear hstart hnodup h
    generalize virtualModel.publishedRules = rows at hpublished
    induction rows generalizing start rules with
    | nil =>
      cases hpublished
      rfl
    | cons row rest ih =>
      cases hpublished with
      | cons hfirst hrest => rw [List.map_cons, List.map_cons, hfirst.row.2.1, ih _ _ hrest]
  rw [hsame]
  exact hnodup

end

end TokenPilot.Runtime
