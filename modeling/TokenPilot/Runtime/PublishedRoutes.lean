/-
  TokenPilot.Runtime.PublishedRoutes — route resolution on published plans.

  A published plan gives every rule its own priority and every route targets with distinct
  models and positive weights. So of the rules that match one is on top, and the route it
  chooses is never empty; the weighted order only moves one target to the front, the one that
  owns the point of the hash.
-/

import TokenPilot.Library.Shares
import TokenPilot.Runtime.Identity
import TokenPilot.Runtime.RouteAgreement

namespace TokenPilot.Runtime

open Library

/-! ## The rule on top -/

theorem choose_distinct (virtualModel : String) (plan : RoutingPlan) {matched : List RoutingRule}
    (h : (matched.map (·.priority)).Nodup) :
    (matched = [] ∧ choose virtualModel plan matched = .ok (plan.default, none)) ∨
      ∃ winner ∈ matched, (∀ rule ∈ matched, rule ≠ winner → rule.priority < winner.priority) ∧
        choose virtualModel plan matched = .ok (winner.route, some winner.id) := by
  cases matched with
  | nil => exact .inl ⟨rfl, rfl⟩
  | cons first rest =>
    obtain ⟨hbound, winner, hwinner, hpriority⟩ := highest_spec first rest
    have htop : ∀ rule ∈ first :: rest, rule ≠ winner → rule.priority < winner.priority := by
      intro rule hrule hne
      apply lt_of_le_of_ne
      · rw [hpriority]
        exact hbound rule hrule
      · intro heq
        exact hne (List.inj_on_of_nodup_map h hrule hwinner heq)
    exact .inr ⟨winner, hwinner, htop, choose_top h.of_map hwinner htop⟩

/-! ## The weighted order -/

def targetWeight (target : RouteTarget) : ℚ := target.weight.toRat

theorem pick_owner {targets before after : List RouteTarget} {target : RouteTarget} {point : ℚ}
    (hpos : ∀ other ∈ targets, 0 < targetWeight other) (selected : RouteTarget) (cumulative : ℚ)
    (h : Owns targetWeight targets before target after (point - cumulative)) :
    pick point selected cumulative targets = target := by
  induction before generalizing targets cumulative with
  | nil =>
    obtain ⟨hsplit, -, hends⟩ := h
    rw [total_nil, zero_add] at hends
    rw [hsplit, List.nil_append, pick, if_pos (by unfold targetWeight at hends; linarith)]
  | cons first before ih =>
    obtain ⟨hsplit, hstarts, hends⟩ := h
    rw [total_cons] at hstarts hends
    have hrest : ∀ other ∈ before ++ target :: after, 0 < targetWeight other := fun other hother =>
      hpos other (by rw [hsplit, List.cons_append]; exact List.mem_cons_of_mem _ hother)
    have hbefore : 0 ≤ total targetWeight before := total_nonneg fun other hother => hrest other (by simp [hother])
    rw [hsplit, List.cons_append, pick, if_neg (by unfold targetWeight at *; linarith)]
    apply ih hrest
    refine ⟨rfl, ?_, ?_⟩
    · unfold targetWeight at *
      linarith
    · unfold targetWeight at *
      linarith

theorem deterministicFraction_range (value : String) :
    0 ≤ Node.deterministicFraction value ∧ Node.deterministicFraction value < 1 := by
  unfold Node.deterministicFraction
  dsimp only
  generalize List.foldl _ _ _ = hash
  have hlt : (hash.toNat : ℚ) < 4294967296 := by
    have := hash.toNat_lt
    exact_mod_cast this
  constructor
  · exact div_nonneg (Nat.cast_nonneg _) (by norm_num)
  · rw [div_lt_iff₀ (by norm_num), one_mul]
    exact hlt

/-- The weighted order puts the owner of the point first. -/
theorem weightedTargets_owner {targets before after : List RouteTarget} {target : RouteTarget} {fraction : ℚ}
    (hpos : ∀ other ∈ targets, 0 < targetWeight other)
    (h : Owns targetWeight targets before target after (fraction * total targetWeight targets)) :
    weightedTargets fraction targets = target :: targets.filter (·.modelId ≠ target.modelId) := by
  cases htargets : targets with
  | nil =>
    have hsplit := h.split
    rw [htargets] at hsplit
    simp at hsplit
  | cons first rest =>
    have hpick : pick (fraction * totalWeight (first :: rest)) first 0 (first :: rest) = target := by
      rw [← htargets]
      exact pick_owner hpos first 0 (by rw [sub_zero]; exact h)
    unfold weightedTargets
    dsimp only
    rw [hpick]

/-- Positive weights and a fraction below one: there is an owner. -/
theorem Route.Valid.owner {route : Route} (h : route.Valid) {fraction : ℚ} (h0 : 0 ≤ fraction) (h1 : fraction < 1) :
    ∃ before target after,
      Owns targetWeight route.targets before target after (fraction * total targetWeight route.targets) := by
  have hpos : ∀ target ∈ route.targets, 0 < targetWeight target := fun target htarget => (h.weighted target htarget).1
  have htotal : 0 < total targetWeight route.targets := by
    obtain ⟨first, rest, hcons⟩ := List.exists_cons_of_ne_nil h.filled
    rw [hcons] at hpos ⊢
    have hfirst := hpos first (by simp)
    have hrest : 0 ≤ total targetWeight rest := total_nonneg fun other hother => hpos other (by simp [hother])
    rw [total_cons]
    linarith
  apply exists_owner
  · exact mul_nonneg h0 (le_of_lt htotal)
  · nlinarith

theorem orderedTargets_perm {route : Route} (h : route.Valid) (key : Option String) :
    (orderedTargets Node.deterministicFraction route key).Perm route.targets := by
  unfold orderedTargets
  split
  · rename_i key' _
    obtain ⟨h0, h1⟩ := deterministicFraction_range (route.routeTag ++ ":" ++ key')
    obtain ⟨before, target, after, howns⟩ := h.owner h0 h1
    rw [weightedTargets_owner (fun other hother => (h.weighted other hother).1) howns]
    exact cons_filter_perm h.distinct (by rw [howns.split]; simp)
  · exact List.Perm.refl _

/-! ## Resolution -/

/-- The route that is taken, with the rule it belongs to. -/
inductive Winning (plan : RoutingPlan) (matched : List RoutingRule) : Route → Option String → Prop
  | default : matched = [] → Winning plan matched plan.default none
  | rule (winner : RoutingRule) : winner ∈ matched →
      (∀ rule ∈ matched, rule ≠ winner → rule.priority < winner.priority) →
      Winning plan matched winner.route (some winner.id)

/-- The share of a target: the fractions for which it comes first. -/
def Shares (route : Route) : Prop :=
  ∀ before target after, route.targets = before ++ target :: after → ∀ fraction : ℚ, 0 ≤ fraction → fraction < 1 →
    ((weightedTargets fraction route.targets).head? = some target ↔
      total targetWeight before / total targetWeight route.targets ≤ fraction ∧
        fraction < (total targetWeight before + targetWeight target) / total targetWeight route.targets)

structure WellFormed (plan : RoutingPlan) (matched : List RoutingRule) (key : Option String)
    (selected : RouteSelection) (route : Route) : Prop where
  winning : Winning plan matched route selected.ruleId
  tag : selected.routeTag = route.routeTag
  permutes : (selected.primary :: selected.fallbacks).Perm route.targets
  distinct : ((selected.primary :: selected.fallbacks).map (·.modelId)).Nodup
  owned : ∀ selectionKey, route.selectionMode = .weighted → key = some selectionKey →
    ∃ before after, Owns targetWeight route.targets before selected.primary after
        (Node.deterministicFraction (route.routeTag ++ ":" ++ selectionKey) * total targetWeight route.targets) ∧
      ∀ before' target' after', Owns targetWeight route.targets before' target' after'
          (Node.deterministicFraction (route.routeTag ++ ":" ++ selectionKey) * total targetWeight route.targets) →
        target' = selected.primary
  shares : route.selectionMode = .weighted → Shares route

theorem shares_of_valid {route : Route} (h : route.Valid) : Shares route := by
  intro before target after hsplit fraction h0 h1
  have hpos : ∀ other ∈ route.targets, 0 < targetWeight other := fun other hother => (h.weighted other hother).1
  obtain ⟨front, owner, back, howns⟩ := h.owner h0 h1
  have htotal : 0 < total targetWeight route.targets := by
    have hbefore : 0 ≤ total targetWeight before := total_nonneg fun other hother => hpos other (by simp [hsplit, hother])
    have hafter : 0 ≤ total targetWeight after := total_nonneg fun other hother => hpos other (by simp [hsplit, hother])
    have htarget := hpos target (by simp [hsplit])
    rw [hsplit, total_append, total_cons]
    linarith
  rw [weightedTargets_owner hpos howns, List.head?_cons, Option.some.injEq, div_le_iff₀ htotal, lt_div_iff₀ htotal]
  constructor
  · rintro rfl
    -- the owner stands once in the list, so its place is the one given
    have hnodup : route.targets.Nodup := h.distinct.of_map
    have hplace : before = front := by
      have heq := hsplit.symm.trans howns.split
      rw [hsplit, List.nodup_append, List.nodup_cons] at hnodup
      obtain ⟨-, ⟨hafter, -⟩, hdisjoint⟩ := hnodup
      have hbefore : owner ∉ before := fun hmem => hdisjoint _ hmem _ (by simp) rfl
      exact ((List.append_cons_inj_of_notMem hbefore hafter).mp heq).1
    rw [hplace]
    exact ⟨howns.starts, howns.ends⟩
  · rintro ⟨hstarts, hends⟩
    exact (owner_unique hpos howns ⟨hsplit, hstarts, hends⟩).2.1

theorem selection_eq {virtualModel : String} {virtualModelId : Option String} {plan : RoutingPlan} {route : Route}
    {ruleId : Option String} {targets : List RouteTarget} {selected : RouteSelection}
    (h : selection virtualModel virtualModelId plan route ruleId targets = .ok selected) :
    selected.ruleId = ruleId ∧ selected.routeTag = route.routeTag ∧
      targets = selected.primary :: selected.fallbacks := by
  cases targets with
  | nil => cases h
  | cons primary fallbacks =>
    cases h
    exact ⟨rfl, rfl, rfl⟩

theorem wellFormed_of_route {plan : RoutingPlan} {matched : List RoutingRule} {key : Option String} {route : Route}
    {selected : RouteSelection} (hvalid : route.Valid) (hwinning : Winning plan matched route selected.ruleId)
    (htag : selected.routeTag = route.routeTag)
    (htargets : orderedTargets Node.deterministicFraction route key = selected.primary :: selected.fallbacks) :
    WellFormed plan matched key selected route := by
  have hperm := orderedTargets_perm hvalid key
  rw [htargets] at hperm
  refine ⟨hwinning, htag, hperm, (hperm.map _).nodup_iff.mpr hvalid.distinct, ?_, fun _ => shares_of_valid hvalid⟩
  intro selectionKey hmode hkey
  have hpos : ∀ target ∈ route.targets, 0 < targetWeight target := fun target hmem => (hvalid.weighted target hmem).1
  obtain ⟨h0, h1⟩ := deterministicFraction_range (route.routeTag ++ ":" ++ selectionKey)
  obtain ⟨before, target, after, howns⟩ := hvalid.owner h0 h1
  have hprimary : target = selected.primary := by
    have hordered : orderedTargets Node.deterministicFraction route key = weightedTargets
        (Node.deterministicFraction (route.routeTag ++ ":" ++ selectionKey)) route.targets := by
      simp only [orderedTargets, hmode, hkey]
    rw [hordered, weightedTargets_owner hpos howns] at htargets
    exact (List.cons.inj htargets).1
  subst hprimary
  exact ⟨before, after, howns, fun before' target' after' howns' => (owner_unique hpos howns' howns).2.1⟩

/-- On a plan whose rules have distinct priorities, a known timezone is all that is needed. -/
theorem resolves_well_formed {zones : Zones} {snapshot : Snapshot} {virtualModel : String} {plan : RoutingPlan}
    {localized : Int → LocalTime} (hvalid : plan.Valid) (hpriorities : (plan.rules.map (·.priority)).Nodup)
    (hplan : snapshot.routing.lookup virtualModel = some plan) (hzone : zones plan.timezone = some localized)
    (now : Int) (context : RouteContext) :
    ∃ selected route, Node.resolveRuntimeRoute zones snapshot virtualModel now context = .ok selected ∧
      WellFormed plan (plan.rules.filter (Node.ruleMatches · (localized now) now context)) (Node.selectionKey context)
        selected route := by
  have hmatched : ((plan.rules.filter (Node.ruleMatches · (localized now) now context)).map (·.priority)).Nodup :=
    hpriorities.sublist (List.filter_sublist.map _)
  rw [node_resolve hplan hzone]
  -- the chosen route is valid, so its order has a first target
  have hfinish (route : Route) (ruleId : Option String) (hroute : route.Valid)
      (hwinning : Winning plan (plan.rules.filter (Node.ruleMatches · (localized now) now context)) route ruleId)
      (hchoose : choose virtualModel plan (plan.rules.filter (Node.ruleMatches · (localized now) now context)) =
        .ok (route, ruleId)) :
      ∃ selected route, resolveWith virtualModel (some plan.virtualModelId) plan
          (plan.rules.filter (Node.ruleMatches · (localized now) now context))
          (orderedTargets Node.deterministicFraction · (Node.selectionKey context)) = .ok selected ∧
        WellFormed plan (plan.rules.filter (Node.ruleMatches · (localized now) now context))
          (Node.selectionKey context) selected route := by
    have hfilled : orderedTargets Node.deterministicFraction route (Node.selectionKey context) ≠ [] :=
      orderedTargets_ne_nil hroute.filled (Node.selectionKey context)
    obtain ⟨primary, fallbacks, htargets⟩ := List.exists_cons_of_ne_nil hfilled
    refine ⟨⟨virtualModel, some plan.virtualModelId, plan.configurationVersion, plan.configurationEtag, route.routeTag,
      ruleId, primary, fallbacks⟩, route, ?_, wellFormed_of_route hroute hwinning rfl htargets⟩
    rw [resolveWith, hchoose]
    show selection _ _ _ _ _ (orderedTargets _ route _) = _
    rw [htargets]
    rfl
  rcases choose_distinct virtualModel plan hmatched with ⟨hnone, hchoose⟩ | ⟨winner, hwinner, htop, hchoose⟩
  · exact hfinish plan.default none hvalid.default (.default hnone) hchoose
  · exact hfinish winner.route (some winner.id) (hvalid.rules winner (List.mem_of_mem_filter hwinner)).route
      (.rule winner hwinner htop) hchoose

/-- Every published plan resolves, unless its timezone is unknown, and the route is well formed. -/
theorem published_routes_well_formed (digest : Digest) (isHttpUrl : String → Bool) (input : PublicationInput)
    (snapshot : Snapshot) (h : buildRuntimePublication digest isHttpUrl input = .ok snapshot) (virtualModel : String)
    (plan : RoutingPlan) (hplan : snapshot.routing.lookup virtualModel = some plan) (zones : Zones) (now : Int)
    (context : RouteContext) :
    (Node.resolveRuntimeRoute zones snapshot virtualModel now context = .error .timezoneInvalid ∧
        zones plan.timezone = none) ∨
      ∃ localized selected route, zones plan.timezone = some localized ∧
        Node.resolveRuntimeRoute zones snapshot virtualModel now context = .ok selected ∧
        WellFormed plan (plan.rules.filter (Node.ruleMatches · (localized now) now context))
          (Node.selectionKey context) selected route := by
  cases hzone : zones plan.timezone with
  | none =>
    refine .inl ⟨?_, rfl⟩
    simp only [Node.resolveRuntimeRoute, hplan, hzone]
  | some localized =>
    obtain ⟨row, -, -, hplanned⟩ := published_plan h hplan
    obtain ⟨selected, route, hresolved, hwell⟩ :=
      resolves_well_formed (published_plan_valid h hplan) hplanned.priorities hplan hzone now context
    exact .inr ⟨localized, selected, route, rfl, hresolved, hwell⟩

def anyCaller : RouteContext := ⟨some "u1", none, none, none⟩

theorem assistant_well_formed :
    ∃ snapshot plan, buildRuntimePublication assistantDigest gatewayUrl assistantInput = .ok snapshot ∧
      snapshot.routing.lookup assistantRow.name = some plan ∧
      ∃ localized selected route, utcZone plan.timezone = some localized ∧
        Node.resolveRuntimeRoute utcZone snapshot "assistant" 0 anyCaller = .ok selected ∧
        WellFormed plan (plan.rules.filter (Node.ruleMatches · (localized 0) 0 anyCaller))
          (Node.selectionKey anyCaller) selected route := by
  cases hpublished : buildRuntimePublication assistantDigest gatewayUrl assistantInput with
  | error failure =>
    have hok := assistantInput_published
    rw [hpublished] at hok
    cases hok
  | ok snapshot =>
    have hmem : assistantRow ∈ assistantInput.virtualModels := by simp [assistantInput]
    obtain ⟨plan, hplan, hplanned⟩ := published_lookup hpublished hmem
    have htimezone : plan.timezone = "UTC" := by
      rw [hplanned.rest]
      rfl
    refine ⟨snapshot, plan, rfl, hplan, ?_⟩
    rcases published_routes_well_formed _ _ _ _ hpublished _ _ hplan utcZone 0 anyCaller with ⟨-, hzone⟩ | hwell
    · rw [htimezone] at hzone
      cases hzone
    · exact hwell

end TokenPilot.Runtime
