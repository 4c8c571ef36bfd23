/-
  TokenPilot.Runtime.RouteChoice — what a runtime does with the rules it matched.

  Every evaluator chooses the only matched rule of the highest priority and orders the
  targets of its route (`resolveWith`). Here are the rules of that choice: `choose_top`, a
  rule above all other matched rules is chosen; `choose_cases`, what is chosen was matched
  or is the default; `choose_fails_iff`, nothing is chosen exactly when the top is tied. `Top` is
  the choice, and `Top.congr` and `Top.holds` say which rules it depends on. The evaluators in
  terms of it: `node_resolve`, `python_resolve`, `connector_resolve`, and what an unknown
  timezone does to them.
-/

import Mathlib.Data.List.Induction
import TokenPilot.Runtime.Routing

namespace TokenPilot.Runtime

/-! ## The choice among matched rules -/

theorem highest_spec (first : RoutingRule) (rest : List RoutingRule) :
    (∀ rule ∈ first :: rest, rule.priority ≤ rest.foldl (fun top rule => max top rule.priority) first.priority) ∧
      ∃ rule ∈ first :: rest, rule.priority = rest.foldl (fun top rule => max top rule.priority) first.priority := by
  induction rest using List.reverseRecOn with
  | nil => simp
  | append_singleton rest last ih =>
    obtain ⟨hbound, top, hmem, htop⟩ := ih
    simp only [List.foldl_append, List.foldl_cons, List.foldl_nil]
    refine ⟨fun rule hrule => ?_, ?_⟩
    · rw [← List.cons_append, List.mem_append, List.mem_singleton] at hrule
      rcases hrule with hrule | rfl
      · exact le_trans (hbound rule hrule) (le_max_left _ _)
      · exact le_max_right _ _
    · rcases max_cases (rest.foldl (fun top rule => max top rule.priority) first.priority) last.priority with
        ⟨hmax, -⟩ | ⟨hmax, -⟩
      · exact ⟨top, by rw [← List.cons_append]; exact List.mem_append_left _ hmem, by rw [hmax, htop]⟩
      · exact ⟨last, by simp, hmax.symm⟩

/-- The one rule above all other matched rules is chosen. -/
theorem choose_top {virtualModel : String} {plan : RoutingPlan} {matched : List RoutingRule} {winner : RoutingRule}
    (hnodup : matched.Nodup) (hmem : winner ∈ matched)
    (htop : ∀ rule ∈ matched, rule ≠ winner → rule.priority < winner.priority) :
    choose virtualModel plan matched = .ok (winner.route, some winner.id) := by
  cases matched with
  | nil => simp at hmem
  | cons first rest =>
    obtain ⟨hbound, top, htopmem, hpriority⟩ := highest_spec first rest
    have hwinner : top = winner := by
      by_contra hne
      have hbelow := htop top htopmem hne
      have habove := hbound winner hmem
      omega
    subst hwinner
    have honly : (first :: rest).filter
        (·.priority = rest.foldl (fun top rule => max top rule.priority) first.priority) = [top] := by
      rw [← hpriority]
      have hsame : ∀ rule ∈ first :: rest, decide (rule.priority = top.priority) = (rule == top) := by
        intro rule hrule
        by_cases heq : rule = top
        · simp [heq]
        · have := htop rule hrule heq
          simp [heq, this.ne]
      rw [List.filter_congr hsame, List.filter_beq, List.count_eq_one_of_mem hnodup hmem]
      rfl
    simp only [choose, honly]

/-- Two of the matched rules share the highest priority. -/
def Tied (matched : List RoutingRule) : Prop :=
  ∃ rule ∈ matched, ∃ rival ∈ matched,
    rule ≠ rival ∧ rule.priority = rival.priority ∧ ∀ other ∈ matched, other.priority ≤ rule.priority

/-- The rule that is matched above all others, or none where no rule is matched. -/
def Top (matched : List RoutingRule) : Option RoutingRule → Prop
  | none => matched = []
  | some winner => winner ∈ matched ∧ ∀ rule ∈ matched, rule ≠ winner → rule.priority < winner.priority

/-- The route of a chosen rule, the default's without one. -/
def RoutingPlan.routeOf (plan : RoutingPlan) : Option RoutingRule → Route
  | none => plan.default
  | some rule => rule.route

theorem exists_top {matched : List RoutingRule} (huntied : ¬Tied matched) : ∃ choice, Top matched choice := by
  cases matched with
  | nil => exact ⟨none, rfl⟩
  | cons first rest =>
    obtain ⟨hbound, top, hmem, hpriority⟩ := highest_spec first rest
    rw [← hpriority] at hbound
    refine ⟨some top, hmem, fun rule hrule hne => ?_⟩
    refine lt_of_le_of_ne (hbound rule hrule) fun heq => huntied ?_
    exact ⟨top, hmem, rule, hrule, hne.symm, heq.symm, hbound⟩

theorem Tied.not_top {matched : List RoutingRule} (htied : Tied matched) (choice : Option RoutingRule) :
    ¬Top matched choice := by
  obtain ⟨rule, hrule, rival, hrival, hne, hpriority, hbound⟩ := htied
  intro htop
  cases choice with
  | none =>
    rw [show matched = [] from htop] at hrule
    cases hrule
  | some winner =>
    have hwinner := hbound winner htop.1
    by_cases heq : rule = winner
    · have hbelow := htop.2 rival hrival fun h => hne (heq.trans h.symm)
      omega
    · have hbelow := htop.2 rule hrule heq
      omega

theorem choose_of_top (virtualModel : String) (plan : RoutingPlan) {matched : List RoutingRule}
    {choice : Option RoutingRule} (hnodup : matched.Nodup) (htop : Top matched choice) :
    choose virtualModel plan matched = .ok (plan.routeOf choice, choice.map (·.id)) := by
  cases choice with
  | none =>
    rw [show matched = [] from htop]
    rfl
  | some winner => exact choose_top hnodup htop.1 htop.2

theorem Top.unique {matched : List RoutingRule} {choice other : Option RoutingRule} (h : Top matched choice)
    (hother : Top matched other) : other = choice := by
  cases choice with
  | none =>
    cases other with
    | none => rfl
    | some winner =>
      have hmem := hother.1
      rw [show matched = [] from h] at hmem
      cases hmem
  | some winner =>
    cases other with
    | none =>
      have hmem := h.1
      rw [show matched = [] from hother] at hmem
      cases hmem
    | some rival =>
      by_contra hne
      have hne : rival ≠ winner := fun heq => hne (by rw [heq])
      exact lt_asymm (h.2 rival hother.1 hne) (hother.2 winner h.1 hne.symm)

/-- A top stays one for a matching that reads the rules of its priority and above alike. -/
theorem Top.congr {rules : List RoutingRule} {holds holds' : RoutingRule → Bool} {choice : Option RoutingRule}
    (htop : Top (rules.filter holds) choice)
    (h : ∀ rule ∈ rules, (∀ winner ∈ choice, winner.priority ≤ rule.priority) → holds' rule = holds rule) :
    Top (rules.filter holds') choice := by
  cases choice with
  | none =>
    have hsame : rules.filter holds' = rules.filter holds := List.filter_congr fun rule hmem => h rule hmem (by simp)
    exact hsame.trans htop
  | some winner =>
    obtain ⟨hwinner, habove⟩ := htop
    obtain ⟨hmem, hholds⟩ := List.mem_filter.mp hwinner
    refine ⟨List.mem_filter.mpr ⟨hmem, (h winner hmem (by simp)).trans hholds⟩, fun rule hrule hne => ?_⟩
    obtain ⟨hrule, hholds'⟩ := List.mem_filter.mp hrule
    by_contra hge
    have hholds : holds rule = true := by
      rw [← h rule hrule (by simpa using not_lt.mp hge)]
      exact hholds'
    exact hge (habove rule (List.mem_filter.mpr ⟨hrule, hholds⟩) hne)

/-- Of the rules at its priority and above, a matching takes its top alone. -/
theorem Top.holds {rules : List RoutingRule} {holds : RoutingRule → Bool} {choice : Option RoutingRule}
    (htop : Top (rules.filter holds) choice) {rule : RoutingRule} (hmem : rule ∈ rules)
    (hpriority : ∀ winner ∈ choice, winner.priority ≤ rule.priority) : holds rule = true ↔ choice = some rule := by
  constructor
  · intro hholds
    have hmatched := List.mem_filter.mpr ⟨hmem, hholds⟩
    cases choice with
    | none =>
      rw [show rules.filter holds = [] from htop] at hmatched
      cases hmatched
    | some winner =>
      have hle := hpriority winner rfl
      by_contra hne
      have hbelow := htop.2 rule hmatched fun heq => hne (by rw [heq])
      omega
  · rintro rfl
    exact (List.mem_filter.mp htop.1).2

/-- Nothing is chosen exactly when the highest priority is tied. -/
theorem choose_fails_iff (virtualModel : String) (plan : RoutingPlan) {matched : List RoutingRule}
    (hnodup : matched.Nodup) : (∃ error, choose virtualModel plan matched = .error error) ↔ Tied matched := by
  constructor
  · rintro ⟨error, herror⟩
    by_contra huntied
    obtain ⟨choice, htop⟩ := exists_top huntied
    have hchosen := choose_of_top virtualModel plan hnodup htop
    rw [herror] at hchosen
    cases hchosen
  · rintro ⟨rule, hrule, rival, hrival, hne, hpriority, htop⟩
    cases matched with
    | nil => simp at hrule
    | cons first rest =>
      obtain ⟨hbound, top, hmem, hhighest⟩ := highest_spec first rest
      have heq : rule.priority = rest.foldl (fun top rule => max top rule.priority) first.priority :=
        le_antisymm (hbound rule hrule) (hhighest ▸ htop top hmem)
      simp only [choose]
      split
      · rename_i winner honly
        -- both rules pass the filter that left only one
        have hfirst : rule ∈ [winner] := honly ▸ List.mem_filter.mpr ⟨hrule, by simpa using heq⟩
        have hsecond : rival ∈ [winner] := honly ▸ List.mem_filter.mpr ⟨hrival, by simpa using hpriority ▸ heq⟩
        rw [List.mem_singleton] at hfirst hsecond
        exact absurd (hfirst.trans hsecond.symm) hne
      · exact ⟨_, rfl⟩

/-- The chosen route is the default's when nothing matches, else a matched rule's. -/
theorem choose_cases {virtualModel : String} {plan : RoutingPlan} {matched : List RoutingRule} {route : Route}
    {ruleId : Option String} (h : choose virtualModel plan matched = .ok (route, ruleId)) :
    (matched = [] ∧ route = plan.default ∧ ruleId = none) ∨
      ∃ winner ∈ matched, route = winner.route ∧ ruleId = some winner.id := by
  cases matched with
  | nil =>
    simp only [choose, Except.ok.injEq, Prod.mk.injEq] at h
    exact .inl ⟨rfl, h.1.symm, h.2.symm⟩
  | cons first rest =>
    simp only [choose] at h
    split at h
    · rename_i winner honly
      simp only [Except.ok.injEq, Prod.mk.injEq] at h
      have hmem : winner ∈ (first :: rest).filter
          (·.priority = rest.foldl (fun top rule => max top rule.priority) first.priority) := by
        rw [honly]
        exact List.mem_singleton_self winner
      exact .inr ⟨winner, (List.mem_filter.mp hmem).1, h.1.symm, h.2.symm⟩
    · cases h

/-! ## The shared skeleton -/

/-- What every runtime does with the rules it matched. -/
def resolveWith (virtualModel : String) (virtualModelId : Option String) (plan : RoutingPlan)
    (matched : List RoutingRule) (order : Route → List RouteTarget) : Except RouteError RouteSelection := do
  let (route, ruleId) ← choose virtualModel plan matched
  selection virtualModel virtualModelId plan route ruleId (order route)

/-- What the runtimes are compared on: rule, primary model and fallback order, or a failure. -/
def outcome : Except RouteError RouteSelection → Option (Option String × String × List String)
  | .ok s => some (s.ruleId, s.primary.modelId, s.fallbacks.map (·.modelId))
  | .error _ => none

theorem outcome_selection (virtualModel : String) (virtualModelId : Option String) (plan : RoutingPlan) (route : Route)
    (ruleId : Option String) (targets : List RouteTarget) :
    outcome (selection virtualModel virtualModelId plan route ruleId targets) =
      match targets with
      | [] => none
      | primary :: fallbacks => some (ruleId, primary.modelId, fallbacks.map (·.modelId)) := by
  cases targets <;> rfl

theorem resolveWith_ok {virtualModel : String} {plan : RoutingPlan} {matched : List RoutingRule}
    {order : Route → List RouteTarget} {route : Route} {ruleId : Option String}
    (h : choose virtualModel plan matched = .ok (route, ruleId)) (virtualModelId : Option String) :
    outcome (resolveWith virtualModel virtualModelId plan matched order) =
      match order route with
      | [] => none
      | primary :: fallbacks => some (ruleId, primary.modelId, fallbacks.map (·.modelId)) := by
  simp only [resolveWith, h, bind, Except.bind]
  exact outcome_selection _ _ _ _ _ _

theorem resolveWith_error {virtualModel : String} {plan : RoutingPlan} {matched : List RoutingRule}
    {order : Route → List RouteTarget} {error : RouteError} (h : choose virtualModel plan matched = .error error)
    (virtualModelId : Option String) : outcome (resolveWith virtualModel virtualModelId plan matched order) = none := by
  simp [resolveWith, h, bind, Except.bind, outcome]

theorem orderedTargets_ne_nil {fraction : String → ℚ} {route : Route} (h : route.targets ≠ []) (key : Option String) :
    orderedTargets fraction route key ≠ [] := by
  unfold orderedTargets
  split
  · cases htargets : route.targets with
    | nil => exact absurd htargets h
    | cons first rest => simp [weightedTargets]
  · exact h

section Outcomes

variable {virtualModel : String} {plan : RoutingPlan} {matched : List RoutingRule} {order : Route → List RouteTarget}

theorem outcome_tied (hnodup : matched.Nodup) (htied : Tied matched) (virtualModelId : Option String) :
    outcome (resolveWith virtualModel virtualModelId plan matched order) = none := by
  obtain ⟨error, herror⟩ := (choose_fails_iff virtualModel plan hnodup).mpr htied
  exact resolveWith_error herror virtualModelId

variable (virtualModel) in
theorem outcome_top {choice : Option RoutingRule} (hnodup : matched.Nodup) (htop : Top matched choice)
    (hfilled : order (plan.routeOf choice) ≠ []) (virtualModelId : Option String) :
    ∃ primary fallbacks, order (plan.routeOf choice) = primary :: fallbacks ∧
      outcome (resolveWith virtualModel virtualModelId plan matched order) =
        some (choice.map (·.id), primary.modelId, fallbacks.map (·.modelId)) := by
  rw [resolveWith_ok (choose_of_top virtualModel plan hnodup htop)]
  cases horder : order (plan.routeOf choice) with
  | nil => exact absurd horder hfilled
  | cons primary fallbacks => exact ⟨primary, fallbacks, rfl, rfl⟩

/-- A runtime fails on the rules it matched exactly when they are tied. -/
theorem outcome_none_iff (hnodup : matched.Nodup) (hfilled : ∀ choice, Top matched choice → order (plan.routeOf choice) ≠ [])
    (virtualModelId : Option String) :
    outcome (resolveWith virtualModel virtualModelId plan matched order) = none ↔ Tied matched := by
  constructor
  · intro hnone
    by_contra huntied
    obtain ⟨choice, htop⟩ := exists_top huntied
    obtain ⟨primary, fallbacks, -, hsome⟩ := outcome_top virtualModel hnodup htop (hfilled choice htop)
      virtualModelId
    rw [hnone] at hsome
    cases hsome
  · exact fun htied => outcome_tied hnodup htied virtualModelId

end Outcomes

/-! ## Matching with errors -/

/-- Rules that are all evaluated leave those that apply. -/
theorem matchedRules_ok {applies : RoutingRule → Except RouteError Bool} {holds : RoutingRule → Bool}
    {rules : List RoutingRule} (h : ∀ rule ∈ rules, applies rule = .ok (holds rule)) :
    matchedRules applies rules = .ok (rules.filter holds) := by
  induction rules with
  | nil => rfl
  | cons rule rest ih =>
    rw [matchedRules, h rule (by simp), ih fun other hmem => h other (List.mem_cons_of_mem _ hmem)]
    cases hr : holds rule <;> simp [bind, Except.bind, pure, Except.pure, hr]

/-- One rule that cannot be evaluated ends the evaluation. -/
theorem matchedRules_error {applies : RoutingRule → Except RouteError Bool} {rules : List RoutingRule}
    {rule : RoutingRule} {error : RouteError} (hmem : rule ∈ rules) (h : applies rule = .error error) :
    ∃ error, matchedRules applies rules = .error error := by
  induction rules with
  | nil => simp at hmem
  | cons first rest ih =>
    rw [matchedRules]
    cases hfirst : applies first with
    | error error => exact ⟨error, rfl⟩
    | ok applied =>
      rcases List.mem_cons.mp hmem with rfl | hrest
      · rw [hfirst] at h
        cases h
      · obtain ⟨error, herror⟩ := ih hrest
        exact ⟨error, by simp [bind, Except.bind, herror]⟩

/-! ## The evaluators -/

/-- The plan's timezone is unknown and one of its rules needs it. -/
def Stuck (zones : Zones) (plan : RoutingPlan) : Prop :=
  zones plan.timezone = none ∧ ∃ rule ∈ plan.rules, ∃ schedule, rule.match = .schedule schedule

theorem evaluable_of_not_stuck {zones : Zones} {plan : RoutingPlan}
    (h : ¬Stuck zones plan) {rule : RoutingRule} (hmem : rule ∈ plan.rules) :
    (zones plan.timezone).isSome ∨ ∀ schedule, rule.match ≠ .schedule schedule := by
  cases hzone : zones plan.timezone with
  | some localized => exact .inl rfl
  | none => exact .inr fun schedule hmatch => h ⟨hzone, rule, hmem, schedule, hmatch⟩

section Evaluators

variable {zones : Zones} {snapshot : Snapshot} {virtualModel : String} {plan : RoutingPlan}
  {localized : Int → LocalTime} {now : Int} {context : RouteContext}

theorem node_resolve (hplan : snapshot.routing.lookup virtualModel = some plan)
    (hzone : zones plan.timezone = some localized) :
    Node.resolveRuntimeRoute zones snapshot virtualModel now context =
      resolveWith virtualModel (some plan.virtualModelId) plan
        (plan.rules.filter (Node.ruleMatches · (localized now) now context))
        (orderedTargets Node.deterministicFraction · (Node.selectionKey context)) := by
  simp only [Node.resolveRuntimeRoute, hplan, hzone]
  rfl

theorem python_resolve {holds : RoutingRule → Bool} (hplan : snapshot.routing.lookup virtualModel = some plan)
    (h : ∀ rule ∈ plan.rules, Python.matchesRule zones plan.timezone now context rule = .ok (holds rule)) :
    Python.resolveRuntimeRoute zones snapshot virtualModel now context =
      resolveWith virtualModel (some plan.virtualModelId) plan (plan.rules.filter holds)
        (orderedTargets Python.deterministicFraction · (Python.selectionKey context)) := by
  simp only [Python.resolveRuntimeRoute, hplan, matchedRules_ok h]
  rfl

theorem connector_resolve {holds : RoutingRule → Bool} (hplan : snapshot.routing.lookup virtualModel = some plan)
    (h : ∀ rule ∈ plan.rules, Connector.matchesRule zones plan.timezone now context rule = .ok (holds rule)) :
    Connector.selectRuntimeRoute zones snapshot virtualModel now context =
      resolveWith virtualModel none plan (plan.rules.filter holds)
        (orderedTargets Python.deterministicFraction · (Python.selectionKey context)) := by
  simp only [Connector.selectRuntimeRoute, hplan, matchedRules_ok h]
  rfl

/-- Without a schedule Python needs no timezone, and with a timezone it never fails. -/
theorem python_evaluates (rule : RoutingRule)
    (h : (zones plan.timezone).isSome ∨ ∀ schedule, rule.match ≠ .schedule schedule) :
    ∃ b, Python.matchesRule zones plan.timezone now context rule = .ok b := by
  unfold Python.matchesRule
  cases hm : rule.match with
  | overrideActive => cases rule.expiresAt <;> exact ⟨_, rfl⟩
  | user ids => cases context.userId <;> exact ⟨_, rfl⟩
  | userProperty condition => exact ⟨_, rfl⟩
  | callSource value => exact ⟨_, rfl⟩
  | schedule schedule =>
    rcases h with h | h
    · obtain ⟨localized, hlocalized⟩ := Option.isSome_iff_exists.mp h
      simp only [hlocalized]
      exact ⟨_, rfl⟩
    · exact absurd hm (h schedule)

theorem connector_evaluates (rule : RoutingRule)
    (h : (zones plan.timezone).isSome ∨ ∀ schedule, rule.match ≠ .schedule schedule) :
    ∃ b, Connector.matchesRule zones plan.timezone now context rule = .ok b := by
  unfold Connector.matchesRule
  cases hm : rule.match with
  | userProperty condition => exact ⟨_, rfl⟩
  | _ => exact python_evaluates rule h

def pythonHolds (zones : Zones) (timezone : String) (now : Int) (context : RouteContext) (rule : RoutingRule) : Bool :=
  (Python.matchesRule zones timezone now context rule).toOption.getD false

def connectorHolds (zones : Zones) (timezone : String) (now : Int) (context : RouteContext) (rule : RoutingRule) :
    Bool :=
  (Connector.matchesRule zones timezone now context rule).toOption.getD false

theorem pythonHolds_ok (rule : RoutingRule)
    (h : (zones plan.timezone).isSome ∨ ∀ schedule, rule.match ≠ .schedule schedule) :
    Python.matchesRule zones plan.timezone now context rule =
      .ok (pythonHolds zones plan.timezone now context rule) := by
  obtain ⟨b, hb⟩ : ∃ b, Python.matchesRule zones plan.timezone now context rule = .ok b := python_evaluates rule h
  simp [pythonHolds, hb, Except.toOption]

theorem connectorHolds_ok (rule : RoutingRule)
    (h : (zones plan.timezone).isSome ∨ ∀ schedule, rule.match ≠ .schedule schedule) :
    Connector.matchesRule zones plan.timezone now context rule =
      .ok (connectorHolds zones plan.timezone now context rule) := by
  obtain ⟨b, hb⟩ : ∃ b, Connector.matchesRule zones plan.timezone now context rule = .ok b := connector_evaluates rule h
  simp [connectorHolds, hb, Except.toOption]

/-- Without a timezone, a schedule ends the evaluation of Python and the connector. -/
theorem schedule_fails {rule : RoutingRule} {schedule : Schedule} (hmem : rule ∈ plan.rules)
    (hmatch : rule.match = .schedule schedule) (hplan : snapshot.routing.lookup virtualModel = some plan)
    (hzone : zones plan.timezone = none) :
    outcome (Python.resolveRuntimeRoute zones snapshot virtualModel now context) = none ∧
      outcome (Connector.selectRuntimeRoute zones snapshot virtualModel now context) = none := by
  have hpython : Python.matchesRule zones plan.timezone now context rule = .error .timezoneInvalid := by
    simp [Python.matchesRule, hmatch, hzone]
  have hconnector : Connector.matchesRule zones plan.timezone now context rule = .error .timezoneInvalid := by
    simp [Connector.matchesRule, hmatch, hpython]
  obtain ⟨error, herror⟩ := matchedRules_error hmem hpython
  obtain ⟨error', herror'⟩ := matchedRules_error hmem hconnector
  constructor
  · simp [Python.resolveRuntimeRoute, hplan, herror, bind, Except.bind, outcome]
  · simp [Connector.selectRuntimeRoute, hplan, herror', bind, Except.bind, outcome]

end Evaluators

/-! ## Where a selection's targets come from -/

theorem pick_mem (point : ℚ) {selected : RouteTarget} {all : List RouteTarget} (hselected : selected ∈ all)
    (cumulative : ℚ) {targets : List RouteTarget} (h : ∀ target ∈ targets, target ∈ all) :
    pick point selected cumulative targets ∈ all := by
  induction targets generalizing cumulative with
  | nil => exact hselected
  | cons target rest ih =>
    unfold pick
    split
    · exact h target (by simp)
    · exact ih _ fun other hmem => h other (List.mem_cons_of_mem _ hmem)

theorem orderedTargets_subset (fraction : String → ℚ) (route : Route) (key : Option String) :
    ∀ target ∈ orderedTargets fraction route key, target ∈ route.targets := by
  intro target hmem
  unfold orderedTargets at hmem
  split at hmem
  · cases htargets : route.targets with
    | nil => simp [htargets, weightedTargets] at hmem
    | cons first rest =>
      rw [htargets] at hmem
      simp only [weightedTargets, List.mem_cons] at hmem
      rcases hmem with rfl | hmem
      · exact pick_mem _ (by simp) 0 fun _ h => h
      · exact (List.mem_filter.mp hmem).1
  · exact hmem

theorem resolveWith_targets {virtualModel : String} {virtualModelId : Option String} {plan : RoutingPlan}
    {holds : RoutingRule → Bool} {order : Route → List RouteTarget}
    (horder : ∀ route, ∀ target ∈ order route, target ∈ route.targets) {selected : RouteSelection}
    (h : resolveWith virtualModel virtualModelId plan (plan.rules.filter holds) order = .ok selected) :
    ∀ target ∈ selected.primary :: selected.fallbacks, target ∈ plan.targets := by
  cases hchosen : choose virtualModel plan (plan.rules.filter holds) with
  | error error => simp [resolveWith, hchosen, bind, Except.bind] at h
  | ok chosen =>
    obtain ⟨route, ruleId⟩ := chosen
    simp only [resolveWith, hchosen, bind, Except.bind] at h
    have hroute : ∀ target ∈ route.targets, target ∈ plan.targets := by
      intro target hmem
      rcases choose_cases hchosen with ⟨-, rfl, -⟩ | ⟨winner, hwinner, rfl, -⟩
      · exact List.mem_append_left _ hmem
      · exact List.mem_append_right _ (List.mem_flatMap.mpr ⟨winner, (List.mem_filter.mp hwinner).1, hmem⟩)
    cases htargets : order route with
    | nil => simp [htargets, selection] at h
    | cons primary fallbacks =>
      simp only [htargets, selection, Except.ok.injEq] at h
      subst h
      intro target hmem
      exact hroute target (horder route target (htargets ▸ hmem))

section Selected

variable {zones : Zones} {snapshot : Snapshot} (hvalid : snapshot.Valid) {virtualModel : String} {now : Int}
  {context : RouteContext} {selected : RouteSelection}

include hvalid

/-- Every target that a runtime selects has a published connection. -/
theorem node_connected (h : Node.resolveRuntimeRoute zones snapshot virtualModel now context = .ok selected) :
    ∀ target ∈ selected.primary :: selected.fallbacks,
      ∃ connection, snapshot.connections.lookup target.connectionId = some connection := by
  cases hplan : snapshot.routing.lookup virtualModel with
  | none => simp [Node.resolveRuntimeRoute, hplan] at h
  | some plan =>
    cases hzone : zones plan.timezone with
    | none => simp [Node.resolveRuntimeRoute, hplan, hzone] at h
    | some localized =>
      rw [node_resolve hplan hzone] at h
      intro target hmem
      exact hvalid.connection hplan (resolveWith_targets (fun route => orderedTargets_subset _ route _) h target hmem)

theorem python_connected (h : Python.resolveRuntimeRoute zones snapshot virtualModel now context = .ok selected) :
    ∀ target ∈ selected.primary :: selected.fallbacks,
      ∃ connection, snapshot.connections.lookup target.connectionId = some connection := by
  cases hplan : snapshot.routing.lookup virtualModel with
  | none => simp [Python.resolveRuntimeRoute, hplan] at h
  | some plan =>
    by_cases hstuck : Stuck zones plan
    · obtain ⟨hzone, rule, hmem, schedule, hmatch⟩ := hstuck
      have hnone : outcome (Python.resolveRuntimeRoute zones snapshot virtualModel now context) = none :=
        (schedule_fails hmem hmatch hplan hzone).1
      simp [h, outcome] at hnone
    · rw [python_resolve hplan fun rule hmem => pythonHolds_ok rule (evaluable_of_not_stuck hstuck hmem)] at h
      intro target hmem
      exact hvalid.connection hplan (resolveWith_targets (fun route => orderedTargets_subset _ route _) h target hmem)

end Selected

end TokenPilot.Runtime
