/-
  TokenPilot.Runtime.RouteAgreement — when the three runtimes route alike.

  `routes_alike_iff` is exact for every request. The runtimes route alike when one rule, or
  the default, is matched above all others, every rule of its priority and above is read alike
  and its route is ordered alike; a rule below it may be read in any way. Or they all fail: in
  an unknown timezone on a schedule, or because each finds its highest priority tied, be it at
  different rules. Node asks for a timezone always, the others only for a schedule.
-/

import TokenPilot.Runtime.RouteChoice
import TokenPilot.Runtime.RuleAgreement

namespace TokenPilot.Runtime

open Library

def Alike (zones : Zones) (snapshot : Snapshot) (virtualModel : String) (now : Int) (context : RouteContext) : Prop :=
  outcome (Node.resolveRuntimeRoute zones snapshot virtualModel now context) =
      outcome (Python.resolveRuntimeRoute zones snapshot virtualModel now context) ∧
    outcome (Python.resolveRuntimeRoute zones snapshot virtualModel now context) =
      outcome (Connector.selectRuntimeRoute zones snapshot virtualModel now context)

/-! ## The runtimes on a plan -/

/-- Every rule of the priority of the choice and above is read alike, and its route is ordered
    alike; without a choice, every rule and the default. -/
structure ChoiceAlike (plan : RoutingPlan) (choice : Option RoutingRule) (now : Int) (context : RouteContext) : Prop where
  rules : ∀ rule ∈ plan.rules, (∀ winner ∈ choice, winner.priority ≤ rule.priority) → RuleAlike rule now context
  route : RouteAlike (plan.routeOf choice) context

/-- Where the runtimes route alike. -/
def Agreeable (zones : Zones) (plan : RoutingPlan) (now : Int) (context : RouteContext) : Prop :=
  match zones plan.timezone with
  | none =>
    (∃ rule ∈ plan.rules, ∃ schedule, rule.match = .schedule schedule) ∨
      Tied (plan.rules.filter (pythonHolds zones plan.timezone now context)) ∧
        Tied (plan.rules.filter (connectorHolds zones plan.timezone now context))
  | some localized =>
    (∃ choice, Top (plan.rules.filter (Node.ruleMatches · (localized now) now context)) choice ∧
        ChoiceAlike plan choice now context) ∨
      Tied (plan.rules.filter (Node.ruleMatches · (localized now) now context)) ∧
        Tied (plan.rules.filter (pythonHolds zones plan.timezone now context)) ∧
        Tied (plan.rules.filter (connectorHolds zones plan.timezone now context))

section Plan

variable {zones : Zones} {snapshot : Snapshot} {virtualModel : String} {plan : RoutingPlan}
  {localized : Int → LocalTime} {now : Int} {context : RouteContext}

theorem RoutingPlan.Valid.routeOf {rules : List RoutingRule} (hvalid : plan.Valid) (hrules : ∀ rule ∈ rules, rule ∈ plan.rules)
    {choice : Option RoutingRule} (htop : Top rules choice) : (plan.routeOf choice).Valid := by
  cases choice with
  | none => exact hvalid.default
  | some winner => exact (hvalid.rules winner (hrules winner htop.1)).route

theorem RoutingPlan.Valid.nodup_filter (hvalid : plan.Valid) (holds : RoutingRule → Bool) :
    (plan.rules.filter holds).Nodup :=
  hvalid.distinct.of_map.filter _

/-- What the runtimes that match some rules, and order their targets somehow, come out with. -/
theorem resolve_none_iff (hvalid : plan.Valid) (holds : RoutingRule → Bool) (fraction : String → ℚ) (key : Option String)
    (virtualModelId : Option String) :
    outcome (resolveWith virtualModel virtualModelId plan (plan.rules.filter holds) (orderedTargets fraction · key)) = none ↔
      Tied (plan.rules.filter holds) :=
  outcome_none_iff (hvalid.nodup_filter holds)
    (fun _ htop => orderedTargets_ne_nil (hvalid.routeOf (fun _ h => (List.mem_filter.mp h).1) htop).filled key)
    virtualModelId

theorem rule_eq_of_id (hvalid : plan.Valid) {rule other : RoutingRule} (hrule : rule ∈ plan.rules)
    (hother : other ∈ plan.rules) (hid : rule.id = other.id) : rule = other :=
  List.inj_on_of_nodup_map hvalid.distinct hrule hother hid

/-- Two runtimes with one outcome, the first by its top, have that top in common and order its
    route alike; and the other way round. -/
theorem outcome_eq_iff (hvalid : plan.Valid) {holds holds' : RoutingRule → Bool} {order order' : Route → List RouteTarget}
    {choice : Option RoutingRule} (htop : Top (plan.rules.filter holds) choice)
    (horder : order (plan.routeOf choice) ≠ [])
    (horder' : ∀ choice', Top (plan.rules.filter holds') choice' → order' (plan.routeOf choice') ≠ [])
    (virtualModelId virtualModelId' : Option String) :
    outcome (resolveWith virtualModel virtualModelId plan (plan.rules.filter holds) order) =
        outcome (resolveWith virtualModel virtualModelId' plan (plan.rules.filter holds') order') ↔
      Top (plan.rules.filter holds') choice ∧
        (order (plan.routeOf choice)).map (·.modelId) = (order' (plan.routeOf choice)).map (·.modelId) := by
  obtain ⟨primary, fallbacks, hlist, hsome⟩ := outcome_top virtualModel (hvalid.nodup_filter holds) htop
    horder virtualModelId
  rw [hsome, hlist]
  constructor
  · intro hsame
    have huntied : ¬Tied (plan.rules.filter holds') := by
      intro htied
      rw [outcome_tied (hvalid.nodup_filter holds') htied] at hsame
      cases hsame
    obtain ⟨choice', htop'⟩ := exists_top huntied
    obtain ⟨primary', fallbacks', hlist', hsome'⟩ := outcome_top virtualModel
      (hvalid.nodup_filter holds') htop' (horder' choice' htop') virtualModelId'
    rw [hsome', Option.some.injEq, Prod.mk.injEq, Prod.mk.injEq] at hsame
    obtain ⟨hid, hprimary, hfallbacks⟩ := hsame
    -- the ids of a plan are distinct
    obtain rfl : choice = choice' := by
      cases choice with
      | none =>
        cases choice' with
        | none => rfl
        | some winner' => cases hid
      | some winner =>
        cases choice' with
        | none => cases hid
        | some winner' =>
          rw [rule_eq_of_id hvalid (List.mem_filter.mp htop.1).1 (List.mem_filter.mp htop'.1).1 (Option.some.inj hid)]
    refine ⟨htop', ?_⟩
    rw [hlist', List.map_cons, List.map_cons, hprimary, hfallbacks]
  · rintro ⟨htop', hmodels⟩
    obtain ⟨primary', fallbacks', hlist', hsome'⟩ := outcome_top virtualModel
      (hvalid.nodup_filter holds') htop' (horder' choice htop') virtualModelId'
    rw [hlist', List.map_cons, List.map_cons, List.cons.injEq] at hmodels
    rw [hsome', hmodels.1, hmodels.2]

/-- In a known timezone: every runtime has the top of Node exactly when the rules of its
    priority and above are read alike. -/
theorem tops_iff (hvalid : plan.Valid) (hzone : zones plan.timezone = some localized) {choice : Option RoutingRule}
    (htop : Top (plan.rules.filter (Node.ruleMatches · (localized now) now context)) choice) :
    (Top (plan.rules.filter (pythonHolds zones plan.timezone now context)) choice ∧
        Top (plan.rules.filter (connectorHolds zones plan.timezone now context)) choice) ↔
      ∀ rule ∈ plan.rules, (∀ winner ∈ choice, winner.priority ≤ rule.priority) → RuleAlike rule now context := by
  have hsome : (zones plan.timezone).isSome := by rw [hzone]; rfl
  have hsame (rule : RoutingRule) (hmem : rule ∈ plan.rules) : RuleAlike rule now context ↔
      pythonHolds zones plan.timezone now context rule = Node.ruleMatches rule (localized now) now context ∧
        connectorHolds zones plan.timezone now context rule = Node.ruleMatches rule (localized now) now context := by
    rw [← rule_alike_iff hzone rule (hvalid.rules rule hmem).condition now context, SameMatch,
      pythonHolds_ok rule (.inl hsome), connectorHolds_ok rule (.inl hsome), Except.ok.injEq, Except.ok.injEq]
  constructor
  · rintro ⟨hpython, hconnector⟩ rule hmem hpriority
    have hnode := htop.holds hmem hpriority
    refine (hsame rule hmem).mpr ⟨?_, ?_⟩
    · rw [Bool.eq_iff_iff, hnode, hpython.holds hmem hpriority]
    · rw [Bool.eq_iff_iff, hnode, hconnector.holds hmem hpriority]
  · intro halike
    exact ⟨htop.congr fun rule hmem hpriority => ((hsame rule hmem).mp (halike rule hmem hpriority)).1,
      htop.congr fun rule hmem hpriority => ((hsame rule hmem).mp (halike rule hmem hpriority)).2⟩

theorem alike_of_timezone (hvalid : plan.Valid) (hplan : snapshot.routing.lookup virtualModel = some plan)
    (hzone : zones plan.timezone = some localized) :
    Alike zones snapshot virtualModel now context ↔ Agreeable zones plan now context := by
  have hsome : (zones plan.timezone).isSome := by rw [hzone]; rfl
  have hfilled (fraction : String → ℚ) (key : Option String) (holds : RoutingRule → Bool) (choice : Option RoutingRule)
      (htop : Top (plan.rules.filter holds) choice) : orderedTargets fraction (plan.routeOf choice) key ≠ [] :=
    orderedTargets_ne_nil (hvalid.routeOf (fun _ h => (List.mem_filter.mp h).1) htop).filled key
  unfold Alike
  simp only [Agreeable, hzone]
  rw [node_resolve hplan hzone, python_resolve hplan fun rule _ => pythonHolds_ok rule (.inl hsome),
    connector_resolve hplan fun rule _ => connectorHolds_ok rule (.inl hsome)]
  by_cases htied : Tied (plan.rules.filter (Node.ruleMatches · (localized now) now context))
  · -- Node fails, and so must the others
    have hnone : ¬∃ choice, Top (plan.rules.filter (Node.ruleMatches · (localized now) now context)) choice ∧
        ChoiceAlike plan choice now context := by
      rintro ⟨choice, htop, -⟩
      exact htied.not_top choice htop
    rw [outcome_tied (hvalid.nodup_filter _) htied, or_iff_right hnone, and_iff_right htied, eq_comm]
    constructor
    · rintro ⟨hpython, hconnector⟩
      rw [hpython, eq_comm] at hconnector
      exact ⟨(resolve_none_iff hvalid _ _ _ _).mp hpython, (resolve_none_iff hvalid _ _ _ _).mp hconnector⟩
    · rintro ⟨hpython, hconnector⟩
      rw [(resolve_none_iff hvalid _ _ _ _).mpr hpython, (resolve_none_iff hvalid _ _ _ _).mpr hconnector]
      exact ⟨rfl, rfl⟩
  · obtain ⟨choice, htop⟩ := exists_top htied
    have hroute := hvalid.routeOf (fun _ h => (List.mem_filter.mp h).1) htop
    have hunique : (∃ choice, Top (plan.rules.filter (Node.ruleMatches · (localized now) now context)) choice ∧
        ChoiceAlike plan choice now context) ↔ ChoiceAlike plan choice now context := by
      constructor
      · rintro ⟨other, hother, halike⟩
        rwa [htop.unique hother] at halike
      · exact fun halike => ⟨choice, htop, halike⟩
    rw [or_iff_left fun h => htied h.1, hunique]
    rw [outcome_eq_iff hvalid htop (hfilled _ _ _ choice htop) (hfilled _ _ _)]
    constructor
    · rintro ⟨⟨hpython, hmodels⟩, hsame⟩
      obtain ⟨hconnector, -⟩ := (outcome_eq_iff hvalid hpython (hfilled _ _ _ choice hpython) (hfilled _ _ _) _ _).mp hsame
      exact ⟨(tops_iff hvalid hzone htop).mp ⟨hpython, hconnector⟩, (routeAlike_iff hroute).mpr hmodels.symm⟩
    · intro halike
      obtain ⟨hpython, hconnector⟩ := (tops_iff hvalid hzone htop).mpr halike.rules
      exact ⟨⟨hpython, ((routeAlike_iff hroute).mp halike.route).symm⟩,
        (outcome_eq_iff hvalid hpython (hfilled _ _ _ choice hpython) (hfilled _ _ _) _ _).mpr ⟨hconnector, rfl⟩⟩

theorem alike_of_no_timezone (hvalid : plan.Valid) (hplan : snapshot.routing.lookup virtualModel = some plan)
    (hzone : zones plan.timezone = none) :
    Alike zones snapshot virtualModel now context ↔ Agreeable zones plan now context := by
  have hnode : outcome (Node.resolveRuntimeRoute zones snapshot virtualModel now context) = none := by
    simp [Node.resolveRuntimeRoute, hplan, hzone, outcome]
  unfold Alike
  simp only [Agreeable, hzone, hnode]
  by_cases hschedule : ∃ rule ∈ plan.rules, ∃ schedule, rule.match = .schedule schedule
  · obtain ⟨rule, hmem, schedule, hmatch⟩ := hschedule
    obtain ⟨hpython, hconnector⟩ : outcome (Python.resolveRuntimeRoute zones snapshot virtualModel now context) = none ∧
        outcome (Connector.selectRuntimeRoute zones snapshot virtualModel now context) = none :=
      schedule_fails hmem hmatch hplan hzone
    rw [hpython, hconnector]
    exact iff_of_true ⟨rfl, rfl⟩ (.inl ⟨rule, hmem, schedule, hmatch⟩)
  · rw [or_iff_right hschedule]
    push Not at hschedule
    rw [python_resolve hplan fun rule hmem => pythonHolds_ok rule (.inr (hschedule rule hmem)),
      connector_resolve hplan fun rule hmem => connectorHolds_ok rule (.inr (hschedule rule hmem))]
    constructor
    · rintro ⟨hpython, hconnector⟩
      rw [← hpython] at hconnector
      exact ⟨(resolve_none_iff hvalid _ _ _ _).mp hpython.symm, (resolve_none_iff hvalid _ _ _ _).mp hconnector.symm⟩
    · rintro ⟨hpython, hconnector⟩
      rw [(resolve_none_iff hvalid _ _ _ _).mpr hpython, (resolve_none_iff hvalid _ _ _ _).mpr hconnector]
      exact ⟨rfl, rfl⟩

end Plan

/-- The three runtimes route a request alike exactly when its plan is agreeable for it. -/
theorem routes_alike_iff (zones : Zones) (snapshot : Snapshot) (hvalid : snapshot.Valid) (virtualModel : String)
    (now : Int) (context : RouteContext) :
    Alike zones snapshot virtualModel now context ↔
      ∀ plan, snapshot.routing.lookup virtualModel = some plan → Agreeable zones plan now context := by
  cases hplan : snapshot.routing.lookup virtualModel with
  | none =>
    refine iff_of_true ?_ (by simp)
    simp [Alike, Node.resolveRuntimeRoute, Python.resolveRuntimeRoute, Connector.selectRuntimeRoute, hplan, outcome]
  | some plan =>
    simp only [Option.some.injEq, forall_eq']
    cases hzone : zones plan.timezone with
    | none => exact alike_of_no_timezone (hvalid.plan hplan) hplan hzone
    | some localized => exact alike_of_timezone (hvalid.plan hplan) hplan hzone

/-! ## A plan with three rules -/

/-- Two targets of total weight one, the first with `h` parts of 2^32. -/
def twoTargets (routeTag : String) (h : Nat) : List RouteTarget :=
  [ { modelId := "first", connectionId := "connection", requestModel := "first", provider := "provider", taskType := .chat
      capabilities := [], routeTag, fallbackOrder := 0, weight := .ofScaled (h * 5 ^ 32) (-32) },
    { modelId := "second", connectionId := "connection", requestModel := "second", provider := "provider"
      taskType := .chat, capabilities := [], routeTag, fallbackOrder := 1
      weight := .ofScaled ((4294967296 - h) * 5 ^ 32) (-32) } ]

theorem parts_toRat (c : Int) : (Decimal.ofScaled (c * 5 ^ 32) (-32)).toRat = c / 4294967296 := by
  rw [Decimal.toRat_ofScaled]
  push_cast
  rw [zpow_neg, div_eq_mul_inv, mul_assoc]
  norm_num

theorem twoTargets_valid {h : Nat} (hpositive : 0 < h) (hbound : h < 4294967296) (routeTag : String)
    (mode : SelectionMode) : (Route.mk routeTag mode (twoTargets routeTag h)).Valid := by
  have hp : (0 : ℚ) < h := by exact_mod_cast hpositive
  have hb : (h : ℚ) < 4294967296 := by exact_mod_cast hbound
  refine ⟨by simp [twoTargets], by simp [twoTargets], by simp [twoTargets], rfl, ?_⟩
  intro target hmem
  simp only [twoTargets, List.mem_cons, List.not_mem_nil, or_false] at hmem
  rcases hmem with rfl | rfl
  · simp only [parts_toRat]
    push_cast
    constructor
    · exact div_pos hp (by norm_num)
    · rw [div_le_iff₀ (by norm_num)]
      linarith
  · simp only [parts_toRat]
    push_cast
    constructor
    · exact div_pos (by linarith) (by norm_num)
    · rw [div_le_iff₀ (by norm_num)]
      linarith

/-- A snapshot that publishes one plan and one connection. -/
def publishing (virtualModel : String) (plan : RoutingPlan) : Snapshot where
  applicationId := "7b0d9f6e-3c7a-4f0e-9d55-0a3f3d0c2b11"
  version := "1"
  etag := "sha256:0000000000000000000000000000000000000000000000000000000000000000"
  signature := "sha256:0000000000000000000000000000000000000000000000000000000000000000"
  expiresAt := plan.publishedAt
  connections :=
    [ ( "connection",
        { id := "connection", name := "connection", driver := .litellm, baseUrl := some "https://gateway.example"
          credentialRef := none, timeoutMs := 1000, maxRetries := 0, apiVersion := none } ) ]
  routing := [(virtualModel, plan)]
  aiuEnabled := false
  aiuMode := .disabled
  unratedModelPolicy := .allowUnrated
  access := { applicationEnabled := true, blockedUserIds := [] }
  analyticsAllowedKeys := []

theorem publishing_valid {plan : RoutingPlan} (hvalid : plan.Valid)
    (hconnections : ∀ target ∈ plan.targets, target.connectionId = "connection") (virtualModel : String) :
    (publishing virtualModel plan).Valid where
  plans := by simpa [publishing] using hvalid
  named := by simp [publishing]
  connected := by
    intro entry hentry target hmem
    simp only [publishing, List.mem_singleton] at hentry
    subst hentry
    rw [hconnections target hmem]
    rfl
  unique := by simp [publishing]
  versions := by simp [publishing]
  active := by simp [publishing]
  blocked := by simp [publishing]

/-- A plan with an override, a rule for one user and one for users whose `beta` is true. -/
def betaPlan : RoutingPlan where
  virtualModelId := "vm-1"
  configurationVersion := 1
  configurationEtag := "sha256:0000000000000000000000000000000000000000000000000000000000000000"
  publishedAt := .ofMilliseconds 0
  timezone := "UTC"
  default := ⟨"cp:virtual:assistant:default", .ordered, twoTargets "cp:virtual:assistant:default" 1⟩
  rules :=
    [ { id := "override", priority := 30, «match» := .overrideActive
        route := ⟨"cp:virtual:assistant:rule1", .ordered, twoTargets "cp:virtual:assistant:rule1" 1⟩
        expiresAt := some (.ofMilliseconds 500) },
      { id := "vip", priority := 20, «match» := .user ["u-1"]
        route := ⟨"cp:virtual:assistant:rule2", .weighted, twoTargets "cp:virtual:assistant:rule2" 1⟩
        expiresAt := none },
      { id := "beta", priority := 10, «match» := .userProperty ⟨"beta", .equals, some (.flag true)⟩
        route := ⟨"cp:virtual:assistant:rule3", .ordered, twoTargets "cp:virtual:assistant:rule3" 1⟩
        expiresAt := none } ]

theorem betaPlan_valid : betaPlan.Valid := by
  refine ⟨twoTargets_valid (by decide) (by decide) _ _, ?_, by decide⟩
  simp only [betaPlan, List.mem_cons, List.not_mem_nil, or_false, forall_eq_or_imp, forall_eq]
  exact ⟨⟨trivial, twoTargets_valid (by decide) (by decide) _ _, by decide⟩,
    ⟨by decide, twoTargets_valid (by decide) (by decide) _ _, by decide⟩,
    ⟨by decide, twoTargets_valid (by decide) (by decide) _ _, by decide⟩⟩

theorem betaSnapshot_valid : (publishing "assistant" betaPlan).Valid :=
  publishing_valid betaPlan_valid (by decide) "assistant"

/-- A request of user `u-2` with the given property `beta`. -/
def betaRequest (beta : Json String Decimal) : RouteContext where
  userId := some "u-2"
  userProperties := some [("beta", beta)]
  callSource := none
  selectionKey := some "request-1"

def utcZone : Zones := fun timezone => if timezone = "UTC" then some fun _ => ⟨1, 0⟩ else none

def betaRule : RoutingRule where
  id := "beta"
  priority := 10
  «match» := .userProperty ⟨"beta", .equals, some (.flag true)⟩
  route := ⟨"cp:virtual:assistant:rule3", .ordered, twoTargets "cp:virtual:assistant:rule3" 1⟩
  expiresAt := none

theorem beta_flag_routes_alike :
    (publishing "assistant" betaPlan).Valid ∧
      Alike utcZone (publishing "assistant" betaPlan) "assistant" 1000 (betaRequest (.bool true)) := by
  refine ⟨betaSnapshot_valid,
    (routes_alike_iff utcZone _ betaSnapshot_valid "assistant" 1000 (betaRequest (.bool true))).mpr ?_⟩
  intro plan hplan
  obtain rfl : betaPlan = plan := Option.some.inj hplan
  have honly : betaPlan.rules.filter (Node.ruleMatches · ⟨1, 0⟩ 1000 (betaRequest (.bool true))) = [betaRule] := rfl
  refine .inl ⟨some betaRule, ⟨honly ▸ List.mem_singleton_self betaRule, fun rule hmem hne => ?_⟩, ⟨?_, ?_⟩⟩
  · have hmem : rule ∈ [betaRule] := honly ▸ hmem
    exact absurd (List.mem_singleton.mp hmem) hne
  · intro rule hmem hpriority
    simp only [betaPlan, List.mem_cons, List.not_mem_nil, or_false] at hmem
    rcases hmem with rfl | rfl | rfl
    · simp [RuleAlike, UtcTime.ofMilliseconds]
    · trivial
    · rfl
  · intro hmode
    cases hmode

/-- The number 1 is `beta` for Python, and for no other runtime. -/
theorem beta_number_routes_differ :
    ¬∀ (zones : Zones) (snapshot : Snapshot) (virtualModel : String) (now : Int) (context : RouteContext),
      snapshot.Valid → Alike zones snapshot virtualModel now context := by
  intro hall
  have halike := hall utcZone _ "assistant" 1000 (betaRequest (.num (.ofInt 1))) betaSnapshot_valid
  exact absurd halike.1 (by decide +kernel)

end TokenPilot.Runtime
