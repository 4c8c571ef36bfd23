/-
  TokenPilot.Runtime.RuleAgreement — when the three runtimes read a rule alike.

  A rule is read alike (`RuleAlike`) unless its condition falls where the evaluators differ:
  a property compared across booleans and numbers (`True == 1` in Python), the text of a
  boolean (`"True"` against `"true"`), an empty prefix (which the connector refuses), the
  inherited property `constructor` (which Node sees), or an override that expires within the
  millisecond of the request. A weighted route is ordered alike (`RouteAlike`) when both
  readings of an empty selection key start in the share of one target.

  `property_alike_iff`, `rule_alike_iff` and `routeAlike_iff` are exact: the evaluators answer
  and order alike if and only if the condition holds.
-/

import Mathlib.Algebra.Order.Field.Basic
import Mathlib.Tactic.Linarith
import TokenPilot.Runtime.Routing

namespace TokenPilot.Runtime

open Library

/-! ## The hash -/

theorem hash_step (hash : UInt32) (byte : UInt8) :
    ((hash ^^^ byte.toUInt32) * 16777619).toNat = ((hash.toNat ^^^ byte.toNat) * 16777619) &&& 0xFFFFFFFF := by
  rw [show (0xFFFFFFFF : Nat) = 2 ^ 32 - 1 from rfl, Nat.and_two_pow_sub_one_eq_mod]
  simp

theorem hash_run (bytes : List UInt8) (hash : UInt32) :
    (bytes.foldl (fun hash byte => (hash ^^^ byte.toUInt32) * 16777619) hash).toNat =
      bytes.foldl (fun hash byte => ((hash ^^^ byte.toNat) * 16777619) &&& 0xFFFFFFFF) hash.toNat := by
  induction bytes generalizing hash with
  | nil => rfl
  | cons byte rest ih => rw [List.foldl_cons, List.foldl_cons, ih, hash_step]

theorem fraction_eq (value : String) : Node.deterministicFraction value = Python.deterministicFraction value := by
  simp only [Node.deterministicFraction, Python.deterministicFraction, hash_run]
  rfl

/-- A fraction is a number of 2^-32 below one. -/
theorem fraction_scaled (value : String) :
    ∃ h : Nat, h < 4294967296 ∧ Node.deterministicFraction value = (h : ℚ) / 4294967296 :=
  ⟨_, UInt32.toNat_lt _, rfl⟩

/-! ## Properties -/

/-- Equal for Python but not without its conversion of booleans. -/
def looselyEqual : Json String Decimal → Option PropertyValue → Bool
  | .num n, some (.flag b) => n.toRat = if b then 1 else 0
  | .bool b, some (.number m) => m = if b then 1 else 0
  | _, _ => false

theorem python_equal (v : Json String Decimal) (expected : PropertyValue) :
    Python.equal v (some expected) = (strictEqual v expected || looselyEqual v (some expected)) := by
  cases v <;> cases expected <;> simp [Python.equal, strictEqual, looselyEqual]

theorem strict_not_loose (v : Json String Decimal) (expected : PropertyValue) (h : looselyEqual v (some expected) = true) :
    strictEqual v expected = false := by
  cases v <;> cases expected <;> simp_all [strictEqual, looselyEqual]

theorem connector_equal (v : Json String Decimal) (expected : PropertyValue) :
    Connector.jsonScalarEqual v (some expected) = strictEqual v expected := by
  cases v <;> cases expected <;> rfl

/-- Node reads a member of `Object.prototype` where the others read no property. -/
def readsInherited (context : RouteContext) (key : String) : Bool :=
  match Node.readProperty context key with
  | .inherited => true
  | _ => false

/-- The value that Node compares is the one the others compare, or the inherited one. -/
theorem readProperty_cases (context : RouteContext) (key : String) :
    Node.readProperty context key = .value (Python.readProperty context key) ∨
      (Node.readProperty context key = .undefined ∧ Python.readProperty context key = .null) ∨
      (Node.readProperty context key = .inherited ∧ Python.readProperty context key = .null) := by
  unfold Node.readProperty Python.readProperty
  cases context.userProperties with
  | none => simp
  | some fields =>
    cases hkey : fields.lookup key with
    | some v => simp [hkey]
    | none =>
      by_cases hc : key = "constructor"
      · subst hc
        simp [hkey]
      · simp [hkey, hc]

/-- Where the evaluators of a property condition agree. -/
def PropertyAlike (condition : UserPropertyMatch) (context : RouteContext) : Prop :=
  match condition.operator with
  | .isSet | .isNotSet => readsInherited context condition.key = false
  | .equals | .notEquals => looselyEqual (Python.readProperty context condition.key) condition.value = false
  | .startsWith =>
    match Python.readProperty context condition.key, condition.value with
    | .str _, some (.text t) => t ≠ ""
    | .str s, some (.flag b) => ∀ text ∈ [javascriptString (some (.flag b)), pythonString (some (.flag b))],
        startsWith s text = false
    | _, _ => True
  | .contains =>
    match Python.readProperty context condition.key, condition.value with
    | .str s, some (.flag b) => includesText s (javascriptString (some (.flag b))) =
        includesText s (pythonString (some (.flag b)))
    | .arr items, some expected => (items.any fun item => looselyEqual item (some expected)) = true →
        (items.any fun item => strictEqual item expected) = true
    | _, _ => True

/-- The three evaluators of a condition answer alike. -/
def SameAnswer (condition : UserPropertyMatch) (context : RouteContext) : Prop :=
  Python.propertyMatches condition (Python.readProperty context condition.key) =
      Node.propertyMatches condition (Node.readProperty context condition.key) ∧
    Connector.propertyMatches condition (Python.readProperty context condition.key) =
      Node.propertyMatches condition (Node.readProperty context condition.key)

theorem isSet_eq (context : RouteContext) (key : String) :
    (Node.readProperty context key).isSet =
      (readsInherited context key || !Python.isNone (Python.readProperty context key)) := by
  unfold readsInherited
  rcases readProperty_cases context key with h | ⟨h, hnull⟩ | ⟨h, hnull⟩
  · rw [h]
    cases Python.readProperty context key <;> rfl
  · rw [h, hnull]
    rfl
  · rw [h, hnull]
    rfl

theorem inherited_isNone {context : RouteContext} {key : String} (h : readsInherited context key = true) :
    Python.isNone (Python.readProperty context key) = true := by
  unfold readsInherited at h
  rcases readProperty_cases context key with hv | ⟨hv, hnull⟩ | ⟨hv, hnull⟩
  · simp [hv] at h
  · rw [hnull]
    rfl
  · rw [hnull]
    rfl

/-- Node compares as without conversions: what it does not read as a value equals nothing. -/
theorem node_equals (context : RouteContext) (key : String) (expected : PropertyValue) :
    (Node.readProperty context key).equals (some expected) = strictEqual (Python.readProperty context key) expected := by
  rcases readProperty_cases context key with h | ⟨h, hnull⟩ | ⟨h, hnull⟩
  · rw [h]
    rfl
  · rw [h, hnull]
    cases expected <;> rfl
  · rw [h, hnull]
    cases expected <;> rfl

theorem loose_iff (v : Json String Decimal) (expected : PropertyValue) :
    Python.equal v (some expected) = strictEqual v expected ↔ looselyEqual v (some expected) = false := by
  rw [python_equal]
  cases hl : looselyEqual v (some expected)
  · simp
  · simp [strict_not_loose v expected hl]

section Operators

attribute [local simp] SameAnswer Node.propertyMatches Python.propertyMatches Connector.propertyMatches

variable (context : RouteContext) (key : String)

theorem presence_iff (value : Option PropertyValue) :
    (SameAnswer ⟨key, .isSet, value⟩ context ↔ readsInherited context key = false) ∧
      (SameAnswer ⟨key, .isNotSet, value⟩ context ↔ readsInherited context key = false) := by
  simp only [SameAnswer, Node.propertyMatches, Python.propertyMatches, Connector.propertyMatches, isSet_eq]
  cases h : readsInherited context key
  · simp
  · simp [inherited_isNone h]

theorem equality_iff (expected : PropertyValue) :
    (SameAnswer ⟨key, .equals, some expected⟩ context ↔
        looselyEqual (Python.readProperty context key) (some expected) = false) ∧
      (SameAnswer ⟨key, .notEquals, some expected⟩ context ↔
        looselyEqual (Python.readProperty context key) (some expected) = false) := by
  simp only [SameAnswer, Node.propertyMatches, Python.propertyMatches, Connector.propertyMatches, node_equals,
    connector_equal, and_true, Bool.not_eq_eq_eq_not, Bool.not_not, loose_iff, and_self]

/-- A text cannot start with both spellings of a boolean. -/
theorem flag_prefix (s : String) (b : Bool) (hjs : startsWith s (javascriptString (some (.flag b))) = true) :
    startsWith s (pythonString (some (.flag b))) = false := by
  unfold startsWith at hjs ⊢
  cases hs : s.toList with
  | nil => cases b <;> rfl
  | cons c rest =>
    rw [hs] at hjs
    cases b
    · have hc : c = 'f' := by
        have := hjs
        simp [javascriptString, List.isPrefixOf] at this
        exact this.1.symm
      subst hc
      rfl
    · have hc : c = 't' := by
        have := hjs
        simp [javascriptString, List.isPrefixOf] at this
        exact this.1.symm
      subst hc
      rfl

/-- Without a value to read, no text operator applies. -/
theorem text_operators_null {operator : Operator} (hop : operator = .startsWith ∨ operator = .contains)
    (value : Option PropertyValue) (hnull : Python.readProperty context key = .null)
    (hnode : Node.readProperty context key = .undefined ∨ Node.readProperty context key = .inherited) :
    SameAnswer ⟨key, operator, value⟩ context := by
  rcases hop with rfl | rfl <;> rcases hnode with h | h <;>
    simp [SameAnswer, Node.propertyMatches, Python.propertyMatches, Connector.propertyMatches, h, hnull]

theorem startsWith_iff (expected : PropertyValue) :
    SameAnswer ⟨key, .startsWith, some expected⟩ context ↔
      PropertyAlike ⟨key, .startsWith, some expected⟩ context := by
  rcases readProperty_cases context key with h | ⟨h, hnull⟩ | ⟨h, hnull⟩
  · simp only [SameAnswer, PropertyAlike, Node.propertyMatches, Python.propertyMatches, Connector.propertyMatches, h]
    cases Python.readProperty context key with
    | str s =>
      cases expected with
      | text t =>
        by_cases ht : t = ""
        · subst ht
          simp [javascriptString, pythonString, startsWith]
        · simp [javascriptString, pythonString, ht]
      | number n =>
        have hne : n.repr ≠ "" := by
          intro hempty
          have hlength := congrArg String.length hempty
          cases n <;> simp [Int.repr] at hlength
        simp [javascriptString, pythonString, hne]
      | flag b =>
        have hne : javascriptString (some (.flag b)) ≠ "" := by cases b <;> decide
        have hexclusive := flag_prefix s b
        simp only [hne, ne_eq, not_false_eq_true, decide_true, Bool.true_and, and_true, List.mem_cons, List.not_mem_nil,
          or_false, forall_eq_or_imp, forall_eq]
        cases hjs : startsWith s (javascriptString (some (.flag b)))
        · simp
        · simp [hexclusive hjs]
    | _ => simp
  · refine iff_of_true (text_operators_null context key (.inl rfl) _ hnull (.inl h)) ?_
    simp [PropertyAlike, hnull]
  · refine iff_of_true (text_operators_null context key (.inl rfl) _ hnull (.inr h)) ?_
    simp [PropertyAlike, hnull]

theorem contains_iff (expected : PropertyValue) :
    SameAnswer ⟨key, .contains, some expected⟩ context ↔
      PropertyAlike ⟨key, .contains, some expected⟩ context := by
  rcases readProperty_cases context key with h | ⟨h, hnull⟩ | ⟨h, hnull⟩
  · simp only [SameAnswer, PropertyAlike, Node.propertyMatches, Python.propertyMatches, Connector.propertyMatches, h]
    cases Python.readProperty context key with
    | str s =>
      cases expected with
      | text t => simp [javascriptString, pythonString]
      | number n => simp [javascriptString, pythonString]
      | flag b => simp [eq_comm]
    | arr items =>
      simp only [Node.Read.equals, connector_equal, python_equal, and_true]
      rw [Bool.eq_iff_iff]
      simp only [List.any_eq_true, Bool.or_eq_true]
      constructor
      · rintro hsame ⟨item, hmem, hloose⟩
        exact hsame.mp ⟨item, hmem, .inr hloose⟩
      · refine fun hcovered => ⟨?_, fun ⟨item, hmem, hstrict⟩ => ⟨item, hmem, .inl hstrict⟩⟩
        rintro ⟨item, hmem, hstrict | hloose⟩
        · exact ⟨item, hmem, hstrict⟩
        · exact hcovered ⟨item, hmem, hloose⟩
    | _ => simp
  · refine iff_of_true (text_operators_null context key (.inr rfl) _ hnull (.inl h)) ?_
    simp [PropertyAlike, hnull]
  · refine iff_of_true (text_operators_null context key (.inr rfl) _ hnull (.inr h)) ?_
    simp [PropertyAlike, hnull]

end Operators

theorem property_alike_iff (condition : UserPropertyMatch) (hvalid : (RouteMatch.userProperty condition).Valid)
    (context : RouteContext) : SameAnswer condition context ↔ PropertyAlike condition context := by
  obtain ⟨key, operator, value⟩ := condition
  cases operator with
  | isSet => exact (presence_iff context key value).1
  | isNotSet => exact (presence_iff context key value).2
  | equals | notEquals | startsWith | contains =>
    simp only [RouteMatch.Valid, reduceCtorEq, false_or] at hvalid
    obtain ⟨expected, rfl⟩ := Option.isSome_iff_exists.mp hvalid
    first
      | exact (equality_iff context key expected).1
      | exact (equality_iff context key expected).2
      | exact startsWith_iff context key expected
      | exact contains_iff context key expected

/-! ## Rules -/

/-- Where the evaluators of a rule agree, given a timezone. -/
def RuleAlike (rule : RoutingRule) (now : Int) (context : RouteContext) : Prop :=
  match rule.match, rule.expiresAt with
  | .overrideActive, some expiry => ¬(expiry.milliseconds = now ∧ 0 < expiry.microseconds)
  | .userProperty condition, _ => PropertyAlike condition context
  | _, _ => True

/-- The evaluators of a rule answer alike, given a timezone. -/
def SameMatch (zones : Zones) (timezone : String) (localized : Int → LocalTime) (now : Int) (context : RouteContext)
    (rule : RoutingRule) : Prop :=
  Python.matchesRule zones timezone now context rule = .ok (Node.ruleMatches rule (localized now) now context) ∧
    Connector.matchesRule zones timezone now context rule = .ok (Node.ruleMatches rule (localized now) now context)

theorem expiry_iff (expiry : UtcTime) (now : Int) :
    Python.expiresAfter expiry now = decide (expiry.milliseconds > now) ↔
      ¬(expiry.milliseconds = now ∧ 0 < expiry.microseconds) := by
  have hfits := expiry.fits
  simp only [Python.expiresAfter, gt_iff_lt, decide_eq_decide]
  omega

theorem rule_alike_iff {zones : Zones} {timezone : String} {localized : Int → LocalTime}
    (hzone : zones timezone = some localized) (rule : RoutingRule) (hvalid : rule.match.Valid) (now : Int)
    (context : RouteContext) :
    SameMatch zones timezone localized now context rule ↔ RuleAlike rule now context := by
  unfold SameMatch RuleAlike Connector.matchesRule Python.matchesRule Node.ruleMatches
  cases hm : rule.match with
  | overrideActive =>
    cases he : rule.expiresAt with
    | none => simp
    | some expiry => simp only [Except.ok.injEq, and_self, expiry_iff]
  | schedule schedule => simp [hzone]
  | user ids =>
    have hfilled : "" ∉ ids := by simpa only [hm, RouteMatch.Valid] using hvalid
    cases context.userId with
    | none => simp [hfilled]
    | some userId => simp
  | userProperty condition =>
    simp only [Except.ok.injEq]
    exact property_alike_iff condition (hm ▸ hvalid) context
  | callSource value => simp

/-! ## Targets -/

/-- The fraction a weighted choice starts at; without a key the first target is taken, as at zero. -/
def startFraction (route : Route) : Option String → ℚ
  | none => 0
  | some key => Node.deterministicFraction (route.routeTag ++ ":" ++ key)

/-- No sum of the first weights separates the two fractions of the whole weight. -/
def Unseparated (targets : List RouteTarget) (a b : ℚ) : Prop :=
  ∀ n ≤ targets.length, a * totalWeight targets < totalWeight (targets.take n) ↔
    b * totalWeight targets < totalWeight (targets.take n)

/-- A route that the runtimes order alike: it is ordered, or both readings of the selection key
    start in the share of one target. -/
def RouteAlike (route : Route) (context : RouteContext) : Prop :=
  route.selectionMode = .weighted →
    Unseparated route.targets (startFraction route (Node.selectionKey context))
      (startFraction route (Python.selectionKey context))

section Pick

theorem totalWeight_cons (target : RouteTarget) (rest : List RouteTarget) :
    totalWeight (target :: rest) = target.weight.toRat + totalWeight rest := List.sum_cons

theorem totalWeight_nonneg {targets : List RouteTarget} (h : ∀ target ∈ targets, 0 < target.weight.toRat) :
    0 ≤ totalWeight targets := by
  induction targets with
  | nil => exact le_rfl
  | cons target rest ih =>
    rw [totalWeight_cons]
    exact add_nonneg (h target (by simp)).le (ih fun other hmem => h other (by simp [hmem]))

variable {a b cumulative : ℚ} {selected : RouteTarget} {targets : List RouteTarget}

/-- A point below the whole weight falls in the share of one of the targets. -/
theorem pick_hit (ha : a < cumulative + totalWeight targets) (hcumulative : cumulative ≤ a) :
    pick a selected cumulative targets ∈ targets := by
  induction targets generalizing cumulative with
  | nil =>
    rw [show totalWeight [] = 0 from rfl, add_zero] at ha
    exact absurd ha (not_lt.mpr hcumulative)
  | cons target rest ih =>
    unfold pick
    split
    · simp
    · rw [totalWeight_cons, ← add_assoc] at ha
      exact List.mem_cons_of_mem _ (ih ha (not_lt.mp ‹_›))

theorem pick_eq_of (h : ∀ n ≤ targets.length, a < cumulative + totalWeight (targets.take n) ↔
    b < cumulative + totalWeight (targets.take n)) : pick a selected cumulative targets = pick b selected cumulative targets := by
  induction targets generalizing cumulative with
  | nil => rfl
  | cons target rest ih =>
    have hfirst : a < cumulative + target.weight.toRat ↔ b < cumulative + target.weight.toRat := by
      simpa [totalWeight] using h 1 (by simp)
    have hrest : ∀ n ≤ rest.length, a < cumulative + target.weight.toRat + totalWeight (rest.take n) ↔
        b < cumulative + target.weight.toRat + totalWeight (rest.take n) := by
      intro n hn
      have hnext := h (n + 1) (by simpa using hn)
      rwa [List.take_succ_cons, totalWeight_cons, ← add_assoc] at hnext
    unfold pick
    by_cases ha : a < cumulative + target.weight.toRat
    · rw [if_pos ha, if_pos (hfirst.mp ha)]
    · rw [if_neg ha, if_neg fun hb => ha (hfirst.mpr hb), ih hrest]

/-- One point in the share of the first target and one behind it pick two models. -/
theorem pick_ne {target : RouteTarget} {rest : List RouteTarget} (hdistinct : ((target :: rest).map (·.modelId)).Nodup)
    (hb : b < cumulative + totalWeight (target :: rest)) (hbehind : ¬b < cumulative + target.weight.toRat) :
    (pick b selected cumulative (target :: rest)).modelId ≠ target.modelId := by
  rw [totalWeight_cons, ← add_assoc] at hb
  have hmem : pick b selected (cumulative + target.weight.toRat) rest ∈ rest := pick_hit hb (not_lt.mp hbehind)
  rw [List.map_cons, List.nodup_cons] at hdistinct
  unfold pick
  rw [if_neg hbehind]
  exact fun heq => hdistinct.1 (heq ▸ List.mem_map_of_mem hmem)

theorem unseparated_of_pick (hpositive : ∀ target ∈ targets, 0 < target.weight.toRat)
    (hdistinct : (targets.map (·.modelId)).Nodup) (hca : cumulative ≤ a) (hcb : cumulative ≤ b)
    (ha : a < cumulative + totalWeight targets) (hb : b < cumulative + totalWeight targets)
    (h : (pick a selected cumulative targets).modelId = (pick b selected cumulative targets).modelId) :
    ∀ n ≤ targets.length, a < cumulative + totalWeight (targets.take n) ↔
      b < cumulative + totalWeight (targets.take n) := by
  have hnone {c x : ℚ} (hx : c ≤ x) (l : List RouteTarget) : ¬x < c + totalWeight (l.take 0) := by
    rw [List.take_zero, show totalWeight [] = 0 from rfl, add_zero]
    exact not_lt.mpr hx
  induction targets generalizing cumulative with
  | nil =>
    intro n hn
    rw [List.take_nil]
    exact iff_of_false (by simpa using hnone hca []) (by simpa using hnone hcb [])
  | cons target rest ih =>
    intro n hn
    cases n with
    | zero => exact iff_of_false (hnone hca _) (hnone hcb _)
    | succ n =>
      have hrest : ∀ other ∈ rest, 0 < other.weight.toRat := fun other hmem => hpositive other (by simp [hmem])
      have hnonneg := totalWeight_nonneg fun other (hmem : other ∈ rest.take n) => hrest other (List.mem_of_mem_take hmem)
      rw [List.take_succ_cons, totalWeight_cons, ← add_assoc]
      have hself (x : ℚ) (hx : x < cumulative + target.weight.toRat) :
          pick x selected cumulative (target :: rest) = target := if_pos hx
      by_cases hfirst : a < cumulative + target.weight.toRat <;> by_cases hsecond : b < cumulative + target.weight.toRat
      · exact iff_of_true (by linarith) (by linarith)
      · rw [hself a hfirst] at h
        exact absurd h.symm (pick_ne hdistinct hb hsecond)
      · rw [hself b hsecond] at h
        exact absurd h (pick_ne hdistinct ha hfirst)
      · unfold pick at h
        rw [if_neg hfirst, if_neg hsecond] at h
        rw [totalWeight_cons, ← add_assoc] at ha hb
        rw [List.map_cons, List.nodup_cons] at hdistinct
        exact ih hrest hdistinct.2 (not_lt.mp hfirst) (not_lt.mp hsecond) ha hb h n (by simpa using hn)

end Pick

theorem weightedTargets_zero {targets : List RouteTarget} (hdistinct : (targets.map (·.modelId)).Nodup)
    (hpositive : ∀ target ∈ targets, 0 < target.weight.toRat) : weightedTargets 0 targets = targets := by
  cases targets with
  | nil => rfl
  | cons first rest =>
    have hfirst : 0 < first.weight.toRat := hpositive first (by simp)
    have hselected : pick (0 * totalWeight (first :: rest)) first 0 (first :: rest) = first := by
      simp [pick, hfirst]
    simp only [weightedTargets, hselected]
    have hothers : ∀ target ∈ rest, target.modelId ≠ first.modelId := by
      intro target hmem heq
      rw [List.map_cons, List.nodup_cons] at hdistinct
      exact hdistinct.1 (heq ▸ List.mem_map_of_mem hmem)
    have hrest : rest.filter (·.modelId ≠ first.modelId) = rest := by
      refine List.filter_eq_self.mpr fun target hmem => ?_
      simpa using hothers target hmem
    rw [List.filter_cons, if_neg (by simp), hrest]

/-- The order of a weighted route in one form, with a key or without. -/
theorem orderedTargets_weighted {fraction : String → ℚ} (hfraction : fraction = Node.deterministicFraction) {route : Route}
    (hvalid : route.Valid) (hmode : route.selectionMode = .weighted) (key : Option String) :
    orderedTargets fraction route key = weightedTargets (startFraction route key) route.targets := by
  subst hfraction
  cases key with
  | none =>
    simp only [orderedTargets, hmode, startFraction]
    exact (weightedTargets_zero hvalid.distinct fun target hmem => (hvalid.weighted target hmem).1).symm
  | some key => simp only [orderedTargets, hmode, startFraction]

theorem python_fraction : Python.deterministicFraction = Node.deterministicFraction :=
  funext fun value => (fraction_eq value).symm

theorem startFraction_bounds (route : Route) (key : Option String) :
    0 ≤ startFraction route key ∧ startFraction route key < 1 := by
  cases key with
  | none => exact ⟨le_rfl, zero_lt_one⟩
  | some key =>
    obtain ⟨h, hlt, hfraction⟩ := fraction_scaled (route.routeTag ++ ":" ++ key)
    have hcast : (h : ℚ) < 4294967296 := by exact_mod_cast hlt
    rw [startFraction, hfraction]
    exact ⟨by positivity, by rwa [div_lt_one (by norm_num)]⟩

/-- The runtimes order a route alike, by models, exactly when it is alike. -/
theorem routeAlike_iff {route : Route} {context : RouteContext} (hvalid : route.Valid) :
    RouteAlike route context ↔
      (orderedTargets Python.deterministicFraction route (Python.selectionKey context)).map (·.modelId) =
        (orderedTargets Node.deterministicFraction route (Node.selectionKey context)).map (·.modelId) := by
  cases hmode : route.selectionMode with
  | ordered => simp [RouteAlike, orderedTargets, hmode]
  | weighted =>
    rw [orderedTargets_weighted python_fraction hvalid hmode, orderedTargets_weighted rfl hvalid hmode]
    have hpositive : ∀ target ∈ route.targets, 0 < target.weight.toRat := fun target hmem => (hvalid.weighted target hmem).1
    cases htargets : route.targets with
    | nil => exact absurd htargets hvalid.filled
    | cons first rest =>
      rw [htargets] at hpositive
      have hweight : 0 < totalWeight (first :: rest) := by
        have hrest := totalWeight_nonneg fun other (hmem : other ∈ rest) => hpositive other (by simp [hmem])
        rw [totalWeight_cons]
        linarith [hpositive first (by simp)]
      have hbelow (key : Option String) :
          0 ≤ startFraction route key * totalWeight (first :: rest) ∧
            startFraction route key * totalWeight (first :: rest) < 0 + totalWeight (first :: rest) := by
        obtain ⟨hlow, hhigh⟩ := startFraction_bounds route key
        refine ⟨mul_nonneg hlow hweight.le, ?_⟩
        rw [zero_add]
        exact mul_lt_of_lt_one_left hweight hhigh
      have hhead : RouteAlike route context ↔
          Unseparated (first :: rest) (startFraction route (Python.selectionKey context))
            (startFraction route (Node.selectionKey context)) := by
        unfold RouteAlike Unseparated
        rw [htargets]
        simp only [hmode, true_imp_iff, iff_comm]
      rw [hhead]
      constructor
      · intro hunseparated
        have hsums : ∀ n ≤ (first :: rest).length,
            startFraction route (Python.selectionKey context) * totalWeight (first :: rest) <
                0 + totalWeight ((first :: rest).take n) ↔
              startFraction route (Node.selectionKey context) * totalWeight (first :: rest) <
                0 + totalWeight ((first :: rest).take n) := by
          intro n hn
          rw [zero_add]
          exact hunseparated n hn
        have hpick : pick _ first 0 (first :: rest) = pick _ first 0 (first :: rest) := pick_eq_of hsums
        simp only [weightedTargets, hpick]
      · intro horder n hn
        unfold weightedTargets at horder
        have hpick := List.head_eq_of_cons_eq horder
        have hsame := unseparated_of_pick hpositive (htargets ▸ hvalid.distinct) (hbelow (Python.selectionKey context)).1
          (hbelow (Node.selectionKey context)).1 (hbelow (Python.selectionKey context)).2
          (hbelow (Node.selectionKey context)).2 hpick n hn
        rwa [zero_add] at hsame

end TokenPilot.Runtime
