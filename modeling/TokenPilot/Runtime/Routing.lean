/-
  TokenPilot.Runtime.Routing — the three route evaluators.

  - `Node`: `sdks/node/src/runtime/routing.ts`.
  - `Python`: `sdks/python/src/ai_control_sdk/runtime/routing.py`.
  - `Connector`: `connectors/litellm/src/ai_control_litellm/runtime_routing.py`.

  They share the arithmetic of schedules, the choice among the matched rules and the
  weighted order of targets, and differ in how they read a property, compare it, fall back
  from an absent selection key and when they look at the timezone. Weights are exact. A
  virtual model that is not published but names a member every JavaScript object inherits
  reads a value without rules in Node, and filtering those throws: it is `routeNotFound`
  here, an error either way.
-/

import Mathlib.Data.List.Infix
import TokenPilot.Runtime.Snapshot

namespace TokenPilot.Runtime

open Library

/-! ## Shared arithmetic -/

def clockMinute (clock : Clock) : Nat := clock.hour.val * 60 + clock.minute.val

def previousWeekday (weekday : Nat) : Nat := if weekday = 1 then 7 else weekday - 1

def scheduleMatches (schedule : Schedule) (time : LocalTime) : Bool :=
  let start := clockMinute schedule.start
  let stop := clockMinute schedule.stop
  if start < stop then schedule.days.contains time.weekday && start ≤ time.minute && time.minute < stop
  else if stop < start then
    (schedule.days.contains time.weekday && start ≤ time.minute) ||
      (schedule.days.contains (previousWeekday time.weekday) && time.minute < stop)
  else false

/-- The route of the only matched rule of the highest priority, the default when none matches. -/
def choose (virtualModel : String) (plan : RoutingPlan) :
    List RoutingRule → Except RouteError (Route × Option String)
  | [] => .ok (plan.default, none)
  | first :: rest =>
    let highest := rest.foldl (fun top rule => max top rule.priority) first.priority
    match (first :: rest).filter (·.priority = highest) with
    | [winner] => .ok (winner.route, some winner.id)
    | _ => .error (.routeConflict virtualModel)

/-- The first target whose cumulative weight passes `point`. -/
def pick (point : ℚ) (selected : RouteTarget) : ℚ → List RouteTarget → RouteTarget
  | _, [] => selected
  | cumulative, target :: rest =>
    if point < cumulative + target.weight.toRat then target
    else pick point selected (cumulative + target.weight.toRat) rest

def totalWeight (targets : List RouteTarget) : ℚ := (targets.map (·.weight.toRat)).sum

def weightedTargets (fraction : ℚ) : List RouteTarget → List RouteTarget
  | [] => []
  | first :: rest =>
    let selected := pick (fraction * totalWeight (first :: rest)) first 0 (first :: rest)
    selected :: (first :: rest).filter (·.modelId ≠ selected.modelId)

def orderedTargets (fraction : String → ℚ) (route : Route) (selectionKey : Option String) : List RouteTarget :=
  match route.selectionMode, selectionKey with
  | .weighted, some key => weightedTargets (fraction (route.routeTag ++ ":" ++ key)) route.targets
  | _, _ => route.targets

def selection (virtualModel : String) (virtualModelId : Option String) (plan : RoutingPlan) (route : Route)
    (ruleId : Option String) : List RouteTarget → Except RouteError RouteSelection
  | [] => .error .routeEmpty
  | primary :: fallbacks =>
    .ok
      { virtualModel
        virtualModelId
        configurationVersion := plan.configurationVersion
        configurationEtag := plan.configurationEtag
        routeTag := route.routeTag
        ruleId
        primary
        fallbacks }

/-- The rules that `applies` accepts, in order; the first error ends the evaluation. -/
def matchedRules (applies : RoutingRule → Except RouteError Bool) :
    List RoutingRule → Except RouteError (List RoutingRule)
  | [] => .ok []
  | rule :: rest => do
    let applied ← applies rule
    let others ← matchedRules applies rest
    return if applied then rule :: others else others

/-- `String(value)` of a condition's value. -/
def javascriptString : Option PropertyValue → String
  | some (.text s) => s
  | some (.number n) => toString n
  | some (.flag b) => if b then "true" else "false"
  | none => "undefined"

/-- `str(value)` of a condition's value. -/
def pythonString : Option PropertyValue → String
  | some (.text s) => s
  | some (.number n) => toString n
  | some (.flag b) => if b then "True" else "False"
  | none => "None"

def startsWith (s start : String) : Bool := start.toList.isPrefixOf s.toList

def includesText (s part : String) : Bool := decide (part.toList <:+: s.toList)

/-- Equality of a JSON value with a condition's value, with no conversion between types. -/
def strictEqual : Json String Decimal → PropertyValue → Bool
  | .str s, .text t => s = t
  | .num n, .number m => n.toRat = m
  | .bool b, .flag c => b = c
  | _, _ => false

/-! ## Node -/

namespace Node

/-- What `context.userProperties?.[key]` reads: keys are lower case, and `constructor` is
    the only lower-case member that every object inherits. -/
inductive Read where
  | undefined
  | value (v : Json String Decimal)
  | inherited

def readProperty (context : RouteContext) (key : String) : Read :=
  match context.userProperties with
  | none => .undefined
  | some fields =>
    match fields.lookup key with
    | some v => .value v
    | none => if key = "constructor" then .inherited else .undefined

def Read.isSet : Read → Bool
  | .undefined => false
  | .value .null => false
  | _ => true

def Read.equals : Read → Option PropertyValue → Bool
  | .value v, some expected => strictEqual v expected
  | .undefined, none => true
  | _, _ => false

def propertyMatches (condition : UserPropertyMatch) (value : Read) : Bool :=
  match condition.operator with
  | .isSet => value.isSet
  | .isNotSet => !value.isSet
  | .equals => value.equals condition.value
  | .notEquals => !value.equals condition.value
  | .startsWith =>
    match value with
    | .value (.str s) => startsWith s (javascriptString condition.value)
    | _ => false
  | .contains =>
    match value with
    | .value (.str s) => includesText s (javascriptString condition.value)
    | .value (.arr items) => items.any fun item => (Read.value item).equals condition.value
    | _ => false

def ruleMatches (rule : RoutingRule) (time : LocalTime) (now : Int) (context : RouteContext) : Bool :=
  match rule.match with
  | .overrideActive =>
    match rule.expiresAt with
    | some expiry => expiry.milliseconds > now
    | none => false
  | .user ids => ids.contains (context.userId.getD "")
  | .userProperty condition => propertyMatches condition (readProperty context condition.key)
  | .callSource value => context.callSource = some value
  | .schedule schedule => scheduleMatches schedule time

/-- 32-bit FNV-1a over the UTF-8 bytes, as a fraction of `2 ^ 32`. -/
def deterministicFraction (value : String) : ℚ :=
  let hash : UInt32 := value.toUTF8.data.toList.foldl (fun hash byte => (hash ^^^ byte.toUInt32) * 16777619) 2166136261
  (hash.toNat : ℚ) / 4294967296

/-- `context.selectionKey ?? context.userId`. -/
def selectionKey (context : RouteContext) : Option String := context.selectionKey.or context.userId

def resolveRuntimeRoute (zones : Zones) (snapshot : Snapshot) (virtualModel : String) (now : Int)
    (context : RouteContext) : Except RouteError RouteSelection :=
  match snapshot.routing.lookup virtualModel with
  | none => .error (.routeNotFound virtualModel)
  | some plan =>
    match zones plan.timezone with
    | none => .error .timezoneInvalid
    | some localized => do
      let matched := plan.rules.filter (ruleMatches · (localized now) now context)
      let (route, ruleId) ← choose virtualModel plan matched
      selection virtualModel (some plan.virtualModelId) plan route ruleId
        (orderedTargets deterministicFraction route (selectionKey context))

end Node

/-! ## Python -/

namespace Python

/-- `context.user_properties.get(key)`, with `None` for an absent property. -/
def readProperty (context : RouteContext) (key : String) : Json String Decimal :=
  ((context.userProperties.getD []).lookup key).getD .null

/-- `==`, for which `True` is 1 and `False` is 0. -/
def equal : Json String Decimal → Option PropertyValue → Bool
  | .str s, some (.text t) => s = t
  | .num n, some (.number m) => n.toRat = m
  | .num n, some (.flag b) => n.toRat = if b then 1 else 0
  | .bool b, some (.number m) => m = if b then 1 else 0
  | .bool b, some (.flag c) => b = c
  | .null, none => true
  | _, _ => false

def isNone : Json String Decimal → Bool
  | .null => true
  | _ => false

def propertyMatches (condition : UserPropertyMatch) (current : Json String Decimal) : Bool :=
  match condition.operator with
  | .isSet => !isNone current
  | .isNotSet => isNone current
  | .equals => equal current condition.value
  | .notEquals => !equal current condition.value
  | .startsWith =>
    match current with
    | .str s => startsWith s (pythonString condition.value)
    | _ => false
  | .contains =>
    match current with
    | .str s => includesText s (pythonString condition.value)
    | .arr items => items.any (equal · condition.value)
    | _ => false

/-- The instant is whole in milliseconds, the expiry is read to the microsecond. -/
def expiresAfter (expiry : UtcTime) (now : Int) : Bool :=
  expiry.milliseconds * 1000 + expiry.microseconds > now * 1000

def matchesRule (zones : Zones) (timezone : String) (now : Int) (context : RouteContext) (rule : RoutingRule) :
    Except RouteError Bool :=
  match rule.match with
  | .overrideActive =>
    match rule.expiresAt with
    | some expiry => .ok (expiresAfter expiry now)
    | none => .ok false
  | .user ids =>
    match context.userId with
    | some userId => .ok (ids.contains userId)
    | none => .ok false
  | .userProperty condition => .ok (propertyMatches condition (readProperty context condition.key))
  | .callSource value => .ok (context.callSource = some value)
  | .schedule schedule =>
    match zones timezone with
    | none => .error .timezoneInvalid
    | some localized => .ok (scheduleMatches schedule (localized now))

/-- 32-bit FNV-1a with the hash masked to 32 bits after each byte. -/
def deterministicFraction (value : String) : ℚ :=
  let hash : Nat :=
    value.toUTF8.data.toList.foldl (fun hash byte => ((hash ^^^ byte.toNat) * 16777619) &&& 0xFFFFFFFF) 2166136261
  (hash : ℚ) / 4294967296

/-- `selection_key or user_id`: an empty key counts as absent. -/
def selectionKey (context : RouteContext) : Option String :=
  match context.selectionKey with
  | some key => if key = "" then context.userId else some key
  | none => context.userId

def resolveRuntimeRoute (zones : Zones) (snapshot : Snapshot) (virtualModel : String) (now : Int)
    (context : RouteContext) : Except RouteError RouteSelection :=
  match snapshot.routing.lookup virtualModel with
  | none => .error (.routeNotFound virtualModel)
  | some plan => do
    let matched ← matchedRules (matchesRule zones plan.timezone now context) plan.rules
    let (route, ruleId) ← choose virtualModel plan matched
    selection virtualModel (some plan.virtualModelId) plan route ruleId
      (orderedTargets deterministicFraction route (selectionKey context))

end Python

/-! ## Connector -/

namespace Connector

/-- `_json_scalar_equal`: booleans equal only booleans, numbers only numbers. -/
def jsonScalarEqual : Json String Decimal → Option PropertyValue → Bool
  | .bool b, some (.flag c) => b = c
  | .bool _, _ => false
  | _, some (.flag _) => false
  | .num n, some (.number m) => n.toRat = m
  | .str s, some (.text t) => s = t
  | .null, none => true
  | _, _ => false

def propertyMatches (condition : UserPropertyMatch) (current : Json String Decimal) : Bool :=
  match condition.operator with
  | .isSet => !Python.isNone current
  | .isNotSet => Python.isNone current
  | .equals => jsonScalarEqual current condition.value
  | .notEquals => !jsonScalarEqual current condition.value
  | .startsWith =>
    match current with
    | .str s => javascriptString condition.value ≠ "" && startsWith s (javascriptString condition.value)
    | _ => false
  | .contains =>
    match current with
    | .str s => includesText s (javascriptString condition.value)
    | .arr items => items.any (jsonScalarEqual · condition.value)
    | _ => false

def matchesRule (zones : Zones) (timezone : String) (now : Int) (context : RouteContext) (rule : RoutingRule) :
    Except RouteError Bool :=
  match rule.match with
  | .userProperty condition => .ok (propertyMatches condition (Python.readProperty context condition.key))
  | _ => Python.matchesRule zones timezone now context rule

def selectRuntimeRoute (zones : Zones) (snapshot : Snapshot) (virtualModel : String) (now : Int)
    (context : RouteContext) : Except RouteError RouteSelection :=
  match snapshot.routing.lookup virtualModel with
  | none => .error (.routeNotFound virtualModel)
  | some plan => do
    let matched ← matchedRules (matchesRule zones plan.timezone now context) plan.rules
    let (route, ruleId) ← choose virtualModel plan matched
    selection virtualModel none plan route ruleId
      (orderedTargets Python.deterministicFraction route (Python.selectionKey context))

end Connector

end TokenPilot.Runtime
