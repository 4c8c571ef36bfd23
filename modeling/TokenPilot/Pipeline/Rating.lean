/-
  TokenPilot.Pipeline.Rating — `rateApplicationCost` and `rateApplicationAiu`
  (apps/worker/src/application-usage/rating.ts), over the lines `normalizeUsageEvent` makes
  of an event (apps/worker/src/pipeline/normalization.ts).

  A decimal is the number it stands for; an operation of decimal.js rounds its exact result
  to 20 significant digits, and `floor`, `toDecimalPlaces` and `toFixed` round the number
  itself. What the schema of the database checks of a rate is a field of its type.

  The order of two strings in a cost condition is the host's collation, a parameter. Left
  out of a usage line: what the ratings do not read (unit, path, confidence).
-/

import TokenPilot.Pipeline.Writer
import TokenPilot.Runtime.UsageEvent

namespace TokenPilot.Pipeline

open TokenPilot.Library TokenPilot.Quota
open TokenPilot.Runtime (Value isText isOneOf isFlag isInteger isStrictObject bounded maxSafeInteger)
open TokenPilot.Runtime.Connector (get textOf)

/-! ## Normalized usage -/

def standardUsage : List (String × String) :=
  [("uncached_input_tokens", "uncached_input_token"), ("cache_read_input_tokens", "cache_read_input_token"),
    ("cache_write_input_tokens", "cache_write_input_token"), ("output_tokens", "output_token"),
    ("reasoning_output_tokens", "reasoning_output_token"), ("input_images", "input_image"),
    ("output_images", "output_image"), ("input_audio_seconds", "input_audio_second"),
    ("output_audio_seconds", "output_audio_second"), ("input_video_seconds", "input_video_second"),
    ("output_video_seconds", "output_video_second"), ("embedding_tokens", "embedding_token"),
    ("request_count", "request")]

def customUnits (usage : Value) : List Value :=
  match get usage "custom_units" with
  | .arr units => units
  | _ => []

def usageLines (event : Value) : List ApplicationUsageLine :=
  let usage := get event "usage"
  (standardUsage.filterMap fun (field, usageType) =>
    (textOf (get usage field)).map fun quantity => ⟨usageType, none, quantity⟩) ++
  (customUnits usage).map fun custom =>
    ⟨"custom_unit", textOf (get custom "unit_key"), (textOf (get custom "quantity")).getD ""⟩

/-- The event, whose parts the ratings read are copied as they are, with its lines. -/
structure NormalizedUsage where
  event : Value
  usageLines : List ApplicationUsageLine

def normalizeUsageEvent (event : Value) : NormalizedUsage := ⟨event, usageLines event⟩

/-! ## Rates -/

def usageTypeValues : List String :=
  ["uncached_input_token", "cache_read_input_token", "cache_write_input_token", "output_token",
    "reasoning_output_token", "input_image", "output_image", "input_audio_second", "output_audio_second",
    "input_video_second", "output_video_second", "embedding_token", "request", "custom_unit", "unknown"]

def rateKey (usageType unitKey : String) : String := usageType ++ "\x00" ++ unitKey

def relevant (line : ApplicationUsageLine) : Bool :=
  decide (decimal line.quantity ≠ 0) && usageTypeValues.contains line.usageType

structure CostRuleItem where
  id : Uuid
  usageType : String
  unitKey : String
  amountPerUnit : ℚ
  amountPerUnit_nonneg : 0 ≤ amountPerUnit

structure CostRule where
  id : Uuid
  name : String
  priority : Int
  matchMode : String
  conditionsJson : Value
  fixedAmount : Option ℚ
  items : List CostRuleItem
  fixedAmount_nonneg : ∀ amount, fixedAmount = some amount → 0 ≤ amount

/-- A rule without a fixed amount. -/
theorem CostRule.no_fixedAmount : ∀ amount : ℚ, none = some amount → 0 ≤ amount := nofun

structure ModelCostVersion where
  id : Uuid
  currency : String
  rules : List CostRule

structure AiuRateItem where
  id : Uuid
  usageType : String
  unitKey : String
  unitSize : ℚ
  aiuMicrosPerUnit : Nat
  unitSize_pos : 0 < unitSize

structure ModelAiuVersion where
  id : Uuid
  items : List AiuRateItem

/-- What a `Map` of the items by their keys has for a line: the last one of its key. -/
def rateOf {α : Type} (key : α → String) (items : List α) (line : ApplicationUsageLine) : Option α :=
  items.reverse.find? fun item => key item = rateKey line.usageType (line.unitKey.getD "")

/-! ## Cost conditions -/

inductive FilterOperator where
  | equals
  | notEquals
  | contains
  | startsWith
  | greaterThan
  | greaterOrEqual
  | lessThan
  | lessOrEqual
  | between
  | oneOf
  | containsAny
  | containsAll
  | isSet
  | isNotSet
  deriving DecidableEq, Repr

def FilterOperator.text : FilterOperator → String
  | .equals => "equals"
  | .notEquals => "not_equals"
  | .contains => "contains"
  | .startsWith => "starts_with"
  | .greaterThan => "greater_than"
  | .greaterOrEqual => "greater_or_equal"
  | .lessThan => "less_than"
  | .lessOrEqual => "less_or_equal"
  | .between => "between"
  | .oneOf => "one_of"
  | .containsAny => "contains_any"
  | .containsAll => "contains_all"
  | .isSet => "is_set"
  | .isNotSet => "is_not_set"

def filterOperators : List FilterOperator :=
  [.equals, .notEquals, .contains, .startsWith, .greaterThan, .greaterOrEqual, .lessThan, .lessOrEqual, .between,
    .oneOf, .containsAny, .containsAll, .isSet, .isNotSet]

inductive ConditionSubject where
  | builtin (field : String)
  | property (scope key : String)
  deriving DecidableEq, Repr

structure ModelCostCondition where
  subject : ConditionSubject
  operator : FilterOperator
  values : List Value

/-- Where the fields that a condition can name stand in an event. -/
def builtInFields : List (String × List String) :=
  [("event_id", ["event_id"]), ("request_id", ["request", "request_id"]), ("attempt_id", ["request", "attempt_id"]),
    ("operation_id", ["request", "operation_id"]), ("session_id", ["request", "session_id"]),
    ("conversation_id", ["request", "conversation_id"]), ("user_id", ["user", "user_id"]),
    ("display_user", ["user", "display_user"]), ("application_version", ["application_version"]),
    ("sdk_version", ["sdk_version"]), ("connector_version", ["connector_version"]),
    ("config_version", ["config_version"]), ("virtual_model", ["model", "virtual_model"]),
    ("model_id", ["model", "model_id"]), ("connection_id", ["model", "connection_id"]),
    ("connection_driver", ["model", "connection_driver"]), ("request_model", ["model", "request_model"]),
    ("provider", ["model", "provider"]), ("status", ["result", "status"]), ("schema_version", ["schema_version"]),
    ("route_reason", ["route", "reason"]), ("latency_ms", ["result", "latency_ms"])]

def exactIdentifierFields : List String :=
  ["event_id", "request_id", "attempt_id", "operation_id", "session_id", "conversation_id"]

def textConditionOperators : List FilterOperator :=
  [.equals, .notEquals, .contains, .startsWith, .oneOf, .isSet, .isNotSet]

def selectionConditionOperators : List FilterOperator := [.equals, .notEquals, .oneOf, .isSet, .isNotSet]

def numericConditionOperators : List FilterOperator :=
  [.equals, .notEquals, .greaterThan, .greaterOrEqual, .lessThan, .lessOrEqual, .between, .isSet, .isNotSet]

def isFilterValue (v : Value) : Bool :=
  isText (bounded 1 2048) v || isInteger (-maxSafeInteger) maxSafeInteger v || isFlag v

def isFilterValues : Value → Bool
  | .arr items => items.all isFilterValue && items.length ≤ 32
  | _ => false

def isOperator : Value → Bool := isOneOf (filterOperators.map (·.text))

/-- The fields a report can filter by and a cost rule can read. -/
def builtInConditionSchema : Value → Bool :=
  isStrictObject
    [("kind", isText (· = "builtin")), ("field", isOneOf (builtInFields.map (·.1))), ("operator", isOperator)]
    [("values", isFilterValues)]

def propertyConditionSchema : Value → Bool :=
  isStrictObject
    [("kind", isText (· = "property")), ("scope", isOneOf ["event", "user"]),
      ("key", isText Runtime.propertyKeyPattern), ("operator", isOperator)]
    [("values", isFilterValues)]

def isTextual : Value → Bool
  | .str _ => true
  | _ => false

def isNumber : Value → Bool
  | .num _ => true
  | _ => false

/-- `superRefine` of the filter conditions: how many values an operator takes. -/
def countFits (operator : FilterOperator) (count : Nat) : Bool :=
  match operator with
  | .isSet | .isNotSet => count = 0
  | .between => count = 2
  | _ => 1 ≤ count

def validateBuiltInCondition (field : String) (operator : FilterOperator) (values : List Value) : Bool :=
  let operators :=
    if field = "latency_ms" then numericConditionOperators
    else if exactIdentifierFields.contains field || field = "status" then selectionConditionOperators
    else textConditionOperators
  operators.contains operator && values.all (if field = "latency_ms" then isNumber else isTextual) &&
    match field = "latency_ms" && operator = .between, values with
    | true, .num a :: .num b :: _ => decide (a.toRat ≤ b.toRat)
    | _, _ => true

def conditionValues (v : Value) : List Value :=
  match get v "values" with
  | .arr items => items
  | _ => []

def conditionOperator (v : Value) : FilterOperator :=
  (filterOperators.find? fun operator => textOf (get v "operator") = some operator.text).getD .equals

def conditionText (v : Value) (key : String) : String := (textOf (get v key)).getD ""

/-- `modelCostConditionSchema` -/
def modelCostConditionSchema (v : Value) : Option ModelCostCondition :=
  let operator := conditionOperator v
  let values := conditionValues v
  if builtInConditionSchema v then
    let field := conditionText v "field"
    if countFits operator values.length && validateBuiltInCondition field operator values then
      some ⟨.builtin field, operator, values⟩
    else none
  else if propertyConditionSchema v && countFits operator values.length then
    some ⟨.property (conditionText v "scope") (conditionText v "key"), operator, values⟩
  else none

/-! ## Matching -/

def isSet : Value → Bool
  | .null => false
  | .str s => s ≠ ""
  | .arr items => !items.isEmpty
  | _ => true

/-- `===` on values of one type; two arrays are never the same. -/
def equals : Value → Value → Bool
  | .str a, .str b => a = b
  | .num a, .num b => a = b
  | .bool a, .bool b => a = b
  | _, _ => false

/-- `String(value)` -/
def textValue : Value → String
  | .str s => s
  | .num d => String.ofList (Numeral.jsNumber d)
  | .bool b => if b then "true" else "false"
  | _ => ""

section Comparison

variable (localeCompare : String → String → Ordering)

/-- Where a value stands to another of its type. -/
def orderOf : Value → Value → Option Ordering
  | .num a, .num b => some (compare a.toRat b.toRat)
  | .str a, .str b => some (localeCompare a b)
  | _, _ => none

def isBetween : Value → List Value → Bool
  | .num value, [.num first, .num last] => decide (first.toRat ≤ value.toRat ∧ value.toRat ≤ last.toRat)
  | .str value, [.str first, .str last] =>
    decide (Text.units first ≤ Text.units value ∧ Text.units value ≤ Text.units last)
  | _, _ => false

def textTest (test : List Char → List Char → Bool) (value : Value) (condition : ModelCostCondition) : Bool :=
  match value with
  | .str s => condition.values.head?.any fun expected => test (textValue expected).toList s.toList
  | _ => false

def orderTest (test : Ordering → Bool) (value : Value) (condition : ModelCostCondition) : Bool :=
  condition.values.head?.any fun expected => (orderOf localeCompare value expected).any test

def itemsTest (test : (Value → Bool) → List Value → Bool) (value : Value) (condition : ModelCostCondition) : Bool :=
  match value with
  | .arr items => test (fun item => items.any (equals item)) condition.values
  | _ => false

def comparison (value : Value) (condition : ModelCostCondition) : Bool :=
  match condition.operator with
  | .isSet => isSet value
  | .isNotSet => !isSet value
  | .equals => isSet value && condition.values.head?.any (equals value)
  | .notEquals => isSet value && !condition.values.any (equals value)
  | .oneOf => isSet value && condition.values.any (equals value)
  | .contains => isSet value && textTest (fun part s => decide (part <:+: s)) value condition
  | .startsWith => isSet value && textTest (fun part s => part.isPrefixOf s) value condition
  | .containsAny => isSet value && itemsTest (fun test values => values.any test) value condition
  | .containsAll => isSet value && itemsTest (fun test values => values.all test) value condition
  | .between => isSet value && isBetween value condition.values
  | .greaterThan => isSet value && orderTest localeCompare (·.isGT) value condition
  | .greaterOrEqual => isSet value && orderTest localeCompare (·.isGE) value condition
  | .lessThan => isSet value && orderTest localeCompare (·.isLT) value condition
  | .lessOrEqual => isSet value && orderTest localeCompare (·.isLE) value condition

def builtInValue (event : Value) (field : String) : Value := ((builtInFields.lookup field).getD []).foldl get event

/-- `properties?.[key]`: every object has a `constructor`, which compares like an object. -/
def propertyValue (properties : Value) (key : String) : Value :=
  match properties with
  | .obj fields => (fields.lookup key).getD (if key = "constructor" then .obj [] else .null)
  | _ => .null

def matchesCostCondition (event : Value) (condition : ModelCostCondition) : Bool :=
  match condition.subject with
  | .builtin field => comparison localeCompare (builtInValue event field) condition
  | .property scope key =>
    comparison localeCompare
      (propertyValue (get event (if scope = "event" then "event_properties" else "user_properties")) key) condition

/-- `modelCostConditionSchema.array().safeParse(conditionsJson)` -/
def ruleConditions (rule : CostRule) : Except Failure (List ModelCostCondition) :=
  let parsed := match rule.conditionsJson with
    | .arr items => items.mapM modelCostConditionSchema
    | _ => none
  match parsed with
  | some conditions => .ok conditions
  | none => .error (.typeError s!"Cost rule {rule.id} has invalid conditions")

def ruleMatches (rule : CostRule) (hits : List Bool) : Bool :=
  hits.isEmpty || (if rule.matchMode = "any" then hits.any id else hits.all id)

/-- The first of the rules that matches. -/
def firstMatching (event : Value) : List CostRule → Except Failure (Option CostRule)
  | [] => .ok none
  | rule :: rest => do
    let conditions ← ruleConditions rule
    if ruleMatches rule (conditions.map (matchesCostCondition localeCompare event)) then return some rule
    else firstMatching event rest

def matchingRule (rules : List CostRule) (event : Value) : Except Failure (Option CostRule) :=
  firstMatching localeCompare event (rules.insertionSort fun a b => a.priority ≤ b.priority)

end Comparison

/-! ## Provider cost -/

/-- `toDecimalPlaces(18, ROUND_HALF_UP).toFixed(18)` -/
def amountText (amount : ℚ) : String := toFixed 18 (PrismaDecimal.toDecimalPlaces 18 amount)

/-- The lines of a rule that have an amount, with the amounts. -/
def ratedLines (rule : CostRule) (usage : List ApplicationUsageLine) : List (ApplicationUsageLine × CostRuleItem × ℚ) :=
  (usage.filter relevant).filterMap fun line =>
    (rateOf (fun item => rateKey item.usageType item.unitKey) rule.items line).map fun rate =>
      (line, rate, PrismaDecimal.mul (decimal line.quantity) rate.amountPerUnit)

def ratedCostLine (entry : ApplicationUsageLine × CostRuleItem × ℚ) : CostLine where
  usageType := some entry.1.usageType
  unitKey := entry.1.unitKey.getD ""
  quantity := entry.1.quantity
  rateItemId := some entry.2.1.id
  amountPerUnit := some (toFixed 18 entry.2.1.amountPerUnit)
  amount := some (amountText entry.2.2)

def fixedCostLine (amount : ℚ) : CostLine := ⟨none, "", "1", none, some (toFixed 18 amount), some (toFixed 18 amount)⟩

def ruleTotal (rule : CostRule) (usage : List ApplicationUsageLine) : ℚ :=
  (ratedLines rule usage).foldl (fun total entry => PrismaDecimal.add total entry.2.2) (rule.fixedAmount.getD 0)

def ruleCost (version : ModelCostVersion) (rule : CostRule) (usage : List ApplicationUsageLine) : CostRatingArtifact where
  status := .official
  source := some .rule
  versionId := some version.id
  ruleId := some rule.id
  ruleName := some rule.name
  currency := some version.currency
  total := some (amountText (ruleTotal rule usage))
  lines := (rule.fixedAmount.map fixedCostLine).toList ++ (ratedLines rule usage).map ratedCostLine

def unpricedCost (version : Option ModelCostVersion) : CostRatingArtifact where
  status := .unpriced
  source := none
  versionId := version.map (·.id)
  ruleId := none
  ruleName := none
  currency := none
  total := none
  lines := []

def reportedCost (sourceCost : Value) : CostRatingArtifact where
  status := .official
  source := some (if Runtime.isLiteral true (get sourceCost "is_estimated") then .reportedEstimate else .reported)
  versionId := none
  ruleId := none
  ruleName := none
  currency := textOf (get sourceCost "currency")
  total := some (amountText (decimal ((textOf (get sourceCost "amount")).getD "")))
  lines := []

def rateApplicationCost (localeCompare : String → String → Ordering) (version : Option ModelCostVersion)
    (usage : NormalizedUsage) : Except Failure CostRatingArtifact :=
  match get usage.event "source_cost", version with
  | .null, none => .ok (unpricedCost none)
  | .null, some version => do
    let rule ← matchingRule localeCompare version.rules usage.event
    match rule with
    | none => return unpricedCost (some version)
    | some rule => return ruleCost version rule usage.usageLines
  | sourceCost, _ => .ok (reportedCost sourceCost)

/-! ## AIU -/

structure AiuDraft where
  index : Nat
  line : ApplicationUsageLine
  rate : Option AiuRateItem
  raw : Option ℚ
  floor : Nat
  fraction : ℚ

/-- `quantity / unitSize * aiuMicrosPerUnit` -/
def rawAiuMicros (line : ApplicationUsageLine) (rate : AiuRateItem) : ℚ :=
  PrismaDecimal.mul (PrismaDecimal.div (decimal line.quantity) rate.unitSize) rate.aiuMicrosPerUnit

def aiuDraft (items : List AiuRateItem) (line : ApplicationUsageLine) (index : Nat) : AiuDraft :=
  match rateOf (fun item => rateKey item.usageType item.unitKey) items line with
  | none => ⟨index, line, none, none, 0, 0⟩
  | some rate =>
    let raw := rawAiuMicros line rate
    ⟨index, line, some rate, some raw, ⌊raw⌋.toNat, PrismaDecimal.minus raw ⌊raw⌋⟩

def aiuDrafts (items : List AiuRateItem) (usage : List ApplicationUsageLine) : List AiuDraft :=
  (usage.zipIdx.filter fun (line, _) => relevant line && line.usageType ≠ "request").map fun (line, index) =>
    aiuDraft items line index

/-- The line of a draft, which gets the micros. -/
def AiuDraft.toLine (draft : AiuDraft) (charged : Option Nat) : AiuLine where
  usageType := draft.line.usageType
  unitKey := draft.line.unitKey.getD ""
  quantity := draft.line.quantity
  rateItemId := draft.rate.map (·.id)
  rawAiuMicros := draft.raw.map (toFixed 18)
  chargedAiuMicros := charged.map toString

def aiuTarget (drafts : List AiuDraft) : Nat :=
  (halfUp (drafts.foldl (fun sum draft => PrismaDecimal.add sum (draft.raw.getD 0)) 0)).toNat

/-- The drafts that get one more: those with the greatest fractions, as long as there are any left to give. -/
def selectedDrafts (drafts : List AiuDraft) : List Nat :=
  let additions : Int := aiuTarget drafts - (drafts.map (·.floor)).sum
  ((drafts.insertionSort fun left right =>
    right.fraction < left.fraction ∨ left.fraction = right.fraction ∧ left.index ≤ right.index).take additions.toNat).map
    (·.index)

def chargedMicros (selected : List Nat) (draft : AiuDraft) : Nat :=
  draft.floor + if selected.contains draft.index then 1 else 0

def rateApplicationAiu (version : Option ModelAiuVersion) (usage : List ApplicationUsageLine) : AiuRatingArtifact :=
  let drafts := aiuDrafts ((version.map (·.items)).getD []) usage
  if version.isNone || drafts.any (·.rate.isNone) then
    ⟨.unrated, version.map (·.id), none, drafts.map (·.toLine none)⟩
  else
    let selected := selectedDrafts drafts
    ⟨.official, version.map (·.id), some (aiuTarget drafts),
      drafts.map fun draft => draft.toLine (some (chargedMicros selected draft))⟩

end TokenPilot.Pipeline
