/-
  TokenPilot.Management.Conditions — the conditions of a user group
  (`user-segmentation/src/evaluator.ts`, `schema.ts`).

  One comparison serves every field: two values that both read as decimals are compared as
  numbers, and only the others as what they are. So identifiers are told apart by their texts
  except where a stored text and an operand are two spellings of one number, and except for
  texts that read as not a number, which equal nothing: `conditionMatches_exact_iff` says of
  every condition on an identifier exactly when it holds for the right candidates. On numbers
  the comparisons are those of the numbers themselves (`numeric_conditions`).

  Strings are sequences of UTF-16 units. How a text reads as a decimal (`Prisma.Decimal`) is a
  parameter; numbers and bigints are their exact values.
-/

import Mathlib.Data.List.Infix
import Mathlib.Data.Rat.Defs
import Mathlib.Algebra.Order.Ring.Unbundled.Rat
import TokenPilot.Library.Calendar
import TokenPilot.Library.Json
import TokenPilot.Management.UserGroups
import TokenPilot.Runtime.Texts

namespace TokenPilot.Management.Conditions

open Library Quota

/-! ## Values -/

/-- `Prisma.Decimal` -/
inductive PrismaDecimal where
  | finite (value : ℚ)
  | infinite (negative : Bool)
  | notANumber
  deriving DecidableEq, Repr

namespace PrismaDecimal

/-- `cmp`; `none` when one of the two is not a number. -/
def cmp : PrismaDecimal → PrismaDecimal → Option Ordering
  | .notANumber, _ => none
  | _, .notANumber => none
  | .finite a, .finite b => some (if a < b then .lt else if a = b then .eq else .gt)
  | .finite _, .infinite negative => some (if negative then .gt else .lt)
  | .infinite negative, .finite _ => some (if negative then .lt else .gt)
  | .infinite a, .infinite b => some (if a = b then .eq else if a then .lt else .gt)

def equals (a b : PrismaDecimal) : Bool := cmp a b = some .eq

def greaterThan (a b : PrismaDecimal) : Bool := cmp a b = some .gt

def greaterThanOrEqualTo (a b : PrismaDecimal) : Bool := cmp a b = some .gt || cmp a b = some .eq

def lessThan (a b : PrismaDecimal) : Bool := cmp a b = some .lt

def lessThanOrEqualTo (a b : PrismaDecimal) : Bool := cmp a b = some .lt || cmp a b = some .eq

end PrismaDecimal

/-- A value that is not an array. A `number`, a `bigint` and a `Decimal` are their values; a
    `reference` is an object, or an array where none is looked into, and identical to no other. -/
inductive JsValue where
  | undefined
  | null
  | bool (b : Bool)
  | str (text : Units)
  | num (value : PrismaDecimal)
  | reference
  deriving DecidableEq, Repr

inductive FieldValue where
  | one (value : JsValue)
  | array (values : List JsValue)
  deriving DecidableEq, Repr

namespace JsValue

/-- `===` of two values that are not both numbers. -/
def identical : JsValue → JsValue → Bool
  | .undefined, .undefined => true
  | .null, .null => true
  | .bool a, .bool b => a = b
  | .str a, .str b => a = b
  | _, _ => false

def ofJson : Json Units PrismaDecimal → JsValue
  | .null => .null
  | .bool b => .bool b
  | .num n => .num n
  | .str s => .str s
  | .arr _ => .reference
  | .obj _ => .reference

end JsValue

def FieldValue.ofJson : Json Units PrismaDecimal → FieldValue
  | .arr items => .array (items.map JsValue.ofJson)
  | value => .one (JsValue.ofJson value)

/-! ## Definitions of groups -/

inductive UserGroupField where
  | userId
  | displayUser
  | tag
  | status
  | property
  | lastSeenAt
  | calls
  | tokens
  | aiu
  | cost
  | remainingAiu
  deriving DecidableEq, Repr

inductive UserGroupOperator where
  | equals
  | notEquals
  | contains
  | startsWith
  | isSet
  | isNotSet
  | oneOf
  | greaterThan
  | atLeast
  | lessThan
  | atMost
  | between
  deriving DecidableEq, Repr

/-- `z.number().finite().safe()` admits integers only. -/
inductive Scalar where
  | str (text : Units)
  | num (value : Int)
  | bool (b : Bool)
  deriving DecidableEq, Repr

inductive ConditionValue where
  | scalar (value : Scalar)
  | list (values : List Scalar)
  | range (min max : Option Scalar)
  deriving DecidableEq, Repr

structure UserGroupCondition where
  field : UserGroupField
  operator : UserGroupOperator
  property : Option Units := none
  value : Option ConditionValue := none
  deriving DecidableEq, Repr

def Scalar.accepted : Scalar → Bool
  | .str text => text.length ≤ 2048
  | .num value => value.natAbs ≤ 9007199254740991
  | .bool _ => true

def ConditionValue.accepted : ConditionValue → Bool
  | .scalar value => value.accepted
  | .list values => 1 ≤ values.length && values.length ≤ 100 && values.all Scalar.accepted
  | .range min max => min.all Scalar.accepted && max.all Scalar.accepted

/-- `/^[a-z][a-z0-9._-]{0,127}$/u` -/
def propertyKey : Units → Bool
  | [] => false
  | first :: rest =>
    97 ≤ first && first ≤ 122 && rest.length ≤ 127 && rest.all fun u =>
      97 ≤ u && u ≤ 122 || 48 ≤ u && u ≤ 57 || u = 46 || u = 95 || u = 45

/-- `conditionSchema` -/
def UserGroupCondition.accepted (condition : UserGroupCondition) : Bool :=
  condition.property.all propertyKey && condition.value.all ConditionValue.accepted &&
    (condition.field ≠ .property || condition.property.isSome) &&
    (condition.operator = .isSet || condition.operator = .isNotSet || condition.value.isSome)

/-- `userGroupDefinitionSchema` -/
def definitionAccepted (definition : UserGroupDefinition UserGroupCondition) : Bool :=
  1 ≤ definition.conditions.length && definition.conditions.length ≤ 20 &&
    definition.conditions.all UserGroupCondition.accepted

/-! ## Candidates -/

structure CandidateQuota where
  limitAiuMicros : Int
  consumedAiuMicros : Int
  reservedAiuMicros : Int
  deriving DecidableEq, Repr

structure CandidateMetrics where
  calls : Nat
  tokens : ℚ
  aiuMicros : Int
  cost : ℚ
  deriving DecidableEq, Repr

structure UserGroupCandidate where
  id : Uuid
  externalId : Units
  name : Option Units
  tags : List Units
  propertiesJson : Json Units PrismaDecimal
  status : Units
  lastSeenAt : DateTime
  quota : Option CandidateQuota
  metrics : CandidateMetrics

def ascii (text : List Char) : Units := text.map fun c => UInt16.ofNat c.toNat

/-- `Date.toISOString` in the years to 9999. -/
def toISOString (t : DateTime) : Units :=
  ascii (Runtime.digitsOf 4 t.date.year ++ ['-'] ++ Runtime.digitsOf 2 t.date.month ++ ['-'] ++
    Runtime.digitsOf 2 t.date.day ++ ['T'] ++ Runtime.digitsOf 2 t.hour ++ [':'] ++ Runtime.digitsOf 2 t.minute ++ [':'] ++
    Runtime.digitsOf 2 t.second ++ ['.'] ++ Runtime.digitsOf 3 (t.nanosecond / 1000000) ++ ['Z'])

/-- Of the names of statuses, which are ASCII. -/
def toLowerCase (text : Units) : Units := text.map fun u => if 65 ≤ u && u ≤ 90 then u + 32 else u

/-- An object without the key still has its prototype's `constructor`. -/
def property (candidate : UserGroupCandidate) (key : Option Units) : FieldValue :=
  match key, candidate.propertiesJson with
  | some key, .obj fields =>
    match fields.find? fun field => field.1 = key with
    | some field => .ofJson field.2
    | none => .one (if key = ascii ['c', 'o', 'n', 's', 't', 'r', 'u', 'c', 't', 'o', 'r'] then .reference else .undefined)
  | _, _ => .one .undefined

def remainingAiu (quota : Option CandidateQuota) : Int :=
  match quota with
  | none => 0
  | some quota => quota.limitAiuMicros - quota.consumedAiuMicros - quota.reservedAiuMicros

def JsValue.ofRat (value : ℚ) : JsValue := .num (.finite value)

def fieldValue (candidate : UserGroupCandidate) (condition : UserGroupCondition) : FieldValue :=
  match condition.field with
  | .userId => .one (.str candidate.externalId)
  | .displayUser => .one (candidate.name.elim .undefined .str)
  | .tag => .array (candidate.tags.map .str)
  | .status => .one (.str (toLowerCase candidate.status))
  | .property => property candidate condition.property
  | .lastSeenAt => .one (.str (toISOString candidate.lastSeenAt))
  | .calls => .one (.ofRat candidate.metrics.calls)
  | .tokens => .one (.ofRat candidate.metrics.tokens)
  | .aiu => .one (.ofRat candidate.metrics.aiuMicros)
  | .cost => .one (.ofRat candidate.metrics.cost)
  | .remainingAiu => .one (.ofRat (remainingAiu candidate.quota))

def Scalar.value : Scalar → JsValue
  | .str text => .str text
  | .num value => .ofRat value
  | .bool b => .bool b

def ConditionValue.value : ConditionValue → FieldValue
  | .scalar value => .one value.value
  | .list values => .array (values.map Scalar.value)
  | .range _ _ => .one .reference

/-! ## The evaluator -/

section Evaluator

-- `new Prisma.Decimal(text)`; `none` when it throws.
variable (read : Units → Option PrismaDecimal)

def decimal : JsValue → Option PrismaDecimal
  | .num value => some value
  | .str text => read text
  | _ => none

def equal (actual expected : JsValue) : Bool :=
  match decimal read actual, decimal read expected with
  | some left, some right => left.equals right
  | _, _ => actual.identical expected

/-- The last branch takes every other operator for `at_most`. -/
def ordered (actual expected : JsValue) (operator : UserGroupOperator) : Bool :=
  match decimal read actual, decimal read expected with
  | some left, some right =>
    match operator with
    | .greaterThan => left.greaterThan right
    | .atLeast => left.greaterThanOrEqualTo right
    | .lessThan => left.lessThan right
    | _ => left.lessThanOrEqualTo right
  | _, _ =>
    match actual, expected with
    | .str actual, .str expected =>
      match operator with
      | .greaterThan => expected < actual
      | .atLeast => expected ≤ actual
      | .lessThan => actual < expected
      | _ => actual ≤ expected
    | _, _ => false

/-- An array as one value, where the code compares it with others. -/
def FieldValue.whole : FieldValue → JsValue
  | .one value => value
  | .array _ => .reference

/-- `matches` -/
def conditionMatches (candidate : UserGroupCandidate) (condition : UserGroupCondition) : Bool :=
  let actual := fieldValue candidate condition
  let expected := condition.value.elim (.one .undefined) ConditionValue.value
  match condition.operator with
  | .isSet => actual ≠ .one .undefined && actual ≠ .one .null
  | .isNotSet => actual = .one .undefined || actual = .one .null
  | .equals =>
    match actual with
    | .array values => values.any fun value => equal read value expected.whole
    | .one actual => equal read actual expected.whole
  | .notEquals =>
    match actual with
    | .array values => values.all fun value => !equal read value expected.whole
    | .one actual => !equal read actual expected.whole
  | .oneOf =>
    let values := match expected with
      | .array values => values
      | .one expected => [expected]
    match actual with
    | .array actual => actual.any fun value => values.any fun candidateValue => equal read value candidateValue
    | .one actual => values.any fun value => equal read actual value
  | .contains =>
    match actual, expected with
    | .array values, expected => values.any fun value => equal read value expected.whole
    | .one (.str actual), .one (.str expected) => decide (expected <:+: actual)
    | _, _ => false
  | .startsWith =>
    match actual, expected with
    | .one (.str actual), .one (.str expected) => expected.isPrefixOf actual
    | _, _ => false
  | .between =>
    match condition.value with
    | some (.range min max) =>
      (min.all fun min => ordered read actual.whole min.value .atLeast) &&
        max.all fun max => ordered read actual.whole max.value .atMost
    | _ => false
  | operator => ordered read actual.whole expected.whole operator

/-- `evaluateUserGroup` runs on these. -/
def segmentation : Segmentation UserGroupCandidate UserGroupCondition := ⟨(·.id), conditionMatches read⟩

end Evaluator

/-! ## What the comparisons mean -/

namespace PrismaDecimal

variable {a b : ℚ}

theorem cmp_finite : cmp (finite a) (finite b) = some (if a < b then .lt else if a = b then .eq else .gt) := rfl

theorem equals_finite : (finite a).equals (finite b) = true ↔ a = b := by
  rw [equals, cmp_finite]
  split_ifs with hlt heq
  · simp [hlt.ne]
  · simp [heq]
  · simp [heq]

theorem greaterThan_finite : (finite a).greaterThan (finite b) = true ↔ b < a := by
  rw [greaterThan, cmp_finite]
  split_ifs with hlt heq
  · simp [hlt.le]
  · simp [heq]
  · simpa using lt_of_le_of_ne (not_lt.mp hlt) (Ne.symm heq)

theorem lessThan_finite : (finite a).lessThan (finite b) = true ↔ a < b := by
  rw [lessThan, cmp_finite]
  split_ifs with hlt heq
  · simp [hlt]
  · simp [heq]
  · simpa using not_lt.mp hlt

theorem greaterThanOrEqualTo_finite : (finite a).greaterThanOrEqualTo (finite b) = true ↔ b ≤ a := by
  have hsplit : (finite a).greaterThanOrEqualTo (finite b) = ((finite a).greaterThan (finite b) || (finite a).equals (finite b)) :=
    rfl
  rw [hsplit, Bool.or_eq_true, greaterThan_finite, equals_finite, le_iff_lt_or_eq, eq_comm (a := a)]

theorem lessThanOrEqualTo_finite : (finite a).lessThanOrEqualTo (finite b) = true ↔ a ≤ b := by
  have hsplit : (finite a).lessThanOrEqualTo (finite b) = ((finite a).lessThan (finite b) || (finite a).equals (finite b)) := rfl
  rw [hsplit, Bool.or_eq_true, lessThan_finite, equals_finite, le_iff_lt_or_eq]

/-- Only what is not a number differs from itself. -/
theorem equals_self (a : PrismaDecimal) : a.equals a = true ↔ a ≠ .notANumber := by
  cases a with
  | finite a => simp [equals_finite]
  | infinite negative => simp [equals, cmp]
  | notANumber => simp [equals, cmp]

end PrismaDecimal

variable (read : Units → Option PrismaDecimal)

/-- Two texts read as equal numbers. -/
def SameNumber (s t : Units) : Prop := ∃ a b, read s = some a ∧ read t = some b ∧ a.equals b = true

theorem equal_texts_iff (s t : Units) :
    equal read (.str s) (.str t) = true ↔ (s = t ∧ read s ≠ some .notANumber) ∨ (s ≠ t ∧ SameNumber read s t) := by
  by_cases hst : s = t
  · subst hst
    cases hs : read s with
    | none => simp [equal, decimal, hs, JsValue.identical]
    | some a => simp [equal, decimal, hs, PrismaDecimal.equals_self]
  · cases hs : read s with
    | none => simp [equal, decimal, hs, JsValue.identical, SameNumber, hst]
    | some a =>
      cases ht : read t with
      | none => simp [equal, decimal, hs, ht, JsValue.identical, SameNumber, hst]
      | some b => simp [equal, decimal, hs, ht, SameNumber, hst]

/-! ## Conditions on identifiers -/

/-- The texts that a candidate has in a field of identifiers. -/
def identityTexts (candidate : UserGroupCandidate) : UserGroupField → Option (List Units)
  | .userId => some [candidate.externalId]
  | .displayUser => some candidate.name.toList
  | .tag => some candidate.tags
  | _ => none

def Scalar.text : Scalar → Option Units
  | .str text => some text
  | _ => none

/-- The texts a condition compares an identifier with. -/
def identityOperands (condition : UserGroupCondition) : Option (List Units) :=
  match condition.operator, condition.value with
  | .equals, some (.scalar value) => value.text.map ([·])
  | .notEquals, some (.scalar value) => value.text.map ([·])
  | .oneOf, some (.scalar value) => value.text.map ([·])
  | .oneOf, some (.list values) => values.mapM Scalar.text
  | .contains, some (.scalar value) => if condition.field = .tag then value.text.map ([·]) else none
  | _, _ => none

def SharedText (stored operands : List Units) : Prop := ∃ s ∈ stored, s ∈ operands

/-- What a condition on identifiers says: a stored text is one of the operands, or none is. -/
def IdentityMeans (operator : UserGroupOperator) (stored operands : List Units) : Prop :=
  if operator = .notEquals then ¬SharedText stored operands else SharedText stored operands

/-- A stored text and an operand are two spellings of one number. -/
def SpellingsClash (stored operands : List Units) : Prop :=
  ∃ s ∈ stored, ∃ t ∈ operands, s ≠ t ∧ SameNumber read s t

/-- Of the shared texts one is not spelled as no number, and texts that share none do not clash. -/
def TextsDecide (stored operands : List Units) : Prop :=
  (SharedText stored operands →
      (∃ s ∈ stored, s ∈ operands ∧ read s ≠ some .notANumber) ∨ SpellingsClash read stored operands) ∧
    (SpellingsClash read stored operands → SharedText stored operands)

/-- Some value of the field equals an operand, as the evaluator compares them. -/
def SomeEqual (stored operands : List Units) : Prop :=
  ∃ s ∈ stored, ∃ t ∈ operands, equal read (.str s) (.str t) = true

theorem someEqual_iff (stored operands : List Units) :
    SomeEqual read stored operands ↔
      (∃ s ∈ stored, s ∈ operands ∧ read s ≠ some .notANumber) ∨ SpellingsClash read stored operands := by
  unfold SomeEqual SpellingsClash
  constructor
  · rintro ⟨s, hs, t, ht, hequal⟩
    rcases (equal_texts_iff read s t).mp hequal with ⟨rfl, hnumber⟩ | ⟨hne, hsame⟩
    · exact .inl ⟨s, hs, ht, hnumber⟩
    · exact .inr ⟨s, hs, t, ht, hne, hsame⟩
  · rintro (⟨s, hs, ht, hnumber⟩ | ⟨s, hs, t, ht, hne, hsame⟩)
    · exact ⟨s, hs, s, ht, (equal_texts_iff read s s).mpr (.inl ⟨rfl, hnumber⟩)⟩
    · exact ⟨s, hs, t, ht, (equal_texts_iff read s t).mpr (.inr ⟨hne, hsame⟩)⟩

theorem textsDecide_iff (stored operands : List Units) :
    (SomeEqual read stored operands ↔ SharedText stored operands) ↔ TextsDecide read stored operands := by
  rw [someEqual_iff]
  unfold TextsDecide
  constructor
  · intro h
    exact ⟨h.mpr, fun hclash => h.mp (.inr hclash)⟩
  · rintro ⟨hshared, hclash⟩
    refine ⟨?_, hshared⟩
    rintro (⟨s, hs, ht, -⟩ | h)
    · exact ⟨s, hs, ht⟩
    · exact hclash h

/-- The value of a field of identifiers: its texts, or nothing. -/
theorem fieldValue_identity {candidate : UserGroupCandidate} {condition : UserGroupCondition} {stored : List Units}
    (h : identityTexts candidate condition.field = some stored) :
    fieldValue candidate condition = .array (stored.map .str) ∨
      (∃ s, fieldValue candidate condition = .one (.str s) ∧ stored = [s]) ∨
      (fieldValue candidate condition = .one .undefined ∧ stored = []) := by
  unfold identityTexts at h
  split at h
  · rename_i hfield
    cases h
    exact .inr (.inl ⟨candidate.externalId, by rw [fieldValue, hfield], rfl⟩)
  · rename_i hfield
    cases h
    cases hname : candidate.name with
    | none => exact .inr (.inr ⟨by rw [fieldValue, hfield, hname]; rfl, rfl⟩)
    | some name => exact .inr (.inl ⟨name, by rw [fieldValue, hfield, hname]; rfl, rfl⟩)
  · rename_i hfield
    cases h
    exact .inl (by rw [fieldValue, hfield])
  · cases h

/-- Some value of the field equals some of the values given. -/
def anyEqual (actual : FieldValue) (expected : List JsValue) : Bool :=
  match actual with
  | .array values => values.any fun value => expected.any fun candidateValue => equal read value candidateValue
  | .one value => expected.any fun candidateValue => equal read value candidateValue

theorem anyEqual_iff {candidate : UserGroupCandidate} {condition : UserGroupCondition} {stored : List Units}
    (h : identityTexts candidate condition.field = some stored) (operands : List Units) :
    anyEqual read (fieldValue candidate condition) (operands.map .str) = true ↔ SomeEqual read stored operands := by
  unfold SomeEqual
  rcases fieldValue_identity h with hvalue | ⟨s, hvalue, rfl⟩ | ⟨hvalue, rfl⟩
  · simp [hvalue, anyEqual]
  · simp [hvalue, anyEqual]
  · simp [hvalue, anyEqual, equal, decimal, JsValue.identical]

variable {candidate : UserGroupCandidate} {condition : UserGroupCondition}

theorem matches_equals {t : Units} (hoperator : condition.operator = .equals)
    (hvalue : condition.value = some (.scalar (.str t))) :
    conditionMatches read candidate condition = anyEqual read (fieldValue candidate condition) [.str t] := by
  simp only [conditionMatches, hoperator, hvalue, Option.elim_some, ConditionValue.value, Scalar.value, FieldValue.whole]
  cases fieldValue candidate condition <;> simp [anyEqual]

theorem matches_notEquals {t : Units} (hoperator : condition.operator = .notEquals)
    (hvalue : condition.value = some (.scalar (.str t))) :
    conditionMatches read candidate condition = !anyEqual read (fieldValue candidate condition) [.str t] := by
  simp only [conditionMatches, hoperator, hvalue, Option.elim_some, ConditionValue.value, Scalar.value, FieldValue.whole]
  cases fieldValue candidate condition <;> simp [anyEqual, List.not_any_eq_all_not]

theorem matches_oneOf {value : ConditionValue} {operands : List JsValue} (hoperator : condition.operator = .oneOf)
    (hvalue : condition.value = some value)
    (hoperands : value.value = .array operands ∨ ∃ operand, value.value = .one operand ∧ operands = [operand]) :
    conditionMatches read candidate condition = anyEqual read (fieldValue candidate condition) operands := by
  simp only [conditionMatches, hoperator, hvalue, Option.elim_some]
  rcases hoperands with hall | ⟨operand, hone, rfl⟩
  · simp only [hall]
    cases fieldValue candidate condition <;> rfl
  · simp only [hone]
    cases fieldValue candidate condition <;> rfl

theorem matches_contains {t : Units} (hfield : condition.field = .tag) (hoperator : condition.operator = .contains)
    (hvalue : condition.value = some (.scalar (.str t))) :
    conditionMatches read candidate condition = anyEqual read (fieldValue candidate condition) [.str t] := by
  simp only [conditionMatches, hoperator, hvalue, Option.elim_some, ConditionValue.value, Scalar.value, FieldValue.whole,
    fieldValue, hfield]
  simp [anyEqual]

theorem mapM_text {values : List Scalar} {operands : List Units} (h : values.mapM Scalar.text = some operands) :
    values.map Scalar.value = operands.map .str := by
  induction values generalizing operands with
  | nil =>
    cases h
    rfl
  | cons value values ih =>
    simp only [List.mapM_cons, Option.bind_eq_bind, Option.bind_eq_some_iff, Option.pure_def, Option.some.injEq] at h
    obtain ⟨text, htext, rest, hrest, rfl⟩ := h
    cases value with
    | str t =>
      cases htext
      rw [List.map_cons, List.map_cons, ih hrest]
      rfl
    | num n => cases htext
    | bool b => cases htext

theorem scalar_text {value : Scalar} {operands : List Units} (h : value.text.map ([·]) = some operands) :
    ∃ t, value = .str t ∧ operands = [t] := by
  cases value with
  | str t =>
    cases h
    exact ⟨t, rfl, rfl⟩
  | num n => cases h
  | bool b => cases h

/-- A condition on identifiers compares each stored text with each operand. -/
theorem matches_identity {stored operands : List Units} (hstored : identityTexts candidate condition.field = some stored)
    (hoperands : identityOperands condition = some operands) :
    conditionMatches read candidate condition = true ↔
      if condition.operator = .notEquals then ¬SomeEqual read stored operands else SomeEqual read stored operands := by
  have hany := anyEqual_iff read hstored operands
  unfold identityOperands at hoperands
  split at hoperands
  · rename_i hoperator hvalue
    obtain ⟨t, rfl, rfl⟩ := scalar_text hoperands
    rw [matches_equals read hoperator hvalue, hoperator, if_neg (by decide)]
    exact hany
  · rename_i hoperator hvalue
    obtain ⟨t, rfl, rfl⟩ := scalar_text hoperands
    rw [matches_notEquals read hoperator hvalue, hoperator, if_pos rfl, ← hany, Bool.not_eq_true', Bool.not_eq_true]
    rfl
  · rename_i value hoperator hvalue
    obtain ⟨t, rfl, rfl⟩ := scalar_text hoperands
    rw [matches_oneOf read hoperator hvalue (.inr ⟨.str t, rfl, rfl⟩), hoperator, if_neg (by decide)]
    exact hany
  · rename_i values hoperator hvalue
    have hall : (ConditionValue.list values).value = .array (operands.map .str) :=
      congrArg FieldValue.array (mapM_text hoperands)
    rw [matches_oneOf read hoperator hvalue (.inl hall), hoperator, if_neg (by decide)]
    exact hany
  · rename_i hoperator hvalue
    obtain ⟨hfield, htext⟩ := Option.ite_none_right_eq_some.mp hoperands
    obtain ⟨t, rfl, rfl⟩ := scalar_text htext
    rw [matches_contains read hfield hoperator hvalue, hoperator, if_neg (by decide)]
    exact hany
  · cases hoperands

/-- A condition on identifiers holds for the right candidates if and only if their texts decide. -/
theorem identity_exact_iff {stored operands : List Units}
    (hstored : identityTexts candidate condition.field = some stored)
    (hoperands : identityOperands condition = some operands) :
    (conditionMatches read candidate condition = true ↔ IdentityMeans condition.operator stored operands) ↔
      TextsDecide read stored operands := by
  rw [matches_identity read hstored hoperands, ← textsDecide_iff]
  unfold IdentityMeans
  by_cases hoperator : condition.operator = .notEquals
  · rw [if_pos hoperator, if_pos hoperator, not_iff_not]
  · rw [if_neg hoperator, if_neg hoperator]

/-! ## Conditions on numbers -/

def numericValue (candidate : UserGroupCandidate) : UserGroupField → Option ℚ
  | .calls => some candidate.metrics.calls
  | .tokens => some candidate.metrics.tokens
  | .aiu => some candidate.metrics.aiuMicros
  | .cost => some candidate.metrics.cost
  | .remainingAiu => some (remainingAiu candidate.quota)
  | _ => none

/-- A number, or a text that reads as one. -/
def Scalar.number : Scalar → Option ℚ
  | .num value => some value
  | .str text =>
    match read text with
    | some (.finite value) => some value
    | _ => none
  | .bool _ => none

/-- What a condition with numeric operands says of a number. -/
def numericMeaning (condition : UserGroupCondition) : Option (ℚ → Prop) :=
  match condition.operator, condition.value with
  | .equals, some (.scalar operand) => (operand.number read).map fun q v => v = q
  | .notEquals, some (.scalar operand) => (operand.number read).map fun q v => v ≠ q
  | .oneOf, some (.scalar operand) => (operand.number read).map fun q v => v = q
  | .oneOf, some (.list operands) => (operands.mapM (Scalar.number read)).map fun qs v => v ∈ qs
  | .greaterThan, some (.scalar operand) => (operand.number read).map fun q v => q < v
  | .atLeast, some (.scalar operand) => (operand.number read).map fun q v => q ≤ v
  | .lessThan, some (.scalar operand) => (operand.number read).map fun q v => v < q
  | .atMost, some (.scalar operand) => (operand.number read).map fun q v => v ≤ q
  | .between, some (.range (some min) (some max)) =>
    (min.number read).bind fun low => (max.number read).map fun high v => low ≤ v ∧ v ≤ high
  | .between, some (.range (some min) none) => (min.number read).map fun low v => low ≤ v
  | .between, some (.range none (some max)) => (max.number read).map fun high v => v ≤ high
  | .between, some (.range none none) => some fun _ => True
  | _, _ => none

theorem fieldValue_numeric {v : ℚ} (h : numericValue candidate condition.field = some v) :
    fieldValue candidate condition = .one (.ofRat v) := by
  unfold fieldValue
  cases hfield : condition.field <;> rw [hfield] at h <;> cases h <;> rfl

/-- An operand that is a number is compared as that number. -/
theorem decimal_number {operand : Scalar} {q : ℚ} (h : operand.number read = some q) :
    decimal read operand.value = some (.finite q) := by
  cases operand with
  | num n =>
    cases h
    rfl
  | str t =>
    unfold Scalar.number at h
    simp only at h
    split at h
    · rename_i value hread
      cases h
      exact hread
    · cases h
  | bool b => cases h

theorem equal_number {operand : Scalar} {v q : ℚ} (h : operand.number read = some q) :
    equal read (.ofRat v) operand.value = true ↔ v = q := by
  have hdecimal : equal read (.ofRat v) operand.value = (PrismaDecimal.finite v).equals (.finite q) := by
    rw [equal, decimal_number read h]
    rfl
  rw [hdecimal, PrismaDecimal.equals_finite]

theorem ordered_number {operand : Scalar} {v q : ℚ} (h : operand.number read = some q) :
    (ordered read (.ofRat v) operand.value .greaterThan = true ↔ q < v) ∧
      (ordered read (.ofRat v) operand.value .atLeast = true ↔ q ≤ v) ∧
      (ordered read (.ofRat v) operand.value .lessThan = true ↔ v < q) ∧
      (ordered read (.ofRat v) operand.value .atMost = true ↔ v ≤ q) := by
  have hv : decimal read (.ofRat v) = some (.finite v) := rfl
  simp only [ordered, hv, decimal_number read h]
  exact ⟨PrismaDecimal.greaterThan_finite, PrismaDecimal.greaterThanOrEqualTo_finite, PrismaDecimal.lessThan_finite,
    PrismaDecimal.lessThanOrEqualTo_finite⟩

theorem mapM_number {values : List Scalar} {qs : List ℚ} {v : ℚ} (h : values.mapM (Scalar.number read) = some qs) :
    (values.any fun value => equal read (.ofRat v) value.value) = true ↔ v ∈ qs := by
  induction values generalizing qs with
  | nil =>
    cases h
    simp
  | cons value values ih =>
    simp only [List.mapM_cons, Option.bind_eq_bind, Option.bind_eq_some_iff, Option.pure_def, Option.some.injEq] at h
    obtain ⟨q, hq, rest, hrest, rfl⟩ := h
    rw [List.any_cons, Bool.or_eq_true, equal_number read hq, ih hrest, List.mem_cons]

/-- On numbers the comparisons are those of the numbers. -/
theorem numeric_exact {v : ℚ} {meaning : ℚ → Prop} (hv : numericValue candidate condition.field = some v)
    (hmeaning : numericMeaning read condition = some meaning) :
    conditionMatches read candidate condition = true ↔ meaning v := by
  have hvalue := fieldValue_numeric hv
  unfold numericMeaning at hmeaning
  unfold conditionMatches
  split at hmeaning
  case h_2 operand hoperator hoperands =>
    obtain ⟨q, hq, rfl⟩ := Option.map_eq_some_iff.mp hmeaning
    have hequal := equal_number read (v := v) hq
    simp only [hoperator, hoperands, hvalue, Option.elim_some, ConditionValue.value, FieldValue.whole, Bool.not_eq_true']
    rw [← Bool.not_eq_true, hequal]
  case h_4 operands hoperator hoperands =>
    obtain ⟨qs, hqs, rfl⟩ := Option.map_eq_some_iff.mp hmeaning
    simp only [hoperator, hoperands, hvalue, Option.elim_some, ConditionValue.value, List.any_map]
    exact mapM_number read hqs
  case h_9 min max hoperator hoperands =>
    obtain ⟨low, hlow, hmeaning⟩ := Option.bind_eq_some_iff.mp hmeaning
    obtain ⟨high, hhigh, rfl⟩ := Option.map_eq_some_iff.mp hmeaning
    simp only [hoperator, hoperands, hvalue, FieldValue.whole, Option.all_some, Bool.and_eq_true,
      (ordered_number read hlow).2.1, (ordered_number read hhigh).2.2.2]
  case h_12 hoperator hoperands =>
    cases hmeaning
    simp [hoperator, hoperands]
  case h_13 => cases hmeaning
  all_goals
    rename_i operand hoperator hoperands
    obtain ⟨q, hq, rfl⟩ := Option.map_eq_some_iff.mp hmeaning
    simp [hoperator, hoperands, hvalue, FieldValue.whole, ConditionValue.value, equal_number read hq, ordered_number read hq]

/-! ## Groups -/

/-- What a condition says of a candidate, on identifiers with texts and on numbers with numbers. -/
inductive Means (candidate : UserGroupCandidate) (condition : UserGroupCondition) : Prop → Prop
  | identity {stored operands : List Units} (hstored : identityTexts candidate condition.field = some stored)
      (hoperands : identityOperands condition = some operands) :
      Means candidate condition (IdentityMeans condition.operator stored operands)
  | number {v : ℚ} {meaning : ℚ → Prop} (hv : numericValue candidate condition.field = some v)
      (hmeaning : numericMeaning read condition = some meaning) : Means candidate condition (meaning v)

/-- The texts that a condition on identifiers compares decide it; numbers always do. -/
def Decided (candidate : UserGroupCandidate) (condition : UserGroupCondition) : Prop :=
  ∀ stored operands, identityTexts candidate condition.field = some stored →
    identityOperands condition = some operands → TextsDecide read stored operands

theorem numericValue_identity {v : ℚ} (hv : numericValue candidate condition.field = some v) :
    identityTexts candidate condition.field = none := by
  cases hfield : condition.field <;> rw [hfield] at hv <;> first | rfl | cases hv

theorem matches_exact_iff {meaning : Prop} (h : Means read candidate condition meaning) :
    (conditionMatches read candidate condition = true ↔ meaning) ↔ Decided read candidate condition := by
  unfold Decided
  cases h with
  | identity hstored hoperands =>
    rw [identity_exact_iff read hstored hoperands]
    constructor
    · intro hdecide stored' operands' hstored' hoperands'
      cases hstored.symm.trans hstored'
      cases hoperands.symm.trans hoperands'
      exact hdecide
    · intro h
      exact h _ _ hstored hoperands
  | number hv hmeaning =>
    constructor
    · intro _ stored operands hstored
      cases (numericValue_identity hv).symm.trans hstored
    · intro _
      exact numeric_exact read hv hmeaning

/-- One operator and one operand. -/
def compared (field : UserGroupField) (operator : UserGroupOperator) (operand : Scalar) : UserGroupCondition :=
  { field := field, operator := operator, value := some (.scalar operand) }

/-- The comparisons of a candidate's numbers are those of an order. -/
structure NumbersOrdered (candidate : UserGroupCandidate) : Prop where
  trichotomy : ∀ field v operand q, numericValue candidate field = some v → operand.number read = some q →
    ([UserGroupOperator.lessThan, .equals, .greaterThan].countP fun operator =>
      conditionMatches read candidate (compared field operator operand)) = 1
  between : ∀ field low high, (numericValue candidate field).isSome →
    conditionMatches read candidate { field := field, operator := .between, value := some (.range (some low) (some high)) } =
      (conditionMatches read candidate (compared field .atLeast low) &&
        conditionMatches read candidate (compared field .atMost high))
  antitone : ∀ field v low high p q, numericValue candidate field = some v → low.number read = some p →
    high.number read = some q → p ≤ q → conditionMatches read candidate (compared field .atLeast high) = true →
    conditionMatches read candidate (compared field .atLeast low) = true

theorem numbers_ordered (candidate : UserGroupCandidate) : NumbersOrdered read candidate where
  trichotomy := by
    intro field v operand q hv hq
    have hmatches : ∀ operator meaning, numericMeaning read (compared field operator operand) = some meaning →
        (conditionMatches read candidate (compared field operator operand) = true ↔ meaning v) :=
      fun operator meaning h => @numeric_exact read candidate (compared field operator operand) v meaning hv h
    have hless := hmatches .lessThan (fun v => v < q) (by simp [numericMeaning, compared, hq])
    have hequals := hmatches .equals (fun v => v = q) (by simp [numericMeaning, compared, hq])
    have hgreater := hmatches .greaterThan (fun v => q < v) (by simp [numericMeaning, compared, hq])
    rcases lt_trichotomy v q with h | h | h
    · simp [hless, hequals, hgreater, h, h.ne, h.le]
    · simp [hless, hequals, hgreater, h]
    · simp [hless, hequals, hgreater, h, h.ne', h.le]
  between := by
    intro field low high hfield
    obtain ⟨v, hv⟩ := Option.isSome_iff_exists.mp hfield
    have hvalue : ∀ condition : UserGroupCondition, condition.field = field →
        fieldValue candidate condition = .one (.ofRat v) := by
      rintro condition rfl
      exact fieldValue_numeric hv
    simp [conditionMatches, compared, hvalue, FieldValue.whole, ConditionValue.value]
  antitone := by
    intro field v low high p q hv hp hq hle hmatches
    have hmeaning : ∀ (operand : Scalar) (r : ℚ), operand.number read = some r →
        (conditionMatches read candidate (compared field .atLeast operand) = true ↔ r ≤ v) :=
      fun operand r h => @numeric_exact read candidate (compared field .atLeast operand) v
        (fun v => r ≤ v) hv (by simp [numericMeaning, compared, h])
    exact (hmeaning low p hp).mpr (hle.trans ((hmeaning high q hq).mp hmatches))

/-- On every field and operand `not_equals` is the negation of `equals`. -/
theorem not_equals_negates (candidate : UserGroupCandidate) (condition : UserGroupCondition) :
    conditionMatches read candidate { condition with operator := .notEquals } =
      !conditionMatches read candidate { condition with operator := .equals } := by
  have hvalue : ∀ operator, fieldValue candidate { condition with operator := operator } = fieldValue candidate condition :=
    fun _ => rfl
  simp only [conditionMatches, hvalue]
  cases fieldValue candidate condition with
  | one value => rfl
  | array values => simp [List.not_any_eq_all_not]

/-- What a definition says of a candidate whose conditions mean `meaning`. -/
def GroupMeans (definition : UserGroupDefinition UserGroupCondition) (meaning : UserGroupCondition → Prop) : Prop :=
  match definition.match with
  | .all => ∀ condition ∈ definition.conditions, meaning condition
  | .any => ∃ condition ∈ definition.conditions, meaning condition

/-- A group whose texts decide holds exactly the candidates that its conditions mean. -/
theorem group_exact {definition : UserGroupDefinition UserGroupCondition} {candidates : List UserGroupCandidate}
    {meaning : UserGroupCandidate → UserGroupCondition → Prop}
    (hmeans : ∀ candidate ∈ candidates, ∀ condition ∈ definition.conditions,
      Means read candidate condition (meaning candidate condition) ∧ Decided read candidate condition)
    (candidate : UserGroupCandidate) :
    candidate ∈ evaluateUserGroup (segmentation read) definition candidates ↔
      candidate ∈ candidates ∧ GroupMeans definition (meaning candidate) := by
  rw [evaluateUserGroup, List.mem_filter]
  refine and_congr_right fun hcandidate => ?_
  have hcondition : ∀ condition ∈ definition.conditions,
      (conditionMatches read candidate condition = true ↔ meaning candidate condition) := by
    intro condition hmem
    obtain ⟨hmeans, hdecided⟩ := hmeans candidate hcandidate condition hmem
    exact (matches_exact_iff read hmeans).mpr hdecided
  unfold GroupMeans
  cases definition.match with
  | all =>
    simp only [List.all_map, List.all_eq_true, Function.comp]
    exact forall₂_congr hcondition
  | any =>
    simp only [List.any_map, List.any_eq_true, Function.comp]
    exact exists_congr fun condition => and_congr_right fun hmem => hcondition condition hmem

/-- Conditions on identifiers hold for the right candidates exactly as far as the texts decide;
    those on numbers always do, and so do groups made of conditions that are decided. -/
theorem conditions_exact_iff (candidate : UserGroupCandidate) :
    (∀ condition meaning, Means read candidate condition meaning →
        ((conditionMatches read candidate condition = true ↔ meaning) ↔ Decided read candidate condition)) ∧
      (∀ condition : UserGroupCondition, conditionMatches read candidate { condition with operator := .notEquals } =
        !conditionMatches read candidate { condition with operator := .equals }) ∧
      NumbersOrdered read candidate ∧
      ∀ (definition : UserGroupDefinition UserGroupCondition) (candidates : List UserGroupCandidate)
        (meaning : UserGroupCandidate → UserGroupCondition → Prop),
        (∀ candidate ∈ candidates, ∀ condition ∈ definition.conditions,
          Means read candidate condition (meaning candidate condition) ∧ Decided read candidate condition) →
        (candidate ∈ evaluateUserGroup (segmentation read) definition candidates ↔
          candidate ∈ candidates ∧ GroupMeans definition (meaning candidate)) :=
  ⟨fun _ _ => matches_exact_iff read, not_equals_negates read candidate, numbers_ordered read candidate,
    fun _ _ _ hmeans => group_exact read hmeans candidate⟩

/-! ## Identifiers spelled as numbers -/

/-- Digits with a fraction, and the text of what is not a number; other texts are not read. -/
def plainDecimal (text : Units) : Option PrismaDecimal :=
  let chars := text.map fun u => Char.ofNat u.toNat
  if chars = ['N', 'a', 'N'] then some .notANumber
  else
    let whole := chars.takeWhile Char.isDigit
    match chars.dropWhile Char.isDigit with
    | [] => if whole = [] then none else some (.finite (Nat.ofDigitChars 10 whole 0))
    | point :: fraction =>
      if point = '.' ∧ whole ≠ [] ∧ fraction.all Char.isDigit = true then
        some (.finite (Nat.ofDigitChars 10 (whole ++ fraction) 0 / 10 ^ fraction.length))
      else none

def namedUser (id : Uuid) (name : List Char) : UserGroupCandidate where
  id := id
  externalId := ascii name
  name := none
  tags := []
  propertiesJson := .obj []
  status := ascii ['A', 'C', 'T', 'I', 'V', 'E']
  lastSeenAt := ⟨⟨2026, 7, 18, by decide, by decide, by decide, by decide⟩, 8, 0, 0, 0, by decide, by decide, by decide, by decide⟩
  quota := none
  metrics := ⟨0, 0, 0, 0⟩

theorem letter_user_selected :
    conditionMatches plainDecimal (namedUser 3 ['a']) (compared .userId .equals (.str (ascii ['a']))) = true ∧
      IdentityMeans .equals [ascii ['a']] [ascii ['a']] := by
  have hshared : SharedText [ascii ['a']] [ascii ['a']] := ⟨ascii ['a'], by simp, by simp⟩
  have hmeaning : IdentityMeans .equals [ascii ['a']] [ascii ['a']] := hshared
  have hexact := (conditions_exact_iff plainDecimal (namedUser 3 ['a'])).1
    (compared .userId .equals (.str (ascii ['a']))) (IdentityMeans .equals [ascii ['a']] [ascii ['a']]) (.identity rfl rfl)
  have hdecided : Decided plainDecimal (namedUser 3 ['a']) (compared .userId .equals (.str (ascii ['a']))) := by
    intro stored operands hstored hoperands
    cases hstored
    cases hoperands
    exact ⟨fun _ => .inl ⟨ascii ['a'], by simp [namedUser], by simp, by decide +kernel⟩, fun _ => hshared⟩
  exact ⟨(hexact.mpr hdecided).mpr hmeaning, hmeaning⟩

def onlyUser (name : List Char) : UserGroupDefinition UserGroupCondition :=
  ⟨.all, [compared .userId .equals (.str (ascii name))]⟩

/-- The user `10.0` is taken for `10`, and the user `NaN` for nobody. -/
theorem spellings_confused :
    definitionAccepted (onlyUser ['1', '0']) = true ∧ definitionAccepted (onlyUser ['N', 'a', 'N']) = true ∧
      (evaluateUserGroup (segmentation plainDecimal) (onlyUser ['1', '0'])
        [namedUser 1 ['1', '0', '.', '0']]).map (·.id) = [1] ∧
      (namedUser 1 ['1', '0', '.', '0']).externalId ≠ ascii ['1', '0'] ∧
      evaluateUserGroup (segmentation plainDecimal) (onlyUser ['N', 'a', 'N']) [namedUser 2 ['N', 'a', 'N']] = [] := by
  decide +kernel

end TokenPilot.Management.Conditions
