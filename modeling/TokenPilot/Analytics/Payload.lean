/-
  TokenPilot.Analytics.Payload — reading the payload of an outbox record
  (packages/clickhouse/src/sink/payload-readers.ts).

  A payload is the JSON value a row of the outbox holds, parsed: an object is the list of its
  own properties in the order JavaScript enumerates them, and a number too large for a double
  is infinite. A reader throws a `TypeError`, of which the message is kept.

  Two things are the platform's: what `Date` makes of a text that is not a date-time with its
  offset, and the order of `localeCompare`.
-/

import TokenPilot.Library.Machine
import TokenPilot.Library.Numeral
import TokenPilot.Runtime.Texts

namespace TokenPilot.Analytics

open Library

/-! ## Values -/

inductive Number where
  | finite (d : Decimal)
  | infinite (negative : Bool)
  deriving DecidableEq

abbrev Payload := Json String Number

/-- The own properties of an object. -/
abbrev Object := List (String × Payload)

/-- The value of a property; none is `undefined`. -/
def Object.field (o : Object) (key : String) : Option Payload := o.lookup key

def count (n : Nat) : Payload := .num (.finite (.ofInt n))

/-- `Number(b)` of a boolean. -/
def bit (b : Bool) : Payload := count (if b then 1 else 0)

/-- `String(n)` -/
def Number.text : Number → String
  | .finite d => String.ofList (Numeral.jsNumber d)
  | .infinite negative => if negative then "-Infinity" else "Infinity"

/-- `JSON.stringify(n)` -/
def Number.json : Number → List Char
  | .finite d => Numeral.jsNumber d
  | .infinite _ => "null".toList

/-- `JSON.stringify` -/
def stringify (value : Payload) : String := String.ofList (value.render Number.json)

/-- The order of the UTF-16 units. -/
def unitOrder (a b : String) : Prop := Text.units a ≤ Text.units b

instance : DecidableRel unitOrder := fun a b => inferInstanceAs (Decidable (Text.units a ≤ Text.units b))

/-- What the code takes from the platform it runs on. -/
structure Platform where
  parseDate : String → Option Int
  localeOrder : String → String → Bool

/-! ## Dates -/

/-- The milliseconds of `(?:\.[0-9]+)?`, and what follows. -/
def readMilliseconds : List Char → Option (Nat × List Char)
  | '.' :: t =>
    let digits := t.takeWhile Runtime.isDigit
    if digits.isEmpty then none
    else some (Nat.ofDigitChars 10 ((digits ++ ['0', '0']).take 3) 0, t.dropWhile Runtime.isDigit)
  | t => some (0, t)

/-- The minutes of `Z` or `±HH:mm`. -/
def readOffset : List Char → Option Int
  | ['Z'] => some 0
  | sign :: t => do
    let (hour, t) ← Runtime.readDigits 2 t
    let (minute, t) ← Runtime.readDigits 2 (← Runtime.readChar ':' t)
    if t.isEmpty ∧ hour ≤ 23 ∧ minute ≤ 59 then
      if sign = '+' then some ((hour * 60 + minute : Nat) : Int)
      else if sign = '-' then some (-((hour * 60 + minute : Nat) : Int))
      else none
    else none
  | [] => none

/-- A date-time of ISO 8601 with its offset, in milliseconds. -/
def readIso (s : String) : Option Int := do
  let (year, t) ← Runtime.readDigits 4 s.toList
  let (month, t) ← Runtime.readDigits 2 (← Runtime.readChar '-' t)
  let (day, t) ← Runtime.readDigits 2 (← Runtime.readChar '-' t)
  let (hour, t) ← Runtime.readDigits 2 (← Runtime.readChar 'T' t)
  let (minute, t) ← Runtime.readDigits 2 (← Runtime.readChar ':' t)
  let (second, t) ← Runtime.readDigits 2 (← Runtime.readChar ':' t)
  let (millisecond, t) ← readMilliseconds t
  let offset ← readOffset t
  if 1 ≤ month ∧ month ≤ 12 ∧ 1 ≤ day ∧ day ≤ Runtime.daysInMonth year month ∧ hour ≤ 23 ∧ minute ≤ 59 ∧ second ≤ 59 then
    some (Quota.daysFromCivil year month day * 86400000 +
      ((hour * 3600000 + minute * 60000 + second * 1000 + millisecond : Nat) : Int) - offset * 60000)
  else none

/-- `new Date(text).getTime()`, none when it is not finite. -/
def Platform.date (platform : Platform) (text : String) : Option Int := (readIso text).or (platform.parseDate text)

/-- `toISOString().replace("T", " ").replace("Z", "")` -/
def clickHouseTime (milliseconds : Int) : String :=
  String.ofList (((Runtime.isoString milliseconds).toList.map fun c => if c = 'T' then ' ' else c).filter (· ≠ 'Z'))

/-! ## Readers -/

section Readers

variable (platform : Platform) (value : Option Payload) (name : String)

def object : Except String Object :=
  match value with
  | some (.obj fields) => .ok fields
  | _ => .error s!"{name} must be an object"

def array : Except String (List Payload) :=
  match value with
  | some (.arr items) => .ok items
  | _ => .error s!"{name} must be an array"

def string : Except String String :=
  match value with
  | some (.str text) => .ok text
  | _ => .error s!"{name} must be a string"

def optionalString : Except String (Option String) :=
  match value with
  | none | some .null => .ok none
  | some (.str text) => .ok (some text)
  | _ => .error s!"{name} must be a string"

def boolean (fallback : Bool) : Bool :=
  match value with
  | some (.bool b) => b
  | _ => fallback

/-- The safe integer from zero on that a number is. -/
def Number.safeNatural : Number → Option Nat
  | .finite d =>
    if 0 ≤ d.coefficient ∧ 0 ≤ d.exponent ∧ d.exponent ≤ 15 ∧ d.coefficient * 10 ^ d.exponent.toNat ≤ 9007199254740991 then
      some (d.coefficient * 10 ^ d.exponent.toNat).toNat
    else none
  | .infinite _ => none

def numeric : Except String (Option Nat) :=
  match value with
  | none | some .null => .ok none
  | some (.num n) =>
    match n.safeNatural with
    | some natural => .ok (some natural)
    | none => .error s!"{name} must be a non-negative safe integer"
  | _ => .error s!"{name} must be a non-negative safe integer"

def eventDate : Except String Int := do
  let text ← string value name
  match platform.date text with
  | some milliseconds => .ok milliseconds
  | none => .error s!"{name} must be an ISO date-time"

def dateTime : Except String String := do
  let milliseconds ← eventDate platform value name
  return clickHouseTime milliseconds

def sha256Fingerprint : Except String String := do
  let text ← string value name
  if Runtime.sha256FingerprintPattern text then .ok text
  else .error s!"{name} must be a lowercase SHA-256 fingerprint"

end Readers

/-! ## Secrets -/

def secretKeys : List String :=
  ["access_token", "api_key", "authorization", "bearer_token", "client_secret", "password", "private_key", "secret",
    "signature"]

/-- `toLowerCase`, as far as it can give a letter of ASCII: the Kelvin sign becomes a k. -/
def lowerCase (c : Char) : Char := if c = Char.ofNat 0x212A then 'k' else c.toLower

def isSecret (key : String) : Bool := secretKeys.contains (String.ofList (key.toList.map lowerCase))

/-- The text of one entry of a dimension map. -/
def dimensionText (key : String) : Payload → Except String String
  | .str text => .ok text
  | .num n => .ok n.text
  | .bool b => .ok (if b then "true" else "false")
  | _ => .error s!"dimension {key} must be scalar"

def dimensionMap (value : Option Payload) : Except String Object :=
  match value with
  | none | some .null => .ok []
  | some value => do
    let input ← object (some value) "dimension map"
    let kept := (input.filter fun entry => !isSecret entry.1).insertionSort fun a b => unitOrder a.1 b.1
    kept.mapM fun entry => do
      let text ← dimensionText entry.1 entry.2
      return (entry.1, .str text)

mutual

/-- Removes signing material and common credential keys. -/
def redactClickHouseRawPayload : Payload → Payload
  | .arr items => .arr (redactItems items)
  | .obj fields => .obj (redactFields fields)
  | value => value

def redactItems : List Payload → List Payload
  | [] => []
  | item :: rest => redactClickHouseRawPayload item :: redactItems rest

def redactFields : Object → Object
  | [] => []
  | (key, item) :: rest =>
    if isSecret key then redactFields rest else (key, redactClickHouseRawPayload item) :: redactFields rest

end

/-! ## Timestamps of the contracts -/

end TokenPilot.Analytics
