/-
  TokenPilot.Management.Properties — property definitions, as ingestion reads them
  (`property.schemas.ts`).

  A definition gives a key its scope and its data type, and bounds the values.
-/

import TokenPilot.Analytics.Mapper
import TokenPilot.Runtime.SchemaLaws

namespace TokenPilot.Management

open Analytics (PropertyType)

inductive PropertyScope where
  | event
  | user
  deriving DecidableEq, Repr

def PropertyScope.text : PropertyScope → String
  | .event => "EVENT"
  | .user => "USER"

inductive PropertyStatus where
  | active
  | disabled
  deriving DecidableEq, Repr

structure PropertyConstraints where
  maxLength : Option Nat := none
  min : Option Int := none
  max : Option Int := none
  maxItems : Option Nat := none
  deriving DecidableEq, Repr

/-- A row of `PropertyDefinition`; the values of one that is no enumeration are null. -/
structure PropertyDefinition where
  id : String
  key : String
  displayName : String
  scope : PropertyScope
  dataType : PropertyType
  allowedValues : Option (List String)
  searchable : Bool
  groupable : Bool
  sensitive : Bool
  constraints : PropertyConstraints
  status : PropertyStatus

end TokenPilot.Management
