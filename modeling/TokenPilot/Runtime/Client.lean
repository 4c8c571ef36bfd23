/-
  TokenPilot.Runtime.Client — the runtime clients and where they resolve a route.

  - The SDK clients (`sdks/node/src/runtime/client.ts`, `runtime-snapshot-manager.ts`;
    `sdks/python/src/ai_control_sdk/runtime/client.py`, `async_client.py`, `state.py`) hold a
    verified snapshot, refuse an expired one only when they fail closed, and resolve routes
    in `selectRoute`; chat, streams, manual usage and the OpenAI decoration all go through
    it with what the AI context tells.
  - The connector (`connectors/litellm/src/ai_control_litellm/runtime_policy.py`) has the same
    `select_route` and the request hook `apply_to_request`, which checks the access block
    first and passes a request on unchanged when no policy is required of it.
-/

import TokenPilot.Runtime.Routing

namespace TokenPilot.Runtime

open Library

inductive FailMode where
  | failOpen
  | failClosed
  deriving DecidableEq, Repr

inductive SdkError where
  | runtimeUnavailable
  | runtimeExpired
  | route (error : RouteError)
  deriving DecidableEq, Repr

/-- What an SDK client has loaded and was configured with. -/
structure Client where
  snapshot : Option Snapshot
  failMode : FailMode

/-- The AI context of a call, as `withAiContext` resolves it. -/
structure AiContext where
  userId : String
  displayUser : Option String
  operationId : String
  requestId : String
  callSource : Option String
  userProperties : List (String × Json String Decimal)

def AiContext.routeContext (context : AiContext) : RouteContext where
  userId := some context.userId
  userProperties := some context.userProperties
  callSource := context.callSource
  selectionKey := some context.requestId

def liftRoute (result : Except RouteError RouteSelection) : Except SdkError RouteSelection :=
  result.mapError .route

/-! ## SDK clients -/

def Node.expired (snapshot : Snapshot) (now : Int) : Bool := snapshot.expiresAt.milliseconds ≤ now

def Python.expired (snapshot : Snapshot) (now : Int) : Bool := !Python.expiresAfter snapshot.expiresAt now

def requireUsable (expired : Snapshot → Int → Bool) (client : Client) (now : Int) : Except SdkError Snapshot :=
  match client.snapshot with
  | none => .error .runtimeUnavailable
  | some snapshot =>
    if expired snapshot now ∧ client.failMode = .failClosed then .error .runtimeExpired else .ok snapshot

/-- `selectRoute`; `clock` is the client's time, `now` the instant of the route. -/
def Node.selectRoute (zones : Zones) (client : Client) (clock : Int) (virtualModel : String) (context : RouteContext)
    (now : Int) : Except SdkError RouteSelection := do
  let snapshot ← requireUsable Node.expired client clock
  liftRoute (Node.resolveRuntimeRoute zones snapshot virtualModel now context)

def Python.selectRoute (zones : Zones) (client : Client) (clock : Int) (virtualModel : String) (context : RouteContext)
    (now : Int) : Except SdkError RouteSelection := do
  let snapshot ← requireUsable Python.expired client clock
  liftRoute (Python.resolveRuntimeRoute zones snapshot virtualModel now context)

/-! ## The connector -/

namespace Connector

/-- `value.get(key)` of a mapping, `None` for anything else. -/
def get (value : Json String Decimal) (key : String) : Json String Decimal :=
  match value with
  | .obj fields => (fields.lookup key).getD .null
  | _ => .null

def textOf : Json String Decimal → Option String
  | .str s => some s
  | _ => none

def fieldsOf : Json String Decimal → Option (List (String × Json String Decimal))
  | .obj fields => some fields
  | _ => none

def truthy : Json String Decimal → Bool
  | .null => false
  | .bool b => b
  | .num n => n.coefficient ≠ 0
  | .str s => s ≠ ""
  | .arr items => !items.isEmpty
  | .obj fields => !fields.isEmpty

/-- `a or b`. -/
def orElse (a b : Json String Decimal) : Json String Decimal := if truthy a then a else b

structure PolicyClient where
  snapshot : Option Snapshot
  policyRequired : Bool

inductive PolicyError where
  | noVirtualModel
  | noSnapshot
  | applicationDisabled
  | userBlocked
  | route (error : RouteError)
  deriving DecidableEq, Repr

inductive Applied where
  | unchanged
  | routed (route : RouteSelection)
  deriving DecidableEq

def selectRoute (zones : Zones) (client : PolicyClient) (virtualModel : String) (context : RouteContext) (now : Int) :
    Except PolicyError RouteSelection :=
  match client.snapshot with
  | none => .error .noSnapshot
  | some snapshot => (selectRuntimeRoute zones snapshot virtualModel now context).mapError .route

/-- The virtual model that a route hint or else the request names. -/
def virtualModelOf (data : Json String Decimal) : Option String :=
  match textOf (get (get (get data "metadata") "cp_route") "virtual_model") with
  | some hinted => some hinted
  | none => textOf (get data "model")

def routeContextOf (data : Json String Decimal) : RouteContext :=
  let cp := get (get data "metadata") "cp"
  let callSource := orElse (get cp "call_source")
    (orElse (get (get cp "event_properties") "call_source") (get data "call_type"))
  { userId := textOf (get cp "user_id")
    userProperties := fieldsOf (get cp "user_properties")
    callSource := textOf callSource
    selectionKey := textOf (get cp "request_id") }

/-- The access block, on a loaded snapshot. -/
def checkAccess (access : Access) (userId : Option String) : Except PolicyError Unit :=
  if access.applicationEnabled = false then .error .applicationDisabled
  else if userId.any access.blockedUserIds.contains then .error .userBlocked
  else .ok ()

def applyToRequest (zones : Zones) (client : PolicyClient) (data : Json String Decimal) (now : Int) :
    Except PolicyError Applied :=
  match virtualModelOf data with
  | none => .error .noVirtualModel
  | some virtualModel =>
    match client.snapshot with
    | none => if client.policyRequired then .error .noSnapshot else .ok .unchanged
    | some snapshot => do
      checkAccess snapshot.access (routeContextOf data).userId
      match selectRoute zones client virtualModel (routeContextOf data) now with
      | .ok route => .ok (.routed route)
      | .error error => if client.policyRequired then .error error else .ok .unchanged

end Connector

end TokenPilot.Runtime
