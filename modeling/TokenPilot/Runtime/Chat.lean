/-
  TokenPilot.Runtime.Chat — one chat call of an SDK client.

  - `Node.executeChat`, `Node.executeChatStream`: `sdks/node/src/runtime/chat-execute.ts`,
    `chat-stream.ts`, with `reserveUserAiu` and `failOpenOrThrow` of `client.ts`.
  - `Python.executeChat`: `chat_sync.py`, with `reserve_user_aiu` of `client.py`.

  A call resolves its route, keeps the targets that can serve it, reserves AIU, and tries the
  targets in order: a target whose credential cannot be resolved is skipped, a retryable
  failure is retried up to the connection's limit, any other failure ends the call. What the
  call does to the outside is the list of its `Effect`s. The world answers: the service's
  reply to the reservation, the credential of a connection, and what the n-th attempt ends
  in. Reporting, settling and releasing may fail without the call failing.
-/

import TokenPilot.Runtime.Client

namespace TokenPilot.Runtime

open Library

/-! ## Input and targets -/

/-- A message, as far as routing reads it: the `type`s of the parts of an array content. -/
structure Message where
  partTypes : List String
  deriving DecidableEq, Repr

structure ChatInput where
  model : String
  messages : List Message
  tools : Bool
  responseFormat : Bool
  estimatedAiuMicros : Option String
  deriving DecidableEq, Repr

inductive ChatError where
  | messagesEmpty
  | sdk (error : SdkError)
  | capabilityUnavailable
  | estimateRequired
  | requestInvalid
  | userAiuDenied (reason : String)
  | reservationFailed
  | unknownConnection
  | modelRequestFailed (message : String)
  | abandoned
  deriving DecidableEq, Repr

def requiredInputCapabilities (messages : List Message) : List Capability :=
  let types := messages.flatMap (·.partTypes)
  (if types.any ["image", "image_url", "input_image"].contains then [.imageInput] else []) ++
    (if types.any ["audio", "input_audio"].contains then [.audioInput] else [])

/-- The capabilities that the input asks of a target. -/
def serves (input : ChatInput) (streaming : Bool) (target : RouteTarget) : Bool :=
  (!streaming || target.capabilities.contains .streaming) &&
    (!input.tools || target.capabilities.contains .tools) &&
    (!input.responseFormat || target.capabilities.contains .structuredOutput) &&
    (requiredInputCapabilities input.messages).all target.capabilities.contains

def candidates (keep : RouteTarget → Bool) (route : RouteSelection) : Except ChatError (List RouteTarget) :=
  match (route.primary :: route.fallbacks).filter keep with
  | [] => .error .capabilityUnavailable
  | targets => .ok targets

def Node.chatTargets (route : RouteSelection) (input : ChatInput) (streaming : Bool) :
    Except ChatError (List RouteTarget) :=
  candidates (fun target => target.taskType = .chat && serves input streaming target) route

/-- `route_and_targets` asks for no task type. -/
def Python.chatTargets (route : RouteSelection) (input : ChatInput) (streaming : Bool) :
    Except ChatError (List RouteTarget) :=
  candidates (serves input streaming) route

/-! ## Reservation -/

structure ReservationRequest where
  userId : String
  displayUser : Option String
  userProperties : Option (List (String × Json String Decimal))
  operationId : String
  virtualModel : String
  candidateModelIds : List String
  estimatedAiuMicros : String

structure ReservationToken where
  id : String
  token : String
  deriving DecidableEq, Repr

/-- What the reservation request comes back with: no usable response, or a valid one. A denial
    carries no reservation. -/
inductive ReservationReply where
  | failed
  | allowed (reservation : Option ReservationToken)
  | denied (reason : String)
  deriving DecidableEq, Repr

inductive ReservationStatus where
  | notRequired
  | allowed
  | reserved
  | failOpen
  deriving DecidableEq, Repr

structure ReservationResult where
  status : ReservationStatus
  token : Option ReservationToken
  deriving DecidableEq, Repr

def reservationRequest (context : AiContext) (input : ChatInput) (targets : List RouteTarget) : ReservationRequest where
  userId := context.userId
  displayUser := context.displayUser
  userProperties := if context.userProperties.isEmpty then none else some context.userProperties
  operationId := context.operationId
  virtualModel := input.model
  candidateModelIds := targets.map (·.modelId)
  estimatedAiuMicros := input.estimatedAiuMicros.getD "0"

/-- Rethrows for a client that fails closed, else goes on with the fallback. -/
def failOpenOrThrow {α : Type} (failMode : FailMode) (error : ChatError) (fallback : α) : Except ChatError α :=
  if failMode = .failClosed then .error error else .ok fallback

/-- The response inside the `try`: a denial is thrown where every failure is caught. -/
def reservationOutcome (failMode : FailMode) : ReservationReply → Except ChatError ReservationResult
  | .allowed none => .ok ⟨.allowed, none⟩
  | .allowed (some reservation) => .ok ⟨.reserved, some reservation⟩
  | .denied reason => failOpenOrThrow failMode (.userAiuDenied reason) ⟨.failOpen, none⟩
  | .failed => failOpenOrThrow failMode .reservationFailed ⟨.failOpen, none⟩

/-! ## Attempts -/

inductive AttemptStatus where
  | success
  | failure
  | timeout
  | cancelled
  deriving DecidableEq, Repr

structure ProviderFailure where
  message : String
  status : Option Nat
  kind : AttemptStatus
  retryable : Bool
  deriving DecidableEq, Repr

/-- How one provider request ends. -/
inductive ProviderOutcome where
  | success (status : Nat)
  | failure (error : ProviderFailure)
  | cancelled (status : Nat)
  deriving DecidableEq, Repr

inductive StreamEnding where
  | completed
  | failed (error : ProviderFailure)
  | abandoned
  deriving DecidableEq, Repr

/-- How one provider stream goes: it may not open, and once open it may have emitted parts. -/
inductive StreamOutcome where
  | unopened (error : ProviderFailure)
  | opened (status : Nat) (emitted : Bool) (ending : StreamEnding)
  deriving DecidableEq, Repr

/-- A stream that has emitted is not retried. -/
def StreamOutcome.outcome : StreamOutcome → ProviderOutcome
  | .unopened error => .failure error
  | .opened status _ .completed => .success status
  | .opened _ emitted (.failed error) => .failure { error with retryable := error.retryable && !emitted }
  | .opened status _ .abandoned => .cancelled status

structure ChatAttempt where
  attemptIndex : Nat
  target : RouteTarget
  prior : Option RouteTarget
  connection : Connection
  status : AttemptStatus
  httpStatus : Option Nat
  final : Bool
  reservationId : Option String
  deriving DecidableEq

inductive Effect where
  | reserve (request : ReservationRequest)
  | provider (attemptIndex : Nat) (target : RouteTarget) (connection : Connection)
  | report (attempts : List ChatAttempt)
  | settle (token : ReservationToken) (amount : String)
  | release (token : ReservationToken) (reason : String)

structure ChatResult where
  virtualModel : String
  target : RouteTarget
  connection : Connection
  attempts : List ChatAttempt
  operationId : String

/-- The chat entry points. -/
inductive ChatMode where
  | nodeChat
  | nodeStream
  | pythonChat
  deriving DecidableEq, Repr

/-- What the outside answers to a call. -/
structure World where
  admits : ReservationRequest → Bool
  reply : ReservationRequest → ReservationReply
  /-- The credential of a connection, or why there is none. -/
  credential : Connection → Except String String
  provider : Nat → RouteTarget → Connection → ProviderOutcome
  stream : Nat → RouteTarget → Connection → StreamOutcome

structure Progress where
  attempts : List ChatAttempt
  lastError : Option ProviderFailure
  attemptIndex : Nat
  effects : List Effect

/-- How the attempts end; `aborted` is Python's lookup of an unknown connection. -/
inductive Ended where
  | succeeded (target : RouteTarget) (connection : Connection)
  | cancelled
  | exhausted
  | aborted

section Loop

variable (mode : ChatMode) (provider : Nat → RouteTarget → Connection → ProviderOutcome)
  (token : Option ReservationToken)

/-- The attempts on one target, at most the given number of them. -/
def attemptConnection (prior : Option RouteTarget) (target : RouteTarget) (connection : Connection) (last : Bool) :
    Nat → Progress → Ended × Progress
  | 0, progress => (.exhausted, progress)
  | remaining + 1, progress =>
    let record (status : AttemptStatus) (httpStatus : Option Nat) (final : Bool) : ChatAttempt :=
      { attemptIndex := progress.attemptIndex, target, prior, connection, status, httpStatus, final
        reservationId := token.map (·.id) }
    let called := progress.effects ++ [.provider progress.attemptIndex target connection]
    match provider progress.attemptIndex target connection with
    | .success status =>
      (.succeeded target connection,
        { progress with attempts := progress.attempts ++ [record .success (some status) true], effects := called })
    | .cancelled status =>
      (.cancelled,
        { progress with attempts := progress.attempts ++ [record .cancelled (some status) true], effects := called })
    | .failure error =>
      let final := !error.retryable || (last && remaining = 0)
      let progress :=
        { attempts := progress.attempts ++ [record error.kind error.status final]
          lastError := some error
          attemptIndex := progress.attemptIndex + 1
          effects := called }
      if error.retryable then attemptConnection prior target connection last remaining progress
      else (.exhausted, progress)

/-- The targets in order. A connection the snapshot does not publish ends the loop. -/
def attemptTargets (snapshot : Snapshot) (credential : Connection → Except String String)
    (prior : Option RouteTarget) : List RouteTarget → Progress → Ended × Progress
  | [], progress => (.exhausted, progress)
  | target :: rest, progress =>
    match snapshot.connections.lookup target.connectionId with
    | none =>
      if mode = .pythonChat then (.aborted, progress)
      else
        let error := ⟨"Published route references an unknown connection.", none, .failure, false⟩
        (.exhausted, { progress with lastError := some error })
    | some connection =>
      match credential connection with
      | .error message =>
        attemptTargets snapshot credential (some target) rest
          { progress with lastError := some ⟨message, none, .failure, true⟩ }
      | .ok _ =>
        match attemptConnection provider token prior target connection rest.isEmpty (connection.maxRetries + 1) progress
          with
        | (.exhausted, progress) =>
          if progress.lastError.any (!·.retryable) then (.exhausted, progress)
          else attemptTargets snapshot credential (some target) rest progress
        | ended => ended

/-- Python reports only when there is something to report. -/
def reportEffects (attempts : List ChatAttempt) : List Effect :=
  if mode = .pythonChat ∧ attempts = [] then [] else [.report attempts]

/-- The attempts of a call and what follows them: settlement of a success, release of a failure. -/
def runTargets (snapshot : Snapshot) (credential : Connection → Except String String) (targets : List RouteTarget)
    (virtualModel operationId amount : String) (effects : List Effect) : Except ChatError ChatResult × List Effect :=
  match attemptTargets mode provider token snapshot credential none targets ⟨[], none, 0, effects⟩ with
  | (.succeeded target connection, progress) =>
    (.ok { virtualModel, target, connection, attempts := progress.attempts, operationId },
      progress.effects ++ [.report progress.attempts] ++ token.toList.map (.settle · amount))
  | (.cancelled, progress) =>
    (.error .abandoned,
      progress.effects ++ token.toList.map (.release · "stream was cancelled") ++ [.report progress.attempts])
  | (.exhausted, progress) =>
    (.error (.modelRequestFailed ((progress.lastError.map (·.message)).getD "No model target could be called.")),
      progress.effects ++ token.toList.map (.release · "all model attempts failed") ++
        reportEffects mode progress.attempts)
  | (.aborted, progress) => (.error .unknownConnection, progress.effects)

end Loop

/-! ## Calls -/

def ChatMode.provider (mode : ChatMode) (world : World) : Nat → RouteTarget → Connection → ProviderOutcome :=
  match mode with
  | .nodeStream => fun index target connection => (world.stream index target connection).outcome
  | .nodeChat | .pythonChat => world.provider

/-- From the reservation on. Outside a hard limit nothing is reserved; a request that the
    contract does not admit is not sent. -/
def reserveAndRun (mode : ChatMode) (world : World) (failMode : FailMode) (snapshot : Snapshot) (context : AiContext)
    (input : ChatInput) (route : RouteSelection) (targets : List RouteTarget) :
    Except ChatError ChatResult × List Effect :=
  let run (token : Option ReservationToken) (effects : List Effect) :=
    runTargets mode (mode.provider world) token snapshot world.credential targets route.virtualModel
      context.operationId (input.estimatedAiuMicros.getD "0") effects
  let request := reservationRequest context input targets
  if snapshot.aiuMode ≠ .hardLimit then run none []
  else if world.admits request then
    match reservationOutcome failMode (world.reply request) with
    | .error error => (.error error, [.reserve request])
    | .ok result => run result.token [.reserve request]
  else (.error .requestInvalid, [])

def refuseIf (condition : Bool) (error : ChatError) : Except ChatError Unit :=
  if condition then .error error else .ok ()

def missesEstimate (snapshot : Snapshot) (input : ChatInput) : Bool :=
  snapshot.aiuMode = .hardLimit && input.estimatedAiuMicros = none

def Node.prepare (zones : Zones) (client : Client) (clock : Int) (snapshot : Snapshot) (context : AiContext)
    (input : ChatInput) (streaming : Bool) : Except ChatError (RouteSelection × List RouteTarget) := do
  let _ ← (requireUsable Node.expired client clock).mapError .sdk
  refuseIf input.messages.isEmpty .messagesEmpty
  let route ← (Node.selectRoute zones client clock input.model context.routeContext clock).mapError .sdk
  let targets ← Node.chatTargets route input streaming
  refuseIf (missesEstimate snapshot input) .estimateRequired
  return (route, targets)

/-- Python asks for the estimate before it resolves the route. -/
def Python.prepare (zones : Zones) (client : Client) (clock : Int) (snapshot : Snapshot) (context : AiContext)
    (input : ChatInput) : Except ChatError (RouteSelection × List RouteTarget) := do
  refuseIf input.messages.isEmpty .messagesEmpty
  refuseIf (missesEstimate snapshot input) .estimateRequired
  let route ← (Python.selectRoute zones client clock input.model context.routeContext clock).mapError .sdk
  let targets ← Python.chatTargets route input false
  return (route, targets)

def ChatMode.prepare (mode : ChatMode) (zones : Zones) (client : Client) (clock : Int) (snapshot : Snapshot)
    (context : AiContext) (input : ChatInput) : Except ChatError (RouteSelection × List RouteTarget) :=
  match mode with
  | .nodeChat => Node.prepare zones client clock snapshot context input false
  | .nodeStream => Node.prepare zones client clock snapshot context input true
  | .pythonChat => Python.prepare zones client clock snapshot context input

/-- A chat call of a client that has loaded `snapshot`. -/
def executeChat (mode : ChatMode) (zones : Zones) (world : World) (failMode : FailMode) (clock : Int)
    (snapshot : Snapshot) (context : AiContext) (input : ChatInput) : Except ChatError ChatResult × List Effect :=
  match mode.prepare zones ⟨some snapshot, failMode⟩ clock snapshot context input with
  | .error error => (.error error, [])
  | .ok (route, targets) => reserveAndRun mode world failMode snapshot context input route targets

end TokenPilot.Runtime
