/-
  TokenPilot.Runtime.Refresh — `RuntimeSnapshotManager.refresh` and its acknowledgement queue
  (sdks/node/src/runtime/runtime-snapshot-manager.ts, acknowledgements.ts), and the same of the
  Python SDK (client.py, state.py, acknowledgements.py).

  The two SDKs take the same steps: they flush the queue, fetch, verify what they got, flush the
  acknowledgement that it was received, write it as last known good, hold it in memory and
  acknowledge that it is applied. What they do in their own way is a `RefreshSdk`: how they read
  and verify a value, which configuration a value names, what they write, and whether a result
  has to be usable.

  A refresh meets a `Refreshing`: the reply to its fetch, how the write of the file goes, the
  times it reads, the ids it draws and the texts of its errors. Acknowledgements are posted
  through `post` on the state of whoever answers, which may refuse any of them.
-/

import TokenPilot.Runtime.Client
import TokenPilot.Runtime.Integrity

namespace TokenPilot.Runtime

open Library

/-! ## Acknowledgements -/

inductive AcknowledgementState where
  | received
  | applied
  | rejected
  deriving DecidableEq, Repr

structure ConfigurationReference where
  applicationId : String
  configurationVersion : Nat
  configurationEtag : String
  deriving DecidableEq, Repr

structure ConnectorIdentity where
  instanceId : String
  name : String
  version : String
  deriving DecidableEq, Repr

/-- The body of an acknowledgement; the code of an error is always `SDK_RUNTIME_SNAPSHOT_REJECTED`. -/
structure RuntimeAcknowledgement where
  reference : ConfigurationReference
  acknowledgementId : String
  acknowledgedAt : Int
  connector : ConnectorIdentity
  state : AcknowledgementState
  appliedAt : Option Int
  error : Option String
  deriving DecidableEq, Repr

/-- The pattern of the SDKs, which leaves out the nil and the max UUID. -/
def sdkUuidPattern (s : String) : Bool :=
  uuidShape s && (s.toList.drop 14).head?.any ("12345678".toList.contains ·) &&
    (s.toList.drop 19).head?.any ("89abAB".toList.contains ·)

def fieldOf (value : Value) (key : String) : Option Value :=
  match value with
  | .obj fields => fields.lookup key
  | _ => none

/-- The rest of a reference, once the plans name one version. -/
def referenceOf (snapshot : Value) (versions : List Int) : Option ConfigurationReference :=
  match versions.dedup, fieldOf snapshot "application_id", fieldOf snapshot "etag" with
  | [version], some (.str applicationId), some (.str etag) =>
    if 0 < version && sdkUuidPattern applicationId && sha256FingerprintPattern etag then
      some ⟨applicationId, version.toNat, etag⟩
    else none
  | _, _, _ => none

namespace Node

/-- `Object.values` of a record; an array is one. -/
def recordValues : Value → Option (List Value)
  | .obj fields => some (fields.map (·.2))
  | .arr items => some items
  | _ => none

/-- `configurationReferences`; a version is a positive safe integer. -/
def configurationReferences (value : Value) : Option ConfigurationReference := do
  let plans ← (fieldOf value "routing").bind recordValues
  referenceOf value (plans.filterMap fun plan =>
    (fieldOf plan "configuration_version").bind (integerSchema 1 maxSafeInteger))

/-- `slice(0, 500)` by UTF-16 units; none where it splits a pair, which no text of the contract holds. -/
def sliceUnits : Nat → List Char → Option (List Char)
  | 0, _ | _, [] => some []
  | n + 1, c :: rest =>
    if c.toNat < 0x10000 then (sliceUnits n rest).map (c :: ·)
    else
      match n with
      | 0 => none
      | n + 1 => (sliceUnits n rest).map (c :: ·)

def cut (message : String) : Option String := (sliceUnits 500 message.toList).map String.ofList

end Node

namespace Python

/-- An `int` that is no `bool`. -/
def integerOf : Value → Option Int
  | .num d => if 0 ≤ d.exponent then some (d.coefficient * 10 ^ d.exponent.toNat) else none
  | _ => none

def configurationReference (value : Value) : Option ConfigurationReference := do
  let plans ← (fieldOf value "routing").bind Connector.fieldsOf
  referenceOf value (plans.filterMap fun plan => (fieldOf plan.2 "configuration_version").bind integerOf)

def cut (message : String) : Option String := some (String.ofList (message.toList.take 500))

end Python

/-! ## Refreshes -/

inductive RefreshFailure where
  | acknowledgementFailed
  | fetchFailed
  | notModifiedWithoutSnapshot
  | unverified (error : IntegrityError)
  | expired
  | versionCollision
  | writeFailed
  /-- The text of an error is none the contract of an acknowledgement takes. -/
  | acknowledgementInvalid
  | lkgUnreadable
  | unavailable
  deriving DecidableEq, Repr

inductive SnapshotReply where
  | networkFailure
  | notModified
  | refused (status : Nat)
  | notJson
  | body (value : Value)

inductive WriteOutcome where
  | written
  /-- Nothing reached the file. -/
  | failed
  /-- The file was replaced, and then its directory could not be synced. -/
  | replaced
  deriving DecidableEq, Repr

inductive LkgFile where
  | missing
  | unreadable
  | stored (value : Value)

inductive SnapshotSource where
  | remote
  | lkg
  deriving DecidableEq, Repr

inductive RefreshStatus where
  | updated
  | notModified
  | lkg
  deriving DecidableEq, Repr

structure RefreshResult where
  status : RefreshStatus
  version : String
  etag : String
  expired : Bool
  deriving DecidableEq, Repr

/-- What an SDK does in its own way. -/
structure RefreshSdk where
  identity : ConnectorIdentity
  /-- The parsed snapshot, when its etag and its signature are those of its content. -/
  verify : Value → Except IntegrityError Snapshot
  /-- The same check of a snapshot that is held. -/
  verifyHeld : Snapshot → Except IntegrityError Unit
  expired : Snapshot → Int → Bool
  configurationReference : Value → Option ConfigurationReference
  cut : String → Option String
  /-- The snapshot as a file holds it. -/
  stored : Snapshot → Value
  /-- A result is one of a usable snapshot. -/
  usable : Snapshot → Int → Bool

def nodeRefresh (digest : Digest) (isHttpUrl : String → Bool) (failMode : FailMode) (instanceId sdkVersion : String) :
    RefreshSdk where
  identity := ⟨instanceId, "node", sdkVersion⟩
  verify := verifyRuntimeSnapshot digest isHttpUrl
  verifyHeld snapshot := (verifyRuntimeSnapshot digest isHttpUrl snapshot.toJson).map fun _ => ()
  expired := Node.expired
  configurationReference := Node.configurationReferences
  cut := Node.cut
  stored := Snapshot.toJson
  usable snapshot now := !(Node.expired snapshot now && failMode == .failClosed)

/-- `verify` is `model_validate` and `verify_snapshot`, which alone is `verifyHeld`, and `stored` is
    `model_dump_json`. The result of a refresh is of any snapshot. -/
def pythonRefresh (verify : Value → Except IntegrityError Snapshot) (verifyHeld : Snapshot → Except IntegrityError Unit)
    (stored : Snapshot → Value) (instanceId sdkVersion : String) : RefreshSdk where
  identity := ⟨instanceId, "python", sdkVersion⟩
  verify
  verifyHeld
  expired := Python.expired
  configurationReference := Python.configurationReference
  cut := Python.cut
  stored
  usable _ _ := true

/-- The manager; `accepted` is history: the acknowledgements that were answered. -/
structure ManagerState where
  snapshot : Option Snapshot
  source : SnapshotSource
  pending : List RuntimeAcknowledgement
  lkg : LkgFile
  accepted : List RuntimeAcknowledgement

/-- What one refresh meets. -/
structure Refreshing where
  reply : SnapshotReply
  write : WriteOutcome
  verifiedAt : Int
  receivedAt : Int
  closedAt : Int
  resultAt : Int
  receivedId : String
  closedId : String
  message : RefreshFailure → String

section Manager

variable {σ : Type} (sdk : RefreshSdk) (post : σ → RuntimeAcknowledgement → Bool × σ)

/-- `runtimeAcknowledgements` of a value. -/
def runtimeAcknowledgements (value : Value) (state : AcknowledgementState) (now : Int) (id : String)
    (message : Option String) : Except RefreshFailure (List RuntimeAcknowledgement) :=
  match sdk.configurationReference value with
  | none => .ok []
  | some reference =>
    let acknowledgement : RuntimeAcknowledgement :=
      { reference, acknowledgementId := id, acknowledgedAt := now, connector := sdk.identity, state
        appliedAt := if state = .applied then some now else none
        error := none }
    match message with
    | none => .ok [acknowledgement]
    | some message =>
      match (sdk.cut message).filter (bounded 1 500) with
      | some text => .ok [{ acknowledgement with error := some text }]
      | none => .error .acknowledgementInvalid

/-- `flush`: the queue is posted in order, up to the first that fails. -/
def flush : σ → ManagerState → List RuntimeAcknowledgement → Bool × ManagerState × σ
  | s, m, [] => (true, { m with pending := [] }, s)
  | s, m, acknowledgement :: rest =>
    match post s acknowledgement with
    | (true, s) => flush s { m with accepted := m.accepted ++ [acknowledgement] } rest
    | (false, s) => (false, { m with pending := acknowledgement :: rest }, s)

/-- `queue`, and then `flush(false)`, whose failure is only reported. -/
def queueAndFlush (value : Value) (state : AcknowledgementState) (now : Int) (id : String) (message : Option String)
    (m : ManagerState) (s : σ) : Except RefreshFailure Unit × ManagerState × σ :=
  match runtimeAcknowledgements sdk value state now id message with
  | .error e => (.error e, m, s)
  | .ok acknowledgements =>
    let (_, m, s) := flush post s m (m.pending ++ acknowledgements)
    (.ok (), m, s)

/-- What is checked of a body before it is a candidate. -/
def validateCandidate (m : ManagerState) (value : Value) (now : Int) : Except RefreshFailure Snapshot :=
  match sdk.verify value with
  | .error e => .error (.unverified e)
  | .ok candidate =>
    if sdk.expired candidate now then .error .expired
    else if m.snapshot.any fun current => candidate.version = current.version && candidate.etag ≠ current.etag then
      .error .versionCollision
    else .ok candidate

/-- `writeLkgAtomically` -/
def writeLkg (m : ManagerState) (candidate : Snapshot) : WriteOutcome → Bool × ManagerState
  | .written => (true, { m with lkg := .stored (sdk.stored candidate) })
  | .failed => (false, m)
  | .replaced => (false, { m with lkg := .stored (sdk.stored candidate) })

/-- The rejection of a value, after which the refresh fails. -/
def reject (w : Refreshing) (value : Value) (failure : RefreshFailure) (m : ManagerState) (s : σ) :
    Except RefreshFailure RefreshStatus × ManagerState × σ :=
  match queueAndFlush sdk post value .rejected w.closedAt w.closedId (some (w.message failure)) m s with
  | (.error e, m, s) => (.error e, m, s)
  | (.ok _, m, s) => (.error failure, m, s)

/-- The steps for a candidate. -/
def adopt (w : Refreshing) (candidate : Snapshot) (m : ManagerState) (s : σ) :
    Except RefreshFailure RefreshStatus × ManagerState × σ :=
  match runtimeAcknowledgements sdk candidate.toJson .received w.receivedAt w.receivedId none with
  | .error e => (.error e, m, s)
  | .ok acknowledgements =>
    match flush post s m (m.pending ++ acknowledgements) with
    | (false, m, s) => (.error .acknowledgementFailed, m, s)
    | (true, m, s) =>
      match writeLkg sdk m candidate w.write with
      | (false, m) => reject sdk post w candidate.toJson .writeFailed m s
      | (true, m) =>
        let m := { m with snapshot := some candidate, source := .remote }
        match queueAndFlush sdk post candidate.toJson .applied w.closedAt w.closedId none m s with
        | (.error e, m, s) => (.error e, m, s)
        | (.ok _, m, s) => (.ok .updated, m, s)

/-- The `try` block of `refresh`, up to its result. -/
def attemptRefresh (w : Refreshing) (m : ManagerState) (s : σ) :
    Except RefreshFailure RefreshStatus × ManagerState × σ :=
  match flush post s m m.pending with
  | (false, m, s) => (.error .acknowledgementFailed, m, s)
  | (true, m, s) =>
    match w.reply with
    | .networkFailure | .refused _ | .notJson => (.error .fetchFailed, m, s)
    | .notModified =>
      match m.snapshot with
      | none => (.error .notModifiedWithoutSnapshot, m, s)
      | some snapshot =>
        match sdk.verifyHeld snapshot with
        | .error e => (.error (.unverified e), m, s)
        | .ok _ =>
          if sdk.expired snapshot w.verifiedAt then (.error .expired, m, s)
          else (.ok .notModified, { m with source := .remote }, s)
    | .body value =>
      match validateCandidate sdk m value w.verifiedAt with
      | .error failure => reject sdk post w value failure m s
      | .ok candidate => adopt sdk post w candidate m s

/-- `result` -/
def refreshResult (status : RefreshStatus) (now : Int) (m : ManagerState) : Except RefreshFailure RefreshResult :=
  match m.snapshot with
  | none => .error .unavailable
  | some snapshot =>
    if sdk.usable snapshot now then .ok ⟨status, snapshot.version, snapshot.etag, sdk.expired snapshot now⟩
    else .error .expired

/-- `loadLkg`, of which an expired snapshot is one too. -/
def loadLkg (failure : RefreshFailure) (m : ManagerState) : Except RefreshFailure Unit × ManagerState :=
  match m.lkg with
  | .missing => (.error failure, m)
  | .unreadable => (.error .lkgUnreadable, m)
  | .stored value =>
    match sdk.verify value with
    | .error e => (.error (.unverified e), m)
    | .ok snapshot => (.ok (), { m with snapshot := some snapshot, source := .lkg })

/-- The `catch` block of `refresh`. -/
def fallBack (failure : RefreshFailure) (w : Refreshing) (m : ManagerState) :
    Except RefreshFailure RefreshResult × ManagerState :=
  match m.snapshot with
  | some _ =>
    let m := { m with source := .lkg }
    (refreshResult sdk .lkg w.resultAt m, m)
  | none =>
    match loadLkg sdk failure m with
    | (.error e, m) => (.error e, m)
    | (.ok _, m) => (refreshResult sdk .lkg w.resultAt m, m)

def refresh (w : Refreshing) (m : ManagerState) (s : σ) : Except RefreshFailure RefreshResult × ManagerState × σ :=
  match attemptRefresh sdk post w m s with
  | (.error failure, m, s) =>
    let (result, m) := fallBack sdk failure w m
    (result, m, s)
  | (.ok status, m, s) =>
    match refreshResult sdk status w.resultAt m with
    | .ok result => (.ok result, m, s)
    | .error failure =>
      let (result, m) := fallBack sdk failure w m
      (result, m, s)

end Manager

end TokenPilot.Runtime
