/-
  TokenPilot.Runtime.Spool — the usage spool of the SDKs and its flush
  (`sdks/node/src/runtime/usage-spool.ts`, `runtime-usage-reporter.ts`;
  `sdks/python/src/ai_control_sdk/runtime/usage_spool.py`, `usage_reporting.py`;
  `batchIngestionResponseSchema` of `machine-contracts.ts`).

  Both tables are lists in the order of their rows. A flush call reads the first pending
  events, sends them, applies the results of the response one after the other, each in a
  transaction of its own, and begins again until nothing is pending. What one call does
  between two of these points is one move, and the moves of any number of calls interleave.
  A call can throw at any point; a restart or a close ends every call and keeps the tables.

  The two SDKs differ in what they check of an event they are given and of one they read
  back, and in how they read a response. Python's `str` of a JSON value is a parameter, and
  so is whether `Date.parse` reads a text.

  Left out: the times of the rows, which nothing reads, and the sizes of the files; whether
  there is room for an event is for each call to say.
-/

import TokenPilot.Library.Machine
import TokenPilot.Runtime.UsageEvent

namespace TokenPilot.Runtime

open Library

/-! ## The response -/

inductive IngestionStatus where
  | accepted
  | duplicate
  | conflict
  | rejected
  deriving DecidableEq, Repr

def IngestionStatus.text : IngestionStatus → String
  | .accepted => "accepted"
  | .duplicate => "duplicate"
  | .conflict => "conflict"
  | .rejected => "rejected"

/-- `toUpperCase` of the text. -/
def IngestionStatus.upper : IngestionStatus → String
  | .accepted => "ACCEPTED"
  | .duplicate => "DUPLICATE"
  | .conflict => "CONFLICT"
  | .rejected => "REJECTED"

def ingestionStatuses : List IngestionStatus := [.accepted, .duplicate, .conflict, .rejected]

structure IngestionResult where
  index : Nat
  eventId : Option String
  status : IngestionStatus
  code : Option String
  message : Option String
  deriving DecidableEq, Repr

structure BatchIngestionResponse where
  batchId : String
  receivedAt : String
  accepted : Nat
  duplicates : Nat
  conflicts : Nat
  rejected : Nat
  results : List IngestionResult
  deriving Repr

/-- `/^[A-Z][A-Z0-9_]*$/`, at most 120 characters -/
def resultCodePattern (s : String) : Bool := headed isUpper (fun c => isUpper c || isDigit c || c = '_') 119 s.toList

/-- A field that may be left out or null. -/
def nullish {α : Type} (schema : Value → Option α) (field : Option Value) : Option (Option α) :=
  (optionally (nullable schema) field).map Option.join

def ingestionResultSchema (v : Value) : Option IngestionResult := do
  let field ← strictObject ["index", "event_id", "status", "code", "message"] v
  let index ← required field "index" (naturalSchema 0 maxSafeInteger.toNat)
  let eventId ← required field "event_id" (nullable (textSchema contractIdPattern))
  let status ← required field "status" (enumSchema IngestionStatus.text ingestionStatuses)
  let code ← nullish (textSchema resultCodePattern) (field "code")
  let message ← nullish (textSchema fun s => 1 ≤ jsLength s && jsLength s ≤ 500) (field "message")
  some { index, eventId, status, code, message }

def BatchIngestionResponse.count (response : BatchIngestionResponse) (status : IngestionStatus) : Nat :=
  response.results.countP (·.status = status)

/-- The counts are those of the results, and the indexes differ. -/
def BatchIngestionResponse.consistent (response : BatchIngestionResponse) : Bool :=
  decide (response.count .accepted = response.accepted) && decide (response.count .duplicate = response.duplicates) &&
    decide (response.count .conflict = response.conflicts) && decide (response.count .rejected = response.rejected) &&
    decide (response.results.map (·.index)).Nodup

def countSchema : Value → Option Nat := naturalSchema 0 maxSafeInteger.toNat

/-- `UTC_RFC3339_PATTERN` -/
def utcPattern (s : String) : Bool :=
  match s.toList.splitAt 19 with
  | (stem, rest) =>
    stem.length = 19 && (stem.zipIdx.all fun (c, i) =>
      if i = 4 ∨ i = 7 then c = '-' else if i = 10 then c = 'T' else if i = 13 ∨ i = 16 then c = ':' else isDigit c) &&
    (rest = ['Z'] ||
      match rest with
      | '.' :: t => 2 ≤ t.length && t.length ≤ 10 && t.dropLast.all isDigit && t.getLast? = some 'Z'
      | _ => false)

section

variable (dateParses : String → Bool)

def utcDateTimeSchema : Value → Option String := textSchema fun s => utcPattern s && dateParses s

def batchIngestionResponseSchema (v : Value) : Option BatchIngestionResponse := do
  let field ← strictObject ["schema_version", "batch_id", "received_at", "accepted", "duplicates", "conflicts", "rejected",
    "results"] v
  let _ ← required field "schema_version" (textSchema (· = "2.0"))
  let batchId ← required field "batch_id" (textSchema contractIdPattern)
  let receivedAt ← required field "received_at" (utcDateTimeSchema dateParses)
  let accepted ← required field "accepted" countSchema
  let duplicates ← required field "duplicates" countSchema
  let conflicts ← required field "conflicts" countSchema
  let rejected ← required field "rejected" countSchema
  let results ← required field "results" (arraySchema ingestionResultSchema)
  let response : BatchIngestionResponse := { batchId, receivedAt, accepted, duplicates, conflicts, rejected, results }
  if response.consistent then some response else none

end

/-! ## The tables -/

structure SpooledUsageEvent where
  eventId : String
  payload : Value

structure RejectedUsageEvent extends SpooledUsageEvent where
  reasonCode : String

structure UsageSpool where
  pending : List SpooledUsageEvent
  rejected : List RejectedUsageEvent

def UsageSpool.knows (spool : UsageSpool) (eventId : String) : Bool :=
  spool.pending.any (·.eventId = eventId) || spool.rejected.any (·.eventId = eventId)

/-- An event that is known is not stored again; `full` says that there is no room for it. -/
def UsageSpool.enqueue (spool : UsageSpool) (event : SpooledUsageEvent) (full : Bool) : Option UsageSpool :=
  if spool.knows event.eventId then some spool
  else if full then none
  else some { spool with pending := spool.pending ++ [event] }

def UsageSpool.acknowledge (spool : UsageSpool) (eventId : String) : UsageSpool :=
  { spool with pending := spool.pending.filter (·.eventId ≠ eventId) }

/-- `INSERT OR IGNORE ... SELECT` and `DELETE`, in one transaction. -/
def UsageSpool.reject (spool : UsageSpool) (eventId reasonCode : String) : UsageSpool where
  pending := spool.pending.filter (·.eventId ≠ eventId)
  rejected := spool.rejected ++
    if spool.rejected.any (·.eventId = eventId) then []
    else (spool.pending.filter (·.eventId = eventId)).map fun event => { toSpooledUsageEvent := event, reasonCode }

/-! ## What a result does -/

inductive Action where
  | skip
  | acknowledge (eventId : String)
  | reject (eventId reasonCode : String)
  | raise
  deriving DecidableEq, Repr

/-- The event that a result is taken to be of. -/
def IngestionResult.eventOf (result : IngestionResult) (batch : List SpooledUsageEvent) : Option String :=
  result.eventId.or (batch[result.index]?.map (·.eventId))

def IngestionStatus.delivered : IngestionStatus → Bool
  | .accepted | .duplicate => true
  | _ => false

def Node.action (batch : List SpooledUsageEvent) (item : IngestionResult) : Action :=
  match item.eventOf batch with
  | none => .skip
  | some eventId =>
    if item.status.delivered then .acknowledge eventId else .reject eventId (item.code.getD item.status.upper)

namespace Python

/-- `isinstance(index, int)`; a boolean is an integer. -/
def intOf : Value → Option Int
  | .num d => if 0 ≤ d.exponent then some (d.coefficient * 10 ^ d.exponent.toNat) else none
  | .bool b => some (if b then 1 else 0)
  | _ => none

/-- `pending[index]`, from the end for a negative index; an index below that raises. -/
def item (batch : List SpooledUsageEvent) (index : Int) : Except Unit (Option String) :=
  if 0 ≤ index then .ok (batch[index.toNat]?.map (·.eventId))
  else if -batch.length ≤ index then .ok (batch[(batch.length + index).toNat]?.map (·.eventId))
  else .error ()

def eventOf (batch : List SpooledUsageEvent) (result : Value) : Except Unit (Option String) :=
  match Connector.textOf (Connector.get result "event_id") with
  | some eventId => .ok (some eventId)
  | none =>
    match intOf (Connector.get result "index") with
    | some index => item batch index
    | none => .ok none

def hashable : Value → Bool
  | .arr _ | .obj _ => false
  | _ => true

def action (str : Value → String) (batch : List SpooledUsageEvent) : Value → Action
  | .obj fields =>
    match eventOf batch (.obj fields) with
    | .error () => .raise
    | .ok none => .skip
    | .ok (some eventId) =>
      let status := Connector.get (.obj fields) "status"
      if !hashable status then .raise
      else if [some "accepted", some "duplicate"].contains (Connector.textOf status) then .acknowledge eventId
      else .reject eventId (str (Connector.orElse (Connector.get (.obj fields) "code")
        (Connector.orElse status (.str "REJECTED"))))
  | _ => .skip

end Python

/-- What an SDK does of its own: the row of an event it is given, whether it can read a row
    back, and what it does with a response. None stands for an error. -/
structure UsageSdk where
  row : Value → Option SpooledUsageEvent
  readable : SpooledUsageEvent → Bool
  actions : List SpooledUsageEvent → Value → Option (List Action)

def eventIdOf (event : Value) : Option String := Connector.textOf (Connector.get event "event_id")

def nodeUsage (dateParses : String → Bool) : UsageSdk where
  row event := if usageEventSchema event then (eventIdOf event).map (⟨·, event⟩) else none
  readable event := usageEventSchema event.payload
  actions batch response := (batchIngestionResponseSchema dateParses response).map (·.results.map (Node.action batch))

def pythonUsage (str : Value → String) : UsageSdk where
  row event := ((eventIdOf event).filter (· ≠ "")).map (⟨·, event⟩)
  readable _ := true
  actions batch response :=
    match Connector.get response "results" with
    | .arr items => some (items.map (Python.action str batch))
    | _ => none

/-! ## Calls -/

inductive FlushPhase where
  | reading
  | sent
  | applying (actions : List Action)
  | finished
  deriving DecidableEq

/-- A flush call; `batch` is what its last request carries. -/
structure FlushCall where
  phase : FlushPhase
  batch : List SpooledUsageEvent
  requests : Nat
  delivered : Nat

/-- The tables and the calls; the last fields are history: the events of all reports, those
    the service has acknowledged, and how many rows have left the pending table. -/
structure SpoolState where
  spool : UsageSpool
  flushes : List FlushCall
  reported : List String
  acknowledged : List String
  removed : Nat

def emptySpool : SpoolState := ⟨⟨[], []⟩, [], [], [], 0⟩

inductive SpoolStep where
  | report (event : Value) (full : Bool)
  | flush
  | read (call : Nat)
  | answer (call : Nat) (response : Value)
  | apply (call : Nat)
  | throw (call : Nat)
  | restart
  | close

section Steps

variable (sdk : UsageSdk) (batchSize : Nat)

/-- `pending(batchSize)` and the request. -/
def readPending (s : SpoolState) (call : FlushCall) : FlushCall :=
  let batch := s.spool.pending.take batchSize
  if batch.all sdk.readable then
    if batch.isEmpty then { call with phase := .finished }
    else { call with phase := .sent, batch, requests := call.requests + 1 }
  else { call with phase := .finished }

def readResponse (call : FlushCall) (response : Value) : FlushCall :=
  match sdk.actions call.batch response with
  | some actions => { call with phase := .applying actions }
  | none => { call with phase := .finished }

/-- The tables after an action, with what it adds to the history. -/
def SpoolState.perform (s : SpoolState) : Action → SpoolState
  | .skip | .raise => s
  | .acknowledge eventId =>
    { s with
      spool := s.spool.acknowledge eventId
      acknowledged := s.acknowledged ++ [eventId]
      removed := s.removed + s.spool.pending.countP (·.eventId = eventId) }
  | .reject eventId reasonCode =>
    { s with
      spool := s.spool.reject eventId reasonCode
      removed := s.removed + s.spool.pending.countP (·.eventId = eventId) }

/-- The call after an action; what it has delivered counts the acknowledged rows. -/
def FlushCall.after (call : FlushCall) (s : SpoolState) (rest : List Action) : Action → FlushCall
  | .raise => { call with phase := .finished }
  | .acknowledge eventId =>
    { call with
      phase := .applying rest
      delivered := call.delivered + s.spool.pending.countP (·.eventId = eventId) }
  | _ => { call with phase := .applying rest }

def SpoolState.next (s : SpoolState) : SpoolStep → Option SpoolState
  | .report event full => do
    let row ← sdk.row event
    let spool ← s.spool.enqueue row full
    return { s with spool, reported := s.reported ++ [row.eventId] }
  | .flush => some { s with flushes := s.flushes ++ [⟨.reading, [], 0, 0⟩] }
  | .read i => do
    let call ← s.flushes[i]?
    if call.phase = .reading then some { s with flushes := s.flushes.set i (readPending sdk batchSize s call) } else none
  | .answer i response => do
    let call ← s.flushes[i]?
    if call.phase = .sent then some { s with flushes := s.flushes.set i (readResponse sdk call response) } else none
  | .apply i => do
    let call ← s.flushes[i]?
    match call.phase with
    | .applying [] => some { s with flushes := s.flushes.set i { call with phase := .reading } }
    | .applying (action :: rest) =>
      some { s.perform action with flushes := s.flushes.set i (call.after s rest action) }
    | _ => none
  | .throw i => do
    let call ← s.flushes[i]?
    return { s with flushes := s.flushes.set i { call with phase := .finished } }
  | .restart | .close => some { s with flushes := s.flushes.map fun call => { call with phase := .finished } }

def spoolMachine : Machine SpoolState SpoolStep Unit Unit where
  exec s step :=
    match s.next sdk batchSize step with
    | some s' => .ok ((), s')
    | none => .error ()

end Steps

end TokenPilot.Runtime
