/-
  TokenPilot.Runtime.Acceptability — the queue of an SDK's acknowledgements against the service
  that answers them: `RuntimeConfigurationAcknowledgementService.acknowledge`
  (apps/api/src/runtime-configuration/runtime-acknowledgement.service.ts).

  A queue is flushed from its head, and what the service refuses stays there. `acknowledge_fits`
  takes an acknowledgement that fits the service, for good (`Fits.later`), and `flush_delivers`
  sends a queue of them. When every body of a history names configurations the service knows,
  whatever is queued fits (`attempt_deliverable`), and the refresh that is answered adopts its
  snapshot (`acknowledgeable_history_applies`). One body that names another configuration is enough for no later
  refresh to adopt anything (`refused_forever`).

  The service's rows are those of one application. Left out: the columns of an acknowledgement
  besides its id and its hash, which nothing here reads, and the race of two inserts of one id,
  which ends as its second insert does.
-/

import TokenPilot.Runtime.RefreshSafety
import TokenPilot.Runtime.UsageEvent
import TokenPilot.Runtime.Versions

namespace TokenPilot.Runtime

open Library

/-! ## The service -/

/-- A row of `runtime_configuration_versions`. -/
structure ConfigurationRow where
  version : Nat
  etag : String
  status : PublicationStatus
  positive : 0 < version ∧ version < 2 ^ 31
  fingerprint : sha256FingerprintPattern etag

/-- A row of `runtime_configuration_acknowledgements`. -/
structure AcknowledgementRow where
  acknowledgementId : String
  payloadHash : String
  deriving DecidableEq, Repr

structure AcknowledgementService where
  applicationId : String
  configurations : List ConfigurationRow
  rows : List AcknowledgementRow
  clock : Int
  uuid : uuidPattern applicationId

/-- `/^\d+\.\d+\.\d+(?:-[0-9A-Za-z.-]+)?$/` -/
def semanticVersionPattern (s : String) : Bool :=
  let numbers (l : List Char) : Option (List Char) :=
    match l.takeWhile isDigit with
    | [] => none
    | _ => some (l.dropWhile isDigit)
  match (numbers s.toList).bind (fun l => (readChar '.' l).bind numbers) with
  | none => false
  | some rest =>
    match (readChar '.' rest).bind numbers with
    | none => false
    | some [] => true
    | some (c :: rest) =>
      c = '-' && !rest.isEmpty && rest.all fun c => isDigit c || isLower c || isUpper c || c = '.' || c = '-'

/-- A time as the SDKs write it is one the contract reads. -/
def writable (milliseconds : Int) : Bool := (utcTimestampSchema (.str (isoString milliseconds))).isSome

/-- `runtimeConfigurationAcknowledgementSchema` -/
def runtimeConfigurationAcknowledgementSchema (a : RuntimeAcknowledgement) : Bool :=
  uuidPattern a.reference.applicationId && contractIdPattern a.acknowledgementId && writable a.acknowledgedAt &&
    bounded 1 256 a.connector.instanceId && ["node", "python", "litellm"].contains a.connector.name &&
    semanticVersionPattern a.connector.version && 0 < a.reference.configurationVersion &&
    a.reference.configurationVersion ≤ maxSafeInteger.toNat && sha256FingerprintPattern a.reference.configurationEtag &&
    a.appliedAt.all writable && a.error.all (bounded 1 500) && !(a.state = .rejected && a.error = none) &&
    !(a.state = .applied && a.appliedAt = none) && !(a.state ≠ .applied && a.appliedAt ≠ none) &&
    !(a.state ≠ .rejected && a.error ≠ none) && a.appliedAt.all (· ≤ a.acknowledgedAt)

def AcknowledgementState.text : AcknowledgementState → String
  | .received => "received"
  | .applied => "applied"
  | .rejected => "rejected"

/-- The body of the request. -/
def RuntimeAcknowledgement.toJson (a : RuntimeAcknowledgement) : Value :=
  .obj [("schema_version", .str "2.0"), ("application_id", .str a.reference.applicationId),
    ("acknowledgement_id", .str a.acknowledgementId), ("acknowledged_at", .str (isoString a.acknowledgedAt)),
    ("connector", .obj [("instance_id", .str a.connector.instanceId), ("name", .str a.connector.name),
      ("version", .str a.connector.version)]),
    ("configuration_version", integer a.reference.configurationVersion),
    ("configuration_etag", .str a.reference.configurationEtag), ("state", .str a.state.text),
    ("applied_at", a.appliedAt.elim .null fun time => .str (isoString time)),
    ("error", a.error.elim .null fun message =>
      .obj [("code", .str "SDK_RUNTIME_SNAPSHOT_REJECTED"), ("message", .str message)])]

def payloadHash (digest : Digest) (a : RuntimeAcknowledgement) : String := digest (stringify a.toJson)

/-- The texts fit their columns; a text column holds no NUL. -/
def storable (a : RuntimeAcknowledgement) : Bool :=
  a.connector.version.toList.length ≤ 64 && !a.connector.instanceId.toList.contains '\x00' &&
    a.error.all fun message => !message.toList.contains '\x00'

inductive AcknowledgeFailure where
  | contract
  | configurationNotFound
  | tooFarInTheFuture
  | idReused
  | database
  deriving DecidableEq, Repr

namespace AcknowledgementService

variable (digest : Digest)

/-- A configuration that an acknowledgement may name. -/
def knows (service : AcknowledgementService) (reference : ConfigurationReference) : Bool :=
  (service.configurations.find? (·.version = reference.configurationVersion)).any fun row =>
    row.etag = reference.configurationEtag && (row.status = .published || row.status = .retired)

/-- `acknowledge`; the result says whether the acknowledgement was there. -/
def acknowledge (service : AcknowledgementService) (a : RuntimeAcknowledgement) :
    Except AcknowledgeFailure Bool × AcknowledgementService :=
  if !runtimeConfigurationAcknowledgementSchema a then (.error .contract, service)
  else if a.reference.applicationId ≠ service.applicationId then (.error .configurationNotFound, service)
  else if service.clock + 5 * 60000 < a.acknowledgedAt then (.error .tooFarInTheFuture, service)
  else
    match service.rows.find? (·.acknowledgementId = a.acknowledgementId) with
    | some row => (if row.payloadHash = payloadHash digest a then .ok true else .error .idReused, service)
    | none =>
      if !service.knows a.reference then (.error .configurationNotFound, service)
      else if !storable a then (.error .database, service)
      else (.ok false, { service with rows := service.rows ++ [⟨a.acknowledgementId, payloadHash digest a⟩] })

/-- A publication retires what is published; a version is published once. -/
def publish (service : AcknowledgementService) (row : ConfigurationRow) : AcknowledgementService :=
  if service.configurations.any (·.version = row.version) then service
  else
    { service with
      configurations := (service.configurations.map fun other =>
        if other.status = .published then { other with status := .retired } else other) ++ [{ row with status := .published }] }

end AcknowledgementService

/-! ## The client and the service -/

inductive Outcome where
  /-- The request does not reach the service. -/
  | unreached
  | answered
  /-- The service answers, and the answer does not arrive. -/
  | answerLost
  deriving DecidableEq, Repr

/-- What happens to a request, and after which time. -/
structure Delivery where
  elapsed : Nat
  outcome : Outcome
  deriving DecidableEq, Repr

section System

variable (digest : Digest)

/-- The requests past the end of the list are answered at once. -/
def deliver : AcknowledgementService × List Delivery → RuntimeAcknowledgement →
    Bool × (AcknowledgementService × List Delivery)
  | (service, []), a => ((service.acknowledge digest a).1.toBool, ((service.acknowledge digest a).2, []))
  | (service, delivery :: rest), a =>
    let service := { service with clock := service.clock + delivery.elapsed }
    match delivery.outcome with
    | .unreached => (false, (service, rest))
    | .answered => ((service.acknowledge digest a).1.toBool, ((service.acknowledge digest a).2, rest))
    | .answerLost => (false, ((service.acknowledge digest a).2, rest))

structure Connected where
  manager : ManagerState
  service : AcknowledgementService

inductive Occurrence where
  | refresh (w : Refreshing) (deliveries : List Delivery)
  | publish (row : ConfigurationRow)
  /-- Another connector of the application has its acknowledgement accepted. -/
  | acknowledged (row : AcknowledgementRow)
  | wait (elapsed : Nat)

variable (sdk : RefreshSdk)

def refreshed (state : Connected) (w : Refreshing) (deliveries : List Delivery) : Connected :=
  let after := (refresh sdk (deliver digest) w state.manager (state.service, deliveries)).2
  ⟨after.1, after.2.1⟩

def connected : Machine Connected Occurrence Unit Unit where
  exec state
    | .refresh w deliveries => .ok ((), refreshed digest sdk state w deliveries)
    | .publish row => .ok ((), { state with service := state.service.publish row })
    | .acknowledged row => .ok ((), { state with service.rows := state.service.rows ++ [row] })
    | .wait elapsed => .ok ((), { state with service.clock := state.service.clock + elapsed })

end System

/-! ## What fits the service -/

/-- The service takes the acknowledgement, now and later. -/
structure Fits (digest : Digest) (service : AcknowledgementService) (a : RuntimeAcknowledgement) : Prop where
  contract : runtimeConfigurationAcknowledgementSchema a = true
  application : a.reference.applicationId = service.applicationId
  clock : a.acknowledgedAt ≤ service.clock + 5 * 60000
  known : service.knows a.reference = true
  stored : storable a = true
  id : ∀ row ∈ service.rows, row.acknowledgementId = a.acknowledgementId → row.payloadHash = payloadHash digest a

/-- The same service later, with acknowledgements of some ids more. -/
structure Later (service service' : AcknowledgementService) (ids : List String) : Prop where
  application : service'.applicationId = service.applicationId
  clock : service.clock ≤ service'.clock
  known : ∀ reference, service.knows reference = true → service'.knows reference = true
  rows : ∀ row ∈ service'.rows, row ∈ service.rows ∨ row.acknowledgementId ∈ ids

theorem Later.refl (service : AcknowledgementService) (ids : List String) : Later service service ids :=
  ⟨rfl, le_refl _, fun _ h => h, fun _ h => .inl h⟩

section Service

variable {digest : Digest} {service service' service'' : AcknowledgementService} {a : RuntimeAcknowledgement}
  {ids ids' : List String} {sdk : RefreshSdk} {w : Refreshing} {m m' : ManagerState}
  {s s' : AcknowledgementService × List Delivery}

theorem Later.trans (h : Later service service' ids) (h' : Later service' service'' ids') :
    Later service service'' (ids ++ ids') where
  application := h'.application.trans h.application
  clock := h.clock.trans h'.clock
  known reference hknown := h'.known reference (h.known reference hknown)
  rows row hrow := by
    rcases h'.rows row hrow with hrow | hrow
    · rcases h.rows row hrow with hrow | hrow
      · exact .inl hrow
      · exact .inr (List.mem_append_left _ hrow)
    · exact .inr (List.mem_append_right _ hrow)

theorem Fits.later (h : Fits digest service a) (hlater : Later service service' ids) (hfresh : a.acknowledgementId ∉ ids) :
    Fits digest service' a where
  contract := h.contract
  application := h.application.trans hlater.application.symm
  clock := by
    have hclock := h.clock
    have hforward := hlater.clock
    omega
  known := hlater.known _ h.known
  stored := h.stored
  id row hrow hid := by
    rcases hlater.rows row hrow with hold | hnew
    · exact h.id row hold hid
    · exact absurd (hid ▸ hnew) hfresh

theorem acknowledge_fits (h : Fits digest service a) : ∃ duplicate service',
    service.acknowledge digest a = (.ok duplicate, service') ∧ Later service service' [a.acknowledgementId] ∧
      Fits digest service' a := by
  unfold AcknowledgementService.acknowledge
  rw [if_neg (by simp [h.contract]), if_neg (by simp [h.application]), if_neg (by have hclock := h.clock; omega)]
  cases hfind : service.rows.find? (·.acknowledgementId = a.acknowledgementId) with
  | some row =>
    have hhash := h.id row (List.mem_of_find?_eq_some hfind) (by simpa using List.find?_some hfind)
    refine ⟨true, service, ?_, .refl _ _, h⟩
    dsimp only
    rw [if_pos hhash]
  | none =>
    dsimp only
    rw [if_neg (by simp [h.known]), if_neg (by simp [h.stored])]
    refine ⟨false, _, rfl, ⟨rfl, le_refl _, fun _ h => h, ?_⟩, h.contract, h.application, h.clock, h.known, h.stored, ?_⟩
    · intro row hrow
      rcases List.mem_append.mp hrow with hold | hnew
      · exact .inl hold
      · rw [List.mem_singleton.mp hnew]
        exact .inr (List.mem_singleton_self _)
    · intro row hrow hid
      rcases List.mem_append.mp hrow with hold | hnew
      · exact h.id row hold hid
      · rw [List.mem_singleton.mp hnew]

/-- Every request is answered, and its answer arrives. -/
def Answered (deliveries : List Delivery) : Prop := ∀ delivery ∈ deliveries, delivery.outcome = .answered

theorem deliver_fits {taken : Bool} (h : Fits digest s.1 a) (hdeliver : deliver digest s a = (taken, s')) :
    Later s.1 s'.1 [a.acknowledgementId] ∧ Fits digest s'.1 a ∧ (Answered s.2 → taken = true ∧ Answered s'.2) := by
  obtain ⟨service, deliveries⟩ := s
  cases deliveries with
  | nil =>
    obtain ⟨duplicate, service', heq, hlater, hfits⟩ := acknowledge_fits h
    unfold deliver at hdeliver
    dsimp only at hdeliver heq
    rw [heq] at hdeliver
    cases hdeliver
    exact ⟨hlater, hfits, fun hall => ⟨rfl, hall⟩⟩
  | cons delivery rest =>
    have hwait : Later service { service with clock := service.clock + delivery.elapsed } [] :=
      ⟨rfl, by simp, fun _ h => h, fun _ h => .inl h⟩
    have hthen := h.later hwait (by simp)
    obtain ⟨duplicate, service', heq, hlater, hfits⟩ := acknowledge_fits hthen
    have hrest : Answered (delivery :: rest) → Answered rest := fun hall d hd => hall d (List.mem_cons_of_mem _ hd)
    unfold deliver at hdeliver
    dsimp only at hdeliver
    cases houtcome : delivery.outcome with
    | unreached =>
      rw [houtcome] at hdeliver
      cases hdeliver
      refine ⟨⟨rfl, hwait.clock, fun _ h => h, fun _ h => .inl h⟩, hthen, fun hall => ?_⟩
      exact absurd (hall delivery List.mem_cons_self) (by simp [houtcome])
    | answered =>
      rw [houtcome] at hdeliver
      dsimp only at hdeliver
      rw [heq] at hdeliver
      cases hdeliver
      exact ⟨hwait.trans hlater, hfits, fun hall => ⟨rfl, hrest hall⟩⟩
    | answerLost =>
      rw [houtcome] at hdeliver
      dsimp only at hdeliver
      rw [heq] at hdeliver
      cases hdeliver
      refine ⟨hwait.trans hlater, hfits, fun hall => ?_⟩
      exact absurd (hall delivery List.mem_cons_self) (by simp [houtcome])

/-! ## Queues -/

/-- A queue the service takes as it is, in its order. -/
structure Deliverable (digest : Digest) (service : AcknowledgementService) (queue : List RuntimeAcknowledgement) : Prop where
  fits : ∀ a ∈ queue, Fits digest service a
  distinct : (queue.map (·.acknowledgementId)).Nodup

theorem Deliverable.later {queue : List RuntimeAcknowledgement} (h : Deliverable digest service queue)
    (hlater : Later service service' ids) (hfresh : ∀ a ∈ queue, a.acknowledgementId ∉ ids) :
    Deliverable digest service' queue :=
  ⟨fun a ha => (h.fits a ha).later hlater (hfresh a ha), h.distinct⟩

theorem flush_delivers {queue : List RuntimeAcknowledgement} {sent : Bool} (h : Deliverable digest s.1 queue)
    (hflush : flush (deliver digest) s m queue = (sent, m', s')) :
    Later s.1 s'.1 (queue.map (·.acknowledgementId)) ∧ Deliverable digest s'.1 m'.pending ∧
      (Answered s.2 → sent = true ∧ Answered s'.2) := by
  induction queue generalizing m s with
  | nil =>
    cases hflush
    exact ⟨.refl _ _, ⟨by simp, by simp⟩, fun hall => ⟨rfl, hall⟩⟩
  | cons a rest ih =>
    have hdistinct := h.distinct
    rw [List.map_cons, List.nodup_cons] at hdistinct
    -- the others keep fitting: none of them has the id of the first
    have hothers : ∀ b ∈ rest, b.acknowledgementId ∉ [a.acknowledgementId] := by
      intro b hb hsame
      exact hdistinct.1 (List.mem_singleton.mp hsame ▸ List.mem_map_of_mem hb)
    have hrest : Deliverable digest s.1 rest := ⟨fun b hb => h.fits b (List.mem_cons_of_mem _ hb), hdistinct.2⟩
    unfold flush at hflush
    split at hflush
    · rename_i s₁ hdeliver
      obtain ⟨hlater, -, hanswered⟩ := deliver_fits (h.fits a List.mem_cons_self) hdeliver
      obtain ⟨hlater', hpending, hanswered'⟩ := ih (hrest.later hlater hothers) hflush
      exact ⟨hlater.trans hlater', hpending, fun hall => hanswered' (hanswered hall).2⟩
    · rename_i s₁ hdeliver
      cases hflush
      obtain ⟨hlater, hfits, hanswered⟩ := deliver_fits (h.fits a List.mem_cons_self) hdeliver
      refine ⟨⟨hlater.application, hlater.clock, hlater.known, fun row hrow => ?_⟩, ⟨?_, h.distinct⟩, fun hall => ?_⟩
      · exact (hlater.rows row hrow).imp_right fun hid => by simp [List.mem_singleton.mp hid]
      · intro b hb
        rcases List.mem_cons.mp hb with rfl | hb
        · exact hfits
        · exact (hrest.fits b hb).later hlater (hothers b hb)
      · cases (hanswered hall).1

/-- The service and the queue do not have the id. -/
def Unused (service : AcknowledgementService) (queue : List RuntimeAcknowledgement) (id : String) : Prop :=
  (∀ row ∈ service.rows, row.acknowledgementId ≠ id) ∧ ∀ a ∈ queue, a.acknowledgementId ≠ id

theorem Unused.flushed {queue : List RuntimeAcknowledgement} {sent : Bool} {id : String} (h : Unused s.1 queue id)
    (hdeliverable : Deliverable digest s.1 queue) (hflush : flush (deliver digest) s m queue = (sent, m', s')) :
    Unused s'.1 m'.pending id := by
  have hlater := (flush_delivers hdeliverable hflush).1
  have hpending := (flush_kept hflush).2.2
  refine ⟨fun row hrow hid => ?_, fun a ha => h.2 a (hpending a ha)⟩
  rcases hlater.rows row hrow with hold | hnew
  · exact h.1 row hold hid
  · obtain ⟨a, ha, haid⟩ := List.mem_map.mp hnew
    exact h.2 a ha (haid.trans hid)

/-! ## What a client queues -/

/-- An identity the contract takes, and the column of its version. -/
structure ConnectorIdentity.Admitted (identity : ConnectorIdentity) : Prop where
  instanceId : bounded 1 256 identity.instanceId = true
  name : ["node", "python", "litellm"].contains identity.name = true
  version : semanticVersionPattern identity.version = true
  short : identity.version.toList.length ≤ 64
  plain : '\x00' ∉ identity.instanceId.toList

/-- The reference of a configuration of the application. -/
def Usable (service : AcknowledgementService) (reference : ConfigurationReference) : Prop :=
  reference.applicationId = service.applicationId ∧ service.knows reference = true

theorem Usable.later {reference : ConfigurationReference} (h : Usable service reference)
    (hlater : Later service service' ids) : Usable service' reference :=
  ⟨h.1.trans hlater.application.symm, hlater.known _ h.2⟩

/-- An id and a time for the next acknowledgement. -/
structure Drawn (service : AcknowledgementService) (queue : List RuntimeAcknowledgement) (id : String) (time : Int) : Prop where
  contract : contractIdPattern id = true
  unused : Unused service queue id
  written : writable time = true
  clock : time ≤ service.clock + 5 * 60000

theorem Drawn.flushed {queue : List RuntimeAcknowledgement} {sent : Bool} {id : String} {time : Int}
    (h : Drawn s.1 queue id time) (hdeliverable : Deliverable digest s.1 queue)
    (hflush : flush (deliver digest) s m queue = (sent, m', s')) : Drawn s'.1 m'.pending id time where
  contract := h.contract
  unused := h.unused.flushed hdeliverable hflush
  written := h.written
  clock := by
    have hclock := h.clock
    have hforward := (flush_delivers hdeliverable hflush).1.clock
    omega

/-- What is sent of the text of an error holds no NUL. -/
def PlainText (sdk : RefreshSdk) (message : Option String) : Prop :=
  ∀ text, message.bind sdk.cut = some text → '\x00' ∉ text.toList

theorem plainText_none (sdk : RefreshSdk) : PlainText sdk none := by
  intro text htext
  cases htext

theorem knows_row {reference : ConfigurationReference} (h : service.knows reference = true) :
    0 < reference.configurationVersion ∧ reference.configurationVersion ≤ maxSafeInteger.toNat ∧
      sha256FingerprintPattern reference.configurationEtag = true := by
  unfold AcknowledgementService.knows at h
  obtain ⟨row, hfind, hrow⟩ := (Option.any_eq_true _ _).mp h
  have hversion : row.version = reference.configurationVersion := by simpa using List.find?_some hfind
  have hetag : row.etag = reference.configurationEtag := by simp at hrow; exact hrow.1
  obtain ⟨hpositive, hsmall⟩ := row.positive
  rw [← hversion, ← hetag]
  refine ⟨hpositive, ?_, row.fingerprint⟩
  unfold maxSafeInteger
  omega

theorem queued_deliverable {value : Value} {state : AcknowledgementState} {now : Int} {id : String}
    {message : Option String} {acknowledgements : List RuntimeAcknowledgement} (hidentity : sdk.identity.Admitted)
    (hnamed : ∀ reference, sdk.configurationReference value = some reference → Usable service reference)
    (hdrawn : Drawn service m.pending id now) (hstate : state = .rejected ↔ message.isSome)
    (htexts : PlainText sdk message)
    (hpending : Deliverable digest service m.pending)
    (h : runtimeAcknowledgements sdk value state now id message = .ok acknowledgements) :
    Deliverable digest service (m.pending ++ acknowledgements) := by
  rcases runtimeAcknowledgements_ok h with ⟨-, rfl⟩ | ⟨reference, error, hreference, rfl, herror⟩
  · rw [List.append_nil]
    exact hpending
  obtain ⟨happlication, hknown⟩ := hnamed reference hreference
  obtain ⟨hpositive, hsafe, hetag⟩ := knows_row hknown
  have hbounded : error.all (bounded 1 500) = true ∧ (state = .rejected ↔ error.isSome) ∧
      error.all (fun message => !message.toList.contains '\x00') = true := by
    rcases herror with ⟨rfl, rfl⟩ | ⟨text, hcut, rfl, hbounded⟩
    · exact ⟨rfl, by simpa using hstate, rfl⟩
    · have hsome : message.isSome = true := by
        cases message with
        | none => cases hcut
        | some message => rfl
      exact ⟨hbounded, by simp [hstate, hsome], by simpa using htexts text hcut⟩
  obtain ⟨herrors, hrejected, hplain⟩ := hbounded
  constructor
  · intro a ha
    rcases List.mem_append.mp ha with hold | hnew
    · exact hpending.fits a hold
    rw [List.mem_singleton.mp hnew]
    refine ⟨?_, happlication, hdrawn.clock, hknown, ?_, fun row hrow hid => absurd hid (hdrawn.unused.1 row hrow)⟩
    · unfold runtimeConfigurationAcknowledgementSchema
      have huuid : uuidPattern reference.applicationId = true := happlication ▸ service.uuid
      have hstates : (!(state = .rejected && error = none)) = true ∧ (!(state ≠ .rejected && error ≠ none)) = true := by
        cases state <;> cases error <;> simp_all
      have htime : ∀ p : Int → Bool, p now = true → (if state = .applied then some now else none).all p = true := by
        intro p hp
        split <;> simp [hp]
      have hnow := htime (· ≤ now) (decide_eq_true (le_refl now))
      simp only [huuid, hdrawn.contract, hdrawn.written, hidentity.instanceId, hidentity.name, hidentity.version, hpositive,
        hsafe, hetag, herrors, htime writable hdrawn.written, hstates.1, hstates.2, hnow, decide_true, Bool.and_true, Bool.true_and]
      cases state <;> simp
    · unfold storable
      rw [hplain]
      simp [hidentity.short, hidentity.plain]
  · rw [List.map_append, List.nodup_append]
    refine ⟨hpending.distinct, by simp, ?_⟩
    intro old hold new hnew
    obtain ⟨a, ha, rfl⟩ := List.mem_map.mp hold
    rw [List.mem_singleton.mp hnew]
    exact hdrawn.unused.2 a ha

/-! ## A refresh -/

/-- What a refresh has to meet for its acknowledgements to be taken: every configuration that a
    body names is one of the service, the clock of the client is not ahead, and the ids are new. -/
structure Acknowledgeable (sdk : RefreshSdk) (w : Refreshing) (m : ManagerState) (service : AcknowledgementService) : Prop where
  named : ∀ value, w.reply = .body value → ∀ reference, sdk.configurationReference value = some reference →
    Usable service reference
  candidate : ∀ value candidate, w.reply = .body value → sdk.verify value = .ok candidate →
    ∀ reference, sdk.configurationReference candidate.toJson = some reference → Usable service reference
  received : Drawn service m.pending w.receivedId w.receivedAt
  closed : Drawn service m.pending w.closedId w.closedAt
  distinct : w.receivedId ≠ w.closedId
  texts : ∀ failure, PlainText sdk (some (w.message failure))

theorem queueAndFlush_deliverable {value : Value} {state : AcknowledgementState} {now : Int} {id : String}
    {message : Option String} {result : Except RefreshFailure Unit} (hidentity : sdk.identity.Admitted)
    (hnamed : ∀ reference, sdk.configurationReference value = some reference → Usable s.1 reference)
    (hdrawn : Drawn s.1 m.pending id now) (hstate : state = .rejected ↔ message.isSome)
    (htexts : PlainText sdk message)
    (hpending : Deliverable digest s.1 m.pending)
    (h : queueAndFlush sdk (deliver digest) value state now id message m s = (result, m', s')) :
    Deliverable digest s'.1 m'.pending ∧ (message = none → result = .ok ()) := by
  unfold queueAndFlush at h
  split at h
  · rename_i e hfailed
    cases h
    refine ⟨hpending, fun hnone => ?_⟩
    rw [hnone] at hfailed
    unfold runtimeAcknowledgements at hfailed
    split at hfailed <;> cases hfailed
  · rename_i acknowledgements hqueued
    cases h
    have hqueue := queued_deliverable hidentity hnamed hdrawn hstate htexts hpending hqueued
    exact ⟨(flush_delivers hqueue rfl).2.1, fun _ => rfl⟩

theorem reject_deliverable {value : Value} {failure : RefreshFailure} {result : Except RefreshFailure RefreshStatus}
    (hidentity : sdk.identity.Admitted)
    (hnamed : ∀ reference, sdk.configurationReference value = some reference → Usable s.1 reference)
    (hdrawn : Drawn s.1 m.pending w.closedId w.closedAt)
    (htexts : ∀ failure, PlainText sdk (some (w.message failure)))
    (hpending : Deliverable digest s.1 m.pending)
    (h : reject sdk (deliver digest) w value failure m s = (result, m', s')) : Deliverable digest s'.1 m'.pending := by
  unfold reject at h
  split at h <;> rename_i hqueue <;> cases h <;>
    exact (queueAndFlush_deliverable hidentity hnamed hdrawn (by simp) (htexts failure) hpending hqueue).1

theorem writeLkg_pending (sdk : RefreshSdk) (m : ManagerState) (candidate : Snapshot) (outcome : WriteOutcome) :
    (writeLkg sdk m candidate outcome).2.pending = m.pending := by
  cases outcome <;> rfl

theorem adopt_deliverable {candidate : Snapshot} {result : Except RefreshFailure RefreshStatus}
    (hidentity : sdk.identity.Admitted)
    (hnamed : ∀ reference, sdk.configurationReference candidate.toJson = some reference → Usable s.1 reference)
    (hreceived : Drawn s.1 m.pending w.receivedId w.receivedAt) (hclosed : Drawn s.1 m.pending w.closedId w.closedAt)
    (hdistinct : w.receivedId ≠ w.closedId)
    (htexts : ∀ failure, PlainText sdk (some (w.message failure)))
    (hpending : Deliverable digest s.1 m.pending)
    (h : adopt sdk (deliver digest) w candidate m s = (result, m', s')) : Deliverable digest s'.1 m'.pending ∧
      (Answered s.2 → w.write = .written → result = .ok .updated ∧ m'.snapshot = some candidate) := by
  unfold adopt at h
  split at h
  · rename_i e hfailed
    unfold runtimeAcknowledgements at hfailed
    split at hfailed <;> cases hfailed
  rename_i acknowledgements hacknowledgements
  have hqueue := queued_deliverable hidentity hnamed hreceived (by simp) (plainText_none sdk) hpending hacknowledgements
  -- the id of what closes the refresh is not in the queue either
  have hclosedQueue : Drawn s.1 (m.pending ++ acknowledgements) w.closedId w.closedAt := by
    refine ⟨hclosed.contract, ⟨hclosed.unused.1, fun a ha => ?_⟩, hclosed.written, hclosed.clock⟩
    rcases List.mem_append.mp ha with hold | hnew
    · exact hclosed.unused.2 a hold
    · rcases runtimeAcknowledgements_ok hacknowledgements with ⟨-, rfl⟩ | ⟨reference, error, -, rfl, -⟩
      · cases hnew
      · rw [List.mem_singleton.mp hnew]
        exact hdistinct
  split at h
  · rename_i m₁ s₁ hflush
    cases h
    obtain ⟨-, hdelivered, hanswered⟩ := flush_delivers hqueue hflush
    exact ⟨hdelivered, fun hall => absurd (hanswered hall).1 (by simp)⟩
  rename_i m₁ s₁ hflush
  obtain ⟨hlater, hdelivered, -⟩ := flush_delivers hqueue hflush
  have hclosed₁ := hclosedQueue.flushed hqueue hflush
  have hnamed₁ : ∀ reference, sdk.configurationReference candidate.toJson = some reference → Usable s₁.1 reference :=
    fun reference hreference => (hnamed reference hreference).later hlater
  have hwritten := writeLkg_pending sdk m₁ candidate w.write
  split at h
  · rename_i m₂ hwrite
    rw [hwrite] at hwritten
    dsimp only at hwritten
    rw [← hwritten] at hdelivered hclosed₁
    refine ⟨reject_deliverable hidentity hnamed₁ hclosed₁ htexts hdelivered h, fun _ hsuccess => ?_⟩
    rw [hsuccess] at hwrite
    cases hwrite
  · rename_i m₂ hwrite
    rw [hwrite] at hwritten
    dsimp only at hwritten h
    rw [← hwritten] at hdelivered hclosed₁
    generalize hheld : ({ m₂ with snapshot := some candidate, source := .remote } : ManagerState) = m₃ at h
    have hpending₃ : m₃.pending = m₂.pending := by rw [← hheld]
    rw [← hpending₃] at hdelivered hclosed₁
    split at h
    · rename_i e m₄ s₄ happlied
      have hok := (queueAndFlush_deliverable hidentity hnamed₁ hclosed₁ (by simp) (plainText_none sdk) hdelivered happlied).2 rfl
      cases hok
    · rename_i m₄ s₄ happlied
      cases h
      have hsnapshot := (queueAndFlush_kept happlied).snapshot
      rw [← hheld] at hsnapshot
      exact ⟨(queueAndFlush_deliverable hidentity hnamed₁ hclosed₁ (by simp) (plainText_none sdk) hdelivered happlied).1,
        fun _ _ => ⟨rfl, hsnapshot⟩⟩

theorem attempt_deliverable {result : Except RefreshFailure RefreshStatus} (hidentity : sdk.identity.Admitted)
    (hmeets : Acknowledgeable sdk w m s.1) (hpending : Deliverable digest s.1 m.pending)
    (h : attemptRefresh sdk (deliver digest) w m s = (result, m', s')) : Deliverable digest s'.1 m'.pending ∧
      ∀ candidate, Answered s.2 → w.write = .written → Candidate sdk w m candidate →
        result = .ok .updated ∧ m'.snapshot = some candidate := by
  unfold attemptRefresh at h
  split at h
  · rename_i m₁ s₁ hflush
    cases h
    obtain ⟨-, hdelivered, hanswered⟩ := flush_delivers hpending hflush
    exact ⟨hdelivered, fun _ hall => absurd (hanswered hall).1 (by simp)⟩
  rename_i m₁ s₁ hflush
  obtain ⟨hlater, hdelivered, hanswered⟩ := flush_delivers hpending hflush
  have hsnapshot := (flush_kept hflush).1.snapshot
  have hnothing : ∀ {candidate}, Candidate sdk w m candidate → ∃ value, w.reply = .body value :=
    fun hcandidate => hcandidate.body.imp fun _ hvalue => hvalue.1
  split at h
  case h_5 value hreply =>
    have hreceived := hmeets.received.flushed hpending hflush
    have hclosed := hmeets.closed.flushed hpending hflush
    split at h
    · rename_i failure hinvalid
      have hnamed : ∀ reference, sdk.configurationReference value = some reference → Usable s₁.1 reference :=
        fun reference hreference => (hmeets.named value hreply reference hreference).later hlater
      refine ⟨reject_deliverable hidentity hnamed hclosed hmeets.texts hdelivered h, fun candidate _ _ hcandidate => ?_⟩
      obtain ⟨other, hother, hverify⟩ := hcandidate.body
      rw [hreply] at hother
      cases hother
      have hvalid := (validateCandidate_ok).mpr ⟨hverify, hcandidate.unexpired, fun current hcurrent =>
        hcandidate.version current (hsnapshot.symm.trans hcurrent)⟩
      rw [hinvalid] at hvalid
      cases hvalid
    · rename_i read hvalid
      have hread := ((validateCandidate_ok).mp hvalid).1
      have hnamed : ∀ reference, sdk.configurationReference read.toJson = some reference → Usable s₁.1 reference :=
        fun reference hreference => (hmeets.candidate value read hreply hread reference hreference).later hlater
      obtain ⟨hdelivered', happlies⟩ :=
        adopt_deliverable hidentity hnamed hreceived hclosed hmeets.distinct hmeets.texts hdelivered h
      refine ⟨hdelivered', fun candidate hall hwrite hcandidate => ?_⟩
      obtain ⟨other, hother, hverify⟩ := hcandidate.body
      rw [hreply] at hother
      cases hother
      rw [hread] at hverify
      cases hverify
      exact happlies (hanswered hall).2 hwrite
  all_goals
    rename_i hreply
    refine ⟨?_, fun candidate _ _ hcandidate => by simpa [hreply] using hnothing hcandidate⟩
  case h_4 =>
    split at h
    · cases h
      exact hdelivered
    · split at h
      · cases h
        exact hdelivered
      · split at h <;> cases h <;> exact hdelivered
  all_goals
    cases h
    exact hdelivered

theorem fallBack_pending {failure : RefreshFailure} : (fallBack sdk failure w m).2.pending = m.pending := by
  unfold fallBack
  cases m.snapshot with
  | some snapshot => rfl
  | none =>
    have hload : (loadLkg sdk failure m).2.pending = m.pending := by
      unfold loadLkg
      split
      · rfl
      · rfl
      · split <;> rfl
    dsimp only
    split <;> rename_i hloaded <;> rw [hloaded] at hload <;> exact hload

theorem refresh_deliverable (hidentity : sdk.identity.Admitted) (hmeets : Acknowledgeable sdk w m s.1)
    (hpending : Deliverable digest s.1 m.pending) :
    Deliverable digest (refresh sdk (deliver digest) w m s).2.2.1 (refresh sdk (deliver digest) w m s).2.1.pending := by
  unfold refresh
  cases hattempt : attemptRefresh sdk (deliver digest) w m s with
  | mk result rest =>
    obtain ⟨m₁, s₁⟩ := rest
    have hdelivered := (attempt_deliverable hidentity hmeets hpending hattempt).1
    cases result with
    | error failure =>
      dsimp only
      rw [fallBack_pending]
      exact hdelivered
    | ok status =>
      dsimp only
      split
      · exact hdelivered
      · dsimp only
        rw [fallBack_pending]
        exact hdelivered

/-- The refresh that is answered adopts its candidate. -/
theorem refresh_applies {candidate : Snapshot} (hidentity : sdk.identity.Admitted) (hmeets : Acknowledgeable sdk w m s.1)
    (hpending : Deliverable digest s.1 m.pending) (hanswered : Answered s.2) (hwrite : w.write = .written)
    (hcandidate : Candidate sdk w m candidate) :
    (attemptRefresh sdk (deliver digest) w m s).1 = .ok .updated ∧
      (refresh sdk (deliver digest) w m s).2.1.snapshot = some candidate := by
  cases hattempt : attemptRefresh sdk (deliver digest) w m s with
  | mk result rest =>
    obtain ⟨m₁, s₁⟩ := rest
    obtain ⟨rfl, hsnapshot⟩ :=
      (attempt_deliverable hidentity hmeets hpending hattempt).2 candidate hanswered hwrite hcandidate
    obtain ⟨source, heq⟩ := refresh_after hattempt hsnapshot
    rw [heq]
    exact ⟨rfl, hsnapshot⟩

/-! ## Histories -/

theorem publish_later (service : AcknowledgementService) (row : ConfigurationRow) : Later service (service.publish row) [] := by
  unfold AcknowledgementService.publish
  split
  · exact .refl _ _
  · refine ⟨rfl, le_refl _, fun reference hknown => ?_, fun _ h => .inl h⟩
    unfold AcknowledgementService.knows at hknown ⊢
    obtain ⟨found, hfind, hfound⟩ := (Option.any_eq_true _ _).mp hknown
    -- a row that is retired keeps its version and its etag, and stays known
    rw [List.find?_append, List.find?_map]
    have hsame : (fun row : ConfigurationRow => decide (row.version = reference.configurationVersion)) ∘
        (fun other : ConfigurationRow => if other.status = .published then { other with status := .retired } else other) =
        fun row => decide (row.version = reference.configurationVersion) := by
      funext other
      simp only [Function.comp_apply]
      split <;> rfl
    rw [hsame, hfind]
    simp only [Bool.and_eq_true, Bool.or_eq_true, decide_eq_true_eq] at hfound
    simp only [Option.map_some, Option.some_or, Option.any_some]
    split <;> simp [hfound]

/-- What every occurrence of a history has to meet. -/
def Occurrence.Acknowledgeable (sdk : RefreshSdk) (state : Connected) : Occurrence → Prop
  | .refresh w _ => Runtime.Acknowledgeable sdk w state.manager state.service
  | .acknowledged row => ∀ a ∈ state.manager.pending, a.acknowledgementId ≠ row.acknowledgementId
  | .publish _ | .wait _ => True

theorem connected_deliverable {state : Connected} {occurrences : List Occurrence} (hidentity : sdk.identity.Admitted)
    (hstate : Deliverable digest state.service state.manager.pending)
    (h : (connected digest sdk).Guarded (Occurrence.Acknowledgeable sdk) state occurrences) :
    Deliverable digest ((connected digest sdk).run state occurrences).service
      ((connected digest sdk).run state occurrences).manager.pending := by
  refine Machine.guarded_invariant (m := connected digest sdk)
    (P := fun state => Deliverable digest state.service state.manager.pending) ?_ occurrences state hstate h
  intro state occurrence _ state' hdeliverable hmeets hexec
  cases occurrence with
  | refresh w deliveries =>
    cases hexec
    exact refresh_deliverable hidentity hmeets hdeliverable
  | publish row =>
    cases hexec
    exact hdeliverable.later (publish_later _ row) (by simp)
  | acknowledged row =>
    cases hexec
    have hlater : Later state.service { state.service with rows := state.service.rows ++ [row] } [row.acknowledgementId] := by
      refine ⟨rfl, le_refl _, fun _ h => h, fun other hother => ?_⟩
      rcases List.mem_append.mp hother with hold | hnew
      · exact .inl hold
      · exact .inr (by simp [List.mem_singleton.mp hnew])
    exact hdeliverable.later hlater fun a ha hsame => hmeets a ha (List.mem_singleton.mp hsame)
  | wait elapsed =>
    cases hexec
    exact hdeliverable.later ⟨rfl, by simp, fun _ h => h, fun _ h => .inl h⟩ fun _ _ => List.not_mem_nil

end Service

/-- After a history whose occurrences can all be acknowledged, the next refresh that is answered
    and can write its file applies the snapshot it gets. -/
theorem acknowledgeable_history_applies (digest : Digest) (sdk : RefreshSdk) (file : LkgFile) (service : AcknowledgementService)
    (occurrences : List Occurrence) (hidentity : sdk.identity.Admitted)
    (h : (connected digest sdk).Guarded (Occurrence.Acknowledgeable sdk) ⟨newManager file, service⟩ occurrences) :
    let state := (connected digest sdk).run ⟨newManager file, service⟩ occurrences
    ∀ w deliveries candidate, Answered deliveries → w.write = .written → Candidate sdk w state.manager candidate →
      Acknowledgeable sdk w state.manager state.service →
      (attemptRefresh sdk (deliver digest) w state.manager (state.service, deliveries)).1 = .ok .updated ∧
        (refreshed digest sdk state w deliveries).manager.snapshot = some candidate := by
  intro state w deliveries candidate hanswered hwrite hcandidate hmeets
  have hempty : Deliverable digest service (newManager file).pending := ⟨by simp [newManager], by simp [newManager]⟩
  exact refresh_applies hidentity hmeets (connected_deliverable hidentity hempty h) hanswered hwrite hcandidate

/-! ## A refused acknowledgement -/

section Refused

variable {digest : Digest} {sdk : RefreshSdk} {w : Refreshing} {m : ManagerState} {a : RuntimeAcknowledgement}
  {s : AcknowledgementService × List Delivery}

/-- The service has no such configuration, and not the acknowledgement. -/
def Unknown (service : AcknowledgementService) (a : RuntimeAcknowledgement) : Prop :=
  service.knows a.reference = false ∧ ∀ row ∈ service.rows, row.acknowledgementId ≠ a.acknowledgementId

theorem acknowledge_unknown (digest : Digest) {service : AcknowledgementService} (h : Unknown service a) :
    ∃ e, service.acknowledge digest a = (.error e, service) := by
  have hfind : service.rows.find? (·.acknowledgementId = a.acknowledgementId) = none :=
    List.find?_eq_none.mpr fun row hrow => by simpa using h.2 row hrow
  unfold AcknowledgementService.acknowledge
  rw [hfind]
  split
  · exact ⟨_, rfl⟩
  split
  · exact ⟨_, rfl⟩
  split
  · exact ⟨_, rfl⟩
  · dsimp only
    rw [if_pos (by simp [h.1])]
    exact ⟨_, rfl⟩

theorem deliver_unknown (digest : Digest) (h : Unknown s.1 a) : ∃ s', deliver digest s a = (false, s') ∧ Unknown s'.1 a := by
  obtain ⟨service, deliveries⟩ := s
  cases deliveries with
  | nil =>
    obtain ⟨e, heq⟩ := acknowledge_unknown digest h
    refine ⟨(service, []), ?_, h⟩
    unfold deliver
    dsimp only at heq ⊢
    rw [heq]
    rfl
  | cons delivery rest =>
    have hwait : Unknown { service with clock := service.clock + delivery.elapsed } a := h
    obtain ⟨e, heq⟩ := acknowledge_unknown digest hwait
    refine ⟨({ service with clock := service.clock + delivery.elapsed }, rest), ?_, hwait⟩
    unfold deliver
    dsimp only
    cases delivery.outcome <;> dsimp only <;> try rw [heq]
    all_goals rfl

/-- A queue that starts with such an acknowledgement, behind which nothing is done any more. -/
structure HeadRefused (service : AcknowledgementService) (m : ManagerState) : Prop where
  memory : m.snapshot = none
  file : m.lkg = .missing
  head : ∃ a rest, m.pending = a :: rest ∧ Unknown service a

theorem refresh_blocked (digest : Digest) (sdk : RefreshSdk) (w : Refreshing) (h : HeadRefused s.1 m) :
    (attemptRefresh sdk (deliver digest) w m s).1 = .error .acknowledgementFailed ∧
      HeadRefused (refresh sdk (deliver digest) w m s).2.2.1 (refresh sdk (deliver digest) w m s).2.1 := by
  obtain ⟨a, rest, hpending, hunknown⟩ := h.head
  obtain ⟨s', hdeliver, hunknown'⟩ := deliver_unknown digest hunknown
  have hflush : flush (deliver digest) s m m.pending = (false, m, s') := by
    rw [hpending]
    unfold flush
    rw [hdeliver]
    dsimp only
    rw [← hpending]
  have hattempt : attemptRefresh sdk (deliver digest) w m s = (.error .acknowledgementFailed, m, s') := by
    unfold attemptRefresh
    rw [hflush]
  have hfallback : fallBack sdk .acknowledgementFailed w m = (.error .acknowledgementFailed, m) := by
    unfold fallBack loadLkg
    rw [h.memory, h.file]
  unfold refresh
  rw [hattempt]
  dsimp only
  rw [hfallback]
  exact ⟨rfl, h.memory, h.file, a, rest, hpending, hunknown'⟩

/-- A body that is no snapshot and names a configuration has its rejection posted, and kept when that fails. -/
theorem attempt_rejected {value : Value} {e : IntegrityError} {reference : ConfigurationReference} {text : String}
    (hreply : w.reply = .body value) (hverify : sdk.verify value = .error e)
    (hreference : sdk.configurationReference value = some reference)
    (hcut : (sdk.cut (w.message (.unverified e))).filter (bounded 1 500) = some text)
    {s' : AcknowledgementService × List Delivery}
    (hdeliver : deliver digest s ⟨reference, w.closedId, w.closedAt, sdk.identity, .rejected, none, some text⟩ = (false, s')) :
    attemptRefresh sdk (deliver digest) w (newManager .missing) s = (.error (.unverified e),
      { newManager .missing with
        pending := [⟨reference, w.closedId, w.closedAt, sdk.identity, .rejected, none, some text⟩] }, s') := by
  have hqueue : runtimeAcknowledgements sdk value .rejected w.closedAt w.closedId (some (w.message (.unverified e))) =
      .ok [⟨reference, w.closedId, w.closedAt, sdk.identity, .rejected, none, some text⟩] := by
    simp [runtimeAcknowledgements, hreference, hcut]
  simp [attemptRefresh, newManager, flush, hreply, validateCandidate, hverify, reject, queueAndFlush, hqueue, hdeliver]

/-- The configuration is one the service does not know. -/
theorem refreshed_corrupted {service : AcknowledgementService} {deliveries : List Delivery} {value : Value}
    {e : IntegrityError} {reference : ConfigurationReference} {text : String}
    (hreply : w.reply = .body value) (hverify : sdk.verify value = .error e)
    (hreference : sdk.configurationReference value = some reference)
    (hcut : (sdk.cut (w.message (.unverified e))).filter (bounded 1 500) = some text)
    (hunknown : service.knows reference = false) (hrows : service.rows = []) :
    HeadRefused (refreshed digest sdk ⟨newManager .missing, service⟩ w deliveries).service
      (refreshed digest sdk ⟨newManager .missing, service⟩ w deliveries).manager := by
  have hrefused : Unknown service ⟨reference, w.closedId, w.closedAt, sdk.identity, .rejected, none, some text⟩ :=
    ⟨hunknown, by simp [hrows]⟩
  obtain ⟨s', hdeliver, hunknown'⟩ := @deliver_unknown _ (service, deliveries) digest hrefused
  unfold refreshed refresh
  dsimp only
  rw [attempt_rejected hreply hverify hreference hcut hdeliver]
  exact ⟨rfl, rfl, _, [], rfl, hunknown'⟩

theorem connected_refresh (state : Connected) (w : Refreshing) (deliveries : List Delivery) :
    (connected digest sdk).step state (.refresh w deliveries) = refreshed digest sdk state w deliveries := rfl

theorem refused_forever (digest : Digest) (sdk : RefreshSdk) {state : Connected} (h : HeadRefused state.service state.manager)
    (later : List (Refreshing × List Delivery)) :
    HeadRefused ((connected digest sdk).run state (later.map fun next => .refresh next.1 next.2)).service
      ((connected digest sdk).run state (later.map fun next => .refresh next.1 next.2)).manager := by
  induction later generalizing state with
  | nil => exact h
  | cons next rest ih =>
    rw [List.map_cons, Machine.run_cons]
    exact ih (@refresh_blocked _ (state.service, next.2) digest sdk next.1 h).2

end Refused

/-! ## Histories of the published configuration -/

def publishedEtag : String := "sha256:247c768e05de00a79471fb906b95ade09a3ee6b2004ed47ba3a20db7ed300c6f"

def publishedReference : ConfigurationReference := ⟨assistantInput.application.id, 1, publishedEtag⟩

/-- It names a version, and is no snapshot. -/
def unsignedBodyOf (version : Nat) : Value :=
  .obj [("application_id", .str assistantInput.application.id), ("etag", .str publishedEtag),
    ("routing", .obj [("assistant", .obj [("configuration_version", integer version)])])]

def corruptedBody : Value := unsignedBodyOf 99

def unsignedBody : Value := unsignedBodyOf 1

/-- What is evaluated of the published version, of what names version 99, and of what is sent of them. -/
structure PublishedFacts : Prop where
  application : uuidPattern assistantInput.application.id = true
  patterns : sdkUuidPattern assistantInput.application.id = true ∧ sha256FingerprintPattern publishedEtag = true
  read : integerSchema 1 maxSafeInteger (integer (1 : Nat)) = some 1
  ids : contractIdPattern (unreached 0).receivedId = true ∧ contractIdPattern (unreached 0).closedId = true
  distinct : (unreached 0).receivedId ≠ (unreached 0).closedId
  rejectedIds : (contractIdPattern "01J00000000000000000000003" = true ∧ contractIdPattern "01J00000000000000000000004" = true) ∧
    "01J00000000000000000000003" ≠ "01J00000000000000000000004" ∧
    (unreached 0).receivedId ∉ ["01J00000000000000000000004"] ∧ (unreached 0).closedId ∉ ["01J00000000000000000000004"]
  written : writable 0 = true
  cut : Node.cut "failed" = some "failed" ∧ bounded 1 500 "failed" = true ∧ '\x00' ∉ "failed".toList
  admitted : (assistantNode .failOpen).identity.Admitted
  invalid : (verifyRuntimeSnapshot assistantDigest gatewayUrl corruptedBody).isOk = false
  named : Node.configurationReferences corruptedBody = some ⟨assistantInput.application.id, 99, publishedEtag⟩
  unsigned : (verifyRuntimeSnapshot assistantDigest gatewayUrl unsignedBody).isOk = false
  known : Node.configurationReferences unsignedBody = some publishedReference

theorem published_facts : PublishedFacts where
  application := by decide +kernel
  patterns := by decide +kernel
  read := by decide +kernel
  ids := by decide +kernel
  distinct := by decide +kernel
  rejectedIds := by decide +kernel
  written := by decide +kernel
  cut := by decide +kernel
  admitted := by constructor <;> decide +kernel
  invalid := by decide +kernel
  named := by decide +kernel
  unsigned := by decide +kernel
  known := by decide +kernel

def publishedService : AcknowledgementService where
  applicationId := assistantInput.application.id
  configurations := [⟨1, publishedEtag, .published, by decide, (published_facts).patterns.2⟩]
  rows := []
  clock := 0
  uuid := (published_facts).application

theorem published_usable : Usable publishedService publishedReference :=
  ⟨rfl, by simp [AcknowledgementService.knows, publishedService, publishedReference]⟩

theorem assistant_reference {snapshot : Snapshot}
    (h : buildRuntimePublication assistantDigest gatewayUrl assistantInput = .ok snapshot) :
    Node.configurationReferences snapshot.toJson = some publishedReference := by
  have hetag : snapshot.etag = publishedEtag := by
    have hall := assistantInput_etag
    rw [h] at hall
    exact Option.some.inj hall
  obtain ⟨entry, hrouting, hplanned⟩ : ∃ entry, snapshot.routing = [entry] ∧
      PlannedAs assistantDigest assistantInput assistantRow entry.2 := by
    have hall := buildRouting_ok (published_routing h)
    obtain ⟨entry, rest, hplanned, hrest, hrouting⟩ := List.forall₂_cons_left_iff.mp hall
    rw [List.forall₂_nil_left_iff] at hrest
    exact ⟨entry, by rw [hrouting, hrest], hplanned.2⟩
  have hversion : entry.2.configurationVersion = 1 := by
    rw [hplanned.rest]
    rfl
  obtain ⟨routing, -, hstamped⟩ := published_stamped h
  have happlication : snapshot.applicationId = assistantInput.application.id := by
    rw [hstamped]
    rfl
  rw [configurationReferences_toJson, hrouting, List.filterMap_cons, hversion, (published_facts).read, List.filterMap_nil]
  have hdedup : ([1] : List Int).dedup = [1] := by decide
  simp [referenceOf, fieldOf, Snapshot.toJson, UnsignedSnapshot.fields, List.lookup_cons, happlication, hetag, (published_facts).patterns,
    hdedup,
    publishedReference]

theorem assistantNode_cut : (assistantNode .failOpen).cut = Node.cut := rfl

/-- What is sent of the text of every error is that text. -/
theorem failed_cut (failMode : FailMode) : ((assistantNode failMode).cut "failed").filter (bounded 1 500) = some "failed" := by
  show (Node.cut "failed").filter (bounded 1 500) = some "failed"
  rw [(published_facts).cut.1]
  simp [Option.filter, (published_facts).cut.2.1]

/-- A client of `publishedService` that holds nothing, what of its acknowledgements is queued or
    answered having these ids. -/
structure Since (ids : List String) (state : Connected) : Prop where
  memory : state.manager.snapshot = none
  file : state.manager.lkg = .missing
  queued : ∀ a ∈ state.manager.pending, a.acknowledgementId ∈ ids
  later : Later publishedService state.service ids

theorem since_new : Since [] ⟨newManager .missing, publishedService⟩ :=
  ⟨rfl, rfl, by simp [newManager], .refl _ _⟩

theorem Since.drawn {ids : List String} {state : Connected} (h : Since ids state) {id : String}
    (hid : contractIdPattern id = true) (hfresh : id ∉ ids) : Drawn state.service state.manager.pending id 0 where
  contract := hid
  unused := by
    refine ⟨fun row hrow hsame => ?_, fun a ha hsame => hfresh (hsame ▸ h.queued a ha)⟩
    rcases h.later.rows row hrow with hold | hnew
    · simp [publishedService] at hold
    · exact hfresh (hsame ▸ hnew)
  written := (published_facts).written
  clock := by
    have hclock : (0 : Int) ≤ state.service.clock := h.later.clock
    omega

/-- A refresh at time 0 that draws new ids, of whose bodies none names another configuration. -/
theorem Since.acknowledgeable {ids : List String} {state : Connected} (h : Since ids state) {w : Refreshing}
    (htime : w.receivedAt = 0 ∧ w.closedAt = 0) (hmessage : ∀ failure, w.message failure = "failed")
    (hids : contractIdPattern w.receivedId = true ∧ contractIdPattern w.closedId = true)
    (hfresh : w.receivedId ∉ ids ∧ w.closedId ∉ ids) (hdistinct : w.receivedId ≠ w.closedId)
    (hnamed : ∀ value, w.reply = .body value → Node.configurationReferences value = some publishedReference ∧
      ∀ candidate, (assistantNode .failOpen).verify value = .ok candidate →
        Node.configurationReferences candidate.toJson = some publishedReference) :
    Acknowledgeable (assistantNode .failOpen) w state.manager state.service := by
  have husable : ∀ value, Node.configurationReferences value = some publishedReference →
      ∀ reference, (assistantNode .failOpen).configurationReference value = some reference → Usable state.service reference := by
    intro value hvalue reference hreference
    rw [← Option.some.inj (hvalue.symm.trans hreference)]
    exact published_usable.later h.later
  refine ⟨fun value hbody => husable value (hnamed value hbody).1,
    fun value candidate hbody hverify => husable _ ((hnamed value hbody).2 candidate hverify), ?_, ?_, hdistinct, ?_⟩
  · rw [htime.1]
    exact h.drawn hids.1 hfresh.1
  · rw [htime.2]
    exact h.drawn hids.2 hfresh.2
  · intro failure text htext
    have hcut : Node.cut "failed" = some "failed" := (published_facts).cut.1
    rw [hmessage, Option.bind_some, assistantNode_cut] at htext
    rw [← Option.some.inj (hcut.symm.trans htext)]
    exact (published_facts).cut.2.2

/-- What the published snapshot is to the client, and to the service. -/
theorem returning_candidate : ∃ snapshot, (assistantNode .failOpen).verify snapshot.toJson = .ok snapshot ∧
    Node.configurationReferences snapshot.toJson = some publishedReference ∧
    ∀ m : ManagerState, m.snapshot = none → Candidate (assistantNode .failOpen) (returning snapshot) m snapshot := by
  obtain ⟨-, snapshot, hpublished, hverified⟩ := assistant_identified
  have hboth : Node.configurationReferences snapshot.toJson = some publishedReference ∧ Node.expired snapshot 0 = false := by
    refine ⟨assistant_reference hpublished, ?_⟩
    rw [assistant_expires hpublished]
    decide
  have hverify : (assistantNode .failOpen).verify snapshot.toJson = .ok snapshot := hverified _ rfl
  refine ⟨snapshot, hverify, hboth.1, fun m hempty => ⟨⟨_, rfl, hverify⟩, hboth.2, fun current hcurrent => ?_⟩⟩
  rw [hempty] at hcurrent
  cases hcurrent

/-- It gets a body that names the published configuration and is no snapshot. -/
def rejected : Refreshing :=
  { unreached 0 with
    reply := .body unsignedBody
    receivedId := "01J00000000000000000000003"
    closedId := "01J00000000000000000000004" }

/-- What the client posts to reject it. -/
def rejection : RuntimeAcknowledgement :=
  ⟨publishedReference, rejected.closedId, 0, (assistantNode .failOpen).identity, .rejected, none, some "failed"⟩

/-- The request is lost, so that the rejection stays at the head of the queue. -/
theorem rejected_queued :
    refreshed assistantDigest (assistantNode .failOpen) ⟨newManager .missing, publishedService⟩ rejected [⟨1000, .unreached⟩] =
      ⟨{ newManager .missing with pending := [rejection] }, { publishedService with clock := 1000 }⟩ := by
  have hinvalid := (published_facts).unsigned
  cases hverify : (assistantNode .failOpen).verify unsignedBody with
  | ok snapshot =>
    rw [show verifyRuntimeSnapshot assistantDigest gatewayUrl unsignedBody = .ok snapshot from hverify] at hinvalid
    cases hinvalid
  | error e =>
    have hattempt := @attempt_rejected assistantDigest (assistantNode .failOpen) rejected
      (publishedService, [⟨1000, .unreached⟩]) unsignedBody e publishedReference "failed" rfl hverify
      (published_facts).known (failed_cut _) ({ publishedService with clock := 1000 }, []) rfl
    unfold refreshed refresh
    dsimp only
    rw [hattempt]
    rfl

theorem since_rejected : Since [rejected.closedId]
    ⟨{ newManager .missing with pending := [rejection] }, { publishedService with clock := 1000 }⟩ := by
  refine ⟨rfl, rfl, fun a ha => ?_, ⟨rfl, ?_, fun _ h => h, fun _ h => .inl h⟩⟩
  · rw [List.mem_singleton.mp ha]
    exact List.mem_singleton_self _
  · show (0 : Int) ≤ 1000
    decide

/-- A refresh that is answered and reaches no snapshot posts the queue. -/
theorem Since.posted {ids : List String} {state : Connected} (h : Since ids state) (now : Int)
    (hdeliverable : Deliverable assistantDigest state.service state.manager.pending) {deliveries : List Delivery}
    (hanswered : Answered deliveries) :
    Since ids (refreshed assistantDigest (assistantNode .failOpen) state (unreached now) deliveries) ∧
      (∀ a ∈ state.manager.pending,
        a ∈ (refreshed assistantDigest (assistantNode .failOpen) state (unreached now) deliveries).manager.accepted) ∧
      (refreshed assistantDigest (assistantNode .failOpen) state (unreached now) deliveries).manager.pending = [] := by
  cases hflush : flush (deliver assistantDigest) (state.service, deliveries) state.manager state.manager.pending with
  | mk sent rest =>
    obtain ⟨m', s'⟩ := rest
    obtain ⟨hlater, -, hall⟩ := flush_delivers hdeliverable hflush
    obtain ⟨hkept, hsent, -⟩ := flush_kept hflush
    obtain ⟨rfl, -⟩ := hall hanswered
    obtain ⟨hpending, haccepted⟩ := hsent rfl
    have hmemory := hkept.snapshot.trans h.memory
    have hfile := hkept.lkg.trans h.file
    have hafter : refreshed assistantDigest (assistantNode .failOpen) state (unreached now) deliveries = ⟨m', s'.1⟩ := by
      simp [refreshed, refresh, attemptRefresh, hflush, unreached, fallBack, loadLkg, hmemory, hfile]
    rw [hafter]
    refine ⟨⟨hmemory, hfile, ?_, ?_⟩, haccepted, hpending⟩
    · show ∀ a ∈ m'.pending, _
      simp [hpending]
    · have hboth := h.later.trans hlater
      refine ⟨hboth.application, hboth.clock, hboth.known, fun row hrow => ?_⟩
      rcases hboth.rows row hrow with hold | hnew
      · exact .inl hold
      · rcases List.mem_append.mp hnew with hids | hqueue
        · exact .inr hids
        · obtain ⟨a, ha, hid⟩ := List.mem_map.mp hqueue
          exact .inr (hid ▸ h.queued a ha)

/-- The client queues the rejection of a body, posts it with a refresh that reaches no snapshot,
    and then applies the published one. -/
theorem rejected_history_applies : ∃ snapshot,
    let state := (connected assistantDigest (assistantNode .failOpen)).run ⟨newManager .missing, publishedService⟩
      [.refresh rejected [⟨1000, .unreached⟩], .refresh (unreached 0) []]
    rejection ∈ state.manager.accepted ∧ state.manager.pending = [] ∧
      (refreshed assistantDigest (assistantNode .failOpen) state (returning snapshot) []).manager.snapshot = some snapshot := by
  obtain ⟨snapshot, hverify, hreference, hcandidate⟩ := returning_candidate
  have hidentity := (published_facts).admitted
  have hids := (published_facts).ids
  have hdistinct := (published_facts).distinct
  -- the rejected body names the published configuration
  have hrejected : Acknowledgeable (assistantNode .failOpen) rejected (newManager .missing) publishedService := by
    refine since_new.acknowledgeable ⟨rfl, rfl⟩ (fun _ => rfl) (published_facts).rejectedIds.1 (by simp)
      (published_facts).rejectedIds.2.1 ?_
    rintro _ ⟨⟩
    refine ⟨(published_facts).known, fun candidate hcandidate => ?_⟩
    have hinvalid := (published_facts).unsigned
    rw [show verifyRuntimeSnapshot assistantDigest gatewayUrl unsignedBody = .ok candidate from hcandidate] at hinvalid
    cases hinvalid
  have hqueued : Deliverable assistantDigest
      (refreshed assistantDigest (assistantNode .failOpen) ⟨newManager .missing, publishedService⟩ rejected [⟨1000, .unreached⟩]).service
      (refreshed assistantDigest (assistantNode .failOpen) ⟨newManager .missing, publishedService⟩ rejected
        [⟨1000, .unreached⟩]).manager.pending :=
    refresh_deliverable (s := (publishedService, [⟨1000, .unreached⟩])) hidentity hrejected
      ⟨by simp [newManager], by simp [newManager]⟩
  rw [rejected_queued] at hqueued
  have hanswered : Answered [] := by simp [Answered]
  have hnamed : ∀ value, (returning snapshot).reply = .body value →
      Node.configurationReferences value = some publishedReference ∧ ∀ candidate,
        (assistantNode .failOpen).verify value = .ok candidate →
        Node.configurationReferences candidate.toJson = some publishedReference := by
    rintro _ ⟨⟩
    refine ⟨hreference, fun candidate hcandidate => ?_⟩
    rw [Except.ok.inj (hcandidate.symm.trans hverify)]
    exact hreference
  have hunreached := since_rejected.acknowledgeable (w := unreached 0) ⟨rfl, rfl⟩ (fun _ => rfl) hids
    (published_facts).rejectedIds.2.2 hdistinct (fun value hvalue => by cases hvalue)
  obtain ⟨hsince, haccepted, hpending⟩ := since_rejected.posted 0 hqueued hanswered
  have hreturning := hsince.acknowledgeable (w := returning snapshot) ⟨rfl, rfl⟩ (fun _ => rfl) hids
    (published_facts).rejectedIds.2.2 hdistinct hnamed
  have hrun : (connected assistantDigest (assistantNode .failOpen)).run ⟨newManager .missing, publishedService⟩
      [.refresh rejected [⟨1000, .unreached⟩], .refresh (unreached 0) []] =
      refreshed assistantDigest (assistantNode .failOpen)
        ⟨{ newManager .missing with pending := [rejection] }, { publishedService with clock := 1000 }⟩ (unreached 0) [] := by
    rw [Machine.run_cons, Machine.run_cons, Machine.run_nil, connected_refresh, connected_refresh, rejected_queued]
  have hguarded : (connected assistantDigest (assistantNode .failOpen)).Guarded (Occurrence.Acknowledgeable (assistantNode .failOpen))
      ⟨newManager .missing, publishedService⟩ [.refresh rejected [⟨1000, .unreached⟩], .refresh (unreached 0) []] := by
    refine ⟨hrejected, ?_⟩
    rw [connected_refresh, rejected_queued]
    exact ⟨hunreached, trivial⟩
  have happlies := acknowledgeable_history_applies assistantDigest (assistantNode .failOpen) .missing publishedService
    [.refresh rejected [⟨1000, .unreached⟩], .refresh (unreached 0) []] hidentity hguarded
  refine ⟨snapshot, ?_⟩
  dsimp only at happlies ⊢
  rw [hrun] at happlies ⊢
  exact ⟨haccepted rejection (by simp), hpending,
    (happlies (returning snapshot) [] snapshot hanswered rfl (hcandidate _ hsince.memory) hreturning).2⟩

def corrupted : Refreshing := { unreached 0 with reply := .body corruptedBody }

theorem corrupted_blocks : HeadRefused
    (refreshed assistantDigest (assistantNode .failOpen) ⟨newManager .missing, publishedService⟩ corrupted []).service
    (refreshed assistantDigest (assistantNode .failOpen) ⟨newManager .missing, publishedService⟩ corrupted []).manager := by
  have hinvalid := (published_facts).invalid
  cases hverify : (assistantNode .failOpen).verify corruptedBody with
  | ok snapshot =>
    rw [show verifyRuntimeSnapshot assistantDigest gatewayUrl corruptedBody = .ok snapshot from hverify] at hinvalid
    cases hinvalid
  | error e =>
    have hunknown : publishedService.knows ⟨assistantInput.application.id, 99, publishedEtag⟩ = false := rfl
    exact refreshed_corrupted rfl hverify (published_facts).named (failed_cut _) hunknown rfl

/-- The published snapshot is never applied after it, however often it is returned and the service
    answers. -/
theorem corrupted_body_blocks : ∃ snapshot, ∀ later : List (Refreshing × List Delivery),
    let state := (connected assistantDigest (assistantNode .failOpen)).run ⟨newManager .missing, publishedService⟩
      (.refresh corrupted [] :: later.map fun next => .refresh next.1 next.2)
    Candidate (assistantNode .failOpen) (returning snapshot) state.manager snapshot ∧
      Usable publishedService publishedReference ∧
      Node.configurationReferences snapshot.toJson = some publishedReference ∧
      (attemptRefresh (assistantNode .failOpen) (deliver assistantDigest) (returning snapshot) state.manager
        (state.service, [])).1 = .error .acknowledgementFailed ∧
      (refreshed assistantDigest (assistantNode .failOpen) state (returning snapshot) []).manager.snapshot = none := by
  obtain ⟨snapshot, -, hreference, hcandidate⟩ := returning_candidate
  refine ⟨snapshot, fun later => ?_⟩
  have hafter := refused_forever assistantDigest (assistantNode .failOpen) corrupted_blocks later
  rw [Machine.run_cons, connected_refresh]
  dsimp only
  generalize (connected assistantDigest (assistantNode .failOpen)).run
    (refreshed assistantDigest (assistantNode .failOpen) ⟨newManager .missing, publishedService⟩ corrupted [])
    (later.map fun next => .refresh next.1 next.2) = state at hafter ⊢
  have hnext := @refresh_blocked _ (state.service, []) assistantDigest (assistantNode .failOpen) (returning snapshot) hafter
  exact ⟨hcandidate _ hafter.memory, published_usable, hreference, hnext.1, hnext.2.memory⟩

end TokenPilot.Runtime
