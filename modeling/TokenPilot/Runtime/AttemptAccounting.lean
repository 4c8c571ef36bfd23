/-
  TokenPilot.Runtime.AttemptAccounting — what a chat call reports, settles and releases.

  The attempts of a call are the tries of a plan: for each target in order whose credential
  resolves, one slot for each attempt that its connection allows (`slots`). The loops of the
  clients make them until one does not fail retryably (`attemptTargets_spec`). A slot knows
  whether it is the last of the last target, which is all that finality is decided from.
-/

import TokenPilot.Library.Retry
import TokenPilot.Runtime.ChatEvents

namespace TokenPilot.Runtime

open Library

/-! ## Outcomes and slots -/

/-- The call goes on after it. -/
def ProviderOutcome.retries : ProviderOutcome → Bool
  | .failure error => error.retryable
  | _ => false

def ProviderOutcome.status : ProviderOutcome → AttemptStatus
  | .success _ => .success
  | .cancelled _ => .cancelled
  | .failure error => error.kind

def ProviderOutcome.httpStatus : ProviderOutcome → Option Nat
  | .success status | .cancelled status => some status
  | .failure error => error.status

/-- One attempt that a call may make. -/
structure Slot where
  target : RouteTarget
  prior : Option RouteTarget
  connection : Connection
  last : Bool

def targetSlots (prior : Option RouteTarget) (target : RouteTarget) (connection : Connection) (last : Bool) :
    Nat → List Slot
  | 0 => []
  | remaining + 1 =>
    { target, prior, connection, last := last && remaining = 0 } :: targetSlots prior target connection last remaining

def slots (snapshot : Snapshot) (credential : Connection → Except String String) (prior : Option RouteTarget) :
    List RouteTarget → List Slot
  | [] => []
  | target :: rest =>
    match snapshot.connections.lookup target.connectionId with
    | none => []
    | some connection =>
      (match credential connection with
        | .error _ => []
        | .ok _ => targetSlots prior target connection rest.isEmpty (connection.maxRetries + 1)) ++
        slots snapshot credential (some target) rest

/-! ## The loops -/

section Loops

variable (mode : ChatMode) (provider : Nat → RouteTarget → Connection → ProviderOutcome)
  (token : Option ReservationToken)

/-- What the provider answers to a slot. -/
def answer (index : Nat) (slot : Slot) : ProviderOutcome := provider index slot.target slot.connection

def Slot.attempt (index : Nat) (slot : Slot) (outcome : ProviderOutcome) : ChatAttempt where
  attemptIndex := index
  target := slot.target
  prior := slot.prior
  connection := slot.connection
  status := outcome.status
  httpStatus := outcome.httpStatus
  final := !outcome.retries || slot.last
  reservationId := token.map (·.id)

def attemptOf (t : Nat × Slot × ProviderOutcome) : ChatAttempt := t.2.1.attempt token t.1 t.2.2

def callOf (t : Nat × Slot × ProviderOutcome) : Effect := .provider t.1 t.2.1.target t.2.1.connection

/-- How a call ends that made these tries. -/
def ended (tries : List (Nat × Slot × ProviderOutcome)) : Ended :=
  match tries.getLast? with
  | some (_, slot, .success _) => .succeeded slot.target slot.connection
  | some (_, _, .cancelled _) => .cancelled
  | _ => .exhausted

theorem ended_failure {t : Nat × Slot × ProviderOutcome} {error : ProviderFailure} (h : t.2.2 = .failure error)
    (tries : List (Nat × Slot × ProviderOutcome)) : ended (t :: tries) = ended tries := by
  cases tries with
  | nil =>
    obtain ⟨index, slot, outcome⟩ := t
    cases h
    rfl
  | cons next rest => simp only [ended, List.getLast?_cons_cons]

theorem ended_append {tries : List (Nat × Slot × ProviderOutcome)} (h : ∀ t ∈ tries, t.2.2.retries = true)
    (more : List (Nat × Slot × ProviderOutcome)) : ended (tries ++ more) = ended more := by
  induction tries with
  | nil => rfl
  | cons t tries ih =>
    have hfailure : ∃ error, t.2.2 = .failure error := by
      have ht := h t List.mem_cons_self
      cases houtcome : t.2.2 with
      | failure error => exact ⟨error, rfl⟩
      | success status => simp [houtcome, ProviderOutcome.retries] at ht
      | cancelled status => simp [houtcome, ProviderOutcome.retries] at ht
    obtain ⟨error, herror⟩ := hfailure
    rw [List.cons_append, ended_failure herror]
    exact ih fun other hmem => h other (List.mem_cons_of_mem _ hmem)

/-- The error a loop remembers lets it go on. -/
def Progress.GoesOn (progress : Progress) : Prop := progress.lastError.all (·.retryable) = true

/-- What a loop has done that stands at `progress` and makes the tries of a plan. -/
structure Made (plan : List Slot) (progress : Progress) (result : Ended × Progress) : Prop where
  attempts : result.2.attempts =
    progress.attempts ++ (attempted (answer provider) (·.retries) progress.attemptIndex plan).map (attemptOf token)
  effects : result.2.effects =
    progress.effects ++ (attempted (answer provider) (·.retries) progress.attemptIndex plan).map callOf
  ended : result.1 = ended (attempted (answer provider) (·.retries) progress.attemptIndex plan)
  undecided : Undecided (answer provider) (·.retries) progress.attemptIndex plan →
    result.2.attemptIndex = progress.attemptIndex + plan.length ∧ (progress.GoesOn → result.2.GoesOn)
  decided : ¬Undecided (answer provider) (·.retries) progress.attemptIndex plan → result.1 = .exhausted →
    ¬result.2.GoesOn

section Made

variable {provider} {token} {slot : Slot} {plan : List Slot} {progress : Progress} {result : Ended × Progress}

/-- A slot that decides ends the loop. -/
theorem made_decisive {outcome : ProviderOutcome} (hanswer : answer provider progress.attemptIndex slot = outcome)
    (hdecides : outcome.retries = false)
    (hattempts : result.2.attempts = progress.attempts ++ [slot.attempt token progress.attemptIndex outcome])
    (heffects : result.2.effects =
      progress.effects ++ [.provider progress.attemptIndex slot.target slot.connection])
    (hended : result.1 = ended [(progress.attemptIndex, slot, outcome)])
    (hgoes : result.1 = .exhausted → ¬result.2.GoesOn) : Made provider token (slot :: plan) progress result := by
  have htries : attempted (answer provider) (·.retries) progress.attemptIndex (slot :: plan) =
      [(progress.attemptIndex, slot, outcome)] := by
    simp [attempted, hanswer, hdecides]
  refine ⟨by rw [htries, hattempts]; rfl, by rw [htries, heffects]; rfl, by rw [htries, hended], fun h => ?_, fun _ => hgoes⟩
  have hretries := (undecided_cons.mp h).1
  rw [hanswer, hdecides] at hretries
  cases hretries

/-- After a slot that may be retried the loop goes on with the rest. -/
theorem made_next {error : ProviderFailure} {next : Progress}
    (hanswer : answer provider progress.attemptIndex slot = .failure error) (hretryable : error.retryable = true)
    (hattempts : next.attempts = progress.attempts ++ [slot.attempt token progress.attemptIndex (.failure error)])
    (heffects : next.effects = progress.effects ++ [.provider progress.attemptIndex slot.target slot.connection])
    (hindex : next.attemptIndex = progress.attemptIndex + 1) (hgoes : next.GoesOn)
    (h : Made provider token plan next result) : Made provider token (slot :: plan) progress result := by
  have htries : attempted (answer provider) (·.retries) progress.attemptIndex (slot :: plan) =
      (progress.attemptIndex, slot, .failure error) ::
        attempted (answer provider) (·.retries) next.attemptIndex plan := by
    simp [attempted, hanswer, hindex, ProviderOutcome.retries, hretryable]
  have hundecided : Undecided (answer provider) (·.retries) progress.attemptIndex (slot :: plan) ↔
      Undecided (answer provider) (·.retries) next.attemptIndex plan := by
    rw [undecided_cons, hanswer, hindex]
    simp [ProviderOutcome.retries, hretryable]
  constructor
  · rw [htries, h.attempts, hattempts, List.append_assoc]
    rfl
  · rw [htries, h.effects, heffects, List.append_assoc]
    rfl
  · rw [htries, ended_failure rfl, h.ended]
  · rw [hundecided]
    intro hplan
    obtain ⟨hcount, hon⟩ := h.undecided hplan
    refine ⟨?_, fun _ => hon hgoes⟩
    rw [hcount, hindex, List.length_cons]
    omega
  · rw [hundecided]
    exact h.decided

/-- A plan that decides leaves what follows it alone. -/
theorem Made.stop (h : Made provider token plan progress result)
    (hdecided : ¬Undecided (answer provider) (·.retries) progress.attemptIndex plan) (more : List Slot) :
    Made provider token (plan ++ more) progress result := by
  have htries := (attempted_append progress.attemptIndex plan more).2 hdecided
  have hmore : ¬Undecided (answer provider) (·.retries) progress.attemptIndex (plan ++ more) := by
    refine fun hall => hdecided fun k slot hslot => hall k slot ?_
    rw [List.getElem?_append_left (List.getElem?_eq_some_iff.mp hslot).1, hslot]
  exact ⟨by rw [htries, h.attempts], by rw [htries, h.effects], by rw [htries, h.ended], fun hall => absurd hall hmore,
    fun _ => h.decided hdecided⟩

/-- A plan that decides nothing is followed by the next. -/
theorem Made.andThen {more : List Slot} {later : Ended × Progress} (h : Made provider token plan progress result)
    (hundecided : Undecided (answer provider) (·.retries) progress.attemptIndex plan)
    (hlater : Made provider token more result.2 later) (hgoes : progress.GoesOn) :
    Made provider token (plan ++ more) progress later := by
  obtain ⟨hcount, hon⟩ := h.undecided hundecided
  have htries := (attempted_append progress.attemptIndex plan more).1 hundecided
  have hall := (attempted_undecided hundecided).2
  have hboth : Undecided (answer provider) (·.retries) progress.attemptIndex (plan ++ more) ↔
      Undecided (answer provider) (·.retries) result.2.attemptIndex more := by
    rw [hcount]
    constructor
    · intro h k slot hslot
      have hnext := h (plan.length + k) slot (by rw [List.getElem?_append_right (by omega)]; simpa using hslot)
      rwa [← Nat.add_assoc] at hnext
    · intro h k slot hslot
      by_cases hk : k < plan.length
      · exact hundecided k slot (by rwa [List.getElem?_append_left hk] at hslot)
      · rw [List.getElem?_append_right (by omega)] at hslot
        have hnext := h (k - plan.length) slot hslot
        rwa [Nat.add_assoc, Nat.add_sub_cancel' (by omega)] at hnext
  constructor
  · rw [htries, hlater.attempts, h.attempts, hcount, List.map_append, List.append_assoc]
  · rw [htries, hlater.effects, h.effects, hcount, List.map_append, List.append_assoc]
  · rw [htries, ended_append hall, hlater.ended, hcount]
  · rw [hboth]
    intro hmore
    obtain ⟨hmoreCount, hmoreOn⟩ := hlater.undecided hmore
    refine ⟨?_, fun _ => hmoreOn (hon hgoes)⟩
    rw [hmoreCount, hcount, List.length_append]
    omega
  · rw [hboth]
    exact hlater.decided

/-- Nothing is made of no plan. -/
theorem made_nil (hattempts : result.2.attempts = progress.attempts) (heffects : result.2.effects = progress.effects)
    (hindex : result.2.attemptIndex = progress.attemptIndex) (hended : result.1 = .exhausted) (hgoes : result.2.GoesOn) :
    Made provider token [] progress result :=
  ⟨by simp [attempted, hattempts], by simp [attempted, heffects], hended, fun _ => ⟨hindex, fun _ => hgoes⟩,
    fun h => absurd (by simp [Undecided]) h⟩

end Made

theorem attemptConnection_spec (prior : Option RouteTarget) (target : RouteTarget) (connection : Connection) (last : Bool)
    (remaining : Nat) (progress : Progress) (hgoes : progress.GoesOn) :
    Made provider token (targetSlots prior target connection last remaining) progress
      (attemptConnection provider token prior target connection last remaining progress) := by
  induction remaining generalizing progress with
  | zero => exact made_nil rfl rfl rfl rfl hgoes
  | succ remaining ih =>
    obtain ⟨slot, hslot⟩ : ∃ slot : Slot, slot = { target, prior, connection, last := last && remaining = 0 } := ⟨_, rfl⟩
    have hplan : targetSlots prior target connection last (remaining + 1) =
        slot :: targetSlots prior target connection last remaining := by
      rw [hslot]
      rfl
    have hanswer : answer provider progress.attemptIndex slot = provider progress.attemptIndex target connection := by
      rw [hslot]
      rfl
    rw [hplan]
    unfold attemptConnection
    cases houtcome : provider progress.attemptIndex target connection with
    | success status =>
      refine made_decisive (hanswer.trans houtcome) rfl ?_ ?_ ?_ (by simp)
      · rw [hslot]
        rfl
      · rw [hslot]
      · rw [hslot]
        rfl
    | cancelled status =>
      refine made_decisive (hanswer.trans houtcome) rfl ?_ ?_ ?_ (by simp)
      · rw [hslot]
        rfl
      · rw [hslot]
      · rfl
    | failure error =>
      by_cases hretryable : error.retryable = true
      · simp only [hretryable, if_true]
        refine made_next (hanswer.trans houtcome) hretryable ?_ ?_ rfl ?_ (ih _ ?_)
        · rw [hslot]
          simp [Slot.attempt, ProviderOutcome.retries, ProviderOutcome.status, ProviderOutcome.httpStatus, hretryable]
        · rw [hslot]
        · exact hretryable
        · exact hretryable
      · simp only [hretryable]
        refine made_decisive (hanswer.trans houtcome) (by simpa [ProviderOutcome.retries] using hretryable) ?_ ?_ rfl ?_
        · rw [hslot]
          simp [Slot.attempt, ProviderOutcome.retries, ProviderOutcome.status, ProviderOutcome.httpStatus, hretryable]
        · rw [hslot]
          rfl
        · exact fun _ => hretryable

/-- The loop over the targets makes the tries of the plan. -/
theorem attemptTargets_spec {snapshot : Snapshot} {credential : Connection → Except String String}
    {targets : List RouteTarget} (prior : Option RouteTarget) (progress : Progress)
    (hconnected : ∀ target ∈ targets, ∃ connection, snapshot.connections.lookup target.connectionId = some connection)
    (hgoes : progress.GoesOn) :
    Made provider token (slots snapshot credential prior targets) progress
      (attemptTargets mode provider token snapshot credential prior targets progress) := by
  induction targets generalizing prior progress with
  | nil => exact made_nil rfl rfl rfl rfl hgoes
  | cons target rest ih =>
    obtain ⟨connection, hlookup⟩ := hconnected target List.mem_cons_self
    have hrest : ∀ other ∈ rest, ∃ connection, snapshot.connections.lookup other.connectionId = some connection :=
      fun other hmem => hconnected other (List.mem_cons_of_mem _ hmem)
    simp only [attemptTargets, slots, hlookup]
    cases hcredential : credential connection with
    | error message =>
      have hmade := ih (some target) { progress with lastError := some ⟨message, none, .failure, true⟩ } hrest rfl
      exact ⟨hmade.attempts, hmade.effects, hmade.ended,
        fun h => ⟨(hmade.undecided h).1, fun _ => (hmade.undecided h).2 rfl⟩, hmade.decided⟩
    | ok value =>
      have hmade := attemptConnection_spec provider token prior target connection rest.isEmpty (connection.maxRetries + 1)
        progress hgoes
      generalize attemptConnection provider token prior target connection rest.isEmpty (connection.maxRetries + 1) progress =
        result at hmade
      generalize targetSlots prior target connection rest.isEmpty (connection.maxRetries + 1) = plan at hmade
      obtain ⟨ending, after⟩ := result
      by_cases hundecided : Undecided (answer provider) (·.retries) progress.attemptIndex plan
      · -- the next target
        have hexhausted : ending = .exhausted := by
          have hended := hmade.ended
          have hall := (attempted_undecided hundecided).2
          rw [← List.append_nil (attempted _ _ _ plan), ended_append hall] at hended
          exact hended
        have hon : after.GoesOn := (hmade.undecided hundecided).2 hgoes
        have hnone : after.lastError.any (!·.retryable) = false := by
          unfold Progress.GoesOn at hon
          cases hlast : after.lastError with
          | none => rfl
          | some error => simpa [hlast] using hon
        subst hexhausted
        simp only [hnone, Bool.false_eq_true, if_false]
        exact hmade.andThen hundecided (ih (some target) after hrest hon) hgoes
      · -- the tries decided
        refine Made.stop ?_ hundecided _
        cases ending with
        | exhausted =>
          have hstops : ¬after.GoesOn := hmade.decided hundecided rfl
          have hsome : after.lastError.any (!·.retryable) = true := by
            unfold Progress.GoesOn at hstops
            cases hlast : after.lastError with
            | none => simp [hlast] at hstops
            | some error => simpa [hlast] using hstops
          simp only [hsome, if_true]
          exact hmade
        | succeeded target connection => exact hmade
        | cancelled => exact hmade
        | aborted => exact hmade

end Loops

/-! ## The plan -/

section Plan

variable {snapshot : Snapshot} {credential : Connection → Except String String} {targets : List RouteTarget}

theorem targetSlots_last (prior : Option RouteTarget) (target : RouteTarget) (connection : Connection) (last : Bool)
    (remaining : Nat) :
    (targetSlots prior target connection last remaining).Pairwise (fun a _ => a.last = false) ∧
      (last = false → ∀ slot ∈ targetSlots prior target connection last remaining, slot.last = false) ∧
      (0 < remaining →
        (targetSlots prior target connection last remaining).getLast?.any (·.last) = last) := by
  induction remaining with
  | zero => simp [targetSlots]
  | succ remaining ih =>
    obtain ⟨hpairwise, hnone, hmark⟩ := ih
    refine ⟨?_, ?_, fun _ => ?_⟩
    · refine List.pairwise_cons.mpr ⟨fun other hmem => ?_, hpairwise⟩
      have hmore : remaining ≠ 0 := by
        rintro rfl
        simp [targetSlots] at hmem
      simp [hmore]
    · intro hlast slot hmem
      rcases List.mem_cons.mp hmem with rfl | hmem
      · simp [hlast]
      · exact hnone hlast slot hmem
    · cases remaining with
      | zero => simp [targetSlots]
      | succ remaining => exact hmark (by omega)

/-- Only the end of a plan is marked as the last. -/
theorem slots_pairwise (prior : Option RouteTarget) :
    (slots snapshot credential prior targets).Pairwise fun a _ => a.last = false := by
  induction targets generalizing prior with
  | nil => exact List.Pairwise.nil
  | cons target rest ih =>
    unfold slots
    cases snapshot.connections.lookup target.connectionId with
    | none => exact List.Pairwise.nil
    | some connection =>
      obtain ⟨hpairwise, hnone, -⟩ := targetSlots_last prior target connection rest.isEmpty (connection.maxRetries + 1)
      simp only
      cases credential connection with
      | error message => exact ih (some target)
      | ok value =>
        refine List.pairwise_append.mpr ⟨hpairwise, ih (some target), fun slot hslot other hother => ?_⟩
        refine hnone ?_ slot hslot
        cases rest with
        | nil => simp [slots] at hother
        | cons next rest => rfl

/-- The plan ends with a marked slot if and only if the last target is callable. -/
theorem slots_last (prior : Option RouteTarget)
    (hconnected : ∀ target ∈ targets, ∃ connection, snapshot.connections.lookup target.connectionId = some connection) :
    (slots snapshot credential prior targets).getLast?.any (·.last) = true ↔
      ∃ target, targets.getLast? = some target ∧ Callable snapshot credential target := by
  induction targets generalizing prior with
  | nil => simp [slots]
  | cons target rest ih =>
    obtain ⟨connection, hlookup⟩ := hconnected target List.mem_cons_self
    have hrest := ih (some target) fun other hmem => hconnected other (List.mem_cons_of_mem _ hmem)
    obtain ⟨-, hnone, hmark⟩ := targetSlots_last prior target connection rest.isEmpty (connection.maxRetries + 1)
    have hcallable : Callable snapshot credential target ↔ ∃ value, credential connection = .ok value := by
      simp [Callable, hlookup]
    simp only [slots, hlookup]
    cases rest with
    | nil =>
      cases hcredential : credential connection with
      | error message => simp [slots, hcallable, hcredential]
      | ok value =>
        have hend := hmark (by omega)
        simpa [slots, hcallable, hcredential] using hend
    | cons next rest =>
      rw [List.getLast?_cons_cons, ← hrest, List.getLast?_append]
      cases hlater : (slots snapshot credential (some target) (next :: rest)).getLast? with
      | some slot => rfl
      | none =>
        -- nothing is marked before the last target
        cases credential connection with
        | error message => rfl
        | ok value =>
          have hend := hmark (by omega)
          simpa using hend

theorem targetSlots_mem (prior : Option RouteTarget) (target : RouteTarget) (connection : Connection) (last : Bool)
    (remaining : Nat) : ∀ slot ∈ targetSlots prior target connection last remaining,
      slot.target = target ∧ slot.connection = connection ∧ slot.prior = prior := by
  induction remaining with
  | zero => simp [targetSlots]
  | succ remaining ih =>
    intro slot hmem
    rcases List.mem_cons.mp hmem with rfl | hmem
    · exact ⟨rfl, rfl, rfl⟩
    · exact ih slot hmem

/-- A slot is of a target with its connection, after another target of the call. -/
theorem slots_mem (prior : Option RouteTarget) : ∀ slot ∈ slots snapshot credential prior targets,
    slot.target ∈ targets ∧ snapshot.connections.lookup slot.target.connectionId = some slot.connection ∧
      ∀ before ∈ slot.prior, prior = some before ∨ before ∈ targets := by
  induction targets generalizing prior with
  | nil => simp [slots]
  | cons target rest ih =>
    intro slot hmem
    unfold slots at hmem
    cases hlookup : snapshot.connections.lookup target.connectionId with
    | none => simp [hlookup] at hmem
    | some connection =>
      simp only [hlookup] at hmem
      rcases List.mem_append.mp hmem with hblock | hrest
      · cases hcredential : credential connection with
        | error message => simp [hcredential] at hblock
        | ok value =>
          simp only [hcredential] at hblock
          have hslot := targetSlots_mem prior target connection rest.isEmpty (connection.maxRetries + 1) slot hblock
          obtain ⟨htarget, hconnection, hprior⟩ := hslot
          refine ⟨by rw [htarget]; exact List.mem_cons_self, by rw [htarget, hconnection, hlookup], ?_⟩
          rw [hprior]
          exact fun before hbefore => .inl hbefore
      · obtain ⟨htarget, hconnection, hprior⟩ := ih (some target) slot hrest
        refine ⟨List.mem_cons_of_mem _ htarget, hconnection, fun before hbefore => .inr ?_⟩
        rcases hprior before hbefore with hfirst | hlater
        · cases hfirst
          exact List.mem_cons_self
        · exact List.mem_cons_of_mem _ hlater

end Plan

end TokenPilot.Runtime
