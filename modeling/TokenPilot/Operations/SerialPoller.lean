/-
  TokenPilot.Operations.SerialPoller — the poll loop of the worker (`serial-poller.ts`).

  A poller sets a timer, the timer begins an iteration, and the iteration sets the next timer
  when it ends, also when it threw. `pause` and `close` clear the timer and wait for the
  iteration that is active when they are called. A step is one turn of the event loop: a call of
  the poller, a timer that fires, or an iteration that ends.

  Neither the callback of a timer nor `resume` looks at `active`, so what keeps iterations apart
  is the caller: `Calm` says that no call sets the loop going again while an iteration runs.
  - `serial_run`: in every calm run one timer is set or one iteration runs while the poller goes,
    none of them is lost or doubled, and no timer is set while it is stopped or paused.
  - `awaited_calm`: callers that wait for every call before the next one are calm.
  - `poller_serial`: so they run serially, and once a `close` has returned no step but a `start`
    sets a timer or begins an iteration (`closed_stays_quiet`).
  - `resume_overlaps`: a `resume` that does not wait for the `pause` runs two iterations at once.
-/

import TokenPilot.Library.Machine

namespace TokenPilot.Operations

open Library

/-! ## The class and the event loop -/

/-- The fields of the class; a timer and an iteration are named by a number. -/
structure SerialPoller where
  timer : Option Nat
  active : Option Nat
  stopped : Bool
  paused : Bool
  deriving DecidableEq, Repr

structure PollLoop where
  poller : SerialPoller
  /-- The timers that are set, and neither cleared nor fired. -/
  pending : List Nat
  /-- The iterations that have begun and not ended. -/
  running : List Nat
  /-- The iterations that calls of `pause` and `close` wait for. -/
  waiting : List Nat
  /-- What `onError` was told. -/
  reported : List String
  next : Nat
  deriving DecidableEq, Repr

inductive PollAction where
  | start
  | pause
  | resume
  | close
  | fire (timer : Nat)
  | settle (iteration : Nat) (error : Option String)
  deriving DecidableEq, Repr

namespace PollLoop

def initial : PollLoop := ⟨⟨none, none, true, false⟩, [], [], [], [], 0⟩

def schedule (s : PollLoop) : PollLoop :=
  if s.poller.stopped || s.poller.paused then s
  else { s with poller.timer := some s.next, pending := s.pending ++ [s.next], next := s.next + 1 }

/-- `clearTimeout`, when a timer is known, and `timer = null`. -/
def clear (s : PollLoop) : PollLoop :=
  { s with poller.timer := none, pending := s.pending.filter fun timer => s.poller.timer ≠ some timer }

/-- `await this.active` -/
def await (s : PollLoop) : PollLoop := { s with waiting := s.waiting ++ s.poller.active.toList }

def start (s : PollLoop) : PollLoop :=
  if !s.poller.stopped then s
  else schedule { s with poller.stopped := false, poller.paused := false }

def pause (s : PollLoop) : PollLoop :=
  if s.poller.stopped || s.poller.paused then s
  else await (clear { s with poller.paused := true })

def resume (s : PollLoop) : PollLoop :=
  if s.poller.stopped || !s.poller.paused then s
  else schedule { s with poller.paused := false }

def close (s : PollLoop) : PollLoop :=
  await (clear { s with poller.stopped := true, poller.paused := true })

/-- The callback of a timer: `active` is the promise of `iterate`, which runs up to its first `await`. -/
def fire (s : PollLoop) (timer : Nat) : PollLoop :=
  { s with poller.timer := none, poller.active := some s.next, pending := s.pending.erase timer,
           running := s.running ++ [s.next], next := s.next + 1 }

/-- The `catch` and the `finally` of `iterate`. -/
def settle (s : PollLoop) (iteration : Nat) (error : Option String) : PollLoop :=
  schedule { s with poller.active := none, running := s.running.erase iteration, reported := s.reported ++ error.toList }

end PollLoop

open PollLoop

inductive NoTurn where
  | noTimer
  | noIteration
  deriving DecidableEq, Repr

def pollExec (s : PollLoop) : PollAction → Except NoTurn (Unit × PollLoop)
  | .start => .ok ((), start s)
  | .pause => .ok ((), pause s)
  | .resume => .ok ((), resume s)
  | .close => .ok ((), close s)
  | .fire timer => if timer ∈ s.pending then .ok ((), fire s timer) else .error .noTimer
  | .settle iteration error => if iteration ∈ s.running then .ok ((), settle s iteration error) else .error .noIteration

def pollMachine : Machine PollLoop PollAction Unit NoTurn := ⟨pollExec⟩

/-! ## One timer or one iteration -/

/-- What is set or runs is what the fields name; there is nothing but an iteration that ends
    while the loop is stopped or paused, and one thing of the two while it goes. -/
structure Serial (s : PollLoop) : Prop where
  pending : s.pending = s.poller.timer.toList
  running : s.running = s.poller.active.toList
  still : s.poller.stopped = true ∨ s.poller.paused = true → s.poller.timer = none
  going : s.poller.stopped = false → s.poller.paused = false → (s.poller.timer.isSome ↔ s.poller.active = none)

/-- The call sets the loop going again. -/
def restarts (s : PollLoop) : PollAction → Bool
  | .start => s.poller.stopped
  | .resume => !s.poller.stopped && s.poller.paused
  | _ => false

/-- No call sets the loop going while an iteration runs. -/
def Calm (s : PollLoop) (action : PollAction) : Prop := restarts s action = true → s.running = []

theorem serial_initial : Serial PollLoop.initial := ⟨rfl, rfl, fun _ => rfl, by simp [PollLoop.initial]⟩

/-- A loop with neither a timer nor an iteration sets its timer, when it may. -/
theorem schedule_serial {s : PollLoop} (hpending : s.pending = []) (hrunning : s.running = [])
    (htimer : s.poller.timer = none) (hactive : s.poller.active = none) : Serial (schedule s) := by
  unfold schedule
  split
  · rename_i hstill
    simp only [Bool.or_eq_true] at hstill
    refine ⟨by rw [hpending, htimer]; rfl, by rw [hrunning, hactive]; rfl, fun _ => htimer, fun hstopped hpaused => ?_⟩
    rw [hstopped, hpaused] at hstill
    simp at hstill
  · rename_i hgoing
    simp only [Bool.or_eq_true, not_or, Bool.not_eq_true] at hgoing
    refine ⟨by simp [hpending], by simp [hrunning, hactive], fun hstill => ?_, fun _ _ => by simp [hactive]⟩
    rw [hgoing.1, hgoing.2] at hstill
    simp at hstill

theorem Serial.clear {s : PollLoop} (hs : Serial s) : (clear s).pending = [] := by
  unfold PollLoop.clear
  simp only [hs.pending, List.filter_eq_nil_iff, Option.mem_toList]
  intro timer htimer
  simp [htimer]

/-- A loop that stops or pauses keeps the iteration that runs. -/
theorem Serial.stop {s : PollLoop} (hs : Serial s) {stopped paused : Bool} (hstill : stopped = true ∨ paused = true) :
    Serial (await (PollLoop.clear { s with poller.stopped := stopped, poller.paused := paused })) := by
  have hpending : (PollLoop.clear { s with poller.stopped := stopped, poller.paused := paused }).pending = [] := hs.clear
  refine ⟨hpending, hs.running, fun _ => rfl, fun hstopped hpaused => ?_⟩
  rcases hstill with h | h
  · exact absurd (h.symm.trans hstopped) (by decide)
  · exact absurd (h.symm.trans hpaused) (by decide)

/-- The fields of a loop that does not go. -/
theorem Serial.idle {s : PollLoop} (hs : Serial s) (hstill : s.poller.stopped = true ∨ s.poller.paused = true)
    (hrunning : s.running = []) : s.pending = [] ∧ s.poller.timer = none ∧ s.poller.active = none := by
  have htimer := hs.still hstill
  refine ⟨by rw [hs.pending, htimer]; rfl, htimer, ?_⟩
  have hactive := hs.running
  rw [hrunning] at hactive
  cases h : s.poller.active with
  | none => rfl
  | some i => simp [h] at hactive

theorem Serial.fired {s : PollLoop} (hs : Serial s) {timer : Nat} (htimer : timer ∈ s.pending) : Serial (fire s timer) := by
  have hset : s.poller.timer = some timer := by
    rw [hs.pending, Option.mem_toList] at htimer
    exact htimer
  -- the loop goes, since a timer is set
  have hgoing : s.poller.stopped = false ∧ s.poller.paused = false := by
    have hstill := fun h => (hs.still h).symm.trans hset
    constructor
    · cases hstopped : s.poller.stopped with
      | false => rfl
      | true => cases hstill (.inl hstopped)
    · cases hpaused : s.poller.paused with
      | false => rfl
      | true => cases hstill (.inr hpaused)
  have hactive : s.poller.active = none := (hs.going hgoing.1 hgoing.2).mp (by rw [hset]; rfl)
  refine ⟨?_, ?_, fun _ => rfl, ?_⟩
  · show s.pending.erase timer = []
    rw [hs.pending, hset]
    simp
  · show s.running ++ [s.next] = [s.next]
    rw [hs.running, hactive]
    rfl
  · intro _ _
    simp [fire]

theorem Serial.settled {s : PollLoop} (hs : Serial s) {iteration : Nat} (hmem : iteration ∈ s.running) (error : Option String) :
    Serial (settle s iteration error) := by
  have hactive : s.poller.active = some iteration := by
    rw [hs.running, Option.mem_toList] at hmem
    exact hmem
  have htimer : s.poller.timer = none := by
    cases hstopped : s.poller.stopped with
    | true => exact hs.still (.inl hstopped)
    | false =>
      cases hpaused : s.poller.paused with
      | true => exact hs.still (.inr hpaused)
      | false =>
        have hiff := hs.going hstopped hpaused
        rw [hactive] at hiff
        simpa using hiff
  apply schedule_serial
  · show s.pending = []
    rw [hs.pending, htimer]
    rfl
  · show s.running.erase iteration = []
    rw [hs.running, hactive]
    simp
  · exact htimer
  · rfl

/-- What one turn keeps. -/
theorem serial_step (s : PollLoop) (action : PollAction) (o : Unit) (s' : PollLoop) (hs : Serial s) (hcalm : Calm s action)
    (h : pollMachine.exec s action = .ok (o, s')) : Serial s' := by
  cases action with
  | start =>
    cases h
    unfold start
    split
    · exact hs
    · rename_i hstopped
      have hstopped : s.poller.stopped = true := by simpa using hstopped
      obtain ⟨hpending, htimer, hactive⟩ := hs.idle (.inl hstopped) (hcalm hstopped)
      exact schedule_serial hpending (hcalm hstopped) htimer hactive
  | pause =>
    cases h
    unfold pause
    split
    · exact hs
    · exact hs.stop (.inr rfl)
  | resume =>
    cases h
    unfold resume
    split
    · exact hs
    · rename_i hgoes
      have hpaused : s.poller.stopped = false ∧ s.poller.paused = true := by simpa using hgoes
      have hrunning := hcalm (by simp [restarts, hpaused])
      obtain ⟨hpending, htimer, hactive⟩ := hs.idle (.inr hpaused.2) hrunning
      exact schedule_serial hpending hrunning htimer hactive
  | close =>
    cases h
    exact hs.stop (.inl rfl)
  | fire timer =>
    simp only [pollMachine, pollExec] at h
    split at h
    · cases h
      exact hs.fired ‹_›
    · cases h
  | settle iteration error =>
    simp only [pollMachine, pollExec] at h
    split at h
    · cases h
      exact hs.settled ‹_› error
    · cases h

theorem serial_run {actions : List PollAction} (hcalm : pollMachine.Guarded Calm PollLoop.initial actions) :
    Serial (pollMachine.run PollLoop.initial actions) :=
  Machine.guarded_invariant serial_step actions _ serial_initial hcalm

/-! ## Callers that wait -/

def PollAction.isCall : PollAction → Bool
  | .fire _ | .settle _ _ => false
  | _ => true

/-- Every call before this one has returned. -/
def Awaited (s : PollLoop) (action : PollAction) : Prop :=
  action.isCall = true → ∀ iteration ∈ s.waiting, iteration ∉ s.running

/-- What runs in a loop that is stopped or paused, a call waits for. -/
def Held (s : PollLoop) : Prop :=
  s.poller.stopped = true ∨ s.poller.paused = true → ∀ iteration ∈ s.running, iteration ∈ s.waiting

theorem held_calm {s : PollLoop} {action : PollAction} (hheld : Held s) (hawaited : Awaited s action) : Calm s action := by
  intro hrestarts
  have hstill : s.poller.stopped = true ∨ s.poller.paused = true := by
    cases action with
    | start => exact .inl hrestarts
    | resume =>
      simp only [restarts, Bool.and_eq_true] at hrestarts
      exact .inr hrestarts.2
    | _ => cases hrestarts
  have hcall : action.isCall = true := by
    cases action <;> first | rfl | cases hrestarts
  exact List.eq_nil_iff_forall_not_mem.mpr fun iteration hmem => hawaited hcall iteration (hheld hstill iteration hmem) hmem

/-- A loop that sets its timer goes. -/
theorem schedule_held {s : PollLoop} (hs : Held s) : Held (schedule s) := by
  unfold schedule
  split
  · exact hs
  · rename_i hgoing
    simp only [Bool.or_eq_true, not_or] at hgoing
    rintro (h | h)
    · exact absurd h hgoing.1
    · exact absurd h hgoing.2

theorem held_step (s : PollLoop) (action : PollAction) (o : Unit) (s' : PollLoop) (hs : Serial s ∧ Held s)
    (hawaited : Awaited s action) (h : pollMachine.exec s action = .ok (o, s')) : Serial s' ∧ Held s' := by
  obtain ⟨hserial, hheld⟩ := hs
  refine ⟨serial_step s action o s' hserial (held_calm hheld hawaited) h, ?_⟩
  -- a call of `pause` or `close` waits for what the loop runs
  have hstop : ∀ stopped paused : Bool,
      Held (await (PollLoop.clear { s with poller.stopped := stopped, poller.paused := paused })) := by
    intro stopped paused _ iteration hmem
    refine List.mem_append_right _ ?_
    have hrunning : iteration ∈ s.running := hmem
    rw [hserial.running] at hrunning
    exact hrunning
  cases action with
  | start =>
    cases h
    unfold start
    split
    · exact hheld
    · exact schedule_held fun hstill => by simp at hstill
  | pause =>
    cases h
    unfold pause
    split
    · exact hheld
    · exact hstop _ _
  | resume =>
    cases h
    unfold resume
    split
    · exact hheld
    · rename_i hgoes
      refine schedule_held fun hstill => ?_
      simp only [Bool.or_eq_true, not_or, Bool.not_eq_true] at hgoes
      simp [hgoes.1] at hstill
  | close =>
    cases h
    exact hstop _ _
  | fire timer =>
    simp only [pollMachine, pollExec] at h
    split at h
    · rename_i htimer
      cases h
      intro hstill
      -- the timers of a loop that does not go are cleared
      have hnone := hserial.still hstill
      rw [hserial.pending, hnone] at htimer
      cases htimer
    · cases h
  | settle iteration error =>
    simp only [pollMachine, pollExec] at h
    split at h
    · cases h
      refine schedule_held fun hstill other hmem => ?_
      exact hheld hstill other (List.mem_of_mem_erase hmem)
    · cases h

theorem awaited_calm {actions : List PollAction} (h : pollMachine.Guarded Awaited PollLoop.initial actions) :
    pollMachine.Guarded Calm PollLoop.initial actions :=
  Machine.guarded_calls held_step (fun _ _ hs hawaited => held_calm hs.2 hawaited) actions _
    ⟨serial_initial, fun _ _ hmem => absurd hmem List.not_mem_nil⟩ h

/-! ## After a `close` -/

/-- Stopped, with nothing left that runs. -/
structure Quiet (s : PollLoop) : Prop where
  stopped : s.poller.stopped = true
  pending : s.pending = []
  running : s.running = []

theorem quiet_step (s : PollLoop) (action : PollAction) (o : Unit) (s' : PollLoop) (hs : Quiet s)
    (hstart : action ≠ .start) (h : pollMachine.exec s action = .ok (o, s')) : Quiet s' := by
  have hcleared : ∀ t : PollLoop, t.pending = [] → (PollLoop.clear t).pending = [] := by
    intro t ht
    simp [PollLoop.clear, ht]
  cases action with
  | start => exact absurd rfl hstart
  | pause =>
    cases h
    simp only [pause, hs.stopped, Bool.true_or, if_true]
    exact hs
  | resume =>
    cases h
    simp only [resume, hs.stopped, Bool.true_or, if_true]
    exact hs
  | close =>
    cases h
    exact ⟨rfl, hcleared _ hs.pending, hs.running⟩
  | fire timer =>
    simp only [pollMachine, pollExec, hs.pending, List.not_mem_nil, if_false] at h
    cases h
  | settle iteration error =>
    simp only [pollMachine, pollExec, hs.running, List.not_mem_nil, if_false] at h
    cases h

theorem closed_stays_quiet {s : PollLoop} (hs : Quiet s) {actions : List PollAction}
    (hstart : pollMachine.Guarded (fun _ action => action ≠ .start) s actions) : Quiet (pollMachine.run s actions) :=
  Machine.guarded_invariant quiet_step actions s hs hstart

/-- A stopped loop is quiet once the iteration that `close` waits for has ended. -/
theorem Serial.quiet {s : PollLoop} (hs : Serial s) (hstopped : s.poller.stopped = true) (hrunning : s.running = []) :
    Quiet s :=
  ⟨hstopped, (hs.idle (.inl hstopped) hrunning).1, hrunning⟩

/-- Callers that wait for their calls: one timer or one iteration at a time, none lost, and nothing
    after a `close` has returned until the next `start`. -/
theorem poller_serial (actions : List PollAction) (hawaited : pollMachine.Guarded Awaited PollLoop.initial actions) :
    Serial (pollMachine.run PollLoop.initial actions) ∧
      ((pollMachine.run PollLoop.initial actions).poller.stopped = true →
        (pollMachine.run PollLoop.initial actions).running = [] → ∀ later : List PollAction,
        pollMachine.Guarded (fun _ action => action ≠ .start) (pollMachine.run PollLoop.initial actions) later →
          Quiet (pollMachine.run PollLoop.initial (actions ++ later))) := by
  have hserial := serial_run (awaited_calm hawaited)
  refine ⟨hserial, fun hstopped hrunning later hlater => ?_⟩
  rw [Machine.run_append]
  exact closed_stays_quiet (hserial.quiet hstopped hrunning) hlater

/-- A `pause` that is awaited, a `resume`, and a `close` while an iteration runs. -/
def pausedRun : List PollAction :=
  [.start, .fire 0, .pause, .settle 1 none, .resume, .fire 2, .close, .settle 3 (some "failed")]

theorem paused_run_serial : Serial (pollMachine.run PollLoop.initial pausedRun) ∧
    Quiet (pollMachine.run PollLoop.initial (pausedRun ++ [.resume, .pause, .close])) := by
  have h := poller_serial pausedRun (by simp [pausedRun, Machine.Guarded, Awaited]; decide)
  exact ⟨h.1, h.2 (by decide) (by decide) _ (by simp [Machine.Guarded])⟩

/-- A `resume` before the awaited iteration has ended: its timer fires, and two iterations run. -/
theorem resume_overlaps :
    (pollMachine.run PollLoop.initial [.start, .fire 0, .pause, .resume, .fire 2]).running = [1, 3] := by decide

end TokenPilot.Operations
