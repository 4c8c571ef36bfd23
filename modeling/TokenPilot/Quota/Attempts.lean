/-
  TokenPilot.Quota.Attempts — requests in flight (`runReservationTransaction` in
  apps/api/src/runtime/user-reservation-transaction.ts; the sweeper has the same loop).

  Any number of requests are in flight. A request is tried at most three times: an
  attempt ends with a conflict (a serialization failure, or a lock version that
  moved), or with what its transaction does to the store at the moment it commits. A
  conflict, and an error that the code marks as one (`P2034`), is tried again; the third
  one, and every other error, ends the request. Each attempt reads its own clock and
  generates its own ids, so a request is one operation for each attempt.

  `server_refines`: whatever the interleaving, the conflicts and the retries, the store
  is one that the committed operations reach one after another.
-/

import TokenPilot.Quota.System

namespace TokenPilot.Quota

open TokenPilot.Library

def Failure.isRetryable : Failure → Bool
  | .retryable _ => true
  | _ => false

/-- The operation of each attempt. -/
abbrev Request := Nat → Op

structure Flight where
  request : Request
  attempt : Nat := 0

structure Server where
  store : QuotaStore
  inFlight : List Flight

inductive Event where
  | submit (request : Request)
  /-- The attempt of a request in flight ends, by a conflict or by its transaction. -/
  | attempt (index : Nat) (conflict : Bool)

/-- `if (!retryable || attempt === 2) throw error`. -/
def Flight.afterConflict (f : Flight) : Option Flight :=
  if f.attempt = 2 then none else some { f with attempt := f.attempt + 1 }

def Server.resolve (sv : Server) (index : Nat) (next : Option Flight) : List Flight :=
  match next with
  | none => sv.inFlight.eraseIdx index
  | some f => sv.inFlight.set index f

def serve (settings : ReservationSettings) (sv : Server) : Event → Server
  | .submit request => { sv with inFlight := sv.inFlight ++ [{ request }] }
  | .attempt index conflict =>
    match sv.inFlight[index]? with
    | none => sv
    | some f =>
      if conflict then { sv with inFlight := sv.resolve index f.afterConflict }
      else
        match exec settings sv.store (f.request f.attempt) with
        | .ok (_, store) => ⟨store, sv.resolve index none⟩
        | .error e => { sv with inFlight := sv.resolve index (if e.isRetryable then f.afterConflict else none) }

def server (settings : ReservationSettings) : Machine Server Event Unit Failure :=
  ⟨fun sv event => .ok ((), serve settings sv event)⟩

def Server.empty : Server := ⟨.empty, []⟩

/-- Requests made one after another, each with one attempt. -/
def serially (ops : List Op) : List Event := ops.flatMap fun op => [.submit fun _ => op, .attempt 0 false]

/-- The operation an event executes on the store, if it does. -/
def Server.executes (sv : Server) : Event → Option Op
  | .submit _ => none
  | .attempt _ true => none
  | .attempt index false => sv.inFlight[index]?.map fun f => f.request f.attempt

/-- An event leaves the store where the operation it executes leaves it. -/
theorem serve_store (settings : ReservationSettings) (sv : Server) (event : Event) :
    (serve settings sv event).store =
      match sv.executes event with
      | none => sv.store
      | some op => (system settings).step sv.store op := by
  cases event with
  | submit request => rfl
  | attempt index conflict =>
    cases hf : sv.inFlight[index]? with
    | none => cases conflict <;> simp [serve, Server.executes, hf]
    | some f =>
      cases conflict with
      | true => simp [serve, Server.executes, hf]
      | false =>
        simp only [serve, Server.executes, hf, Bool.false_eq_true, if_false, Option.map_some]
        cases hx : exec settings sv.store (f.request f.attempt) with
        | ok r => exact ((system settings).step_of_ok hx).symm
        | error e => exact ((system settings).step_of_error hx).symm

theorem server_refines (settings : ReservationSettings) (events : List Event) :
    Reachable settings ((server settings).run .empty events).store := by
  refine Machine.run_invariant (P := fun sv : Server => Reachable settings sv.store) ?_ events Server.empty ⟨[], rfl⟩
  intro sv event u sv' hyp hexec
  obtain ⟨ops, hops⟩ := hyp
  cases hexec
  rw [serve_store]
  split
  · exact ⟨ops, hops⟩
  · rename_i op _
    refine ⟨ops ++ [op], ?_⟩
    rw [Machine.run_append, ← hops]
    rfl

end TokenPilot.Quota
