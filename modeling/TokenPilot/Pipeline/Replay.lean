/-
  TokenPilot.Pipeline.Replay — a usage event that is committed again.

  After a dead-letter replay, a reconciliation reset or a lost lease the worker commits
  an event it has committed before. The first commit of an event with a reservation
  leaves the reservation settled at the rated amount (`applyUserAiu_settles`), and the
  next one finds it there; the first commit of an event without a reservation leaves a
  `consume` entry, and the next one finds that.

  Main result: `replay_applies_nothing`. The replay goes through and moves the quota by
  its policy step only, as long as the reservation is still settled at the event's
  amount. It is unless another event of the same reservation has been processed
  (`run_settled_kept`). `replay_after_another_attempt` is what happens then: the replay
  takes the reservation back to its own amount once, and the next time its ledger key
  is used up.
-/

import TokenPilot.Pipeline.Writer
import TokenPilot.Quota.Reapplication

namespace TokenPilot.Pipeline

open TokenPilot.Library TokenPilot.Quota

/-- The event is committed again, with the same rated amount, after any run `ops` that keeps
    the ratings (nothing in the program deletes one); `s` is the store as the policy step of the
    second commit leaves it. The commit goes through, and what it does to the quota tables is
    that step and nothing else, if

    - with a reservation: no event was applied to the reservation at another amount since, or
      at least it is settled at the event's amount again;
    - without one: the first commit recorded the consumption, or there is still nothing to
      consume it from (the event is not rated, or the user has no enabled quota). -/
theorem replay_applies_nothing (settings : ReservationSettings) (db₀ db₁ db : Database)
    (context context' : PipelineSettlementContext) (values values' : CommitValues)
    (hdb₀ : Reachable settings db₀.quota) {result : OfficialCommitResult}
    (hfirst : commit db₀ context values = .ok (result, db₁)) (ops : List Op)
    (hdb : db.quota = (system settings).run db₁.quota ops) {registry registry' : UsageEventRegistry}
    (hregistry : db₀.registryOf context.applicationId context.event.eventId = some registry)
    (hregistry' : db.registryOf context'.applicationId context'.event.eventId = some registry')
    {aiu aiu' : AiuRatingArtifact} (haiu : context.aiu = .applicationAiu aiu)
    (haiu' : context'.aiu = .applicationAiu aiu') {cost' : CostRatingArtifact}
    (hcost' : context'.providerCost = .applicationCost cost') {call : AiuCall}
    (hcall : call = usageCall context registry aiu.totalMicros values'.entry)
    (hsame : usageCall context' registry' aiu'.totalMicros values'.entry = call)
    (hmodel : context'.resolution.modelId = none ↔ context.resolution.modelId = none)
    (hratings : ∀ r ∈ db₁.ratings.rows, r ∈ db.ratings.rows) {s : QuotaStore}
    (hpolicy : usagePolicyStep db context' registry'.applicationUserId aiu'.totalMicros values' = .ok s)
    (hkept : match call.reservationId with
      | some id => (∀ op ∈ ops, Leaves id call.settled op) ∨
          ∀ r ∈ s.reservations.rows, r.id = id → r.settledAiuMicros = call.settled
      | none => call.actual = none ∨ db₁.quota.Taken call.applicationId (.usageConsume call.eventId) ∨
          ∀ quota, s.quotaOf call.applicationId call.userId = some quota → quota.enabled = false) :
    ∃ result' ratings quota, commit db context' values' = .ok (result', { db with ratings, quota }) ∧
      ((context.resolution.modelId = none ∧ quota = db.quota) ∨ (context.resolution.modelId ≠ none ∧ quota = s)) := by
  obtain ⟨hsettles, -⟩ := commit_ok hfirst
  have hl₁ : Linked db₁.quota := reachable_linked (hsettles.reachable hdb₀)
  have hl : Linked db.quota := by rw [hdb]; exact run_linked hl₁ ops
  by_cases hnone : context.resolution.modelId = none
  · obtain ⟨result', ratings, h⟩ := commit_of (.inl (hmodel.mpr hnone))
      (.unresolved hcost' haiu' hregistry' (hmodel.mpr hnone))
    exact ⟨result', ratings, db.quota, h, Or.inl ⟨hnone, rfl⟩⟩
  obtain ⟨modelId, hmodel'⟩ := Option.ne_none_iff_exists'.mp fun h => hnone (hmodel.mp h)
  -- the rating of the first commit is still there
  have hrating : (db.ratingOf context'.applicationId context'.event.eventId).isSome = true := by
    obtain ⟨r, hr, ha, he⟩ := commit_rating hfirst hnone
    rw [hcall] at hsame
    exact ratingOf_isSome (hratings r hr) (ha.trans (congrArg AiuCall.applicationId hsame).symm)
      (he.trans (congrArg AiuCall.eventId hsame).symm)
  obtain ⟨cost, hcost⟩ := hsettles.cost
  -- the first commit's own application
  obtain ⟨s₀, c₀, hs₀, happlied₀⟩ : ∃ s₀ c₀, Linked s₀ ∧
      applyUserAiu s₀ (usageCall context registry aiu.totalMicros values.entry) = .ok (c₀, db₁.quota) := by
    obtain ⟨-, c₀, hsettle⟩ := hsettles.usage hcost haiu hregistry hnone
    obtain ⟨s₀, hs₀, happlied₀⟩ := bind_ok hsettle
    exact ⟨s₀, c₀, reachable_linked (usagePolicyStep_reachable hdb₀ hs₀), happlied₀⟩
  obtain ⟨ms, hms, hconf⟩ := usagePolicyStep_moves hl hpolicy
  have happlied : Applied s call := by
    rw [hdb] at hms
    rw [hcall] at hkept ⊢
    -- the two calls differ in the stamp of their entries
    have hkeep := applied_after_run settings hs₀ happlied₀ ops hms hconf hkept
    exact hkeep
  obtain ⟨c, happly⟩ := applyUserAiu_again (hms.linked hl) happlied
  rw [← hsame] at happly
  obtain ⟨result', ratings, h⟩ := commit_of (.inr (.inl hrating))
    (.settled hcost' haiu' hregistry' hmodel' (.inl hrating) (bind_of hpolicy happly))
  exact ⟨result', ratings, s, h, Or.inr ⟨hnone, rfl⟩⟩

open Quota.Sample Sample in
/-- An event committed twice, with another reservation of the user made in between. -/
theorem replay_of_the_only_attempt :
    let db₀ := database ((system service).run .empty opened)
    let db₁ := committed db₀ (rated firstEvent (some 7) 3) (values 40 2000)
    let db := { db₁ with quota := (system service).run db₁.quota [create 8 "call-2" 2 2500] }
    ∃ result ratings, commit db (rated firstEvent (some 7) 3) (values 60 3000) =
      .ok (result, { db with ratings, quota := db.quota }) := by
  intro db₀ db₁ db
  with_unfolding_all
    obtain ⟨result, ratings, quota, h, hquota⟩ := replay_applies_nothing service db₀ db₁ db
      (rated firstEvent (some 7) 3) (rated firstEvent (some 7) 3) (values 40 2000) (values 60 3000) ⟨opened, rfl⟩ rfl
      [create 8 "call-2" 2 2500] rfl rfl rfl rfl rfl rfl rfl rfl
      Iff.rfl (fun r hr => hr) (s := db.quota) rfl (Or.inl (by simp [Leaves, create]))
  rcases hquota with ⟨hnone, -⟩ | ⟨-, rfl⟩
  · cases hnone
  · exact ⟨result, ratings, h⟩

open Quota.Sample Sample in
/-- Replays that move the quota or fail: an attempt replayed after another attempt of its
    reservation takes the quota from 4 back to 3, and the other one, replayed after that,
    finds its ledger key used; a replay on the next day renews the period; and one whose
    user had no quota at first is charged to the quota made since. -/
theorem replay_after_another_attempt :
    let consumed : Database → List Int := fun db => db.quota.quotas.rows.map (·.consumedAiuMicros)
    let db₁ := committed (database ((system service).run .empty opened)) (rated firstEvent (some 7) 3) (values 40 2000)
    let db₂ := committed db₁ (rated secondEvent (some 7) 4) (values 50 2001)
    let db₃ := committed db₂ (rated firstEvent (some 7) 3) (values 60 2002)
    let dayAfter := committed db₁ (rated firstEvent (some 7) 3) (values 60 90000000)
    let early := committed (database ((system service).run .empty [known])) (rated unreservedEvent none 6) (values 40 2000)
    let granted := { early with quota := (system service).run early.quota [saveDaily 10] }
    (consumed db₂ = [4] ∧ consumed db₃ = [3] ∧
      commit db₃ (rated secondEvent (some 7) 4) (values 70 2003) = .error (.database .unique)) ∧
    (consumed db₁ = [3] ∧ consumed dayAfter = [0]) ∧
    (consumed granted = [0] ∧ consumed (committed granted (rated unreservedEvent none 6) (values 60 3000)) = [6]) :=
  ⟨⟨by decide +kernel, by decide +kernel, by with_unfolding_all rfl⟩, by decide +kernel, by decide +kernel⟩

end TokenPilot.Pipeline
