import Leasehold.Proofs.Engine.Lockstep
import Leasehold.Proofs.Engine.Recording

/-!
# What an offer promises

An offer goes the way of the allocation that is recorded, up to the point where the lease is. From
the same state both therefore come to the same address, or fail with the same error, as long as the
review judges a lease by its request and its address (`offer_predicts_commit`). An offer itself
changes no record and announces nothing, whatever the review (`run_offer`).
-/
namespace Leasehold

open Engine (Surroundings)

/-- The surroundings with a review that judges a lease by its request and its address. -/
def Engine.Surroundings.judging (around : Surroundings) (judge : Request → Address → Bool) :
    Surroundings :=
  { around with review := fun request lease _ => judge request lease.address }

namespace Attempt

variable {attempt : Attempt}

/-- The grant of a lease that is recorded is that of its offer, but for the version. -/
theorem grantOf_inMode (offers : attempt.mode = .offer) (target : Target) (kind : GrantKind)
    (current : Option Lease) :
    ∃ version, (attempt.inMode .commit).grantOf target kind current =
      { attempt.grantOf target kind current with
        lease := { (attempt.grantOf target kind current).lease with version }
        committed := true } := by
  refine ⟨recordVersion ((attempt.inMode .commit).clearedRecord current) + 1, ?_⟩
  simp only [grantOf, issued, offers]
  rfl

/-- A review that judges a lease by its request and its address does not care about the mode. -/
theorem isApproved_inMode (around : Surroundings) (judge : Request → Address → Bool)
    (mode : AllocationMode) (target : Target) (current : Option Lease) :
    (attempt.inMode mode).isApproved (around.judging judge) target current =
      attempt.isApproved (around.judging judge) target current := rfl

end Attempt

namespace Engine

/-- How an offer and an allocation that is recorded end when the one foretells the other: both are
granted the same, but for the version and that it is recorded, or both fail with the same error. -/
def Foretells : Except EngineError Grant → Except EngineError Grant → Prop
  | .ok offered, .ok recorded => ∃ version, recorded =
    { offered with lease := { offered.lease with version }, committed := true }
  | .error error, .error error' => error = error'
  | _, _ => False

/-- What an offer and an allocation that is recorded have in common when both are granted an
address. -/
abbrev foretold (offered : Grant) (last : Scene) (recorded : Grant) (last' : Scene) : Prop :=
  Foretells (.ok offered) (.ok recorded) ∧ last'.cursors = last.cursors

/-- An offer that goes the same way as an allocation that is recorded foretells how that ends. -/
theorem foretells_of_together {offered recorded : Except EngineError Grant} {last last' : Scene}
    (together : Together foretold (fun last last' => last'.cursors = last.cursors)
      (offered, last) (recorded, last')) :
    Foretells offered recorded ∧ last'.cursors = last.cursors := by
  obtain ⟨grant, grant', rfl, rfl, common⟩ | ⟨error, rfl, rfl, common⟩ := together.ok_or_error
  · exact common
  · exact ⟨rfl, common⟩

/-- An address that the client may have is offered as it is recorded. -/
theorem together_given {attempt : Attempt} (offers : attempt.mode = .offer)
    (around : Surroundings) (judge : Request → Address → Bool) (scene : Scene) (target : Target)
    (kind : GrantKind) (current : Option Lease) (store store' : Store) :
    Together foretold (fun last last' => last'.cursors = last.cursors)
      (attempt.given (around.judging judge) target kind current,
        ⟨store, scene.locks, scene.cursors⟩)
      ((attempt.inMode .commit).given (around.judging judge) target kind current,
        ⟨store', scene.locks, scene.cursors⟩) := by
  unfold Attempt.given
  rw [Attempt.isApproved_inMode]
  cases attempt.isApproved (around.judging judge) target current with
  | false => exact ⟨rfl, rfl⟩
  | true => exact ⟨Attempt.grantOf_inMode offers target kind current, rfl⟩

/-- An offer and an allocation that is recorded go the same way. -/
theorem lockstep_offer (topology : Topology) (request : Request) (around : Surroundings)
    (judge : Request → Address → Bool) (scene : Scene) :
    Lockstep topology request .offer .commit (around.judging judge) scene scene foretold
      (fun last last' => last'.cursors = last.cursors) where
  cursors := rfl
  stays := rfl
  moves common key number := ⟨common.1, congrArg (·.set key number) common.2⟩
  prefers _ _ := rfl
  suggests _ _ _ := rfl
  fixed _ serves target :=
    together_tryFixed rfl rfl
      (fun kind => together_given serves.now_mode.2 around judge scene target kind _ _ _) rfl
  dynamic _ serves target :=
    together_tryTarget rfl rfl
      (fun kind => together_given serves.now_mode.2 around judge scene target kind _ _ _) rfl

/-- An offer does nothing, whatever it comes to. -/
theorem Chronicle.eq_of_offered {topology : Topology} {request : Request} {now : Instant}
    {start last : Chronicle} {outcome : Except EngineError Grant}
    (ended : concluding (Grants topology request .offer now start) (Leaves .offer now start)
      outcome last) : last = start := by
  cases outcome with
  | ok grant => exact Grants.offered ended rfl
  | error error =>
    obtain same | ⟨_, same⟩ := Setback.eq_or_eq_prepared ended
    · exact same
    · exact same

/-- An offer changes no record, and announces nothing. -/
theorem run_offer (topology : Topology) (request : Request) (limit : Option Nat)
    (around : Surroundings) (state : State) :
    let offered := (state.run around (allocate topology request .offer limit)).2
    offered.store = state.store ∧ offered.announcements = state.announcements := by
  have keeps : (allocate topology request .offer limit).Keeps (Chronicle.observed around.now)
      (concluding (Chronicle.Grants topology request .offer around.now
        ⟨state.store, [], state.announcements⟩)
        (Chronicle.Leaves .offer around.now ⟨state.store, [], state.announcements⟩))
      ⟨state.store, [], state.announcements⟩ := Chronicle.keeps_allocate _
  have idle := Chronicle.eq_of_offered (Chronicle.reached_of_keeps keeps)
  exact ⟨congrArg Chronicle.store idle, congrArg Chronicle.told idle⟩

/-- From the same state, an offer and an allocation that is recorded come to the same: both are
granted the same lease, but for its version, or both fail with the same error, and both move the
same cursors. The offer changes no record and announces nothing. All this holds for every review
that judges a lease by its request and its address. -/
theorem offer_predicts_commit (topology : Topology) (request : Request) (limit : Option Nat)
    (around : Surroundings) (judge : Request → Address → Bool) (state : State) :
    let offer := state.run (around.judging judge) (allocate topology request .offer limit)
    let commit := state.run (around.judging judge) (allocate topology request .commit limit)
    Foretells offer.1 commit.1 ∧ commit.2.cursors = offer.2.cursors ∧
      offer.2.store = state.store ∧ offer.2.announcements = state.announcements := by
  intro offer commit
  have together : Together foretold (fun last last' => last'.cursors = last.cursors)
      (state.scene.run (around.judging judge) (allocate topology request .offer limit))
      (state.scene.run (around.judging judge) (allocate topology request .commit limit)) :=
    (lockstep_offer topology request around judge state.scene).allocate
  rw [State.scene_run (rfl : offer.1 = offer.1), State.scene_run (rfl : commit.1 = commit.1)]
    at together
  have foreseen : Foretells offer.1 commit.1 ∧ commit.2.cursors = offer.2.cursors :=
    foretells_of_together together
  exact ⟨foreseen.1, foreseen.2, run_offer topology request limit (around.judging judge) state⟩

end Engine

end Leasehold
